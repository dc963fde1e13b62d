import Reckoner.Proofs.Grammar.Place

namespace Reckoner

/-!
# Where the yard refuses a token

The state of a conversion knows more than the place it stands at, but what it
refuses depends on the place alone.  `Yard.Stands` relates the two: the state
expects an operand exactly at the places that do, and as many opening
parentheses wait on the siding as are open.  What else waits there has a
precedence, so that operators can always be released.

A token that fits at the place is taken and leads to the next place; at any
other the conversion fails at once (`Yard.advance_of_stands`).  Along all
tokens the conversion therefore stops where a walk stops, with the failure that
belongs to this place (`toPostfix_error_of_walk`).
-/

/-- The failure of a conversion at the end of a walk. -/
def Place.yardFailure (place : Place) : List Token -> Failure
  | [] => if place.expectsOperand then Descent.unexpected [] else .mismatchedParenthesis
  | token :: _ =>
      match token.kind with
      | .closing => if place.expectsOperand then Yard.unexpected token else .mismatchedParenthesis
      | .endOfInput => Yard.unsupported token
      | _ => Yard.unexpected token

/-- Tokens without an end of the expression among them are refused behind an
operand where these end or a parenthesis is closed, and in all other places for
themselves. -/
theorem Place.yardFailure_eq {place : Place} {suspect : List Token}
    (endless : ∀ token ∈ suspect, token.kind ≠ .endOfInput) :
    place.yardFailure suspect =
      if !place.expectsOperand && suspect.head?.all (·.kind = .closing)
        then .mismatchedParenthesis else Descent.unexpected suspect := by
  rcases place with ⟨expectsOperand, depth⟩
  cases suspect with
  | nil => cases expectsOperand <;> rfl
  | cons token rest =>
      rw [yardFailure]
      cases kind : token.kind with
      | endOfInput => exact absurd kind (endless token List.mem_cons_self)
      | closing => cases expectsOperand <;> simp [kind, Yard.unexpected, Descent.unexpected,
          Token.shownFirst]
      | number | identifier | binary | negate | opening =>
          simp [kind, Yard.unexpected, Descent.unexpected, Token.shownFirst]

namespace Yard

/-- A conversion whose state stands at a place. -/
structure Stands (yard : Yard) (place : Place) : Prop where
  expects : yard.expectsOperand = place.expectsOperand
  depth : yard.operators.countP (·.kind = .opening) = place.depth
  waiting : ∀ top ∈ yard.operators, top.kind = .opening ∨ BindsAtLeast 0 top

theorem stands_start : Stands start .start :=
  ⟨rfl, rfl, by simp [start]⟩

/-! ## Releasing operators -/

theorem countP_opening_of_closed {operators : List Token}
    (closed : ∀ top ∈ operators, top.kind ≠ .opening) :
    operators.countP (·.kind = .opening) = 0 := by
  rw [List.countP_eq_zero]
  intro top member
  simpa using closed top member

/-- An operator releases a part of the siding in which no parenthesis is. -/
theorem release_ok (precedence : Nat) (associativity : Associativity) {operators : List Token}
    (waiting : ∀ top ∈ operators, top.kind = .opening ∨ BindsAtLeast 0 top)
    (output : List Token) :
    ∃ released left output', operators = released ++ left ∧
      (∀ top ∈ released, BindsAtLeast 0 top) ∧
      release precedence associativity operators output = .ok (left, output') := by
  induction operators generalizing output with
  | nil => exact ⟨[], [], output, rfl, by simp, rfl⟩
  | cons top below inductionHypothesis =>
      rw [release]
      by_cases opening : top.kind = .opening
      · rw [if_pos opening]
        exact ⟨[], top :: below, output, rfl, by simp, rfl⟩
      · have binds := (waiting top List.mem_cons_self).resolve_left opening
        rcases binds with ⟨other, found, bound⟩
        rw [if_neg opening]
        simp only [found]
        split
        · rcases inductionHypothesis (fun other member => waiting other (.tail _ member))
            (top :: output) with ⟨released, left, output', rfl, all, done⟩
          refine ⟨top :: released, left, output', rfl, ?_, done⟩
          exact List.forall_mem_cons.mpr ⟨⟨other, found, bound⟩, all⟩
        · exact ⟨[], top :: below, output, rfl, by simp, rfl⟩

theorem push_of_stands {yard : Yard} {place : Place} (stands : yard.Stands place) {token : Token}
    (binds : BindsAtLeast 0 token) (precedence : Nat) (associativity : Associativity) :
    ∃ yard', yard.push token precedence associativity = .ok yard' ∧
      yard'.Stands ⟨true, place.depth⟩ := by
  rcases release_ok precedence associativity stands.waiting yard.output with
    ⟨released, left, output', split, all, done⟩
  refine ⟨⟨output', token :: left, true⟩, by rw [push, done], rfl, ?_, ?_⟩
  · have closed : ∀ top ∈ released, top.kind ≠ .opening :=
      fun top member => (all top member).kind_ne.1
    rw [← stands.depth, split, List.countP_append, countP_opening_of_closed closed, Nat.zero_add]
    exact List.countP_cons_of_neg (by simpa using binds.kind_ne.1)
  · refine List.forall_mem_cons.mpr ⟨.inr binds, fun top member => stands.waiting top ?_⟩
    rw [split]
    exact List.mem_append_right _ member

theorem releaseToOpening_of_depth {operators : List Token} {depth : Nat}
    (counted : operators.countP (·.kind = .opening) = depth + 1) (output : List Token) :
    ∃ below output', releaseToOpening operators output = .ok (below, output') ∧
      below.countP (·.kind = .opening) = depth ∧ below ⊆ operators := by
  induction operators generalizing output with
  | nil => cases counted
  | cons top below inductionHypothesis =>
      rw [releaseToOpening]
      by_cases opening : top.kind = .opening
      · rw [if_pos opening]
        rw [List.countP_cons_of_pos (by simpa using opening), Nat.add_right_cancel_iff] at counted
        exact ⟨below, output, rfl, counted, List.subset_cons_self _ _⟩
      · rw [if_neg opening]
        rw [List.countP_cons_of_neg (by simpa using opening)] at counted
        rcases inductionHypothesis counted (top :: output) with
          ⟨rest, output', done, counted', subset⟩
        exact ⟨rest, output', done, counted', List.Subset.trans subset (List.subset_cons_self _ _)⟩

/-! ## One token -/

/-- A token that fits is taken and leads to the next place. -/
theorem accept_of_fits {yard : Yard} {place next : Place} {token : Token}
    (stands : yard.Stands place) (alone : (yard.expectsOperand && token.isSign) = false)
    (fits : place.step? token.kind = some next) :
    ∃ yard', yard.accept token = .ok yard' ∧ yard'.Stands next := by
  rcases yard with ⟨output, operators, expectsOperand⟩
  rcases place with ⟨expects, depth⟩
  have same : expectsOperand = expects := stands.expects
  subst same
  rw [accept]
  cases expectsOperand with
  | true =>
      cases kind : token.kind with
      | number | identifier =>
          rw [kind] at fits
          cases fits
          exact ⟨_, rfl, rfl, stands.depth, stands.waiting⟩
      | opening =>
          rw [kind] at fits
          cases fits
          refine ⟨_, rfl, rfl, ?_, List.forall_mem_cons.mpr ⟨.inl kind, stands.waiting⟩⟩
          rw [List.countP_cons_of_pos (by simpa using kind)]
          exact congrArg (· + 1) stands.depth
      | binary op =>
          -- The operators that fit here are signs, which are not taken one by one.
          have unsigned : (TokenKind.binary op).isSign = false := by
            rw [← kind]
            exact alone
          rw [kind] at fits
          cases op with
          | add | subtract => cases unsigned
          | multiply | divide => cases fits
      | negate =>
          have unsigned : TokenKind.negate.isSign = false := by
            rw [← kind]
            exact alone
          cases unsigned
      | closing | endOfInput =>
          rw [kind] at fits
          cases fits
  | false =>
      cases kind : token.kind with
      | binary op =>
          rw [kind] at fits
          cases fits
          exact push_of_stands stands ⟨_, stackedPrecedence_binary kind, Nat.zero_le _⟩ _ _
      | closing =>
          rw [kind] at fits
          cases depth with
          | zero => cases fits
          | succ depth =>
              cases fits
              rcases releaseToOpening_of_depth stands.depth output with
                ⟨below, output', done, counted, subset⟩
              simp only [done]
              exact ⟨_, rfl, rfl, counted, fun top member => stands.waiting top (subset member)⟩
      | number | identifier | negate | opening | endOfInput =>
          rw [kind] at fits
          cases fits

/-- A token that does not fit is refused, with the failure that belongs to the
place. -/
theorem accept_of_not_fits {yard : Yard} {place : Place} {token : Token}
    (stands : yard.Stands place) (rest : List Token) (refused : place.step? token.kind = none) :
    yard.accept token = .error (place.yardFailure (token :: rest)) := by
  rcases yard with ⟨output, operators, expectsOperand⟩
  rcases place with ⟨expects, depth⟩
  have same : expectsOperand = expects := stands.expects
  subst same
  rw [accept, Place.yardFailure]
  cases expectsOperand with
  | true =>
      cases kind : token.kind with
      | number | identifier | opening =>
          rw [kind] at refused
          cases refused
      | binary | negate | closing | endOfInput => rfl
  | false =>
      cases kind : token.kind with
      | binary op =>
          rw [kind] at refused
          cases refused
      | closing =>
          rw [kind] at refused
          cases depth with
          | succ depth => cases refused
          | zero =>
              have closed : ∀ top ∈ operators, top.kind ≠ .opening := by
                simpa using List.countP_eq_zero.mp stands.depth
              simp only [releaseToOpening_of_closed closed output]
              rfl
      | number | identifier | negate | opening | endOfInput => rfl

theorem acceptSigns_of_stands {yard : Yard} {depth : Nat} (stands : yard.Stands ⟨true, depth⟩)
    (counter : SignCounter) (run : List Token) :
    ∃ yard', yard.acceptSigns counter run = .ok yard' ∧ yard'.Stands ⟨true, depth⟩ := by
  rw [acceptSigns]
  split
  · exact push_of_stands stands ⟨_, stackedPrecedence_negate rfl, Nat.zero_le _⟩ _ _
  · exact ⟨yard, rfl, stands⟩

/-- What a conversion does next is what a walk does: it goes on to a state that
stands where the walk goes on, or it fails where the walk stops. -/
theorem advance_of_stands {yard : Yard} {place : Place} (stands : yard.Stands place)
    (token : Token) (rest : List Token) :
    (∃ yard' rest' next, advance .unbounded yard token rest = .ok (yard', rest') ∧
      yard'.Stands next ∧ place.walk (token :: rest) = next.walk rest'.1) ∨
    (place.step? token.kind = none ∧
      advance .unbounded yard token rest = .error (place.yardFailure (token :: rest))) := by
  rw [advance]
  by_cases sign : (yard.expectsOperand && token.isSign) = true
  · rcases place with ⟨expects, depth⟩
    rw [Bool.and_eq_true] at sign
    have same : expects = true := stands.expects.symm.trans sign.1
    subst same
    rcases acceptSigns_of_stands stands .unbounded (token :: SignRun.front rest) with
      ⟨yard', taken, stands'⟩
    have run : ∀ other ∈ token :: SignRun.front rest, other.isSign = true :=
      List.forall_mem_cons.mpr ⟨sign.2, SignRun.isSign_of_mem_front⟩
    have along := Place.walk_signs run depth (SignRun.behind rest)
    rw [List.cons_append, SignRun.front_append_behind] at along
    rw [if_pos (by simpa using sign), taken]
    exact .inl ⟨yard', _, _, rfl, stands', along⟩
  · rw [if_neg sign]
    cases fits : place.step? token.kind with
    | none =>
        rw [accept_of_not_fits stands rest fits]
        exact .inr ⟨rfl, rfl⟩
    | some next =>
        rcases accept_of_fits stands (by simpa using sign) fits with ⟨yard', taken, stands'⟩
        rw [taken]
        exact .inl ⟨yard', _, next, rfl, stands', Place.walk_step rest fits⟩

/-! ## All tokens -/

/-- At the end of the tokens a conversion fails unless an expression may end
there. -/
theorem finish_of_stands {yard : Yard} {place : Place} (stands : yard.Stands place)
    (unfinished : place ≠ .finished) : yard.finish = .error (place.yardFailure []) := by
  rcases yard with ⟨output, operators, expectsOperand⟩
  rcases place with ⟨expects, depth⟩
  have same : expectsOperand = expects := stands.expects
  subst same
  cases expectsOperand with
  | true => rfl
  | false =>
      have positive : 0 < operators.countP (·.kind = .opening) := by
        rw [stands.depth]
        apply Nat.pos_of_ne_zero
        rintro rfl
        exact unfinished rfl
      rcases List.countP_pos_iff.mp positive with ⟨opening, waiting, opens⟩
      change (releaseAll operators output).map List.reverse = _
      rw [releaseAll_of_waiting waiting (by simpa using opens)]
      rfl

theorem conclude_of_stands {yard : Yard} {place stop : Place} {tokens suspect : List Token}
    (stands : yard.Stands place) (walked : place.walk tokens = (stop, suspect))
    (unfinished : (stop, suspect) ≠ (.finished, [])) :
    conclude yard tokens = .error (stop.yardFailure suspect) := by
  induction yard, tokens using run.induct .unbounded generalizing place with
  | case1 yard =>
      cases walked
      rw [conclude, run_nil]
      exact finish_of_stands stands fun same => unfinished (by rw [same])
  | case2 yard token rest failure failed =>
      rcases advance_of_stands stands token rest with
        ⟨yard', rest', next, taken, _⟩ | ⟨refused, failed'⟩
      · rw [failed] at taken
        cases taken
      · rw [Place.walk_stop (by simpa using refused)] at walked
        cases walked
        rw [conclude, run, failed']
        rfl
  | case3 yard token rest yard' rest' shorter taken inductionHypothesis =>
      rcases advance_of_stands stands token rest with
        ⟨yard'', rest'', next, taken', stands', along⟩ | ⟨_, failed⟩
      · rw [taken] at taken'
        cases taken'
        have concluded := inductionHypothesis stands' (along ▸ walked)
        rw [conclude, run, taken]
        exact concluded
      · rw [taken] at failed
        cases failed

end Yard

/-- A conversion fails where a walk stops. -/
theorem toPostfix_error_of_walk {tokens suspect : List Token} {stop : Place}
    (nonempty : tokens ≠ []) (walked : Place.start.walk tokens = (stop, suspect))
    (unfinished : (stop, suspect) ≠ (.finished, [])) :
    toPostfix tokens = .error (stop.yardFailure suspect) := by
  rw [Yard.toPostfix_eq_conclude nonempty]
  exact Yard.conclude_of_stands Yard.stands_start walked unfinished

end Reckoner
