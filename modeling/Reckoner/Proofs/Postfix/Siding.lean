import Mathlib.Data.List.Chain
import Reckoner.Proofs.Postfix.Conservation
import Reckoner.Proofs.Postfix.Refusal

namespace Reckoner
namespace Yard

/-!
# What waits on the siding

Between two steps of a conversion the siding is in order.  Only opening
parentheses and operators wait there, and along a stretch without a parenthesis
the operators bind the tighter the nearer they are to the top.  As there are
three precedences, no such stretch has more than three operators.

An operator between two operands cannot break the order, since it releases what
binds as tightly as itself before it is stacked.  A negation releases nothing.
It never comes to lie on another negation, but this cannot be seen from the
siding: it holds because a run of signs is read to its end, so that behind a
negation no further sign comes next until an operand has been read.  The
invariant is therefore one of a state together with the tokens that are left
(`Rises`), and it fails in the midst of a run.

It follows that an operator can always be stacked, and that the grouping of
negations to the right never matters (`siding_in_order`).
-/

/-! ## The states between the steps -/

/-- The states between the steps of a conversion, each with the tokens that are
left. -/
inductive Reaches (counter : SignCounter) (tokens : List Token) : Yard -> List Token -> Prop where
  | initial : Reaches counter tokens start tokens
  | step {yard yard' : Yard} {token : Token} {rest rest' : List Token}
      {shorter : rest'.length ≤ rest.length} (before : Reaches counter tokens yard (token :: rest))
      (done : advance counter yard token rest = .ok (yard', ⟨rest', shorter⟩)) :
      Reaches counter tokens yard' rest'

variable {counter : SignCounter} {tokens left : List Token} {yard yard' : Yard}

theorem Reaches.run_eq (reached : Reaches counter tokens yard left) :
    run counter start tokens = run counter yard left := by
  induction reached with
  | initial => rfl
  | step before done inductionHypothesis => rw [inductionHypothesis, run, done]

private theorem Reaches.further (reached : Reaches counter tokens yard left) {last : Yard}
    (done : run counter yard left = .ok last) : Reaches counter tokens last [] := by
  induction yard, left using run.induct counter with
  | case1 yard =>
      rw [run_nil] at done
      cases done
      exact reached
  | case2 yard token rest failure failed =>
      rw [run, failed] at done
      cases done
  | case3 yard token rest yard' rest' shorter taken inductionHypothesis =>
      rw [run, taken] at done
      exact inductionHypothesis (reached.step taken) done

theorem run_eq_ok_iff_reaches {last : Yard} :
    run counter start tokens = .ok last ↔ Reaches counter tokens last [] := by
  constructor
  · exact Reaches.initial.further
  · intro reached
    rw [reached.run_eq, run_nil]

/-- What a step does: a run of signs is taken at once, and any other token
alone. -/
theorem advance_cases {token : Token} {rest rest' : List Token}
    {shorter : rest'.length ≤ rest.length}
    (done : advance counter yard token rest = .ok (yard', ⟨rest', shorter⟩)) :
    (yard.expectsOperand = true ∧ token.isSign = true ∧
      yard.acceptSigns counter (token :: SignRun.front rest) = .ok yard' ∧
      rest' = SignRun.behind rest) ∨
    (Takes token yard yard' ∧ rest' = rest) := by
  rw [advance] at done
  by_cases sign : (yard.expectsOperand && token.isSign) = true
  · rw [if_pos sign] at done
    rw [Bool.and_eq_true] at sign
    cases first : yard.acceptSigns counter (token :: SignRun.front rest) with
    | error failure =>
        rw [first] at done
        cases done
    | ok middle =>
        rw [first] at done
        cases done
        exact .inl ⟨sign.1, sign.2, rfl, rfl⟩
  · rw [if_neg sign] at done
    cases first : yard.accept token with
    | error failure =>
        rw [first] at done
        cases done
    | ok middle =>
        rw [first] at done
        cases done
        exact .inr ⟨accept_eq_ok_iff.mp first, rfl⟩

/-! ## Parentheses -/

theorem Takes.depth {token : Token} (takes : Takes token yard yard') :
    yard'.operators.countP (·.kind = .opening) + [token].countP (·.kind = .closing) =
      yard.operators.countP (·.kind = .opening) + [token].countP (·.kind = .opening) := by
  cases takes with
  | leaf expects leaf => rcases Token.isLeaf_iff.mp leaf with kind | kind <;> simp [kind]
  | opening expects opens => simp [opens]
  | operator behind kind split binds =>
      have closed := countP_opening_of_closed fun top member => (binds top member).kind_ne.1
      simp [split, kind, closed]
  | closing behind closes split opens closed =>
      have none := countP_opening_of_closed closed
      simp [split, closes, opens, none]

theorem depth_of_acceptSigns {signs : List Token}
    (done : yard.acceptSigns counter signs = .ok yard') :
    yard'.operators.countP (·.kind = .opening) = yard.operators.countP (·.kind = .opening) := by
  have taken := acceptSigns_eq_ok_iff.mp done
  split at taken
  · rw [taken.2]
    exact List.countP_cons_of_neg (by decide)
  · rw [taken]

private theorem countP_signs {signs : List Token} (run : ∀ sign ∈ signs, sign.isSign = true)
    {kind : TokenKind} (other : kind.isSign = false) : signs.countP (·.kind = kind) = 0 := by
  rw [List.countP_eq_zero]
  intro sign member
  have signed := run sign member
  rw [Token.isSign] at signed
  rw [decide_eq_true_eq]
  rintro rfl
  rw [signed] at other
  cases other

/-- As many opening parentheses wait as are open among the tokens that have
been read. -/
theorem Reaches.depth (reached : Reaches counter tokens yard left) :
    ∃ read, tokens = read ++ left ∧
      yard.operators.countP (·.kind = .opening) + read.countP (·.kind = .closing) =
        read.countP (·.kind = .opening) := by
  induction reached with
  | initial => exact ⟨[], rfl, rfl⟩
  | @step yard yard' token rest rest' _ before done inductionHypothesis =>
      rcases inductionHypothesis with ⟨read, split, counted⟩
      rcases advance_cases done with ⟨_, sign, first, same⟩ | ⟨takes, same⟩
      · have run : ∀ other ∈ token :: SignRun.front rest, other.isSign = true :=
          List.forall_mem_cons.mpr ⟨sign, SignRun.isSign_of_mem_front⟩
        refine ⟨read ++ token :: SignRun.front rest, ?_, ?_⟩
        · rw [split, same, List.append_assoc, List.cons_append, SignRun.front_append_behind]
        · rw [List.countP_append, List.countP_append, countP_signs run rfl,
            countP_signs run rfl, depth_of_acceptSigns first]
          exact counted
      · refine ⟨read ++ [token], ?_, ?_⟩
        · rw [split, same, List.append_assoc, List.singleton_append]
        · have depth := takes.depth
          rw [List.countP_append, List.countP_append]
          omega

/-! ## Precedences -/

def BindsTighter (upper lower : Token) : Prop :=
  ∃ high low, stackedPrecedence upper = .ok high ∧ stackedPrecedence lower = .ok low ∧ low < high

instance : Trans BindsTighter BindsTighter BindsTighter where
  trans := by
    rintro upper middle lower ⟨high, mid, onUpper, onMiddle, above⟩
      ⟨mid', low, again, onLower, below⟩
    rw [onMiddle] at again
    cases again
    exact ⟨high, low, onUpper, onLower, Nat.lt_trans below above⟩

theorem stackedPrecedence_pos {token : Token} {precedence : Nat}
    (found : stackedPrecedence token = .ok precedence) : 1 ≤ precedence := by
  rw [stackedPrecedence] at found
  cases kind : token.kind with
  | negate =>
      rw [kind] at found
      cases found
      decide
  | binary op =>
      rw [kind] at found
      cases found
      cases op <;> decide
  | number | identifier | opening | closing | endOfInput =>
      rw [kind] at found
      cases found

/-- There are at most as many operators in an order as the precedence of the
uppermost one. -/
private theorem length_le_precedence {top : Token} {below : List Token} {precedence : Nat}
    (rising : (top :: below).IsChain BindsTighter)
    (found : stackedPrecedence top = .ok precedence) : (top :: below).length ≤ precedence := by
  induction below generalizing top precedence with
  | nil => exact stackedPrecedence_pos found
  | cons next below inductionHypothesis =>
      rw [List.isChain_cons_cons] at rising
      rcases rising with ⟨⟨high, low, foundHigh, foundLow, lower⟩, rising⟩
      rw [found] at foundHigh
      cases foundHigh
      exact Nat.lt_of_le_of_lt (inductionHypothesis rising foundLow) lower

/-- What may lie directly above what on the siding. -/
def MayCover (upper lower : Token) : Prop :=
  upper.kind = .opening ∨ lower.kind = .opening ∨ BindsTighter upper lower

/-- A state in front of the tokens that are left, with a siding in order.
Where a run of signs comes next, no negation is on top. -/
structure Rises (yard : Yard) (left : List Token) : Prop where
  waiting : ∀ top ∈ yard.operators, top.kind = .opening ∨ BindsAtLeast 0 top
  rising : yard.operators.IsChain MayCover
  untouched : yard.expectsOperand = true -> (∃ token ∈ left.head?, token.isSign = true) ->
    Clear Operator.negationPrecedence yard.operators

theorem rises_start (tokens : List Token) : Rises start tokens :=
  ⟨by simp [start], .nil, fun _ _ => clear_nil _⟩

private theorem rising_cons {token : Token} {operators : List Token} {precedence : Nat}
    (found : stackedPrecedence token = .ok precedence) (clear : Clear precedence operators)
    (rising : operators.IsChain MayCover) : (token :: operators).IsChain MayCover := by
  refine rising.cons fun top first => ?_
  rcases clear top first with opens | ⟨lower, found', below⟩
  · exact .inr (.inl opens)
  · exact .inr (.inr ⟨precedence, lower, found, found', below⟩)

theorem Rises.takes {token : Token} {rest : List Token} (rises : Rises yard (token :: rest))
    (takes : Takes token yard yard') : Rises yard' rest := by
  rcases rises with ⟨waiting, rising, untouched⟩
  cases takes with
  | leaf expects leaf => exact ⟨waiting, rising, by simp⟩
  | opening expects opens =>
      exact ⟨List.forall_mem_cons.mpr ⟨.inl opens, waiting⟩, rising.cons fun _ _ => .inl opens,
        fun _ _ => clear_opening opens _ _⟩
  | @operator op released left behind kind split binds clear =>
      have found := stackedPrecedence_binary kind
      rw [split] at waiting rising
      refine ⟨List.forall_mem_cons.mpr ⟨.inr ⟨_, found, Nat.zero_le _⟩, ?_⟩,
        rising_cons found clear rising.right_of_append, fun _ _ top first => ?_⟩
      · exact fun top member => waiting top (List.mem_append_right released member)
      · rw [← Option.mem_some.mp first]
        exact .inr ⟨_, found, op.precedence_lt_negationPrecedence⟩
  | @closing above left opening behind closes split opens closed =>
      rw [split] at waiting rising
      refine ⟨fun top member => waiting top ?_, rising.right_of_append.tail, by simp⟩
      exact List.mem_append_right above (List.mem_cons_of_mem opening member)

/-- Behind a run of signs no sign is left that could begin a further one. -/
theorem Rises.acceptSigns {token : Token} {rest rest' signs : List Token}
    (rises : Rises yard (token :: rest)) (expects : yard.expectsOperand = true)
    (sign : token.isSign = true) (done : yard.acceptSigns counter signs = .ok yard')
    (unsigned : ∀ other ∈ rest'.head?, other.isSign = false) : Rises yard' rest' := by
  have ended : ¬ ∃ other ∈ rest'.head?, other.isSign = true := by
    rintro ⟨other, first, signed⟩
    rw [unsigned other first] at signed
    cases signed
  have taken := acceptSigns_eq_ok_iff.mp done
  split at taken
  · rcases taken with ⟨_, rfl⟩
    have clear := rises.untouched expects ⟨token, rfl, sign⟩
    have found : stackedPrecedence (.ofKind .negate) = .ok Operator.negationPrecedence := rfl
    exact ⟨List.forall_mem_cons.mpr ⟨.inr ⟨_, found, Nat.zero_le _⟩, rises.waiting⟩,
      rising_cons found clear rises.rising, fun _ next => absurd next ended⟩
  · rw [taken]
    exact ⟨rises.waiting, rises.rising, fun _ next => absurd next ended⟩

theorem Reaches.rises (reached : Reaches counter tokens yard left) : Rises yard left := by
  induction reached with
  | initial => exact rises_start tokens
  | step before done inductionHypothesis =>
      rcases advance_cases done with ⟨expects, sign, first, same⟩ | ⟨takes, same⟩
      · rw [same]
        exact inductionHypothesis.acceptSigns expects sign first (SignRun.head_behind _)
      · rw [same]
        exact inductionHypothesis.takes takes

/-! ## The order of the siding -/

/-- What waits behind some tokens that have been read: opening parentheses, as
many as are open among the tokens, and operators, of which those between two
parentheses, or above or below all of them, bind the tighter the nearer they
are to the top, so that there are at most three. -/
structure InOrder (read operators : List Token) : Prop where
  waiting : ∀ top ∈ operators, top.kind = .opening ∨ top.isOperator = true
  depth : operators.countP (·.kind = .opening) + read.countP (·.kind = .closing) =
    read.countP (·.kind = .opening)
  rising : ∀ stretch, stretch <:+: operators -> (∀ top ∈ stretch, top.kind ≠ .opening) ->
    stretch.Pairwise BindsTighter ∧ stretch.length ≤ 3

theorem isOperator_of_stackedPrecedence {token : Token} {precedence : Nat}
    (found : stackedPrecedence token = .ok precedence) : token.isOperator = true := by
  rw [stackedPrecedence] at found
  rw [Token.isOperator, Token.isBinary]
  cases kind : token.kind with
  | negate => rfl
  | binary op => rfl
  | number | identifier | opening | closing | endOfInput =>
      rw [kind] at found
      cases found

/-- Along a stretch without a parenthesis the precedences rise towards the
top. -/
theorem Rises.stretch (rises : Rises yard left) {stretch : List Token}
    (within : stretch <:+: yard.operators) (closed : ∀ top ∈ stretch, top.kind ≠ .opening) :
    stretch.Pairwise BindsTighter ∧ stretch.length ≤ 3 := by
  have rising : stretch.IsChain BindsTighter := by
    have covering : stretch.IsChain MayCover := List.IsChain.infix rises.rising within
    refine covering.imp_of_mem_imp fun upper lower above below covers => ?_
    exact (covers.resolve_left (closed upper above)).resolve_left (closed lower below)
  refine ⟨rising.pairwise, ?_⟩
  cases stretch with
  | nil => exact Nat.zero_le 3
  | cons top below =>
      have waits := rises.waiting top (within.subset List.mem_cons_self)
      rcases waits.resolve_left (closed top List.mem_cons_self) with ⟨precedence, found, _⟩
      exact Nat.le_trans (length_le_precedence rising found) (stackedPrecedence_le found)

/-- On a siding with nothing but parentheses and operators any operator can be
stacked. -/
theorem Rises.push_ok (rises : Rises yard left) (token : Token) (precedence : Nat)
    (associativity : Associativity) :
    ∃ yard', yard.push token precedence associativity = .ok yard' := by
  rcases release_ok precedence associativity rises.waiting yard.output with
    ⟨released, below, output', _, _, done⟩
  exact ⟨_, by rw [push, done]⟩

theorem Rises.acceptSigns_ok (rises : Rises yard left) (counter : SignCounter)
    (signs : List Token) : ∃ yard', yard.acceptSigns counter signs = .ok yard' := by
  rw [Yard.acceptSigns]
  split
  · exact rises.push_ok _ _ _
  · exact ⟨yard, rfl⟩

private theorem releaseToOpening_error {operators output : List Token} {failure : Failure}
    (failed : releaseToOpening operators output = .error failure) :
    failure = .mismatchedParenthesis := by
  cases counted : operators.countP (·.kind = .opening) with
  | zero =>
      have closed : ∀ top ∈ operators, top.kind ≠ .opening := by
        simpa using List.countP_eq_zero.mp counted
      rw [releaseToOpening_of_closed closed] at failed
      cases failed
      rfl
  | succ depth =>
      rcases releaseToOpening_of_depth counted output with ⟨below, output', moved, _⟩
      rw [moved] at failed
      cases failed

/-- A token on its own that is refused is not in its place, has no partner, or
is the end of the expression. -/
theorem Rises.accept_error (rises : Rises yard left) {token : Token} {failure : Failure}
    (failed : yard.accept token = .error failure) :
    failure = unexpected token ∨ failure = .mismatchedParenthesis ∨
      token.kind = .endOfInput ∧ failure = unsupported token := by
  rw [accept] at failed
  cases expects : yard.expectsOperand with
  | true =>
      rw [expects] at failed
      cases kind : token.kind with
      | number | identifier | opening =>
          rw [kind] at failed
          cases failed
      | binary | negate | closing =>
          rw [kind] at failed
          cases failed
          exact .inl rfl
      | endOfInput =>
          rw [kind] at failed
          cases failed
          exact .inr (.inr ⟨rfl, rfl⟩)
  | false =>
      rw [expects] at failed
      cases kind : token.kind with
      | binary op =>
          rcases rises.push_ok token op.precedence op.associativity with ⟨yard', pushed⟩
          simp only [kind, pushed] at failed
          cases failed
      | closing =>
          simp only [kind] at failed
          cases moved : releaseToOpening yard.operators yard.output with
          | error failure' =>
              simp only [moved] at failed
              cases failed
              exact .inr (.inl (releaseToOpening_error moved))
          | ok both =>
              simp only [moved] at failed
              cases failed
      | number | identifier | negate | opening =>
          rw [kind] at failed
          cases failed
          exact .inl rfl
      | endOfInput =>
          rw [kind] at failed
          cases failed
          exact .inr (.inr ⟨rfl, rfl⟩)

/-- A step of an ordered siding calls no token unsupported but the end of the
expression. -/
theorem Rises.kind_of_unsupported (rises : Rises yard left) {token : Token} {rest : List Token}
    {stage : Stage} {shown : String}
    (failed : advance counter yard token rest = .error (.unsupportedToken stage shown)) :
    token.kind = .endOfInput := by
  rw [advance] at failed
  split at failed
  · rcases rises.acceptSigns_ok counter (token :: SignRun.front rest) with
      ⟨yard', accepted⟩
    rw [accepted] at failed
    cases failed
  · cases refused : yard.accept token with
    | ok yard' =>
        rw [refused] at failed
        cases failed
    | error failure =>
        rw [refused] at failed
        cases failed
        rcases rises.accept_error refused with same | same | ⟨kind, _⟩
        · cases same
        · cases same
        · exact kind

/-- The siding is in order between any two steps of a conversion that has not
failed, whatever the tokens are.  All that waits there, the parentheses apart,
has a precedence, so that an operator can be stacked, and only an end of the
expression among the tokens is called unsupported.  Where a run of signs comes
next, what is on top does not bind as tightly as a negation, so that it does
not matter to which side negations group. -/
theorem siding_in_order {counter : SignCounter} {tokens left : List Token} {yard : Yard}
    (reached : Reaches counter tokens yard left) :
    (∃ read, tokens = read ++ left ∧ InOrder read yard.operators) ∧
      (∀ top ∈ yard.operators, top.kind ≠ .opening ->
        ∃ precedence, stackedPrecedence top = .ok precedence) ∧
      ∀ token rest, left = token :: rest ->
        (∀ op, token.kind = .binary op ->
          ∃ yard', yard.push token op.precedence op.associativity = .ok yard') ∧
        (∀ stage shown, advance counter yard token rest = .error (.unsupportedToken stage shown) ->
          token.kind = .endOfInput) ∧
        (yard.expectsOperand = true -> token.isSign = true ->
          (∀ top ∈ yard.operators.head?,
            stackedPrecedence top ≠ .ok Operator.negationPrecedence) ∧
          ∀ associativity,
            yard.push (.ofKind .negate) Operator.negationPrecedence associativity =
              .ok ⟨yard.output, .ofKind .negate :: yard.operators, true⟩) := by
  have rises := reached.rises
  refine ⟨?_, fun top member closed => ?_, ?_⟩
  · rcases reached.depth with ⟨read, split, depth⟩
    refine ⟨read, split, fun top member => ?_, depth, fun stretch => rises.stretch⟩
    exact (rises.waiting top member).imp_right
      fun ⟨_, found, _⟩ => isOperator_of_stackedPrecedence found
  · rcases (rises.waiting top member).resolve_left closed with ⟨precedence, found, _⟩
    exact ⟨precedence, found⟩
  · rintro token rest rfl
    refine ⟨fun op _ => rises.push_ok token _ _, fun stage shown => rises.kind_of_unsupported,
      fun expects sign => ?_⟩
    have clear := rises.untouched expects ⟨token, rfl, sign⟩
    constructor
    · intro top first same
      rcases clear top first with opens | ⟨precedence, found, below⟩
      · rw [stackedPrecedence, opens] at same
        cases same
      · rw [found] at same
        cases same
        exact Nat.lt_irrefl _ below
    · intro associativity
      rw [push, release_stops associativity yard.output clear]

/-- In `x+y*-(-z`, in front of the second minus sign, a negation waits below
the parenthesis and two operators below that. -/
theorem siding_in_order_nested :
    let minus : Token := .ofKind (.binary .subtract)
    let read : List Token :=
      [⟨.identifier, "x"⟩, .ofKind (.binary .add), ⟨.identifier, "y"⟩,
        .ofKind (.binary .multiply), minus, .ofKind .opening]
    let yard : Yard :=
      ⟨[⟨.identifier, "y"⟩, ⟨.identifier, "x"⟩],
        [.ofKind .opening, .ofKind .negate, .ofKind (.binary .multiply), .ofKind (.binary .add)],
        true⟩
    let left : List Token := [minus, ⟨.identifier, "z"⟩]
    Reaches .unsigned64 (read ++ left) yard left ∧ InOrder read yard.operators ∧
      yard.push (.ofKind .negate) Operator.negationPrecedence .left =
        yard.push (.ofKind .negate) Operator.negationPrecedence .right := by
  intro minus read yard left
  have reached : Reaches .unsigned64 (read ++ left) yard left :=
    Reaches.initial.step rfl |>.step rfl |>.step rfl |>.step rfl |>.step rfl |>.step rfl
  have order := siding_in_order reached
  have stacked := (order.2.2 minus _ rfl).2.2 rfl rfl
  rcases order.1 with ⟨read', split, inOrder⟩
  have same : read = read' := List.append_cancel_right split
  exact ⟨reached, same ▸ inOrder, (stacked.2 .left).trans (stacked.2 .right).symm⟩

end Yard
end Reckoner
