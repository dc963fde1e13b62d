import Reckoner.Proofs.Grammar.Leaves
import Reckoner.Proofs.Postfix.Yard

namespace Reckoner
namespace Yard

/-!
# The steps of a conversion

A conversion reads a token alone or a run of signs at once.  What such a step
can do, if it goes through, is listed here without the loops that do it: which
state a token needs, which part of the siding it moves to the output, and where
it is put itself.  `accept_eq_ok_iff` and `acceptSigns_eq_ok_iff` hold in both
directions, so that a step can be taken apart and put together again.

An invariant of the yard has to be kept by the four ways in which a token is
taken and by a negation that is stacked.  It then holds at the end of every run
that goes through, by induction on the steps (`Runs`).  The failures of a step
are not treated here.
-/

/-! ## Moving operators -/

/-- Negation binds tightest of all that waits. -/
theorem stackedPrecedence_le {token : Token} {precedence : Nat}
    (found : stackedPrecedence token = .ok precedence) :
    precedence ≤ Operator.negationPrecedence := by
  rw [stackedPrecedence] at found
  cases kind : token.kind with
  | negate =>
      rw [kind] at found
      cases found
      exact Nat.le_refl _
  | binary op =>
      rw [kind] at found
      cases found
      exact Nat.le_of_lt op.precedence_lt_negationPrecedence
  | number | identifier | opening | closing | endOfInput =>
      rw [kind] at found
      cases found

/-- An operator that groups to the left moves what binds at least as tightly as
itself, down to the first one that does not. -/
theorem release_left_eq_ok_iff {level : Nat} {operators output left output' : List Token} :
    release level .left operators output = .ok (left, output') ↔
      ∃ released, operators = released ++ left ∧ output' = released.reverse ++ output ∧
        (∀ top ∈ released, BindsAtLeast level top) ∧ Clear level left := by
  constructor
  · intro done
    induction operators generalizing output with
    | nil =>
        cases done
        exact ⟨[], rfl, rfl, by simp, clear_nil level⟩
    | cons top below inductionHypothesis =>
        rw [release] at done
        by_cases opens : top.kind = .opening
        · rw [if_pos opens] at done
          cases done
          exact ⟨[], rfl, rfl, by simp, clear_opening opens level below⟩
        · rw [if_neg opens] at done
          cases found : stackedPrecedence top with
          | error failure =>
              rw [found] at done
              cases done
          | ok precedence =>
              simp only [found] at done
              by_cases tight : precedence > level ∨ precedence = level
              · rw [if_pos (by simpa using tight)] at done
                rcases inductionHypothesis done with ⟨released, rfl, rfl, binds, clear⟩
                refine ⟨top :: released, rfl, by simp, ?_, clear⟩
                exact List.forall_mem_cons.mpr ⟨⟨precedence, found, by omega⟩, binds⟩
              · rw [if_neg (by simpa using tight)] at done
                cases done
                refine ⟨[], rfl, rfl, by simp, fun other first => .inr ⟨precedence, ?_, by omega⟩⟩
                rw [← Option.mem_some.mp first]
                exact found
  · rintro ⟨released, rfl, rfl, binds, clear⟩
    exact release_pending output binds clear

theorem release_negation_eq_ok_iff {operators output : List Token}
    {moved : List Token × List Token} :
    release Operator.negationPrecedence .right operators output = .ok moved ↔
      Clear Phrase.leaf.level operators ∧ moved = (operators, output) := by
  cases operators with
  | nil => simp [release, clear_nil, eq_comm]
  | cons top below =>
      rw [release]
      by_cases opens : top.kind = .opening
      · simp [opens, clear_opening opens, eq_comm]
      · rw [if_neg opens]
        cases found : stackedPrecedence top with
        | error failure => simp [Clear, opens, found]
        | ok precedence =>
            have bound := stackedPrecedence_le found
            have within : precedence < Phrase.leaf.level := Nat.lt_succ_of_le bound
            simp [Clear, found, within, Nat.not_lt.mpr bound, eq_comm]

theorem releaseToOpening_eq_ok_iff {operators output left output' : List Token} :
    releaseToOpening operators output = .ok (left, output') ↔
      ∃ above opening, operators = above ++ opening :: left ∧ opening.kind = .opening ∧
        (∀ top ∈ above, top.kind ≠ .opening) ∧ output' = above.reverse ++ output := by
  constructor
  · intro done
    induction operators generalizing output with
    | nil => cases done
    | cons top below inductionHypothesis =>
        rw [releaseToOpening] at done
        by_cases opens : top.kind = .opening
        · rw [if_pos opens] at done
          cases done
          exact ⟨[], top, rfl, opens, by simp, rfl⟩
        · rw [if_neg opens] at done
          rcases inductionHypothesis done with ⟨above, opening, rfl, opens', closed, rfl⟩
          exact ⟨top :: above, opening, rfl, opens',
            List.forall_mem_cons.mpr ⟨opens, closed⟩, by simp⟩
  · rintro ⟨above, opening, rfl, opens, closed, rfl⟩
    exact releaseToOpening_above closed opens left output

/-! ## What a token does -/

/-- The ways in which a token outside a run of signs is taken, and the states
they lead to. -/
inductive Takes (token : Token) (yard : Yard) : Yard -> Prop where
  | leaf (expects : yard.expectsOperand = true) (leaf : token.isLeaf = true) :
      Takes token yard ⟨token :: yard.output, yard.operators, false⟩
  | opening (expects : yard.expectsOperand = true) (opens : token.kind = .opening) :
      Takes token yard ⟨yard.output, token :: yard.operators, true⟩
  | operator {op : Operator} {released left : List Token} (behind : yard.expectsOperand = false)
      (kind : token.kind = .binary op) (split : yard.operators = released ++ left)
      (binds : ∀ top ∈ released, BindsAtLeast op.precedence top)
      (clear : Clear op.precedence left) :
      Takes token yard ⟨released.reverse ++ yard.output, token :: left, true⟩
  | closing {above left : List Token} {opening : Token} (behind : yard.expectsOperand = false)
      (closes : token.kind = .closing) (split : yard.operators = above ++ opening :: left)
      (opens : opening.kind = .opening) (closed : ∀ top ∈ above, top.kind ≠ .opening) :
      Takes token yard ⟨above.reverse ++ yard.output, left, false⟩

theorem accept_eq_ok_iff {yard yard' : Yard} {token : Token} :
    yard.accept token = .ok yard' ↔ Takes token yard yard' := by
  rcases yard with ⟨output, operators, expectsOperand⟩
  constructor
  · intro done
    rw [accept] at done
    cases expectsOperand with
    | true =>
        cases kind : token.kind with
        | number | identifier =>
            rw [kind] at done
            cases done
            exact .leaf rfl (by simp [Token.isLeaf, kind])
        | opening =>
            rw [kind] at done
            cases done
            exact .opening rfl kind
        | binary | negate | closing | endOfInput =>
            rw [kind] at done
            cases done
    | false =>
        cases kind : token.kind with
        | binary op =>
            simp only [kind, push, Operator.associativity] at done
            rcases moved : release op.precedence .left operators output with
              failure | ⟨left, output'⟩
            · rw [moved] at done
              cases done
            · rw [moved] at done
              cases done
              rcases release_left_eq_ok_iff.mp moved with ⟨released, split, rfl, binds, clear⟩
              exact .operator rfl kind split binds clear
        | closing =>
            simp only [kind] at done
            rcases moved : releaseToOpening operators output with failure | ⟨left, output'⟩
            · rw [moved] at done
              cases done
            · rw [moved] at done
              cases done
              rcases releaseToOpening_eq_ok_iff.mp moved with
                ⟨above, opening, split, opens, closed, rfl⟩
              exact .closing rfl kind split opens closed
        | number | identifier | negate | opening | endOfInput =>
            rw [kind] at done
            cases done
  · intro takes
    rw [accept]
    cases takes with
    | leaf expects leaf =>
        cases expects
        rcases Token.isLeaf_iff.mp leaf with kind | kind <;> simp [kind]
    | opening expects opens =>
        cases expects
        simp [opens]
    | @operator op released left behind kind split binds clear =>
        cases behind
        have moved : release op.precedence .left operators output =
            .ok (left, released.reverse ++ output) :=
          release_left_eq_ok_iff.mpr ⟨released, split, rfl, binds, clear⟩
        simp [kind, push, Operator.associativity, moved]
    | @closing above left opening behind closes split opens closed =>
        cases behind
        have moved : releaseToOpening operators output = .ok (left, above.reverse ++ output) :=
          releaseToOpening_eq_ok_iff.mpr ⟨above, opening, split, opens, closed, rfl⟩
        simp [closes, moved]

theorem Takes.expectsOperand_eq {token : Token} {yard yard' : Yard}
    (takes : Takes token yard yard') : yard'.expectsOperand = !token.kind.endsOperand := by
  cases takes with
  | leaf expects leaf =>
      rcases Token.isLeaf_iff.mp leaf with kind | kind <;> simp [kind, TokenKind.endsOperand]
  | opening expects opens => simp [opens, TokenKind.endsOperand]
  | operator behind kind => simp [kind, TokenKind.endsOperand]
  | closing behind closes => simp [closes, TokenKind.endsOperand]

/-! ## What a run of signs does -/

/-- A run of signs that negates is stacked as one negation, on top of anything
but a token that cannot wait. -/
theorem acceptSigns_eq_ok_iff {counter : SignCounter} {yard yard' : Yard} {signs : List Token} :
    yard.acceptSigns counter signs = .ok yard' ↔
      if SignRun.negates counter signs then
        Clear Phrase.leaf.level yard.operators ∧
          yard' = ⟨yard.output, .ofKind .negate :: yard.operators, true⟩
      else yard' = yard := by
  rw [acceptSigns]
  by_cases negates : SignRun.negates counter signs = true
  · rw [if_pos negates, if_pos negates, push, Operator.negationAssociativity]
    rcases moved : release Operator.negationPrecedence .right yard.operators yard.output with
      failure | both
    · have refused : ¬ Clear Phrase.leaf.level yard.operators := by
        intro clear
        rw [release_negation_eq_ok_iff.mpr ⟨clear, rfl⟩] at moved
        cases moved
      simp [refused]
    · rcases release_negation_eq_ok_iff.mp moved with ⟨clear, rfl⟩
      simp [clear, eq_comm]
  · rw [if_neg negates, if_neg negates]
    simp [eq_comm]

theorem expectsOperand_of_acceptSigns {counter : SignCounter} {yard yard' : Yard}
    {signs : List Token} (expects : yard.expectsOperand = true)
    (done : yard.acceptSigns counter signs = .ok yard') : yard'.expectsOperand = true := by
  have taken := acceptSigns_eq_ok_iff.mp done
  split at taken
  · rw [taken.2]
  · rw [taken, expects]

/-! ## Runs that go through -/

/-- The steps of a run that goes through: where an operand is expected, the
signs in front of it are taken at once, and all other tokens are taken one by
one. -/
inductive Runs (counter : SignCounter) : Yard -> List Token -> Yard -> Prop where
  | nil {yard : Yard} : Runs counter yard [] yard
  | signs {yard middle last : Yard} {signs rest : List Token} (expects : yard.expectsOperand = true)
      (run : ∀ sign ∈ signs, sign.isSign = true)
      (unsigned : ∀ token ∈ rest.head?, token.isSign = false)
      (first : yard.acceptSigns counter signs = .ok middle)
      (further : Runs counter middle rest last) : Runs counter yard (signs ++ rest) last
  | token {yard middle last : Yard} {token : Token} {rest : List Token}
      (alone : (yard.expectsOperand && token.isSign) = false) (first : Takes token yard middle)
      (further : Runs counter middle rest last) : Runs counter yard (token :: rest) last

theorem runs_of_run {counter : SignCounter} {yard last : Yard} {tokens : List Token}
    (done : run counter yard tokens = .ok last) : Runs counter yard tokens last := by
  induction tokens using SignRun.induction generalizing yard with
  | nil =>
      rw [run_nil] at done
      cases done
      exact .nil
  | cons token rest onRest onBehind =>
      rw [run_cons] at done
      cases alone : yard.expectsOperand && token.isSign with
      | true =>
          rw [if_pos alone] at done
          rw [Bool.and_eq_true] at alone
          have whole : token :: rest = (token :: SignRun.front rest) ++ SignRun.behind rest := by
            rw [List.cons_append, SignRun.front_append_behind]
          rcases first : yard.acceptSigns counter (token :: SignRun.front rest) with
            failure | middle
          · rw [first] at done
            cases done
          · rw [first] at done
            rw [whole]
            exact .signs alone.1
              (List.forall_mem_cons.mpr ⟨alone.2, SignRun.isSign_of_mem_front⟩)
              (SignRun.head_behind rest) first (onBehind done)
      | false =>
          rw [if_neg (by simp [alone])] at done
          rcases first : yard.accept token with failure | middle
          · rw [first] at done
            cases done
          · rw [first] at done
            exact .token alone (accept_eq_ok_iff.mp first) (onRest done)

/-! ## Where the tokens come from -/

def held (yard : Yard) : List Token :=
  yard.output ++ yard.operators

/-- A token that is taken is the only one that can be new. -/
theorem Takes.mem_held {token other : Token} {yard yard' : Yard} (takes : Takes token yard yard')
    (member : other ∈ yard'.held) : other = token ∨ other ∈ yard.held := by
  rw [held, List.mem_append] at member ⊢
  cases takes with
  | leaf | opening =>
      simp only [List.mem_cons] at member
      tauto
  | operator behind kind split =>
      rw [split]
      simp only [List.mem_append, List.mem_reverse, List.mem_cons] at member ⊢
      tauto
  | closing behind closes split =>
      rw [split]
      simp only [List.mem_append, List.mem_reverse, List.mem_cons] at member ⊢
      tauto

theorem mem_held_of_acceptSigns {counter : SignCounter} {yard yard' : Yard} {signs : List Token}
    (done : yard.acceptSigns counter signs = .ok yard') {token : Token}
    (member : token ∈ yard'.held) : token = .ofKind .negate ∨ token ∈ yard.held := by
  have taken := acceptSigns_eq_ok_iff.mp done
  split at taken
  · rw [taken.2, held, List.mem_append, List.mem_cons] at member
    rw [held, List.mem_append]
    tauto
  · rw [taken] at member
    exact .inr member

/-- What is held behind some tokens has been held before, is among the tokens
or is a negation. -/
theorem Runs.mem_held {counter : SignCounter} {yard last : Yard} {tokens : List Token}
    (runs : Runs counter yard tokens last) {token : Token} (member : token ∈ last.held) :
    token ∈ yard.held ∨ token ∈ tokens ∨ token = .ofKind .negate := by
  induction runs with
  | nil => exact .inl member
  | signs expects run unsigned first _ inductionHypothesis =>
      rcases inductionHypothesis member with before | among | negation
      · rcases mem_held_of_acceptSigns first before with negation | before
        · exact .inr (.inr negation)
        · exact .inl before
      · exact .inr (.inl (List.mem_append_right _ among))
      · exact .inr (.inr negation)
  | token alone first _ inductionHypothesis =>
      rcases inductionHypothesis member with before | among | negation
      · rcases first.mem_held before with rfl | before
        · exact .inr (.inl List.mem_cons_self)
        · exact .inl before
      · exact .inr (.inl (List.mem_cons_of_mem _ among))
      · exact .inr (.inr negation)

end Yard
end Reckoner
