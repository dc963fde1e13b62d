import Reckoner.Proofs.Postfix.Faults
import Reckoner.Proofs.TextOrder

namespace Reckoner

/-!
# Building a tree and computing on a stack

Tokens in any order, also in none that makes sense, can be given to the stack
that builds trees and to the stack that computes.  The two are compared here.
The first looks at all tokens before anything is evaluated, while the second
asks for the values of names as it goes, so that a name without a value can end
it before a token is reached that the first one refuses.

This is the only difference.  The numbers on the one stack are the values of
the trees on the other (`Postfix.Piles.foldlM_evaluateStep`), and the same
tokens are refused at the same height.  Where no tree can be built, computing
amounts to asking for the names before the fault and failing there
(`Postfix.evaluateIn_of_faulty`).
-/

variable {σ : Type}

/-- A failure as it is reported by a stage of its own.  Only unsupported tokens
are reported with the name of the stage. -/
def Failure.reportedBy (stage : Stage) : Failure -> Failure
  | .unsupportedToken _ shown => .unsupportedToken stage shown
  | failure => failure

namespace Postfix

/-! ## Names of a listing -/

theorem Lists.occurrences_eq {tokens : List Token} {tree : Expression Float}
    (lists : Lists tokens tree) : tree.occurrences = Token.identifiers tokens := by
  have operator {token : Token} (kind : token.kind ≠ .identifier) :
      Token.identifiers [token] = [] :=
    Token.identifiers_cons_of_ne [] kind
  induction lists with
  | number kind _ => exact (operator (by simp [kind])).symm
  | identifier kind => simp [Expression.occurrences, Token.identifiers, kind]
  | negate _ kind inductionHypothesis =>
      rw [Token.identifiers_append, operator (by simp [kind]), List.append_nil]
      exact inductionHypothesis
  | binary _ _ kind onFirst onSecond =>
      rw [Token.identifiers_append, Token.identifiers_append, operator (by simp [kind]),
        List.append_nil, ← onFirst, ← onSecond]
      rfl

/-! ## The stack of values -/

section

variable (arithmetic : Arithmetic Float) (resolver : Resolver σ Float)

/-- The values of the trees on a stack, computed from the bottom to the top. -/
def evaluateStack : List (Expression Float) -> Evaluation σ (List Float)
  | [] => pure []
  | tree :: below => do
      let values ← evaluateStack below
      let value ← tree.evaluateIn arithmetic resolver
      pure (value :: values)

theorem Piles.foldlM_evaluateStep {tokens : List Token} {stack : List (Expression Float)}
    (piles : Piles tokens stack) :
    tokens.foldlM (evaluateStep arithmetic resolver) [] =
      evaluateStack arithmetic resolver stack := by
  induction piles with
  | nil => rfl
  | cons _ top inductionHypothesis =>
      rw [List.foldlM_append, inductionHypothesis, evaluateStack]
      exact bind_congr fun values => Postfix.foldlM_evaluateStep arithmetic resolver top values

theorem Piles.evaluateStack_void {tokens : List Token} {stack : List (Expression Float)}
    (piles : Piles tokens stack) :
    Evaluation.void (evaluateStack arithmetic resolver stack) =
      resolver.askAll (Token.identifiers tokens) := by
  induction piles with
  | nil => exact pure_bind _ _
  | @cons _ _ _ tree _ top inductionHypothesis =>
      rw [Token.identifiers_append, Resolver.askAll_append, ← inductionHypothesis,
        ← top.occurrences_eq, ← tree.evaluateIn_void arithmetic resolver]
      simp only [Evaluation.void, evaluateStack, bind_assoc, pure_bind]

/-- There are as many values as there are trees, so that what follows need only
be known for this number of values. -/
theorem evaluateStack_bind_congr {α : Type} (stack : List (Expression Float))
    {next next' : List Float -> Evaluation σ α}
    (same : ∀ values, values.length = stack.length -> next values = next' values) :
    evaluateStack arithmetic resolver stack >>= next =
      evaluateStack arithmetic resolver stack >>= next' := by
  induction stack generalizing next next' with
  | nil =>
      simp only [evaluateStack, pure_bind]
      exact same [] rfl
  | cons tree below inductionHypothesis =>
      simp only [evaluateStack, bind_assoc, pure_bind]
      apply inductionHypothesis
      intro values length
      refine bind_congr fun value => same (value :: values) ?_
      rw [List.length_cons, length, List.length_cons]

/-! ## Refusals -/

theorem evaluateStep_of_offends {values : List Float} {token : Token} {failure : Failure}
    (offends : Offends .treeConstruction values.length token failure) :
    evaluateStep arithmetic resolver values token =
      throw (failure.reportedBy .stackEvaluation) := by
  cases offends with
  | unreadable kind fails =>
      simp only [evaluateStep, kind, number, fails]
      rfl
  | misplaced kind => rcases kind with kind | kind | kind <;> simp only [evaluateStep, kind] <;> rfl
  | noOperand kind none =>
      have empty : values = [] := List.eq_nil_of_length_eq_zero (by omega)
      simp only [evaluateStep, kind, empty]
      rfl
  | fewOperands kind few =>
      rcases values with _ | ⟨right, _ | ⟨left, below⟩⟩
      · simp only [evaluateStep, kind]
        rfl
      · simp only [evaluateStep, kind]
        rfl
      · simp only [List.length_cons] at few
        omega

/-- Values that are thrown away are only asked for. -/
private theorem evaluateStack_throw {tokens : List Token} {stack : List (Expression Float)}
    (piles : Piles tokens stack) (failure : Failure) :
    (evaluateStack arithmetic resolver stack >>= fun _ => throw failure : Evaluation σ Float) = (do
      resolver.askAll (Token.identifiers tokens)
      throw failure) := by
  rw [← piles.evaluateStack_void arithmetic, Evaluation.void]
  simp only [bind_assoc, pure_bind]

/-- Computing from faulty tokens amounts to asking for the names in front of
the fault, and ends with the failure of the fault if all of them have
values. -/
theorem evaluateIn_of_faulty {tokens front : List Token} {failure : Failure}
    (faulty : Faulty .treeConstruction tokens front failure) :
    evaluateIn arithmetic resolver tokens = (do
      resolver.askAll (Token.identifiers front)
      throw (failure.reportedBy .stackEvaluation)) := by
  rw [evaluateIn]
  cases faulty with
  | @offence _ back token _ regular offends =>
      rcases regular.exists_piles with ⟨stack, piles⟩
      rw [piles.height_eq] at offends
      rw [← evaluateStack_throw arithmetic resolver piles, List.foldlM_append,
        piles.foldlM_evaluateStep, bind_assoc]
      refine evaluateStack_bind_congr arithmetic resolver stack fun values length => ?_
      rw [← length] at offends
      rw [List.foldlM_cons, evaluateStep_of_offends arithmetic resolver offends]
      rfl
  | count regular counted several =>
      rcases regular.exists_piles with ⟨stack, piles⟩
      have height : stack.length = _ := Int.ofNat.inj (piles.height_eq.symm.trans counted)
      rw [← evaluateStack_throw arithmetic resolver piles, piles.foldlM_evaluateStep]
      refine evaluateStack_bind_congr arithmetic resolver stack fun values length => ?_
      rw [height] at length
      rw [← length] at several ⊢
      rcases values with _ | ⟨top, _ | ⟨below, bottom⟩⟩
      · rfl
      · exact absurd rfl several
      · rfl

end

/-! ## Any tokens, any resolver -/

/-- What comes of some tokens on the two stacks.  If they have a tree,
computing makes the lookups that evaluating the tree makes, and ends as this
does.  If they have none, computing takes the course of the names in front of
the fault; it fails with the first name that is refused, or else with the
failure of the fault. -/
inductive ComputesAlike (tokens : List Token) (resolver : Resolver σ Float) (state : σ) : Prop where
  | built {tree : Expression Float} {made : List String} {outcome : Except Failure Float}
      {after : σ} (tree_eq : toExpression tokens = .ok tree)
      (onStack : Makes (fun asked => evaluate asked tokens) resolver state made outcome after)
      (onTree : Makes (fun asked => tree.evaluate asked) resolver state made outcome after)
  | refused {front : List Token} {failure refusal : Failure} {made : List String} {after : σ}
      (failed : toExpression tokens = .error failure)
      (fault : Faulty .treeConstruction tokens front failure)
      (course : resolver.Course state (Token.identifiers front) made (.error refusal) after)
      (onStack : Makes (fun asked => evaluate asked tokens) resolver state made
        (.error refusal) after)
  | faulty {front : List Token} {failure : Failure} {made : List String} {after : σ}
      (failed : toExpression tokens = .error failure)
      (fault : Faulty .treeConstruction tokens front failure)
      (course : resolver.Course state (Token.identifiers front) made (.ok ()) after)
      (onStack : Makes (fun asked => evaluate asked tokens) resolver state made
        (.error (failure.reportedBy .stackEvaluation)) after)

/-- Asking for names and failing then takes the course of the names. -/
private theorem makes_of_faulty {tokens front : List Token} {failure : Failure}
    (faulty : Faulty .treeConstruction tokens front failure) {resolver : Resolver σ Float}
    {state after : σ} {made : List String} {result : Except Failure Unit}
    (course : resolver.Course state (Token.identifiers front) made result after) :
    Makes (fun asked => evaluate asked tokens) resolver state made
      (result.bind fun _ => .error (failure.reportedBy .stackEvaluation)) after := by
  constructor
  · rw [evaluate, evaluateIn_of_faulty _ _ faulty, Evaluation.run_bind, course.run_askAll]
    cases result <;> rfl
  · intro log
    rw [evaluate, evaluateIn_of_faulty _ _ faulty, Evaluation.run_bind,
      (course.recording log).run_askAll]
    cases result <;> rfl

/-- Computing on a stack and building a tree agree on all tokens, with every
resolver in every state. -/
theorem computesAlike (tokens : List Token) (resolver : Resolver σ Float) (state : σ) :
    ComputesAlike tokens resolver state := by
  cases result : toExpression tokens with
  | ok tree =>
      have lists := lists_of_toExpression result
      rcases resolver.exists_course state tree.occurrences with ⟨made, ending, after, course⟩
      rcases Expression.run_evaluateIn_of_course .binary64 course with
        ⟨outcome, _, ends, records⟩
      have onTree : Makes (fun asked => tree.evaluate asked) resolver state made outcome after :=
        ⟨ends, records⟩
      refine .built result ⟨?_, fun log => ?_⟩ onTree
      · rw [evaluate, evaluateIn_of_lists _ _ lists]
        exact ends
      · rw [evaluate, evaluateIn_of_lists _ _ lists]
        exact records log
  | error failure =>
      rcases faulty_of_toExpression result with ⟨front, fault⟩
      rcases resolver.exists_course state (Token.identifiers front) with
        ⟨made, refusal | _, after, course⟩
      · exact .refused result fault course (makes_of_faulty fault course)
      · exact .faulty result fault course (makes_of_faulty fault course)

/-- In `x )` the name is asked for before the parenthesis is refused, if
anybody asks. -/
example :
    toExpression [⟨.identifier, "x"⟩, .ofKind .closing] =
        .error (.unsupportedToken .treeConstruction ")") ∧
      ((evaluate (Resolver.ofFunction fun _ => none) [⟨.identifier, "x"⟩, .ofKind .closing]).run
        ()).1 = .error (.unknownVariable "x") := by
  decide +kernel

end Postfix
end Reckoner
