import Reckoner.Expression.Value

namespace Reckoner

/-!
# The lookups of an evaluation

Whether an evaluation succeeds, with which failure it ends and in which state
it leaves the resolver depends on the names of the tree alone, in the order in
which they occur.  Arithmetic has no part in it.  `Expression.evaluateIn_void`
says so as an equation between computations: an evaluation whose value is
thrown away is the bare sequence of its lookups.
-/

variable {σ ν : Type}

namespace Evaluation

theorem run_ofResult {α : Type} (result : Except Failure α) (state : σ) :
    (ofResult result).run state = (result, state) :=
  rfl

theorem run_bind {α β : Type} (first : Evaluation σ α) (next : α -> Evaluation σ β)
    (state : σ) :
    (first >>= next).run state =
      match first.run state with
      | (.ok value, after) => (next value).run after
      | (.error failure, after) => (.error failure, after) := by
  change (ExceptT.bindCont next (first.run state).1).run (first.run state).2 = _
  rcases first.run state with ⟨failure | value, after⟩ <;> rfl

/-- The end of a computation without its value. -/
def void {α : Type} (computation : Evaluation σ α) : Evaluation σ Unit := do
  let _ ← computation
  pure ()

theorem run_void {α : Type} (computation : Evaluation σ α) (state : σ) :
    (void computation).run state =
      match computation.run state with
      | (.ok _, after) => (.ok (), after)
      | (.error failure, after) => (.error failure, after) := by
  rw [void, run_bind]
  rcases computation.run state with ⟨failure | value, after⟩ <;> rfl

/-- Computations that differ in their values only fail alike. -/
theorem run_error_of_void {α β : Type} {first : Evaluation σ α} {second : Evaluation σ β}
    (same : void first = void second) {state after : σ} {failure : Failure}
    (failed : first.run state = (.error failure, after)) :
    second.run state = (.error failure, after) := by
  have runs := congrArg (fun computation => computation.run state) same
  simp only [run_void, failed] at runs
  rcases result : second.run state with ⟨failure' | value, after'⟩
  · rw [result] at runs
    cases runs
    rfl
  · rw [result] at runs
    cases runs

theorem run_ok_of_void {α β : Type} {first : Evaluation σ α} {second : Evaluation σ β}
    (same : void first = void second) {state after : σ} {value : α}
    (found : first.run state = (.ok value, after)) :
    ∃ other, second.run state = (.ok other, after) := by
  have runs := congrArg (fun computation => computation.run state) same
  simp only [run_void, found] at runs
  rcases result : second.run state with ⟨failure' | other, after'⟩
  · rw [result] at runs
    cases runs
  · rw [result] at runs
    cases runs
    exact ⟨other, rfl⟩

end Evaluation

/-- Asks for some names in order, until one has no value. -/
def Resolver.askAll (resolver : Resolver σ ν) : List String -> Evaluation σ Unit
  | [] => pure ()
  | name :: rest => do
      let _ ← resolver name
      askAll resolver rest

theorem Resolver.askAll_append (resolver : Resolver σ ν) (names further : List String) :
    resolver.askAll (names ++ further) = (do
      resolver.askAll names
      resolver.askAll further) := by
  induction names with
  | nil => exact (pure_bind _ _).symm
  | cons name rest inductionHypothesis =>
      simp only [List.cons_append, askAll, inductionHypothesis, bind_assoc]

/-- A failure in asking for names is the answer to one of them. -/
theorem Resolver.answer_of_askAll {resolver : Resolver σ ν} {names : List String}
    {state after : σ} {failure : Failure}
    (failed : (resolver.askAll names).run state = (.error failure, after)) :
    ∃ name ∈ names, ∃ before, (resolver name).run before = (.error failure, after) := by
  induction names generalizing state with
  | nil => cases failed
  | cons name rest inductionHypothesis =>
      rw [askAll, Evaluation.run_bind] at failed
      rcases answer : (resolver name).run state with ⟨refusal | value, next⟩
      · rw [answer] at failed
        cases failed
        exact ⟨name, List.mem_cons_self, state, answer⟩
      · rw [answer] at failed
        rcases inductionHypothesis failed with ⟨other, member, before, answer'⟩
        exact ⟨other, List.mem_cons_of_mem name member, before, answer'⟩

namespace Expression

theorem evaluateIn_void (arithmetic : Arithmetic ν) (resolver : Resolver σ ν)
    (tree : Expression ν) :
    Evaluation.void (tree.evaluateIn arithmetic resolver) =
      resolver.askAll tree.occurrences := by
  induction tree with
  | number value => exact pure_bind _ _
  | identifier name => rfl
  | negate operand inductionHypothesis =>
      rw [occurrences, ← inductionHypothesis]
      simp only [Evaluation.void, evaluateIn, bind_assoc, pure_bind]
  | binary op left right onLeft onRight =>
      rw [occurrences, Resolver.askAll_append, ← onLeft, ← onRight]
      simp only [Evaluation.void, evaluateIn, bind_assoc, pure_bind]

theorem answer_of_evaluateIn {arithmetic : Arithmetic ν} {resolver : Resolver σ ν}
    {tree : Expression ν} {state after : σ} {failure : Failure}
    (failed : (tree.evaluateIn arithmetic resolver).run state = (.error failure, after)) :
    ∃ name ∈ tree.occurrences, ∃ before,
      (resolver name).run before = (.error failure, after) := by
  have asked : (resolver.askAll tree.occurrences).run state = (.error failure, after) := by
    rw [← tree.evaluateIn_void arithmetic resolver, Evaluation.run_void, failed]
  exact Resolver.answer_of_askAll asked

end Expression
end Reckoner
