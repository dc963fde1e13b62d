import Reckoner.Proofs.Expression.Lookups

namespace Reckoner

/-!
# The course of lookups

Names are asked for in order until one of them has no value.  `Resolver.Course`
spells out how this goes: which of the names are asked for, how it ends, and in
which state the resolver is left.  The resolver may answer by its state, so
that the same name can have different answers in one course.

That nothing else is asked for is seen by recording the lookups.  Resolvers
that answer alike have evaluations that end alike
(`Expression.alike_evaluateIn`), so that recording does not change a result,
and what has been recorded in the end is the course of the names as they occur
in the tree (`Expression.run_evaluateIn_of_course`).
-/

variable {σ ν : Type}

namespace Resolver

/-- Asking for some names in order from a state on: the names that are asked
for, the end, and the state that is left.  Behind the first name without a
value nothing is asked for. -/
inductive Course (resolver : Resolver σ ν) :
    σ -> List String -> List String -> Except Failure Unit -> σ -> Prop where
  | finished (state : σ) : Course resolver state [] [] (.ok ()) state
  | answered {state next after : σ} {name : String} {value : ν} {rest made : List String}
      {result : Except Failure Unit} (answer : (resolver name).run state = (.ok value, next))
      (further : Course resolver next rest made result after) :
      Course resolver state (name :: rest) (name :: made) result after
  | refused {state after : σ} {name : String} {failure : Failure} (rest : List String)
      (answer : (resolver name).run state = (.error failure, after)) :
      Course resolver state (name :: rest) [name] (.error failure) after

variable {resolver : Resolver σ ν}

theorem exists_course (resolver : Resolver σ ν) (state : σ) (names : List String) :
    ∃ made result after, resolver.Course state names made result after := by
  induction names generalizing state with
  | nil => exact ⟨[], .ok (), state, .finished state⟩
  | cons name rest inductionHypothesis =>
      rcases answer : (resolver name).run state with ⟨failure | value, next⟩
      · exact ⟨[name], .error failure, next, .refused rest answer⟩
      · rcases inductionHypothesis next with ⟨made, result, after, further⟩
        exact ⟨name :: made, result, after, .answered answer further⟩

section

variable {state after : σ} {names made : List String} {result : Except Failure Unit}

/-- What is asked for are the first of the names. -/
theorem Course.isPrefix (course : resolver.Course state names made result after) :
    made <+: names := by
  induction course with
  | finished => exact List.prefix_refl []
  | answered _ _ inductionHypothesis => exact (List.prefix_cons_inj _).mpr inductionHypothesis
  | refused rest _ => exact (List.prefix_cons_inj _).mpr List.nil_prefix

/-- All of the names are asked for if none is refused. -/
theorem Course.made_eq (course : resolver.Course state names made result after)
    (complete : result = .ok ()) : made = names := by
  induction course with
  | finished => rfl
  | answered _ _ inductionHypothesis => rw [inductionHypothesis complete]
  | refused => cases complete

theorem Course.run_askAll (course : resolver.Course state names made result after) :
    (resolver.askAll names).run state = (result, after) := by
  induction course with
  | finished => rfl
  | answered answer _ inductionHypothesis =>
      rw [askAll, Evaluation.run_bind, answer]
      exact inductionHypothesis
  | refused rest answer => rw [askAll, Evaluation.run_bind, answer]

/-- A recorded course is the same, and is recorded behind what was recorded
before. -/
theorem Course.recording (course : resolver.Course state names made result after)
    (log : List String) :
    resolver.recording.Course (state, log) names made result (after, log ++ made) := by
  have recorded (name : String) (before : σ) (log : List String) :
      (resolver.recording name).run (before, log) =
        (((resolver name).run before).1, (((resolver name).run before).2, log ++ [name])) := rfl
  induction course generalizing log with
  | finished state =>
      rw [List.append_nil]
      exact .finished (state, log)
  | @answered _ _ _ name _ _ made _ answer _ inductionHypothesis =>
      rw [List.append_cons log name made]
      exact .answered (by rw [recorded, answer]) (inductionHypothesis (log ++ [name]))
  | refused rest answer => exact .refused rest (by rw [recorded, answer])

end

end Resolver

/-! ## Evaluations that end alike -/

namespace Evaluation

variable {τ α β : Type}

/-- Computations that have the same end from related states on, and leave
related states. -/
def Alike (related : σ -> τ -> Prop) (first : Evaluation σ α) (second : Evaluation τ α) : Prop :=
  ∀ state other, related state other ->
    (first.run state).1 = (second.run other).1 ∧ related (first.run state).2 (second.run other).2

theorem Alike.bind {related : σ -> τ -> Prop} {first : Evaluation σ α} {second : Evaluation τ α}
    {next : α -> Evaluation σ β} {next' : α -> Evaluation τ β} (alike : Alike related first second)
    (further : ∀ value, Alike related (next value) (next' value)) :
    Alike related (first >>= next) (second >>= next') := by
  intro state other begun
  have ends := alike state other begun
  rw [run_bind, run_bind]
  revert ends
  rcases first.run state with ⟨failure | value, after⟩ <;>
    rcases second.run other with ⟨failure' | value', after'⟩ <;>
    rintro ⟨result, left⟩ <;> cases result
  · exact ⟨rfl, left⟩
  · exact further value after after' left

/-- The end of a computation without its value, in terms of the whole end. -/
theorem run_void_eq (computation : Evaluation σ α) (state : σ) :
    (void computation).run state =
      ((computation.run state).1.map fun _ => (), (computation.run state).2) := by
  rw [run_void]
  rcases computation.run state with ⟨failure | value, after⟩ <;> rfl

end Evaluation

namespace Expression

variable {τ : Type} {resolver : Resolver σ ν}

/-- A tree has the same value with resolvers that answer alike where its names
are concerned. -/
theorem alike_evaluateIn (arithmetic : Arithmetic ν) {other : Resolver τ ν}
    {related : σ -> τ -> Prop} (tree : Expression ν)
    (agree : ∀ name ∈ tree.occurrences, Evaluation.Alike related (resolver name) (other name)) :
    Evaluation.Alike related (tree.evaluateIn arithmetic resolver)
      (tree.evaluateIn arithmetic other) := by
  have done (value : ν) :
      Evaluation.Alike related (pure value) (pure value) := fun _ _ begun => ⟨rfl, begun⟩
  induction tree with
  | number value => exact done value
  | identifier name => exact agree name (List.mem_singleton_self name)
  | negate operand inductionHypothesis =>
      exact (inductionHypothesis agree).bind fun _ => done _
  | binary op left right onLeft onRight =>
      have ofLeft := onLeft fun name member => agree name (List.mem_append_left _ member)
      have ofRight := onRight fun name member => agree name (List.mem_append_right _ member)
      exact ofLeft.bind fun _ => ofRight.bind fun _ => done _

/-- Recording the lookups of an evaluation does not change it. -/
theorem alike_recording (arithmetic : Arithmetic ν) (resolver : Resolver σ ν)
    (tree : Expression ν) :
    Evaluation.Alike (fun state recorded => recorded.1 = state)
      (tree.evaluateIn arithmetic resolver) (tree.evaluateIn arithmetic resolver.recording) := by
  refine tree.alike_evaluateIn arithmetic fun name _ state recorded begun => ?_
  cases begun
  exact ⟨rfl, rfl⟩

/-- An evaluation takes the course of the names as they occur: it ends as the
course ends, and the names asked for are those of the course and no others. -/
theorem run_evaluateIn_of_course (arithmetic : Arithmetic ν) {tree : Expression ν}
    {state after : σ} {made : List String} {result : Except Failure Unit}
    (course : resolver.Course state tree.occurrences made result after) :
    ∃ outcome, outcome.map (fun _ => ()) = result ∧
      (tree.evaluateIn arithmetic resolver).run state = (outcome, after) ∧
      ∀ log, (tree.evaluateIn arithmetic resolver.recording).run (state, log) =
        (outcome, (after, log ++ made)) := by
  have plain := course.run_askAll
  rw [← tree.evaluateIn_void arithmetic, Evaluation.run_void_eq] at plain
  refine ⟨_, (Prod.mk.inj plain).1, Prod.ext rfl (Prod.mk.inj plain).2, fun log => ?_⟩
  have recorded := (course.recording log).run_askAll
  rw [← tree.evaluateIn_void arithmetic, Evaluation.run_void_eq] at recorded
  have same := (tree.alike_recording arithmetic resolver state (state, log) rfl).1
  exact Prod.ext same.symm (Prod.mk.inj recorded).2

end Expression
end Reckoner
