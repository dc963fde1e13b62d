import Reckoner.Proofs.Command.Binding
import Reckoner.Session

namespace Reckoner
namespace Session

/-!
# What a session remembers

A step either succeeds, and may change what the session keeps, or it fails and
changes nothing.  The failed steps of a session can therefore be left out: the
others have the same answers without them (`run_kept`).

What a session keeps can be asked for.  A value that has been assigned to a
name is the value of the name as an expression, by each strategy, and a check
answers what the calculation by the tree does.
-/

variable {session : Session}

theorem session_of_failed {step : Step} {refusal : Refusal}
    (failed : (session.step step).1 = .error refusal) : (session.step step).2 = session := by
  cases step with
  | set | unset => cases failed
  | choose word =>
      rw [Session.step] at failed ⊢
      cases found : Strategy.ofWord? word with
      | none => rfl
      | some strategy => simp [found] at failed
  | calculate text | check text =>
      rw [Session.step]
      split <;> rfl
  | assign name text =>
      rw [Session.step] at failed ⊢
      cases calculated : session.calculation text with
      | error cause => rfl
      | ok value => simp [calculated] at failed

/-- The steps that succeed when all of them are taken. -/
def kept (session : Session) : List Step -> List Step
  | [] => []
  | first :: rest =>
      match session.step first with
      | (.ok _, session') => first :: kept session' rest
      | (.error _, session') => kept session' rest

/-- Without the steps that fail a session gives the same answers to the
others. -/
theorem run_kept (session : Session) (steps : List Step) :
    session.run (session.kept steps) = (session.run steps).filter (·.isOk) := by
  induction steps generalizing session with
  | nil => rfl
  | cons first rest inductionHypothesis =>
      rw [kept, run]
      rcases taken : session.step first with ⟨refusal | answer, session'⟩
      · have failed : (session.step first).1 = .error refusal := by rw [taken]
        have same := session_of_failed failed
        rw [taken] at same
        subst same
        exact inductionHypothesis _
      · simp only [run, taken, inductionHypothesis session']
        rfl

/-- A check finds what a calculation by the tree finds. -/
theorem checked_eq (session : Session) (text : String) :
    session.checked text = { session with strategy := .syntaxTree }.calculation text :=
  result_crossCheck (fun name => Resolver.steady_ofFunction _ name) text ()

theorem calculation_of_assigned {name text : String} {value : Float}
    (shape : Lexer.NameShape name.toList) (calculated : session.calculation text = .ok value) :
    (session.step (.assign name text)).2.calculation name = .ok value := by
  have lexer := Lexer.tokenize_eq_identifier_iff.mpr shape
  have parsed : parse [⟨.identifier, name⟩] = .ok (.identifier name) :=
    parseCounting_minusSigns .unbounded 0 name
  have converted := convert_eq_ok_iff.mpr ⟨_, lexer, parsed⟩
  have bound : (session.bindings.set name value).value? name = some value := by
    rw [Bindings.value?_set, if_pos rfl]
  have stored : (session.step (.assign name text)).2 =
      { session with bindings := session.bindings.set name value } := by
    rw [step, calculated]
  rw [stored, calculation, run_calculate_of_convert converted]
  change ((Resolver.ofFunction (session.bindings.set name value).value? name).run ()).1 = .ok value
  rw [Resolver.ofFunction, bound]
  rfl

end Session
end Reckoner
