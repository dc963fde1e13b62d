import Reckoner.Journal

namespace Reckoner

/-!
# Sessions

A session keeps variables and a strategy from one step to the next.  A step
that fails changes nothing and the session goes on.
-/

structure Session where
  strategy : Strategy
  bindings : Bindings

namespace Session

inductive Step where
  | set (name : String) (value : Float)
  | unset (name : String)
  | choose (word : String)
  | calculate (text : String)
  | check (text : String)
  | assign (name text : String)

inductive Answer where
  | done (changed : Bool)
  | chosen (strategy : Strategy)
  | value (value : Float)

inductive Refusal where
  | failure (cause : Failure)
  | unknownStrategy (word : String)

def calculation (session : Session) (text : String) : Except Failure Float :=
  ((Reckoner.calculate session.strategy session.bindings.resolver text).run ()).1

def checked (session : Session) (text : String) : Except Failure Float :=
  ((crossCheck session.bindings.resolver text).run ()).1

/-- The answer to a step and the session after it. -/
def step (session : Session) : Step -> Except Refusal Answer × Session
  | .set name value =>
    (.ok (.done true), { session with bindings := session.bindings.set name value })
  | .unset name =>
    (.ok (.done (session.bindings.value? name).isSome),
      { session with bindings := session.bindings.unset name })
  | .choose word =>
    match Strategy.ofWord? word with
    | some strategy => (.ok (.chosen strategy), { session with strategy := strategy })
    | none => (.error (.unknownStrategy word), session)
  | .calculate text =>
    match session.calculation text with
    | .ok value => (.ok (.value value), session)
    | .error cause => (.error (.failure cause), session)
  | .check text =>
    match session.checked text with
    | .ok value => (.ok (.value value), session)
    | .error cause => (.error (.failure cause), session)
  | .assign name text =>
    match session.calculation text with
    | .ok value =>
      (.ok (.value value), { session with bindings := session.bindings.set name value })
    | .error cause => (.error (.failure cause), session)

def run (session : Session) : List Step -> List (Except Refusal Answer)
  | [] => []
  | first :: rest =>
    let (answer, session') := session.step first
    answer :: run session' rest

def stepJournal (session : Session) : Step -> List Entry
  | .calculate text | .assign _ text =>
    Journal.ofCalculation session.strategy session.bindings.resolver () text
  | .check text => Journal.ofCrossCheck session.bindings.resolver () text
  | .set .. | .unset _ | .choose _ => []

def journal (session : Session) : List Step -> List Entry
  | [] => []
  | first :: rest => session.stepJournal first ++ journal (session.step first).2 rest

end Session
end Reckoner
