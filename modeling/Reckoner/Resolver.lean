import Reckoner.Failure

namespace Reckoner

/-!
# Values of variables

An evaluation meets the names of variables and asks a resolver for their
values.  A resolver may keep a state, from which it can answer the same name
differently at different times, and it may fail.  An evaluation is therefore a
computation that changes the state of the resolver and ends in a value or a
failure; the state is there in either case.

Most resolvers are the bindings of a fixed set of names.  `Bindings` keeps
these in the order in which they were first set.  What a change does to them is
said by `value?_set` and `value?_unset`, in terms of the values that names have
before and after.
-/

/-- A computation that may ask a resolver with states in `σ`, and may fail. -/
abbrev Evaluation (σ : Type) : Type -> Type :=
  ExceptT Failure (StateM σ)

/-- What gives numbers to names. -/
abbrev Resolver (σ ν : Type) : Type :=
  String -> Evaluation σ ν

/-- The result of a computation that asks nobody. -/
def Evaluation.ofResult {σ α : Type} (result : Except Failure α) : Evaluation σ α :=
  ExceptT.mk (pure result)

namespace Resolver

variable {σ ν : Type}

/-- Answers by a function of the name alone; a name without a number is
unknown. -/
def ofFunction (value? : String -> Option ν) : Resolver σ ν := fun name =>
  match value? name with
  | some value => pure value
  | none => throw (.unknownVariable name)

/-- Answers with the numbers of a list, one after another, whatever the
names. -/
def sequence : Resolver (List ν) ν := fun name => do
  match ← get with
  | [] => throw (.unknownVariable name)
  | value :: rest =>
    set rest
    pure value

/-- Asks another resolver and keeps a list of the names asked for, failed ones
included. -/
def recording (resolver : Resolver σ ν) : Resolver (σ × List String) ν := fun name =>
  ExceptT.mk fun (state, names) =>
    let (result, state') := (resolver name).run state
    (result, (state', names ++ [name]))

end Resolver

/-- Names with their values, each name once. -/
abbrev Bindings : Type :=
  List (String × Float)

namespace Bindings

def value? (bindings : Bindings) (name : String) : Option Float :=
  bindings.lookup name

def set (name : String) (value : Float) : Bindings -> Bindings
  | [] => [(name, value)]
  | (other, held) :: rest =>
    if other = name then (name, value) :: rest else (other, held) :: set name value rest

def unset (name : String) (bindings : Bindings) : Bindings :=
  bindings.filter (·.1 != name)

/-- Bindings made one after another, so that the last one of a name stays. -/
def ofList (pairs : List (String × Float)) : Bindings :=
  pairs.foldl (fun bindings pair => bindings.set pair.1 pair.2) []

theorem value?_set (name : String) (value : Float) (bindings : Bindings) (asked : String) :
    (bindings.set name value).value? asked =
      if asked = name then some value else bindings.value? asked := by
  induction bindings with
  | nil =>
      simp only [set, value?, List.lookup_cons, List.lookup_nil]
      grind
  | cons pair rest inductionHypothesis =>
      rcases pair with ⟨other, held⟩
      simp only [set]
      simp only [value?] at inductionHypothesis ⊢
      by_cases same : other = name
      · subst same
        simp only [↓reduceIte, List.lookup_cons]
        grind
      · simp only [same, ↓reduceIte, List.lookup_cons, inductionHypothesis]
        grind

theorem value?_unset (name : String) (bindings : Bindings) (asked : String) :
    (bindings.unset name).value? asked =
      if asked = name then none else bindings.value? asked := by
  induction bindings with
  | nil => simp [unset, value?]
  | cons pair rest inductionHypothesis =>
      rcases pair with ⟨other, held⟩
      simp only [unset, value?] at inductionHypothesis ⊢
      by_cases same : other = name
      · simp only [same, List.filter_cons, List.lookup_cons]
        grind
      · simp only [List.filter_cons, List.lookup_cons]
        grind

/-- The resolver that knows exactly the bound names. -/
def resolver {σ : Type} (bindings : Bindings) : Resolver σ Float :=
  Resolver.ofFunction bindings.value?

end Bindings
end Reckoner
