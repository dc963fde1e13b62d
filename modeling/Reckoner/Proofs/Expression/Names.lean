import Reckoner.Command.Run
import Reckoner.Proofs.Expression.Course

namespace Reckoner

/-!
# What the names of a tree tell of its evaluation

The list of names of a tree is made without evaluating it.  It tells
nevertheless how an evaluation goes.  The names are looked up for the first
time in the order of the list, and where names have values or not by
themselves, as with a fixed set of bindings, the first name of the list without
a value is the one that the evaluation fails with.  The same name stands first
in the warning of unbound names.  Names that are not on the list have no
influence at all.

The list is that of first occurrences, while an evaluation meets every
occurrence.  The step from the one to the other is that the first member of a
kind is the same in both (`firstOccurrences_find?`).
-/

variable {σ τ ν : Type}

namespace Expression

/-! ## First occurrences -/

/-- Behind some names only those occur for the first time that are not among
them. -/
theorem firstOccurrences_append (front back : List String) :
    firstOccurrences (front ++ back) =
      firstOccurrences front ++
        (firstOccurrences back).filter (fun name => !front.contains name) := by
  induction front with
  | nil => exact (List.filter_eq_self.mpr fun name _ => rfl).symm
  | cons first front inductionHypothesis =>
      rw [List.cons_append, firstOccurrences, firstOccurrences, inductionHypothesis,
        List.filter_append, List.filter_filter, List.cons_append]
      congr 2
      apply List.filter_congr
      intro name _
      by_cases same : name = first <;> simp [same]

theorem firstOccurrences_of_isPrefix {made all : List String} (isPrefix : made <+: all) :
    firstOccurrences made <+: firstOccurrences all := by
  rcases isPrefix with ⟨rest, rfl⟩
  rw [firstOccurrences_append]
  exact List.prefix_append _ _

theorem firstOccurrences_find? (kind : String -> Bool) (all : List String) :
    (firstOccurrences all).find? kind = all.find? kind := by
  induction all with
  | nil => rfl
  | cons first rest inductionHypothesis =>
      rw [firstOccurrences, List.find?_cons, List.find?_cons]
      cases found : kind first with
      | true => rfl
      | false =>
          -- Only copies of the first name are filtered out, and these are not of the kind.
          dsimp only
          rw [List.find?_filter, ← inductionHypothesis]
          congr 1
          funext name
          by_cases same : name = first <;> simp [same, found]

end Expression

/-! ## Answers by the name alone -/

/-- Names that have values or not by themselves are asked for up to the first
one without. -/
theorem Resolver.run_askAll_ofFunction (value? : String -> Option ν) (names : List String)
    (state : σ) :
    ((ofFunction value?).askAll names).run state =
      (match names.find? fun name => (value? name).isNone with
        | none => .ok ()
        | some name => .error (.unknownVariable name), state) := by
  induction names with
  | nil => rfl
  | cons name rest inductionHypothesis =>
      rw [askAll, Evaluation.run_bind, List.find?_cons]
      cases answer : value? name with
      | none =>
          simp only [ofFunction, answer, Option.isNone_none]
          rfl
      | some value =>
          simp only [Option.isNone_some]
          rw [← inductionHypothesis]
          simp only [ofFunction, answer]
          rfl

namespace Expression

variable {arithmetic : Arithmetic ν} {resolver : Resolver σ ν}

/-- The value of a tree depends on what its names are answered with and on
nothing else. -/
theorem alike_of_names {other : Resolver τ ν} {related : σ -> τ -> Prop} {tree : Expression ν}
    (agree : ∀ name ∈ tree.names, Evaluation.Alike related (resolver name) (other name)) :
    Evaluation.Alike related (tree.evaluateIn arithmetic resolver)
      (tree.evaluateIn arithmetic other) :=
  tree.alike_evaluateIn arithmetic
    fun name member => agree name (mem_firstOccurrences.mpr member)

/-- The names that an evaluation looks up are those of the tree in their order,
all of them if it comes to a value. -/
theorem lookups_of_evaluateIn {tree : Expression ν} {state after : σ} {looked : List String}
    {outcome : Except Failure ν}
    (run : (tree.evaluateIn arithmetic resolver.recording).run (state, []) =
      (outcome, (after, looked))) :
    firstOccurrences looked <+: tree.names ∧
      ∀ value, outcome = .ok value -> firstOccurrences looked = tree.names := by
  rcases resolver.exists_course state tree.occurrences with ⟨made, result, after', course⟩
  rcases run_evaluateIn_of_course arithmetic course with
    ⟨outcome', same, _, records⟩
  have recorded := (records []).symm.trans run
  rw [List.nil_append] at recorded
  cases recorded
  refine ⟨firstOccurrences_of_isPrefix course.isPrefix, fun value ends => ?_⟩
  rw [ends] at same
  rw [course.made_eq same.symm, names]

/-- The first of the names of a tree that has no value by itself. -/
def firstUnbound? (value? : String -> Option ν) (tree : Expression ν) : Option String :=
  tree.names.find? fun name => (value? name).isNone

theorem firstUnbound?_eq_none {value? : String -> Option ν} {tree : Expression ν} :
    tree.firstUnbound? value? = none ↔ ∀ name ∈ tree.names, (value? name).isSome = true := by
  simp [firstUnbound?, Option.isSome_iff_ne_none]

/-- With answers by the name alone an evaluation fails for the first of the
names of the tree that has no value, and only if there is one. -/
theorem run_evaluateIn_ofFunction (arithmetic : Arithmetic ν) (value? : String -> Option ν)
    (tree : Expression ν) (state : σ) :
    match tree.firstUnbound? value? with
    | none => ∃ value,
      (tree.evaluateIn arithmetic (Resolver.ofFunction value?)).run state = (.ok value, state)
    | some name => (tree.evaluateIn arithmetic (Resolver.ofFunction value?)).run state =
        (.error (.unknownVariable name), state) := by
  have asked := Resolver.run_askAll_ofFunction value? tree.occurrences state
  rw [← tree.evaluateIn_void arithmetic, Evaluation.run_void_eq, ← firstOccurrences_find?] at asked
  generalize (tree.evaluateIn arithmetic (Resolver.ofFunction value?)).run state = run at asked ⊢
  rw [firstUnbound?, names]
  rcases run with ⟨failure | value, after⟩ <;>
    cases found : (firstOccurrences tree.occurrences).find? fun name => (value? name).isNone <;>
    rw [found] at asked <;> cases asked
  · rfl
  · exact ⟨value, rfl⟩

/-! ## Bindings -/

/-- A tree has a value if and only if its names are bound. -/
theorem evaluates_iff (tree : Expression Float) (bindings : Bindings) (state : σ) :
    (∃ value, (tree.evaluate bindings.resolver).run state = (.ok value, state)) ↔
      ∀ name ∈ tree.names, (bindings.value? name).isSome = true := by
  have run := tree.run_evaluateIn_ofFunction .binary64 bindings.value? state
  rw [← firstUnbound?_eq_none]
  cases found : tree.firstUnbound? bindings.value? with
  | none =>
      rw [found] at run
      exact iff_of_true run rfl
  | some name =>
      rw [found] at run
      refine iff_of_false ?_ nofun
      rintro ⟨value, ends⟩
      cases run.symm.trans ends

/-- A tree fails for its first name that is not bound, and for no other
reason. -/
theorem fails_iff (tree : Expression Float) (bindings : Bindings) (state : σ) (failure : Failure) :
    (tree.evaluate bindings.resolver).run state = (.error failure, state) ↔
      ∃ name, tree.firstUnbound? bindings.value? = some name ∧
        failure = .unknownVariable name := by
  have run := tree.run_evaluateIn_ofFunction .binary64 bindings.value? state
  cases found : tree.firstUnbound? bindings.value? with
  | none =>
      rw [found] at run
      rcases run with ⟨value, ends⟩
      exact iff_of_false (fun fails => nomatch ends.symm.trans fails) nofun
  | some name =>
      rw [found] at run
      constructor
      · intro fails
        cases run.symm.trans fails
        exact ⟨name, rfl, rfl⟩
      · rintro ⟨other, same, rfl⟩
        cases same
        exact run

end Expression

theorem Command.Request.journal_printTree (request : Request) (tree : Expression Float) :
    (request.printTree tree).journal =
      match tree.names.filter fun name => (request.values.value? name).isNone with
      | [] => []
      | unbound => [.unbound unbound] := by
  rw [printTree]
  cases request.wants .drawing <;> cases request.wants .infixLine <;>
    cases tree.names.filter (fun name => (request.values.value? name).isNone) <;> rfl

/-- The first name in the warning of unbound names is the first one of the tree
that is not bound. -/
theorem Command.Request.journal_printTree_eq_iff (request : Request) (tree : Expression Float)
    (name : String) :
    (∃ rest, (request.printTree tree).journal = [.unbound (name :: rest)]) ↔
      tree.firstUnbound? request.values.value? = some name := by
  rw [Expression.firstUnbound?, ← List.head?_filter, request.journal_printTree]
  cases tree.names.filter fun name => (request.values.value? name).isNone with
  | nil => exact iff_of_false nofun nofun
  | cons first rest => simp

/-- The list of names of a tree predicts its evaluation.  It has no name twice,
and the names that are looked up stand in it in the order of their first
lookups.  With bindings an evaluation has a value if and only if all names of
the list are bound, and fails otherwise for the first one that is not.  This is
the name that the warning of unbound names begins with.  Resolvers that answer
alike for the names of the list give results that are alike. -/
theorem names_predict_evaluation (tree : Expression Float) :
    tree.names.Nodup ∧
      (∀ {σ : Type} (resolver : Resolver σ Float) (state after : σ) (looked : List String)
        (outcome : Except Failure Float),
        (tree.evaluate resolver.recording).run (state, []) = (outcome, (after, looked)) ->
          Expression.firstOccurrences looked <+: tree.names ∧
            ∀ value, outcome = .ok value -> Expression.firstOccurrences looked = tree.names) ∧
      (∀ {σ : Type} (bindings : Bindings) (state : σ),
        ((∃ value, (tree.evaluate bindings.resolver).run state = (.ok value, state)) ↔
          ∀ name ∈ tree.names, (bindings.value? name).isSome = true) ∧
        ∀ failure, (tree.evaluate bindings.resolver).run state = (.error failure, state) ↔
          ∃ name, tree.firstUnbound? bindings.value? = some name ∧
            failure = .unknownVariable name) ∧
      (∀ (request : Command.Request) (name : String),
        (∃ rest, (request.printTree tree).journal = [.unbound (name :: rest)]) ↔
          tree.firstUnbound? request.values.value? = some name) ∧
      ∀ {σ τ : Type} (resolver : Resolver σ Float) (other : Resolver τ Float)
        (related : σ -> τ -> Prop),
        (∀ name ∈ tree.names, Evaluation.Alike related (resolver name) (other name)) ->
          Evaluation.Alike related (tree.evaluate resolver) (tree.evaluate other) :=
  ⟨Expression.nodup_firstOccurrences _,
    fun _ _ _ _ _ => Expression.lookups_of_evaluateIn,
    fun bindings state => ⟨tree.evaluates_iff bindings state, tree.fails_iff bindings state⟩,
    fun request name => request.journal_printTree_eq_iff tree name,
    fun _ _ _ => Expression.alike_of_names⟩

/-- The names of `y / (x - y) + z * x` with `y` bound.  What is looked up
second, and fails, is the second name of the list, and what a resolver says of
`w` does not matter. -/
theorem names_predict_evaluation_repeated :
    let tree : Expression Float :=
      .binary .add
        (.binary .divide (.identifier "y")
          (.binary .subtract (.identifier "x") (.identifier "y")))
        (.binary .multiply (.identifier "z") (.identifier "x"))
    let bindings : Bindings := [("y", 2)]
    let others : Bindings := [("w", 1), ("y", 2)]
    tree.names = ["y", "x", "z"] ∧
      (tree.evaluate bindings.resolver).run () = (.error (.unknownVariable "x"), ()) ∧
      ((tree.evaluate others.resolver).run ()).1 = .error (.unknownVariable "x") ∧
      Expression.firstOccurrences ["y", "x"] <+: tree.names := by
  intro tree bindings others
  rcases names_predict_evaluation tree with ⟨_, lookups, evaluation, _, alike⟩
  have fails := ((evaluation bindings ()).2 (.unknownVariable "x")).mpr ⟨"x", by decide, rfl⟩
  have agree : ∀ name ∈ tree.names, Evaluation.Alike (fun _ _ => True)
      (bindings.resolver (σ := Unit) name) (others.resolver (σ := Unit) name) := by
    have answers : ∀ name ∈ tree.names, bindings.value? name = others.value? name := by decide
    intro name member state other _
    rw [Bindings.resolver, Bindings.resolver, Resolver.ofFunction, Resolver.ofFunction,
      answers name member]
    exact ⟨rfl, trivial⟩
  have same := (alike bindings.resolver others.resolver _ agree () () trivial).1
  have recorded : (tree.evaluate (Resolver.recording bindings.resolver)).run ((), []) =
      (.error (.unknownVariable "x"), ((), ["y", "x"])) := rfl
  refine ⟨by decide, fails, ?_, (lookups _ _ _ _ _ recorded).1⟩
  rw [← same, fails]

end Reckoner
