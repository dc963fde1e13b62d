import Reckoner.Proofs.CalculatorWords
import Reckoner.Proofs.Expression.Course

namespace Reckoner

/-!
# Calculating twice

A cross-check calculates a text by both strategies, whichever one is in use
otherwise, and the second time in the state in which the first has left the
resolver.  Only a resolver can tell the two calculations apart.  One that
answers each name in a single way, whatever has been asked before, makes the
result of a computation independent of the state (`Evaluation.Steady`), and
then the cross-check returns what the tree gives (`crossCheck_of_steady`).

The comparison in between accepts every value against itself.  Its tolerance is
not needed for this: an infinite value is equal to itself, and what is not a
number is accepted before anything is subtracted.
-/

variable {σ : Type}

/-! ## Computations that ignore the state -/

/-- A computation that ends in the same result whatever state it begins in. -/
def Evaluation.Steady {α : Type} (computation : Evaluation σ α) : Prop :=
  ∀ state other, (computation.run state).1 = (computation.run other).1

theorem Evaluation.steady_iff_alike {α : Type} {computation : Evaluation σ α} :
    computation.Steady ↔ Alike (fun _ _ => True) computation computation :=
  ⟨fun steady state other _ => ⟨steady state other, trivial⟩,
    fun alike state other => (alike state other trivial).1⟩

theorem Evaluation.Steady.bind {α β : Type} {first : Evaluation σ α}
    {next : α -> Evaluation σ β} (steady : first.Steady) (further : ∀ value, (next value).Steady) :
    (first >>= next).Steady :=
  steady_iff_alike.mpr
    ((steady_iff_alike.mp steady).bind fun value => steady_iff_alike.mp (further value))

/-- A tree has a steady value if all names have steady answers. -/
theorem Expression.steady_evaluateIn {ν : Type} {arithmetic : Arithmetic ν}
    {resolver : Resolver σ ν} (steady : ∀ name, (resolver name).Steady) (tree : Expression ν) :
    (tree.evaluateIn arithmetic resolver).Steady :=
  Evaluation.steady_iff_alike.mpr (tree.alike_evaluateIn arithmetic
    fun name _ => Evaluation.steady_iff_alike.mp (steady name))

theorem Resolver.steady_ofFunction {ν : Type} (value? : String -> Option ν) (name : String) :
    (ofFunction (σ := σ) value? name).Steady := by
  intro state other
  rw [ofFunction]
  cases value? name <;> rfl

/-! ## The comparison -/

theorem valuesAgree_self (x : Float) : valuesAgree x x = true := by
  rw [valuesAgree, Bool.or_eq_true, Bool.or_eq_true, Bool.and_self, Float.isNaN_eq_decide_eq_nan,
    decide_eq_true_eq, Float.beq_self_iff]
  exact .inl (Decidable.em _)

section Runs

variable (resolver : Resolver σ Float) (text : String)

/-- A calculation along the tree fails with the lexer or with the descent
before anything is looked up, or it ends like one along the postfix order, with
zero or with the value of a tree. -/
theorem calculate_cases :
    (∃ failure : Failure, (failure.isLexical = true ∨ failure.isSyntactic = true) ∧
      ∀ state, (calculate .syntaxTree resolver text).run state = (.error failure, state)) ∨
    (∀ strategy state, (calculate strategy resolver text).run state = (.ok 0, state)) ∨
    ∃ tree : Expression Float, ∀ strategy state,
      (calculate strategy resolver text).run state = (tree.evaluate resolver).run state := by
  cases lexer : tokenize text with
  | error failure =>
      exact .inl ⟨failure, .inl (Lexer.isLexical_of_tokenize lexer),
        fun state => run_calculate_of_lexical _ resolver state lexer⟩
  | ok tokens =>
      by_cases empty : tokens = []
      · subst empty
        exact .inr (.inl fun strategy state =>
          run_calculate_of_blank strategy resolver state lexer)
      · cases parsed : parse tokens with
        | error failure =>
            refine .inl ⟨failure, .inr (Descent.isSyntactic_of_parse parsed), fun state => ?_⟩
            rw [run_calculate_syntaxTree resolver state lexer empty, parsed]
        | ok tree =>
            exact .inr (.inr ⟨tree, fun strategy state =>
              run_calculate_of_parse lexer parsed strategy resolver state⟩)

variable {resolver text} {state after : σ}

/-- What the tree gives the postfix order gives as well, also later. -/
theorem run_shuntingYard_of_syntaxTree {value : Float}
    (steady : ∀ name, (resolver name).Steady)
    (found : (calculate .syntaxTree resolver text).run state = (.ok value, after)) (later : σ) :
    ((calculate .shuntingYard resolver text).run later).1 = .ok value := by
  rcases calculate_cases resolver text with ⟨failure, _, fails⟩ | blank | ⟨tree, evaluates⟩
  · rw [fails] at found
    cases found
  · rw [blank] at found ⊢
    cases found
    rfl
  · rw [evaluates] at found ⊢
    exact (tree.steady_evaluateIn steady later state).trans (congrArg Prod.fst found)

theorem cause_of_syntaxTree {failure : Failure}
    (failed : (calculate .syntaxTree resolver text).run state = (.error failure, after)) :
    failure.isLexical = true ∨ failure.isSyntactic = true ∨
      ∃ name before, (resolver name).run before = (.error failure, after) := by
  rcases calculate_cases resolver text with ⟨failure', cause, fails⟩ | blank | ⟨tree, evaluates⟩
  · rw [fails] at failed
    cases failed
    exact cause.imp_right .inl
  · rw [blank] at failed
    cases failed
  · rw [evaluates] at failed
    rcases Expression.answer_of_evaluateIn failed with ⟨name, _, before, answer⟩
    exact .inr (.inr ⟨name, before, answer⟩)

end Runs

/-- The second calculation changes nothing in the result of a cross-check. -/
theorem result_crossCheck {resolver : Resolver σ Float}
    (steady : ∀ name, (resolver name).Steady) (text : String) (state : σ) :
    ((crossCheck resolver text).run state).1 =
      ((calculate .syntaxTree resolver text).run state).1 := by
  rw [run_crossCheck]
  rcases found : (calculate .syntaxTree resolver text).run state with ⟨failure | value, after⟩
  · rfl
  · have second := run_shuntingYard_of_syntaxTree steady found after
    simp only
    rcases again : (calculate .shuntingYard resolver text).run after with ⟨result, later⟩
    rw [again] at second
    cases second
    simp only [valuesAgree_self, if_true]

/-- For a resolver with steady answers a cross-check has the result of a
calculation along the tree, in every state, unless a run of signs is too long
to be counted.  It never finds a disagreement of its own.  Such a failure could
only be an answer of the resolver, and resolvers answer with numbers or unknown
names. -/
theorem crossCheck_of_steady (resolver : Resolver σ Float)
    (steady : ∀ name, (resolver name).Steady) {text : String} (fit : Lexer.RunsFit text)
    (state : σ) :
    ((crossCheckCounting .words resolver text).run state).1 =
        ((calculateCounting .words .syntaxTree resolver text).run state).1 ∧
      ∀ ofTree ofPostfix,
        ((crossCheckCounting .words resolver text).run state).1 =
            .error (.strategiesDisagree ofTree ofPostfix) ->
          ∃ name before, ((resolver name).run before).1 =
            .error (.strategiesDisagree ofTree ofPostfix) := by
  rw [crossCheckCounting_of_runsFit fit, calculateCounting_of_runsFit fit]
  have same := result_crossCheck steady text state
  refine ⟨same, fun ofTree ofPostfix disagrees => ?_⟩
  rw [same] at disagrees
  rcases failed : (calculate .syntaxTree resolver text).run state with ⟨result, after⟩
  rw [failed] at disagrees
  cases disagrees
  rcases cause_of_syntaxTree failed with impossible | impossible | ⟨name, before, answer⟩
  · cases impossible
  · cases impossible
  · exact ⟨name, before, congrArg Prod.fst answer⟩

/-- A difference of two infinities, with a resolver that counts its lookups.
The check accepts what is not a number, and makes every lookup twice. -/
theorem crossCheck_of_steady_overflow :
    let text := "10 * x - 10 * x"
    let resolver : Resolver Nat Float := fun name => do
      modify (· + 1)
      Bindings.resolver [("x", 1e308)] name
    (∀ name, (resolver name).Steady) ∧ Lexer.RunsFit text ∧
      ((calculateCounting .words .syntaxTree resolver text).run 0).1 = .ok Float.nan ∧
      ((crossCheckCounting .words resolver text).run 0).1 =
        ((calculateCounting .words .syntaxTree resolver text).run 0).1 ∧
      ((crossCheckCounting .words resolver text).run 0).2 = 4 := by
  intro text resolver
  have steady : ∀ name, (resolver name).Steady := by
    intro name
    have counts : Evaluation.Steady (σ := Nat) (modify (· + 1)) := fun _ _ => rfl
    exact counts.bind fun _ => Resolver.steady_ofFunction _ name
  have fit : Lexer.RunsFit text := by decide +kernel
  exact ⟨steady, fit, by decide +kernel, (crossCheck_of_steady resolver steady fit 0).1,
    by decide +kernel⟩

theorem run_crossCheckCounting_apart {counters : SignCounters} {resolver : Resolver σ Float}
    {text : String} {state after later : σ} {ofTree ofPostfix : Float}
    (first : (calculateCounting counters .syntaxTree resolver text).run state =
      (.ok ofTree, after))
    (second : (calculateCounting counters .shuntingYard resolver text).run after =
      (.ok ofPostfix, later))
    (apart : valuesAgree ofTree ofPostfix = false) :
    (crossCheckCounting counters resolver text).run state =
      (.error (.strategiesDisagree ofTree ofPostfix), later) := by
  rw [run_crossCheckCounting, first]
  simp only [second, apart]
  rfl

/-- Where a run is too long the descent forgets the negation, and the check
finds two values. -/
theorem crossCheck_disagrees :
    let text := String.ofList (List.replicate (2 ^ 31 + 1) '-' ++ "x".toList)
    let resolver : Resolver Unit Float := fun _ => pure 1
    (∀ name, (resolver name).Steady) ∧
      ((calculateCounting .words .syntaxTree resolver text).run ()).1 = .ok 1 ∧
      ((crossCheckCounting .words resolver text).run ()).1 =
        .error (.strategiesDisagree 1 (-1)) := by
  have shape : Lexer.NameShape "x".toList := .letter rfl
  have runs := run_minusSigns_apart (2 ^ 31 + 1) shape seesOdd_overflow.1 seesOdd_overflow.2
  have apart : valuesAgree 1 (-1) = false := by decide +kernel
  have checked := run_crossCheckCounting_apart runs.1 runs.2 apart
  exact ⟨fun _ _ _ => rfl, congrArg Prod.fst runs.1, congrArg Prod.fst checked⟩

end Reckoner
