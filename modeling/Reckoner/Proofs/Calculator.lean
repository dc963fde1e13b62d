import Reckoner.Calculator
import Reckoner.Proofs.Conversion
import Reckoner.Proofs.Expression.Lookups
import Reckoner.Proofs.Token.Division

namespace Reckoner

/-!
# Two strategies with one outcome

A calculation can end in four ways, and `SameOutcome` says what it means that
both strategies end in the same one.  The failures are identical where they
come from the lexer or from the resolver.  Where no tree can be derived each
strategy reports the failure of its own reading, but both do it before the
first name is looked up.

The statements hold for a resolver with any state.  Equal values are equal as
binary64 numbers, so that the two zeros are told apart.
-/

variable {σ : Type}

/-- How a calculation ends that begins in a state of the resolver, and the
state in which it leaves the resolver. -/
abbrev Strategy.Ends (strategy : Strategy) (resolver : Resolver σ Float) (text : String) (state : σ)
    (result : Except Failure Float) (after : σ) : Prop :=
  (calculate strategy resolver text).run state = (result, after)

/-- The ends of a calculation that both strategies have in common.  That no
name is looked up is said by recording the lookups. -/
inductive SameOutcome (resolver : Resolver σ Float) (text : String) (state : σ) : Prop where
  | value (result : Float) (after : σ)
      (tree : Strategy.syntaxTree.Ends resolver text state (.ok result) after)
      (postfixed : Strategy.shuntingYard.Ends resolver text state (.ok result) after)
  | lexical (failure : Failure) (lexer : tokenize text = .error failure)
      (tree : Strategy.syntaxTree.Ends resolver text state (.error failure) state)
      (postfixed : Strategy.shuntingYard.Ends resolver text state (.error failure) state)
  | lookup (failure : Failure) (after before : σ) (name : String)
      (answer : (resolver name).run before = (.error failure, after))
      (tree : Strategy.syntaxTree.Ends resolver text state (.error failure) after)
      (postfixed : Strategy.shuntingYard.Ends resolver text state (.error failure) after)
  | syntactic (tokens : List Token) (ofTree ofPostfix : Failure)
      (lexer : tokenize text = .ok tokens) (descent : parse tokens = .error ofTree)
      (yard : toPostfix tokens = .error ofPostfix)
      (tree : Strategy.syntaxTree.Ends resolver text state (.error ofTree) state)
      (postfixed : Strategy.shuntingYard.Ends resolver text state (.error ofPostfix) state)
      (treeAsks : Strategy.syntaxTree.Ends resolver.recording text (state, [])
        (.error ofTree) (state, []))
      (postfixAsks : Strategy.shuntingYard.Ends resolver.recording text (state, [])
        (.error ofPostfix) (state, []))

section Runs

variable (counters : SignCounters) (strategy : Strategy) (resolver : Resolver σ Float)
  {text : String} (state : σ)

theorem run_calculateCounting_of_lexical {failure : Failure}
    (lexer : tokenize text = .error failure) :
    (calculateCounting counters strategy resolver text).run state = (.error failure, state) := by
  rw [calculateCounting, Evaluation.run_bind, Evaluation.run_ofResult, lexer]

theorem run_calculateCounting_of_blank (lexer : tokenize text = .ok []) :
    (calculateCounting counters strategy resolver text).run state = (.ok 0, state) := by
  rw [calculateCounting, Evaluation.run_bind, Evaluation.run_ofResult, lexer]
  rfl

/-- A cross-check in terms of the two calculations, of which the second begins
where the first has ended and only if that one has a value. -/
theorem run_crossCheckCounting :
    (crossCheckCounting counters resolver text).run state =
      match (calculateCounting counters .syntaxTree resolver text).run state with
      | (.error failure, after) => (.error failure, after)
      | (.ok ofTree, between) =>
        match (calculateCounting counters .shuntingYard resolver text).run between with
        | (.error failure, after) => (.error failure, after)
        | (.ok ofPostfix, after) =>
          (if valuesAgree ofTree ofPostfix then .ok ofTree
            else .error (.strategiesDisagree ofTree ofPostfix), after) := by
  rw [crossCheckCounting, Evaluation.run_bind]
  rcases (calculateCounting counters .syntaxTree resolver text).run state with
    ⟨failure | ofTree, between⟩
  · rfl
  · simp only [Evaluation.run_bind]
    rcases (calculateCounting counters .shuntingYard resolver text).run between with
      ⟨failure | ofPostfix, after⟩
    · rfl
    · dsimp only
      cases valuesAgree ofTree ofPostfix <;> rfl

section

variable {tokens : List Token} (lexer : tokenize text = .ok tokens) (nonempty : tokens ≠ [])
include lexer nonempty

theorem run_calculateCounting_syntaxTree :
    (calculateCounting counters .syntaxTree resolver text).run state =
      match parseCounting counters.descent tokens with
      | .error failure => (.error failure, state)
      | .ok tree => (tree.evaluate resolver).run state := by
  rw [calculateCounting, Evaluation.run_bind, Evaluation.run_ofResult, lexer]
  simp only [List.isEmpty_iff, if_neg nonempty]
  rw [Evaluation.run_bind, Evaluation.run_ofResult]
  cases parseCounting counters.descent tokens <;> rfl

theorem run_calculateCounting_shuntingYard :
    (calculateCounting counters .shuntingYard resolver text).run state =
      match toPostfixCounting counters.yard tokens with
      | .error failure => (.error failure, state)
      | .ok ordered => (Postfix.evaluate resolver ordered).run state := by
  rw [calculateCounting, Evaluation.run_bind, Evaluation.run_ofResult, lexer]
  simp only [List.isEmpty_iff, if_neg nonempty]
  rw [Evaluation.run_bind, Evaluation.run_ofResult]
  cases toPostfixCounting counters.yard tokens <;> rfl

end

theorem run_calculate_of_lexical {failure : Failure} (lexer : tokenize text = .error failure) :
    (calculate strategy resolver text).run state = (.error failure, state) :=
  run_calculateCounting_of_lexical .unbounded strategy resolver state lexer

theorem run_calculate_of_blank (lexer : tokenize text = .ok []) :
    (calculate strategy resolver text).run state = (.ok 0, state) :=
  run_calculateCounting_of_blank .unbounded strategy resolver state lexer

theorem run_crossCheck :
    (crossCheck resolver text).run state =
      match (calculate .syntaxTree resolver text).run state with
      | (.error failure, after) => (.error failure, after)
      | (.ok ofTree, between) =>
        match (calculate .shuntingYard resolver text).run between with
        | (.error failure, after) => (.error failure, after)
        | (.ok ofPostfix, after) =>
          (if valuesAgree ofTree ofPostfix then .ok ofTree
            else .error (.strategiesDisagree ofTree ofPostfix), after) :=
  run_crossCheckCounting .unbounded resolver state

variable {tokens : List Token} (lexer : tokenize text = .ok tokens) (nonempty : tokens ≠ [])
include lexer nonempty

theorem run_calculate_syntaxTree :
    (calculate .syntaxTree resolver text).run state =
      match parse tokens with
      | .error failure => (.error failure, state)
      | .ok tree => (tree.evaluate resolver).run state :=
  run_calculateCounting_syntaxTree .unbounded resolver state lexer nonempty

theorem run_calculate_shuntingYard :
    (calculate .shuntingYard resolver text).run state =
      match toPostfix tokens with
      | .error failure => (.error failure, state)
      | .ok ordered => (Postfix.evaluate resolver ordered).run state :=
  run_calculateCounting_shuntingYard .unbounded resolver state lexer nonempty

end Runs

/-- The tokens of a text that have a tree are evaluated alike by both
strategies. -/
theorem run_calculate_of_parse {text : String} {tokens : List Token}
    {tree : Expression Float} (lexer : tokenize text = .ok tokens)
    (parsed : parse tokens = .ok tree) (strategy : Strategy) (resolver : Resolver σ Float)
    (state : σ) :
    (calculate strategy resolver text).run state = (tree.evaluate resolver).run state := by
  have derived := derives_of_parse (Lexer.endless_of_tokenize lexer) parsed
  cases strategy with
  | syntaxTree =>
      rw [run_calculate_syntaxTree resolver state lexer derived.ne_nil, parsed]
  | shuntingYard =>
      rcases toPostfix_of_derives derived with ⟨listing, converted, lists⟩
      rw [run_calculate_shuntingYard resolver state lexer derived.ne_nil, converted]
      simp only [Postfix.evaluate, Postfix.evaluateIn_of_lists _ _ lists]
      rfl

/-- A text with a tree is calculated by evaluating the tree. -/
theorem run_calculate_of_convert {text : String} {tree : Expression Float}
    (converted : convert text = .ok tree) (strategy : Strategy) (resolver : Resolver σ Float)
    (state : σ) :
    (calculate strategy resolver text).run state = (tree.evaluate resolver).run state := by
  rcases convert_eq_ok_iff.mp converted with ⟨tokens, lexer, parsed⟩
  exact run_calculate_of_parse lexer parsed strategy resolver state

theorem toPostfix_error_of_parse_error {text : String} {tokens : List Token}
    {failure : Failure} (lexer : tokenize text = .ok tokens) (nonempty : tokens ≠ [])
    (failed : parse tokens = .error failure) : ∃ other, toPostfix tokens = .error other := by
  have spelled := Lexer.spelled_of_tokenize lexer
  cases converted : toPostfix tokens with
  | error other => exact ⟨other, rfl⟩
  | ok ordered =>
      rcases unreadable_of_toPostfix (Lexer.endless_of_tokenize lexer) nonempty failed converted
        with ⟨token, member, _, kind, fails⟩
      rcases (spelled token member).reads kind with ⟨value, reads, _⟩
      rw [reads] at fails
      cases fails

/-- Both strategies have the same outcome, for every text and every resolver in
every state. -/
theorem calculate_sameOutcome (resolver : Resolver σ Float) (text : String) (state : σ) :
    SameOutcome resolver text state := by
  cases lexer : tokenize text with
  | error failure =>
      exact .lexical failure lexer (run_calculate_of_lexical _ _ _ lexer)
        (run_calculate_of_lexical _ _ _ lexer)
  | ok tokens =>
      by_cases empty : tokens = []
      · subst empty
        exact .value 0 state (run_calculate_of_blank _ _ _ lexer)
          (run_calculate_of_blank _ _ _ lexer)
      · cases parsed : parse tokens with
        | error failure =>
            rcases toPostfix_error_of_parse_error lexer empty parsed with ⟨other, failed⟩
            have tree {ρ : Type} (asked : Resolver ρ Float) (from' : ρ) :
                (calculate .syntaxTree asked text).run from' = (.error failure, from') := by
              rw [run_calculate_syntaxTree asked from' lexer empty, parsed]
            have postfixed {ρ : Type} (asked : Resolver ρ Float) (from' : ρ) :
                (calculate .shuntingYard asked text).run from' = (.error other, from') := by
              rw [run_calculate_shuntingYard asked from' lexer empty, failed]
            exact .syntactic tokens failure other lexer parsed failed (tree _ _)
              (postfixed _ _) (tree _ _) (postfixed _ _)
        | ok tree =>
            have runs (strategy : Strategy) :=
              run_calculate_of_parse lexer parsed strategy resolver state
            rcases evaluated : (tree.evaluate resolver).run state with
              ⟨failure | value, after⟩
            · rcases Expression.answer_of_evaluateIn evaluated with ⟨name, _, before, answer⟩
              exact .lookup failure after before name answer
                ((runs .syntaxTree).trans evaluated)
                ((runs .shuntingYard).trans evaluated)
            · exact .value value after ((runs .syntaxTree).trans evaluated)
                ((runs .shuntingYard).trans evaluated)

end Reckoner
