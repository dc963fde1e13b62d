import Reckoner.Command.Run
import Reckoner.Proofs.CrossCheck

namespace Reckoner
namespace Command

/-!
# What a run prints

A request is carried out along several paths.  Its expression is read once for
the representations and once or twice more for the value, in one of two orders
or in both, and each path can end early.  As all of them accept the same
expressions, and the names have fixed values, the options that choose among
them have no influence on the outcome.  This depends on the expression and the
bindings alone (`verdict`).

The representations that are asked for stand before the value, in an order of
their own.  They are printed together or not at all (`Request.Presents`), and
whether they are does not depend on the bindings: a name without a value is
found too late to hold them back.

The journal and the report of a fault go elsewhere and are not considered.
-/

/-- What a representation prints of an expression, given in postfix order and
as a tree. -/
def Representation.text (ordered : List Token) (tree : Expression Float) :
    Representation -> String
  | postfixLine => Token.postfixLine ordered ++ "\n"
  | drawing => tree.drawing
  | infixLine => tree.infixLine ++ "\n"

/-- The value of an expression with some bindings, if it has one. -/
def verdict (expression : String) (bindings : List (String × Float)) : Option Float :=
  ((calculate .syntaxTree (Bindings.ofList bindings).resolver expression).run ()).1.toOption

private theorem toOption_shuntingYard {σ : Type} (resolver : Resolver σ Float) (text : String)
    (state : σ) :
    ((calculate .shuntingYard resolver text).run state).1.toOption =
      ((calculate .syntaxTree resolver text).run state).1.toOption := by
  cases lexer : tokenize text with
  | error failure =>
      rw [run_calculate_of_lexical _ _ _ lexer, run_calculate_of_lexical _ _ _ lexer]
  | ok tokens =>
      by_cases empty : tokens = []
      · subst empty
        rw [run_calculate_of_blank _ _ _ lexer, run_calculate_of_blank _ _ _ lexer]
      · cases parsed : parse tokens with
        | error failure =>
            rcases toPostfix_error_of_parse_error lexer empty parsed with ⟨other, refused⟩
            rw [run_calculate_shuntingYard _ _ lexer empty, refused,
              run_calculate_syntaxTree _ _ lexer empty, parsed]
            rfl
        | ok tree => rw [run_calculate_of_parse lexer parsed, run_calculate_of_parse lexer parsed]

theorem verdict_of_error {expression : String} {bindings : List (String × Float)}
    {failure : Failure}
    (failed : (calculate .syntaxTree (Bindings.ofList bindings).resolver expression).run () =
      (.error failure, ())) : verdict expression bindings = none := by
  rw [verdict, failed]
  rfl

/-- How a run ends that has printed some pieces first: with the value on a line
of its own, or with nothing more. -/
inductive Output.Ends (output : Output) (pieces : List String) : Option Float -> Prop where
  | value {value : Float} (code : output.code = 0)
      (printed : output.printed = String.join pieces ++ NumberStyle.plain.write value ++ "\n") :
      Ends output pieces (some value)
  | fault (code : output.code = 1) (printed : output.printed = String.join pieces) :
      Ends output pieces none

namespace Account

variable {α β : Type} {first : Account α} {second : α -> Account β}

theorem bind_of_ok {value : α} (done : first.result = .ok value) :
    first >>= second =
      ⟨first.printed ++ (second value).printed, first.journal ++ (second value).journal,
        (second value).result⟩ := by
  change andThen first second = _
  rw [andThen, done]

theorem bind_of_error {fault : Fault} (failed : first.result = .error fault) :
    first >>= second = ⟨first.printed, first.journal, .error fault⟩ := by
  change andThen first second = _
  rw [andThen, failed]

theorem result_attempt {context : String} {journal : List Entry} {result : Except Failure α} :
    (attempt context journal result).result.toOption = result.toOption := by
  cases result <;> rfl

end Account

namespace Request

variable (request : Request)

def wanted : List Representation :=
  [.postfixLine, .drawing, .infixLine].filter request.wants

/-- The pieces that are printed for a request before the calculation: all that
it asks for, or none if there is no tree. -/
inductive Presents : List String -> Prop where
  | none (noTree : ∀ tree, convert request.expression ≠ .ok tree) : Presents []
  | all {tokens ordered : List Token} {tree : Expression Float}
      (lexer : tokenize request.expression = .ok tokens) (parsed : parse tokens = .ok tree)
      (converted : toPostfix tokens = .ok ordered) :
      Presents (request.wanted.map (Representation.text ordered tree))

/-! ## The representations -/

/-- Tokens with a tree are presented completely. -/
private theorem printRepresentations_of_parse {tokens ordered : List Token}
    {tree : Expression Float} (parsed : parse tokens = .ok tree)
    (converted : toPostfix tokens = .ok ordered) :
    (request.printRepresentations tokens).printed =
        request.wanted.map (Representation.text ordered tree) ∧
      (request.printRepresentations tokens).result = .ok () := by
  rw [printRepresentations, printPostfix, parsed, converted]
  simp only [printTree, wanted, List.filter_cons, List.filter_nil]
  cases request.wants .postfixLine <;> cases request.wants .drawing <;>
    cases request.wants .infixLine <;>
    cases tree.names.filter (fun name => (request.values.value? name).isNone) <;>
    exact ⟨rfl, rfl⟩

private theorem printRepresentations_of_error {tokens : List Token} {failure other : Failure}
    (failed : parse tokens = .error failure) (refused : toPostfix tokens = .error other) :
    (request.printRepresentations tokens).printed = [] := by
  rw [printRepresentations, printPostfix, failed, refused]
  cases request.wants .postfixLine <;> cases request.wants .drawing <;>
    cases request.wants .infixLine <;> rfl

private theorem present_of_tokens {tokens : List Token}
    (lexer : tokenize request.expression = .ok tokens) (nonempty : tokens ≠ []) :
    request.present.printed = (request.printRepresentations tokens).printed ∧
      request.present.result = (request.printRepresentations tokens).result := by
  rw [present, lexer]
  cases tokens with
  | nil => exact absurd rfl nonempty
  | cons token rest => exact ⟨rfl, rfl⟩

/-- The first part of the work presents what there is, and fails only where the
second part would. -/
theorem present_spec :
    request.Presents request.present.printed ∧
      ∀ fault, request.present.result = .error fault ->
        verdict request.expression request.bindings = none := by
  have noTree {tokens : List Token} (lexer : tokenize request.expression = .ok tokens)
      (failed : ∀ tree, parse tokens ≠ .ok tree) :
      ∀ tree, convert request.expression ≠ .ok tree := by
    intro tree converted
    rcases convert_eq_ok_iff.mp converted with ⟨others, lexer', parsed⟩
    cases lexer.symm.trans lexer'
    exact failed tree parsed
  cases lexer : tokenize request.expression with
  | error failure =>
      have silent : request.present.printed = [] := by
        rw [present, lexer]
        rfl
      rw [silent]
      refine ⟨.none fun tree converted => ?_, fun _ _ => ?_⟩
      · rcases convert_eq_ok_iff.mp converted with ⟨tokens, lexer', _⟩
        cases lexer.symm.trans lexer'
      · exact verdict_of_error (run_calculate_of_lexical _ _ _ lexer)
  | ok tokens =>
      by_cases empty : tokens = []
      · subst empty
        have nothing : request.present.printed = [] ∧ request.present.result = .ok () := by
          rw [present, lexer]
          exact ⟨rfl, rfl⟩
        rw [nothing.1, nothing.2]
        exact ⟨.none (noTree lexer fun tree parsed =>
          (derives_of_parse (by simp) parsed).ne_nil rfl), nofun⟩
      · rcases request.present_of_tokens lexer empty with ⟨printed, result⟩
        rw [printed, result]
        cases parsed : parse tokens with
        | error failure =>
            rcases toPostfix_error_of_parse_error lexer empty parsed with ⟨other, refused⟩
            rw [request.printRepresentations_of_error parsed refused]
            refine ⟨.none (noTree lexer (by simp [parsed])), fun _ _ => ?_⟩
            apply verdict_of_error
            rw [run_calculate_syntaxTree _ _ lexer empty, parsed]
        | ok tree =>
            have derived := derives_of_parse (Lexer.endless_of_tokenize lexer) parsed
            rcases toPostfix_of_derives derived with ⟨ordered, converted, _⟩
            have complete := request.printRepresentations_of_parse parsed converted
            rw [complete.1, complete.2]
            exact ⟨.all lexer parsed converted, nofun⟩

/-! ## The value -/

theorem printed_calculate : request.calculate.printed = [] := by
  rw [calculate]
  cases request.method <;> rfl

theorem toOption_calculate :
    request.calculate.result.toOption = verdict request.expression request.bindings := by
  have steady (name : String) : (request.values.resolver (σ := Unit) name).Steady :=
    Resolver.steady_ofFunction _ name
  rw [calculate]
  cases request.method with
  | tree => exact Account.result_attempt
  | shuntingYard =>
      rw [Account.result_attempt, toOption_shuntingYard]
      rfl
  | both =>
      rw [Account.result_attempt, result_crossCheck steady]
      rfl

/-- The whole work prints what the first part presents, and ends as the
calculation alone would. -/
theorem account_spec :
    request.Presents request.account.printed ∧
      request.account.result.toOption = verdict request.expression request.bindings := by
  rcases request.present_spec with ⟨presents, fails⟩
  have noted : (Account.note (.bindings request.values)).result = .ok () := rfl
  have unprinted : (Account.note (.bindings request.values)).printed = [] := rfl
  rw [account, Account.bind_of_ok noted, unprinted, List.nil_append]
  cases result : request.present.result with
  | error fault =>
      rw [Account.bind_of_error result]
      exact ⟨presents, (fails fault result).symm⟩
  | ok _ =>
      rw [Account.bind_of_ok result, printed_calculate, List.append_nil]
      exact ⟨presents, request.toOption_calculate⟩

/-- The output of a request. -/
theorem output_spec :
    ∃ pieces, request.Presents pieces ∧
      request.output.Ends pieces (verdict request.expression request.bindings) := by
  rcases request.account_spec with ⟨presents, ends⟩
  refine ⟨request.account.printed, presents, ?_⟩
  rw [← ends, output]
  cases request.account.result with
  | error fault => exact .fault rfl rfl
  | ok value => exact .value rfl rfl

end Request

/-- What is asked for is printed although a name has no value. -/
example :
    (run ["--infix", "x+1", "--postfix"]).toOption.map (fun output =>
      (output.code, output.printed)) = some (1, "x 1 +\nx + 1\n") := by
  decide +kernel

end Command
end Reckoner
