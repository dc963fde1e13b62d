import Reckoner.Number.Style

namespace Reckoner

/-!
# Failures

Everything that can go wrong between the text of an expression and its value,
as causes.  The wording is in one function, `Failure.message`.
-/

/-- The stages that work on tokens without knowing where these come from, and
refuse those that have no place there. -/
inductive Stage where
  | conversion
  | stackEvaluation
  | treeConstruction
  deriving DecidableEq

def Stage.name : Stage -> String
  | conversion => "Shunting-yard"
  | stackEvaluation => "RPN evaluation"
  | treeConstruction => "Tree construction"

/-- Why an expression has no tokens, no tree or no value.  Positions count
characters from zero. -/
inductive Failure where
  /-- A character that begins no lexeme. -/
  | unknownSymbol (symbol : Char) (position : Nat)
  /-- A number without digits before its point, or beyond every finite
  number. -/
  | invalidNumber (position : Nat)
  /-- A name without letters. -/
  | invalidVariable (position : Nat)
  /-- A parenthesis without its partner, as the conversion to postfix order
  meets it. -/
  | mismatchedParenthesis
  /-- A parenthesis left open, as the construction of a tree meets it. -/
  | missingCloseParenthesis
  /-- A token in a place where the grammar has none of its kind. -/
  | unexpectedToken (shown : String)
  /-- A token that a stage cannot handle in any place. -/
  | unsupportedToken (stage : Stage) (shown : String)
  /-- An operator in postfix order with too few operands before it. -/
  | missingOperand
  /-- Operands left over at the end, or none. -/
  | resultCount (count : Nat)
  /-- A name without a value. -/
  | unknownVariable (name : String)
  /-- Two values of one expression that differ by more than rounding. -/
  | strategiesDisagree (ofTree ofPostfix : Float)
  deriving DecidableEq

namespace Failure

def message : Failure -> String
  | unknownSymbol symbol position =>
    "Unknown symbol '" ++ symbol.toString ++ "' at position " ++ toString position
  | invalidNumber position => "Invalid number at position " ++ toString position
  | invalidVariable position => "Invalid variable at position " ++ toString position
  | mismatchedParenthesis => "Mismatched parenthesis"
  | missingCloseParenthesis => "Missing close parenthesis"
  | unexpectedToken shown => "Unexpected token: " ++ shown
  | unsupportedToken stage shown => stage.name ++ " failed, unsupported token found: " ++ shown
  | missingOperand => "Expected an operand, but none was left"
  | resultCount count =>
    "Calculation failed, expected a single result, but was: " ++ toString count
  | unknownVariable name => "Unknown variable: " ++ name
  | strategiesDisagree ofTree ofPostfix =>
    "Strategies disagree: syntax tree gave " ++ NumberStyle.plain.write ofTree ++
      ", shunting-yard gave " ++ NumberStyle.plain.write ofPostfix

end Failure
end Reckoner
