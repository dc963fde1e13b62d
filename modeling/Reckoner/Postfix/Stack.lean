import Reckoner.Expression
import Reckoner.Number.Numeral
import Reckoner.Resolver
import Reckoner.Token

namespace Reckoner
namespace Postfix

/-!
# Reading postfix order with a stack

Tokens in postfix order are read once.  A number or a name is put on the stack,
and an operator takes its operands from there and puts its result back, the
right operand having been on top.  In the end a single result has to be left.

This is done in two ways.  `Postfix.toExpression` keeps trees on the stack and
builds the tree that the tokens list.  `Postfix.evaluateIn` keeps numbers and
computes, asking for the value of a name in the moment it is met.  Tokens that
never occur in postfix order are refused with the name of the stage they have
reached.
-/

def number (token : Token) : Except Failure Float :=
  match readNumber token.text with
  | some value => .ok value
  | none => .error (.unexpectedToken token.shown)

def single {α : Type} : List α -> Except Failure α
  | [result] => .ok result
  | stack => .error (.resultCount stack.length)

/-- Reads a token onto a stack of trees, the top first. -/
def buildStep (stack : List (Expression Float)) (token : Token) :
    Except Failure (List (Expression Float)) :=
  match token.kind with
  | .number => (number token).map fun value => .number value :: stack
  | .identifier => .ok (.identifier token.text :: stack)
  | .negate =>
    match stack with
    | operand :: below => .ok (.negate operand :: below)
    | [] => .error .missingOperand
  | .binary op =>
    match stack with
    | right :: left :: below => .ok (.binary op left right :: below)
    | _ => .error .missingOperand
  | .opening | .closing | .endOfInput =>
    .error (.unsupportedToken .treeConstruction token.shown)

/-- The tree that some tokens list in postfix order. -/
def toExpression (tokens : List Token) : Except Failure (Expression Float) := do
  single (← tokens.foldlM buildStep [])

variable {σ : Type}

/-- Reads a token onto a stack of numbers, the top first. -/
def evaluateStep (arithmetic : Arithmetic Float) (resolver : Resolver σ Float)
    (stack : List Float) (token : Token) : Evaluation σ (List Float) :=
  match token.kind with
  | .number => do
    let value ← Evaluation.ofResult (number token)
    pure (value :: stack)
  | .identifier => do
    let value ← resolver token.text
    pure (value :: stack)
  | .negate =>
    match stack with
    | operand :: below => pure (arithmetic.negate operand :: below)
    | [] => throw .missingOperand
  | .binary op =>
    match stack with
    | right :: left :: below => pure (arithmetic.apply op left right :: below)
    | _ => throw .missingOperand
  | .opening | .closing | .endOfInput =>
    throw (.unsupportedToken .stackEvaluation token.shown)

/-- The value of some tokens in postfix order, in an arithmetic. -/
def evaluateIn (arithmetic : Arithmetic Float) (resolver : Resolver σ Float)
    (tokens : List Token) : Evaluation σ Float := do
  let stack ← tokens.foldlM (evaluateStep arithmetic resolver) []
  Evaluation.ofResult (single stack)

def evaluate (resolver : Resolver σ Float) (tokens : List Token) : Evaluation σ Float :=
  evaluateIn .binary64 resolver tokens

end Postfix
end Reckoner
