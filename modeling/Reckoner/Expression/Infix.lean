import Reckoner.Expression
import Reckoner.Number.Style
import Reckoner.Token

namespace Reckoner

/-!
# From a tree back to tokens

A tree is written in infix order with as few parentheses as its meaning allows.
Parentheses stand around an operand of an operator where the operand is itself
made by an operator that binds less tightly, and around the right operand of a
subtraction or a division also where both bind equally, because `a - (b - c)`
is not `a - b - c`.  A sum or a product as right operand of its like loses its
parentheses; it is then read as a chain that groups to the left.  Whatever is
negated stands in parentheses unless it is a leaf.
-/

/-- Whether the left operand of an operator needs parentheses, given the
operator it is made by. -/
def Operator.parenthesizesLeft (op : Operator) : Option Operator -> Bool
  | none => false
  | some inner => op.precedence > inner.precedence

def Operator.parenthesizesRight (op : Operator) : Option Operator -> Bool
  | none => false
  | some inner =>
    op.precedence > inner.precedence ||
      (op.precedence == inner.precedence && op.isRightSensitive)

namespace Expression

/-- Tokens, in parentheses where these are needed. -/
def parenthesizeIf (needed : Bool) (tokens : List Token) : List Token :=
  if needed then Token.ofKind .opening :: tokens ++ [Token.ofKind .closing] else tokens

/-- The tokens of a tree in infix order. -/
def toInfix : Expression Float -> List Token
  | number value => [⟨.number, NumberStyle.plain.write value⟩]
  | identifier name => [⟨.identifier, name⟩]
  | negate operand =>
    Token.ofKind .negate :: parenthesizeIf (!operand.isLeaf) operand.toInfix
  | binary op left right =>
    parenthesizeIf (op.parenthesizesLeft left.operator?) left.toInfix ++
      Token.ofKind (.binary op) ::
      parenthesizeIf (op.parenthesizesRight right.operator?) right.toInfix

def infixLine (expression : Expression Float) : String :=
  Token.line expression.toInfix

end Expression
end Reckoner
