namespace Reckoner

/-!
# Operators

Four operators join two operands and one, negation, applies to a single
operand.  This module holds what belongs to them apart from any text they occur
in: their spelling, how tightly they bind, and how they compute in a given
arithmetic.

An arithmetic is any choice of five operations on a type of numbers.  The
calculator works in `Arithmetic.binary64`; statements that do not depend on
rounding can be made for every arithmetic at once.
-/

/-- An operator between two operands. -/
inductive Operator where
  | add
  | subtract
  | multiply
  | divide
  deriving DecidableEq

/-- Which of two neighbouring operators of the same precedence takes the
operand between them. -/
inductive Associativity where
  | left
  | right
  deriving DecidableEq

namespace Operator

def symbol : Operator -> Char
  | add => '+'
  | subtract => '-'
  | multiply => '*'
  | divide => '/'

def name : Operator -> String
  | add => "Add"
  | subtract => "Subtract"
  | multiply => "Multiply"
  | divide => "Divide"

/-- How tightly an operator binds: products before sums. -/
def precedence : Operator -> Nat
  | add | subtract => 1
  | multiply | divide => 2

def associativity (_ : Operator) : Associativity := .left

/-- Whether `a - (b + c)`, for subtraction, differs from the same line without
parentheses; for division likewise.  Sums and products as such may be
regrouped. -/
def isRightSensitive : Operator -> Bool
  | add | multiply => false
  | subtract | divide => true

/-- Negation binds tighter than every operator between two operands. -/
def negationPrecedence : Nat := 3

/-- Negation groups to the right, as it stands before its operand. -/
def negationAssociativity : Associativity := .right

theorem precedence_lt_negationPrecedence (op : Operator) : op.precedence < negationPrecedence := by
  cases op <;> decide

end Operator

/-- The operations that the operators stand for, on some type of numbers. -/
structure Arithmetic (ν : Type) where
  apply : Operator -> ν -> ν -> ν
  negate : ν -> ν

/-- The arithmetic of binary64 numbers, each result rounded to the nearest.
Division by zero gives an infinity or what is not a number. -/
def Arithmetic.binary64 : Arithmetic Float where
  apply
    | .add, a, b => a + b
    | .subtract, a, b => a - b
    | .multiply, a, b => a * b
    | .divide, a, b => a / b
  negate a := -a

end Reckoner
