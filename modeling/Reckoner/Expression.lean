import Reckoner.Operator

namespace Reckoner

/-!
# Expressions

An expression is a tree.  Its leaves are numbers and names of variables, and
its inner nodes are negations and the four operators.  The numbers may be of
any type, so that one tree can be read in several arithmetics; the calculator
has binary64 numbers at the leaves.

Parentheses leave no trace in a tree, and signs only as far as they negate.
-/

/-- A tree of operators over numbers and names. -/
inductive Expression (ν : Type) where
  | number (value : ν)
  | identifier (name : String)
  | negate (operand : Expression ν)
  | binary (op : Operator) (left right : Expression ν)
  deriving DecidableEq

namespace Expression

variable {ν μ : Type}

def isLeaf : Expression ν -> Bool
  | number _ | identifier _ => true
  | negate _ | binary .. => false

/-- The operator at the root, if there are two operands below it. -/
def operator? : Expression ν -> Option Operator
  | binary op _ _ => some op
  | number _ | identifier _ | negate _ => none

def map (f : ν -> μ) : Expression ν -> Expression μ
  | number value => number (f value)
  | identifier name => identifier name
  | negate operand => negate (operand.map f)
  | binary op left right => binary op (left.map f) (right.map f)

def leaves : Expression ν -> List (Expression ν)
  | number value => [number value]
  | identifier name => [identifier name]
  | negate operand => operand.leaves
  | binary _ left right => left.leaves ++ right.leaves

/-- The names from left to right, each as often as it occurs. -/
def occurrences : Expression ν -> List String
  | number _ => []
  | identifier name => [name]
  | negate operand => operand.occurrences
  | binary _ left right => left.occurrences ++ right.occurrences

/-- Each member of a list where it stands first. -/
def firstOccurrences : List String -> List String
  | [] => []
  | name :: rest => name :: (firstOccurrences rest).filter (· != name)

/-- The names of a tree without repetition, in the order in which they first
occur. -/
def names (expression : Expression ν) : List String :=
  firstOccurrences expression.occurrences

/-- No name is lost or invented by keeping first occurrences. -/
theorem mem_firstOccurrences {name : String} {all : List String} :
    name ∈ firstOccurrences all ↔ name ∈ all := by
  induction all with
  | nil => simp [firstOccurrences]
  | cons first rest inductionHypothesis =>
      simp only [firstOccurrences, List.mem_cons, List.mem_filter, inductionHypothesis]
      grind

theorem nodup_firstOccurrences (all : List String) : (firstOccurrences all).Nodup := by
  induction all with
  | nil => simp [firstOccurrences]
  | cons first rest inductionHypothesis =>
      simp only [firstOccurrences, List.nodup_cons, List.mem_filter]
      exact ⟨by simp, inductionHypothesis.filter _⟩

/-- Whether two trees have the same shape and names, and equal numbers where
these are compared as numbers: the two zeros are equal, and what is not a
number differs even from itself. -/
def agrees : Expression Float -> Expression Float -> Bool
  | number a, number b => a == b
  | identifier a, identifier b => a == b
  | negate a, negate b => a.agrees b
  | binary op left right, binary op' left' right' =>
    op == op' && left.agrees left' && right.agrees right'
  | _, _ => false

end Expression
end Reckoner
