import Reckoner.Expression
import Reckoner.Number.Style
import Reckoner.Text.Outline
import Reckoner.Text.Quoted

namespace Reckoner
namespace Expression

/-!
# Showing a tree as a tree

A drawing has a line for every node, in the order root, left operand, right
operand.  It is the outline of the tree below a line of its own that says what
is drawn.  The tree is visited once, and what is below an operator is added
between its begin and its end.

A description puts the same tree on one line, each operator by its name and
with its operands in parentheses, the numbers in the style that tells them from
whole numbers, and the names in quotes.
-/

/-- The text of the root of a tree. -/
def label : Expression Float -> String
  | number value => NumberStyle.plain.write value
  | identifier name => name
  | negate _ => "-"
  | binary op _ _ => op.symbol.toString

/-- What a sketch becomes by a visit of a tree. -/
def sketched (sketch : Sketch) : Expression Float -> Sketch
  | number value => sketch.leaf (number value).label
  | identifier name => sketch.leaf (identifier name).label
  | negate operand => (operand.sketched (sketch.begin (negate operand).label)).finish
  | binary op left right =>
    (right.sketched (left.sketched (sketch.begin (binary op left right).label))).finish

def drawing (expression : Expression Float) : String :=
  (expression.sketched (Sketch.start "expression")).outline.written

/-- The description of a tree on one line. -/
def described : Expression Float -> String
  | number value => NumberStyle.explicit.write value
  | identifier name => Quoted.text name
  | negate operand => "Negate(" ++ operand.described ++ ")"
  | binary op left right =>
    op.name ++ "(" ++ left.described ++ ", " ++ right.described ++ ")"

end Expression
end Reckoner
