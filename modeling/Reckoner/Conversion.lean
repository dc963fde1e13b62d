import Reckoner.Expression.Descent
import Reckoner.Postfix.Stack
import Reckoner.Postfix.Yard
import Reckoner.Token.Lexer

namespace Reckoner

/-!
# Ways to a tree

There are two ways from tokens to a tree.  One descends through the grammar,
the other brings the tokens into postfix order and builds the tree from its
leaves.  The first is the one that turns texts into trees.
-/

/-- The tree of some tokens, by way of postfix order. -/
def parseViaPostfix (tokens : List Token) : Except Failure (Expression Float) := do
  Postfix.toExpression (← toPostfix tokens)

/-- The tree of a text, the minus signs of a run counted in a given way. -/
def convertCounting (counter : SignCounter) (text : String) :
    Except Failure (Expression Float) := do
  parseCounting counter (← tokenize text)

/-- The tree of a text. -/
def convert (text : String) : Except Failure (Expression Float) :=
  convertCounting .unbounded text

end Reckoner
