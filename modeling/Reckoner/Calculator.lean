import Reckoner.Conversion
import Reckoner.Expression.Value

namespace Reckoner

/-!
# The calculator

A text is calculated by one of two strategies.  One builds a tree and evaluates
it, the other brings the tokens into postfix order and evaluates these on a
stack.  A text without tokens has the value zero under both.

To be sure of a result both can be used, the tree first.  They then have to
agree up to rounding; the value of the tree is the result.
-/

/-- How a text is turned into a value. -/
inductive Strategy where
  | shuntingYard
  | syntaxTree
  deriving DecidableEq

namespace Strategy

def usual : Strategy := .syntaxTree

def word : Strategy -> String
  | shuntingYard => "shunting-yard"
  | syntaxTree => "tree"

def name : Strategy -> String
  | shuntingYard => "ShuntingYard"
  | syntaxTree => "SyntaxTree"

/-- The form in which a word is compared and reported: the capital letters of
ASCII are small. -/
def folded (text : String) : String :=
  String.ofList (text.toList.map Char.toLower)

/-- The strategy that a word asks for.  Each has two words, in capitals or
not. -/
def ofWord? (text : String) : Option Strategy :=
  let word := folded text
  if word = "shunting-yard" || word = "postfix" then some shuntingYard
  else if word = "tree" || word = "syntax-tree" then some syntaxTree
  else none

def unknownMessage (text : String) : String :=
  "unknown strategy '" ++ folded text ++ "'"

end Strategy

/-- Whether two values are the same up to rounding: both are no number, or they
are equal, or they differ by at most a thousand-millionth of the greater one.
The bound is itself a binary64 number, and infinite if one of the values is. -/
def valuesAgree (a b : Float) : Bool :=
  (a.isNaN && b.isNaN) || a == b || (a - b).abs ≤ 1e-9 * greaterMagnitude
where
  /-- The greater of the magnitudes of two values; one that is no number gives
  way to the other. -/
  greaterMagnitude : Float :=
    if a.isNaN then b.abs
    else if b.isNaN then a.abs
    else if a.abs < b.abs then b.abs
    else a.abs

variable {σ : Type}

/-- The value of a text by a strategy, the minus signs of a run counted in
given ways. -/
def calculateCounting (counters : SignCounters) (strategy : Strategy)
    (resolver : Resolver σ Float) (text : String) : Evaluation σ Float := do
  let tokens ← Evaluation.ofResult (tokenize text)
  if tokens.isEmpty then pure 0
  else
    match strategy with
    | .shuntingYard =>
      let ordered ← Evaluation.ofResult (toPostfixCounting counters.yard tokens)
      Postfix.evaluate resolver ordered
    | .syntaxTree =>
      let tree ← Evaluation.ofResult (parseCounting counters.descent tokens)
      tree.evaluate resolver

/-- The value of a text, by a strategy. -/
def calculate (strategy : Strategy) (resolver : Resolver σ Float) (text : String) :
    Evaluation σ Float :=
  calculateCounting .unbounded strategy resolver text

/-- The value of a text, found by both strategies one after the other, if they
agree.  The minus signs of a run are counted in given ways. -/
def crossCheckCounting (counters : SignCounters) (resolver : Resolver σ Float) (text : String) :
    Evaluation σ Float := do
  let ofTree ← calculateCounting counters .syntaxTree resolver text
  let ofPostfix ← calculateCounting counters .shuntingYard resolver text
  if valuesAgree ofTree ofPostfix then pure ofTree
  else throw (.strategiesDisagree ofTree ofPostfix)

/-- The value of a text, found by both strategies one after the other, if they
agree. -/
def crossCheck (resolver : Resolver σ Float) (text : String) : Evaluation σ Float :=
  crossCheckCounting .unbounded resolver text

end Reckoner
