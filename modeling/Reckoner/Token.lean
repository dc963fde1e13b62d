import Reckoner.Operator

namespace Reckoner

/-!
# Tokens

A token is the smallest unit of an expression that has a meaning: a number, the
name of a variable, an operator, a parenthesis.  Its kind says what it is and
its text how it was written.  Two kinds are never found in a text.  Negation is
what a run of signs before an operand amounts to, and the end of the expression
stands behind the last token.

The text of a token takes no part in its meaning unless the kind is that of
numbers or names.
-/

/-- What a token is. -/
inductive TokenKind where
  | number
  | identifier
  | binary (op : Operator)
  | negate
  | opening
  | closing
  | endOfInput
  deriving DecidableEq

namespace TokenKind

def spelling? : TokenKind -> Option String
  | binary op => some op.symbol.toString
  | negate => some "-"
  | opening => some "("
  | closing => some ")"
  | number | identifier | endOfInput => none

/-- The kind that a character stands for on its own.  A minus sign is a
subtraction here; whether it negates depends on what stands before it. -/
def ofSymbol? : Char -> Option TokenKind
  | '+' => some (binary .add)
  | '-' => some (binary .subtract)
  | '*' => some (binary .multiply)
  | '/' => some (binary .divide)
  | '(' => some opening
  | ')' => some closing
  | _ => none

def name : TokenKind -> String
  | number => "Number"
  | identifier => "Variable"
  | binary op => op.name
  | negate => "Negate"
  | opening => "OpenParenthesis"
  | closing => "CloseParenthesis"
  | endOfInput => "EndOfInput"

/-- The operator between two operands that a kind is, if it is one. -/
def operator? : TokenKind -> Option Operator
  | binary op => some op
  | _ => none

def isSign : TokenKind -> Bool
  | binary .add | binary .subtract | negate => true
  | _ => false

def isNegating : TokenKind -> Bool
  | binary .subtract | negate => true
  | _ => false

end TokenKind

/-- A kind and a text. -/
structure Token where
  kind : TokenKind
  text : String
  deriving DecidableEq

namespace Token

/-- The token of a kind with its only spelling; the text is empty where there
is none. -/
def ofKind (kind : TokenKind) : Token :=
  ⟨kind, kind.spelling?.getD ""⟩

def isBinary (token : Token) : Bool :=
  token.kind.operator?.isSome

def isSign (token : Token) : Bool :=
  token.kind.isSign

def isNegating (token : Token) : Bool :=
  token.kind.isNegating

/-- How a reader of the expression is told of a token. -/
def shown (token : Token) : String :=
  match token.kind with
  | .endOfInput => "end of expression"
  | _ => token.text

/-- How a token is described in a log: its kind, and its text where that
carries meaning. -/
def described (token : Token) : String :=
  match token.kind with
  | .number | .identifier => token.kind.name ++ "(" ++ token.text ++ ")"
  | kind => kind.name

def describedList (tokens : List Token) : String :=
  "[" ++ ", ".intercalate (tokens.map described) ++ "]"

def shownFirst : List Token -> String
  | [] => (ofKind .endOfInput).shown
  | token :: _ => token.shown

/-- Tokens as a line of text.  Blanks surround the operators between two
operands and stand nowhere else. -/
def line (tokens : List Token) : String :=
  String.join (tokens.map fun token =>
    if token.isBinary then " " ++ token.shown ++ " " else token.shown)

/-- How a token is shown in a line of postfix notation, where a minus sign has
to be told apart from a negation. -/
def shownInPostfix (token : Token) : String :=
  match token.kind with
  | .negate => "~"
  | _ => token.shown

/-- Tokens in postfix order as a line of text, with single blanks between
them. -/
def postfixLine (tokens : List Token) : String :=
  " ".intercalate (tokens.map shownInPostfix)

end Token
end Reckoner
