import Reckoner.Calculator
import Reckoner.Expression.Drawing

namespace Reckoner

/-!
# The journal of a calculation

While a text is calculated the calculator can keep a journal of what it does:
which tokens it found, how the conversion to postfix order went token by token,
and what came out.  An entry is kept as what happened, and its text is made
when it is shown.

The journal does not influence the calculation.  It is given here as functions
of the same inputs, beside the functions that compute the results, so that
statements about results never have to speak of it.

An entry is left out where the calculation ended before it: a text without
tokens has an entry, a text that could not be split into tokens has none.
-/

/-- How much an entry matters, the most important first. -/
inductive Level where
  | error
  | warn
  | info
  | debug
  | trace
  deriving DecidableEq

namespace Level

def word : Level -> String
  | error => "ERROR"
  | warn => "WARN"
  | info => "INFO"
  | debug => "DEBUG"
  | trace => "TRACE"

def rank : Level -> Nat
  | error => 1
  | warn => 2
  | info => 3
  | debug => 4
  | trace => 5

end Level

/-- The parts of the calculator that write entries. -/
inductive Origin where
  | command
  | lexer
  | converter
  | calculator
  deriving DecidableEq

/-- The address of a part, as it is written in front of an entry. -/
def Origin.address : Origin -> String
  | command => "infix_calculator"
  | lexer => "infix_calculator::interpreter::lexer"
  | converter => "infix_calculator::interpreter::parser::infix_converter"
  | calculator => "infix_calculator::interpreter::calculator"

/-- An entry of the journal, as what happened. -/
inductive Entry where
  /-- A text was split into tokens. -/
  | tokenized (text : String) (tokens : List Token)
  /-- A token is about to be converted in a state of the conversion. -/
  | converting (yard : Yard) (token : Token)
  /-- A text had no tokens. -/
  | nothingToCalculate (text : String)
  /-- The postfix form of a text was found. -/
  | postfixForm (tokens : List Token)
  /-- The tree of a text was found. -/
  | tree (expression : Expression Float)
  /-- An evaluation ended in a value or a failure. -/
  | outcome (text : String) (strategy : Strategy) (result : Except Failure Float)
  /-- The values of names were given. -/
  | bindings (given : Bindings)
  /-- An expression has names that were given no value. -/
  | unbound (names : List String)

namespace Entry

def level : Entry -> Level
  | converting .. => .trace
  | unbound _ => .warn
  | _ => .debug

def origin : Entry -> Origin
  | tokenized .. => .lexer
  | converting .. => .converter
  | bindings _ | unbound _ => .command
  | nothingToCalculate _ | postfixForm _ | tree _ | outcome .. => .calculator

/-- The text of some bindings, names in quotes and values in the style that
tells them from whole numbers. -/
def describedBindings (bindings : Bindings) : String :=
  "\x7b" ++ ", ".intercalate (bindings.map fun (name, value) =>
    Quoted.text name ++ ": " ++ NumberStyle.explicit.write value) ++ "\x7d"

def text : Entry -> String
  | tokenized text tokens =>
    "Tokenized " ++ Quoted.text text ++ " into " ++ Token.describedList tokens
  | converting yard token =>
    token.described ++ " | output " ++ Token.describedList yard.output.reverse ++
      " | operators " ++ Token.describedList yard.operators
  | nothingToCalculate text =>
    "Expression " ++ Quoted.text text ++ " is empty, nothing to calculate"
  | postfixForm tokens => "Postfix form: " ++ Token.describedList tokens
  | tree expression => "Expression tree: " ++ expression.described
  | outcome text strategy (.ok value) =>
    Quoted.text text ++ " = " ++ NumberStyle.plain.write value ++ " (" ++ strategy.word ++ ")"
  | outcome text strategy (.error failure) =>
    Quoted.text text ++ " failed (" ++ strategy.word ++ "): " ++ failure.message
  | bindings given => "Variables: " ++ describedBindings given
  | unbound names => "Unbound variables: " ++ ", ".intercalate names

/-- The entry as a line of a report.  The level is padded to the width of the
longest. -/
def line (entry : Entry) : String :=
  let word := entry.level.word
  "[" ++ word ++ String.ofList (List.replicate (5 - word.length) ' ') ++ " " ++
    entry.origin.address ++ "] " ++ entry.text

end Entry

namespace Journal

def ofTokenizing (text : String) : List Entry :=
  match tokenize text with
  | .error _ => []
  | .ok tokens => [Entry.tokenized text tokens]

def ofConversion (tokens : List Token) : List Entry :=
  (Yard.visits .unbounded .start tokens).map fun (yard, token) => Entry.converting yard token

variable {σ : Type}

def ofEvaluation (strategy : Strategy) (resolver : Resolver σ Float) (state : σ) (text : String)
    (tokens : List Token) : List Entry :=
  match strategy with
  | .shuntingYard =>
    ofConversion tokens ++
      match toPostfix tokens with
      | .error _ => []
      | .ok ordered =>
        [Entry.postfixForm ordered,
          Entry.outcome text strategy ((Postfix.evaluate resolver ordered).run state).1]
  | .syntaxTree =>
    match parse tokens with
    | .error _ => []
    | .ok expression =>
      [Entry.tree expression,
        Entry.outcome text strategy ((expression.evaluate resolver).run state).1]

def ofCalculation (strategy : Strategy) (resolver : Resolver σ Float) (state : σ)
    (text : String) : List Entry :=
  ofTokenizing text ++
    match tokenize text with
    | .error _ => []
    | .ok [] => [Entry.nothingToCalculate text]
    | .ok tokens => ofEvaluation strategy resolver state text tokens

/-- The journal of a calculation by both strategies.  The second one is only
begun when the first has a value, and finds the resolver in the state that the
first left. -/
def ofCrossCheck (resolver : Resolver σ Float) (state : σ) (text : String) : List Entry :=
  ofCalculation .syntaxTree resolver state text ++
    match (calculate .syntaxTree resolver text).run state with
    | (.ok _, state') => ofCalculation .shuntingYard resolver state' text
    | (.error _, _) => []

end Journal
end Reckoner
