import Reckoner.Command.Request
import Reckoner.Expression.Infix

namespace Reckoner
namespace Command

/-!
# Carrying out a request

A request is carried out in two parts.  The first prints the representations
that were asked for, always in the same order, and warns of names that have no
value.  The second calculates.  An expression without tokens has no
representations, and one that is no tree leaves the report of this to the
second part, unless a representation asked for needs the tree.

Each part leaves an account: the pieces of text it printed, the journal, and
the fault that ended it if there was one.  After a fault nothing more is done.
-/

/-- A failure and what was being done. -/
structure Fault where
  context : String
  cause : Failure

/-- What a part of the work leaves behind. -/
structure Account (α : Type) where
  printed : List String
  journal : List Entry
  result : Except Fault α

namespace Account

variable {α β : Type}

def nothing : Account Unit := ⟨[], [], .ok ()⟩

def print (text : String) : Account Unit := ⟨[text], [], .ok ()⟩

def note (entry : Entry) : Account Unit := ⟨[], [entry], .ok ()⟩

/-- The account of a computation with its journal; a failure is reported in a
context. -/
def attempt (context : String) (journal : List Entry) (result : Except Failure α) : Account α :=
  ⟨[], journal, result.mapError (Fault.mk context)⟩

/-- The account of two parts, of which the second is only begun if the first
did not fail. -/
def andThen (first : Account α) (second : α -> Account β) : Account β :=
  match first.result with
  | .error fault => ⟨first.printed, first.journal, .error fault⟩
  | .ok result =>
    let next := second result
    ⟨first.printed ++ next.printed, first.journal ++ next.journal, next.result⟩

instance : Monad Account where
  pure result := ⟨[], [], .ok result⟩
  bind := andThen

end Account

namespace Request

variable (request : Request)

def values : Bindings :=
  Bindings.ofList request.bindings

def wants (representation : Representation) : Bool :=
  request.representations.contains representation

/-- Prints the tokens in postfix order, if this is asked for. -/
def printPostfix (tokens : List Token) : Account Unit :=
  if request.wants .postfixLine then do
    let ordered ← Account.attempt "could not convert to postfix" (Journal.ofConversion tokens)
      (toPostfix tokens)
    Account.print (Token.postfixLine ordered ++ "\n")
  else Account.nothing

/-- Prints the representations of a tree that are asked for, and warns of names
without values. -/
def printTree (expression : Expression Float) : Account Unit := do
  if request.wants .drawing then
    Account.print expression.drawing
  if request.wants .infixLine then
    Account.print (expression.infixLine ++ "\n")
  let unbound := expression.names.filter fun name => (request.values.value? name).isNone
  if !unbound.isEmpty then
    Account.note (.unbound unbound)

/-- Prints what is asked for of tokens that are not empty. -/
def printRepresentations (tokens : List Token) : Account Unit := do
  request.printPostfix tokens
  match parse tokens with
  | .ok expression => request.printTree expression
  | .error failure =>
    if request.wants .drawing || request.wants .infixLine then
      Account.attempt "could not build expression tree" [] (.error failure)
    else Account.nothing

/-- The first part of the work. -/
def present : Account Unit := do
  let tokens ← Account.attempt ("could not tokenize '" ++ request.expression ++ "'")
    (Journal.ofTokenizing request.expression) (tokenize request.expression)
  if !tokens.isEmpty then
    request.printRepresentations tokens

/-- The second part of the work. -/
def calculate : Account Float :=
  let context := "could not calculate '" ++ request.expression ++ "'"
  let resolver : Resolver Unit Float := request.values.resolver
  let byStrategy (strategy : Strategy) : Account Float :=
    Account.attempt context (Journal.ofCalculation strategy resolver () request.expression)
      ((Reckoner.calculate strategy resolver request.expression).run ()).1
  match request.method with
  | .tree => byStrategy .syntaxTree
  | .shuntingYard => byStrategy .shuntingYard
  | .both =>
    Account.attempt context (Journal.ofCrossCheck resolver () request.expression)
      ((crossCheck resolver request.expression).run ()).1

/-- The whole work. -/
def account : Account Float := do
  Account.note (.bindings request.values)
  request.present
  request.calculate

end Request

/-- What a run leaves to the outside. -/
structure Output where
  code : Nat
  printed : String
  reported : String
  deriving DecidableEq

def Fault.report (fault : Fault) : String :=
  "Error: " ++ fault.context ++ "\n\nCaused by:\n    " ++ fault.cause.message ++ "\n"

/-- The output of a request: the value on a line of its own behind what was
printed before, or the report of the fault behind the journal. -/
def Request.output (request : Request) : Output :=
  let account := request.account
  let shown := account.journal.filter fun entry => entry.level.rank ≤ request.loudness
  let journal := String.join (shown.map fun entry => entry.line ++ "\n")
  let printed := String.join account.printed
  match account.result with
  | .ok value => ⟨0, printed ++ NumberStyle.plain.write value ++ "\n", journal⟩
  | .error fault => ⟨1, printed, journal ++ fault.report⟩

/-- The output of the command line, or why there is none. -/
def run (arguments : List String) : Except UsageFault Output :=
  (Request.read arguments).map Request.output

end Command
end Reckoner
