import Reckoner.Calculator
import Reckoner.Command.Binding
import Reckoner.Journal

namespace Reckoner
namespace Command

/-!
# Requests on the command line

The arguments of the command line name one expression and options.  An option
may have a value, which is attached to it or is the next argument.  Single
letters can be bundled behind one hyphen until one of them takes a value.
Behind two hyphens alone nothing is an option any more, and before it whatever
begins with a hyphen is one, a hyphen alone excepted; in particular it cannot
be the value of an option, unless attached.

The arguments are read in two passes.  The first splits them into items and
finds what cannot be read at all.  The second looks at the items together:
bindings that are none come first, then methods that are none, then everything
that is missing, repeated or contradictory.

Who asks for help or for the version gets it at once.  Later arguments are not
read then, and of the earlier ones only what cannot be read is reported in its
place, or an expression too many.
-/

inductive Method where
  | tree
  | shuntingYard
  | both
  deriving DecidableEq

/-- The method that a word asks for; the word has to be exact. -/
def Method.ofWord? : String -> Option Method
  | "tree" => some .tree
  | "shunting-yard" => some .shuntingYard
  | "both" => some .both
  | _ => none

inductive Representation where
  | postfixLine
  | drawing
  | infixLine
  deriving DecidableEq

inductive ValuedOption where
  | method
  | binding
  deriving DecidableEq

inductive Information where
  | help
  | version
  deriving DecidableEq

def Information.text : Information -> String
  | help =>
    "Calculates the given infix expression\n\n" ++
      "usage: infix-calculator [options] <expression>"
  | version => "infix-calculator-cli 0.1.0"

/-- The parts of the arguments. -/
inductive Item where
  | expression (text : String)
  | valued (option : ValuedOption) (value : String)
  | representation (kind : Representation)
  | louder
  | quieter
  | information (about : Information)
  deriving DecidableEq

/-- Why arguments make no request.  To ask for information is no fault, but
nothing is calculated then either. -/
inductive UsageFault where
  | unknownOption (text : String)
  | missingValue
  | surplusArgument (text : String)
  | binding (fault : BindingFault)
  | missingExpression
  | unknownMethod (word : String)
  | repeatedOption
  | contradiction
  | information (about : Information)
  deriving DecidableEq

/-- The code with which the program leaves if there is no request. -/
def UsageFault.code : UsageFault -> Nat
  | information _ => 0
  | _ => 2

def UsageFault.message : UsageFault -> String
  | unknownOption text => "unknown option '" ++ text ++ "'"
  | missingValue => "an option lacks its value"
  | surplusArgument text => "surplus argument '" ++ text ++ "'"
  | binding fault => fault.message
  | missingExpression => "no expression given"
  | unknownMethod word => "unknown strategy '" ++ word ++ "'"
  | repeatedOption => "an option is given twice"
  | contradiction => "the output cannot be both louder and quieter"
  | information about => about.text

/-- What an argument is, or the letters of a bundle: some items, and possibly
an option that waits for its value. -/
abbrev Scanned : Type :=
  Except UsageFault (List Item × Option ValuedOption)

/-- Reads a bundle of letters behind a hyphen. -/
def scanLetters : List Char -> Scanned
  | [] => .ok ([], none)
  | c :: rest =>
    let valued (option : ValuedOption) : Scanned :=
      match rest with
      | [] => .ok ([], some option)
      | '=' :: value => .ok ([.valued option (String.ofList value)], none)
      | value => .ok ([.valued option (String.ofList value)], none)
    let flag (item : Item) : Scanned :=
      (scanLetters rest).map fun (items, waiting) => (item :: items, waiting)
    match c with
    | 's' => valued .method
    | 'D' => valued .binding
    | 'v' => flag .louder
    | 'q' => flag .quieter
    | 'h' => .ok ([.information .help], none)
    | 'V' => .ok ([.information .version], none)
    | _ => .error (.unknownOption (String.ofList ['-', c]))

/-- Reads an option with a name behind two hyphens, and its value if one is
attached. -/
def scanNamed (name : List Char) (attached : Option (List Char)) : Scanned :=
  let valued (option : ValuedOption) : Scanned :=
    match attached with
    | none => .ok ([], some option)
    | some value => .ok ([.valued option (String.ofList value)], none)
  let flag (item : Item) : Scanned :=
    match attached with
    | none => .ok ([item], none)
    | some _ => .error (.unknownOption (String.ofList ('-' :: '-' :: name)))
  match String.ofList name with
  | "strategy" => valued .method
  | "define" => valued .binding
  | "postfix" => flag (.representation .postfixLine)
  | "tree" => flag (.representation .drawing)
  | "infix" => flag (.representation .infixLine)
  | "verbose" => flag .louder
  | "quiet" => flag .quieter
  | "help" => flag (.information .help)
  | "version" => flag (.information .version)
  | _ => .error (.unknownOption (String.ofList ('-' :: '-' :: name)))

/-- Reads an argument that is not a value and does not end the options. -/
def scanArgument (argument : String) : Scanned :=
  match argument.toList with
  | '-' :: '-' :: option =>
    match splitAtEqualsSign option with
    | none => scanNamed option none
    | some (name, value) => scanNamed name (some value)
  | '-' :: c :: letters => scanLetters (c :: letters)
  | _ => .ok ([.expression argument], none)

/-- Whether an argument would be read as an option. -/
def looksLikeOption (argument : String) : Bool :=
  match argument.toList with
  | '-' :: _ :: _ => true
  | _ => false

/-- The information that is asked for first. -/
def informationOf? (items : List Item) : Option Information :=
  items.findSome? fun
    | .information about => some about
    | _ => none

/-- The items of some arguments; an option before them may wait for its
value. -/
def scan : Option ValuedOption -> List String -> Except UsageFault (List Item)
  | none, [] => .ok []
  | some _, [] => .error .missingValue
  | some option, argument :: rest =>
    if looksLikeOption argument then .error .missingValue
    else (scan none rest).map (.valued option argument :: ·)
  | none, argument :: rest =>
    if argument = "--" then .ok (rest.map .expression)
    else
      match scanArgument argument with
      | .error fault => .error fault
      | .ok (items, waiting) =>
        if (informationOf? items).isSome then .ok items
        else (scan waiting rest).map (items ++ ·)

/-- What the command line asks for. -/
structure Request where
  expression : String
  method : Method
  bindings : List (String × Float)
  representations : List Representation
  /-- The rank of the least important entries of the journal that are shown;
  zero for none. -/
  loudness : Nat

def valuesOf (option : ValuedOption) (items : List Item) : List String :=
  items.filterMap fun
    | .valued other value => if other = option then some value else none
    | _ => none

def expressionsOf (items : List Item) : List String :=
  items.filterMap fun
    | .expression text => some text
    | _ => none

def representationsOf (items : List Item) : List Representation :=
  items.filterMap fun
    | .representation kind => some kind
    | _ => none

def methodOf (word : String) : Except UsageFault Method :=
  match Method.ofWord? word with
  | some method => .ok method
  | none => .error (.unknownMethod word)

/-- The method among those asked for, the tree if there is none. -/
def onlyMethod : List Method -> Except UsageFault Method
  | [] => .ok .tree
  | [method] => .ok method
  | _ => .error .repeatedOption

/-- The rank of the least important entries shown: errors alone are shown
unless more is asked for, each time by one rank, or silence. -/
def loudnessOf (items : List Item) : Except UsageFault Nat :=
  let louder := items.count .louder
  if items.contains .quieter then
    if louder = 0 then .ok 0 else .error .contradiction
  else .ok (min (Level.error.rank + louder) Level.trace.rank)

/-- No more than one expression may be given. -/
def checkSurplus : List String -> Except UsageFault Unit
  | _ :: second :: _ => .error (.surplusArgument second)
  | _ => .ok ()

def onlyExpression : List String -> Except UsageFault String
  | [] => .error .missingExpression
  | text :: _ => .ok text

/-- The representations asked for, each of them once. -/
def distinct (representations : List Representation) : Except UsageFault (List Representation) :=
  if representations.Nodup then .ok representations else .error .repeatedOption

/-- Information is given in place of a request. -/
def checkInformation (items : List Item) : Except UsageFault Unit :=
  match informationOf? items with
  | some about => .error (.information about)
  | none => .ok ()

def bindingOf (text : String) : Except UsageFault (String × Float) :=
  (readBinding text).mapError .binding

def Request.ofItems (items : List Item) : Except UsageFault Request := do
  checkSurplus (expressionsOf items)
  let bindings ← (valuesOf .binding items).mapM bindingOf
  let methods ← (valuesOf .method items).mapM methodOf
  checkInformation items
  let expression ← onlyExpression (expressionsOf items)
  let method ← onlyMethod methods
  let representations ← distinct (representationsOf items)
  let loudness ← loudnessOf items
  pure ⟨expression, method, bindings, representations, loudness⟩

/-- The request made by some arguments. -/
def Request.read (arguments : List String) : Except UsageFault Request :=
  scan none arguments >>= Request.ofItems

end Command
end Reckoner
