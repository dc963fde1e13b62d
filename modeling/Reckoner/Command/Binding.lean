import Reckoner.Character.Blank
import Reckoner.Character.Letter
import Reckoner.Number.Numeral

namespace Reckoner
namespace Command

/-!
# Bindings as arguments

A binding is written as a name and a numeral with an equals sign between them,
the first one if there are several.  Blanks around the name and around the
numeral do not count.  The name has to begin with a letter.
-/

inductive BindingFault where
  | noEqualsSign (text : String)
  | invalidName (name : String)
  | noValue (name : String)
  | invalidValue (name : String)
  deriving DecidableEq

def BindingFault.message : BindingFault -> String
  | noEqualsSign text => "expected NAME=VALUE, got '" ++ text ++ "'"
  | invalidName name => "'" ++ name ++ "' is not a valid variable name"
  | noValue name => "invalid value for '" ++ name ++ "': cannot parse float from empty string"
  | invalidValue name => "invalid value for '" ++ name ++ "': invalid float literal"

/-- Splits a list of characters at the first equals sign, which belongs to
neither part. -/
def splitAtEqualsSign (cs : List Char) : Option (List Char × List Char) :=
  match cs.dropWhile (· != '=') with
  | [] => none
  | _ :: value => some (cs.takeWhile (· != '='), value)

def beginsWithLetter : List Char -> Bool
  | [] => false
  | c :: _ => isLetter c

def readBinding (text : String) : Except BindingFault (String × Float) :=
  match splitAtEqualsSign text.toList with
  | none => .error (.noEqualsSign text)
  | some (left, right) =>
    let name := String.ofList (trimBlanks left)
    let value := trimBlanks right
    if !beginsWithLetter (trimBlanks left) then .error (.invalidName name)
    else if value.isEmpty then .error (.noValue name)
    else
      match Numeral.read value with
      | some numeral => .ok (name, numeral.toFloat)
      | none => .error (.invalidValue name)

/-- The first equals sign parts a binding; a second one belongs to the numeral
and spoils it. -/
example :
    (readBinding " x = 1e2 ").toOption = some ("x", 100) ∧
      (readBinding "x=1=2").toOption = none := by
  decide +kernel

end Command
end Reckoner
