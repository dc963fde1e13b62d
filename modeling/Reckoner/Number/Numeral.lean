import Reckoner.Number.Decimal

namespace Reckoner

/-!
# Numerals

A numeral is the text of a number.  It may start with one sign.  Then comes one
of the words `inf`, `infinity` and `nan`, in any mixture of capitals, or a
decimal: digits with at most one point among or around them, at least one digit
in all, and possibly an exponent, which is `e` or `E`, at most one sign and at
least one digit.  Digits are the ten of ASCII.  Nothing may stand before,
between or after these parts.

A numeral that is not a word denotes the binary64 number nearest to its
decimal: infinity where it is too large, and zero, with its sign, where it is
too small.
-/

/-- What a numeral says, before any rounding. -/
inductive Numeral where
  | notANumber
  | infinite (negative : Bool)
  | decimal (negative : Bool) (value : Decimal)
  deriving DecidableEq

namespace Numeral

def spanDigits (cs : List Char) : List Char × List Char :=
  (cs.takeWhile Char.isDigit, cs.dropWhile Char.isDigit)

def splitSign : List Char -> Bool × List Char
  | '-' :: rest => (true, rest)
  | '+' :: rest => (false, rest)
  | cs => (false, cs)

def readExponent (cs : List Char) : Option Int :=
  let (negative, digits) := splitSign cs
  if digits.isEmpty || !digits.all Char.isDigit then none
  else
    let size := Nat.ofDigitChars 10 digits 0
    some (if negative then -size else size)

def readTail : List Char -> Option Int
  | [] => some 0
  | c :: rest => if c == 'e' || c == 'E' then readExponent rest else none

def splitFraction : List Char -> List Char × List Char
  | '.' :: rest => spanDigits rest
  | cs => ([], cs)

/-- Reads an unsigned decimal, to the end of the text. -/
def readDecimal (cs : List Char) : Option Decimal :=
  let (whole, rest) := spanDigits cs
  let (fraction, tail) := splitFraction rest
  if whole.isEmpty && fraction.isEmpty then none
  else
    (readTail tail).map fun exponent =>
      ⟨Nat.ofDigitChars 10 (whole ++ fraction) 0, exponent - fraction.length⟩

/-- Reads a numeral, to the end of the text. -/
def read (cs : List Char) : Option Numeral :=
  let (negative, rest) := splitSign cs
  let word := rest.map Char.toLower
  if word == ['i', 'n', 'f'] || word == ['i', 'n', 'f', 'i', 'n', 'i', 't', 'y'] then
    some (infinite negative)
  else if word == ['n', 'a', 'n'] then some notANumber
  else (readDecimal rest).map (decimal negative)

/-- The binary64 number that a numeral denotes. -/
def toFloat : Numeral -> Float
  | notANumber => Float.ofBits 0x7FF8000000000000
  | infinite negative => Binary64.ofCode negative Binary64.infinityCode
  | decimal negative value => Binary64.ofCode negative value.nearestCode

end Numeral

/-- The number denoted by a text, if the text is a numeral. -/
def readNumber (text : String) : Option Float :=
  (Numeral.read text.toList).map Numeral.toFloat

end Reckoner
