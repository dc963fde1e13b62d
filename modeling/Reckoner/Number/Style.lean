import Reckoner.Number.Shortest

namespace Reckoner

/-!
# Writing numbers

A number is written with its shortest decimal.  A style says where the digits
stand as they are and where they are written with an exponent, and whether a
whole number keeps a point.  Infinite numbers and what is not a number are
words, the latter without a sign.
-/

/-- How the digits of a finite number are laid out. -/
structure NumberStyle where
  /-- A whole number written without exponent ends in `.0`. -/
  keepsPoint : Bool
  /-- The powers of ten, as leading places, between which no exponent is
  written: from the first one to below the second.  Without bounds no exponent
  is ever written. -/
  positional : Option (Int × Int)

namespace NumberStyle

/-- All digits are written out, and a point only where something follows it. -/
def plain : NumberStyle := ⟨false, none⟩

/-- A number is recognisable as one that may have a fraction; below `10 ^ -4`
and from `10 ^ 16` on it has an exponent. -/
def explicit : NumberStyle := ⟨true, some (-4, 16)⟩

/-- Whether a number whose first digit stands at a place is written without an
exponent. -/
def isPositional (style : NumberStyle) (place : Int) : Bool :=
  match style.positional with
  | none => true
  | some (least, limit) => least ≤ place && place < limit

def fractionText : List Char -> List Char
  | [] => []
  | digits => '.' :: digits

/-- Digits with an exponent: one digit before the point, the others behind
it. -/
def scientificText (digits : List Char) (place : Int) : List Char :=
  let sign := if place < 0 then ['-'] else []
  digits.take 1 ++ fractionText (digits.drop 1) ++ ['e'] ++ sign ++ Nat.toDigits 10 place.natAbs

/-- Digits without an exponent, the last of them at the place
`10 ^ exponent`. -/
def positionalText (keepsPoint : Bool) (digits : List Char) (exponent : Int) : List Char :=
  match exponent with
  | .ofNat k =>
    digits ++ List.replicate k '0' ++ (if keepsPoint then ['.', '0'] else [])
  | .negSucc k =>
    let behind := k + 1
    if behind < digits.length then
      digits.take (digits.length - behind) ++ '.' :: digits.drop (digits.length - behind)
    else '0' :: '.' :: List.replicate (behind - digits.length) '0' ++ digits

/-- A finite nonnegative decimal in a style. -/
def decimalText (style : NumberStyle) (d : Decimal) : List Char :=
  let digits := Nat.toDigits 10 d.coefficient
  let place := d.exponent + (digits.length - 1 : Nat)
  if d.coefficient = 0 || style.isPositional place then
    positionalText style.keepsPoint digits d.exponent
  else scientificText digits place

def write (style : NumberStyle) (x : Float) : String :=
  if x.isNaN then "NaN"
  else
    let sign := if Binary64.isNegative x then ['-'] else []
    if x.isInf then String.ofList (sign ++ ['i', 'n', 'f'])
    else String.ofList (sign ++ decimalText style (Shortest.decimal (Binary64.code x)))

/-- A whole number has a point only in the explicit style, and a zero keeps its
sign in both. -/
example :
    plain.write 3 = "3" ∧ explicit.write 3 = "3.0" ∧
      plain.write (-0.0) = "-0" ∧ explicit.write (-0.0) = "-0.0" := by
  decide +kernel

/-- The bounds of the explicit style, on either side. -/
example :
    explicit.write 1e-4 = "0.0001" ∧ explicit.write 1e-5 = "1e-5" ∧
      explicit.write 1e15 = "1000000000000000.0" ∧ explicit.write 1e16 = "1e16" := by
  decide +kernel

/-- The plain style has no bounds. -/
example :
    plain.write 1e21 = "1000000000000000000000" ∧ plain.write 1.5e-7 = "0.00000015" := by
  decide +kernel

end NumberStyle
end Reckoner
