import Reckoner.Number.Binary64

namespace Reckoner

/-!
# Decimals

A decimal is a whole coefficient times a power of ten.  Its nearest binary64
number is found by exact rounding.  An exponent can be far larger than any
number needs, so the powers are only formed where the result is neither
infinite nor zero for certain.
-/

/-- The nonnegative number `coefficient * 10 ^ exponent`. -/
structure Decimal where
  coefficient : Nat
  exponent : Int
  deriving DecidableEq

namespace Decimal

/-- The code of the binary64 number nearest to a decimal.

A positive decimal with exponent above 400 is beyond every finite number.  With
exponent `-k`, where `3 * k` exceeds the binary digits of the coefficient by
more than 1075, it is below half of the least positive number, because eight is
less than ten. -/
def nearestCode (d : Decimal) : Nat :=
  match d.exponent with
  | .ofNat k =>
    if d.coefficient = 0 then 0
    else if k > 400 then Binary64.infinityCode
    else Binary64.nearest (d.coefficient * Nat.pow 10 k) 1
  | .negSucc k =>
    if 3 * (k + 1) > d.coefficient.log2 + 1076 then 0
    else Binary64.nearest d.coefficient (Nat.pow 10 (k + 1))

/-- The decimal without the zeros at the end of its coefficient; zero becomes
`0 * 10 ^ 0`. -/
def stripped (d : Decimal) : Decimal :=
  let digits := Nat.toDigits 10 d.coefficient
  let kept := (digits.reverse.dropWhile (· == '0')).reverse
  if kept.isEmpty then ⟨0, 0⟩
  else ⟨Nat.ofDigitChars 10 kept 0, d.exponent + (digits.length - kept.length : Nat)⟩

end Decimal
end Reckoner
