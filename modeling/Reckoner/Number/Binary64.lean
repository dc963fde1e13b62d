namespace Reckoner
namespace Binary64

/-!
# Binary64 codes and rounding to them

A nonnegative binary64 number has a code, its 64 bits read as a natural number.
The codes of finite numbers ascend with the numbers, and every such number is a
whole multiple of `2 ^ -1074`, the least positive one.  The two functions of
this module say so and go both ways: `magnitude` counts the multiples that a
code stands for, and `nearest` finds the code closest to a fraction, a tie
going to the even code.  All is done in natural numbers, so nothing is lost
before the single rounding.  Powers are written with `Nat.pow`, which stays the
same whatever other powers are in scope.

Signs are left to the caller, who sets the highest bit with `ofCode`.
-/

/-- The code of infinity; the codes below it are those of the finite
numbers. -/
def infinityCode : Nat := 2047 * Nat.pow 2 52

/-- The number that a finite code stands for, counted in units of `2 ^ -1074`.

The exponent field of a code is one more than the number of doublings, except
that the least numbers have none and field zero; subtraction of naturals covers
both. -/
def magnitude (code : Nat) : Nat :=
  let doublings := code / Nat.pow 2 52 - 1
  (code - doublings * Nat.pow 2 52) * Nat.pow 2 doublings

/-- A quotient rounded to the nearest whole number, a half going to the even
one. -/
def roundHalfEven (num den : Nat) : Nat :=
  let quotient := num / den
  match compare (2 * (num % den)) den with
  | .lt => quotient
  | .eq => quotient + quotient % 2
  | .gt => quotient + 1

/-- The code of the number nearest to `num / den`, or of infinity where the
fraction lies at least half a step beyond the greatest finite number.

The fraction is counted in units of `2 ^ -1074` and halved until it has 53
binary digits.  A carry out of these digits moves on into the exponent field,
so that the code stays right. -/
def nearest (num den : Nat) : Nat :=
  let scaled := num * Nat.pow 2 1074
  let doublings := Nat.log2 (scaled / den) - 52
  min infinityCode (doublings * Nat.pow 2 52 + roundHalfEven scaled (den * Nat.pow 2 doublings))

def signUnit : Nat := Nat.pow 2 63

/-- The number with a given sign and the code of its magnitude. -/
def ofCode (negative : Bool) (code : Nat) : Float :=
  Float.ofBits (UInt64.ofNat (if negative then signUnit + code else code))

/-- Whether the sign is set, of a zero as of any other number. -/
def isNegative (x : Float) : Bool :=
  signUnit ≤ x.toBits.toNat

def code (x : Float) : Nat :=
  x.toBits.toNat % signUnit

/-- The fraction one tenth has the code that the standard gives it. -/
example : nearest 1 10 = 0x3FB999999999999A := by decide +kernel

/-- Half of the least positive number is a tie and goes to zero, what lies
above goes up. -/
example : nearest 1 (2 ^ 1075) = 0 ∧ nearest 3 (2 ^ 1076) = 1 := by decide +kernel

/-- The least fraction that rounds to infinity is half a step beyond the
greatest number. -/
example :
    nearest (2 ^ 1024 - 2 ^ 970) 1 = infinityCode ∧
      nearest (2 ^ 1024 - 2 ^ 970 - 1) 1 = infinityCode - 1 := by
  decide +kernel

end Binary64
end Reckoner
