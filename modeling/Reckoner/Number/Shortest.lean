import Reckoner.Number.Decimal

namespace Reckoner
namespace Shortest

/-!
# The shortest decimal of a number

Every positive finite binary64 number has decimals that read back as itself.
The one chosen here has the fewest digits; of two with equally few it is the
nearer, and where both are equally near the greater.  For one digit, two digits
and so on, only the two neighbours of the number on the grid of that many
digits can qualify, the one below and the one above, and the test is to read
them.

Seventeen digits always suffice.  The function does not rest on that: should
none of them read back, it gives the exact decimal expansion, so that its
result reads back in any case.
-/

/-- The power of ten at or below a positive finite number, `10 ^ leadingPlace`.

In units of `10 ^ -324` every positive number is at least four, so its whole
part has digits that can be counted. -/
def leadingPlace (code : Nat) : Int :=
  let whole := Binary64.magnitude code * Nat.pow 10 324 / Nat.pow 2 1074
  (Nat.toDigits 10 whole).length - 325

/-- The number as a fraction in units of `10 ^ place`. -/
def fractionAt (code : Nat) (place : Int) : Nat × Nat :=
  match place with
  | .ofNat k => (Binary64.magnitude code, Nat.pow 2 1074 * Nat.pow 10 k)
  | .negSucc k => (Binary64.magnitude code * Nat.pow 10 (k + 1), Nat.pow 2 1074)

/-- The neighbour of the number in units of `10 ^ place` that reads back as the
number, the nearer one where both do. -/
def readingBack (code : Nat) (place : Int) : Option Decimal :=
  let (num, den) := fractionAt code place
  let below : Decimal := ⟨num / den, place⟩
  let above : Decimal := ⟨num / den + 1, place⟩
  match below.nearestCode == code, above.nearestCode == code with
  | true, true => some (if 2 * (num % den) < den then below else above)
  | true, false => some below
  | false, true => some above
  | false, false => none

/-- The exact value of a finite code as a decimal. -/
def expansion (code : Nat) : Decimal :=
  ⟨Binary64.magnitude code * Nat.pow 5 1074, -1074⟩

/-- The shortest decimal that reads back as the number with a finite code.
Zero has the digit zero. -/
def decimal (code : Nat) : Decimal :=
  if code = 0 then ⟨0, 0⟩
  else
    let leading := leadingPlace code
    let found := (List.range 17).findSome? fun (further : Nat) =>
      readingBack code (leading - further)
    (found.getD (expansion code)).stripped

end Shortest
end Reckoner
