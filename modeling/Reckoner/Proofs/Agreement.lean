import Reckoner.Proofs.Calculator
import Reckoner.Proofs.Number.RoundingError

namespace Reckoner

/-!
# What a cross-check accepts

The two values of a cross-check are compared with a tolerance that is computed
from the values themselves.  For finite values it is finite, so that a
difference that has become infinite in subtraction is never within it, and the
comparison says what it is meant to say.

An infinite value makes the tolerance infinite as well.  The difference is then
no greater than the tolerance, whatever the other value is, as long as it is a
number.  The comparison accepts such a pair, and a cross-check returns the
infinity or the finite value, whichever the tree has given
(`crossCheck_accepts_infinite`).

`Agree` lists the pairs that are accepted, this case included, and
`crossCheck_accepts_iff` ties them to the results of cross-checks.  What being
close means for the exact values of two finite numbers is said by
`Agree.abs_sub_le` and `agree_of_abs_sub_le`.
-/

open Binary64 Float.Model.UnpackedFloat
open valuesAgree (greaterMagnitude)

/-- The pairs of values that a cross-check takes for the same. -/
inductive Agree (a b : Float) : Prop where
  | neither (first : a.isNaN = true) (second : b.isNaN = true)
  | equal (equal : (a == b) = true)
  | close (first : a.isFinite = true) (second : b.isFinite = true)
      (difference : (a - b).isFinite = true)
      (tolerance : (1e-9 * greaterMagnitude a b).isFinite = true)
      (within : (a - b).abs ≤ 1e-9 * greaterMagnitude a b)
  | infinite (first : a.isNaN = false) (second : b.isNaN = false)
      (infinite : a.isInf = true ∨ b.isInf = true)

/-- The factor of the tolerance, which is far below one half. -/
theorem parts_tolerance : parts 1e-9 = .finite .positive 4835703278458517 (-82) (by decide) :=
  rfl

section

variable {a b : Float}

theorem isFinite_greaterMagnitude (first : a.isFinite = true) (second : b.isFinite = true) :
    (greaterMagnitude a b).isFinite = true := by
  rw [greaterMagnitude]
  split
  · exact isFinite_abs second
  · split
    · exact isFinite_abs first
    · split
      · exact isFinite_abs second
      · exact isFinite_abs first

theorem parts_greaterMagnitude (first : parts a ≠ .notANumber) (second : parts b ≠ .notANumber)
    (infinite : (∃ sign, parts a = .infinity sign) ∨ ∃ sign, parts b = .infinity sign) :
    parts (greaterMagnitude a b) = .infinity .positive := by
  rw [greaterMagnitude, if_neg (mt isNaN_iff_parts.mp first), if_neg (mt isNaN_iff_parts.mp second)]
  rcases class_cases a with noNumber | ⟨sign, whole⟩ | finite
  · exact absurd noNumber first
  · have greatest := parts_abs_of_infinity whole
    rw [if_neg (not_infinity_lt greatest _), greatest]
  · rcases infinite with ⟨sign, whole⟩ | ⟨sign, whole⟩
    · change (parts a).isFinite = true at finite
      rw [whole] at finite
      cases finite
    · have greatest := parts_abs_of_infinity whole
      rw [if_pos (lt_infinity (isFinite_abs finite) greatest), greatest]

theorem isFinite_tolerance (first : a.isFinite = true) (second : b.isFinite = true) :
    (1e-9 * greaterMagnitude a b).isFinite = true :=
  isFinite_mul parts_tolerance (by decide) (isFinite_greaterMagnitude first second)

theorem isFinite_of_abs_le {difference tolerance : Float} (finite : tolerance.isFinite = true)
    (within : difference.abs ≤ tolerance) : difference.isFinite = true := by
  rcases class_cases difference with noNumber | ⟨sign, whole⟩ | result
  · exact absurd within (not_le_of_notANumber (parts_abs_of_notANumber noNumber) _)
  · exact absurd within (not_le_of_infinity (parts_abs_of_infinity whole) finite)
  · exact result

/-- For an infinite value the tolerance is infinite, and so is the difference
from another number. -/
theorem within_of_infinite (first : parts a ≠ .notANumber) (second : parts b ≠ .notANumber)
    (different : (a == b) = false)
    (infinite : (∃ sign, parts a = .infinity sign) ∨ ∃ sign, parts b = .infinity sign) :
    (a - b).abs ≤ 1e-9 * greaterMagnitude a b := by
  rcases parts_sub_of_infinity first second different infinite with ⟨sign, difference⟩
  apply le_of_infinity (parts_abs_of_infinity difference)
  rw [parts_mul, parts_tolerance, parts_greaterMagnitude first second infinite]
  exact repacked_infinity .positive

/-- The comparison accepts exactly the listed pairs. -/
theorem valuesAgree_iff : valuesAgree a b = true ↔ Agree a b := by
  rw [valuesAgree, Bool.or_eq_true, Bool.or_eq_true, Bool.and_eq_true, decide_eq_true_eq]
  constructor
  · rintro ((⟨first, second⟩ | equal) | within)
    · exact .neither first second
    · exact .equal equal
    · -- What is not a number leaves no difference, and that is within no tolerance.
      have numbers : ¬(parts a = .notANumber ∨ parts b = .notANumber) := fun noNumber =>
        not_le_of_notANumber (parts_abs_of_notANumber (parts_sub_of_notANumber noNumber)) _ within
      rw [not_or] at numbers
      have first := eq_false_of_ne_true (mt isNaN_iff_parts.mp numbers.1)
      have second := eq_false_of_ne_true (mt isNaN_iff_parts.mp numbers.2)
      rcases class_cases a with noNumber | infinite | finite
      · exact absurd noNumber numbers.1
      · exact .infinite first second (.inl (isInf_iff_parts.mpr infinite))
      · rcases class_cases b with noNumber | infinite | finite'
        · exact absurd noNumber numbers.2
        · exact .infinite first second (.inr (isInf_iff_parts.mpr infinite))
        · have tolerance := isFinite_tolerance finite finite'
          exact .close finite finite' (isFinite_of_abs_le tolerance within) tolerance within
  · intro agree
    cases agree with
    | neither first second => exact .inl (.inl ⟨first, second⟩)
    | equal equal => exact .inl (.inr equal)
    | close _ _ _ _ within => exact .inr within
    | infinite first second infinite =>
        cases same : a == b with
        | true => exact .inl (.inr rfl)
        | false =>
            refine .inr (within_of_infinite ?_ ?_ same (infinite.imp isInf_iff_parts.mp
              isInf_iff_parts.mp))
            · exact mt isNaN_iff_parts.mpr (ne_true_of_eq_false first)
            · exact mt isNaN_iff_parts.mpr (ne_true_of_eq_false second)

/-! ## Closeness

The difference and the tolerance of the comparison are rounded numbers.  Beside
the exact ones the comparison is right but for a margin: a relative one for the
roundings of the difference, of the factor and of the tolerance, and an
absolute one where numbers are too small for 53 digits.
-/

/-- The greater magnitude is not rounded. -/
theorem exact_greaterMagnitude (first : a.isFinite = true) (second : b.isFinite = true) :
    exact (parts (greaterMagnitude a b)) = max |exact (parts a)| |exact (parts b)| := by
  have order := lt_iff_exact (isFinite_abs first) (isFinite_abs second)
  rw [exact_parts_abs first, exact_parts_abs second] at order
  rw [greaterMagnitude, if_neg (not_isNaN_of_isFinite first),
    if_neg (not_isNaN_of_isFinite second)]
  by_cases less : a.abs < b.abs
  · rw [if_pos less, exact_parts_abs second, max_eq_right (order.mp less).le]
  · rw [if_neg less, exact_parts_abs first, max_eq_left (not_lt.mp (mt order.mpr less))]

/-- The exact value of the factor of the tolerance. -/
def exactFactor : ℚ :=
  4835703278458517 / 2 ^ 82

theorem near_tolerance (first : a.isFinite = true) (second : b.isFinite = true) :
    Near (exact (parts (1e-9 * greaterMagnitude a b)))
      (exactFactor * max |exact (parts a)| |exact (parts b)|) := by
  have product := @near_mul _ .positive 4835703278458517 (-82) (by decide) (by decide)
    (regular_parts (isFinite_greaterMagnitude first second))
  have finite := isFinite_tolerance first second
  change (parts _).isFinite = true at finite
  rw [parts_mul, parts_tolerance] at finite
  rw [parts_mul, parts_tolerance, repacked_of_isFinite product.1 finite]
  have factor : exact (.finite .positive 4835703278458517 (-82) (by decide)) = exactFactor := by
    rw [exact, exactFactor, Sign.apply, zpow_neg, ← div_eq_mul_inv]
    rfl
  rw [← exact_greaterMagnitude first second, ← factor]
  exact product.2

/-- How far a comparison of rounded numbers may be from that of the exact
ones. -/
private theorem within_bounds {difference tolerance distance magnitude unit : ℚ}
    (nonnegative : 0 ≤ magnitude) (least : 0 ≤ unit)
    (near : |difference - distance| ≤ |distance| / 2 ^ 52 + unit)
    (near' : |tolerance - exactFactor * magnitude| ≤ |exactFactor * magnitude| / 2 ^ 52 + unit) :
    (|difference| ≤ tolerance ->
        |distance| ≤ (1 + 1 / 2 ^ 50) * (magnitude / 10 ^ 9) + 4 * unit) ∧
      (|distance| ≤ (1 - 1 / 2 ^ 50) * (magnitude / 10 ^ 9) - 4 * unit ->
        |difference| ≤ tolerance) := by
  have above := abs_sub_abs_le_abs_sub difference distance
  have below := abs_sub_abs_le_abs_sub distance difference
  rw [abs_sub_comm] at below
  have scaled : 0 ≤ exactFactor * magnitude :=
    mul_nonneg (by rw [exactFactor]; positivity) nonnegative
  rw [abs_of_nonneg scaled, exactFactor] at near'
  rcases abs_le.mp near' with ⟨low, high⟩
  constructor <;> intro within <;> linarith

private theorem four_units (places : Nat) : (4 * (1 / 2 ^ (places + 2)) : ℚ) = 1 / 2 ^ places := by
  rw [pow_add]
  ring

section

variable {first second : ℚ}

/-- Finite values that agree differ by no more than a thousand-millionth of the
greater magnitude, but for the margin. -/
theorem Agree.abs_sub_le (agree : Agree a b) (known : rational? a = some first)
    (known' : rational? b = some second) :
    |first - second| ≤ (1 + 1 / 2 ^ 50) * (max |first| |second| / 10 ^ 9) + 1 / 2 ^ 1072 := by
  rcases isFinite_of_rational? known with ⟨finite, rfl⟩
  rcases isFinite_of_rational? known' with ⟨finite', rfl⟩
  cases agree with
  | neither noNumber _ => exact absurd noNumber (not_isNaN_of_isFinite finite)
  | equal equal =>
      rw [(eq_iff_exact finite finite').mp equal, sub_self, abs_zero]
      positivity
  | close _ _ difference tolerance within =>
      rw [le_iff_exact (isFinite_abs difference) tolerance, exact_parts_abs difference] at within
      have bounds := within_bounds (by positivity) (by positivity)
        (near_parts_sub finite finite' difference) (near_tolerance finite finite')
      rw [four_units 1072] at bounds
      exact bounds.1 within
  | infinite _ _ infinite =>
      rcases infinite with infinite | infinite
      · exact absurd infinite (not_isInf_of_isFinite finite)
      · exact absurd infinite (not_isInf_of_isFinite finite')

/-- Finite values agree that differ by no more than a thousand-millionth of the
greater magnitude, but for the margin. -/
theorem agree_of_abs_sub_le (known : rational? a = some first) (known' : rational? b = some second)
    (close : |first - second| ≤
      (1 - 1 / 2 ^ 50) * (max |first| |second| / 10 ^ 9) - 1 / 2 ^ 1072) :
    Agree a b := by
  rcases isFinite_of_rational? known with ⟨finite, rfl⟩
  rcases isFinite_of_rational? known' with ⟨finite', rfl⟩
  have tolerance := isFinite_tolerance finite finite'
  rcases near_sub (regular_parts finite) (regular_parts finite') with ⟨regular, near⟩
  have bounds := within_bounds (by positivity) (by positivity) near
    (near_tolerance finite finite')
  rw [four_units 1072] at bounds
  have within := bounds.2 close
  have small := within.trans_lt ((le_abs_self _).trans_lt (abs_exact_lt tolerance))
  have kept : parts (a - b) = .sub .binary64 (parts a) (parts b) := by
    rw [parts_sub, repacked_of_regular regular small]
  have difference : (a - b).isFinite = true := by
    change (parts (a - b)).isFinite = true
    rw [kept]
    exact regular.isFinite
  refine .close finite finite' difference tolerance ?_
  rw [le_iff_exact (isFinite_abs difference) tolerance, exact_parts_abs difference, kept]
  exact within

end

end

variable {σ : Type}

/-- A cross-check returns the value of the tree if and only if both
calculations have values and these agree.  If they have values that do not
agree, it reports a disagreement of the two. -/
theorem crossCheck_accepts_iff (resolver : Resolver σ Float) (text : String) (state after : σ)
    (ofTree : Float) :
    ((crossCheck resolver text).run state = (.ok ofTree, after) ↔
        ∃ between ofPostfix,
          Strategy.syntaxTree.Ends resolver text state (.ok ofTree) between ∧
          Strategy.shuntingYard.Ends resolver text between (.ok ofPostfix) after ∧
          Agree ofTree ofPostfix) ∧
      ∀ between ofPostfix,
        Strategy.syntaxTree.Ends resolver text state (.ok ofTree) between ->
        Strategy.shuntingYard.Ends resolver text between (.ok ofPostfix) after ->
        ¬Agree ofTree ofPostfix ->
          (crossCheck resolver text).run state =
            (.error (.strategiesDisagree ofTree ofPostfix), after) := by
  rw [run_crossCheck]
  constructor
  · constructor
    · intro accepted
      rcases first : (calculate .syntaxTree resolver text).run state with ⟨failure | value, between⟩
      · rw [first] at accepted
        cases accepted
      · rcases second : (calculate .shuntingYard resolver text).run between with
          ⟨failure | ofPostfix, last⟩
        · simp only [first, second] at accepted
          cases accepted
        · simp only [first, second] at accepted
          cases agree : valuesAgree value ofPostfix with
          | false =>
              rw [agree] at accepted
              cases accepted
          | true =>
              rw [agree] at accepted
              cases accepted
              exact ⟨between, ofPostfix, first, second, valuesAgree_iff.mp agree⟩
    · rintro ⟨between, ofPostfix, first, second, agree⟩
      simp only [Strategy.Ends] at first second
      simp only [first, second, valuesAgree_iff.mpr agree, if_true]
  · intro between ofPostfix first second disagree
    simp only [Strategy.Ends] at first second
    simp only [first, second, if_neg (mt valuesAgree_iff.mp disagree)]

/-- A resolver that answers first with an infinity and then with one makes a
cross-check return the infinity, although the values are neither equal nor both
finite. -/
theorem crossCheck_accepts_infinite :
    let infinity : Float := 1 / 0
    ((crossCheck Resolver.sequence "x").run [infinity, 1]).1 = .ok infinity ∧
      ((calculate .syntaxTree Resolver.sequence "x").run [infinity, 1]).1 = .ok infinity ∧
      ((calculate .shuntingYard Resolver.sequence "x").run [1]).1 = .ok 1 ∧
      ¬((infinity.isNaN = true ∧ (1 : Float).isNaN = true) ∨ (infinity == 1) = true ∨
        (infinity.isFinite = true ∧ (1 : Float).isFinite = true ∧
          (infinity - 1).abs ≤ 1e-9 * greaterMagnitude infinity 1)) := by
  decide +kernel

end Reckoner
