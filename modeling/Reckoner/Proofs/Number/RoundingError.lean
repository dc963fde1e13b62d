import Reckoner.Proofs.Number.Exact

namespace Reckoner
namespace Binary64

open Float.Model Float.Model.UnpackedFloat

/-!
# The error of rounding

A difference or a product is found exactly first and rounded then.  Rounding
takes digits away until 53 are left, or fewer at the least exponent, and adds
at most one in the last place.  The result is therefore within one unit of that
place from the exact one, which is small beside the number, or the least
positive number (`Near`).

It is not used that rounding goes to the nearest number.
-/

/-- Whether a rational number is another one up to rounding: within one unit in
the last of 53 digits, or within the least positive number. -/
def Near (approximate value : ℚ) : Prop :=
  |approximate - value| ≤ |value| / 2 ^ 52 + 1 / 2 ^ 1074

theorem near_self (value : ℚ) : Near value value := by
  rw [Near, sub_self, abs_zero]
  positivity

/-! ## Shifting -/

/-- How far the exponent of a number has to rise for its digits. -/
def places (mantissa : Nat) (exponent : Int) : Nat :=
  (max (totalExponent mantissa exponent - 53) (-1074) - exponent).toNat

theorem shiftToTargetExponent_exact (mantissa : Nat) (exponent : Int) :
    (shiftToTargetExponent .binary64 mantissa exponent .exact).1.mantissa =
        mantissa / 2 ^ places mantissa exponent ∧
      (shiftToTargetExponent .binary64 mantissa exponent .exact).2 =
        exponent + places mantissa exponent :=
  ⟨mantissa_shiftRight _ _, rfl⟩

theorem le_roundedMantissa (shifted : ExtendedMantissa) :
    shifted.mantissa ≤ shifted.roundedMantissa := by
  rw [ExtendedMantissa.roundedMantissa]
  rcases shifted.accuracy with _ | _ | _ | _ <;> simp only [Accuracy.roundToNearestEven] <;> omega

/-- A mantissa of at most 53 digits stays as it is, and one that a carry has
lengthened loses the zero at its end. -/
private theorem places_of_digits {mantissa : Nat} {exponent : Int} (digits : mantissa ≤ 2 ^ 53)
    (least : -1074 ≤ exponent) :
    mantissa < 2 ^ 53 ∧ places mantissa exponent = 0 ∨
      mantissa = 2 ^ 53 ∧ places mantissa exponent = 1 := by
  rcases Nat.lt_or_eq_of_le digits with less | equal
  · left
    refine ⟨less, ?_⟩
    have log : mantissa.log2 < 53 := by
      by_cases zero : mantissa = 0
      · rw [zero]
        decide
      · exact (Nat.log2_lt zero).mpr less
    rw [places, totalExponent]
    omega
  · right
    refine ⟨equal, ?_⟩
    rw [equal, places, totalExponent, Nat.log2_two_pow]
    omega

/-- Where the exponent need not fall, the shifted mantissa has 53 digits, or
fewer at the least exponent. -/
private theorem leading_of_places {mantissa : Nat} {exponent : Int} (nonzero : mantissa ≠ 0)
    (low : 2 ^ 52 ≤ mantissa ∨ exponent ≤ -1074) :
    2 ^ 52 ≤ mantissa / 2 ^ places mantissa exponent ∨
      exponent + places mantissa exponent = -1074 := by
  have lower := @Nat.le_log2 mantissa 52 nonzero
  by_cases least : totalExponent mantissa exponent - 53 ≤ -1074
  · right
    rw [← lower] at low
    rw [totalExponent] at least
    rw [places, totalExponent]
    omega
  · left
    have log : mantissa.log2 = 52 + places mantissa exponent := by
      rw [← lower] at low
      rw [totalExponent] at least
      rw [places, totalExponent]
      omega
    rw [Nat.le_div_iff_mul_le (Nat.two_pow_pos _), ← Nat.pow_add, ← log]
    exact Nat.log2_self_le nonzero

private theorem regular_of_canonical (sign : Sign) {mantissa : Nat} {exponent : Int}
    (canonical : Canonical mantissa exponent) {whole : UnpackedFloat}
    (same : whole = if zero : mantissa = 0 then .zero sign
      else .finite sign mantissa exponent (Nat.pos_of_ne_zero zero)) :
    Regular whole ∧ exact whole = (sign.apply mantissa : ℤ) * 2 ^ exponent := by
  by_cases zero : mantissa = 0
  · rw [dif_pos zero] at same
    rw [same, zero]
    refine ⟨.zero sign, ?_⟩
    cases sign <;> simp [exact, Sign.apply]
  · rw [dif_neg zero] at same
    rw [same]
    exact ⟨.finite _ canonical, rfl⟩

/-- Rounding leaves canonical parts, and a mantissa that has lost the digits
for which there is no place and may have grown by one for them. -/
private theorem roundWithAccuracy_spec (sign : Sign) {mantissa : Nat} {exponent : Int}
    (nonzero : mantissa ≠ 0) (low : 2 ^ 52 ≤ mantissa ∨ exponent ≤ -1074) :
    Regular (roundWithAccuracy .binary64 sign mantissa exponent .exact) ∧
      ∃ rounded : Nat, mantissa / 2 ^ places mantissa exponent ≤ rounded ∧
        rounded ≤ mantissa / 2 ^ places mantissa exponent + 1 ∧
        exact (roundWithAccuracy .binary64 sign mantissa exponent .exact) =
          (sign.apply rounded : ℤ) * 2 ^ (exponent + places mantissa exponent) := by
  have leading := leading_of_places nonzero low
  have bounds := shiftToTargetExponent_bounds mantissa exponent .exact
  have shifts := shiftToTargetExponent_exact mantissa exponent
  rcases first : shiftToTargetExponent .binary64 mantissa exponent .exact with
    ⟨shifted, exponent'⟩
  rw [first] at bounds shifts
  simp only at bounds shifts
  have above := le_roundedMantissa shifted
  have below := roundedMantissa_le shifted
  have least : -1074 ≤ exponent' := by
    rw [bounds.2]
    omega
  rw [shifts.1] at above below
  rw [← shifts.2] at leading ⊢
  have digits : shifted.roundedMantissa ≤ 2 ^ 53 := by
    rw [shifts.1] at bounds
    omega
  have shifts' := shiftToTargetExponent_exact shifted.roundedMantissa exponent'
  rcases second : shiftToTargetExponent .binary64 shifted.roundedMantissa exponent' .exact with
    ⟨last, exponent''⟩
  rw [second] at shifts'
  simp only at shifts'
  have rounds : roundWithAccuracy .binary64 sign mantissa exponent .exact =
      if zero : last.mantissa = 0 then .zero sign
      else .finite sign last.mantissa exponent'' (Nat.pos_of_ne_zero zero) := by
    rw [roundWithAccuracy]
    simp only [first, second]
  generalize shifted.roundedMantissa = rounded at above below digits shifts'
  rcases places_of_digits digits least with ⟨less, none⟩ | ⟨equal, one⟩
  · rw [none, pow_zero, Nat.div_one, Nat.cast_zero, add_zero] at shifts'
    rw [shifts'.1, shifts'.2] at rounds
    have canonical : Canonical rounded exponent' :=
      ⟨less, least, leading.imp_left fun large => large.trans above⟩
    rcases regular_of_canonical sign canonical rounds with ⟨regular, value⟩
    exact ⟨regular, rounded, above, below, value⟩
  · rw [one, equal, Nat.cast_one] at shifts'
    have halved : last.mantissa = 2 ^ 52 := shifts'.1.trans (by norm_num)
    rw [halved, shifts'.2] at rounds
    have canonical : Canonical (2 ^ 52) (exponent' + 1) := ⟨by decide, by omega, .inl le_rfl⟩
    rcases regular_of_canonical sign canonical rounds with ⟨regular, value⟩
    refine ⟨regular, rounded, above, below, ?_⟩
    rw [value, equal, zpow_add₀ two_ne_zero]
    cases sign <;> simp only [Sign.apply] <;> push_cast <;> ring

/-- One unit in the place of the last digit is small beside the number, or the
least positive number. -/
private theorem unit_le {mantissa places : Nat} {exponent : Int}
    (leading : 2 ^ 52 ≤ mantissa / 2 ^ places ∨ exponent + places = -1074) :
    (2 : ℚ) ^ (exponent + places) ≤ mantissa * 2 ^ exponent / 2 ^ 52 + 1 / 2 ^ 1074 := by
  rcases leading with large | least
  · rw [Nat.le_div_iff_mul_le (Nat.two_pow_pos _)] at large
    have scaled : (2 ^ 52 * 2 ^ places : ℚ) ≤ mantissa := by exact_mod_cast large
    have unit : (2 : ℚ) ^ (exponent + places) = 2 ^ 52 * 2 ^ places * 2 ^ exponent / 2 ^ 52 := by
      rw [zpow_add₀ two_ne_zero, zpow_natCast]
      ring
    have bound : (2 : ℚ) ^ (exponent + places) ≤ mantissa * 2 ^ exponent / 2 ^ 52 := by
      rw [unit]
      gcongr
    exact bound.trans (le_add_of_nonneg_right (by positivity))
  · have unit : (2 : ℚ) ^ (exponent + places) = 1 / 2 ^ 1074 := by
      rw [least, zpow_neg, one_div]
      rfl
    rw [unit]
    exact le_add_of_nonneg_left (by positivity)

/-- A mantissa that has lost its last digits, and may have grown by one for
them, stands for a number within one unit. -/
private theorem near_of_rounded (sign : Sign) {mantissa places rounded : Nat} {exponent : Int}
    (leading : 2 ^ 52 ≤ mantissa / 2 ^ places ∨ exponent + places = -1074)
    (above : mantissa / 2 ^ places ≤ rounded) (below : rounded ≤ mantissa / 2 ^ places + 1) :
    Near ((sign.apply rounded : ℤ) * 2 ^ (exponent + places))
      ((sign.apply mantissa : ℤ) * 2 ^ exponent) := by
  have lower : mantissa ≤ (rounded + 1) * 2 ^ places :=
    (Nat.lt_mul_of_div_lt (Nat.lt_succ_of_le above) (Nat.two_pow_pos _)).le
  have upper : rounded * 2 ^ places ≤ mantissa + 2 ^ places := by
    calc
      rounded * 2 ^ places ≤ (mantissa / 2 ^ places + 1) * 2 ^ places :=
        Nat.mul_le_mul_right _ below
      _ = mantissa / 2 ^ places * 2 ^ places + 2 ^ places := by ring
      _ ≤ mantissa + 2 ^ places := Nat.add_le_add_right (Nat.div_mul_le_self _ _) _
  have distance : |(rounded : ℚ) * 2 ^ places - mantissa| ≤ 2 ^ places := by
    rw [abs_le]
    constructor
    · have bound : (mantissa : ℚ) ≤ (rounded + 1) * 2 ^ places := by exact_mod_cast lower
      linarith
    · have bound : (rounded * 2 ^ places : ℚ) ≤ mantissa + 2 ^ places := by exact_mod_cast upper
      linarith
  have unit : (2 : ℚ) ^ (exponent + places) = 2 ^ places * 2 ^ exponent := by
    rw [zpow_add₀ two_ne_zero, zpow_natCast, mul_comm]
  have error : |(rounded : ℚ) * (2 ^ places * 2 ^ exponent) - mantissa * 2 ^ exponent| =
      |(rounded : ℚ) * 2 ^ places - mantissa| * 2 ^ exponent := by
    rw [← mul_assoc, ← sub_mul, abs_mul,
      abs_of_pos (zpow_pos two_pos exponent : (0 : ℚ) < 2 ^ exponent)]
  rw [Near, abs_sub_apply, abs_apply, unit, error]
  calc
    |(rounded : ℚ) * 2 ^ places - mantissa| * 2 ^ exponent ≤ 2 ^ places * 2 ^ exponent := by
      gcongr
    _ = 2 ^ (exponent + places) := unit.symm
    _ ≤ mantissa * 2 ^ exponent / 2 ^ 52 + 1 / 2 ^ 1074 := unit_le leading

theorem near_roundWithAccuracy (sign : Sign) {mantissa : Nat} {exponent : Int}
    (nonzero : mantissa ≠ 0) (low : 2 ^ 52 ≤ mantissa ∨ exponent ≤ -1074) :
    Regular (roundWithAccuracy .binary64 sign mantissa exponent .exact) ∧
      Near (exact (roundWithAccuracy .binary64 sign mantissa exponent .exact))
        ((sign.apply mantissa : ℤ) * 2 ^ exponent) := by
  rcases roundWithAccuracy_spec sign nonzero low with ⟨regular, rounded, above, below, value⟩
  rw [value]
  exact ⟨regular, near_of_rounded sign (leading_of_places nonzero low) above below⟩

/-- Zeros behind a mantissa are made up for by the exponent. -/
theorem apply_shiftLeft (sign : Sign) (mantissa zeros : Nat) (exponent : Int) :
    ((sign.apply (mantissa <<< zeros : Nat) : ℤ) : ℚ) * 2 ^ (exponent - zeros) =
      (sign.apply mantissa : ℤ) * 2 ^ exponent := by
  have unit : (2 : ℚ) ^ exponent = 2 ^ zeros * 2 ^ (exponent - zeros) := by
    rw [← zpow_natCast, ← zpow_add₀ two_ne_zero, add_sub_cancel]
  rw [Nat.shiftLeft_eq, unit]
  cases sign <;> simp only [Sign.apply] <;> push_cast <;> ring

theorem near_round (sign : Sign) {mantissa : Nat} (exponent : Int) (nonzero : mantissa ≠ 0) :
    Regular (round .binary64 sign mantissa exponent) ∧
      Near (exact (round .binary64 sign mantissa exponent))
        ((sign.apply mantissa : ℤ) * 2 ^ exponent) := by
  let zeros : Nat := (exponent - max (totalExponent mantissa exponent - 53) (-1074)).toNat
  have rounds : round .binary64 sign mantissa exponent =
      roundWithAccuracy .binary64 sign (mantissa <<< zeros) (exponent - zeros) .exact := rfl
  have low : 2 ^ 52 ≤ mantissa <<< zeros ∨ exponent - zeros ≤ -1074 := by
    by_cases least : exponent - zeros ≤ -1074
    · exact .inr least
    · left
      have count : zeros =
          (exponent - max (totalExponent mantissa exponent - 53) (-1074)).toNat := rfl
      have enough : 52 ≤ mantissa.log2 + zeros := by
        rw [totalExponent] at count
        omega
      rw [Nat.shiftLeft_eq]
      calc
        2 ^ 52 ≤ 2 ^ (mantissa.log2 + zeros) := Nat.pow_le_pow_right (by decide) enough
        _ = 2 ^ mantissa.log2 * 2 ^ zeros := Nat.pow_add _ _ _
        _ ≤ mantissa * 2 ^ zeros := Nat.mul_le_mul_right _ (Nat.log2_self_le nonzero)
  have nonzero' : mantissa <<< zeros ≠ 0 := by
    rw [Nat.shiftLeft_eq]
    exact Nat.mul_ne_zero nonzero (Nat.two_pow_pos _).ne'
  rw [rounds, ← apply_shiftLeft sign mantissa zeros exponent]
  exact near_roundWithAccuracy sign nonzero' low

theorem near_normalize (mantissa exponent : Int) :
    Regular (UnpackedFloat.normalize .binary64 mantissa exponent .positive) ∧
      Near (exact (UnpackedFloat.normalize .binary64 mantissa exponent .positive))
        (mantissa * 2 ^ exponent) := by
  rw [UnpackedFloat.normalize]
  split
  · rename_i negative
    have less : mantissa < 0 := compare_lt_iff_lt.mp negative
    have whole : Sign.negative.apply ((-mantissa).toNat : Nat) = mantissa := by
      rw [Sign.apply]
      omega
    have rounded := @near_round .negative (-mantissa).toNat exponent (by omega)
    rw [whole] at rounded
    exact rounded
  · rename_i zero
    have equal : mantissa = 0 := compare_eq_iff_eq.mp zero
    rw [equal, Int.cast_zero, zero_mul]
    exact ⟨.zero _, near_self 0⟩
  · rename_i positive
    have greater : 0 < mantissa := compare_gt_iff_gt.mp positive
    have whole : Sign.positive.apply (mantissa.toNat : Nat) = mantissa := by
      rw [Sign.apply]
      omega
    have rounded := @near_round .positive mantissa.toNat exponent (by omega)
    rw [whole] at rounded
    exact rounded

/-! ## Operations -/

theorem neg_apply (sign : Sign) (n : Int) : (-sign).apply n = -sign.apply n := by
  cases sign with
  | negative => exact (neg_neg n).symm
  | positive => rfl

theorem mul_apply (sign sign' : Sign) (n n' : Int) :
    (sign * sign').apply (n * n') = sign.apply n * sign'.apply n' := by
  cases sign with
  | negative =>
      cases sign' with
      | negative => exact (neg_mul_neg n n').symm
      | positive => exact (neg_mul n n').symm
  | positive =>
      cases sign' with
      | negative => exact (mul_neg n n').symm
      | positive => rfl

section

variable {whole whole' : UnpackedFloat}

theorem near_sub (regular : Regular whole) (regular' : Regular whole') :
    Regular (.sub .binary64 whole whole') ∧
      Near (exact (.sub .binary64 whole whole')) (exact whole - exact whole') := by
  cases regular with
  | zero sign =>
      cases regular' with
      | zero sign' =>
          have rounds : ∃ sign'', UnpackedFloat.sub .binary64 (.zero sign) (.zero sign') =
              .zero sign'' := by
            cases sign <;> cases sign' <;> exact ⟨_, rfl⟩
          rcases rounds with ⟨sign'', rounds⟩
          rw [rounds, exact, exact, exact, sub_zero]
          exact ⟨.zero sign'', near_self 0⟩
      | @finite sign' mantissa' exponent' positive' canonical' =>
          refine ⟨.finite positive' canonical', ?_⟩
          change Near (((-sign').apply mantissa' : ℤ) * 2 ^ exponent') (0 - _)
          rw [neg_apply, Int.cast_neg, neg_mul, zero_sub]
          exact near_self _
  | @finite sign mantissa exponent positive canonical =>
      cases regular' with
      | zero sign' =>
          refine ⟨.finite positive canonical, ?_⟩
          change Near (exact (.finite sign mantissa exponent positive)) (_ - 0)
          rw [sub_zero]
          exact near_self _
      | @finite sign' mantissa' exponent' positive' canonical' =>
          have least : exponent - ((exponent - min exponent exponent').toNat : ℕ) =
              min exponent exponent' := by
            omega
          have least' : exponent' - ((exponent' - min exponent exponent').toNat : ℕ) =
              min exponent exponent' := by
            omega
          have first := apply_shiftLeft sign mantissa (exponent - min exponent exponent').toNat
            exponent
          have second := apply_shiftLeft sign' mantissa'
            (exponent' - min exponent exponent').toNat exponent'
          rw [least] at first
          rw [least'] at second
          rw [exact, exact, ← first, ← second, ← sub_mul, ← Int.cast_sub]
          exact near_normalize _ _

theorem near_parts_sub {x y : Float} (first : x.isFinite = true) (second : y.isFinite = true)
    (finite : (x - y).isFinite = true) :
    Near (exact (parts (x - y))) (exact (parts x) - exact (parts y)) := by
  rcases near_sub (regular_parts first) (regular_parts second) with ⟨regular, near⟩
  change (parts (x - y)).isFinite = true at finite
  rw [parts_sub] at finite ⊢
  rw [repacked_of_isFinite regular finite]
  exact near

/-- A factor of 53 digits leaves enough of them for rounding a product. -/
theorem near_mul {sign : Sign} {mantissa : Nat} {exponent : Int} {positive : 0 < mantissa}
    (large : 2 ^ 52 ≤ mantissa) (regular' : Regular whole') :
    Regular (.mul .binary64 (.finite sign mantissa exponent positive) whole') ∧
      Near (exact (.mul .binary64 (.finite sign mantissa exponent positive) whole'))
        (exact (.finite sign mantissa exponent positive) * exact whole') := by
  cases regular' with
  | zero sign' =>
      refine ⟨.zero _, ?_⟩
      change Near 0 (_ * 0)
      rw [mul_zero]
      exact near_self 0
  | @finite sign' mantissa' exponent' positive' canonical' =>
      have value : exact (.finite sign mantissa exponent positive) *
          exact (.finite sign' mantissa' exponent' positive') =
            ((sign * sign').apply (mantissa * mantissa' : Nat) : ℤ) *
              2 ^ (exponent + exponent') := by
        rw [Nat.cast_mul, mul_apply, zpow_add₀ two_ne_zero, Int.cast_mul, exact, exact]
        ring
      rw [value]
      exact near_roundWithAccuracy (sign * sign') (Nat.mul_pos positive positive').ne'
        (.inl (large.trans (Nat.le_mul_of_pos_right _ positive')))

end

end Binary64
end Reckoner
