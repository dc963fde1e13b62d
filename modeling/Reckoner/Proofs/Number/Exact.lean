import Reckoner.Proofs.Number.Overflow

namespace Reckoner
namespace Binary64

open Float.Model Float.Model.UnpackedFloat

/-!
# Exact values

A finite binary64 number is a rational number, which can be read from the code
of its magnitude (`rational?`) or from its parts (`exact`).  Both readings are
the same (`rational?_eq_exact`).

Parts that come out of a word have as many digits as their exponent allows
(`Canonical`).  This is what makes packing them again harmless, unless they are
too great, and what lets exponents be compared before mantissas: comparisons of
finite numbers are those of the rational ones (`compare_eq_exact`).
-/

/-- The rational number that parts stand for, zero if they are not finite. -/
def exact : UnpackedFloat -> ℚ
  | .finite sign mantissa exponent _ => (sign.apply mantissa : ℤ) * 2 ^ exponent
  | .zero _ | .infinity _ | .notANumber => 0

/-- Whether a mantissa has 53 digits, or fewer at the least exponent. -/
structure Canonical (mantissa : Nat) (exponent : Int) : Prop where
  digits : mantissa < 2 ^ 53
  least : -1074 ≤ exponent
  leading : 2 ^ 52 ≤ mantissa ∨ exponent = -1074

/-- Parts that are finite and canonical. -/
inductive Regular : UnpackedFloat -> Prop where
  | zero (sign : Sign) : Regular (.zero sign)
  | finite {sign : Sign} {mantissa : Nat} {exponent : Int} (positive : 0 < mantissa)
      (canonical : Canonical mantissa exponent) :
      Regular (.finite sign mantissa exponent positive)

theorem abs_apply (sign : Sign) (mantissa : Nat) (exponent : Int) :
    |((sign.apply mantissa : ℤ) : ℚ) * 2 ^ exponent| = mantissa * 2 ^ exponent := by
  have nonnegative : (0 : ℚ) ≤ mantissa * 2 ^ exponent := by positivity
  cases sign <;> simp [Sign.apply, abs_of_nonneg nonnegative]

theorem abs_sub_apply (sign : Sign) (first second : Nat) (unit unit' : ℚ) :
    |((sign.apply first : ℤ) : ℚ) * unit - (sign.apply second : ℤ) * unit'| =
      |first * unit - second * unit'| := by
  cases sign with
  | positive => rfl
  | negative =>
      rw [← abs_neg]
      congr 1
      simp only [Sign.apply]
      push_cast
      ring

/-! ## Codes -/

/-- The rational number that a finite binary64 number is. -/
def rational? (x : Float) : Option ℚ :=
  if x.isFinite then
    some ((if isNegative x then -1 else 1) * magnitude (code x) / 2 ^ 1074)
  else none

/-- What is written as one tenth is a number nearby. -/
example : rational? 0.1 = some (0x1999999999999A / 2 ^ 56) := by
  decide +kernel

private theorem magnitude_of_lt {size : Nat} (least : size < 2 ^ 52) : magnitude size = size := by
  rw [magnitude, Nat.pow_eq, Nat.div_eq_of_lt least]
  simp

private theorem magnitude_of_le {size : Nat} (leading : 2 ^ 52 ≤ size) :
    magnitude size = (2 ^ 52 + size % 2 ^ 52) * 2 ^ (size / 2 ^ 52 - 1) := by
  have whole : size - (size / 2 ^ 52 - 1) * 2 ^ 52 = 2 ^ 52 + size % 2 ^ 52 := by omega
  rw [magnitude, Nat.pow_eq, Nat.pow_eq, whole]

/-- The number that is read from a code is the one its parts stand for. -/
theorem rational?_eq_exact {x : Float} (finite : x.isFinite = true) :
    rational? x = some (exact (parts x)) := by
  have encodes := encodes_parts x
  have factor (n : Nat) : ((if isNegative x then -1 else 1) * n : ℚ) = ((signOf x).apply n : ℤ) := by
    rw [signOf]
    cases isNegative x <;> simp [Sign.apply]
  rw [rational?, if_pos finite, factor]
  congr 1
  change (parts x).isFinite = true at finite
  generalize parts x = whole at encodes finite
  generalize signOf x = sign at encodes ⊢
  cases encodes with
  | notANumber | infinity => cases finite
  | zero equal =>
      rw [equal]
      cases sign <;> simp [exact, Sign.apply, magnitude]
  | least digits field small =>
      rw [magnitude_of_lt small, exact, digits, field, zpow_neg, div_eq_mul_inv]
      rfl
  | leading digits field large bound =>
      rcases Nat.exists_eq_add_one.mpr (show 0 < code x / 2 ^ 52 by omega) with ⟨doublings, count⟩
      have lowered (places : Nat) :
          (2 : ℚ) ^ ((doublings : ℤ) - places) = 2 ^ doublings / 2 ^ places := by
        rw [zpow_sub₀ two_ne_zero, zpow_natCast, zpow_natCast]
      have exponent : ((doublings + 1 : Nat) : ℤ) - 1075 = doublings - (1074 : Nat) := by omega
      rw [magnitude_of_le large, exact, digits, field, count, Nat.add_sub_cancel, exponent, lowered]
      generalize (2 ^ 1074 : ℚ) = unit
      cases sign <;> simp only [Sign.apply] <;> push_cast <;> ring

/-! ## Packing -/

theorem unpackSign_packComponents {format : Format} {sign : Sign} {exponent mantissa} :
    unpackSign (packComponents format sign exponent mantissa) = sign.toBitVec := by
  ext i bound
  have first : i = 0 := by omega
  subst first
  simp [unpackSign, packComponents, BitVec.getLsbD_append, BitVec.getElem_append]

theorem ofBitVec_toBitVec (sign : Sign) : Sign.ofBitVec sign.toBitVec = sign := by
  cases sign <;> rfl

private theorem unpack_leading {sign : Sign} {mantissa field : Nat} (digits : mantissa < 2 ^ 53)
    (leading : 2 ^ 52 ≤ mantissa) (low : 0 < field) (high : field < 2047) :
    UnpackedFloat.unpack .binary64
        (packComponents .binary64 sign (BitVec.ofNat 11 field) (BitVec.ofNat 52 mantissa)) =
      .finite sign mantissa (field - 1075) (by omega) := by
  have least : BitVec.ofNat 11 field ≠ 0#11 := by
    rw [ne_eq, ← BitVec.toNat_inj, BitVec.toNat_ofNat]
    change ¬field % 2 ^ 11 = 0
    omega
  have greatest : BitVec.ofNat 11 field ≠ -1#11 := by
    rw [ne_eq, ← BitVec.toNat_inj, BitVec.toNat_ofNat]
    change ¬field % 2 ^ 11 = 2047
    omega
  have restored : (1#1 ++ BitVec.ofNat 52 mantissa).toNat = mantissa := by
    rw [BitVec.toNat_append, BitVec.toNat_ofNat, BitVec.toNat_ofNat]
    change 1 <<< 52 ||| mantissa % 2 ^ 52 = mantissa
    rw [← Nat.shiftLeft_add_eq_or_of_lt (Nat.mod_lt _ (by decide)), Nat.shiftLeft_eq]
    omega
  have unbiased : ((BitVec.ofNat 11 field).toNat : Int) -
      ((Format.binary64.exponentBias : Int) + (52 : Nat)) = field - 1075 := by
    rw [BitVec.toNat_ofNat]
    change ((field % 2 ^ 11 : Nat) : Int) - (1023 + 52) = _
    omega
  rw [UnpackedFloat.unpack]
  simp only [unpackExponent_packComponents, unpackMantissa_packComponents,
    unpackSign_packComponents, ofBitVec_toBitVec, if_neg greatest, if_neg least]
  congr 1

private theorem unpack_least {sign : Sign} {mantissa : Nat} (positive : 0 < mantissa)
    (digits : mantissa < 2 ^ 52) :
    UnpackedFloat.unpack .binary64
        (packComponents .binary64 sign 0#11 (BitVec.ofNat 52 mantissa)) =
      .finite sign mantissa (-1074) positive := by
  have greatest : 0#11 ≠ -1#11 := by decide
  have kept : (BitVec.ofNat 52 mantissa).toNat = mantissa := by
    rw [BitVec.toNat_ofNat]
    omega
  have nonzero : BitVec.ofNat 52 mantissa ≠ 0#52 := by
    rw [ne_eq, ← BitVec.toNat_inj, kept]
    exact positive.ne'
  rw [UnpackedFloat.unpack]
  simp only [unpackExponent_packComponents, unpackMantissa_packComponents,
    unpackSign_packComponents, ofBitVec_toBitVec, if_neg greatest, if_true, dif_neg nonzero]
  congr 1

/-- Canonical parts are kept when they are packed, up to the greatest
exponent. -/
theorem repacked_of_canonical {sign : Sign} {mantissa : Nat} {exponent : Int}
    (positive : 0 < mantissa) (canonical : Canonical mantissa exponent) :
    repacked (.finite sign mantissa exponent positive) =
      if exponent ≤ 971 then .finite sign mantissa exponent positive else .infinity sign := by
  have least := canonical.least
  have packed : repacked (.finite sign mantissa exponent positive) =
      UnpackedFloat.unpack .binary64
        (if 2 ^ 11 ≤ (exponent + (1023 : Nat) + (52 : Nat)).toNat + 1 then
          packedInfinity .binary64 sign
        else if mantissa.log2 + 1 = 53 then
          packComponents .binary64 sign
            (BitVec.ofNat 11 (exponent + (1023 : Nat) + (52 : Nat)).toNat)
            (BitVec.ofNat 52 mantissa)
        else packComponents .binary64 sign 0#11 (BitVec.ofNat 52 mantissa)) := rfl
  rw [packed]
  by_cases beyond : 2 ^ 11 ≤ (exponent + (1023 : Nat) + (52 : Nat)).toNat + 1
  · have great : ¬exponent ≤ 971 := by omega
    rw [if_pos beyond, if_neg great]
    cases sign <;> rfl
  · have small : exponent ≤ 971 := by omega
    rw [if_neg beyond, if_pos small]
    have upper := (Nat.log2_lt positive.ne').mpr canonical.digits
    have lower := @Nat.le_log2 mantissa 52 positive.ne'
    by_cases leading : 2 ^ 52 ≤ mantissa
    · have log : mantissa.log2 + 1 = 53 := by
        have enough := lower.mpr leading
        omega
      rw [if_pos log, unpack_leading canonical.digits leading (by omega) (by omega)]
      congr 1
      omega
    · have log : mantissa.log2 + 1 ≠ 53 := by
        have fewer := mt lower.mp leading
        omega
      rw [if_neg log, unpack_least positive (by omega)]
      congr 1
      exact (canonical.leading.resolve_left leading).symm

/-- The parts of a number are canonical. -/
theorem canonical_of_parts {x : Float} {sign : Sign} {mantissa : Nat} {exponent : Int}
    {positive : 0 < mantissa} (whole : parts x = .finite sign mantissa exponent positive) :
    Canonical mantissa exponent := by
  have encodes := encodes_parts x
  rw [whole] at encodes
  cases encodes with
  | least digits field small => exact ⟨by omega, by omega, .inr field⟩
  | leading digits field large => exact ⟨by omega, by omega, .inl (by omega)⟩

theorem Regular.isFinite {whole : UnpackedFloat} (regular : Regular whole) :
    whole.isFinite = true := by
  cases regular <;> rfl

theorem regular_parts {x : Float} (finite : x.isFinite = true) : Regular (parts x) := by
  rcases parts_of_isFinite finite with ⟨sign, whole⟩ | ⟨sign, mantissa, exponent, positive, whole⟩
  · rw [whole]
    exact .zero sign
  · rw [whole]
    exact .finite positive (canonical_of_parts whole)

/-- Regular parts are kept when they are packed, if they are not too great. -/
theorem repacked_of_regular {whole : UnpackedFloat} (regular : Regular whole)
    (small : |exact whole| < 2 ^ 1024) : repacked whole = whole := by
  cases regular with
  | zero sign => exact repacked_zero sign
  | finite positive canonical =>
      rename_i sign mantissa exponent
      rw [repacked_of_canonical positive canonical]
      apply if_pos
      by_contra great
      have large : 2 ^ 52 ≤ mantissa := canonical.leading.resolve_right (by omega)
      rw [exact, abs_apply] at small
      apply not_le_of_gt small
      calc
        (2 ^ 1024 : ℚ) = 2 ^ 52 * 2 ^ (972 : ℤ) := by
          rw [zpow_ofNat, ← pow_add]
        _ ≤ mantissa * 2 ^ exponent := by
          gcongr
          · exact_mod_cast large
          · exact one_le_two
          · omega

/-- Regular parts are kept when they are packed, if they stay finite. -/
theorem repacked_of_isFinite {whole : UnpackedFloat} (regular : Regular whole)
    (finite : (repacked whole).isFinite = true) : repacked whole = whole := by
  cases regular with
  | zero sign => exact repacked_zero sign
  | finite positive canonical =>
      rw [repacked_of_canonical positive canonical] at finite ⊢
      split
      · rfl
      · rename_i great
        rw [if_neg great] at finite
        cases finite

theorem isFinite_of_rational? {x : Float} {value : ℚ} (known : rational? x = some value) :
    x.isFinite = true ∧ exact (parts x) = value := by
  have finite : x.isFinite = true := by
    by_contra infinite
    rw [rational?, if_neg infinite] at known
    cases known
  rw [rational?_eq_exact finite] at known
  exact ⟨finite, Option.some_inj.mp known⟩

theorem abs_exact_lt {x : Float} (finite : x.isFinite = true) :
    |exact (parts x)| < 2 ^ 1024 := by
  rcases parts_of_isFinite finite with ⟨sign, whole⟩ | ⟨sign, mantissa, exponent, positive, whole⟩
  · rw [whole, exact, abs_zero]
    positivity
  · rcases bounds_of_parts whole with ⟨digits, small⟩
    rw [whole, exact, abs_apply]
    calc
      (mantissa * 2 ^ exponent : ℚ) < 2 ^ 53 * 2 ^ exponent := by
        gcongr
        exact_mod_cast digits
      _ ≤ 2 ^ 53 * 2 ^ (971 : ℤ) := by
        gcongr
        exact one_le_two
      _ = 2 ^ 1024 := (pow_add 2 53 971).symm

theorem exact_abs_eq (whole : UnpackedFloat) : exact whole.abs = |exact whole| := by
  cases whole with
  | notANumber | infinity | zero => exact abs_zero.symm
  | finite => exact (abs_apply _ _ _).symm

theorem Regular.abs {whole : UnpackedFloat} (regular : Regular whole) : Regular whole.abs := by
  cases regular with
  | zero sign => exact .zero _
  | finite positive canonical => exact .finite positive canonical

theorem exact_parts_abs {x : Float} (finite : x.isFinite = true) :
    exact (parts x.abs) = |exact (parts x)| := by
  have size := exact_abs_eq (parts x)
  have small : |exact (parts x).abs| < 2 ^ 1024 := by
    rw [size, abs_abs]
    exact abs_exact_lt finite
  rw [parts_abs, repacked_of_regular (regular_parts finite).abs small, size]

/-! ## Comparisons -/

theorem Canonical.lt_of_exponent_lt {mantissa mantissa' : Nat} {exponent exponent' : Int}
    (canonical : Canonical mantissa exponent) (canonical' : Canonical mantissa' exponent')
    (less : exponent < exponent') :
    (mantissa * 2 ^ exponent : ℚ) < mantissa' * 2 ^ exponent' := by
  have least := canonical.least
  have large : 2 ^ 52 ≤ mantissa' := canonical'.leading.resolve_right (by omega)
  calc
    (mantissa * 2 ^ exponent : ℚ) < 2 ^ 53 * 2 ^ exponent := by
      gcongr
      exact_mod_cast canonical.digits
    _ = 2 ^ 52 * 2 ^ (exponent + 1) := by
      rw [zpow_add₀ two_ne_zero]
      ring
    _ ≤ mantissa' * 2 ^ exponent' := by
      gcongr
      · exact_mod_cast large
      · exact one_le_two
      · omega

theorem Canonical.compare_eq {mantissa mantissa' : Nat} {exponent exponent' : Int}
    (canonical : Canonical mantissa exponent) (canonical' : Canonical mantissa' exponent') :
    (compare exponent exponent').then (compare mantissa mantissa') =
      compare (mantissa * 2 ^ exponent : ℚ) (mantissa' * 2 ^ exponent') := by
  rcases lt_trichotomy exponent exponent' with less | equal | greater
  · rw [compare_lt_iff_lt.mpr less,
      compare_lt_iff_lt.mpr (canonical.lt_of_exponent_lt canonical' less)]
    rfl
  · have unit : (0 : ℚ) < 2 ^ exponent' := zpow_pos two_pos _
    rw [equal, compare_eq_iff_eq.mpr rfl, Ordering.then]
    rcases lt_trichotomy mantissa mantissa' with less | same | greater
    · rw [compare_lt_iff_lt.mpr less, compare_lt_iff_lt.mpr]
      exact mul_lt_mul_of_pos_right (by exact_mod_cast less) unit
    · rw [same, compare_eq_iff_eq.mpr rfl, compare_eq_iff_eq.mpr rfl]
    · rw [compare_gt_iff_gt.mpr greater, compare_gt_iff_gt.mpr]
      exact mul_lt_mul_of_pos_right (by exact_mod_cast greater) unit
  · rw [compare_gt_iff_gt.mpr greater,
      compare_gt_iff_gt.mpr (canonical'.lt_of_exponent_lt canonical greater)]
    rfl

theorem swap_compare (first second : ℚ) :
    (compare first second).swap = compare (-first) (-second) := by
  rcases lt_trichotomy first second with less | equal | greater
  · rw [compare_lt_iff_lt.mpr less, compare_gt_iff_gt.mpr (neg_lt_neg less)]
    rfl
  · rw [equal, compare_eq_iff_eq.mpr rfl, compare_eq_iff_eq.mpr rfl]
    rfl
  · rw [compare_gt_iff_gt.mpr greater, compare_lt_iff_lt.mpr (neg_lt_neg greater)]
    rfl

/-- Regular parts are compared as the numbers they stand for. -/
theorem compare_eq_exact {whole whole' : UnpackedFloat} (regular : Regular whole)
    (regular' : Regular whole') :
    whole.compare whole' = some (compare (exact whole) (exact whole')) := by
  have above {mantissa : Nat} {exponent : Int} (positive : 0 < mantissa) :
      (0 : ℚ) < mantissa * 2 ^ exponent :=
    mul_pos (by exact_mod_cast positive) (zpow_pos two_pos _)
  have positive_exact {mantissa : Nat} {exponent : Int} (positive : 0 < mantissa) :
      exact (.finite .positive mantissa exponent positive) = mantissa * 2 ^ exponent :=
    rfl
  have negative_exact {mantissa : Nat} {exponent : Int} (positive : 0 < mantissa) :
      exact (.finite .negative mantissa exponent positive) = -(mantissa * 2 ^ exponent) := by
    rw [exact, Sign.apply, Int.cast_neg, neg_mul]
    rfl
  cases regular with
  | zero sign =>
      cases regular' with
      | zero sign' => exact congrArg some (compare_eq_iff_eq.mpr rfl).symm
      | @finite sign' _ _ positive' =>
          cases sign' with
          | positive => exact congrArg some (compare_lt_iff_lt.mpr (above positive')).symm
          | negative =>
              rw [negative_exact]
              exact congrArg some (compare_gt_iff_gt.mpr (neg_lt_zero.mpr (above positive'))).symm
  | @finite sign _ _ positive canonical =>
      cases regular' with
      | zero sign' =>
          cases sign with
          | positive => exact congrArg some (compare_gt_iff_gt.mpr (above positive)).symm
          | negative =>
              rw [negative_exact]
              exact congrArg some (compare_lt_iff_lt.mpr (neg_lt_zero.mpr (above positive))).symm
      | @finite sign' _ _ positive' canonical' =>
          have order := canonical.compare_eq canonical'
          cases sign with
          | positive =>
              cases sign' with
              | positive => exact congrArg some order
              | negative =>
                  rw [positive_exact, negative_exact]
                  exact congrArg some (compare_gt_iff_gt.mpr
                    ((neg_lt_zero.mpr (above positive')).trans (above positive))).symm
          | negative =>
              cases sign' with
              | positive =>
                  rw [positive_exact, negative_exact]
                  exact congrArg some (compare_lt_iff_lt.mpr
                    ((neg_lt_zero.mpr (above positive)).trans (above positive'))).symm
              | negative =>
                  rw [negative_exact, negative_exact, ← swap_compare, ← order]
                  rfl

theorem le_iff_exact {x y : Float} (first : x.isFinite = true) (second : y.isFinite = true) :
    x ≤ y ↔ exact (parts x) ≤ exact (parts y) := by
  rw [le_iff_parts, UnpackedFloat.le, compare_eq_exact (regular_parts first) (regular_parts second),
    Option.any_some, Ordering.isLE_iff_ne_gt]
  exact compare_le_iff_le

theorem lt_iff_exact {x y : Float} (first : x.isFinite = true) (second : y.isFinite = true) :
    x < y ↔ exact (parts x) < exact (parts y) := by
  rw [lt_iff_parts, UnpackedFloat.lt, compare_eq_exact (regular_parts first) (regular_parts second),
    beq_iff_eq, Option.some_inj, compare_lt_iff_lt]

theorem eq_iff_exact {x y : Float} (first : x.isFinite = true) (second : y.isFinite = true) :
    (x == y) = true ↔ exact (parts x) = exact (parts y) := by
  change (parts x).beq (parts y) = true ↔ _
  rw [UnpackedFloat.beq, compare_eq_exact (regular_parts first) (regular_parts second),
    beq_iff_eq, Option.some_inj, compare_eq_iff_eq]

end Binary64
end Reckoner
