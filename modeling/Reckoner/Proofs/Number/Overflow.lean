import Reckoner.Proofs.Number.Bits

namespace Reckoner
namespace Binary64

open Float.Model Float.Model.UnpackedFloat

/-!
# Beyond the finite numbers

An operation on binary64 numbers takes its operands apart, works on the parts
and packs the result again.  A finite result has a mantissa and an exponent,
and packing makes an infinity of it if the exponent has grown too large.  This
is all that has to be known of rounding to tell which results are finite: it
leaves a mantissa of at most 53 digits at an exponent that depends on the size
of the number alone (`shiftToTargetExponent_bounds`).

Infinities and what is not a number come through packing as they are, so that
operations on them follow the parts directly.
-/

/-- What comes out again after the parts of a number are packed. -/
def repacked (whole : UnpackedFloat) : UnpackedFloat :=
  UnpackedFloat.unpack .binary64 (UnpackedFloat.pack .binary64 whole)

theorem parts_sub (x y : Float) :
    parts (x - y) = repacked (.sub .binary64 (parts x) (parts y)) :=
  rfl

theorem parts_mul (x y : Float) :
    parts (x * y) = repacked (.mul .binary64 (parts x) (parts y)) :=
  rfl

theorem parts_abs (x : Float) : parts x.abs = repacked (parts x).abs :=
  rfl

theorem le_iff_parts {x y : Float} : x ≤ y ↔ (parts x).le (parts y) = true :=
  decide_eq_true_iff

theorem lt_iff_parts {x y : Float} : x < y ↔ (parts x).lt (parts y) = true :=
  decide_eq_true_iff

theorem isNaN_iff_parts {x : Float} : x.isNaN = true ↔ parts x = .notANumber :=
  UnpackedFloat.isNaN_iff

theorem isInf_iff_parts {x : Float} : x.isInf = true ↔ ∃ sign, parts x = .infinity sign := by
  change (parts x).isInf = true ↔ _
  cases parts x <;> simp [UnpackedFloat.isInf]

theorem class_cases (x : Float) :
    parts x = .notANumber ∨ (∃ sign, parts x = .infinity sign) ∨ x.isFinite = true := by
  change _ ∨ _ ∨ (parts x).isFinite = true
  cases parts x with
  | notANumber => exact .inl rfl
  | infinity sign => exact .inr (.inl ⟨sign, rfl⟩)
  | zero => exact .inr (.inr rfl)
  | finite => exact .inr (.inr rfl)

/-- A finite number is a zero or has a mantissa and an exponent. -/
theorem parts_of_isFinite {x : Float} (finite : x.isFinite = true) :
    (∃ sign, parts x = .zero sign) ∨
      ∃ sign mantissa exponent positive, parts x = .finite sign mantissa exponent positive := by
  change (parts x).isFinite = true at finite
  generalize parts x = whole at finite ⊢
  cases whole with
  | notANumber | infinity => cases finite
  | zero sign => exact .inl ⟨sign, rfl⟩
  | finite sign mantissa exponent positive => exact .inr ⟨sign, mantissa, exponent, positive, rfl⟩

@[simp]
theorem repacked_notANumber : repacked .notANumber = .notANumber :=
  unpack_packedNaN

@[simp]
theorem repacked_infinity (sign : Sign) : repacked (.infinity sign) = .infinity sign := by
  cases sign <;> rfl

@[simp]
theorem repacked_zero (sign : Sign) : repacked (.zero sign) = .zero sign :=
  unpack_packedZero

/-! ## Exponents -/

private theorem isFinite_unpack {word : BitVec Format.binary64.numBits}
    (field : unpackExponent word ≠ -1#11) :
    (UnpackedFloat.unpack .binary64 word).isFinite = true := by
  unfold UnpackedFloat.unpack
  simp only
  rw [if_neg field]
  split
  · split <;> rfl
  · rfl

theorem isFinite_repacked {sign : Sign} {mantissa : Nat} {exponent : Int}
    {positive : 0 < mantissa} (small : exponent ≤ 971) :
    (repacked (.finite sign mantissa exponent positive)).isFinite = true := by
  have fits : ¬2 ^ 11 ≤ (exponent + (1023 : Nat) + (52 : Nat)).toNat + 1 := by omega
  apply isFinite_unpack
  change unpackExponent
    (if 2 ^ 11 ≤ (exponent + (1023 : Nat) + (52 : Nat)).toNat + 1 then _ else _) ≠ _
  rw [if_neg fits]
  split
  · rw [unpackExponent_packComponents, ne_eq, ← BitVec.toNat_inj, BitVec.toNat_ofNat]
    change ¬(exponent + (1023 : Nat) + (52 : Nat)).toNat % 2 ^ 11 = 2047
    omega
  · rw [unpackExponent_packComponents]
    decide

/-- The parts of a finite number are within the bounds of the format. -/
theorem bounds_of_parts {x : Float} {sign : Sign} {mantissa : Nat} {exponent : Int}
    {positive : 0 < mantissa} (whole : parts x = .finite sign mantissa exponent positive) :
    mantissa < 2 ^ 53 ∧ exponent ≤ 971 := by
  have encodes := encodes_parts x
  have infinity : infinityCode = 2047 * 2 ^ 52 := rfl
  rw [whole] at encodes
  cases encodes <;> omega

/-! ## Rounding -/

theorem mantissa_shiftRight (shifted : ExtendedMantissa) (places : Nat) :
    (shifted >>> places).mantissa = shifted.mantissa / 2 ^ places := by
  change (places.repeat ExtendedMantissa.shiftRightOne shifted).mantissa = _
  induction places with
  | zero => exact (Nat.div_one _).symm
  | succ places inductionHypothesis =>
      rw [Nat.repeat, ExtendedMantissa.shiftRightOne, inductionHypothesis,
        Nat.div_div_eq_div_mul, pow_succ]

theorem roundedMantissa_le (shifted : ExtendedMantissa) :
    shifted.roundedMantissa ≤ shifted.mantissa + 1 := by
  rw [ExtendedMantissa.roundedMantissa]
  rcases shifted.accuracy with _ | _ | _ | _ <;> simp only [Accuracy.roundToNearestEven] <;> omega

/-- A mantissa is shifted until it has at most 53 digits, and the exponent
grows by as much. -/
theorem shiftToTargetExponent_bounds (mantissa : Nat) (exponent : Int) (accuracy : Accuracy) :
    (shiftToTargetExponent .binary64 mantissa exponent accuracy).1.mantissa < 2 ^ 53 ∧
      (shiftToTargetExponent .binary64 mantissa exponent accuracy).2 =
        max exponent (max (totalExponent mantissa exponent - 53) (-1074)) := by
  have target : Format.binary64.targetExponent (totalExponent mantissa exponent) =
      max (totalExponent mantissa exponent - 53) (-1074) := rfl
  have kept : (ExtendedMantissa.ofMantissaAndAccuracy mantissa accuracy).mantissa = mantissa := by
    rcases accuracy with _ | _ | _ | _ <;> rfl
  rw [shiftToTargetExponent, shiftToExponent, target]
  constructor
  · rw [mantissa_shiftRight, kept, Nat.div_lt_iff_lt_mul (Nat.two_pow_pos _), ← pow_add]
    apply Nat.lt_of_lt_of_le (Nat.lt_log2_self (n := mantissa))
    apply Nat.pow_le_pow_right (by decide)
    rw [totalExponent]
    omega
  · simp only
    omega

/-- Rounding a number below `2 ^ 1023` gives a finite number. -/
theorem isFinite_roundWithAccuracy {sign : Sign} {mantissa : Nat} {exponent : Int}
    (accuracy : Accuracy) (small : totalExponent mantissa exponent ≤ 1023)
    (low : exponent ≤ 970) :
    (repacked (roundWithAccuracy .binary64 sign mantissa exponent accuracy)).isFinite = true := by
  rcases first : shiftToTargetExponent .binary64 mantissa exponent accuracy with
    ⟨shifted, exponent'⟩
  rcases second : shiftToTargetExponent .binary64 shifted.roundedMantissa exponent' .exact with
    ⟨last, exponent''⟩
  have bounds := shiftToTargetExponent_bounds mantissa exponent accuracy
  have bounds' := shiftToTargetExponent_bounds shifted.roundedMantissa exponent' .exact
  simp only [first] at bounds
  simp only [second] at bounds'
  -- Rounding up can carry into one more digit, for which the second shift makes room.
  have carried : shifted.roundedMantissa.log2 < 54 := by
    have rounded := roundedMantissa_le shifted
    by_cases zero : shifted.roundedMantissa = 0
    · rw [zero]
      decide
    · rw [Nat.log2_lt zero]
      omega
  rw [roundWithAccuracy]
  simp only [first, second]
  by_cases zero : last.mantissa = 0
  · rw [dif_pos zero, repacked_zero]
    rfl
  · rw [dif_neg zero]
    apply isFinite_repacked
    simp only [totalExponent] at bounds bounds' small
    omega

/-! ## Magnitudes -/

theorem isFinite_abs {x : Float} (finite : x.isFinite = true) : x.abs.isFinite = true := by
  change (parts x.abs).isFinite = true
  rw [parts_abs]
  rcases parts_of_isFinite finite with ⟨sign, whole⟩ | ⟨sign, mantissa, exponent, positive, whole⟩
  · rw [whole, UnpackedFloat.abs, repacked_zero]
    rfl
  · rw [whole]
    exact isFinite_repacked (bounds_of_parts whole).2

theorem parts_abs_of_infinity {x : Float} {sign : Sign} (infinite : parts x = .infinity sign) :
    parts x.abs = .infinity .positive := by
  rw [parts_abs, infinite]
  exact repacked_infinity .positive

theorem parts_abs_of_notANumber {x : Float} (noNumber : parts x = .notANumber) :
    parts x.abs = .notANumber := by
  rw [parts_abs, noNumber]
  exact repacked_notANumber

/-! ## Differences and products -/

theorem parts_sub_of_notANumber {x y : Float}
    (noNumber : parts x = .notANumber ∨ parts y = .notANumber) :
    parts (x - y) = .notANumber := by
  rw [parts_sub]
  rcases noNumber with first | second
  · rw [first]
    exact repacked_notANumber
  · rw [second]
    cases parts x <;> exact repacked_notANumber

/-- A difference with an infinity is infinite, unless the other number is the
same infinity. -/
theorem parts_sub_of_infinity {x y : Float} (number : parts x ≠ .notANumber)
    (number' : parts y ≠ .notANumber) (different : (x == y) = false)
    (infinite : (∃ sign, parts x = .infinity sign) ∨ ∃ sign, parts y = .infinity sign) :
    ∃ sign, parts (x - y) = .infinity sign := by
  change ((parts x).beq (parts y)) = false at different
  rw [parts_sub]
  rcases infinite with ⟨sign, first⟩ | ⟨sign, second⟩
  · rw [first] at different ⊢
    refine ⟨sign, ?_⟩
    cases whole : parts y with
    | notANumber => exact absurd whole number'
    | infinity sign' =>
        rw [whole] at different
        cases sign <;> cases sign' <;> first | rfl | cases different
    | zero | finite => exact repacked_infinity sign
  · rw [second] at different ⊢
    refine ⟨-sign, ?_⟩
    cases whole : parts x with
    | notANumber => exact absurd whole number
    | infinity sign' =>
        rw [whole] at different
        cases sign <;> cases sign' <;> first | rfl | cases different
    | zero | finite => exact repacked_infinity (-sign)

/-- A factor below one half keeps a product finite. -/
theorem isFinite_mul {x y : Float} {sign : Sign} {mantissa : Nat} {exponent : Int}
    {positive : 0 < mantissa} (whole : parts x = .finite sign mantissa exponent positive)
    (low : exponent ≤ -54) (finite : y.isFinite = true) : (x * y).isFinite = true := by
  change (parts (x * y)).isFinite = true
  rw [parts_mul, whole]
  rcases parts_of_isFinite finite with
    ⟨sign', whole'⟩ | ⟨sign', mantissa', exponent', positive', whole'⟩
  · rw [whole', UnpackedFloat.mul, repacked_zero]
    rfl
  · have first := (bounds_of_parts whole).1
    have second := bounds_of_parts whole'
    have digits : (mantissa * mantissa').log2 < 106 := by
      rw [Nat.log2_lt (Nat.mul_pos positive positive').ne']
      calc
        mantissa * mantissa' < 2 ^ 53 * 2 ^ 53 := Nat.mul_lt_mul'' first second.1
        _ = 2 ^ 106 := (pow_add 2 53 53).symm
    rw [whole']
    apply isFinite_roundWithAccuracy
    · rw [totalExponent]
      omega
    · omega

/-! ## Comparisons -/

theorem not_le_of_notANumber {x : Float} (noNumber : parts x = .notANumber) (y : Float) :
    ¬x ≤ y := by
  rw [le_iff_parts, noNumber]
  exact nofun

theorem le_of_infinity {x y : Float} (first : parts x = .infinity .positive)
    (second : parts y = .infinity .positive) : x ≤ y := by
  rw [le_iff_parts, first, second]
  rfl

theorem not_le_of_infinity {x y : Float} (infinite : parts x = .infinity .positive)
    (finite : y.isFinite = true) : ¬x ≤ y := by
  rw [le_iff_parts, infinite]
  rcases parts_of_isFinite finite with ⟨sign, whole⟩ | ⟨sign, mantissa, exponent, positive, whole⟩
  · rw [whole]
    exact nofun
  · rw [whole]
    exact nofun

theorem lt_infinity {x y : Float} (finite : x.isFinite = true)
    (infinite : parts y = .infinity .positive) : x < y := by
  rw [lt_iff_parts, infinite]
  rcases parts_of_isFinite finite with ⟨sign, whole⟩ | ⟨sign, mantissa, exponent, positive, whole⟩
  · rw [whole]
    rfl
  · rw [whole]
    cases sign <;> rfl

theorem not_infinity_lt {x : Float} (infinite : parts x = .infinity .positive) (y : Float) :
    ¬x < y := by
  rw [lt_iff_parts, infinite]
  cases parts y with
  | infinity sign => cases sign <;> exact nofun
  | notANumber | zero | finite => exact nofun

end Binary64
end Reckoner
