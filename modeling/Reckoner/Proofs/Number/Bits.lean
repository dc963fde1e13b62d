import Mathlib
import Reckoner.Number.Binary64

namespace Reckoner

/-!
# Numbers and their bits

A binary64 number is kept as a word of 64 bits, of which one is the sign,
eleven are the exponent and 52 the mantissa.  A number is determined by its
sign and the code of its magnitude (`ofCode_code`).  Statements about the text
of numbers rest on this, as texts are made from sign and code.

Sign and code also tell what a number is taken apart into (`encodes_parts`),
and with that the class of a number: finite, infinite or none (`class_iff`).  A
code beyond that of infinity has the single word for what is not a number, so
that no two such numbers have to be told apart.
-/

namespace Binary64

open Float.Model Float.Model.UnpackedFloat

/-- The sign of a number and the code of its magnitude determine it. -/
theorem ofCode_code (x : Float) : ofCode (isNegative x) (code x) = x := by
  have size := x.toBits.toNat_lt
  have whole : (if isNegative x then signUnit + code x else code x) = x.toBits.toNat := by
    rcases Nat.lt_or_ge x.toBits.toNat signUnit with small | large
    · rw [isNegative, decide_eq_false (Nat.not_le_of_lt small), code, Nat.mod_eq_of_lt small]
      rfl
    · rw [isNegative, decide_eq_true large, if_pos rfl, code]
      simp only [signUnit, Nat.pow_eq] at large ⊢
      omega
  rw [ofCode, whole, UInt64.ofNat_toNat, Float.ofBits_toBits]

theorem unpackExponent_toNat (b : BitVec Format.binary64.numBits) :
    (unpackExponent b).toNat = b.toNat % 2 ^ 63 / 2 ^ 52 := by
  change b.toNat >>> 52 % 2 ^ 11 = _
  rw [Nat.shiftRight_eq_div_pow]
  omega

theorem unpackMantissa_toNat (b : BitVec Format.binary64.numBits) :
    (unpackMantissa b).toNat = b.toNat % 2 ^ 63 % 2 ^ 52 := by
  change b.toNat >>> 0 % 2 ^ 52 = _
  rw [Nat.shiftRight_zero]
  omega

private theorem fields_iff (b : BitVec Format.binary64.numBits) :
    (unpackExponent b = -1 ↔ infinityCode ≤ b.toNat % signUnit) ∧
      (unpackExponent b = -1 ∧ unpackMantissa b = 0 ↔ b.toNat % signUnit = infinityCode) := by
  have exponent : unpackExponent b = -1 ↔ (unpackExponent b).toNat = 2047 := BitVec.toNat_inj.symm
  have mantissa : unpackMantissa b = 0 ↔ (unpackMantissa b).toNat = 0 := BitVec.toNat_inj.symm
  rw [exponent, mantissa, unpackExponent_toNat, unpackMantissa_toNat, signUnit, infinityCode,
    Nat.pow_eq, Nat.pow_eq]
  omega

/-! ## Parts -/

/-- A number taken apart. -/
def parts (x : Float) : UnpackedFloat :=
  x.toModel.unpack

def signOf (x : Float) : Sign :=
  if isNegative x then .negative else .positive

private theorem ofBitVec_unpackSign (x : Float) :
    Sign.ofBitVec (@unpackSign .binary64 x.toBits.toBitVec) = signOf x := by
  have size := x.toBits.toBitVec.isLt
  have bit : (@unpackSign .binary64 x.toBits.toBitVec).toNat = x.toBits.toNat / 2 ^ 63 := by
    change x.toBits.toBitVec.toNat >>> 63 % 2 ^ 1 = _
    rw [Nat.shiftRight_eq_div_pow, UInt64.toNat_toBitVec]
    rw [UInt64.toNat_toBitVec] at size
    omega
  have zero : @unpackSign .binary64 x.toBits.toBitVec = 0#1 ↔ ¬signUnit ≤ x.toBits.toNat := by
    rw [← BitVec.toNat_inj, bit, signUnit, Nat.pow_eq]
    change _ = 0 ↔ _
    omega
  rw [Sign.ofBitVec, signOf, isNegative]
  by_cases negative : signUnit ≤ x.toBits.toNat
  · rw [if_neg (fun same => zero.mp same negative), decide_eq_true negative, if_pos rfl]
  · rw [if_pos (zero.mpr negative), decide_eq_false negative]
    rfl

/-- The parts that belong to a sign and the code of a magnitude. -/
inductive Encodes (sign : Sign) (size : Nat) : UnpackedFloat -> Prop where
  | notANumber (beyond : infinityCode < size) : Encodes sign size .notANumber
  | infinity (equal : size = infinityCode) : Encodes sign size (.infinity sign)
  | zero (equal : size = 0) : Encodes sign size (.zero sign)
  | least {mantissa : Nat} {exponent : Int} {positive : 0 < mantissa} (digits : mantissa = size)
      (field : exponent = -1074) (small : size < 2 ^ 52) :
      Encodes sign size (.finite sign mantissa exponent positive)
  | leading {mantissa : Nat} {exponent : Int} {positive : 0 < mantissa}
      (digits : mantissa = 2 ^ 52 + size % 2 ^ 52)
      (field : exponent = (size / 2 ^ 52 : Nat) - 1075)
      (large : 2 ^ 52 ≤ size) (finite : size < infinityCode) :
      Encodes sign size (.finite sign mantissa exponent positive)

/-- The parts of a number can be told from its sign and its code. -/
theorem encodes_parts (x : Float) : Encodes (signOf x) (code x) (parts x) := by
  have exponent := unpackExponent_toNat x.toBits.toBitVec
  have mantissa := unpackMantissa_toNat x.toBits.toBitVec
  change _ = code x / 2 ^ 52 at exponent
  change _ = code x % 2 ^ 52 at mantissa
  have bias : (Format.binary64.exponentBias : Int) = 1023 := rfl
  have infinity : infinityCode = 2047 * 2 ^ 52 := rfl
  have bound := (@unpackExponent .binary64 x.toBits.toBitVec).isLt
  change _ < 2 ^ 11 at bound
  change Encodes _ _ (UnpackedFloat.unpack .binary64 x.toBits.toBitVec)
  unfold UnpackedFloat.unpack
  simp only
  rw [ofBitVec_unpackSign]
  split
  · rename_i field
    have greatest : (@unpackExponent .binary64 x.toBits.toBitVec).toNat = 2047 :=
      congrArg BitVec.toNat field
    split
    · rename_i field'
      have none : (@unpackMantissa .binary64 x.toBits.toBitVec).toNat = 0 :=
        congrArg BitVec.toNat field'
      exact .infinity (by omega)
    · rename_i field'
      have some : (@unpackMantissa .binary64 x.toBits.toBitVec).toNat ≠ 0 :=
        fun zero => field' (BitVec.eq_of_toNat_eq zero)
      exact .notANumber (by omega)
  · rename_i field
    have bounded : (@unpackExponent .binary64 x.toBits.toBitVec).toNat ≠ 2047 :=
      fun same => field (BitVec.eq_of_toNat_eq same)
    split
    · rename_i field
      have least : (@unpackExponent .binary64 x.toBits.toBitVec).toNat = 0 :=
        congrArg BitVec.toNat field
      split
      · rename_i field'
        have none : (@unpackMantissa .binary64 x.toBits.toBitVec).toNat = 0 :=
          congrArg BitVec.toNat field'
        exact .zero (by omega)
      · exact .least (by omega) (by omega) (by omega)
    · rename_i field
      have nonzero : (@unpackExponent .binary64 x.toBits.toBitVec).toNat ≠ 0 :=
        fun zero => field (BitVec.eq_of_toNat_eq zero)
      have restored : (1#1 ++ @unpackMantissa .binary64 x.toBits.toBitVec).toNat =
          2 ^ 52 + code x % 2 ^ 52 := by
        rw [BitVec.toNat_append, ← Nat.shiftLeft_add_eq_or_of_lt (BitVec.isLt _), mantissa]
        rfl
      exact .leading restored (by omega) (by omega) (by omega)

/-- The class of a number by the code of its magnitude. -/
theorem class_iff (x : Float) :
    (x.isFinite = true ↔ code x < infinityCode) ∧ (x.isInf = true ↔ code x = infinityCode) ∧
      (x.isNaN = true ↔ infinityCode < code x) := by
  have encodes := encodes_parts x
  have infinity : infinityCode = 2047 * 2 ^ 52 := rfl
  change ((parts x).isFinite = true ↔ _) ∧ ((parts x).isInf = true ↔ _) ∧
    ((parts x).isNaN = true ↔ _)
  generalize parts x = whole at encodes ⊢
  cases encodes <;>
    simp only [UnpackedFloat.isFinite, UnpackedFloat.isInf, UnpackedFloat.isNaN, true_iff,
      Bool.false_eq_true, false_iff] <;>
    omega

theorem isFinite_of_isInf {x : Float} (number : ¬ x.isNaN = true) (bounded : ¬ x.isInf = true) :
    x.isFinite = true := by
  have classes := class_iff x
  rw [classes.2.1] at bounded
  rw [classes.2.2] at number
  rw [classes.1]
  omega

theorem not_isNaN_of_isFinite {x : Float} (finite : x.isFinite = true) : ¬x.isNaN = true := by
  have classes := class_iff x
  rw [classes.1] at finite
  rw [classes.2.2]
  omega

theorem not_isInf_of_isFinite {x : Float} (finite : x.isFinite = true) : ¬x.isInf = true := by
  have classes := class_iff x
  rw [classes.1] at finite
  rw [classes.2.1]
  omega

section

variable {size : Nat} (bound : size ≤ infinityCode)
include bound

private theorem toNat_toBits_ofCode : (ofCode false size).toBits.toNat = size := by
  have small : size < 2 ^ 64 := Nat.lt_of_le_of_lt bound (by decide)
  have counted : (UInt64.ofNat size).toNat = size := UInt64.toNat_ofNat_of_lt' small
  have belowSign : size < signUnit := Nat.lt_of_le_of_lt bound (by decide)
  have fields := fields_iff (UInt64.ofNat size).toBitVec
  rw [UInt64.toNat_toBitVec, counted, Nat.mod_eq_of_lt belowSign] at fields
  have valid : Format.Valid .binary64 (UInt64.ofNat size).toBitVec := by
    constructor
    intro exponent mantissa
    have equal := Nat.le_antisymm bound (fields.1.mp exponent)
    exact absurd (fields.2.mpr equal).2 mantissa
  have kept : (ofCode false size).toBits = UInt64.ofNat size :=
    UInt64.toBitVec_inj.mp (pack_unpack_of_valid valid)
  rw [kept, counted]

theorem isNegative_ofCode : isNegative (ofCode false size) = false := by
  rw [isNegative, toNat_toBits_ofCode bound]
  exact decide_eq_false (Nat.not_le_of_lt (Nat.lt_of_le_of_lt bound (by decide)))

theorem code_ofCode : code (ofCode false size) = size := by
  rw [code, toNat_toBits_ofCode bound]
  exact Nat.mod_eq_of_lt (Nat.lt_of_le_of_lt bound (by decide))

end

end Binary64
end Reckoner
