import Reckoner.Number.Numeral
import Reckoner.Number.Style
import Reckoner.Proofs.Number.Rounding

namespace Reckoner

/-!
# Numerals of digits

The plain form of a finite number is made of digits, and of a point with
further digits where the number is not whole.  Here it is shown what such a
numeral is read as, and that every layout of digits without an exponent is one
and keeps their value.
-/

namespace Numeral

/-- Digits, and behind a point further digits if there are any. -/
structure DigitText (whole fraction : List Char) : Prop where
  some : whole ≠ []
  whole : ∀ c ∈ whole, c.isDigit = true
  fraction : ∀ c ∈ fraction, c.isDigit = true

/-- The decimal that digits before and behind a point stand for. -/
def digitValue (whole fraction : List Char) : Decimal :=
  ⟨Nat.ofDigitChars 10 (whole ++ fraction) 0, -fraction.length⟩

theorem spanDigits_of_stops {digits rest : List Char} (all : ∀ c ∈ digits, c.isDigit = true)
    (stops : ∀ c ∈ rest.head?, c.isDigit = false) :
    spanDigits (digits ++ rest) = (digits, rest) := by
  rw [spanDigits, List.takeWhile_append_of_pos all, List.dropWhile_append_of_pos all]
  cases rest with
  | nil => simp
  | cons c rest => simp [stops c rfl]

/-- Digits before and behind a point are read as their decimal. -/
theorem readDecimal_of_pointed {whole fraction : List Char} (text : DigitText whole fraction) :
    readDecimal (whole ++ '.' :: fraction) = some (digitValue whole fraction) := by
  have nonempty : whole.isEmpty = false := by simpa using text.some
  have span : spanDigits (whole ++ '.' :: fraction) = (whole, '.' :: fraction) := by
    apply spanDigits_of_stops text.whole
    simp [Char.isDigit]
  have behind : spanDigits (fraction ++ []) = (fraction, []) :=
    spanDigits_of_stops text.fraction (by simp)
  rw [List.append_nil] at behind
  rw [readDecimal, span]
  simp [splitFraction, behind, nonempty, readTail, digitValue]

theorem readDecimal_of_digits {whole fraction : List Char} (text : DigitText whole fraction) :
    readDecimal (whole ++ NumberStyle.fractionText fraction) =
      some (digitValue whole fraction) := by
  have nonempty : whole.isEmpty = false := by simpa using text.some
  cases fraction with
  | nil =>
      have span : spanDigits (whole ++ []) = (whole, []) :=
        spanDigits_of_stops text.whole (by simp)
      rw [readDecimal, NumberStyle.fractionText, span]
      simp [splitFraction, nonempty, readTail, digitValue]
  | cons c digits => exact readDecimal_of_pointed text

private theorem toLower_of_isDigit {c : Char} (digit : c.isDigit = true) :
    c.toLower ≠ 'i' ∧ c.toLower ≠ 'n' := by
  have bounds := Char.isDigit_iff_toNat.mp digit
  change 48 ≤ c.toNat ∧ c.toNat ≤ 57 at bounds
  have lower : ¬('A'.val ≤ c.val ∧ c.val ≤ 'Z'.val) := by
    intro upper
    have beyond : 65 ≤ c.toNat := upper.1
    omega
  have same : c.toLower = c := dif_neg lower
  rw [same]
  constructor
  · rintro rfl
    exact absurd digit (by decide)
  · rintro rfl
    exact absurd digit (by decide)

theorem splitSign_of_isDigit {c : Char} (rest : List Char) (digit : c.isDigit = true) :
    splitSign (c :: rest) = (false, c :: rest) := by
  unfold splitSign
  split
  · rename_i same
    rw [(List.cons.inj same).1] at digit
    cases digit
  · rename_i same
    rw [(List.cons.inj same).1] at digit
    cases digit
  · rfl

/-- A sign before a decimal is read as the sign of the decimal. -/
theorem read_of_readDecimal {c : Char} {rest : List Char} {value : Decimal}
    (digit : c.isDigit = true) (reads : readDecimal (c :: rest) = some value) (negative : Bool) :
    read ((if negative then ['-'] else []) ++ c :: rest) = some (decimal negative value) := by
  have unsigned : splitSign ((if negative then ['-'] else []) ++ c :: rest) =
      (negative, c :: rest) := by
    cases negative with
    | true => rfl
    | false => exact splitSign_of_isDigit rest digit
  have noWord := toLower_of_isDigit digit
  rw [read, unsigned]
  simp only
  rw [if_neg, if_neg, reads]
  · rfl
  · simp [noWord]
  · simp [noWord]

theorem read_of_digits {whole fraction : List Char} (text : DigitText whole fraction)
    (negative : Bool) :
    read ((if negative then ['-'] else []) ++ (whole ++ NumberStyle.fractionText fraction)) =
      some (decimal negative (digitValue whole fraction)) := by
  have reads := readDecimal_of_digits text
  rcases List.exists_cons_of_ne_nil text.some with ⟨c, rest, rfl⟩
  exact read_of_readDecimal (text.whole c List.mem_cons_self) reads negative

end Numeral

namespace NumberStyle

open Numeral

/-- A text made of digits that stands for some digits at a place. -/
def StandsFor (text digits : List Char) (exponent : Int) : Prop :=
  ∃ whole fraction, text = whole ++ fractionText fraction ∧ DigitText whole fraction ∧
    Decimal.SameValue (digitValue whole fraction) ⟨Nat.ofDigitChars 10 digits 0, exponent⟩

theorem isDigit_of_mem_replicate {count : Nat} :
    ∀ c ∈ List.replicate count '0', c.isDigit = true := by
  intro c member
  rw [(List.mem_replicate.mp member).2]
  decide

section Layouts

variable {digits : List Char} (some : digits ≠ []) (all : ∀ c ∈ digits, c.isDigit = true)
include all

include some in
/-- Zeros behind the digits of a whole number. -/
theorem standsFor_whole (zeros : Nat) :
    StandsFor (digits ++ List.replicate zeros '0') digits zeros := by
  refine ⟨digits ++ List.replicate zeros '0', [], by simp [fractionText], ⟨?_, ?_, ?_⟩, ?_⟩
  · simp [some]
  · intro c member
    exact (List.mem_append.mp member).elim (all c) (isDigit_of_mem_replicate c)
  · simp
  · have value : digitValue (digits ++ List.replicate zeros '0') [] =
        ⟨Nat.ofDigitChars 10 digits 0 * 10 ^ zeros, 0⟩ := by
      rw [digitValue, List.append_nil, Nat.ofDigitChars_append,
        Nat.ofDigitChars_replicate_zero, Nat.mul_comm]
      rfl
    have shifted := Decimal.sameValue_shift (Nat.ofDigitChars 10 digits 0) zeros 0
    rw [Int.zero_add] at shifted
    rw [value]
    exact shifted

theorem standsFor_pointed {front behind : Nat} (split : front + (behind + 1) = digits.length)
    (positive : 0 < front) :
    StandsFor (digits.take front ++ '.' :: digits.drop front) digits (Int.negSucc behind) := by
  have length : (digits.drop front).length = behind + 1 := by
    rw [List.length_drop]
    omega
  have nonempty : digits.drop front ≠ [] := List.ne_nil_of_length_pos (by omega)
  rcases List.exists_cons_of_ne_nil nonempty with ⟨c, rest, first⟩
  refine ⟨digits.take front, digits.drop front, by rw [first]; rfl, ⟨?_, ?_, ?_⟩, ?_⟩
  · apply List.ne_nil_of_length_pos
    rw [List.length_take]
    omega
  · exact fun c member => all c (List.mem_of_mem_take member)
  · exact fun c member => all c (List.mem_of_mem_drop member)
  · rw [digitValue, List.take_append_drop, length]
    exact Decimal.sameValue_refl _

include some in
theorem standsFor_small {missing behind : Nat} (split : missing + digits.length = behind + 1) :
    StandsFor ('0' :: '.' :: (List.replicate missing '0' ++ digits)) digits
      (Int.negSucc behind) := by
  have nonempty : List.replicate missing '0' ++ digits ≠ [] := by simp [some]
  rcases List.exists_cons_of_ne_nil nonempty with ⟨c, rest, first⟩
  refine ⟨['0'], List.replicate missing '0' ++ digits, by rw [first]; rfl, ⟨?_, ?_, ?_⟩, ?_⟩
  · simp
  · simp
  · intro c member
    exact (List.mem_append.mp member).elim (isDigit_of_mem_replicate c) (all c)
  · have value : Nat.ofDigitChars 10 (['0'] ++ (List.replicate missing '0' ++ digits)) 0 =
        Nat.ofDigitChars 10 digits 0 := by
      rw [List.singleton_append, ← List.cons_append, ← List.replicate_succ,
        Nat.ofDigitChars_append, Nat.ofDigitChars_replicate_zero, Nat.mul_zero]
    rw [digitValue, value, List.length_append, List.length_replicate, split]
    exact Decimal.sameValue_refl _

include some in
/-- Digits that are laid out without an exponent keep their value. -/
theorem standsFor_positionalText (exponent : Int) :
    StandsFor (positionalText false digits exponent) digits exponent := by
  cases exponent with
  | ofNat zeros =>
      have layout : positionalText false digits (Int.ofNat zeros) =
          digits ++ List.replicate zeros '0' := List.append_nil _
      rw [layout]
      exact standsFor_whole some all zeros
  | negSucc behind =>
      rw [positionalText]
      split
      · exact standsFor_pointed all (by omega) (by omega)
      · exact standsFor_small some all (by omega)

end Layouts

end NumberStyle
end Reckoner
