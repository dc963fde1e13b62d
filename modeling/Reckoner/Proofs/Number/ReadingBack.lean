import Reckoner.Proofs.Number.Bits
import Reckoner.Proofs.Number.Numeral

namespace Reckoner

/-!
# Reading a number back

The plain form of a number reads back as the number (`readNumber_write`).  No
bound on the number of digits is needed for this, because each candidate for
the shortest decimal has been read before it is taken, and the decimal that
stands in for all of them is the number itself.
-/

/-! ## The shortest decimal -/

namespace Shortest

open Binary64

/-- What is found on a grid has been read. -/
theorem nearestCode_of_readingBack {code : Nat} {place : Int} {d : Decimal}
    (found : readingBack code place = some d) : d.nearestCode = code := by
  rw [readingBack] at found
  simp only at found
  split at found
  · rename_i below above
    split at found
    · cases found
      exact eq_of_beq below
    · cases found
      exact eq_of_beq above
  · rename_i below above
    cases found
    exact eq_of_beq below
  · rename_i below above
    cases found
    exact eq_of_beq above
  · cases found

theorem nearestCode_expansion {code : Nat} (finite : code < infinityCode) :
    (expansion code).nearestCode = code := by
  have enough : (0 : Int) ≤ -1074 + (1074 : Nat) := by decide
  rw [Decimal.nearestCode_eq_nearest (expansion code) enough]
  have positive := pow_pos (show (0 : Nat) < 10 by decide) 1074
  have unit := pow_pos (show (0 : Nat) < 2 by decide) 1074
  refine Eq.trans (nearest_eq positive unit ?_) (nearest_magnitude finite)
  have exponent : ((expansion code).exponent + (1074 : Nat)).toNat = 0 := rfl
  rw [exponent, Nat.pow_zero, Nat.mul_one, expansion]
  simp only
  rw [Nat.pow_eq, Nat.mul_assoc, ← Nat.mul_pow]

/-- The shortest decimal of a finite number reads back as the number. -/
theorem nearestCode_decimal {code : Nat} (finite : code < infinityCode) :
    (decimal code).nearestCode = code := by
  rw [decimal]
  split
  · rename_i zero
    rw [zero]
    rfl
  · simp only
    rw [Decimal.nearestCode_stripped]
    cases found : (List.range 17).findSome? fun (further : Nat) =>
        readingBack code (leadingPlace code - further) with
    | none => exact nearestCode_expansion finite
    | some d =>
        rcases List.exists_of_findSome?_eq_some found with ⟨further, _, read⟩
        exact nearestCode_of_readingBack read

end Shortest

/-! ## The plain form -/

namespace NumberStyle

open Binary64 Numeral

/-- The plain form of a decimal is made of digits, whose value has the same
code. -/
theorem decimalText_plain (d : Decimal) :
    ∃ whole fraction, decimalText plain d = whole ++ fractionText fraction ∧
      DigitText whole fraction ∧ (digitValue whole fraction).nearestCode = d.nearestCode := by
  have digits : ∀ c ∈ Nat.toDigits 10 d.coefficient, c.isDigit = true :=
    fun c member => Nat.isDigit_of_mem_toDigits (by decide) (by decide) member
  rcases standsFor_positionalText Nat.toDigits_ne_nil digits d.exponent with
    ⟨whole, fraction, layout, text, same⟩
  rw [Nat.ofDigitChars_ten_toDigits] at same
  refine ⟨whole, fraction, ?_, text, Decimal.nearestCode_eq same⟩
  rw [← layout, decimalText]
  simp [plain, isPositional]

/-- The plain form of a finite number: its sign, and digits whose value has its
code. -/
theorem write_of_isFinite {x : Float} (finite : x.isFinite = true) :
    ∃ whole fraction, (plain.write x).toList =
        (if isNegative x then ['-'] else []) ++ (whole ++ fractionText fraction) ∧
      DigitText whole fraction ∧ (digitValue whole fraction).nearestCode = code x := by
  have bound := (class_iff x).1.mp finite
  rcases decimalText_plain (Shortest.decimal (code x)) with ⟨whole, fraction, layout, text, same⟩
  refine ⟨whole, fraction, ?_, text, same.trans (Shortest.nearestCode_decimal bound)⟩
  rw [write, if_neg (not_isNaN_of_isFinite finite), if_neg (not_isInf_of_isFinite finite),
    String.toList_ofList, layout]

/-- The plain form of a number reads back as the number. -/
theorem readNumber_write (x : Float) : readNumber (plain.write x) = some x := by
  by_cases nan : x.isNaN = true
  · rw [Float.isNaN_eq_decide_eq_nan, decide_eq_true_eq] at nan
    rw [nan]
    decide +kernel
  · by_cases infinite : x.isInf = true
    · have code := (class_iff x).2.1.mp infinite
      have read : Numeral.read ((if isNegative x then ['-'] else []) ++ ['i', 'n', 'f']) =
          some (.infinite (isNegative x)) := by
        cases isNegative x <;> rfl
      rw [write, if_neg nan, if_pos infinite, readNumber, String.toList_ofList, read]
      rw [Option.map_some, toFloat, ← code, ofCode_code]
    · rcases write_of_isFinite (isFinite_of_isInf nan infinite) with
        ⟨whole, fraction, layout, text, same⟩
      rw [readNumber, layout, read_of_digits text, Option.map_some, toFloat, same, ofCode_code]

end NumberStyle

theorem isNegative_of_readNumber {c : Char} {rest : List Char} {x : Float}
    (digit : c.isDigit = true) (reads : readNumber (String.ofList (c :: rest)) = some x) :
    Binary64.isNegative x = false := by
  rw [readNumber, String.toList_ofList, Numeral.read, Numeral.splitSign_of_isDigit rest digit]
    at reads
  simp only at reads
  split at reads
  · cases reads
    exact Binary64.isNegative_ofCode (Nat.le_refl _)
  · split at reads
    · cases reads
      decide +kernel
    · rw [Option.map_map] at reads
      rcases Option.map_eq_some_iff.mp reads with ⟨d, _, rfl⟩
      exact Binary64.isNegative_ofCode d.nearestCode_le_infinityCode

end Reckoner
