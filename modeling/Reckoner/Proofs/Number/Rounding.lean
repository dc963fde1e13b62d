import Mathlib.Tactic.Ring
import Reckoner.Number.Decimal

namespace Reckoner

/-!
# Laws of rounding

Rounding looks at the value of a fraction and not at its two parts
(`Binary64.nearest_eq`), and it finds the code of a finite number again from
the number itself (`Binary64.nearest_magnitude`).

Both carry over to decimals.  `Decimal.nearestCode` forms powers of ten only
within bounds; `Decimal.nearestCode_eq_nearest` says that it is nonetheless the
rounding of the decimal, whatever its exponent.  Decimals of the same value
therefore have the same code, and zeros at the end of a coefficient are of no
account.
-/

namespace Binary64

/-! ## Fractions -/

theorem roundHalfEven_mul (num den : Nat) {factor : Nat} (positive : 0 < factor) :
    roundHalfEven (num * factor) (den * factor) = roundHalfEven num den := by
  have rest : compare (2 * (num * factor % (den * factor))) (den * factor) =
      compare (2 * (num % den)) den := by
    rw [Nat.mul_mod_mul_right, ← Nat.mul_assoc]
    simp only [Nat.compare_eq_ite_lt, Nat.mul_lt_mul_right positive]
  simp only [roundHalfEven, Nat.mul_div_mul_right _ _ positive, rest]

/-- The unit is named here, so that no proof comes upon its digits. -/
private theorem nearest_of_scaled {num den scaled doublings : Nat}
    (counted : num * 2 ^ 1074 = scaled) (halved : Nat.log2 (scaled / den) - 52 = doublings) :
    nearest num den =
      min infinityCode
        (doublings * 2 ^ 52 + roundHalfEven scaled (den * 2 ^ doublings)) := by
  simp only [nearest, Nat.pow_eq, counted, halved]

theorem nearest_mul (num den : Nat) {factor : Nat} (positive : 0 < factor) :
    nearest (num * factor) (den * factor) = nearest num den := by
  have plain := @nearest_of_scaled num den _ _ rfl rfl
  rw [nearest_of_scaled (Nat.mul_right_comm ..) rfl, plain, Nat.mul_div_mul_right _ _ positive,
    Nat.mul_right_comm den factor, roundHalfEven_mul _ _ positive]

/-- Fractions of the same value are rounded alike. -/
theorem nearest_eq {num den num' den' : Nat} (positive : 0 < den) (positive' : 0 < den')
    (same : num * den' = num' * den) : nearest num den = nearest num' den' := by
  calc
    nearest num den = nearest (num * den') (den * den') := (nearest_mul _ _ positive').symm
    _ = nearest (num' * den) (den' * den) := by rw [same, Nat.mul_comm den]
    _ = nearest num' den' := nearest_mul _ _ positive

private theorem le_log2_of_large {num den exponent unit : Nat} (positive : 0 < den)
    (large : 2 ^ exponent * den ≤ num) :
    exponent + unit ≤ Nat.log2 (num * 2 ^ unit / den) := by
  have size : 2 ^ (exponent + unit) ≤ num * 2 ^ unit / den := by
    rw [Nat.le_div_iff_mul_le positive]
    calc
      2 ^ (exponent + unit) * den = 2 ^ exponent * den * 2 ^ unit := by
        rw [Nat.pow_add, Nat.mul_right_comm]
      _ ≤ num * 2 ^ unit := Nat.mul_le_mul_right _ large
  have nonzero := Nat.ne_of_gt (Nat.lt_of_lt_of_le (Nat.two_pow_pos _) size)
  exact (Nat.le_log2 nonzero).mpr size

theorem nearest_of_large {num den : Nat} (positive : 0 < den) (large : 2 ^ 1025 * den ≤ num) :
    nearest num den = infinityCode := by
  have digits : 1025 + 1074 ≤ Nat.log2 (num * 2 ^ 1074 / den) := le_log2_of_large positive large
  rw [nearest_of_scaled rfl rfl]
  apply Nat.min_eq_left
  have doublings : 2047 ≤ Nat.log2 (num * 2 ^ 1074 / den) - 52 := Nat.le_sub_of_add_le digits
  exact (Nat.mul_le_mul_right _ doublings).trans (Nat.le_add_right _ _)

theorem nearest_of_small {num den : Nat} (small : 2 * (num * 2 ^ 1074) < den) :
    nearest num den = 0 := by
  have named : ∃ scaled, num * 2 ^ 1074 = scaled := ⟨_, rfl⟩
  rcases named with ⟨scaled, counted⟩
  rw [counted] at small
  have less : scaled < den := by omega
  have none : scaled / den = 0 := Nat.div_eq_of_lt less
  have below : compare (2 * scaled) den = .lt := Nat.compare_eq_lt.mpr small
  have halved : Nat.log2 (scaled / den) - 52 = 0 := by simp [none]
  rw [nearest_of_scaled counted halved]
  simp [roundHalfEven, Nat.mod_eq_of_lt less, below, less]

theorem roundHalfEven_mul_self (num : Nat) {den : Nat} (positive : 0 < den) :
    roundHalfEven (num * den) den = num := by
  have below : compare (2 * (num * den % den)) den = .lt := by
    rw [Nat.mul_mod_left, Nat.mul_zero]
    exact Nat.compare_eq_lt.mpr positive
  simp only [roundHalfEven, below]
  exact Nat.mul_div_cancel _ positive

/-- A number with at most 53 binary digits in front of its doublings is rounded
to itself, and its code puts the two together. -/
private theorem nearest_of_digits {digits doublings : Nat} (bound : digits < 2 ^ 53)
    (leading : doublings = 0 ∨ 2 ^ 52 ≤ digits)
    (finite : doublings * 2 ^ 52 + digits < infinityCode) :
    nearest (digits * 2 ^ doublings) (2 ^ 1074) = doublings * 2 ^ 52 + digits := by
  have unit := Nat.two_pow_pos 1074
  have counted : Nat.log2 (digits * 2 ^ doublings) - 52 = doublings := by
    rcases leading with rfl | leading
    · rcases Nat.eq_zero_or_pos digits with rfl | positive
      · rfl
      · have fewer := (Nat.log2_lt (Nat.ne_of_gt positive)).mpr bound
        rw [Nat.pow_zero, Nat.mul_one]
        omega
    · have exact : Nat.log2 (digits * 2 ^ doublings) = 52 + doublings := by
        apply (Nat.log2_eq_iff (Nat.ne_of_gt
          (Nat.mul_pos (by omega) (Nat.two_pow_pos doublings)))).mpr
        constructor
        · rw [Nat.pow_add]
          exact Nat.mul_le_mul_right _ leading
        · rw [show 52 + doublings + 1 = 53 + doublings by omega, Nat.pow_add]
          exact Nat.mul_lt_mul_of_pos_right bound (Nat.two_pow_pos doublings)
      omega
  rw [nearest_of_scaled rfl (by rw [Nat.mul_div_cancel _ unit, counted]), Nat.mul_comm (2 ^ 1074),
    Nat.mul_assoc, roundHalfEven_mul_self _ (Nat.mul_pos (Nat.two_pow_pos doublings) unit)]
  exact Nat.min_eq_right (Nat.le_of_lt finite)

/-- The code of a finite number is found again from its magnitude. -/
theorem nearest_magnitude {code : Nat} (finite : code < infinityCode) :
    nearest (magnitude code) (2 ^ 1074) = code := by
  have split : (code / 2 ^ 52 - 1) * 2 ^ 52 + (code - (code / 2 ^ 52 - 1) * 2 ^ 52) = code := by
    omega
  simp only [magnitude, Nat.pow_eq]
  refine (nearest_of_digits ?_ ?_ ?_).trans split
  · omega
  · omega
  · rw [split]
    exact finite

theorem nearest_le_infinityCode (num den : Nat) : nearest num den ≤ infinityCode :=
  Nat.min_le_left _ _

end Binary64

/-! ## Decimals -/

namespace Decimal

open Binary64

private theorem two_mul_lt_of_log2 (coefficient unit : Nat) :
    2 * (coefficient * 2 ^ unit) < 2 ^ (coefficient.log2 + (unit + 2)) := by
  calc
    2 * (coefficient * 2 ^ unit) < 2 * (2 ^ (coefficient.log2 + 1) * 2 ^ unit) :=
      Nat.mul_lt_mul_of_pos_left
        (Nat.mul_lt_mul_of_pos_right Nat.lt_log2_self (Nat.two_pow_pos unit)) (by decide)
    _ = 2 ^ (coefficient.log2 + (unit + 2)) := by ring

/-- The bound on a positive exponent decides nothing that rounding would
not. -/
private theorem nearestCode_ofNat (coefficient k : Nat) :
    nearestCode ⟨coefficient, .ofNat k⟩ = nearest (coefficient * 10 ^ k) 1 := by
  simp only [nearestCode]
  split
  · rename_i zero
    rw [zero, Nat.zero_mul]
    exact (nearest_of_small (by rw [Nat.zero_mul, Nat.mul_zero]; decide)).symm
  · rename_i nonzero
    split
    · rename_i beyond
      refine (nearest_of_large Nat.zero_lt_one ?_).symm
      have bound : 1025 ≤ 3 * k := by omega
      rw [Nat.mul_one]
      generalize 1025 = binary at bound ⊢
      calc
        2 ^ binary ≤ 2 ^ (3 * k) := Nat.pow_le_pow_right (by decide) bound
        _ = 8 ^ k := Nat.pow_mul 2 3 k
        _ ≤ 10 ^ k := Nat.pow_le_pow_left (by decide) k
        _ ≤ coefficient * 10 ^ k := Nat.le_mul_of_pos_left _ (Nat.pos_of_ne_zero nonzero)
    · rfl

private theorem nearestCode_negSucc (coefficient k : Nat) :
    nearestCode ⟨coefficient, .negSucc k⟩ = nearest coefficient (10 ^ (k + 1)) := by
  simp only [nearestCode]
  split
  · rename_i beneath
    refine (nearest_of_small ?_).symm
    refine Nat.lt_of_lt_of_le (two_mul_lt_of_log2 coefficient 1074) ?_
    calc
      2 ^ (coefficient.log2 + (1074 + 2)) ≤ 2 ^ (3 * (k + 1)) :=
        Nat.pow_le_pow_right (by decide) (Nat.le_of_lt beneath)
      _ = 8 ^ (k + 1) := Nat.pow_mul 2 3 (k + 1)
      _ ≤ 10 ^ (k + 1) := Nat.pow_le_pow_left (by decide) _
  · rfl

/-- The nearest code of a decimal is the rounding of the fraction that it is,
written with any power of ten large enough below the line. -/
theorem nearestCode_eq_nearest (d : Decimal) {places : Nat} (enough : 0 ≤ d.exponent + places) :
    d.nearestCode = nearest (d.coefficient * 10 ^ (d.exponent + places).toNat) (10 ^ places) := by
  have positive (exponent : Nat) : 0 < 10 ^ exponent := Nat.pow_pos (by decide)
  rcases d with ⟨coefficient, k | k⟩
  · have exponent : (Int.ofNat k + places).toNat = k + places := rfl
    have scaled := nearest_mul (coefficient * 10 ^ k) 1 (positive places)
    rw [Nat.one_mul] at scaled
    rw [nearestCode_ofNat, exponent, Nat.pow_add, ← Nat.mul_assoc, scaled]
  · have split : places = k + 1 + (Int.negSucc k + places).toNat := by
      change 0 ≤ Int.negSucc k + places at enough
      omega
    generalize (Int.negSucc k + places).toNat = further at split ⊢
    rw [nearestCode_negSucc, split, Nat.pow_add 10 (k + 1), nearest_mul _ _ (positive further)]

def SameValue (d e : Decimal) : Prop :=
  ∃ places : Nat, 0 ≤ d.exponent + places ∧ 0 ≤ e.exponent + places ∧
    d.coefficient * 10 ^ (d.exponent + places).toNat =
      e.coefficient * 10 ^ (e.exponent + places).toNat

theorem sameValue_refl (d : Decimal) : SameValue d d :=
  ⟨d.exponent.natAbs, by omega, by omega, rfl⟩

theorem nearestCode_eq {d e : Decimal} (same : SameValue d e) :
    d.nearestCode = e.nearestCode := by
  rcases same with ⟨places, enough, enough', same⟩
  rw [nearestCode_eq_nearest d enough, nearestCode_eq_nearest e enough', same]

theorem nearestCode_le_infinityCode (d : Decimal) : d.nearestCode ≤ infinityCode := by
  have enough : 0 ≤ d.exponent + d.exponent.natAbs := by omega
  rw [nearestCode_eq_nearest d enough]
  exact nearest_le_infinityCode _ _

/-- Zeros behind a coefficient can be moved into the exponent. -/
theorem sameValue_shift (coefficient zeros : Nat) (exponent : Int) :
    SameValue ⟨coefficient * 10 ^ zeros, exponent⟩ ⟨coefficient, exponent + zeros⟩ := by
  refine ⟨exponent.natAbs, by simp only; omega, by simp only; omega, ?_⟩
  have sum : (exponent + zeros + exponent.natAbs).toNat =
      zeros + (exponent + exponent.natAbs).toNat := by
    omega
  simp only
  rw [sum, Nat.pow_add, Nat.mul_assoc]

theorem nearestCode_stripped (d : Decimal) : d.stripped.nearestCode = d.nearestCode := by
  let digits := Nat.toDigits 10 d.coefficient
  let kept := (digits.reverse.dropWhile (· == '0')).reverse
  let zeros := digits.reverse.takeWhile (· == '0')
  have replicated : zeros.reverse = List.replicate zeros.length '0' := by
    rw [← List.length_reverse]
    apply List.eq_replicate_of_mem
    intro c member
    exact eq_of_beq (List.all_eq_true.mp List.all_takeWhile c (List.mem_reverse.mp member))
  have whole : digits = kept ++ List.replicate zeros.length '0' := by
    rw [← replicated, ← List.reverse_append, List.takeWhile_append_dropWhile, List.reverse_reverse]
  have coefficient : d.coefficient = Nat.ofDigitChars 10 kept 0 * 10 ^ zeros.length := by
    calc
      d.coefficient = Nat.ofDigitChars 10 digits 0 := Nat.ofDigitChars_ten_toDigits.symm
      _ = Nat.ofDigitChars 10 kept 0 * 10 ^ zeros.length := by
        rw [whole, Nat.ofDigitChars_append, Nat.ofDigitChars_replicate_zero, Nat.mul_comm]
  have counted : digits.length - kept.length = zeros.length := by
    rw [whole, List.length_append, List.length_replicate, Nat.add_sub_cancel_left]
  change (if kept.isEmpty then (⟨0, 0⟩ : Decimal) else
    ⟨Nat.ofDigitChars 10 kept 0, d.exponent + (digits.length - kept.length : Nat)⟩).nearestCode = _
  split
  · rename_i empty
    rw [List.isEmpty_iff.mp empty, Nat.ofDigitChars_nil, Nat.zero_mul] at coefficient
    apply nearestCode_eq
    exact ⟨d.exponent.natAbs, by simp only; omega, by omega, by simp [coefficient]⟩
  · rw [counted]
    apply Eq.symm
    rcases d with ⟨c, exponent⟩
    simp only at coefficient ⊢
    rw [coefficient]
    exact nearestCode_eq (sameValue_shift _ _ _)

end Decimal
end Reckoner
