import Reckoner.Proofs.Number.Numeral
import Reckoner.Token.Lexer

namespace Reckoner

/-!
# The shapes of numbers and names

The shapes of numbers and names are stated here as predicates on lists of
characters, apart from the functions that look for them.  A text can begin with
several characters of a shape; the lexer takes the longest such part
(`Lexer.longest_spanNumber`, `Lexer.longest_spanName`).

What begins a number is a number, and what begins a name is a name.  A part of
a text is therefore the longest one of its shape as soon as the next character
cannot extend it (`Lexer.longest_iff`), so that nothing behind this character
has a say in it.

The classes of characters have to be kept apart for this; that no letter is
blank is a fact about the two Unicode tables.
-/

/-! ## Classes of characters -/

theorem CodeRange.exists_of_mem {code : Nat} {ranges : List CodeRange}
    (member : CodeRange.mem code ranges = true) :
    ∃ range ∈ ranges, range.first ≤ code ∧ code ≤ range.last := by
  induction ranges with
  | nil => cases member
  | cons range rest inductionHypothesis =>
      rw [CodeRange.mem] at member
      split at member
      · cases member
      · split at member
        · exact ⟨range, List.mem_cons_self, by omega, by assumption⟩
        · rcases inductionHypothesis member with ⟨other, later, bounds⟩
          exact ⟨other, List.mem_cons_of_mem range later, bounds⟩

private theorem whiteSpace_not_alphabetic : ∀ range ∈ whiteSpaceRanges,
    ∀ code ∈ List.range' range.first (range.last + 1 - range.first),
      CodeRange.mem code alphabeticRanges = false := by
  decide +kernel

theorem isBlank_of_isLetter {c : Char} (letter : isLetter c = true) : isBlank c = false := by
  cases blank : isBlank c with
  | false => rfl
  | true =>
      rcases CodeRange.exists_of_mem blank with ⟨range, listed, lower, upper⟩
      have other := whiteSpace_not_alphabetic range listed c.toNat
        (List.mem_range'_1.mpr (by omega))
      rw [isLetter, other] at letter
      cases letter

theorem le_toNat_of_isLetter {c : Char} (letter : isLetter c = true) : 0x41 ≤ c.toNat := by
  rcases Nat.lt_or_ge c.toNat 0x41 with below | above
  · rw [isLetter, alphabeticRanges, CodeRange.mem, if_pos below] at letter
    cases letter
  · exact above

theorem isDigit_of_isLetter {c : Char} (letter : isLetter c = true) : c.isDigit = false := by
  have lower := le_toNat_of_isLetter letter
  cases digit : c.isDigit with
  | false => rfl
  | true =>
      have upper := (Char.isDigit_iff_toNat.mp digit).2
      change c.toNat ≤ 57 at upper
      omega

theorem isLetter_of_isDigit {c : Char} (digit : c.isDigit = true) : isLetter c = false := by
  cases letter : isLetter c with
  | false => rfl
  | true =>
      rw [isDigit_of_isLetter letter] at digit
      cases digit

/-- The digits lie between two ranges of blanks. -/
theorem isBlank_of_isDigit {c : Char} (digit : c.isDigit = true) : isBlank c = false := by
  have bounds := Char.isDigit_iff_toNat.mp digit
  change 48 ≤ c.toNat ∧ c.toNat ≤ 57 at bounds
  cases blank : isBlank c with
  | false => rfl
  | true =>
      rcases CodeRange.exists_of_mem blank with ⟨range, listed, lower, upper⟩
      have apart : ∀ range ∈ whiteSpaceRanges, range.last < 48 ∨ 57 < range.first := by decide
      have outside := apart range listed
      omega

/-- The characters that are lexemes by themselves are in none of the other
classes. -/
theorem apart_of_ofSymbol? {c : Char} {kind : TokenKind}
    (symbol : TokenKind.ofSymbol? c = some kind) :
    c.isDigit = false ∧ isLetter c = false ∧ c ≠ '.' ∧ isBlank c = false := by
  unfold TokenKind.ofSymbol? at symbol
  split at symbol <;> cases symbol <;> decide +kernel

theorem kind_of_ofSymbol? {c : Char} {kind : TokenKind}
    (symbol : TokenKind.ofSymbol? c = some kind) :
    kind ≠ .number ∧ kind ≠ .identifier ∧ kind ≠ .negate ∧ kind ≠ .endOfInput := by
  unfold TokenKind.ofSymbol? at symbol
  split at symbol <;> cases symbol <;> decide

theorem ofSymbol?_of_isDigit {c : Char} (digit : c.isDigit = true) :
    TokenKind.ofSymbol? c = none := by
  cases symbol : TokenKind.ofSymbol? c with
  | none => rfl
  | some kind =>
      rw [(apart_of_ofSymbol? symbol).1] at digit
      cases digit

theorem ofSymbol?_of_isLetter {c : Char} (letter : isLetter c = true) :
    TokenKind.ofSymbol? c = none := by
  cases symbol : TokenKind.ofSymbol? c with
  | none => rfl
  | some kind =>
      rw [(apart_of_ofSymbol? symbol).2.1] at letter
      cases letter

namespace Lexer

/-! ## Shapes -/

/-- Digits, and possibly a point with further digits behind it. -/
inductive NumberShape : List Char -> Prop where
  | whole {digits : List Char} (some : digits ≠ [])
      (all : ∀ c ∈ digits, c.isDigit = true) : NumberShape digits
  | pointed {digits behind : List Char} (some : digits ≠ [])
      (all : ∀ c ∈ digits, c.isDigit = true) (allBehind : ∀ c ∈ behind, c.isDigit = true) :
      NumberShape (digits ++ '.' :: behind)

/-- Letters, and possibly digits behind them. -/
inductive NameShape : List Char -> Prop where
  | intro {letters digits : List Char} (some : letters ≠ [])
      (all : ∀ c ∈ letters, isLetter c = true) (allBehind : ∀ c ∈ digits, c.isDigit = true) :
      NameShape (letters ++ digits)

theorem NameShape.letter {c : Char} (letter : isLetter c = true) : NameShape [c] :=
  @NameShape.intro [c] [] (List.cons_ne_nil c []) (by simpa using letter) nofun

theorem NumberShape.head {cs : List Char} (shape : NumberShape cs) :
    ∃ c rest, cs = c :: rest ∧ c.isDigit = true := by
  cases shape with
  | @whole _ some all =>
      rcases List.exists_cons_of_ne_nil some with ⟨c, rest, split⟩
      exact ⟨c, rest, split, all c (split ▸ List.mem_cons_self)⟩
  | @pointed digits behind some all _ =>
      rcases List.exists_cons_of_ne_nil some with ⟨c, rest, split⟩
      exact ⟨c, rest ++ '.' :: behind, by rw [split, List.cons_append],
        all c (split ▸ List.mem_cons_self)⟩

theorem NameShape.head {cs : List Char} (shape : NameShape cs) :
    ∃ c rest, cs = c :: rest ∧ isLetter c = true := by
  cases shape with
  | @intro letters digits some all _ =>
      rcases List.exists_cons_of_ne_nil some with ⟨c, rest, split⟩
      exact ⟨c, rest ++ digits, by rw [split, List.cons_append],
        all c (split ▸ List.mem_cons_self)⟩

theorem NumberShape.isDigit_or_point {cs : List Char} (shape : NumberShape cs) :
    ∀ c ∈ cs, c.isDigit = true ∨ c = '.' := by
  cases shape with
  | whole _ all => exact fun c member => .inl (all c member)
  | pointed _ all allBehind =>
      rw [List.forall_mem_append, List.forall_mem_cons]
      exact ⟨fun c member => .inl (all c member), .inr rfl,
        fun c member => .inl (allBehind c member)⟩

theorem NameShape.isLetter_or_isDigit {cs : List Char} (shape : NameShape cs) :
    ∀ c ∈ cs, isLetter c = true ∨ c.isDigit = true := by
  cases shape with
  | intro _ all allBehind =>
      rw [List.forall_mem_append]
      exact ⟨fun c member => .inl (all c member), fun c member => .inr (allBehind c member)⟩

theorem NumberShape.isBlank_eq_false {cs : List Char} (shape : NumberShape cs) :
    ∀ c ∈ cs, isBlank c = false := by
  intro c member
  rcases shape.isDigit_or_point c member with digit | rfl
  · exact isBlank_of_isDigit digit
  · decide

theorem NameShape.isBlank_eq_false {cs : List Char} (shape : NameShape cs) :
    ∀ c ∈ cs, isBlank c = false := by
  intro c member
  rcases shape.isLetter_or_isDigit c member with letter | digit
  · exact isBlank_of_isLetter letter
  · exact isBlank_of_isDigit digit

/-! ## The longest part of a shape -/

/-- Characters that have a shape, and what follows them in a text, so that no
longer part at the front of this text has the shape. -/
structure Longest (shape : List Char -> Prop) (cs rest : List Char) : Prop where
  fits : shape cs
  greatest : ∀ other, other <+: cs ++ rest -> shape other -> other.length ≤ cs.length

/-- A shape that every part at the front of a text of the shape has. -/
def ClosedInFront (shape : List Char -> Prop) : Prop :=
  ∀ front back, front ≠ [] -> shape (front ++ back) -> shape front

theorem numberShape_closedInFront : ClosedInFront NumberShape := by
  intro front back nonempty whole
  generalize split : front ++ back = cs at whole
  cases whole with
  | whole _ all =>
      rw [← split] at all
      exact .whole nonempty (List.forall_mem_append.mp all).1
  | @pointed digits behind some all allBehind =>
      rcases List.append_eq_append_iff.mp split with ⟨middle, rfl, _⟩ | ⟨middle, rfl, rest⟩
      · exact .whole nonempty (List.forall_mem_append.mp all).1
      · cases middle with
        | nil =>
            rw [List.append_nil]
            exact .whole some all
        | cons point middle =>
            cases rest
            exact .pointed some all (List.forall_mem_append.mp allBehind).1

theorem nameShape_closedInFront : ClosedInFront NameShape := by
  intro front back nonempty whole
  generalize split : front ++ back = cs at whole
  cases whole with
  | @intro letters digits some all allBehind =>
      rcases List.append_eq_append_iff.mp split with ⟨middle, rfl, _⟩ | ⟨middle, rfl, rfl⟩
      · have letters := (List.forall_mem_append.mp all).1
        rw [← List.append_nil front]
        exact .intro nonempty letters nofun
      · exact .intro some all (List.forall_mem_append.mp allBehind).1

section

variable {shape : List Char -> Prop} {cs rest : List Char}

/-- A text has one longest part of a shape. -/
theorem Longest.unique {cs' rest' : List Char} (longest : Longest shape cs rest)
    (longest' : Longest shape cs' rest') (same : cs ++ rest = cs' ++ rest') :
    cs = cs' ∧ rest = rest' := by
  have upper := longest.greatest cs' (same ▸ List.prefix_append cs' rest') longest'.fits
  have lower := longest'.greatest cs (same ▸ List.prefix_append cs rest) longest.fits
  exact List.append_inj same (Nat.le_antisymm lower upper)

variable (closed : ClosedInFront shape)
include closed

/-- A part is the longest one if the next character does not extend it. -/
theorem longest_iff :
    Longest shape cs rest ↔ shape cs ∧ ∀ c ∈ rest.head?, ¬shape (cs ++ [c]) := by
  constructor
  · intro longest
    refine ⟨longest.fits, fun c first extended => ?_⟩
    rcases List.head?_eq_some_iff.mp first with ⟨tail, rfl⟩
    have bound := longest.greatest (cs ++ [c]) ⟨tail, by simp⟩ extended
    rw [List.length_append, List.length_singleton] at bound
    exact Nat.not_succ_le_self _ bound
  · rintro ⟨fits, stops⟩
    refine ⟨fits, fun other front fits' => ?_⟩
    by_contra longer
    rcases List.prefix_of_prefix_length_le (List.prefix_append cs rest) front
      (Nat.le_of_not_le longer) with ⟨more, rfl⟩
    rw [List.prefix_append_right_inj] at front
    cases more with
    | nil => simp at longer
    | cons c more =>
        rcases front with ⟨tail, rfl⟩
        apply stops c rfl
        rw [← List.singleton_append, ← List.append_assoc] at fits'
        exact closed _ more (by simp) fits'

/-- What follows a longest part has no say in it, apart from its first
character. -/
theorem Longest.of_head (longest : Longest shape cs rest) {rest' : List Char}
    (same : ∀ c ∈ rest'.head?, c ∈ rest.head? ∨ ¬shape (cs ++ [c])) : Longest shape cs rest' := by
  rcases (longest_iff closed).mp longest with ⟨fits, stops⟩
  exact (longest_iff closed).mpr ⟨fits, fun c first => (same c first).elim (stops c) id⟩

end

/-! ## The part that is taken -/

private theorem numberShape_spanNumber {cs : List Char}
    (some : (cs.takeWhile Char.isDigit).isEmpty = false) : NumberShape (spanNumber cs).1 := by
  have digits (cs : List Char) : ∀ c ∈ cs.takeWhile Char.isDigit, c.isDigit = true :=
    List.all_eq_true.mp List.all_takeWhile
  have nonempty : cs.takeWhile Char.isDigit ≠ [] := by
    intro empty
    rw [empty] at some
    cases some
  rw [spanNumber]
  simp only [Numeral.spanDigits]
  split
  · exact .pointed nonempty (digits cs) (digits _)
  · exact .whole nonempty (digits cs)

private theorem nameShape_spanName {cs : List Char}
    (some : (cs.takeWhile isLetter).isEmpty = false) : NameShape (spanName cs).1 := by
  rw [spanName]
  simp only [Numeral.spanDigits]
  apply NameShape.intro
  · intro empty
    rw [empty] at some
    cases some
  · exact List.all_eq_true.mp List.all_takeWhile
  · exact List.all_eq_true.mp List.all_takeWhile

private theorem length_le_spanNumber {cs : List Char} (shape : NumberShape cs)
    (rest : List Char) : cs.length ≤ (spanNumber (cs ++ rest)).1.length := by
  cases shape with
  | whole _ all =>
      rcases spanNumber_takes_digits (cs ++ rest) with ⟨more, taken⟩
      rw [taken, List.takeWhile_append_of_pos all]
      simp only [List.length_append]
      omega
  | @pointed digits behind some all allBehind =>
      have stopped : Numeral.spanDigits (digits ++ '.' :: (behind ++ rest)) =
          (digits, '.' :: (behind ++ rest)) := by
        apply Numeral.spanDigits_of_stops all
        intro c first
        rw [← Option.mem_some.mp first]
        decide
      rw [List.append_assoc, List.cons_append, spanNumber, stopped]
      simp only [Numeral.spanDigits, List.takeWhile_append_of_pos allBehind, List.length_append,
        List.length_cons]
      omega

private theorem length_le_spanName {cs : List Char} (shape : NameShape cs)
    (rest : List Char) : cs.length ≤ (spanName (cs ++ rest)).1.length := by
  cases shape with
  | @intro letters digits some all allBehind =>
      rw [spanName, List.append_assoc, List.takeWhile_append_of_pos all,
        List.dropWhile_append_of_pos all, Numeral.spanDigits]
      cases digits with
      | nil =>
          simp only [List.append_nil, List.length_append]
          omega
      | cons c digits =>
          have noLetter := isLetter_of_isDigit (allBehind c List.mem_cons_self)
          have stopped : (c :: digits ++ rest).takeWhile isLetter = [] ∧
              (c :: digits ++ rest).dropWhile isLetter = c :: digits ++ rest := by
            simp [noLetter]
          rw [stopped.1, stopped.2, List.takeWhile_append_of_pos allBehind]
          simp only [List.append_nil, List.length_append]
          omega

/-- The number that is split off is the longest one. -/
theorem longest_spanNumber {cs : List Char}
    (some : (cs.takeWhile Char.isDigit).isEmpty = false) :
    Longest NumberShape (spanNumber cs).1 (spanNumber cs).2 := by
  refine ⟨numberShape_spanNumber some, ?_⟩
  rw [spanNumber_append]
  rintro other ⟨rest, rfl⟩ shape
  exact length_le_spanNumber shape rest

theorem longest_spanName {cs : List Char} (some : (cs.takeWhile isLetter).isEmpty = false) :
    Longest NameShape (spanName cs).1 (spanName cs).2 := by
  refine ⟨nameShape_spanName some, ?_⟩
  rw [spanName_append]
  rintro other ⟨rest, rfl⟩ shape
  exact length_le_spanName shape rest

theorem Longest.spanNumber_eq {cs rest : List Char} (longest : Longest NumberShape cs rest) :
    spanNumber (cs ++ rest) = (cs, rest) := by
  have some : ((cs ++ rest).takeWhile Char.isDigit).isEmpty = false := by
    rcases longest.fits.head with ⟨c, tail, rfl, digit⟩
    simp [digit]
  rcases (longest_spanNumber some).unique longest (spanNumber_append _) with ⟨taken, left⟩
  exact Prod.ext taken left

theorem Longest.spanName_eq {cs rest : List Char} (longest : Longest NameShape cs rest) :
    spanName (cs ++ rest) = (cs, rest) := by
  have some : ((cs ++ rest).takeWhile isLetter).isEmpty = false := by
    rcases longest.fits.head with ⟨c, tail, rfl, letter⟩
    simp [letter]
  rcases (longest_spanName some).unique longest (spanName_append _) with ⟨taken, left⟩
  exact Prod.ext taken left

/-! ## What ends a number or a name -/

/-- Characters that extend neither a number nor a name before them. -/
def Breaks (rest : List Char) : Prop :=
  ∀ c ∈ rest.head?, c.isDigit = false ∧ isLetter c = false ∧ c ≠ '.'

theorem breaks_nil : Breaks [] := by
  simp [Breaks]

theorem breaks_of_ofSymbol? {c : Char} {kind : TokenKind} (rest : List Char)
    (symbol : TokenKind.ofSymbol? c = some kind) : Breaks (c :: rest) := by
  intro first next
  rw [← Option.mem_some.mp next]
  rcases apart_of_ofSymbol? symbol with ⟨digit, letter, point, _⟩
  exact ⟨digit, letter, point⟩

theorem breaks_space (rest : List Char) : Breaks (' ' :: rest) := by
  intro first next
  rw [← Option.mem_some.mp next]
  decide

theorem NumberShape.longest {cs rest : List Char} (shape : NumberShape cs)
    (breaks : Breaks rest) : Longest NumberShape cs rest := by
  refine (longest_iff numberShape_closedInFront).mpr ⟨shape, fun c first extended => ?_⟩
  rcases breaks c first with ⟨noDigit, _, noPoint⟩
  rcases extended.isDigit_or_point c (by simp) with digit | point
  · rw [noDigit] at digit
    cases digit
  · exact noPoint point

theorem NameShape.longest {cs rest : List Char} (shape : NameShape cs)
    (breaks : Breaks rest) : Longest NameShape cs rest := by
  refine (longest_iff nameShape_closedInFront).mpr ⟨shape, fun c first extended => ?_⟩
  rcases breaks c first with ⟨noDigit, noLetter, _⟩
  rcases extended.isLetter_or_isDigit c (by simp) with letter | digit
  · rw [noLetter] at letter
    cases letter
  · rw [noDigit] at digit
    cases digit

end Lexer
end Reckoner
