import Reckoner.Proofs.Number.Bits
import Reckoner.Proofs.Number.Rounding
import Reckoner.Proofs.Token.Shape

namespace Reckoner

/-!
# Lexemes

What stands at a place of a text, if it is not blank, begins with a lexeme or
with something that is refused.  `Lexer.Leads` says of a token that it is the
lexeme in front of some characters, and `Lexer.Offends` says what is refused
and with which failure.  Both are stated through the shapes of numbers and
names.  Nothing else can stand at a place (`Lexer.leads_or_offends`), and each
of the two determines what `Lexer.next` finds there.

A lexeme depends on what follows it, because numbers and names go on as long as
they can, but only on the first character of it (`Lexer.Leads.of_head`).
`Lexer.Spelled` collects the tokens that have a spelling, whatever follows:
those of the lexer, and the negation that is written like a subtraction.  Where
the next character ends numbers and names, a spelled token is the lexeme in
front (`Lexer.Spelled.leads`).
-/

/-- The failures of a place in a text where no lexeme can be read. -/
def Failure.isLexical : Failure -> Bool
  | .unknownSymbol .. | .invalidNumber _ | .invalidVariable _ => true
  | _ => false

namespace Lexer

/-! ## What can stand at a place -/

def symbols : List (Char × TokenKind) :=
  [('+', .binary .add), ('-', .binary .subtract), ('*', .binary .multiply), ('/', .binary .divide),
    ('(', .opening), (')', .closing)]

/-- A token is the lexeme in front of the characters that follow it. -/
inductive Leads : Token -> List Char -> Prop where
  | symbol {c : Char} {kind : TokenKind} {rest : List Char} (listed : (c, kind) ∈ symbols) :
      Leads ⟨kind, String.ofList [c]⟩ rest
  | number {cs rest : List Char} {value : Float} (longest : Longest NumberShape cs rest)
      (reads : readNumber (String.ofList cs) = some value) (finite : value.isFinite = true) :
      Leads ⟨.number, String.ofList cs⟩ rest
  | identifier {cs rest : List Char} (longest : Longest NameShape cs rest) :
      Leads ⟨.identifier, String.ofList cs⟩ rest

/-- Characters in front of others are refused at a position, with a failure.  A
number is refused if it is too large for a finite value. -/
inductive Offends (position : Nat) : List Char -> List Char -> Failure -> Prop where
  | symbol {c : Char} {rest : List Char} (visible : isBlank c = false)
      (unlisted : ∀ kind, (c, kind) ∉ symbols) (noDigit : c.isDigit = false) (noPoint : c ≠ '.')
      (noLetter : isLetter c = false) : Offends position [c] rest (.unknownSymbol c position)
  | point {rest : List Char} : Offends position ['.'] rest (.invalidNumber position)
  | overflow {literal rest : List Char} (longest : Longest NumberShape literal rest)
      (infinite : readNumber (String.ofList literal) =
        some (Binary64.ofCode false Binary64.infinityCode)) :
      Offends position literal rest (.invalidNumber position)

theorem mem_symbols_iff {c : Char} {kind : TokenKind} :
    (c, kind) ∈ symbols ↔ TokenKind.ofSymbol? c = some kind := by
  constructor
  · intro listed
    simp only [symbols, List.mem_cons, Prod.mk.injEq, List.not_mem_nil, or_false] at listed
    rcases listed with
      ⟨rfl, rfl⟩ | ⟨rfl, rfl⟩ | ⟨rfl, rfl⟩ | ⟨rfl, rfl⟩ | ⟨rfl, rfl⟩ | ⟨rfl, rfl⟩ <;> rfl
  · intro symbol
    unfold TokenKind.ofSymbol? at symbol
    split at symbol <;> cases symbol <;> decide

/-- A number is read as the nearest value of its decimal, or as infinity. -/
theorem NumberShape.reads {cs : List Char} (shape : NumberShape cs) :
    ∃ d : Decimal, readNumber (String.ofList cs) =
      some (Binary64.ofCode false d.nearestCode) := by
  have decimal : ∃ d, Numeral.readDecimal cs = some d := by
    cases shape with
    | whole some all =>
        have text : Numeral.DigitText cs [] := ⟨some, all, by simp⟩
        have reads := Numeral.readDecimal_of_digits text
        rw [NumberStyle.fractionText, List.append_nil] at reads
        exact ⟨_, reads⟩
    | pointed some all allBehind =>
        exact ⟨_, Numeral.readDecimal_of_pointed ⟨some, all, allBehind⟩⟩
  rcases decimal with ⟨d, reads⟩
  rcases shape.head with ⟨c, rest, rfl, digit⟩
  have whole := Numeral.read_of_readDecimal digit reads false
  refine ⟨d, ?_⟩
  rw [readNumber, String.toList_ofList]
  exact congrArg (Option.map Numeral.toFloat) whole

theorem NumberShape.finite_or_infinite {cs : List Char} (shape : NumberShape cs) :
    ∃ value, readNumber (String.ofList cs) = some value ∧
      (value.isFinite = true ∨ value = Binary64.ofCode false Binary64.infinityCode) := by
  rcases shape.reads with ⟨d, reads⟩
  have bound := d.nearestCode_le_infinityCode
  refine ⟨_, reads, ?_⟩
  rcases Nat.lt_or_eq_of_le bound with below | equal
  · left
    rwa [(Binary64.class_iff _).1, Binary64.code_ofCode bound]
  · right
    rw [equal]

theorem isFiniteNumeral_iff {cs : List Char} :
    isFiniteNumeral cs = true ↔
      ∃ value, readNumber (String.ofList cs) = some value ∧ value.isFinite = true := by
  rw [isFiniteNumeral, readNumber, String.toList_ofList]
  cases Numeral.read cs <;> simp

/-! ## What is read at a place -/

theorem next_of_symbol {position : Nat} {c : Char} {kind : TokenKind} (rest : List Char)
    (listed : (c, kind) ∈ symbols) : next position c rest = .ok ⟨kind, [c], rest⟩ := by
  rw [next, mem_symbols_iff.mp listed]

theorem next_of_isDigit {position : Nat} {c : Char} (rest : List Char)
    (digit : c.isDigit = true) :
    next position c rest =
      if isFiniteNumeral (spanNumber (c :: rest)).1 then
        .ok ⟨.number, (spanNumber (c :: rest)).1, (spanNumber (c :: rest)).2⟩
      else .error (.invalidNumber position) := by
  rw [next, ofSymbol?_of_isDigit digit]
  simp only [digit, Bool.true_or, if_true]
  rw [readNumberAt]
  by_cases accepted : isFiniteNumeral (spanNumber (c :: rest)).1 = true <;>
    simp [digit, accepted]

theorem next_of_isLetter {position : Nat} {c : Char} (rest : List Char)
    (letter : isLetter c = true) :
    next position c rest =
      .ok ⟨.identifier, (spanName (c :: rest)).1, (spanName (c :: rest)).2⟩ := by
  have noPoint : (c == '.') = false := by
    apply beq_eq_false_iff_ne.mpr
    intro same
    rw [same] at letter
    exact absurd letter (by decide)
  rw [next, ofSymbol?_of_isLetter letter]
  simp only [isDigit_of_isLetter letter, noPoint, Bool.or_self, Bool.false_eq_true, if_false,
    letter, if_true]
  simp [readNameAt, letter]

theorem next_of_point (position : Nat) (rest : List Char) :
    next position '.' rest = .error (.invalidNumber position) :=
  rfl

theorem next_of_other {position : Nat} {c : Char} (rest : List Char)
    (unlisted : ∀ kind, (c, kind) ∉ symbols) (noDigit : c.isDigit = false) (noPoint : c ≠ '.')
    (noLetter : isLetter c = false) :
    next position c rest = .error (.unknownSymbol c position) := by
  have noSymbol : TokenKind.ofSymbol? c = none :=
    Option.eq_none_iff_forall_ne_some.mpr fun kind symbol =>
      unlisted kind (mem_symbols_iff.mpr symbol)
  rw [next, noSymbol]
  simp [noDigit, noPoint, noLetter]

theorem class_of_char (c : Char) :
    (∃ kind, (c, kind) ∈ symbols) ∨ c.isDigit = true ∨ isLetter c = true ∨ c = '.' ∨
      ((∀ kind, (c, kind) ∉ symbols) ∧ c.isDigit = false ∧ c ≠ '.' ∧ isLetter c = false) := by
  by_cases listed : ∃ kind, (c, kind) ∈ symbols
  · exact .inl listed
  · rw [not_exists] at listed
    cases digit : c.isDigit with
    | true => exact .inr (.inl rfl)
    | false =>
        cases letter : isLetter c with
        | true => exact .inr (.inr (.inl rfl))
        | false =>
            by_cases point : c = '.'
            · exact .inr (.inr (.inr (.inl point)))
            · exact .inr (.inr (.inr (.inr ⟨listed, rfl, point, rfl⟩)))

/-- The lexeme in front is read, whatever the position. -/
theorem next_of_leads {token : Token} {rest : List Char} (leads : Leads token rest) :
    ∃ c cs, token.text.toList = c :: cs ∧ isBlank c = false ∧
      ∀ position, next position c (cs ++ rest) = .ok ⟨token.kind, c :: cs, rest⟩ := by
  cases leads with
  | @symbol c kind _ listed =>
      exact ⟨c, [], String.toList_ofList, (apart_of_ofSymbol? (mem_symbols_iff.mp listed)).2.2.2,
        fun position => next_of_symbol rest listed⟩
  | number longest reads finite =>
      have accepted := isFiniteNumeral_iff.mpr ⟨_, reads, finite⟩
      have taken := longest.spanNumber_eq
      rcases longest.fits.head with ⟨c, cs, rfl, digit⟩
      refine ⟨c, cs, String.toList_ofList, isBlank_of_isDigit digit, fun position => ?_⟩
      rw [next_of_isDigit _ digit, ← List.cons_append, taken, if_pos accepted]
  | identifier longest =>
      have taken := longest.spanName_eq
      rcases longest.fits.head with ⟨c, cs, rfl, letter⟩
      refine ⟨c, cs, String.toList_ofList, isBlank_of_isLetter letter, fun position => ?_⟩
      rw [next_of_isLetter _ letter, ← List.cons_append, taken]

/-- What offends is refused. -/
theorem next_of_offends {position : Nat} {offending rest : List Char} {failure : Failure}
    (offends : Offends position offending rest failure) :
    ∃ c cs, offending = c :: cs ∧ isBlank c = false ∧
      next position c (cs ++ rest) = .error failure := by
  cases offends with
  | @symbol c _ visible unlisted noDigit noPoint noLetter =>
      exact ⟨c, [], rfl, visible, next_of_other rest unlisted noDigit noPoint noLetter⟩
  | point => exact ⟨'.', [], rfl, by decide, next_of_point position rest⟩
  | overflow longest infinite =>
      have refused : ¬isFiniteNumeral offending = true := by
        rw [isFiniteNumeral_iff, infinite]
        rintro ⟨value, same, finite⟩
        cases same
        exact absurd finite (by decide +kernel)
      have taken := longest.spanNumber_eq
      rcases longest.fits.head with ⟨c, cs, rfl, digit⟩
      refine ⟨c, cs, rfl, isBlank_of_isDigit digit, ?_⟩
      rw [next_of_isDigit _ digit, ← List.cons_append, taken, if_neg refused]

/-- At a place that is not blank either a lexeme is in front or something
offends. -/
theorem leads_or_offends (position : Nat) {c : Char} (visible : isBlank c = false)
    (rest : List Char) :
    (∃ token behind, c :: rest = token.text.toList ++ behind ∧ Leads token behind) ∨
      ∃ offending behind failure, c :: rest = offending ++ behind ∧
        Offends position offending behind failure := by
  rcases class_of_char c with
    ⟨kind, listed⟩ | digit | letter | rfl | ⟨unlisted, noDigit, noPoint, noLetter⟩
  · exact .inl ⟨_, rest, by simp, .symbol listed⟩
  · have longest : Longest NumberShape (spanNumber (c :: rest)).1 (spanNumber (c :: rest)).2 :=
      longest_spanNumber (by simp [digit])
    have whole := (spanNumber_append (c :: rest)).symm
    rcases longest.fits.finite_or_infinite with ⟨value, reads, finite | rfl⟩
    · exact .inl ⟨_, _, by rwa [String.toList_ofList], .number longest reads finite⟩
    · exact .inr ⟨_, _, _, whole, .overflow longest reads⟩
  · have longest : Longest NameShape (spanName (c :: rest)).1 (spanName (c :: rest)).2 :=
      longest_spanName (by simp [letter])
    have whole := (spanName_append (c :: rest)).symm
    exact .inl ⟨_, _, by rwa [String.toList_ofList], .identifier longest⟩
  · exact .inr ⟨_, _, _, rfl, .point⟩
  · exact .inr ⟨_, _, _, rfl, .symbol visible unlisted noDigit noPoint noLetter⟩

theorem Leads.unique {token token' : Token} {rest rest' : List Char} (leads : Leads token rest)
    (leads' : Leads token' rest')
    (same : token.text.toList ++ rest = token'.text.toList ++ rest') :
    token = token' ∧ rest = rest' := by
  rcases next_of_leads leads with ⟨c, cs, text, _, read⟩
  rcases next_of_leads leads' with ⟨c', cs', text', _, read'⟩
  rw [text, text', List.cons_append, List.cons_append] at same
  rcases List.cons.inj same with ⟨rfl, behind⟩
  have found := (read 0).symm.trans (behind ▸ read' 0)
  injection found with split
  injection split with kind lexeme rest
  have texts : token.text = token'.text := String.toList_injective (by rw [text, text', lexeme])
  refine ⟨?_, rest⟩
  cases token
  cases token'
  simp_all only

/-! ## What follows -/

theorem Leads.isBlank_eq_false {token : Token} {rest : List Char} (leads : Leads token rest) :
    ∀ c ∈ token.text.toList, isBlank c = false := by
  cases leads with
  | symbol listed =>
      rw [String.toList_ofList, List.forall_mem_singleton]
      exact (apart_of_ofSymbol? (mem_symbols_iff.mp listed)).2.2.2
  | number longest =>
      rw [String.toList_ofList]
      exact longest.fits.isBlank_eq_false
  | identifier longest =>
      rw [String.toList_ofList]
      exact longest.fits.isBlank_eq_false

/-- What follows a longest part without blanks can be replaced by anything with
the same first character, by nothing, and by anything with a blank in front. -/
theorem Longest.of_head_or_blank {shape : List Char -> Prop} {cs rest rest' : List Char}
    (closed : ClosedInFront shape) (visible : ∀ cs, shape cs -> ∀ c ∈ cs, isBlank c = false)
    (longest : Longest shape cs rest)
    (same : ∀ c ∈ rest'.head?, c ∈ rest.head? ∨ isBlank c = true) : Longest shape cs rest' := by
  refine longest.of_head closed fun c first => (same c first).imp id fun blank extended => ?_
  have unblank := visible _ extended c (by simp)
  rw [blank] at unblank
  cases unblank

section

variable {rest rest' : List Char} (same : ∀ c ∈ rest'.head?, c ∈ rest.head? ∨ isBlank c = true)
include same

/-- What follows a lexeme can be replaced in this way. -/
theorem Leads.of_head {token : Token} (leads : Leads token rest) : Leads token rest' := by
  cases leads with
  | symbol listed => exact .symbol listed
  | number longest reads finite =>
      exact .number (longest.of_head_or_blank numberShape_closedInFront
        (fun _ shape => shape.isBlank_eq_false) same) reads finite
  | identifier longest =>
      exact .identifier (longest.of_head_or_blank nameShape_closedInFront
        (fun _ shape => shape.isBlank_eq_false) same)

theorem Offends.of_head {position : Nat} {offending : List Char} {failure : Failure}
    (offends : Offends position offending rest failure) :
    Offends position offending rest' failure := by
  cases offends with
  | symbol visible unlisted noDigit noPoint noLetter =>
      exact .symbol visible unlisted noDigit noPoint noLetter
  | point => exact .point
  | overflow longest infinite =>
      exact .overflow (longest.of_head_or_blank numberShape_closedInFront
        (fun _ shape => shape.isBlank_eq_false) same) infinite

end

/-- What follows an offence can be replaced by anything that does not make the
number longer. -/
theorem Offends.of_rest {position : Nat} {offending rest rest' : List Char} {failure : Failure}
    (offends : Offends position offending rest failure)
    (stops : ∀ c ∈ rest'.head?, ¬NumberShape (offending ++ [c])) :
    Offends position offending rest' failure := by
  cases offends with
  | symbol visible unlisted noDigit noPoint noLetter =>
      exact .symbol visible unlisted noDigit noPoint noLetter
  | point => exact .point
  | overflow longest infinite =>
      exact .overflow ((longest_iff numberShape_closedInFront).mpr ⟨longest.fits, stops⟩) infinite

/-! ## Tokens with a spelling -/

/-- The tokens that have a spelling, each with its own. -/
inductive Spelled : Token -> Prop where
  | number {cs : List Char} (shape : NumberShape cs) (finite : isFiniteNumeral cs = true) :
      Spelled ⟨.number, String.ofList cs⟩
  | identifier {cs : List Char} (shape : NameShape cs) :
      Spelled ⟨.identifier, String.ofList cs⟩
  | symbol {c : Char} {kind : TokenKind} (symbol : TokenKind.ofSymbol? c = some kind) :
      Spelled ⟨kind, String.ofList [c]⟩
  | negate : Spelled (.ofKind .negate)

theorem Spelled.kind_ne_endOfInput {token : Token} (spelled : Spelled token) :
    token.kind ≠ .endOfInput := by
  intro kind
  cases spelled with
  | number | identifier | negate => cases kind
  | symbol symbol => exact (kind_of_ofSymbol? symbol).2.2.2 kind

theorem Spelled.shown_eq {token : Token} (spelled : Spelled token) :
    token.shown = token.text := by
  rw [Token.shown]
  split
  · rename_i last
    exact absurd last spelled.kind_ne_endOfInput
  · rfl

theorem Leads.spelled {token : Token} {rest : List Char} (leads : Leads token rest) :
    Spelled token := by
  cases leads with
  | symbol listed => exact .symbol (mem_symbols_iff.mp listed)
  | number longest reads finite =>
      exact .number longest.fits (isFiniteNumeral_iff.mpr ⟨_, reads, finite⟩)
  | identifier longest => exact .identifier longest.fits

theorem Spelled.reads {token : Token} (spelled : Spelled token) (kind : token.kind = .number) :
    ∃ value, readNumber token.text = some value ∧ value.isFinite = true := by
  cases spelled with
  | number _ finite => exact isFiniteNumeral_iff.mp finite
  | identifier | negate => cases kind
  | symbol symbol => exact absurd kind (kind_of_ofSymbol? symbol).1

/-- A token as it is read again: what is written for a negation is a
subtraction. -/
def reread (token : Token) : Token :=
  if token.kind = .negate then .ofKind (.binary .subtract) else token

theorem reread_of_kind {token : Token} (kind : token.kind ≠ .negate) : reread token = token :=
  if_neg kind

theorem text_reread {token : Token} (spelled : Spelled token) :
    (reread token).text = token.text := by
  cases spelled with
  | number | identifier | negate => rfl
  | symbol symbol => rw [reread_of_kind (kind_of_ofSymbol? symbol).2.2.1]

/-- A spelled token is the lexeme in front, if what follows breaks a number or
a name. -/
theorem Spelled.leads {token : Token} (spelled : Spelled token) {rest : List Char}
    (breaks : token.kind = .number ∨ token.kind = .identifier -> Breaks rest) :
    Leads (reread token) rest := by
  cases spelled with
  | number shape finite =>
      rcases isFiniteNumeral_iff.mp finite with ⟨value, reads, finite⟩
      exact .number (shape.longest (breaks (.inl rfl))) reads finite
  | identifier shape => exact .identifier (shape.longest (breaks (.inr rfl)))
  | symbol symbol =>
      rw [reread_of_kind (kind_of_ofSymbol? symbol).2.2.1]
      exact .symbol (mem_symbols_iff.mpr symbol)
  | negate => exact .symbol (c := '-') (by decide)

end Lexer
end Reckoner
