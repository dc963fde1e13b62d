import Reckoner.Proofs.Token.Division

namespace Reckoner

/-!
# Texts set apart by blanks

Two texts with a blank between them are read one after the other.  The lexeme
at the end of the first one cannot run on into the second, and what offends in
the first one is refused before the second is looked at.  The second text is
read as it is alone, only further on: the same tokens, or the same failure at a
place that has moved along (`Lexer.tokenize_separated`).

No induction on a text is needed.  A text is divided up to its end or up to
something that offends, and both are known to depend on the first character
behind them at most.
-/

/-- A failure whose place in the text has moved along. -/
def Failure.later (distance : Nat) : Failure -> Failure
  | .unknownSymbol symbol position => .unknownSymbol symbol (position + distance)
  | .invalidNumber position => .invalidNumber (position + distance)
  | .invalidVariable position => .invalidVariable (position + distance)
  | failure => failure

namespace Lexer

/-! ## Moving a text along -/

/-- What offends at a position offends at every other one, and the failure
moves with it. -/
theorem Offends.later {position : Nat} {offending rest : List Char} {failure : Failure}
    (offends : Offends position offending rest failure) (distance : Nat) :
    Offends (position + distance) offending rest (failure.later distance) := by
  cases offends with
  | symbol visible unlisted noDigit noPoint noLetter =>
      exact .symbol visible unlisted noDigit noPoint noLetter
  | point => exact .point
  | overflow longest infinite => exact .overflow longest infinite

/-- The tokens of some characters do not depend on where the characters
stand. -/
theorem scan_add (position distance : Nat) (cs : List Char) :
    scan (position + distance) cs = (scan position cs).mapError (Failure.later distance) := by
  rcases exists_division cs with ⟨pieces, blanks, rest, rfl, divides, blank, stop⟩
  -- Behind the pieces and the blanks nothing is left to read, wherever this is.
  have passed (from' : Nat) : scan from' (spell pieces ++ (blanks ++ rest)) =
      (scan (from' + (spell pieces).length + blanks.length) rest).map
        (pieces.map Piece.token ++ ·) := by
    rw [scan_of_divides divides, scan_blanks _ blank]
  rw [passed, passed]
  have moved : position + distance + (spell pieces).length + blanks.length =
      position + (spell pieces).length + blanks.length + distance := by omega
  rw [moved]
  rcases stop with rfl | stop
  · simp [scan, Except.map, Except.mapError]
  · rcases stop (position + (spell pieces).length + blanks.length) with
      ⟨offending, behind, failure, rfl, offends⟩
    rw [scan_of_offends offends, scan_of_offends (offends.later distance)]
    rfl

/-! ## A blank behind a text -/

section

variable {text : String} {pieces : List Piece} {separator : List Char}
  (blank : ∀ c ∈ separator, isBlank c = true) (further : List Char)
include blank

/-- The tokens of a text are read in front of blanks as they are at its end. -/
theorem Division.scan_separated {last : List Char} (division : Division text pieces last)
    (nonempty : separator ≠ []) :
    scan 0 (text.toList ++ (separator ++ further)) =
      (scan (text.toList.length + separator.length) further).map
        (pieces.map Piece.token ++ ·) := by
  have between : ∀ c ∈ last ++ separator, isBlank c = true :=
    List.forall_mem_append.mpr ⟨division.blank, blank⟩
  have divides : Divides pieces (last ++ separator ++ further) := by
    refine division.divides.of_head fun c first => .inr (between c ?_)
    rw [List.head?_append_of_ne_nil _ (by simp [nonempty])] at first
    exact List.mem_of_mem_head? first
  have whole : text.toList ++ (separator ++ further) =
      spell pieces ++ (last ++ separator ++ further) := by
    rw [division.whole]
    simp
  have place : 0 + (spell pieces).length + (last ++ separator).length =
      text.toList.length + separator.length := by
    rw [division.whole]
    simp only [List.length_append]
    omega
  rw [whole, scan_of_divides divides, scan_blanks _ between, place]

/-- What offends in a text offends in front of blanks as well. -/
theorem Offence.scan_separated {blanks offending rest : List Char} {failure : Failure}
    (offence : Offence text pieces blanks offending rest failure) (nonempty : separator ≠ []) :
    scan 0 (text.toList ++ (separator ++ further)) = .error failure := by
  have offends : Offends (spell pieces ++ blanks).length offending
      (rest ++ (separator ++ further)) failure := by
    refine offence.offends.of_head fun c first => ?_
    cases rest with
    | nil =>
        rw [List.nil_append, List.head?_append_of_ne_nil _ nonempty] at first
        exact .inr (blank c (List.mem_of_mem_head? first))
    | cons => exact .inl first
  have whole : text.toList ++ (separator ++ further) =
      spell pieces ++ (blanks ++ (offending ++ (rest ++ (separator ++ further)))) := by
    rw [offence.whole]
    simp
  have place : 0 + (spell pieces).length + blanks.length = (spell pieces ++ blanks).length := by
    rw [Nat.zero_add, List.length_append]
  rw [whole, scan_of_divides (offence.divides_any _), scan_blanks _ offence.blank, place,
    scan_of_offends offends]
  rfl

end

/-- Two texts with blanks between them have the tokens of the first and then
those of the second.  If the first has a failure this is the failure of both
together.  If only the second has one it is found as far behind its place as
the first text and the blanks are long. -/
theorem tokenize_separated (first second : String) {separator : String}
    (blank : ∀ c ∈ separator.toList, isBlank c = true) (nonempty : separator ≠ "") :
    tokenize (first ++ separator ++ second) =
      match tokenize first, tokenize second with
      | .error failure, _ => .error failure
      | .ok _, .error failure => .error (failure.later (first.length + separator.length))
      | .ok tokens, .ok further => .ok (tokens ++ further) := by
  have some : separator.toList ≠ [] := by simpa using nonempty
  have whole : tokenize (first ++ separator ++ second) =
      scan 0 (first.toList ++ (separator.toList ++ second.toList)) := by
    simp [tokenize]
  rw [whole]
  rcases division_or_offence first with
    ⟨pieces, last, division⟩ | ⟨pieces, blanks, offending, rest, failure, offence⟩
  · have behind : scan (first.toList.length + separator.toList.length) second.toList =
        (tokenize second).mapError (Failure.later (first.length + separator.length)) := by
      rw [String.length_toList, String.length_toList, ← Nat.zero_add (first.length + _), scan_add,
        Nat.zero_add, tokenize]
    rw [division.scan_separated blank _ some, division.tokenize_eq, behind]
    cases tokenize second <;> rfl
  · rw [offence.scan_separated blank _ some, offence.tokenize_eq]

/-- An ideographic space keeps `12.` and `5` apart, and the place of what is
unknown behind them moves on by four characters. -/
theorem tokenize_separated_wide :
    (∀ c ∈ "\u3000".toList, isBlank c = true) ∧ "\u3000" ≠ "" ∧
      tokenize "5 $" = .error (.unknownSymbol '$' 2) ∧
      tokenize ("12." ++ "\u3000" ++ "5 $") = .error (.unknownSymbol '$' 6) := by
  have blank : ∀ c ∈ "\u3000".toList, isBlank c = true := by
    intro c member
    have only : c = '\u3000' := by simpa using member
    rw [only]
    decide
  have nonempty : "\u3000" ≠ "" := by decide
  have read : tokenize "12." = .ok [⟨.number, "12."⟩] := by decide +kernel
  have refused : tokenize "5 $" = .error (.unknownSymbol '$' 2) := by decide +kernel
  refine ⟨blank, nonempty, refused, ?_⟩
  rw [tokenize_separated "12." "5 $" blank nonempty, read, refused]
  rfl

end Lexer
end Reckoner
