import Reckoner.Character.Blank
import Reckoner.Character.Letter
import Reckoner.Failure
import Reckoner.Number.Numeral
import Reckoner.Token

namespace Reckoner
namespace Lexer

/-!
# From text to tokens

A text is read from the left.  Blanks are passed over.  What stands at any
other place is a lexeme: an operator or a parenthesis, each a single character;
a number, which is digits and possibly a point with further digits behind it;
or a name, which is letters and possibly digits.  A number or a name extends as
far as it can, and the next lexeme may follow without a blank.

A number that denotes no finite value is refused, and so is a point without a
digit before it.  Every other character is unknown.  A failure names the place
where the offending lexeme begins.

The scanner works on lists of characters.  Its main law is `next_append`: a
lexeme and what is left make up what was there.
-/

/-- Splits a list of characters after the number at its front: digits, a point,
digits. -/
def spanNumber (cs : List Char) : List Char × List Char :=
  let (whole, rest) := Numeral.spanDigits cs
  match rest with
  | '.' :: more =>
    let (fraction, tail) := Numeral.spanDigits more
    (whole ++ '.' :: fraction, tail)
  | _ => (whole, rest)

/-- Splits a list of characters after the name at its front: letters,
digits. -/
def spanName (cs : List Char) : List Char × List Char :=
  let (digits, tail) := Numeral.spanDigits (cs.dropWhile isLetter)
  (cs.takeWhile isLetter ++ digits, tail)

/-- Whether a list of characters is a numeral of finite value. -/
def isFiniteNumeral (cs : List Char) : Bool :=
  match Numeral.read cs with
  | some numeral => numeral.toFloat.isFinite
  | none => false

structure Split where
  kind : TokenKind
  lexeme : List Char
  rest : List Char
  deriving DecidableEq

def readNumberAt (position : Nat) (cs : List Char) : Except Failure Split :=
  let (lexeme, rest) := spanNumber cs
  if (cs.takeWhile Char.isDigit).isEmpty || !isFiniteNumeral lexeme then
    .error (.invalidNumber position)
  else .ok ⟨.number, lexeme, rest⟩

def readNameAt (position : Nat) (cs : List Char) : Except Failure Split :=
  let (lexeme, rest) := spanName cs
  if (cs.takeWhile isLetter).isEmpty then .error (.invalidVariable position)
  else .ok ⟨.identifier, lexeme, rest⟩

/-- Reads the lexeme that begins with a character. -/
def next (position : Nat) (c : Char) (rest : List Char) : Except Failure Split :=
  match TokenKind.ofSymbol? c with
  | some kind => .ok ⟨kind, [c], rest⟩
  | none =>
    if c.isDigit || c == '.' then readNumberAt position (c :: rest)
    else if isLetter c then readNameAt position (c :: rest)
    else .error (.unknownSymbol c position)

theorem spanDigits_append (cs : List Char) :
    (Numeral.spanDigits cs).1 ++ (Numeral.spanDigits cs).2 = cs :=
  List.takeWhile_append_dropWhile

theorem spanNumber_append (cs : List Char) : (spanNumber cs).1 ++ (spanNumber cs).2 = cs := by
  have whole := spanDigits_append cs
  unfold spanNumber
  split
  rename_i digits rest split_eq
  rw [split_eq] at whole
  split
  · rename_i more
    have behind := spanDigits_append more
    simp only [List.append_assoc, List.cons_append]
    rw [behind]
    exact whole
  · exact whole

theorem spanName_append (cs : List Char) : (spanName cs).1 ++ (spanName cs).2 = cs := by
  have digits := spanDigits_append (cs.dropWhile isLetter)
  simp only [spanName, List.append_assoc]
  rw [digits]
  exact List.takeWhile_append_dropWhile

theorem spanNumber_takes_digits (cs : List Char) :
    ∃ more, (spanNumber cs).1 = cs.takeWhile Char.isDigit ++ more := by
  unfold spanNumber
  simp only [Numeral.spanDigits]
  split
  · exact ⟨_, rfl⟩
  · exact ⟨[], by simp⟩

/-- A lexeme has at least one character, and together with what is left it
makes up what was there. -/
theorem next_append {position : Nat} {c : Char} {rest : List Char} {split : Split}
    (found : next position c rest = .ok split) :
    split.lexeme ≠ [] ∧ split.lexeme ++ split.rest = c :: rest := by
  unfold next at found
  split at found
  · cases found
    simp
  · split at found
    · unfold readNumberAt at found
      simp only at found
      split at found
      · cases found
      · rename_i accepted
        cases found
        refine ⟨?_, spanNumber_append _⟩
        rcases spanNumber_takes_digits (c :: rest) with ⟨more, whole⟩
        intro empty
        simp only at empty
        rw [whole, List.append_eq_nil_iff] at empty
        simp [empty.1] at accepted
    · split at found
      · unfold readNameAt at found
        simp only at found
        split at found
        · cases found
        · rename_i accepted
          cases found
          refine ⟨?_, spanName_append _⟩
          intro empty
          simp only [spanName, List.append_eq_nil_iff] at empty
          simp [empty.1] at accepted
      · cases found

/-- Reads all tokens from a place on. -/
def scan (position : Nat) : List Char -> Except Failure (List Token)
  | [] => .ok []
  | c :: rest =>
    if isBlank c then scan (position + 1) rest
    else
      match _found : next position c rest with
      | .error failure => .error failure
      | .ok split =>
        match scan (position + split.lexeme.length) split.rest with
        | .error failure => .error failure
        | .ok tokens => .ok (⟨split.kind, String.ofList split.lexeme⟩ :: tokens)
termination_by cs => cs.length
decreasing_by
  · simp
  · have whole := (next_append _found).2
    have some := List.length_pos_iff.mpr (next_append _found).1
    have lengths := congrArg List.length whole
    simp only [List.length_append, List.length_cons] at lengths ⊢
    omega

end Lexer

/-- The tokens of a text, in order. -/
def tokenize (text : String) : Except Failure (List Token) :=
  Lexer.scan 0 text.toList

/-- The token that a text consists of.  With none or several the first surplus
token is to blame, or the end of the text. -/
def Token.read (text : String) : Except Failure Token :=
  match tokenize text with
  | .error failure => .error failure
  | .ok [token] => .ok token
  | .ok tokens => .error (.unexpectedToken (Token.shownFirst (tokens.drop 1)))

/-- A name takes digits only behind its letters, and a number ends before the
first letter. -/
example :
    (tokenize "2ab3c").toOption.map Token.describedList =
      some "[Number(2), Variable(ab3), Variable(c)]" := by
  decide +kernel

/-- A point ends a number that already has one, and cannot begin the next. -/
example :
    (tokenize "1.2.").toOption = none ∧
      (tokenize "1.2 2.").toOption.map Token.describedList = some "[Number(1.2), Number(2.)]" := by
  decide +kernel

end Reckoner
