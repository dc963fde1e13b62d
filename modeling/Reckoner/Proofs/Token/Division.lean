import Reckoner.Proofs.Token.Lexeme

namespace Reckoner

/-!
# The division of a text into tokens

A text is divided into lexemes with blanks in front of each and behind the last
one.  `Lexer.Divides` is this division as a relation between pieces and what is
left behind them; it says of each lexeme that it is the one in front of all
that follows.  Every text can be divided up to a point where only blanks are
left or something is refused (`Lexer.exists_division`), and the scan passes
over the pieces without a look at what is behind them
(`Lexer.scan_of_divides`).  Both the tokens and the failures of a text follow
from these two.

What is left behind the pieces has a say in the division through its first
character only (`Lexer.Divides.of_head`).  This is why the characters before a
refused place can be read by themselves, and why the failure at this place does
not depend on what comes after it.
-/

theorem dropWhile_isBlank {front rest : List Char} (blank : ∀ c ∈ front, isBlank c = true)
    (visible : ∀ c ∈ rest.head?, isBlank c = false) :
    (front ++ rest).dropWhile isBlank = rest := by
  rw [List.dropWhile_append_of_pos blank]
  cases rest with
  | nil => rfl
  | cons c rest => simp [visible c rfl]

namespace Lexer

/-- A lexeme with the blanks in front of it. -/
structure Piece where
  blanks : List Char
  token : Token

def spell (pieces : List Piece) : List Char :=
  pieces.flatMap fun piece => piece.blanks ++ piece.token.text.toList

theorem spell_nil (rest : List Char) : spell [] ++ rest = rest :=
  rfl

theorem spell_cons (piece : Piece) (pieces : List Piece) (rest : List Char) :
    spell (piece :: pieces) ++ rest =
      piece.blanks ++ (piece.token.text.toList ++ (spell pieces ++ rest)) := by
  simp [spell]

/-- The characters of some pieces are divided into these pieces when a rest
follows. -/
inductive Divides : List Piece -> List Char -> Prop where
  | nil {rest : List Char} : Divides [] rest
  | cons {piece : Piece} {pieces : List Piece} {rest : List Char}
      (blank : ∀ c ∈ piece.blanks, isBlank c = true)
      (leads : Leads piece.token (spell pieces ++ rest)) (further : Divides pieces rest) :
      Divides (piece :: pieces) rest

/-- A text is divided into pieces with blanks behind them. -/
structure Division (text : String) (pieces : List Piece) (last : List Char) : Prop where
  whole : text.toList = spell pieces ++ last
  divides : Divides pieces last
  blank : ∀ c ∈ last, isBlank c = true

/-- A text is divided up to a place where something is refused. -/
structure Offence (text : String) (pieces : List Piece) (blanks offending rest : List Char)
    (failure : Failure) : Prop where
  whole : text.toList = spell pieces ++ (blanks ++ (offending ++ rest))
  divides : Divides pieces (blanks ++ (offending ++ rest))
  blank : ∀ c ∈ blanks, isBlank c = true
  offends : Offends (spell pieces ++ blanks).length offending rest failure

/-! ## The scan along a division -/

theorem scan_blanks (position : Nat) {blanks : List Char}
    (blank : ∀ c ∈ blanks, isBlank c = true) (rest : List Char) :
    scan position (blanks ++ rest) = scan (position + blanks.length) rest := by
  induction blanks generalizing position with
  | nil => rfl
  | cons c blanks inductionHypothesis =>
      rw [List.forall_mem_cons] at blank
      rw [List.cons_append, scan, if_pos blank.1, inductionHypothesis _ blank.2,
        List.length_cons, Nat.add_assoc, Nat.add_comm 1]

/-- At a visible character a lexeme is read, and the scan goes on behind it. -/
theorem scan_visible (position : Nat) {c : Char} (visible : isBlank c = false)
    (rest : List Char) :
    scan position (c :: rest) = (next position c rest).bind fun split =>
      (scan (position + split.lexeme.length) split.rest).map
        (⟨split.kind, String.ofList split.lexeme⟩ :: ·) := by
  rw [scan, if_neg (by simp [visible])]
  split
  · rename_i failure failed
    rw [failed]
    rfl
  · rename_i split found
    rw [found, Except.bind]
    cases scan (position + split.lexeme.length) split.rest <;> rfl

theorem scan_of_leads {token : Token} {rest : List Char} (leads : Leads token rest)
    (position : Nat) :
    scan position (token.text.toList ++ rest) =
      (scan (position + token.text.toList.length) rest).map (token :: ·) := by
  rcases next_of_leads leads with ⟨c, cs, text, visible, read⟩
  have same : (⟨token.kind, String.ofList (c :: cs)⟩ : Token) = token := by
    rw [← text, String.ofList_toList]
  rw [text, List.cons_append, scan_visible position visible, read, Except.bind, same]

theorem scan_of_offends {position : Nat} {offending rest : List Char} {failure : Failure}
    (offends : Offends position offending rest failure) :
    scan position (offending ++ rest) = .error failure := by
  rcases next_of_offends offends with ⟨c, cs, rfl, visible, refused⟩
  rw [List.cons_append, scan_visible position visible, refused]
  rfl

/-- Divided characters are scanned as their tokens, whatever the position. -/
theorem scan_of_divides {pieces : List Piece} {rest : List Char} (divides : Divides pieces rest)
    (position : Nat) :
    scan position (spell pieces ++ rest) =
      (scan (position + (spell pieces).length) rest).map (pieces.map Piece.token ++ ·) := by
  induction divides generalizing position with
  | nil =>
      rw [spell_nil]
      change scan position _ = (scan position _).map ([] ++ ·)
      cases scan position _ <;> rfl
  | @cons piece pieces rest blank leads _ inductionHypothesis =>
      have lengths : position + piece.blanks.length + piece.token.text.toList.length +
          (spell pieces).length = position + (spell (piece :: pieces)).length := by
        simp only [spell, List.flatMap_cons, List.length_append]
        omega
      rw [spell_cons, scan_blanks _ blank, scan_of_leads leads, inductionHypothesis, lengths]
      cases scan (position + (spell (piece :: pieces)).length) rest <;> rfl

theorem Division.tokenize_eq {text : String} {pieces : List Piece} {last : List Char}
    (division : Division text pieces last) : tokenize text = .ok (pieces.map Piece.token) := by
  have ended (position : Nat) : scan position last = .ok [] := by
    have passed := scan_blanks position division.blank []
    rwa [List.append_nil, scan] at passed
  rw [tokenize, division.whole, scan_of_divides division.divides, ended]
  simp [Except.map]

theorem Offence.tokenize_eq {text : String} {pieces : List Piece}
    {blanks offending rest : List Char} {failure : Failure}
    (offence : Offence text pieces blanks offending rest failure) :
    tokenize text = .error failure := by
  have place : 0 + (spell pieces).length + blanks.length = (spell pieces ++ blanks).length := by
    rw [Nat.zero_add, List.length_append]
  rw [tokenize, offence.whole, scan_of_divides offence.divides, scan_blanks _ offence.blank, place,
    scan_of_offends offence.offends]
  rfl

/-! ## Every text is divided -/

/-- Some characters can be divided up to a place where only blanks are left or
something offends. -/
theorem exists_division (cs : List Char) :
    ∃ pieces blanks rest, cs = spell pieces ++ (blanks ++ rest) ∧
      Divides pieces (blanks ++ rest) ∧ (∀ c ∈ blanks, isBlank c = true) ∧
      (rest = [] ∨ ∀ position, ∃ offending behind failure, rest = offending ++ behind ∧
        Offends position offending behind failure) := by
  -- The induction is on the length, since each lexeme is taken off as a whole.
  induction length : cs.length using Nat.strong_induction_on generalizing cs with
  | _ n inductionHypothesis =>
      subst length
      have split : cs.takeWhile isBlank ++ cs.dropWhile isBlank = cs :=
        List.takeWhile_append_dropWhile
      have blank : ∀ c ∈ cs.takeWhile isBlank, isBlank c = true :=
        List.all_eq_true.mp List.all_takeWhile
      cases left : cs.dropWhile isBlank with
      | nil =>
          rw [left] at split
          exact ⟨[], _, [], split.symm, .nil, blank, .inl rfl⟩
      | cons c behind =>
          rw [left] at split
          have visible : isBlank c = false := by
            have first := List.head?_dropWhile_not isBlank cs
            rw [left] at first
            simpa using first
          by_cases found : ∃ token rest, c :: behind = token.text.toList ++ rest ∧ Leads token rest
          · rcases found with ⟨token, rest, text, leads⟩
            have shorter : rest.length < cs.length := by
              rcases next_of_leads leads with ⟨first, others, spelling, _⟩
              rw [← split, text, spelling]
              simp only [List.length_append, List.length_cons]
              omega
            rcases inductionHypothesis _ shorter rest rfl with
              ⟨pieces, blanks, rest', rfl, divides, blank', stop⟩
            refine ⟨⟨cs.takeWhile isBlank, token⟩ :: pieces, blanks, rest', ?_,
              .cons blank leads divides, blank', stop⟩
            rw [spell_cons, ← text, split]
          · refine ⟨[], _, c :: behind, split.symm, .nil, blank, .inr fun position => ?_⟩
            exact (leads_or_offends position visible behind).resolve_left found

/-- A text is divided as a whole, or up to a place where something is
refused. -/
theorem division_or_offence (text : String) :
    (∃ pieces last, Division text pieces last) ∨
      ∃ pieces blanks offending rest failure,
        Offence text pieces blanks offending rest failure := by
  rcases exists_division text.toList with ⟨pieces, blanks, rest, whole, divides, blank, rfl | stop⟩
  · rw [List.append_nil] at whole divides
    exact .inl ⟨pieces, blanks, whole, divides, blank⟩
  · rcases stop (spell pieces ++ blanks).length with ⟨offending, behind, failure, rfl, offends⟩
    exact .inr ⟨pieces, blanks, offending, behind, failure, whole, divides, blank, offends⟩

/-- A text with tokens is divided into them. -/
theorem division_of_tokenize {text : String} {tokens : List Token}
    (read : tokenize text = .ok tokens) :
    ∃ pieces last, Division text pieces last ∧ pieces.map Piece.token = tokens := by
  rcases division_or_offence text with
    ⟨pieces, last, division⟩ | ⟨pieces, blanks, offending, rest, failure, offence⟩
  · rw [division.tokenize_eq] at read
    exact ⟨pieces, last, division, Except.ok.inj read⟩
  · rw [offence.tokenize_eq] at read
    cases read

theorem blank_of_tokenize {text : String} (read : tokenize text = .ok []) :
    ∀ c ∈ text.toList, isBlank c = true := by
  rcases division_of_tokenize read with ⟨pieces, last, division, none⟩
  rw [List.map_eq_nil_iff] at none
  rw [division.whole, none, spell_nil]
  exact division.blank

theorem offence_of_tokenize {text : String} {failure : Failure}
    (refused : tokenize text = .error failure) :
    ∃ pieces blanks offending rest, Offence text pieces blanks offending rest failure := by
  rcases division_or_offence text with
    ⟨pieces, last, division⟩ | ⟨pieces, blanks, offending, rest, other, offence⟩
  · rw [division.tokenize_eq] at refused
    cases refused
  · rw [offence.tokenize_eq] at refused
    cases refused
    exact ⟨pieces, blanks, offending, rest, offence⟩

/-! ## One division -/

theorem Leads.visible {token : Token} {rest : List Char} (leads : Leads token rest) :
    ∀ c ∈ (token.text.toList ++ rest).head?, isBlank c = false := by
  rcases next_of_leads leads with ⟨c, cs, text, visible, _⟩
  rw [text]
  intro first next
  rwa [← Option.mem_some.mp next]

private theorem not_blank_of_divides {piece : Piece} {pieces : List Piece} {rest : List Char}
    (divides : Divides (piece :: pieces) rest) :
    ¬∀ c ∈ spell (piece :: pieces) ++ rest, isBlank c = true := by
  cases divides with
  | cons _ leads _ =>
      rcases next_of_leads leads with ⟨c, cs, text, visible, _⟩
      intro blank
      have other := blank c (by simp [spell, text])
      rw [visible] at other
      cases other

/-- A text is divided in one way. -/
theorem Divides.unique {pieces pieces' : List Piece} {last last' : List Char}
    (divides : Divides pieces last) (divides' : Divides pieces' last')
    (blank : ∀ c ∈ last, isBlank c = true) (blank' : ∀ c ∈ last', isBlank c = true)
    (same : spell pieces ++ last = spell pieces' ++ last') : pieces = pieces' ∧ last = last' := by
  induction divides generalizing pieces' with
  | nil =>
      cases divides' with
      | nil => exact ⟨rfl, same⟩
      | cons blanks leads further =>
          rw [spell_nil] at same
          rw [same] at blank
          exact absurd blank (not_blank_of_divides (.cons blanks leads further))
  | @cons piece pieces last blanks leads further inductionHypothesis =>
      cases divides' with
      | nil =>
          rw [spell_nil] at same
          rw [← same] at blank'
          exact absurd blank' (not_blank_of_divides (.cons blanks leads further))
      | @cons piece' pieces' _ blanks' leads' further' =>
          -- Behind the blanks the same lexeme is in front on both sides.
          rw [spell_cons, spell_cons] at same
          have behind := congrArg (List.dropWhile isBlank) same
          rw [dropWhile_isBlank blanks leads.visible, dropWhile_isBlank blanks' leads'.visible]
            at behind
          rw [behind] at same
          have front := List.append_cancel_right same
          rcases leads.unique leads' behind with ⟨token, rest⟩
          rcases inductionHypothesis further' blank rest with ⟨rfl, rfl⟩
          refine ⟨?_, rfl⟩
          cases piece
          cases piece'
          simp_all only

/-! ## What is left behind -/

/-- What is left behind the pieces can be replaced by anything with the same
first character, by nothing, and by anything with a blank in front. -/
theorem Divides.of_head {pieces : List Piece} {rest rest' : List Char}
    (divides : Divides pieces rest)
    (same : ∀ c ∈ rest'.head?, c ∈ rest.head? ∨ isBlank c = true) : Divides pieces rest' := by
  induction divides with
  | nil => exact .nil
  | @cons piece pieces rest blank leads _ inductionHypothesis =>
      refine .cons blank (leads.of_head ?_) (inductionHypothesis same)
      rw [List.head?_append, List.head?_append]
      cases (spell pieces).head? with
      | none => exact same
      | some c => exact fun _ first => .inl first

/-- Whatever comes behind what offends has no say in the pieces before it. -/
theorem Offence.divides_any {text : String} {pieces : List Piece}
    {blanks offending rest : List Char} {failure : Failure}
    (offence : Offence text pieces blanks offending rest failure) (rest' : List Char) :
    Divides pieces (blanks ++ (offending ++ rest')) := by
  refine offence.divides.of_head fun first next => .inl ?_
  rcases next_of_offends offence.offends with ⟨c, cs, rfl, _⟩
  cases blanks with
  | nil => exact next
  | cons => exact next

theorem filter_blanks {blanks : List Char} (blank : ∀ c ∈ blanks, isBlank c = true) :
    blanks.filter (!isBlank ·) = [] := by
  rw [List.filter_eq_nil_iff]
  intro c member
  simp [blank c member]

/-- The tokens of a divided text are its visible characters. -/
theorem Divides.filter_spell {pieces : List Piece} {rest : List Char}
    (divides : Divides pieces rest) :
    (spell pieces).filter (!isBlank ·) =
      pieces.flatMap fun piece => piece.token.text.toList := by
  induction divides with
  | nil => rfl
  | @cons piece pieces _ blank leads _ inductionHypothesis =>
      have kept : piece.token.text.toList.filter (!isBlank ·) = piece.token.text.toList := by
        rw [List.filter_eq_self]
        intro c member
        simp [leads.isBlank_eq_false c member]
      rw [spell, List.flatMap_cons, List.flatMap_cons, List.filter_append, List.filter_append,
        filter_blanks blank, kept, List.nil_append, ← inductionHypothesis, spell]

/-! ## What is known of every token -/

theorem Divides.spelled {pieces : List Piece} {rest : List Char} (divides : Divides pieces rest) :
    ∀ piece ∈ pieces, Spelled piece.token := by
  induction divides with
  | nil => exact nofun
  | cons _ leads _ inductionHypothesis =>
      exact List.forall_mem_cons.mpr ⟨leads.spelled, inductionHypothesis⟩

/-- Every token of a text is spelled. -/
theorem spelled_of_tokenize {text : String} {tokens : List Token}
    (read : tokenize text = .ok tokens) : ∀ token ∈ tokens, Spelled token := by
  rcases division_of_tokenize read with ⟨pieces, last, division, rfl⟩
  exact List.forall_mem_map.mpr division.divides.spelled

theorem endless_of_tokenize {text : String} {tokens : List Token}
    (read : tokenize text = .ok tokens) : ∀ token ∈ tokens, token.kind ≠ .endOfInput :=
  fun token member => (spelled_of_tokenize read token member).kind_ne_endOfInput

/-- A spelled token is read from its text, if what follows breaks a number or a
name. -/
theorem scan_spelled {token : Token} (spelled : Spelled token) (position : Nat)
    {rest : List Char} (breaks : token.kind = .number ∨ token.kind = .identifier -> Breaks rest) :
    scan position (token.text.toList ++ rest) =
      (scan (position + token.text.toList.length) rest).map (reread token :: ·) := by
  have read := scan_of_leads (spelled.leads breaks) position
  rwa [text_reread spelled] at read

theorem tokenize_of_spelled {token : Token} (spelled : Spelled token) :
    tokenize token.text = .ok [reread token] := by
  have read := scan_spelled spelled 0 fun _ => breaks_nil
  rw [List.append_nil, scan] at read
  exact read

/-- Apart from negations the spelled tokens are those that are read from their
texts. -/
theorem spelled_iff_tokenize {token : Token} (kind : token.kind ≠ .negate) :
    Spelled token ↔ tokenize token.text = .ok [token] := by
  constructor
  · intro spelled
    have read := tokenize_of_spelled spelled
    rwa [reread_of_kind kind] at read
  · intro read
    exact spelled_of_tokenize read token List.mem_cons_self

theorem isLexical_of_tokenize {text : String} {failure : Failure}
    (refused : tokenize text = .error failure) : failure.isLexical = true := by
  rcases offence_of_tokenize refused with ⟨_, _, _, _, offence⟩
  cases offence.offends <;> rfl

/-- A text has certain tokens if and only if it can be divided into them, with
or without blanks in between.  There is no more than one division, and the
joined tokens are the visible characters of the text. -/
theorem tokenize_eq_ok_iff_division (text : String) (tokens : List Token) :
    (tokenize text = .ok tokens ↔
      ∃ pieces last, Division text pieces last ∧ pieces.map Piece.token = tokens) ∧
    (∀ pieces last pieces' last', Division text pieces last ->
      Division text pieces' last' -> pieces = pieces' ∧ last = last') ∧
    (tokenize text = .ok tokens ->
      String.join (tokens.map Token.text) =
        String.ofList (text.toList.filter (!isBlank ·))) := by
  refine ⟨⟨division_of_tokenize, ?_⟩, ?_, ?_⟩
  · rintro ⟨pieces, last, division, rfl⟩
    exact division.tokenize_eq
  · intro pieces last pieces' last' division division'
    exact division.divides.unique division'.divides division.blank division'.blank
      (division.whole.symm.trans division'.whole)
  · intro read
    rcases division_of_tokenize read with ⟨pieces, last, division, rfl⟩
    rw [String.join_eq, List.map_map, List.map_map, division.whole, List.filter_append,
      filter_blanks division.blank, List.append_nil, division.divides.filter_spell]
    rfl

/-- A text without tokens fails at a place in it that can be read up to this
place: for a visible character there that begins no lexeme, for a point that
stands where a lexeme should begin, or for a number that begins there and is
too large.  Whatever comes behind this character or this number without making
it longer, the failure is the same. -/
theorem tokenize_failure_place {text : String} {failure : Failure}
    (refused : tokenize text = .error failure) :
    ∃ read offending rest, text.toList = read ++ offending ++ rest ∧
      Offends read.length offending rest failure ∧ read.length < text.length ∧
      (∃ tokens, tokenize (String.ofList read) = .ok tokens) ∧
      ∀ rest' : List Char, (∀ c ∈ rest'.head?, ¬NumberShape (offending ++ [c])) ->
        tokenize (String.ofList (read ++ offending ++ rest')) = .error failure := by
  rcases offence_of_tokenize refused with ⟨pieces, blanks, offending, rest, offence⟩
  rcases next_of_offends offence.offends with ⟨c, cs, text', _⟩
  have whole : text.toList = spell pieces ++ blanks ++ offending ++ rest := by
    simpa using offence.whole
  refine ⟨spell pieces ++ blanks, offending, rest, whole, offence.offends, ?_, ?_, ?_⟩
  · rw [← String.length_toList, whole, text']
    simp only [List.length_append, List.length_cons]
    omega
  · have division : Division (String.ofList (spell pieces ++ blanks)) pieces blanks := by
      refine ⟨String.toList_ofList, offence.divides.of_head fun c first => .inr ?_, offence.blank⟩
      exact offence.blank c (List.mem_of_mem_head? first)
    exact ⟨_, division.tokenize_eq⟩
  · intro rest' stops
    have same : ∀ c ∈ (blanks ++ (offending ++ rest')).head?,
        c ∈ (blanks ++ (offending ++ rest)).head? ∨ isBlank c = true := by
      intro first next
      left
      cases blanks with
      | nil => rwa [text'] at next ⊢
      | cons => exact next
    have offence' : Offence (String.ofList (spell pieces ++ blanks ++ offending ++ rest'))
        pieces blanks offending rest' failure :=
      ⟨by simp, offence.divides.of_head same, offence.blank, offence.offends.of_rest stops⟩
    exact offence'.tokenize_eq

/-- The second point in `1 + 2.5.7` is refused, whatever comes behind it. -/
theorem tokenize_failure_place_point :
    tokenize "1 + 2.5.7" = .error (.invalidNumber 7) ∧
    ∃ read offending rest, "1 + 2.5.7".toList = read ++ offending ++ rest ∧
      Offends read.length offending rest (.invalidNumber 7) ∧
      read.length < "1 + 2.5.7".length ∧
      (∃ tokens, tokenize (String.ofList read) = .ok tokens) ∧
      ∀ rest' : List Char, (∀ c ∈ rest'.head?, ¬NumberShape (offending ++ [c])) ->
        tokenize (String.ofList (read ++ offending ++ rest')) = .error (.invalidNumber 7) := by
  have refused : tokenize "1 + 2.5.7" = .error (.invalidNumber 7) := by decide +kernel
  exact ⟨refused, tokenize_failure_place refused⟩

end Lexer
end Reckoner
