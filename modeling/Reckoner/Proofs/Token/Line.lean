import Reckoner.Proofs.Conversion
import Reckoner.Proofs.Token.Division

namespace Reckoner

/-!
# Lines of tokens

Derived tokens that are written as a line are read from it again, up to the
negations, which come back as subtractions.  The grammar treats both alike
before an operand, so that a line has the tree of its tokens (`convert_line`).

Between two tokens that could run together the grammar always puts a third: an
operator, around which a line has blanks, or a parenthesis.  The proof
therefore follows the derivation and not the list of tokens.
-/

namespace Lexer

/-- Some characters are read as some tokens when a certain rest follows. -/
def Reads (cs : List Char) (tokens : List Token) (rest : List Char) : Prop :=
  ∀ position, ∃ behind, scan position (cs ++ rest) = (scan behind rest).map (tokens ++ ·)

theorem Reads.append {front back rest : List Char} {tokens further : List Token}
    (first : Reads front tokens (back ++ rest)) (second : Reads back further rest) :
    Reads (front ++ back) (tokens ++ further) rest := by
  intro position
  rcases first position with ⟨middle, whole⟩
  rcases second middle with ⟨behind, part⟩
  refine ⟨behind, ?_⟩
  rw [List.append_assoc, whole, part]
  cases scan behind rest with
  | error failure => rfl
  | ok others => simp [Except.map]

theorem reads_blank {c : Char} (rest : List Char) (blank : isBlank c = true) :
    Reads [c] [] rest := by
  intro position
  refine ⟨position + 1, ?_⟩
  rw [scan_blanks _ (List.forall_mem_singleton.mpr blank), List.length_singleton]
  cases scan (position + 1) rest <;> rfl

theorem reads_spelled {token : Token} (spelled : Spelled token) {rest : List Char}
    (breaks : token.kind = .number ∨ token.kind = .identifier -> Breaks rest) :
    Reads token.text.toList [reread token] rest :=
  fun position => ⟨_, scan_spelled spelled position breaks⟩

/-! ## Pieces of a line -/

theorem line_append (front back : List Token) :
    (Token.line (front ++ back)).toList =
      (Token.line front).toList ++ (Token.line back).toList := by
  simp [Token.line, String.join_append]

theorem line_operator {token : Token} {op : Operator} (kind : token.kind = .binary op) :
    (Token.line [token]).toList = ' ' :: (token.text.toList ++ [' ']) := by
  have shown : token.shown = token.text := by simp [Token.shown, kind]
  simp [Token.line, Token.isBinary, kind, TokenKind.operator?, shown]

theorem line_other {token : Token} (spelled : Spelled token)
    (kind : ∀ op, token.kind ≠ .binary op) :
    (Token.line [token]).toList = token.text.toList := by
  have operand : token.isBinary = false := by
    rw [Token.isBinary]
    cases same : token.kind with
    | binary op => exact absurd same (kind op)
    | _ => rfl
  simp [Token.line, operand, spelled.shown_eq]

theorem reads_value {token : Token} (spelled : Spelled token)
    (kind : token.kind = .number ∨ token.kind = .identifier) {rest : List Char}
    (breaks : Breaks rest) : Reads (Token.line [token]).toList [reread token] rest := by
  have other : ∀ op, token.kind ≠ .binary op := by
    intro op binary
    rw [binary] at kind
    rcases kind with number | identifier
    · cases number
    · cases identifier
  rw [line_other spelled other]
  exact reads_spelled spelled fun _ => breaks

/-- All other tokens are read whatever follows, operators together with the
blanks around them. -/
theorem reads_symbol {token : Token} (spelled : Spelled token)
    (kind : ¬(token.kind = .number ∨ token.kind = .identifier)) (rest : List Char) :
    Reads (Token.line [token]).toList [reread token] rest := by
  have symbol (rest : List Char) : Reads token.text.toList [reread token] rest :=
    reads_spelled spelled fun value => absurd value kind
  have blank (rest : List Char) : Reads [' '] [] rest := reads_blank rest (by decide)
  by_cases operator : ∃ op, token.kind = .binary op
  · rcases operator with ⟨op, binary⟩
    rw [line_operator binary]
    exact (blank _).append ((symbol _).append (blank rest))
  · rw [line_other spelled fun op binary => operator ⟨op, binary⟩]
    exact symbol rest

theorem breaks_symbol {token : Token} (spelled : Spelled token)
    (kind : ¬(token.kind = .number ∨ token.kind = .identifier)) (rest : List Char) :
    Breaks ((Token.line [token]).toList ++ rest) := by
  by_cases operator : ∃ op, token.kind = .binary op
  · rcases operator with ⟨op, binary⟩
    rw [line_operator binary]
    exact breaks_space _
  · rw [line_other spelled fun op binary => operator ⟨op, binary⟩]
    cases spelled with
    | number => exact absurd (.inl rfl) kind
    | identifier => exact absurd (.inr rfl) kind
    | symbol symbol =>
        rw [String.toList_ofList]
        exact breaks_of_ofSymbol? rest symbol
    | negate => exact breaks_of_ofSymbol? (c := '-') rest rfl

/-- Signs are read one by one, and the operand behind them as it is read
alone. -/
theorem reads_signs {signs : List Token} (run : ∀ sign ∈ signs, sign.isSign = true)
    (spelled : ∀ sign ∈ signs, Spelled sign) {operand rest : List Char} {tokens : List Token}
    (inner : Reads operand tokens rest) :
    Reads ((Token.line signs).toList ++ operand) (signs.map reread ++ tokens) rest := by
  induction signs with
  | nil => exact inner
  | cons sign signs inductionHypothesis =>
      have further := inductionHypothesis (fun other member => run other (.tail _ member))
        (fun other member => spelled other (.tail _ member))
      have kind : ¬(sign.kind = .number ∨ sign.kind = .identifier) := by
        have isSign := run sign List.mem_cons_self
        rintro (kind | kind) <;> simp [Token.isSign, TokenKind.isSign, kind] at isSign
      rw [← List.singleton_append, line_append, List.append_assoc]
      exact (reads_symbol (spelled sign List.mem_cons_self) kind _).append further

/-- The line of derived tokens is read as these tokens. -/
theorem reads_line {phrase : Phrase} {tokens : List Token} {tree : Expression Float}
    (derived : Derives phrase tokens tree) (spelled : ∀ token ∈ tokens, Spelled token)
    {rest : List Char} (breaks : Breaks rest) :
    Reads (Token.line tokens).toList (tokens.map reread) rest := by
  induction derived generalizing rest with
  | single _ inductionHypothesis => exact inductionHypothesis spelled breaks
  | @joined tier op token front back left right _ kind _ _ onFront onBack =>
      have operator : Spelled token := spelled token (by simp)
      have notValue : ¬(token.kind = .number ∨ token.kind = .identifier) := by simp [kind]
      have before := onFront (fun other member => spelled other (by simp [member]))
        (breaks_symbol operator notValue ((Token.line back).toList ++ rest))
      have behind := onBack (fun other member => spelled other (by simp [member])) breaks
      rw [line_append, ← List.singleton_append, line_append, List.map_append, List.map_append]
      rw [← List.append_assoc] at before
      exact before.append ((reads_symbol operator notValue _).append behind)
  | signed run _ inductionHypothesis =>
      rw [line_append, List.map_append]
      exact reads_signs run (fun sign member => spelled sign (by simp [member]))
        (inductionHypothesis (fun token member => spelled token (by simp [member])) breaks)
  | number kind _ => exact reads_value (spelled _ List.mem_cons_self) (.inl kind) breaks
  | identifier kind => exact reads_value (spelled _ List.mem_cons_self) (.inr kind) breaks
  | @parenthesized opening closing tokens tree opens closes inner inductionHypothesis =>
      have opened : ¬(opening.kind = .number ∨ opening.kind = .identifier) := by simp [opens]
      have closed : ¬(closing.kind = .number ∨ closing.kind = .identifier) := by simp [closes]
      have last : Spelled closing := spelled closing (by simp)
      have inside := inductionHypothesis (fun token member => spelled token (by simp [member]))
        (breaks_symbol last closed rest)
      rw [List.cons_append, ← List.singleton_append, line_append, line_append, List.map_append,
        List.map_append]
      exact (reads_symbol (spelled opening (by simp)) opened _).append
        (inside.append (reads_symbol last closed rest))

theorem isSign_reread (token : Token) : (reread token).isSign = token.isSign := by
  rw [reread]
  split
  · rename_i kind
    simp [Token.isSign, Token.ofKind, TokenKind.isSign, kind]
  · rfl

theorem isNegating_reread (token : Token) : (reread token).isNegating = token.isNegating := by
  rw [reread]
  split
  · rename_i kind
    simp [Token.isNegating, Token.ofKind, TokenKind.isNegating, kind]
  · rfl

/-- What is read in place of a token plays the same part in a derivation. -/
theorem derives_reread {phrase : Phrase} {tokens : List Token} {tree : Expression Float}
    (derived : Derives phrase tokens tree) : Derives phrase (tokens.map reread) tree := by
  induction derived with
  | single _ inductionHypothesis => exact .single inductionHypothesis
  | joined _ kind same _ onFront onBack =>
      rw [List.map_append, List.map_cons, reread_of_kind (by simp [kind])]
      exact .joined onFront kind same onBack
  | @signed signs tokens tree run _ inductionHypothesis =>
      have run' : ∀ sign ∈ signs.map reread, sign.isSign = true := by
        intro sign member
        rcases List.mem_map.mp member with ⟨original, among, rfl⟩
        rw [isSign_reread]
        exact run original among
      have counted : (signs.map reread).countP Token.isNegating =
          signs.countP Token.isNegating := by
        have same : Token.isNegating ∘ reread = Token.isNegating := by
          funext sign
          exact isNegating_reread sign
        rw [List.countP_map, same]
      rw [List.map_append, ← counted]
      exact .signed run' inductionHypothesis
  | number kind reads =>
      rw [List.map_singleton, reread_of_kind (by simp [kind])]
      exact .number kind reads
  | identifier kind =>
      rw [List.map_singleton, reread_of_kind (by simp [kind])]
      exact .identifier kind
  | parenthesized opens closes _ inductionHypothesis =>
      rw [List.map_append, List.map_cons, List.map_singleton, reread_of_kind (by simp [opens]),
        reread_of_kind (by simp [closes])]
      exact .parenthesized opens closes inductionHypothesis

end Lexer

theorem tokenize_line {tokens : List Token} {tree : Expression Float}
    (derived : Derives (.chain .sum) tokens tree)
    (spelled : ∀ token ∈ tokens, Lexer.Spelled token) :
    tokenize (Token.line tokens) = .ok (tokens.map Lexer.reread) := by
  rcases Lexer.reads_line derived spelled Lexer.breaks_nil 0 with ⟨behind, scanned⟩
  rw [List.append_nil] at scanned
  rw [tokenize, scanned, Lexer.scan]
  simp [Except.map]

theorem convert_line {tokens : List Token} {tree : Expression Float}
    (derived : Derives (.chain .sum) tokens tree)
    (spelled : ∀ token ∈ tokens, Lexer.Spelled token) :
    convert (Token.line tokens) = .ok tree :=
  convert_eq_ok_iff.mpr
    ⟨_, tokenize_line derived spelled, parse_of_derives (Lexer.derives_reread derived)⟩

end Reckoner
