import Reckoner.Proofs.Regeneration

namespace Reckoner

/-!
# Legible tokens

Tokens need not come from a text.  They are legible if they could: symbols are
written with their spelling, and numbers and names are such that the lexer
reads them as what they are.  A negation is no token of the lexer, and its
spelling is that of a subtraction.

An expression of legible tokens, written as a line, is read again token by
token, and with subtractions in the place of the negations it has the same tree
(`sentence_line`).  Both the tokens of a text with a tree and the tokens that a
tree is written with are of this kind.
-/

/-- The kinds with a spelling have it, and numbers and names are read as
themselves. -/
structure Token.Legible (token : Token) : Prop where
  spelling : ∀ spelling ∈ token.kind.spelling?, token.text = spelling
  lexeme : token.kind = .number ∨ token.kind = .identifier -> tokenize token.text = .ok [token]

instance (token : Token) : Decidable token.Legible :=
  decidable_of_iff
    ((∀ spelling ∈ token.kind.spelling?, token.text = spelling) ∧
      (token.kind = .number ∨ token.kind = .identifier -> tokenize token.text = .ok [token]))
    ⟨fun both => ⟨both.1, both.2⟩, fun legible => ⟨legible.spelling, legible.lexeme⟩⟩

/-- Legible tokens that make up an expression, without an end among them. -/
structure Token.Sentence (tokens : List Token) (tree : Expression Float) : Prop where
  endless : ∀ token ∈ tokens, token.kind ≠ .endOfInput
  legible : ∀ token ∈ tokens, token.Legible
  parsed : parse tokens = .ok tree

namespace Lexer

theorem spelling?_of_ofSymbol? {c : Char} {kind : TokenKind}
    (symbol : TokenKind.ofSymbol? c = some kind) : kind.spelling? = some (String.ofList [c]) := by
  unfold TokenKind.ofSymbol? at symbol
  split at symbol <;> cases symbol <;> decide

theorem Spelled.legible {token : Token} (spelled : Spelled token) : token.Legible := by
  have lexeme : token.kind = .number ∨ token.kind = .identifier ->
      tokenize token.text = .ok [token] := by
    intro kind
    refine (spelled_iff_tokenize fun negates => ?_).mp spelled
    simp [negates] at kind
  refine ⟨?_, lexeme⟩
  cases spelled with
  | number | identifier => exact nofun
  | symbol symbol =>
      rw [spelling?_of_ofSymbol? symbol]
      exact fun _ found => Option.mem_some.mp found
  | negate => exact fun _ found => Option.mem_some.mp found

theorem spelled_of_legible {token : Token} (legible : token.Legible)
    (kind : token.kind ≠ .endOfInput) : Spelled token := by
  rcases token with ⟨kind', text⟩
  cases kind' with
  | number => exact (spelled_iff_tokenize (by simp)).mpr (legible.lexeme (.inl rfl))
  | identifier => exact (spelled_iff_tokenize (by simp)).mpr (legible.lexeme (.inr rfl))
  | binary op =>
      cases legible.spelling _ rfl
      exact .symbol (c := op.symbol) (by cases op <;> rfl)
  | negate =>
      cases legible.spelling _ rfl
      exact .negate
  | opening =>
      cases legible.spelling _ rfl
      exact .symbol (c := '(') rfl
  | closing =>
      cases legible.spelling _ rfl
      exact .symbol (c := ')') rfl
  | endOfInput => exact absurd rfl kind

end Lexer

/-- The tokens of a text with a tree are a sentence. -/
theorem sentence_of_convert {text : String} {tree : Expression Float}
    (converted : convert text = .ok tree) :
    ∃ tokens, tokenize text = .ok tokens ∧ Token.Sentence tokens tree := by
  rcases convert_eq_ok_iff.mp converted with ⟨tokens, lexer, parsed⟩
  exact ⟨tokens, lexer, Lexer.endless_of_tokenize lexer,
    fun token member => (Lexer.spelled_of_tokenize lexer token member).legible, parsed⟩

theorem sentence_toInfix {tree : Expression Float} (writable : tree.Writable) :
    Token.Sentence tree.toInfix tree.regrouped := by
  have derived := tree.derives_toInfix
  exact ⟨derived.kind_ne_endOfInput,
    fun token member => (Expression.spelled_toInfix writable token member).legible,
    parse_of_derives derived⟩

/-- A sentence that is written as a line is read as its own tokens, apart from
the negations, which have become subtractions, and keeps its tree.  The tokens
of every text with a tree are a sentence, and so are those that a tree is
written with, if its numbers are finite and without signs and its names are
names of the lexer. -/
theorem sentence_line :
    (∀ tokens tree, Token.Sentence tokens tree ->
      tokenize (Token.line tokens) = .ok (tokens.map Lexer.reread) ∧
        parse (tokens.map Lexer.reread) = .ok tree) ∧
    (∀ text tree, convert text = .ok tree ->
      ∃ tokens, tokenize text = .ok tokens ∧ Token.Sentence tokens tree) ∧
    (∀ tree : Expression Float, tree.Writable ->
      Token.Sentence tree.toInfix tree.regrouped) := by
  refine ⟨fun tokens tree sentence => ?_, fun _ _ => sentence_of_convert,
    fun _ => sentence_toInfix⟩
  have derived := derives_of_parse sentence.endless sentence.parsed
  have spelled : ∀ token ∈ tokens, Lexer.Spelled token := fun token member =>
    Lexer.spelled_of_legible (sentence.legible token member) (sentence.endless token member)
  exact ⟨tokenize_line derived spelled, parse_of_derives (Lexer.derives_reread derived)⟩

/-- A sentence with a negation in each of the places where one can stand. -/
theorem sentence_line_negations :
    let tokens : List Token :=
      [.ofKind .negate, .ofKind .opening, ⟨.number, "0.50"⟩, .ofKind (.binary .multiply),
        .ofKind .negate, ⟨.identifier, "x1"⟩, .ofKind .closing, .ofKind (.binary .subtract),
        .ofKind .negate, ⟨.number, "2."⟩]
    let tree : Expression Float :=
      .binary .subtract
        (.negate (.binary .multiply (.number 0.5) (.negate (.identifier "x1"))))
        (.negate (.number 2))
    Token.Sentence tokens tree ∧ Token.line tokens = "-(0.50 * -x1) - -2." ∧
      tokenize (Token.line tokens) = .ok (tokens.map Lexer.reread) ∧
      parse (tokens.map Lexer.reread) = .ok tree ∧
      (∃ again, tokenize (Token.line tokens) = .ok again ∧ Token.Sentence again tree) ∧
      tree.Writable ∧ Token.Sentence tree.toInfix tree.regrouped := by
  intro tokens tree
  have sentence : Token.Sentence tokens tree :=
    ⟨by decide, by decide +kernel, by decide +kernel⟩
  rcases sentence_line with ⟨written, converted, rewritten⟩
  rcases written tokens tree sentence with ⟨read, parsed⟩
  have text : convert (Token.line tokens) = .ok tree := convert_eq_ok_iff.mpr ⟨_, read, parsed⟩
  have writable := Expression.writable_of_convert text
  exact ⟨sentence, by decide +kernel, read, parsed, converted _ tree text, writable,
    rewritten tree writable⟩

end Reckoner
