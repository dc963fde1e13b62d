import Reckoner.Proofs.CalculatorWords
import Reckoner.Proofs.Postfix.Frame

namespace Reckoner

/-!
# Lines in postfix notation

A line in postfix notation can be read without a grammar.  It has no
parentheses, so that its words, which are what stands between blanks, are its
tokens one by one: a word is the sign of a negation, or a text with a single
token.

What the conversion of a text puts out comes from the text, apart from the
negations.  Its tokens are therefore spelled like those of a text, with no
blank in them, and none of them is spelled like the sign of a negation.  A line
that is made of them is read as the same list again
(`readPostfixLine_postfixLine`), and a stack machine that is given the line
computes what the text is calculated to.  In the postfix order no negation is
lost; the tree may lose one in a text with a run of signs that is too long to
be counted (`postfixLine_disagrees`).
-/

/-! ## Words -/

/-- What stands between the blanks of a text. -/
def words (cs : List Char) : List (List Char) :=
  (cs.splitOnP isBlank).filter (· ≠ [])

theorem words_nil : words [] = [] := by
  simp [words]

theorem words_append_blank {c : Char} (blank : isBlank c = true) (front back : List Char) :
    words (front ++ c :: back) = words front ++ words back := by
  rw [words, List.splitOnP_append_cons _ _ blank, List.filter_append, words, words]

theorem words_of_visible {cs : List Char} (some : cs ≠ [])
    (visible : ∀ c ∈ cs, isBlank c = false) : words cs = [cs] := by
  rw [words, List.splitOnP_eq_singleton visible]
  simp [some]

/-- Words with single spaces between them are the words of what they make
up. -/
theorem words_intercalate {pieces : List (List Char)}
    (visible : ∀ piece ∈ pieces, piece ≠ [] ∧ ∀ c ∈ piece, isBlank c = false) :
    words ([' '].intercalate pieces) = pieces := by
  induction pieces with
  | nil => exact words_nil
  | cons piece pieces inductionHypothesis =>
      rw [List.forall_mem_cons] at visible
      have single := words_of_visible visible.1.1 visible.1.2
      cases pieces with
      | nil => simpa using single
      | cons next rest =>
          rw [List.intercalate_cons_cons, List.append_assoc, List.singleton_append,
            words_append_blank (by decide), single, inductionHypothesis visible.2,
            List.singleton_append]

namespace Token

/-! ## Reading -/

/-- The token of a word: a negation has a sign of its own, and all other tokens
stand as they are. -/
def readPostfixWord (word : String) : Except Failure Token :=
  if word = "~" then .ok (.ofKind .negate) else Token.read word

/-- The tokens of a line, one for each word. -/
def readPostfixLine (line : String) : Except Failure (List Token) :=
  (words line.toList).mapM fun word => readPostfixWord (String.ofList word)

end Token

namespace Lexer

theorem Spelled.visible {token : Token} (spelled : Spelled token) :
    token.text.toList ≠ [] ∧ ∀ c ∈ token.text.toList, isBlank c = false := by
  have leads : Leads (reread token) [] := spelled.leads fun _ => breaks_nil
  rw [← text_reread spelled]
  refine ⟨?_, leads.isBlank_eq_false⟩
  rcases next_of_leads leads with ⟨c, cs, text, _⟩
  rw [text]
  exact List.cons_ne_nil c cs

/-- A spelled token that is no negation is shown with its text, which is not
the sign of a negation. -/
theorem Spelled.shownInPostfix_eq {token : Token} (spelled : Spelled token)
    (kind : token.kind ≠ .negate) :
    token.shownInPostfix = token.text ∧ token.text ≠ "~" := by
  constructor
  · rw [Token.shownInPostfix]
    split
    · contradiction
    · exact spelled.shown_eq
  · intro tilde
    have read := (spelled_iff_tokenize kind).mp spelled
    have refused : tokenize "~" = .error (.unknownSymbol '~' 0) := by decide +kernel
    rw [tilde, refused] at read
    cases read

theorem Spelled.visible_shownInPostfix {token : Token} (spelled : Spelled token) :
    token.shownInPostfix.toList ≠ [] ∧ ∀ c ∈ token.shownInPostfix.toList, isBlank c = false := by
  by_cases kind : token.kind = .negate
  · have sign : token.shownInPostfix = "~" := by rw [Token.shownInPostfix, kind]
    rw [sign]
    refine ⟨by decide, fun c member => ?_⟩
    have only : c = '~' := by simpa using member
    rw [only]
    decide
  · rw [(spelled.shownInPostfix_eq kind).1]
    exact spelled.visible

/-- A spelled token is read from the word that it is shown as. -/
theorem Spelled.readPostfixWord_eq {token : Token} (spelled : Spelled token) :
    Token.readPostfixWord token.shownInPostfix = .ok token := by
  by_cases kind : token.kind = .negate
  · cases spelled with
    | number | identifier => cases kind
    | symbol symbol => exact absurd kind (kind_of_ofSymbol? symbol).2.2.1
    | negate => rfl
  · rcases spelled.shownInPostfix_eq kind with ⟨shown, other⟩
    rw [shown, Token.readPostfixWord, if_neg other, Token.read,
      (spelled_iff_tokenize kind).mp spelled]

end Lexer

theorem Token.readPostfixLine_of_spelled {tokens : List Token}
    (spelled : ∀ token ∈ tokens, Lexer.Spelled token) :
    readPostfixLine (postfixLine tokens) = .ok tokens := by
  have pieces : words (postfixLine tokens).toList =
      tokens.map (·.shownInPostfix.toList) := by
    rw [postfixLine, String.toList_intercalate, List.map_map]
    exact words_intercalate (List.forall_mem_map.mpr fun token member =>
      (spelled token member).visible_shownInPostfix)
  rw [readPostfixLine, pieces]
  clear pieces
  induction tokens with
  | nil => rfl
  | cons token tokens inductionHypothesis =>
      rw [List.forall_mem_cons] at spelled
      rw [List.map_cons, List.mapM_cons, String.ofList_toList, spelled.1.readPostfixWord_eq,
        inductionHypothesis spelled.2]
      rfl

/-! ## What a text is converted to -/

theorem mem_of_toPostfix {tokens ordered : List Token} (converted : toPostfix tokens = .ok ordered)
    {token : Token} (member : token ∈ ordered) : token ∈ tokens ∨ token = .ofKind .negate := by
  by_cases empty : tokens = []
  · subst empty
    cases converted
    cases member
  · rw [Yard.toPostfix_eq_conclude empty] at converted
    rcases Yard.run_of_conclude converted with ⟨last, ran, ended⟩
    rcases Yard.finish_moves ended with ⟨_, _, whole, _⟩
    have held : token ∈ last.held := by
      simpa [Yard.held, whole] using member
    rcases (Yard.runs_of_run ran).mem_held held with before | fate
    · simp [Yard.held, Yard.start] at before
    · exact fate

section

variable {text : String} {tokens ordered : List Token} (lexer : tokenize text = .ok tokens)
  (converted : toPostfix tokens = .ok ordered)
include lexer converted

theorem spelled_of_toPostfix : ∀ token ∈ ordered, Lexer.Spelled token := by
  intro token member
  rcases mem_of_toPostfix converted member with among | negation
  · exact Lexer.spelled_of_tokenize lexer token among
  · rw [negation]
    exact .negate

/-- The postfix order of a text has the value of the text, whichever strategy
finds it. -/
theorem run_calculate_of_toPostfix (nonempty : tokens ≠ []) {σ : Type} (strategy : Strategy)
    (resolver : Resolver σ Float) (state : σ) :
    (calculate strategy resolver text).run state =
      (Postfix.evaluate resolver ordered).run state := by
  have yard := run_calculate_shuntingYard resolver state lexer nonempty
  rw [converted] at yard
  cases parsed : parse tokens with
  | error failure =>
      rcases toPostfix_error_of_parse_error lexer nonempty parsed with ⟨other, failed⟩
      rw [failed] at converted
      cases converted
  | ok tree =>
      calc
        (calculate strategy resolver text).run state =
            (calculate .shuntingYard resolver text).run state := by
          rw [run_calculate_of_parse lexer parsed, run_calculate_of_parse lexer parsed]
        _ = (Postfix.evaluate resolver ordered).run state := yard

end

/-- The postfix line of a text is read as the tokens that it is made of.  Where
there is more than blanks in the text, the line so read has the value of the
text, with the same lookups, or the same failure.  This is the value by the
postfix order, and that of the tree as well unless a run of signs in the text
is too long to be counted. -/
theorem readPostfixLine_postfixLine {text : String} {tokens ordered : List Token}
    (lexer : tokenize text = .ok tokens)
    (converted : toPostfixCounting .unsigned64 tokens = .ok ordered) :
    Token.readPostfixLine (Token.postfixLine ordered) = .ok ordered ∧
      ((∃ c ∈ text.toList, isBlank c = false) ->
        ∀ {σ : Type} (strategy : Strategy) (resolver : Resolver σ Float) (state : σ),
          (strategy = .syntaxTree -> Lexer.RunsFit text) ->
            (Evaluation.ofResult (Token.readPostfixLine (Token.postfixLine ordered)) >>=
              Postfix.evaluate resolver).run state =
            (calculateCounting .words strategy resolver text).run state) := by
  rw [toPostfixCounting_unsigned64] at converted
  have read := Token.readPostfixLine_of_spelled (spelled_of_toPostfix lexer converted)
  refine ⟨read, fun visible σ strategy resolver state fit => ?_⟩
  have nonempty : tokens ≠ [] := by
    rintro rfl
    rcases visible with ⟨c, member, unblank⟩
    rw [Lexer.blank_of_tokenize lexer c member] at unblank
    cases unblank
  have counted : calculateCounting .words strategy resolver text =
      calculate strategy resolver text := by
    cases strategy with
    | shuntingYard => exact calculateCounting_shuntingYard
    | syntaxTree => exact calculateCounting_of_runsFit (fit rfl) .syntaxTree
  rw [read, Evaluation.run_bind, Evaluation.run_ofResult, counted,
    run_calculate_of_toPostfix lexer converted nonempty]

/-- A negation and a subtraction, which the text writes alike, have different
words. -/
theorem readPostfixLine_postfixLine_negated :
    let text := "-(a - 1.) * b"
    let tokens : List Token :=
      [.ofKind (.binary .subtract), .ofKind .opening, ⟨.identifier, "a"⟩,
        .ofKind (.binary .subtract), ⟨.number, "1."⟩, .ofKind .closing,
        .ofKind (.binary .multiply), ⟨.identifier, "b"⟩]
    let ordered : List Token :=
      [⟨.identifier, "a"⟩, ⟨.number, "1."⟩, .ofKind (.binary .subtract), .ofKind .negate,
        ⟨.identifier, "b"⟩, .ofKind (.binary .multiply)]
    tokenize text = .ok tokens ∧ toPostfixCounting .unsigned64 tokens = .ok ordered ∧
      (∃ c ∈ text.toList, isBlank c = false) ∧ Lexer.RunsFit text ∧
      Token.postfixLine ordered = "a 1. - ~ b *" ∧
      Token.readPostfixLine (Token.postfixLine ordered) = .ok ordered ∧
      ∀ (strategy : Strategy) (resolver : Resolver Unit Float),
        (Evaluation.ofResult (Token.readPostfixLine (Token.postfixLine ordered)) >>=
          Postfix.evaluate resolver).run () =
            (calculateCounting .words strategy resolver text).run () := by
  intro text tokens ordered
  have lexer : tokenize text = .ok tokens := by decide +kernel
  have converted : toPostfixCounting .unsigned64 tokens = .ok ordered := by decide +kernel
  have visible : ∃ c ∈ text.toList, isBlank c = false := ⟨'a', by decide, by decide⟩
  have fit : Lexer.RunsFit text := by decide +kernel
  have read := readPostfixLine_postfixLine lexer converted
  exact ⟨lexer, converted, visible, fit, by decide +kernel, read.1,
    fun strategy resolver => read.2 visible strategy resolver () fun _ => fit⟩

/-- Where a run is too long the tree has lost a negation that the postfix line
keeps. -/
theorem postfixLine_disagrees :
    let text := String.ofList (List.replicate (2 ^ 31 + 1) '-' ++ "x".toList)
    let tokens := List.replicate (2 ^ 31 + 1) (.ofKind (.binary .subtract)) ++ [⟨.identifier, "x"⟩]
    let ordered : List Token := [⟨.identifier, "x"⟩, .ofKind .negate]
    let resolver : Resolver Unit Float := fun _ => pure 1
    tokenize text = .ok tokens ∧ toPostfixCounting .unsigned64 tokens = .ok ordered ∧
      Token.postfixLine ordered = "x ~" ∧
      (Postfix.evaluate resolver ordered).run () = (.ok (-1), ()) ∧
      (calculateCounting .words .syntaxTree resolver text).run () = (.ok 1, ()) := by
  have shape : Lexer.NameShape "x".toList := .letter rfl
  have apart := run_minusSigns_apart (2 ^ 31 + 1) shape seesOdd_overflow.1 seesOdd_overflow.2
  refine ⟨tokenize_minusSigns _ shape, ?_, by decide, rfl, apart.1⟩
  rw [toPostfixCounting_minusSigns, seesOdd_overflow.2]
  rfl

end Reckoner
