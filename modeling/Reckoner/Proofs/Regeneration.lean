import Reckoner.Proofs.CalculatorWords
import Reckoner.Proofs.Expression.Infix
import Reckoner.Proofs.Token.Line

namespace Reckoner

/-!
# Texts made from trees

The tree of a text can be written as a line again, with as few parentheses as
possible.  The line is always accepted, and its tree is the one of the text
with all chains regrouped to the left.  Both make the same lookups, so that one
calculation fails if and only if the other does, and in the same way.

The line is final: written as a line once more, it comes out the same, even
where its tree is not the one of the text (`infixLine_final`).

The values need not be the same.  Parentheses around a sum that is added, or a
product that is multiplied, are left out although rounded arithmetic tells the
two groupings apart (`infixLine_changes_value`).  Where the text has no such
place the line is calculated exactly like the text.

No two signs of a line stand in one run, so that the counters of a machine are
never short for it.  They have to suffice for the text, though.
-/

namespace Expression

open Lexer

/-! ## What can be written -/

/-- The trees whose leaves have a spelling: finite numbers without a sign, and
names as the lexer reads them. -/
def Writable : Expression Float -> Prop
  | number value => value.isFinite = true ∧ Binary64.isNegative value = false
  | identifier name => NameShape name.toList
  | negate operand => operand.Writable
  | binary _ left right => left.Writable ∧ right.Writable

theorem writable_of_derives {phrase : Phrase} {tokens : List Token} {tree : Expression Float}
    (derived : Derives phrase tokens tree) (spelled : ∀ token ∈ tokens, Spelled token) :
    tree.Writable := by
  induction derived with
  | single _ inductionHypothesis => exact inductionHypothesis spelled
  | joined _ _ _ _ onFront onBack =>
      exact ⟨onFront fun token member => spelled token (by simp [member]),
        onBack fun token member => spelled token (by simp [member])⟩
  | signed _ _ inductionHypothesis =>
      have inner := inductionHypothesis fun token member => spelled token (by simp [member])
      split
      · exact inner
      · exact inner
  | @number token value kind reads =>
      have spelling := spelled token List.mem_cons_self
      constructor
      · rcases spelling.reads kind with ⟨other, reads', finite⟩
        rw [reads] at reads'
        cases reads'
        exact finite
      · cases spelling with
        | number shape =>
            rcases shape.head with ⟨c, rest, split, digit⟩
            subst split
            exact isNegative_of_readNumber digit reads
        | identifier => cases kind
        | symbol symbol => exact absurd kind (kind_of_ofSymbol? symbol).1
        | negate => cases kind
  | @identifier token kind =>
      have spelling := spelled token List.mem_cons_self
      cases spelling with
      | number => cases kind
      | identifier shape =>
          rw [Writable, String.toList_ofList]
          exact shape
      | symbol symbol => exact absurd kind (kind_of_ofSymbol? symbol).2.1
      | negate => cases kind
  | parenthesized _ _ _ inductionHypothesis =>
      exact inductionHypothesis fun token member => spelled token (by simp [member])

/-- The tree of a text can be written. -/
theorem writable_of_convert {text : String} {tree : Expression Float}
    (converted : convert text = .ok tree) : tree.Writable := by
  rcases convert_eq_ok_iff.mp converted with ⟨tokens, lexer, parsed⟩
  exact writable_of_derives (derives_of_parse (endless_of_tokenize lexer) parsed)
    (spelled_of_tokenize lexer)

theorem spelled_number {value : Float} (finite : value.isFinite = true)
    (positive : Binary64.isNegative value = false) :
    Spelled ⟨.number, NumberStyle.plain.write value⟩ := by
  rcases NumberStyle.write_of_isFinite finite with ⟨whole, fraction, layout, text, _⟩
  rw [positive] at layout
  have shape : NumberShape (NumberStyle.plain.write value).toList := by
    rw [layout]
    cases fraction with
    | nil => simpa [NumberStyle.fractionText] using NumberShape.whole text.some text.whole
    | cons c digits => exact .pointed text.some text.whole text.fraction
  have accepted : isFiniteNumeral (NumberStyle.plain.write value).toList = true := by
    rcases Option.map_eq_some_iff.mp (NumberStyle.readNumber_write value) with
      ⟨numeral, read, same⟩
    rw [isFiniteNumeral, read]
    simpa [same] using finite
  have spelled := Spelled.number shape accepted
  rwa [String.ofList_toList] at spelled

theorem spelled_identifier {name : String} (shape : NameShape name.toList) :
    Spelled ⟨.identifier, name⟩ := by
  have spelled := Spelled.identifier shape
  rwa [String.ofList_toList] at spelled

theorem spelled_binary (op : Operator) : Spelled (.ofKind (.binary op)) := by
  cases op
  · exact .symbol (c := '+') rfl
  · exact .symbol (c := '-') rfl
  · exact .symbol (c := '*') rfl
  · exact .symbol (c := '/') rfl

theorem spelled_toInfix {tree : Expression Float} (writable : tree.Writable) :
    ∀ token ∈ tree.toInfix, Spelled token := by
  have opening : Spelled (.ofKind .opening) := .symbol (c := '(') rfl
  have closing : Spelled (.ofKind .closing) := .symbol (c := ')') rfl
  have within {needed : Bool} {tokens : List Token} (inner : ∀ token ∈ tokens, Spelled token) :
      ∀ token ∈ parenthesizeIf needed tokens, Spelled token := by
    cases needed with
    | false => exact inner
    | true =>
        rw [parenthesizeIf, if_pos rfl, List.cons_append, List.forall_mem_cons,
          List.forall_mem_append]
        exact ⟨opening, inner, by simpa using closing⟩
  induction tree with
  | number value =>
      simpa [toInfix] using spelled_number writable.1 writable.2
  | identifier name =>
      simpa [toInfix] using spelled_identifier writable
  | negate operand inductionHypothesis =>
      rw [toInfix, List.forall_mem_cons]
      exact ⟨.negate, within (inductionHypothesis writable)⟩
  | binary op left right onLeft onRight =>
      rw [toInfix, List.forall_mem_append, List.forall_mem_cons]
      exact ⟨within (onLeft writable.1), spelled_binary op, within (onRight writable.2)⟩

end Expression

/-! ## Its signs -/

namespace Token

/-- Whether the signs in front of every operand are none or a single one. -/
def SingleSigns (behindOperand : Bool) (tokens : List Token) : Prop :=
  ∀ run ∈ signRuns behindOperand tokens, run.length ≤ 1

theorem SingleSigns.cons {behindOperand ends : Bool} {token : Token} {rest : List Token}
    (single : SingleSigns ends rest) (ended : token.kind.endsOperand = ends)
    (alone : behindOperand = true ∨ token.isSign = false) :
    SingleSigns behindOperand (token :: rest) := by
  rw [SingleSigns, signRuns_cons alone, ended, List.forall_mem_cons]
  exact ⟨Nat.zero_le 1, single⟩

theorem SingleSigns.sign {sign : Token} {rest : List Token} (single : SingleSigns false rest)
    (isSign : sign.isSign = true) (unsigned : ∀ token ∈ rest.head?, token.isSign = false) :
    SingleSigns false (sign :: rest) := by
  have run : ∀ other ∈ [sign], other.isSign = true := by simpa using isSign
  rcases signRuns_signs run unsigned with ⟨later, whole, behind⟩
  rw [SingleSigns, behind, List.forall_mem_cons] at single
  rw [SingleSigns, ← List.singleton_append, whole, List.forall_mem_cons]
  exact ⟨Nat.le_refl 1, single.2⟩

theorem SingleSigns.runsFit {tokens : List Token} (single : SingleSigns false tokens)
    (endless : ∀ token ∈ tokens, token.kind ≠ .endOfInput) : RunsFit tokens := by
  rw [RunsFit, takeWhile_ne_endOfInput endless]
  intro run member
  calc
    run.countP isNegating ≤ run.length := List.countP_le_length
    _ ≤ 1 := single run member
    _ < 2 ^ 31 := by decide

end Token

namespace Expression

open Lexer (reread reread_of_kind)

private theorem singleSigns_parenthesizeIf (needed : Bool) {tokens rest : List Token}
    (inside : ∀ rest, Token.SingleSigns true rest ->
      Token.SingleSigns false (tokens.map reread ++ rest))
    (behind : Token.SingleSigns true rest) :
    Token.SingleSigns false ((parenthesizeIf needed tokens).map reread ++ rest) := by
  cases needed with
  | false => exact inside rest behind
  | true =>
      have closed : Token.SingleSigns true (.ofKind .closing :: rest) := behind.cons rfl (.inl rfl)
      have opened : Token.SingleSigns false
          (.ofKind .opening :: (tokens.map reread ++ .ofKind .closing :: rest)) :=
        (inside _ closed).cons rfl (.inr rfl)
      have tokens' : (parenthesizeIf true tokens).map reread ++ rest =
          .ofKind .opening :: (tokens.map reread ++ .ofKind .closing :: rest) := by
        rw [parenthesizeIf, if_pos rfl, List.map_append, List.map_cons]
        simp [reread, Token.ofKind]
      rwa [tokens']

/-- In front of what is negated stands no further sign. -/
private theorem isSign_head_negated (operand : Expression Float) (rest : List Token) :
    ∀ token ∈ ((parenthesizeIf (!operand.isLeaf) operand.toInfix).map reread ++ rest).head?,
      token.isSign = false := by
  intro token first
  cases operand <;> cases first <;> rfl

/-- A tree is written without runs of several signs, if there are none behind
it. -/
theorem singleSigns_toInfix (tree : Expression Float) {rest : List Token}
    (behind : Token.SingleSigns true rest) :
    Token.SingleSigns false (tree.toInfix.map reread ++ rest) := by
  induction tree generalizing rest with
  | number | identifier => exact behind.cons rfl (.inr rfl)
  | negate operand inductionHypothesis =>
      have operands := singleSigns_parenthesizeIf (!operand.isLeaf)
        (fun _ => inductionHypothesis) behind
      exact operands.sign rfl (isSign_head_negated operand rest)
  | binary op left right onLeft onRight =>
      have operands := singleSigns_parenthesizeIf (op.parenthesizesRight right.operator?)
        (fun _ => onRight) behind
      have joined : Token.SingleSigns true
          (.ofKind (.binary op) :: ((parenthesizeIf (op.parenthesizesRight right.operator?)
            right.toInfix).map reread ++ rest)) :=
        operands.cons rfl (.inl rfl)
      have whole := singleSigns_parenthesizeIf (op.parenthesizesLeft left.operator?)
        (fun _ => onLeft) joined
      rw [toInfix, List.map_append, List.map_cons, reread_of_kind (by simp [Token.ofKind]),
        List.append_assoc]
      exact whole

theorem runsFit_infixLine {tree : Expression Float} (writable : tree.Writable) :
    Lexer.RunsFit tree.infixLine := by
  intro tokens lexer
  have lexer' := tokenize_line tree.derives_toInfix (spelled_toInfix writable)
  rw [infixLine, lexer'] at lexer
  cases lexer
  have ended : Token.SingleSigns true [] := by
    simp [Token.SingleSigns, Token.signRuns, Token.placed]
  have single := tree.singleSigns_toInfix ended
  rw [List.append_nil] at single
  exact single.runsFit (Lexer.endless_of_tokenize lexer')

end Expression

/-! ## The regenerated line -/

/-- The line of a text is accepted, and its tree is the regrouped tree of the
text. -/
theorem convert_infixLine {text : String} {tree : Expression Float}
    (converted : convert text = .ok tree) : convert tree.infixLine = .ok tree.regrouped := by
  have writable := Expression.writable_of_convert converted
  exact convert_line tree.derives_toInfix (Expression.spelled_toInfix writable)

/-- The line of a text is accepted and is the line of its own tree, which has
the leaves of the text in their order. -/
theorem infixLine_final {text : String} {tree : Expression Float}
    (converted : convert text = .ok tree) :
    ∃ normal, convert tree.infixLine = .ok normal ∧ normal.infixLine = tree.infixLine ∧
      normal.leaves = tree.leaves := by
  refine ⟨tree.regrouped, convert_infixLine converted, ?_, tree.leaves_regrouped⟩
  rw [Expression.infixLine, tree.toInfix_regrouped]
  rfl

/-- A text whose tree is regrouped twice, with a run of signs and with numbers
that are not written in the shortest way. -/
theorem infixLine_final_regrouped :
    let text := " (0.10)+(x*(y/--+-(2.)) - 00.50)"
    let sum : Expression Float := .binary .subtract
      (.binary .multiply (.identifier "x")
        (.binary .divide (.identifier "y") (.negate (.number 2)))) (.number 0.5)
    let tree : Expression Float := .binary .add (.number 0.1) sum
    convert text = .ok tree ∧ tree.infixLine = "0.1 + x * y / -2 - 0.5" ∧
      ∃ normal, convert tree.infixLine = .ok normal ∧ normal.infixLine = tree.infixLine ∧
        normal.leaves = tree.leaves := by
  intro text sum tree
  have converted : convert text = .ok tree := by decide +kernel
  exact ⟨converted, by decide +kernel, infixLine_final converted⟩

section Calculations

variable {σ : Type} {text : String} {tree : Expression Float}

theorem void_evaluate_regrouped (tree : Expression Float) (resolver : Resolver σ Float) :
    Evaluation.void (tree.regrouped.evaluate resolver) =
      Evaluation.void (tree.evaluate resolver) := by
  rw [Expression.evaluate, Expression.evaluate, Expression.evaluateIn_void,
    Expression.evaluateIn_void, tree.occurrences_regrouped]

/-- The line of a text is accepted and calculated like the regrouped tree of
the text, unless a run of signs in the text is too long to be counted.  Its
calculation fails with the same failure or leaves the same state as that of the
text, and it has the same value where the tree of the text is grouped to the
left already. -/
theorem calculate_infixLine (fit : Lexer.RunsFit text)
    (converted : convertCounting .signed32 text = .ok tree) (strategy : Strategy)
    (resolver : Resolver σ Float) (state : σ) :
    let ofLine := (calculateCounting .words strategy resolver tree.infixLine).run state
    let ofText := (calculateCounting .words strategy resolver text).run state
    convertCounting .signed32 tree.infixLine = .ok tree.regrouped ∧
      ofLine = (tree.regrouped.evaluate resolver).run state ∧
      (∀ failure after, ofLine = (.error failure, after) ↔ ofText = (.error failure, after)) ∧
      (∀ after, (∃ value, ofLine = (.ok value, after)) ↔ ∃ value, ofText = (.ok value, after)) ∧
      (tree.LeftGrouped -> ofLine = ofText) := by
  intro ofLine ofText
  rw [convertCounting_of_runsFit fit] at converted
  have regenerated := convert_infixLine converted
  have fit' := Expression.runsFit_infixLine (Expression.writable_of_convert converted)
  have line : ofLine = (tree.regrouped.evaluate resolver).run state :=
    (congrArg (·.run state) (calculateCounting_of_runsFit fit' strategy)).trans
      (run_calculate_of_convert regenerated strategy resolver state)
  have original : ofText = (tree.evaluate resolver).run state :=
    (congrArg (·.run state) (calculateCounting_of_runsFit fit strategy)).trans
      (run_calculate_of_convert converted strategy resolver state)
  have lookups := void_evaluate_regrouped tree resolver
  rw [line, original, convertCounting_of_runsFit fit']
  refine ⟨regenerated, rfl, ?_, ?_, ?_⟩
  · intro failure after
    exact ⟨Evaluation.run_error_of_void lookups, Evaluation.run_error_of_void lookups.symm⟩
  · intro after
    constructor
    · rintro ⟨value, ends⟩
      exact Evaluation.run_ok_of_void lookups ends
    · rintro ⟨value, ends⟩
      exact Evaluation.run_ok_of_void lookups.symm ends
  · intro grouped
    rw [tree.regrouped_eq_self_iff.mpr grouped]

end Calculations

/-- The line of `x - (y - 2) * -z` needs all its parentheses and has the value
of the text, whichever strategy finds it. -/
theorem calculate_infixLine_nested :
    let text := "x-((y-2)*-z)"
    let tree : Expression Float :=
      .binary .subtract (.identifier "x") (.binary .multiply
        (.binary .subtract (.identifier "y") (.number 2)) (.negate (.identifier "z")))
    let resolver : Resolver Unit Float := Bindings.resolver [("x", 1), ("y", 0.5), ("z", 3)]
    Lexer.RunsFit text ∧ convertCounting .signed32 text = .ok tree ∧
      tree.infixLine = "x - (y - 2) * -z" ∧
      (calculateCounting .words .shuntingYard resolver tree.infixLine).run () =
        (calculateCounting .words .shuntingYard resolver text).run () := by
  intro text tree resolver
  have fit : Lexer.RunsFit text := by decide +kernel
  have converted : convertCounting .signed32 text = .ok tree := by decide +kernel
  have grouped : tree.LeftGrouped := tree.regrouped_eq_self_iff.mp (by decide +kernel)
  exact ⟨fit, converted, by decide +kernel,
    (calculate_infixLine fit converted .shuntingYard resolver ()).2.2.2.2 grouped⟩

/-- The sum `0.1 + (0.2 + 0.3)` loses its parentheses, and with them its
value. -/
theorem infixLine_changes_value :
    let text := "0.1+(0.2+0.3)"
    let tree : Expression Float :=
      .binary .add (.number 0.1) (.binary .add (.number 0.2) (.number 0.3))
    let resolver : Resolver Unit Float := Bindings.resolver []
    convertCounting .signed32 text = .ok tree ∧ tree.infixLine = "0.1 + 0.2 + 0.3" ∧
      ((calculateCounting .words .syntaxTree resolver text).run ()).1 = .ok 0.6 ∧
      ((calculateCounting .words .syntaxTree resolver tree.infixLine).run ()).1 =
        .ok 0.6000000000000001 ∧
      (0.6 : Float) ≠ 0.6000000000000001 := by
  decide +kernel

end Reckoner
