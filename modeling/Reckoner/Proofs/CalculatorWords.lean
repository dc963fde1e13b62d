import Reckoner.Proofs.Calculator
import Reckoner.Proofs.CounterWidth
import Reckoner.Proofs.Token.Line

namespace Reckoner

/-!
# Calculating with machine words

The calculator is a single definition for all counters of signs.  With machine
words it is the calculator without bounds for every text in which no run of
signs is too long for the smaller one of the words.  Results therefore carry
over to machine words by rewriting.  The yard needs no condition for this.

A text of minus signs in front of a name shows what becomes of a run that is
too long.  It is given here for any number of signs, so that none has to be
written out.
-/

/-- Whether a signed word of 32 bits can hold the number of minus signs of
every run in a text. -/
def Lexer.RunsFit (text : String) : Prop :=
  ∀ tokens, tokenize text = .ok tokens -> Token.RunsFit tokens

instance (text : String) : Decidable (Lexer.RunsFit text) :=
  match lexer : tokenize text with
  | .error _ => isTrue fun _ same => nomatch lexer.symm.trans same
  | .ok tokens => decidable_of_iff (Token.RunsFit tokens)
      ⟨fun fit _ same => Except.ok.inj (lexer.symm.trans same) ▸ fit, fun fit => fit tokens lexer⟩

section

variable {σ : Type} {text : String} {resolver : Resolver σ Float}

theorem calculateCounting_shuntingYard :
    calculateCounting .words .shuntingYard resolver text =
      calculate .shuntingYard resolver text := by
  rw [calculate, calculateCounting, calculateCounting]
  simp only [SignCounters.words, toPostfixCounting_unsigned64]
  rfl

variable (fit : Lexer.RunsFit text)
include fit

theorem convertCounting_of_runsFit : convertCounting .signed32 text = convert text := by
  rw [convert, convertCounting, convertCounting]
  cases lexer : tokenize text with
  | error failure => rfl
  | ok tokens => exact parseCounting_of_runsFit (fit tokens lexer)

theorem calculateCounting_of_runsFit (strategy : Strategy) :
    calculateCounting .words strategy resolver text = calculate strategy resolver text := by
  cases strategy with
  | shuntingYard => exact calculateCounting_shuntingYard
  | syntaxTree =>
      rw [calculate, calculateCounting, calculateCounting]
      cases lexer : tokenize text with
      | error failure => rfl
      | ok tokens =>
          have same : parseCounting SignCounters.words.descent tokens =
              parseCounting SignCounters.unbounded.descent tokens :=
            parseCounting_of_runsFit (fit tokens lexer)
          change (if tokens.isEmpty then (pure 0 : Evaluation σ Float) else
            Evaluation.ofResult (parseCounting SignCounters.words.descent tokens) >>= fun tree =>
              tree.evaluate resolver) = _
          rw [same]
          rfl

theorem crossCheckCounting_of_runsFit :
    crossCheckCounting .words resolver text = crossCheck resolver text := by
  rw [crossCheck, crossCheckCounting, crossCheckCounting, calculateCounting_of_runsFit fit,
    calculateCounting_of_runsFit fit]
  rfl

end

/-! ## Minus signs in front of a name -/

section

variable (count : Nat) {name : String}

theorem line_replicate_negate :
    (Token.line (List.replicate count (.ofKind .negate))).toList = List.replicate count '-' := by
  induction count with
  | zero => rfl
  | succ count inductionHypothesis =>
      have first : (Token.line [.ofKind .negate]).toList = ['-'] := by decide
      rw [List.replicate_succ, ← List.singleton_append, Lexer.line_append, inductionHypothesis,
        first]
      rfl

variable (shape : Lexer.NameShape name.toList)
include shape

theorem tokenize_minusSigns :
    tokenize (String.ofList (List.replicate count '-' ++ name.toList)) =
      .ok (List.replicate count (.ofKind (.binary .subtract)) ++ [⟨.identifier, name⟩]) := by
  have identifier : Lexer.Spelled ⟨.identifier, name⟩ := by
    have spelled := Lexer.Spelled.identifier shape
    rwa [String.ofList_toList] at spelled
  have signed : ∀ sign ∈ List.replicate count (Token.ofKind .negate), sign.isSign = true := by
    intro sign member
    rw [List.eq_of_mem_replicate member]
    rfl
  have spelled : ∀ token ∈ List.replicate count (Token.ofKind .negate) ++ [⟨.identifier, name⟩],
      Lexer.Spelled token := by
    intro token member
    rcases List.mem_append.mp member with sign | value
    · rw [List.eq_of_mem_replicate sign]
      exact .negate
    · rw [List.mem_singleton.mp value]
      exact identifier
  have derived : Derives (.chain .sum)
      (List.replicate count (Token.ofKind .negate) ++ [⟨.identifier, name⟩]) _ :=
    .single (.single (.signed signed (.identifier rfl)))
  have line : Token.line (List.replicate count (.ofKind .negate) ++ [⟨.identifier, name⟩]) =
      String.ofList (List.replicate count '-' ++ name.toList) := by
    rw [← String.toList_inj, Lexer.line_append, line_replicate_negate, String.toList_ofList,
      Lexer.line_other identifier (by simp)]
  rw [← line, tokenize_line derived spelled, List.map_append, List.map_replicate]
  rfl

/-- The descent reads the name with a negation or without one, as the count is
seen. -/
theorem run_syntaxTree_minusSigns {σ : Type} (counters : SignCounters)
    (resolver : Resolver σ Float) (state : σ) :
    (calculateCounting counters .syntaxTree resolver
        (String.ofList (List.replicate count '-' ++ name.toList))).run state =
      ((Descent.negateIf (counters.descent.seesOdd count) (.identifier name)).evaluate
        resolver).run state := by
  rw [run_calculateCounting_syntaxTree counters resolver state (tokenize_minusSigns count shape)
    (by simp), parseCounting_minusSigns]

theorem run_shuntingYard_minusSigns {σ : Type} (counters : SignCounters)
    (resolver : Resolver σ Float) (state : σ) :
    (calculateCounting counters .shuntingYard resolver
        (String.ofList (List.replicate count '-' ++ name.toList))).run state =
      (Postfix.evaluate resolver (⟨.identifier, name⟩ ::
        if counters.yard.seesOdd count then [.ofKind .negate] else [])).run state := by
  rw [run_calculateCounting_shuntingYard counters resolver state
    (tokenize_minusSigns count shape) (by simp), toPostfixCounting_minusSigns]

/-- Where the descent does not see that the count is odd, a name that is one
has two values. -/
theorem run_minusSigns_apart (unseen : SignCounter.signed32.seesOdd count = false)
    (seen : SignCounter.unsigned64.seesOdd count = true) :
    let text := String.ofList (List.replicate count '-' ++ name.toList)
    let resolver : Resolver Unit Float := fun _ => pure 1
    (calculateCounting .words .syntaxTree resolver text).run () = (.ok 1, ()) ∧
      (calculateCounting .words .shuntingYard resolver text).run () = (.ok (-1), ()) := by
  intro text resolver
  constructor
  · rw [run_syntaxTree_minusSigns count shape .words resolver ()]
    simp only [SignCounters.words, unseen]
    rfl
  · rw [run_shuntingYard_minusSigns count shape .words resolver ()]
    simp only [SignCounters.words, seen]
    rfl

end

theorem seesOdd_overflow :
    SignCounter.signed32.seesOdd (2 ^ 31 + 1) = false ∧
      SignCounter.unsigned64.seesOdd (2 ^ 31 + 1) = true := by
  decide +kernel

end Reckoner
