import Reckoner.Proofs.Postfix.Refusal
import Reckoner.Proofs.Regeneration

namespace Reckoner

/-!
# What a calculation can fail with

Every stage of a calculation has failures for input that cannot reach it from a
text.  The descent and the yard refuse numbers without a value, the stacks can
run out of operands, and several functions refuse tokens that have no place
there.  Behind the lexer and the conversion none of this happens.  What is left
are a character or a number that the lexer refuses, tokens in an order that the
grammar does not have, and names without values (`calculate_reports`).

That tokens are refused for their order means that their texts have no part in
it: tokens of the same kinds are refused whatever their texts are
(`RefusedForKinds`).  The numbers that come to an evaluation are all finite and
have no sign.
-/

variable {σ : Type}

/-- The failures that a calculation of a text can end in.  Of the two failures
that speak of parentheses each strategy has its own. -/
def Strategy.reports : Strategy -> Failure -> Bool
  | _, .unknownSymbol .. | _, .invalidNumber _ | _, .unexpectedToken _
  | _, .unknownVariable _ => true
  | .shuntingYard, .mismatchedParenthesis | .syntaxTree, .missingCloseParenthesis => true
  | _, _ => false

/-! ## Refusal for the kinds of tokens -/

/-- Tokens that are refused, by both ways to a tree, with whatever texts they
have. -/
def RefusedForKinds (tokens : List Token) : Prop :=
  ∀ others : List Token, others.map (·.kind) = tokens.map (·.kind) ->
    (∃ failure, parse others = .error failure) ∧ ∃ failure, toPostfix others = .error failure

theorem Place.walk_of_kinds (place : Place) {tokens others : List Token}
    (same : others.map (·.kind) = tokens.map (·.kind)) :
    (place.walk others).1 = (place.walk tokens).1 ∧
      (place.walk others).2.map (·.kind) = (place.walk tokens).2.map (·.kind) := by
  induction tokens generalizing place others with
  | nil =>
      rw [List.map_eq_nil_iff.mp same]
      exact ⟨rfl, rfl⟩
  | cons token rest inductionHypothesis =>
      rcases others with _ | ⟨other, rest'⟩
      · cases same
      · rw [List.map_cons, List.map_cons, List.cons.injEq] at same
        rw [walk, walk, same.1]
        cases place.step? token.kind with
        | none => simp [same]
        | some next => exact inductionHypothesis next same.2

section

variable {tokens : List Token} (endless : ∀ token ∈ tokens, token.kind ≠ .endOfInput)
  (readable : Readable tokens) {failure : Failure} (failed : parse tokens = .error failure)
include endless readable failed

/-- Tokens with readable numbers that have no tree are refused for their kinds,
because a walk along them stops early or at a place where an expression may not
end. -/
theorem refusedForKinds_of_parse (nonempty : tokens ≠ []) : RefusedForKinds tokens := by
  intro others same
  rcases walk_of_parse_error endless readable failed with ⟨stop, suspect, walked, unfinished, _⟩
  -- The other tokens lead to the same place, with as many tokens left.
  rcases walked' : Place.start.walk others with ⟨stop', suspect'⟩
  have kinds := Place.walk_of_kinds .start same
  rw [walked, walked'] at kinds
  rcases kinds with ⟨rfl, kinds⟩
  have unfinished' : (stop', suspect') ≠ (.finished, []) := by
    intro finished
    cases finished
    rw [List.map_nil, eq_comm, List.map_eq_nil_iff] at kinds
    exact unfinished (Prod.ext rfl kinds)
  have nonempty' : others ≠ [] := by
    rintro rfl
    exact nonempty (List.map_eq_nil_iff.mp same.symm)
  constructor
  · cases parsed : parse others with
    | error other => exact ⟨other, rfl⟩
    | ok tree =>
        have endless' : ∀ token ∈ others, token.kind ≠ .endOfInput := by
          intro token member
          have kind := List.mem_map_of_mem (f := (·.kind)) member
          rw [same] at kind
          rcases List.mem_map.mp kind with ⟨first, among, eq⟩
          exact eq ▸ endless first among
        have through := walk_of_parse endless' parsed
        rw [walked'] at through
        exact absurd through unfinished'
  · exact ⟨_, toPostfix_error_of_walk nonempty' walked' unfinished'⟩

/-- What the descent reports of tokens with readable numbers. -/
theorem reports_of_parse : Strategy.syntaxTree.reports failure = true := by
  rcases walk_of_parse_error endless readable failed with ⟨stop, suspect, _, _, rfl⟩
  rw [Place.descentFailure]
  split <;> rfl

/-- What the yard reports of such tokens. -/
theorem reports_of_toPostfix (nonempty : tokens ≠ []) :
    ∃ other, toPostfix tokens = .error other ∧ Strategy.shuntingYard.reports other = true := by
  rcases walk_of_parse_error endless readable failed with ⟨stop, suspect, walked, unfinished, _⟩
  refine ⟨_, toPostfix_error_of_walk nonempty walked unfinished, ?_⟩
  have among : suspect <:+ tokens := by
    rcases Place.walk_eq_iff.mp walked with ⟨front, rfl, _, _⟩
    exact List.suffix_append front suspect
  rw [Place.yardFailure_eq fun token member => endless token (among.subset member)]
  split <;> rfl

end

/-! ## The numbers of a text -/

/-- A number token that has a finite value without a sign. -/
def Token.IsPlainNumber (token : Token) : Prop :=
  ∃ value, readNumber token.text = some value ∧ value.isFinite = true ∧
    Binary64.isNegative value = false

theorem Expression.Writable.of_leaf {tree : Expression Float} (writable : tree.Writable)
    {value : Float} (leaf : .number value ∈ tree.leaves) :
    value.isFinite = true ∧ Binary64.isNegative value = false := by
  induction tree with
  | number other =>
      cases List.mem_singleton.mp leaf
      exact writable
  | identifier name => cases List.mem_singleton.mp leaf
  | negate operand inductionHypothesis => exact inductionHypothesis writable leaf
  | binary op left right onLeft onRight =>
      rcases List.mem_append.mp leaf with front | back
      · exact onLeft writable.1 front
      · exact onRight writable.2 back

theorem Postfix.Lists.leaf_of_number {tokens : List Token} {tree : Expression Float}
    (lists : Lists tokens tree) {token : Token} (member : token ∈ tokens)
    (kind : token.kind = .number) :
    ∃ value, readNumber token.text = some value ∧ .number value ∈ tree.leaves := by
  induction lists with
  | @number _ value _ reads =>
      cases List.mem_singleton.mp member
      exact ⟨value, reads, List.mem_singleton_self _⟩
  | identifier kind' =>
      cases List.mem_singleton.mp member
      cases kind.symm.trans kind'
  | negate _ kind' inductionHypothesis =>
      rcases List.mem_append.mp member with inner | last
      · exact inductionHypothesis inner
      · cases List.mem_singleton.mp last
        cases kind.symm.trans kind'
  | binary _ _ kind' onFront onBack =>
      rcases List.mem_append.mp member with inner | last
      · rcases List.mem_append.mp inner with front | back
        · rcases onFront front with ⟨value, reads, leaf⟩
          exact ⟨value, reads, List.mem_append_left _ leaf⟩
        · rcases onBack back with ⟨value, reads, leaf⟩
          exact ⟨value, reads, List.mem_append_right _ leaf⟩
      · cases List.mem_singleton.mp last
        cases kind.symm.trans kind'

section

variable {text : String} {tokens : List Token} (lexer : tokenize text = .ok tokens)
include lexer

theorem readable_of_tokenize : Readable tokens := by
  intro token member kind
  rcases (Lexer.spelled_of_tokenize lexer token member).reads kind with ⟨value, reads, _⟩
  rw [reads]
  rfl

/-- The numbers at the leaves of a tree, as an evaluation of the tree meets
them. -/
theorem finite_of_parse {tree : Expression Float} (parsed : parse tokens = .ok tree)
    {value : Float} (leaf : .number value ∈ tree.leaves) :
    value.isFinite = true ∧ Binary64.isNegative value = false := by
  have converted := convert_eq_ok_iff.mpr ⟨tokens, lexer, parsed⟩
  exact (Expression.writable_of_convert converted).of_leaf leaf

/-- The numbers in postfix order, as an evaluation on a stack meets them. -/
theorem isPlainNumber_of_toPostfix {ordered : List Token}
    (converted : toPostfix tokens = .ok ordered) {token : Token} (member : token ∈ ordered)
    (kind : token.kind = .number) :
    token.IsPlainNumber := by
  by_cases empty : tokens = []
  · subst empty
    cases converted
    cases member
  · cases parsed : parse tokens with
    | error failure =>
        rcases reports_of_toPostfix (Lexer.endless_of_tokenize lexer) (readable_of_tokenize lexer)
          parsed empty with ⟨other, failed, _⟩
        cases converted.symm.trans failed
    | ok tree =>
        have derived := derives_of_parse (Lexer.endless_of_tokenize lexer) parsed
        rcases toPostfix_of_derives derived with ⟨listing, same, lists⟩
        cases converted.symm.trans same
        rcases lists.leaf_of_number member kind with ⟨value, reads, leaf⟩
        exact ⟨value, reads, finite_of_parse lexer parsed leaf⟩

end

/-! ## The failures of a calculation -/

/-- A calculation fails with the lexer, with tokens that are refused for their
kinds, or with an answer of the resolver. -/
theorem cause_of_calculate {strategy : Strategy} {resolver : Resolver σ Float} {text : String}
    {state after : σ} {failure : Failure}
    (ends : strategy.Ends resolver text state (.error failure) after) :
    tokenize text = .error failure ∨
      (∃ tokens, tokenize text = .ok tokens ∧ RefusedForKinds tokens ∧
        strategy.reports failure = true) ∨
      ∃ name before, (resolver name).run before = (.error failure, after) := by
  rw [Strategy.Ends] at ends
  cases lexer : tokenize text with
  | error refusal =>
      rw [run_calculate_of_lexical strategy resolver state lexer] at ends
      cases ends
      exact .inl rfl
  | ok tokens =>
      by_cases empty : tokens = []
      · subst empty
        rw [run_calculate_of_blank strategy resolver state lexer] at ends
        cases ends
      · cases parsed : parse tokens with
        | ok tree =>
            rw [run_calculate_of_parse lexer parsed] at ends
            rcases Expression.answer_of_evaluateIn ends with ⟨name, _, before, answer⟩
            exact .inr (.inr ⟨name, before, answer⟩)
        | error refusal =>
            have endless := Lexer.endless_of_tokenize lexer
            have readable := readable_of_tokenize lexer
            refine .inr (.inl ⟨tokens, rfl,
              refusedForKinds_of_parse endless readable parsed empty, ?_⟩)
            cases strategy with
            | syntaxTree =>
                rw [run_calculate_syntaxTree resolver state lexer empty, parsed] at ends
                cases ends
                exact reports_of_parse endless readable parsed
            | shuntingYard =>
                rcases reports_of_toPostfix endless readable parsed empty with
                  ⟨other, failed, reports⟩
                rw [run_calculate_shuntingYard resolver state lexer empty, failed] at ends
                cases ends
                exact reports

/-- With a resolver that only ever fails for unknown names, a calculation fails
with an unknown symbol, an invalid number, an unknown name, or for the kinds of
its tokens, and of the failures of parentheses each strategy has only its own.
An unexpected token is refused for its kind.  All numbers that an evaluation
meets are finite and have no sign. -/
theorem calculate_reports {resolver : Resolver σ Float}
    (answers : ∀ name before failure after,
      (resolver name).run before = (.error failure, after) ->
        ∃ unknown, failure = .unknownVariable unknown)
    (text : String) (state : σ) :
    (∀ (strategy : Strategy) (failure : Failure) (after : σ),
      strategy.Ends resolver text state (.error failure) after ->
        strategy.reports failure = true ∧
        ∀ shown, failure = .unexpectedToken shown ->
          ∃ tokens, tokenize text = .ok tokens ∧ RefusedForKinds tokens) ∧
      ∀ tokens, tokenize text = .ok tokens ->
        (∀ tree, parse tokens = .ok tree -> ∀ value, .number value ∈ tree.leaves ->
          value.isFinite = true ∧ Binary64.isNegative value = false) ∧
        ∀ ordered, toPostfix tokens = .ok ordered -> ∀ token ∈ ordered, token.kind = .number ->
          token.IsPlainNumber := by
  constructor
  · intro strategy failure after ends
    rcases cause_of_calculate ends with refused | ⟨tokens, lexer, refused, reports⟩ |
      ⟨name, before, answer⟩
    · rcases Lexer.offence_of_tokenize refused with ⟨_, _, _, _, offence⟩
      cases offence.offends with
      | symbol | point | overflow => exact ⟨rfl, nofun⟩
    · exact ⟨reports, fun _ _ => ⟨tokens, lexer, refused⟩⟩
    · rcases answers name before failure after answer with ⟨unknown, rfl⟩
      exact ⟨rfl, nofun⟩
  · intro tokens lexer
    exact ⟨fun tree parsed value leaf => finite_of_parse lexer parsed leaf,
      fun ordered converted token member kind =>
        isPlainNumber_of_toPostfix lexer converted member kind⟩

/-- Bindings fail for unknown names only.  The last number of
`2.50 * (x - 3) 4` is refused by both strategies although it can be read, and
any other text in its place would be. -/
theorem calculate_reports_surplus :
    let resolver : Resolver Unit Float := Bindings.resolver [("x", 1)]
    let text := "2.50 * (x - 3) 4"
    (∀ name before failure after, (resolver name).run before = (.error failure, after) ->
      ∃ unknown, failure = .unknownVariable unknown) ∧
      ∀ strategy : Strategy,
        strategy.Ends resolver text () (.error (.unexpectedToken "4")) () ∧
        ∃ tokens, tokenize text = .ok tokens ∧ RefusedForKinds tokens := by
  intro resolver text
  have answers : ∀ name before failure after,
      (resolver name).run before = (.error failure, after) ->
        ∃ unknown, failure = .unknownVariable unknown := by
    intro name before failure after answer
    simp only [resolver, Bindings.resolver, Resolver.ofFunction] at answer
    split at answer
    · cases answer
    · cases answer
      exact ⟨name, rfl⟩
  refine ⟨answers, fun strategy => ?_⟩
  have ends : strategy.Ends resolver text () (.error (.unexpectedToken "4")) () := by
    cases strategy <;> exact Prod.ext (by decide +kernel) rfl
  exact ⟨ends, ((calculate_reports answers text ()).1 strategy _ _ ends).2 "4" rfl⟩

end Reckoner
