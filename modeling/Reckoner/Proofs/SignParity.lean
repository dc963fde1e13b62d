import Reckoner.Proofs.CounterWidth
import Reckoner.Proofs.Grammar.Descent
import Reckoner.Proofs.Postfix.Frame
import Reckoner.Proofs.Postfix.Steps

namespace Reckoner

/-!
# Runs of signs matter by their parity

What a run of signs in front of an operand amounts to is a negation or nothing.
This is said here about whole expressions, whether they are read or refused.
`SignRun.settle` goes along some tokens and puts a single negation, or nothing,
in place of each run of signs in front of an operand.  Both the descent and the
yard come to the same on the tokens that are left (`parse_settle`,
`Yard.run_settle`): to the same tree, the same output or the same failure.

Two runs with the same parity can therefore stand for each other wherever an
operand comes next.  It does not matter whether the run goes on with signs that
stand before it or behind it, as the runs that are joined have the same parity
as well.

The runs are counted without bound in all this.  The results are taken over to
machine words at the end (`parity_decides`), as far as the words can hold the
counts.  A run that is too long for the word of the descent is not what its
parity says (`parity_lost`).
-/

namespace SignRun

/-! ## Settling runs of signs -/

/-- A single negation, or none. -/
def negation (negating : Bool) : List Token :=
  if negating then [.ofKind .negate] else []

/-- Tokens with a negation or nothing in place of each run of signs in front of
an operand.  The signs in front of the tokens may belong to a run that has
begun before, and negates or does not. -/
def settle (expectsOperand negating : Bool) : List Token -> List Token
  | [] => negation negating
  | token :: rest =>
      if expectsOperand && token.isSign then settle true (negating ^^ token.isNegating) rest
      else negation negating ++ token :: settle (!token.kind.endsOperand) false rest

theorem settle_sign {token : Token} (sign : token.isSign = true) (negating : Bool)
    (rest : List Token) :
    settle true negating (token :: rest) = settle true (negating ^^ token.isNegating) rest := by
  rw [settle, if_pos (by simpa using sign)]

theorem settle_other {expectsOperand : Bool} {token : Token}
    (alone : (expectsOperand && token.isSign) = false) (negating : Bool) (rest : List Token) :
    settle expectsOperand negating (token :: rest) =
      negation negating ++ token :: settle (!token.kind.endsOperand) false rest := by
  rw [settle, if_neg (by simp [alone])]

/-- Behind the end of an operand the first token always stays. -/
theorem settle_behind (token : Token) (rest : List Token) :
    settle false false (token :: rest) = token :: settle (!token.kind.endsOperand) false rest := by
  rw [settle_other rfl]
  rfl

theorem negates_cons (token : Token) (rest : List Token) :
    negates .unbounded (token :: rest) = (token.isNegating ^^ negates .unbounded rest) := by
  rw [Bool.eq_iff_iff, negates_unbounded_iff, List.countP_cons]
  cases negating : token.isNegating with
  | true => simp [Nat.odd_add_one, ← negates_unbounded_iff]
  | false => simp [← negates_unbounded_iff]

/-- Signs in front of an operand join the run that has begun. -/
theorem settle_signs {signs : List Token} (run : ∀ sign ∈ signs, sign.isSign = true)
    (negating : Bool) (rest : List Token) :
    settle true negating (signs ++ rest) =
      settle true (negating ^^ negates .unbounded signs) rest := by
  induction signs generalizing negating with
  | nil => simp [negates, SignCounter.seesOdd]
  | cons sign signs inductionHypothesis =>
      have later : ∀ other ∈ signs, other.isSign = true :=
        fun other member => run other (List.mem_cons_of_mem sign member)
      rw [List.cons_append, settle_sign (run sign List.mem_cons_self), inductionHypothesis later,
        negates_cons, Bool.xor_assoc]

/-- A run comes to its negation in front of what is left behind it. -/
theorem settle_unsigned {tokens : List Token}
    (unsigned : ∀ token ∈ tokens.head?, token.isSign = false) (negating : Bool) :
    settle true negating tokens = negation negating ++ settle true false tokens := by
  cases tokens with
  | nil => simp [settle, negation]
  | cons token rest =>
      have alone : (true && token.isSign) = false := by simpa using unsigned token rfl
      rw [settle_other alone, settle_other alone]
      rfl

theorem settle_eq (tokens : List Token) :
    settle true false tokens =
      negation (negates .unbounded (front tokens)) ++ settle true false (behind tokens) := by
  rw [← settle_unsigned (head_behind tokens)]
  have run : ∀ sign ∈ front tokens, sign.isSign = true := isSign_of_mem_front
  have whole := settle_signs run false (behind tokens)
  rwa [front_append_behind, Bool.false_xor] at whole

theorem head_settle {tokens : List Token}
    (unsigned : ∀ token ∈ tokens.head?, token.isSign = false) :
    ∀ token ∈ (settle true false tokens).head?, token.isSign = false := by
  cases tokens with
  | nil => simp [settle, negation]
  | cons token rest =>
      have alone : (true && token.isSign) = false := by simpa using unsigned token rfl
      rw [settle_other alone]
      intro other first
      rw [← Option.mem_some.mp first]
      exact unsigned token rfl

theorem isSign_negation (negating : Bool) :
    ∀ sign ∈ negation negating, sign.isSign = true := by
  cases negating <;> decide

theorem negates_negation (negating : Bool) :
    negates .unbounded (negation negating) = negating := by
  cases negating <;> decide

theorem front_settle (tokens : List Token) :
    front (settle true false tokens) = negation (negates .unbounded (front tokens)) := by
  rw [settle_eq]
  exact front_signs (head_settle (head_behind tokens)) (isSign_negation _)

theorem behind_settle (tokens : List Token) :
    behind (settle true false tokens) = settle true false (behind tokens) := by
  rw [settle_eq]
  exact behind_signs (head_settle (head_behind tokens)) (isSign_negation _)

end SignRun

/-! ## The yard -/

namespace Yard

theorem acceptSigns_congr {signs signs' : List Token}
    (same : SignRun.negates .unbounded signs = SignRun.negates .unbounded signs') (yard : Yard) :
    yard.acceptSigns .unbounded signs = yard.acceptSigns .unbounded signs' := by
  rw [acceptSigns, acceptSigns, same]

/-- The yard comes to the same if the runs of signs are settled before. -/
theorem run_settle (yard : Yard) (tokens : List Token) :
    run .unbounded yard (SignRun.settle yard.expectsOperand false tokens) =
      run .unbounded yard tokens := by
  induction tokens using SignRun.induction generalizing yard with
  | nil => rfl
  | cons token rest onRest onBehind =>
      cases alone : yard.expectsOperand && token.isSign with
      | true =>
          rw [Bool.and_eq_true] at alone
          have whole : token :: rest = (token :: SignRun.front rest) ++ SignRun.behind rest := by
            rw [List.cons_append, SignRun.front_append_behind]
          have signs : ∀ sign ∈ token :: SignRun.front rest, sign.isSign = true :=
            List.forall_mem_cons.mpr ⟨alone.2, SignRun.isSign_of_mem_front⟩
          have unsigned := SignRun.head_behind rest
          rw [whole, alone.1, SignRun.settle_signs signs, SignRun.settle_unsigned unsigned,
            run_of_signs alone.1 (SignRun.isSign_negation _) (SignRun.head_settle unsigned),
            run_of_signs alone.1 signs unsigned, Bool.false_xor,
            acceptSigns_congr (SignRun.negates_negation _)]
          cases first : yard.acceptSigns .unbounded (token :: SignRun.front rest) with
          | error failure => rfl
          | ok yard' =>
              have further := onBehind yard'
              rw [expectsOperand_of_acceptSigns alone.1 first] at further
              exact further
      | false =>
          rw [SignRun.settle_other alone, SignRun.negation, if_neg (by simp), List.nil_append,
            run_accept _ alone, run_accept _ alone]
          cases first : yard.accept token with
          | error failure => rfl
          | ok yard' =>
              have further := onRest yard'
              rw [(accept_eq_ok_iff.mp first).expectsOperand_eq] at further
              exact further

theorem conclude_settle (tokens : List Token) :
    conclude start (SignRun.settle true false tokens) = conclude start tokens :=
  congrArg (·.bind finish) (run_settle start tokens)

end Yard

/-! ## The descent -/

namespace Descent

/-- A result with what is left behind the operand settled. -/
def settled (result : Except Failure (Expression Float × List Token)) :
    Except Failure (Expression Float × List Token) :=
  result.map fun found => (found.1, SignRun.settle false false found.2)

theorem enclose_settle (inner : Expression Float) (tokens : List Token) :
    enclose inner (SignRun.settle false false tokens) = settled (enclose inner tokens) := by
  cases tokens with
  | nil => rfl
  | cons token rest =>
      rw [SignRun.settle_behind, enclose, enclose]
      by_cases closes : token.kind = .closing
      · rw [if_pos closes, if_pos closes, closes]
        rfl
      · rw [if_neg closes, if_neg closes]
        rfl

private theorem read_leaf_settle {tokens : List Token}
    (ofChain : ∀ token rest, tokens = token :: rest ->
      read (.chain .sum) (SignRun.settle true false rest) = settled (read (.chain .sum) rest))
    (unsigned : ∀ token ∈ tokens.head?, token.isSign = false) :
    read .leaf (SignRun.settle true false tokens) = settled (read .leaf tokens) := by
  cases tokens with
  | nil =>
      have none : SignRun.settle true false [] = [] := rfl
      rw [none, read_leaf_missing (by simp)]
      rfl
  | cons token rest =>
      have alone : (true && token.isSign) = false := by simpa using unsigned token rfl
      rw [SignRun.settle_other alone, SignRun.negation, if_neg (by simp), List.nil_append]
      cases kind : token.kind with
      | number =>
          rw [read_leaf_number _ kind, read_leaf_number _ kind]
          cases readNumber token.text <;> rfl
      | identifier =>
          rw [read_leaf_identifier _ kind, read_leaf_identifier _ kind]
          rfl
      | opening =>
          rw [read_leaf_opening _ kind, read_leaf_opening _ kind]
          change (read (.chain .sum) (SignRun.settle true false rest)).bind _ = _
          rw [ofChain token rest rfl]
          rcases read (.chain .sum) rest with failure | ⟨inner, rest'⟩
          · rfl
          · exact enclose_settle inner rest'
      | binary | negate | closing | endOfInput =>
          rw [read_leaf_missing (by simp [kind, TokenKind.beginsLeaf]),
            read_leaf_missing (by simp [kind, TokenKind.beginsLeaf])]
          rfl

/-- The descent comes to the same if the runs of signs are settled before.  A
leaf is only looked for behind the signs. -/
theorem read_settle (phrase : Phrase) (tokens : List Token)
    (unsigned : phrase = .leaf -> ∀ token ∈ tokens.head?, token.isSign = false) :
    read phrase (SignRun.settle true false tokens) = settled (read phrase tokens) := by
  refine (induction
    (P := fun phrase tokens =>
      (phrase = .leaf -> ∀ token ∈ tokens.head?, token.isSign = false) ->
        read phrase (SignRun.settle true false tokens) = settled (read phrase tokens))
    (Q := fun tier left tokens =>
      readFurther tier left (SignRun.settle false false tokens) =
        settled (readFurther tier left tokens))
    ?chain ?further ?operand ?leaf).1 phrase tokens unsigned
  case chain =>
      intro tier tokens ofMember ofFurther _
      have member := ofMember (by cases tier <;> simp [Tier.member])
      rw [read_chain, read_chain, member]
      rcases found : read tier.member tokens with failure | ⟨first, rest⟩
      · rfl
      · exact ofFurther first rest found
  case further =>
      intro tier left tokens calls
      cases tokens with
      | nil =>
          have none : SignRun.settle false false [] = [] := rfl
          rw [none, readFurther_nil]
          rfl
      | cons token rest =>
          rw [SignRun.settle_behind]
          by_cases operator : ∃ op, token.kind = .binary op ∧ op.tier = tier
          · rcases operator with ⟨op, kind, same⟩
            rcases calls op token rest rfl kind same with ⟨ofMember, ofFurther⟩
            have member := ofMember (by cases tier <;> simp [Tier.member])
            rw [readFurther_operator _ _ kind same, readFurther_operator _ _ kind same, kind]
            change (read tier.member (SignRun.settle true false rest)).bind _ = _
            rw [member]
            rcases found : read tier.member rest with failure | ⟨right, rest'⟩
            · rfl
            · exact ofFurther right rest' found
          · have other : ∀ op, token.kind = .binary op -> op.tier ≠ tier :=
              fun op kind same => operator ⟨op, kind, same⟩
            rw [readFurther_other _ _ other, readFurther_other _ _ other, settled, Except.map,
              SignRun.settle_behind]
  case operand =>
      intro tokens ofLeaf _
      rw [read_operand, read_operand, SignRun.front_settle, SignRun.behind_settle,
        SignRun.negates_negation, ofLeaf fun _ => SignRun.head_behind tokens]
      cases read .leaf (SignRun.behind tokens) <;> rfl
  case leaf =>
      intro tokens ofChain unsigned
      apply read_leaf_settle _ (unsigned rfl)
      intro token rest split
      exact ofChain token rest split (by simp)

end Descent

/-! ## Whole expressions -/

/-- Settling stops at the end of the expression as the reading does. -/
theorem SignRun.takeWhile_settle (expectsOperand negating : Bool) (tokens : List Token) :
    (settle expectsOperand negating tokens).takeWhile (·.kind != .endOfInput) =
      settle expectsOperand negating (tokens.takeWhile (·.kind != .endOfInput)) := by
  have whole : ∀ negating, ∀ token ∈ negation negating, (token.kind != .endOfInput) = true := by
    decide
  induction tokens generalizing expectsOperand negating with
  | nil => exact List.takeWhile_eq_self_iff.mpr (whole negating)
  | cons token rest inductionHypothesis =>
      by_cases ends : token.kind = .endOfInput
      · have stops (others : List Token) :
            (token :: others).takeWhile (·.kind != .endOfInput) = [] :=
          List.takeWhile_cons_of_neg (by simp [ends])
        have alone : (expectsOperand && token.isSign) = false := by
          simp [Token.isSign, TokenKind.isSign, ends]
        rw [settle_other alone, List.takeWhile_append_of_pos (whole negating), stops, stops,
          List.append_nil, settle]
      · have goesOn (others : List Token) :
            (token :: others).takeWhile (·.kind != .endOfInput) =
              token :: others.takeWhile (·.kind != .endOfInput) :=
          List.takeWhile_cons_of_pos (bne_iff_ne.mpr ends)
        rw [goesOn]
        cases alone : expectsOperand && token.isSign with
        | true =>
            rw [Bool.and_eq_true] at alone
            rw [alone.1, settle_sign alone.2, settle_sign alone.2, inductionHypothesis]
        | false =>
            rw [settle_other alone, settle_other alone,
              List.takeWhile_append_of_pos (whole negating), goesOn, inductionHypothesis]

theorem parse_settle (tokens : List Token) :
    parse (SignRun.settle true false tokens) = parse tokens := by
  rw [Descent.parse_eq_read, Descent.parse_eq_read, SignRun.takeWhile_settle,
    Descent.read_settle _ _ (by simp)]
  rcases Descent.read (.chain .sum) (tokens.takeWhile (·.kind != .endOfInput)) with
    failure | ⟨tree, _ | ⟨token, rest⟩⟩
  · rfl
  · rfl
  · simp only [Descent.settled, Except.map, SignRun.settle_behind]
    rfl

/-- Where an operand comes next, runs of the same parity settle alike. -/
theorem SignRun.settle_exchange {front signs signs' : List Token} {expectsOperand : Bool}
    (run : ∀ sign ∈ signs, sign.isSign = true) (run' : ∀ sign ∈ signs', sign.isSign = true)
    (parity : negates .unbounded signs = negates .unbounded signs')
    (first : front = [] -> expectsOperand = true)
    (operandNext : ∀ last ∈ front.getLast?, last.kind.endsOperand = false)
    (negating : Bool) (back : List Token) :
    settle expectsOperand negating (front ++ signs ++ back) =
      settle expectsOperand negating (front ++ signs' ++ back) := by
  induction front generalizing expectsOperand negating with
  | nil =>
      rw [first rfl, List.nil_append, List.nil_append, settle_signs run, settle_signs run', parity]
  | cons token front inductionHypothesis =>
      have operandNext' : ∀ last ∈ front.getLast?, last.kind.endsOperand = false := by
        intro last member
        exact operandNext last (List.mem_getLast?_cons member)
      simp only [List.cons_append]
      cases alone : expectsOperand && token.isSign with
      | true =>
          rw [Bool.and_eq_true] at alone
          rw [alone.1, settle_sign alone.2, settle_sign alone.2]
          exact inductionHypothesis (fun _ => rfl) operandNext' _
      | false =>
          rw [settle_other alone, settle_other alone, inductionHypothesis ?_ operandNext']
          intro empty
          rw [operandNext token (by simp [empty])]
          rfl

section

variable {front signs signs' back : List Token}
  (operandNext : ∀ last ∈ front.getLast?, last.kind.endsOperand = false)
  (run : ∀ sign ∈ signs, sign.isSign = true) (run' : ∀ sign ∈ signs', sign.isSign = true)
  (parity : Odd (signs.countP Token.isNegating) ↔ Odd (signs'.countP Token.isNegating))
include operandNext run run' parity

theorem settle_of_parity :
    SignRun.settle true false (front ++ signs ++ back) =
      SignRun.settle true false (front ++ signs' ++ back) := by
  have same : SignRun.negates .unbounded signs = SignRun.negates .unbounded signs' := by
    rwa [Bool.eq_iff_iff, SignRun.negates_unbounded_iff, SignRun.negates_unbounded_iff]
  exact SignRun.settle_exchange run run' same (fun _ => rfl) operandNext false back

theorem parse_of_parity : parse (front ++ signs ++ back) = parse (front ++ signs' ++ back) := by
  rw [← parse_settle, settle_of_parity operandNext run run' parity, parse_settle]

end

/-- Two runs of signs of the same parity can stand for each other in front of
an operand, in an expression that is read as well as in one that is refused,
and whatever stands around them.  The yard knows no exception.  The descent
fails alike in any case, and reads the same tree unless a run is too long for
its counter.  Then its trees differ by the negations that it has forgotten. -/
theorem parity_decides {front signs signs' back : List Token}
    (operandNext : ∀ last ∈ front.getLast?, last.kind.endsOperand = false)
    (run : ∀ sign ∈ signs, sign.isSign = true) (run' : ∀ sign ∈ signs', sign.isSign = true)
    (parity : Odd (signs.countP Token.isNegating) ↔ Odd (signs'.countP Token.isNegating)) :
    let tokens := front ++ signs ++ back
    let tokens' := front ++ signs' ++ back
    (Token.RunsFit tokens -> Token.RunsFit tokens' ->
        parseCounting .signed32 tokens = parseCounting .signed32 tokens') ∧
      (tokens ≠ [] -> tokens' ≠ [] ->
        toPostfixCounting .unsigned64 tokens = toPostfixCounting .unsigned64 tokens') ∧
      (∀ failure, parseCounting .signed32 tokens = .error failure ↔
        parseCounting .signed32 tokens' = .error failure) ∧
      ∀ seen seen', parseCounting .signed32 tokens = .ok seen ->
        parseCounting .signed32 tokens' = .ok seen' ->
          seen.negations + Token.oddNegatives tokens =
            seen'.negations + Token.oddNegatives tokens' := by
  intro tokens tokens'
  have settled : SignRun.settle true false tokens = SignRun.settle true false tokens' :=
    settle_of_parity operandNext run run' parity
  have parsed : parse tokens = parse tokens' := parse_of_parity operandNext run run' parity
  refine ⟨fun fit fit' => ?_, fun nonempty nonempty' => ?_, fun failure => ?_,
    fun seen seen' read read' => ?_⟩
  · rw [parseCounting_of_runsFit fit, parseCounting_of_runsFit fit', parsed]
  · rw [toPostfixCounting_unsigned64, toPostfixCounting_unsigned64,
      Yard.toPostfix_eq_conclude nonempty, Yard.toPostfix_eq_conclude nonempty',
      ← Yard.conclude_settle, settled, Yard.conclude_settle]
  · rw [parseCounting_signed32_eq_error_iff, parseCounting_signed32_eq_error_iff, parsed]
  · rcases exists_parse_of_signed32 read with ⟨tree, found, account⟩
    rcases exists_parse_of_signed32 read' with ⟨tree', found', account'⟩
    rw [parsed, found'] at found
    cases found
    rw [account, account']

/-- In `x--+-y` the second minus sign and the plus sign go on with the last
sign behind them, and so does a negation in their place. -/
theorem parity_decides_joined :
    let tokens (signs : List Token) : List Token :=
      [⟨.identifier, "x"⟩, .ofKind (.binary .subtract)] ++ signs ++
        [.ofKind (.binary .subtract), ⟨.identifier, "y"⟩]
    let signs : List Token := [.ofKind (.binary .subtract), .ofKind (.binary .add)]
    parseCounting .signed32 (tokens [.ofKind .negate]) =
        .ok (.binary .subtract (.identifier "x") (.identifier "y")) ∧
      parseCounting .signed32 (tokens signs) =
        parseCounting .signed32 (tokens [.ofKind .negate]) ∧
      toPostfixCounting .unsigned64 (tokens signs) =
        toPostfixCounting .unsigned64 (tokens [.ofKind .negate]) := by
  intro tokens signs
  have result := @parity_decides [⟨.identifier, "x"⟩, .ofKind (.binary .subtract)] signs
    [.ofKind .negate] [.ofKind (.binary .subtract), ⟨.identifier, "y"⟩]
    (by decide) (by decide) (by decide) (by decide)
  exact ⟨by decide +kernel, result.1 (by decide) (by decide), result.2.1 (by simp) (by simp)⟩

/-- A single minus sign cannot stand for as many of them as a signed word of 32
bits takes for a negative number. -/
theorem parity_lost :
    let signs : List Token := List.replicate (2 ^ 31 + 1) (.ofKind (.binary .subtract))
    let signs' : List Token := [.ofKind (.binary .subtract)]
    let back : List Token := [⟨.identifier, "x"⟩]
    (Odd (signs.countP Token.isNegating) ∧ Odd (signs'.countP Token.isNegating)) ∧
      parseCounting .signed32 ([] ++ signs ++ back) = .ok (.identifier "x") ∧
      parseCounting .signed32 ([] ++ signs' ++ back) = .ok (.negate (.identifier "x")) := by
  intro signs signs' back
  have count : signs.countP Token.isNegating = 2 ^ 31 + 1 := countP_replicate_minus _
  refine ⟨⟨?_, by decide⟩, ?_, ?_⟩
  · rw [count]
    decide
  · exact parseCounting_minusSigns .signed32 _ _
  · exact parseCounting_minusSigns .signed32 1 _

end Reckoner
