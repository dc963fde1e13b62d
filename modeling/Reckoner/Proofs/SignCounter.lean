import Reckoner.Proofs.Grammar.Descent
import Reckoner.Proofs.Postfix.Conservation

namespace Reckoner

/-!
# Counters of signs

The minus signs of a run can be counted in a number of any size or in a machine
word.  The counters differ in what they see of a count, which is whether it is
odd.  A word of 64 bits without a sign sees this of every count.  A signed word
of 32 bits takes an odd count for an even one if it is negative in the word,
and no counter errs in the other direction (`SignCounter.odd_of_seesOdd`).

For the descent this means that with a counter it fails where it fails without
a bound, and that a tree that it finds lacks one negation for each run that the
counter takes for an even one (`parseCounting_matches`).  These runs are
counted along the descent, from the tokens before a phrase to those behind it,
since the rest behind a phrase always begins behind the end of an operand.

For the yard its word of 64 bits makes no difference
(`toPostfixCounting_unsigned64`).
-/

namespace SignCounter

variable {counter : SignCounter}

theorem seesOdd_unbounded {count : Nat} : unbounded.seesOdd count = true ↔ Odd count := by
  rw [seesOdd, beq_iff_eq, Nat.odd_iff]

/-- What is lost when the count is too large for the word is even. -/
theorem seesOdd_unsigned64 {count : Nat} : unsigned64.seesOdd count = true ↔ Odd count := by
  rw [seesOdd, beq_iff_eq, Nat.odd_iff, ← UInt64.toNat_inj, UInt64.toNat_mod, UInt64.toNat_ofNat']
  change count % 2 ^ 64 % 2 = 1 ↔ _
  omega

/-- The remainder of an odd count that is negative in the word is minus one. -/
theorem seesOdd_signed32 {count : Nat} :
    signed32.seesOdd count = true ↔ Odd count ∧ count % 2 ^ 32 < 2 ^ 31 := by
  have word : (Int32.ofNat count).toInt = (count : Int).bmod (2 ^ 32) := Int32.toInt_ofNat'
  rw [seesOdd, beq_iff_eq, Nat.odd_iff, ← Int32.toInt_inj, Int32.toInt_mod, word]
  change ((count : Int).bmod (2 ^ 32)).tmod 2 = 1 ↔ _
  rw [Int.bmod_def, Int.tmod_eq_emod]
  split <;> split <;> omega

theorem odd_of_seesOdd {count : Nat} (sees : counter.seesOdd count = true) : Odd count := by
  cases counter with
  | unbounded => exact seesOdd_unbounded.mp sees
  | unsigned64 => exact seesOdd_unsigned64.mp sees
  | signed32 => exact (seesOdd_signed32.mp sees).1

theorem negates_unsigned64_eq (run : List Token) :
    SignRun.negates .unsigned64 run = SignRun.negates .unbounded run := by
  rw [Bool.eq_iff_iff, SignRun.negates, SignRun.negates, seesOdd_unsigned64, seesOdd_unbounded]

/-- A run that negates, for a counter that does not see it. -/
def misses (counter : SignCounter) (run : List Token) : Bool :=
  SignRun.negates .unbounded run && !SignRun.negates counter run

def missed (counter : SignCounter) (behindOperand : Bool) (tokens : List Token) : Nat :=
  (Token.signRuns behindOperand tokens).countP counter.misses

theorem misses_nil (counter : SignCounter) : counter.misses [] = false := by
  cases counter <;> rfl

theorem missed_cons {behindOperand : Bool} {token : Token}
    (alone : behindOperand = true ∨ token.isSign = false) (rest : List Token) :
    counter.missed behindOperand (token :: rest) = counter.missed token.kind.endsOperand rest := by
  rw [missed, Token.signRuns_cons alone, List.countP_cons_of_neg (by simp [misses_nil]), missed]

/-- The run at the front is missed or not, and the others are behind it. -/
theorem missed_eq (tokens : List Token) :
    counter.missed false tokens =
      (if counter.misses (SignRun.front tokens) then 1 else 0) +
        counter.missed false (SignRun.behind tokens) := by
  have whole := SignRun.front_append_behind tokens
  rcases Token.signRuns_signs SignRun.isSign_of_mem_front (SignRun.head_behind tokens) with
    ⟨later, first, behind⟩
  rw [whole] at first
  rw [missed, missed, first, behind, List.countP_cons, List.countP_cons]
  simp [misses_nil, Nat.add_comm]

end SignCounter

/-! ## The descent -/

def Expression.negations {ν : Type} : Expression ν -> Nat
  | number _ | identifier _ => 0
  | negate operand => operand.negations + 1
  | binary _ left right => left.negations + right.negations

namespace Descent

variable {counter : SignCounter}

/-- What is read with a counter, beside what is read without a bound.  The
trees differ by one negation for each run that the counter has missed; so many
are missed among the tokens and their surroundings that some are left to be
missed behind the phrase. -/
inductive Matches (counter : SignCounter) (missed : Nat) {bound : Nat} :
    Parsed bound -> Parsed bound -> Prop where
  | failed (failure : Failure) : Matches counter missed (.error failure) (.error failure)
  | found {seen whole : Expression Float} {rest : { rest : List Token // rest.length < bound }}
      {lost : Nat} (account : missed = lost + counter.missed true rest.1)
      (fewer : seen.negations + lost = whole.negations) (same : lost = 0 -> seen = whole) :
      Matches counter missed (.ok (seen, rest)) (.ok (whole, rest))

/-- How far down in the grammar the members of a chain are asked for. -/
private def rank : Tier -> Nat
  | .sum => 4
  | .product => 2

/-- A run that the counter misses costs the tree one negation. -/
private theorem matches_negateIf {seen whole : Expression Float} {lost : Nat} (run : List Token)
    (fewer : seen.negations + lost = whole.negations) (same : lost = 0 -> seen = whole) :
    (negateIf (SignRun.negates counter run) seen).negations +
        ((if counter.misses run then 1 else 0) + lost) =
          (negateIf (SignRun.negates .unbounded run) whole).negations ∧
      ((if counter.misses run then 1 else 0) + lost = 0 ->
        negateIf (SignRun.negates counter run) seen =
          negateIf (SignRun.negates .unbounded run) whole) := by
  cases odd : SignRun.negates .unbounded run with
  | false =>
      have none : SignRun.negates counter run = false := by
        rw [Bool.eq_false_iff] at odd ⊢
        exact fun sees => odd (SignCounter.seesOdd_unbounded.mpr (SignCounter.odd_of_seesOdd sees))
      have kept : counter.misses run = false := by simp [SignCounter.misses, odd]
      simpa [none, kept, negateIf] using ⟨fewer, same⟩
  | true =>
      cases sees : SignRun.negates counter run with
      | true =>
          have kept : counter.misses run = false := by simp [SignCounter.misses, sees]
          rw [kept]
          refine ⟨?_, fun none => by rw [same (by simpa using none)]⟩
          change seen.negations + 1 + (0 + lost) = whole.negations + 1
          omega
      | false =>
          have misses : counter.misses run = true := by simp [SignCounter.misses, odd, sees]
          rw [misses]
          refine ⟨?_, by simp⟩
          change seen.negations + (1 + lost) = whole.negations + 1
          omega

-- There is one theorem for each function, which calls the others as the function does.
mutual

theorem chain_matches (tokens : List Token) (tier : Tier) :
    Matches counter (counter.missed false tokens) (chain counter tier tokens)
      (chain .unbounded tier tokens) := by
  rw [chain, chain]
  have members := member_matches tokens tier
  generalize member counter tier tokens = seen at members ⊢
  generalize member .unbounded tier tokens = whole at members ⊢
  cases members with
  | failed failure => exact .failed failure
  | @found first first' rest lost account fewer same =>
      have shorter := rest.2
      have further := extend_matches rest.1 tier fewer same
      rw [← account] at further
      simp only
      generalize extend counter tier first rest.1 = seen at further ⊢
      generalize extend .unbounded tier first' rest.1 = whole at further ⊢
      cases further with
      | failed failure => exact .failed failure
      | found account' fewer' same' => exact .found account' fewer' same'
termination_by 6 * tokens.length + rank tier + 1
decreasing_by
  · omega
  · cases tier <;> (simp only [rank]; omega)

theorem member_matches (tokens : List Token) (tier : Tier) :
    Matches counter (counter.missed false tokens) (member counter tier tokens)
      (member .unbounded tier tokens) := by
  cases tier with
  | sum =>
      rw [member, member]
      exact chain_matches tokens .product
  | product =>
      rw [member, member]
      exact operand_matches tokens
termination_by 6 * tokens.length + rank tier
decreasing_by
  · simp only [rank]
    omega
  · simp only [rank]
    omega

theorem extend_matches (tokens : List Token) (tier : Tier) {left left' : Expression Float}
    {lost : Nat} (fewer : left.negations + lost = left'.negations)
    (same : lost = 0 -> left = left') :
    Matches counter (lost + counter.missed true tokens) (extend counter tier left tokens)
      (extend .unbounded tier left' tokens) := by
  cases tokens with
  | nil =>
      rw [extend, extend]
      exact .found rfl fewer same
  | cons token rest =>
      rw [extend, extend]
      cases kind : token.kind with
      | binary op =>
          by_cases forms : op.tier = tier
          · have behind : counter.missed true (token :: rest) = counter.missed false rest := by
              rw [counter.missed_cons (.inl rfl), kind, TokenKind.endsOperand]
            have members := member_matches rest tier
            rw [behind]
            simp only [TokenKind.operator?, if_pos forms]
            generalize member counter tier rest = seen at members ⊢
            generalize member .unbounded tier rest = whole at members ⊢
            cases members with
            | failed failure => exact .failed failure
            | @found right right' rest' lost' account fewer' same' =>
                have shorter := rest'.2
                have joined : (Expression.binary op left right).negations + (lost + lost') =
                    (Expression.binary op left' right').negations := by
                  simp only [Expression.negations]
                  omega
                have alike : lost + lost' = 0 ->
                    Expression.binary op left right = .binary op left' right' := by
                  intro none
                  rw [same (by omega), same' (by omega)]
                have further := extend_matches rest'.1 tier joined alike
                rw [Nat.add_assoc, ← account] at further
                simp only
                generalize extend counter tier (.binary op left right) rest'.1 = seen
                  at further ⊢
                generalize extend .unbounded tier (.binary op left' right') rest'.1 = whole
                  at further ⊢
                cases further with
                | failed failure => exact .failed failure
                | found account' fewer' same' => exact .found account' fewer' same'
          · simp only [TokenKind.operator?, if_neg forms]
            exact .found rfl fewer same
      | number | identifier | negate | opening | closing | endOfInput =>
          exact .found rfl fewer same
termination_by 6 * tokens.length + 5
decreasing_by
  · cases tier <;> (simp only [rank, List.length_cons]; omega)
  · simp only [List.length_cons]
    omega

theorem operand_matches (tokens : List Token) :
    Matches counter (counter.missed false tokens) (operand counter tokens)
      (operand .unbounded tokens) := by
  have behind := SignRun.length_behind_le tokens
  have leaves := leaf_matches (SignRun.behind tokens)
  rw [operand, operand, counter.missed_eq]
  generalize leaf counter (SignRun.behind tokens) = seen at leaves ⊢
  generalize leaf .unbounded (SignRun.behind tokens) = whole at leaves ⊢
  cases leaves with
  | failed failure => exact .failed failure
  | found account fewer same =>
      rcases matches_negateIf (SignRun.front tokens) fewer same with ⟨fewer', same'⟩
      refine .found ?_ fewer' same'
      rw [account, Nat.add_assoc]
termination_by 6 * tokens.length + 1
decreasing_by omega

theorem leaf_matches (tokens : List Token) :
    Matches counter (counter.missed false tokens) (leaf counter tokens)
      (leaf .unbounded tokens) := by
  cases tokens with
  | nil =>
      rw [leaf, leaf]
      exact .failed _
  | cons token rest =>
      have behind (unsigned : token.kind.isSign = false) : counter.missed false (token :: rest) =
          0 + counter.missed token.kind.endsOperand rest := by
        rw [counter.missed_cons (.inr unsigned), Nat.zero_add]
      rw [leaf, leaf]
      cases kind : token.kind with
      | number =>
          rw [kind] at behind
          simp only
          cases readNumber token.text with
          | none => exact .failed _
          | some value => exact .found (behind rfl) rfl fun _ => rfl
      | identifier =>
          rw [kind] at behind
          exact .found (behind rfl) rfl fun _ => rfl
      | opening =>
          have inside := chain_matches rest .sum
          rw [kind] at behind
          rw [behind rfl, Nat.zero_add, TokenKind.endsOperand]
          simp only
          generalize chain counter .sum rest = seen at inside ⊢
          generalize chain .unbounded .sum rest = whole at inside ⊢
          cases inside with
          | failed failure => exact .failed failure
          | @found tree tree' rest' lost account fewer same =>
              rcases rest' with ⟨_ | ⟨closing, rest'⟩, shorter'⟩
              · exact .failed _
              · simp only
                by_cases closes : closing.kind = .closing
                · simp only [if_pos closes]
                  refine .found ?_ fewer same
                  rw [account, counter.missed_cons (.inl rfl), closes, TokenKind.endsOperand]
                · simp only [if_neg closes]
                  exact .failed _
      | binary | negate | closing | endOfInput => exact .failed _
termination_by 6 * tokens.length
decreasing_by
  simp only [rank, List.length_cons]
  omega

end

end Descent

/-- Expressions are read alike up to the runs that the counter misses.  Each of
them costs the tree one negation. -/
theorem parseCounting_matches (counter : SignCounter) (tokens : List Token) :
    (∃ failure, parseCounting counter tokens = .error failure ∧ parse tokens = .error failure) ∨
      ∃ seen whole, parseCounting counter tokens = .ok seen ∧ parse tokens = .ok whole ∧
        seen.negations + counter.missed false (tokens.takeWhile (·.kind != .endOfInput)) =
          whole.negations ∧
        (counter.missed false (tokens.takeWhile (·.kind != .endOfInput)) = 0 -> seen = whole) := by
  have chains : Descent.Matches counter _ _ _ :=
    Descent.chain_matches (tokens.takeWhile (·.kind != .endOfInput)) .sum
  rw [parse, parseCounting, parseCounting]
  generalize Descent.chain counter .sum (tokens.takeWhile (·.kind != .endOfInput)) = seen
    at chains ⊢
  generalize Descent.chain .unbounded .sum (tokens.takeWhile (·.kind != .endOfInput)) = whole
    at chains ⊢
  cases chains with
  | failed failure => exact .inl ⟨failure, rfl, rfl⟩
  | @found seen whole rest lost account fewer same =>
      rcases rest with ⟨_ | ⟨token, rest⟩, shorter⟩
      · -- Behind the last token no run is left to be missed.
        have none : counter.missed true [] = 0 := by
          simp [SignCounter.missed, Token.signRuns, Token.placed, counter.misses_nil]
        rw [none, Nat.add_zero] at account
        rw [account]
        exact .inr ⟨seen, whole, rfl, rfl, fewer, same⟩
      · exact .inl ⟨_, rfl, rfl⟩

/-! ## The yard -/

theorem Yard.run_unsigned64 (yard : Yard) (tokens : List Token) :
    run .unsigned64 yard tokens = run .unbounded yard tokens := by
  induction tokens using SignRun.induction generalizing yard with
  | nil => rw [run_nil, run_nil]
  | cons token rest onRest onBehind =>
      have signs : acceptSigns .unsigned64 yard (token :: SignRun.front rest) =
          acceptSigns .unbounded yard (token :: SignRun.front rest) := by
        rw [acceptSigns, acceptSigns, SignCounter.negates_unsigned64_eq]
      rw [run_cons, run_cons, signs]
      simp only [onRest, onBehind]

/-- An expression is converted as if its signs were counted without a bound. -/
theorem toPostfixCounting_unsigned64 (tokens : List Token) :
    toPostfixCounting .unsigned64 tokens = toPostfix tokens := by
  cases tokens with
  | nil => rfl
  | cons token rest => rw [toPostfix, toPostfixCounting, toPostfixCounting, Yard.run_unsigned64]

end Reckoner
