import Reckoner.Proofs.Postfix.Yard
import Reckoner.Proofs.SignCounter

namespace Reckoner

/-!
# Counters of a machine

`SignRun.negates` takes the count of the minus signs of a run first and looks
afterwards at what a word keeps of it.  A machine goes along the run and adds
one for each of them (`SignRun.tally`).  If it goes on with the least number of
the word after the greatest one, this comes to the same
(`SignRun.negates_signed32`, `SignRun.negates_unsigned64`).  If it stops there,
it gets through a run if and only if the word can hold the number of minus
signs in it (`SignCounter.count?_eq`).

The yard counts in a word of 64 bits, for which no run is too long that a
memory can hold.  The descent counts in a signed word of 32 bits.  Memory has
room for runs that are too long for it, and what becomes of them is said
exactly in `CountedInWords`: the machine stops at all of them, or it goes on
and forgets the negation for some.
-/

/-! ## Counting one after the other -/

namespace SignRun

/-- What a run of signs leads to if a step is taken for each minus sign. -/
def tally {Count : Type} (next : Count -> Count) (start : Count) (run : List Token) : Count :=
  run.foldl (fun count sign => if sign.isNegating then next count else count) start

/-- If the steps follow a sequence, as many of them are taken as there are
minus signs. -/
theorem tally_eq {Count : Type} {next : Count -> Count} (sequence : Nat -> Count)
    (follows : ∀ count, next (sequence count) = sequence (count + 1)) (start : Nat)
    (run : List Token) :
    tally next (sequence start) run = sequence (start + run.countP Token.isNegating) := by
  induction run generalizing start with
  | nil => rfl
  | cons sign run inductionHypothesis =>
      have onward : tally next (sequence start) (sign :: run) =
          tally next (if sign.isNegating then next (sequence start) else sequence start) run := rfl
      rw [onward, List.countP_cons]
      cases sign.isNegating with
      | false => exact inductionHypothesis start
      | true =>
          rw [if_pos rfl, if_pos rfl, follows, inductionHypothesis, Nat.add_assoc,
            Nat.add_comm 1]

/-- It makes no difference to a signed word of 32 bits when the count is cut
down to it. -/
theorem negates_signed32 (run : List Token) :
    negates .signed32 run = (tally (· + 1) (0 : Int32) run % 2 == 1) := by
  have counted : tally (· + 1) (0 : Int32) run = Int32.ofNat (0 + run.countP Token.isNegating) :=
    tally_eq Int32.ofNat (fun count => (Int32.ofNat_add count 1).symm) 0 run
  rw [counted, Nat.zero_add]
  rfl

theorem negates_unsigned64 (run : List Token) :
    negates .unsigned64 run = (tally (· + 1) (0 : UInt64) run % 2 == 1) := by
  have counted : tally (· + 1) (0 : UInt64) run = UInt64.ofNat (0 + run.countP Token.isNegating) :=
    tally_eq UInt64.ofNat (fun count => (UInt64.ofNat_add count 1).symm) 0 run
  rw [counted, Nat.zero_add]
  rfl

/-- Whether the minus signs of a run are odd in number, and so many that a
signed word of 32 bits takes the number for a negative one. -/
def OddNegative (run : List Token) : Prop :=
  Odd (run.countP Token.isNegating) ∧ 2 ^ 31 ≤ run.countP Token.isNegating % 2 ^ 32

instance (run : List Token) : Decidable (OddNegative run) :=
  inferInstanceAs (Decidable (_ ∧ _))

end SignRun

/-! ## Overflow -/

namespace SignCounter

def Holds : SignCounter -> Nat -> Prop
  | unbounded, _ => True
  | signed32, count => (Int32.ofNat count).toInt = count
  | unsigned64, count => (UInt64.ofNat count).toNat = count

instance (counter : SignCounter) (count : Nat) : Decidable (counter.Holds count) :=
  match counter with
  | unbounded => inferInstanceAs (Decidable True)
  | signed32 => inferInstanceAs (Decidable ((Int32.ofNat count).toInt = count))
  | unsigned64 => inferInstanceAs (Decidable ((UInt64.ofNat count).toNat = count))

theorem holds_signed32 {count : Nat} : signed32.Holds count ↔ count < 2 ^ 31 := by
  have word : (Int32.ofNat count).toInt = (count : Int).bmod (2 ^ 32) := Int32.toInt_ofNat'
  rw [Holds, word, Int.bmod_def]
  split <;> omega

theorem holds_unsigned64 {count : Nat} : unsigned64.Holds count ↔ count < 2 ^ 64 := by
  have word : (UInt64.ofNat count).toNat = count % 2 ^ 64 := UInt64.toNat_ofNat'
  rw [Holds, word]
  omega

variable {counter : SignCounter}

theorem holds_zero : counter.Holds 0 := by
  cases counter <;> decide

theorem Holds.of_succ {count : Nat} (holds : counter.Holds (count + 1)) : counter.Holds count := by
  cases counter with
  | unbounded => trivial
  | signed32 => exact holds_signed32.mpr (Nat.lt_of_succ_lt (holds_signed32.mp holds))
  | unsigned64 => exact holds_unsigned64.mpr (Nat.lt_of_succ_lt (holds_unsigned64.mp holds))

def next? (counter : SignCounter) (count : Nat) : Option Nat :=
  if counter.Holds (count + 1) then some (count + 1) else none

/-- The minus signs of a run, counted one after the other, unless the counter
overflows. -/
def count? (counter : SignCounter) (run : List Token) : Option Nat :=
  SignRun.tally (·.bind counter.next?) (some 0) run

/-- The count that has been reached, if the counter has not overflowed. -/
private def reached (counter : SignCounter) (count : Nat) : Option Nat :=
  if counter.Holds count then some count else none

private theorem bind_next?_reached (count : Nat) :
    (counter.reached count).bind counter.next? = counter.reached (count + 1) := by
  rw [reached]
  by_cases holds : counter.Holds count
  · rw [if_pos holds]
    rfl
  · rw [if_neg holds, reached, if_neg fun further => holds further.of_succ]
    rfl

/-- A run is counted if the counter can hold the number of its minus signs,
whatever it has to hold on the way. -/
theorem count?_eq (counter : SignCounter) (run : List Token) :
    counter.count? run =
      if counter.Holds (run.countP Token.isNegating) then some (run.countP Token.isNegating)
      else none := by
  have start : some 0 = counter.reached 0 := (if_pos holds_zero).symm
  rw [count?, start, SignRun.tally_eq counter.reached bind_next?_reached, Nat.zero_add, reached]

theorem count?_eq_none {run : List Token} :
    counter.count? run = none ↔ ¬ counter.Holds (run.countP Token.isNegating) := by
  rw [count?_eq]
  split <;> simp [*]

theorem count?_signed32_eq_none {run : List Token} :
    signed32.count? run = none ↔ 2 ^ 31 ≤ run.countP Token.isNegating := by
  rw [count?_eq_none, holds_signed32, Nat.not_lt]

theorem count?_unsigned64 {run : List Token} (short : run.length < 2 ^ 64) :
    unsigned64.count? run = some (run.countP Token.isNegating) := by
  have holds : unsigned64.Holds (run.countP Token.isNegating) :=
    holds_unsigned64.mpr (Nat.lt_of_le_of_lt List.countP_le_length short)
  rw [count?_eq, if_pos holds]

/-- A signed word of 32 bits misses the runs with a count that is odd and
negative. -/
theorem misses_signed32 {run : List Token} :
    signed32.misses run = true ↔ SignRun.OddNegative run := by
  have seen := @seesOdd_signed32 (run.countP Token.isNegating)
  rw [misses, Bool.and_eq_true, SignRun.negates_unbounded_iff, Bool.not_eq_true', Bool.eq_false_iff,
    SignRun.negates, Ne, seen, not_and, Nat.not_lt]
  exact and_congr_right fun odd => ⟨fun large => large odd, fun large _ => large⟩

/-- The two words differ in nothing else. -/
theorem negates_signed32_eq {run : List Token} :
    SignRun.negates .signed32 run = SignRun.negates .unsigned64 run ↔
      ¬ SignRun.OddNegative run := by
  have seen := @seesOdd_signed32 (run.countP Token.isNegating)
  have seen' := @seesOdd_unsigned64 (run.countP Token.isNegating)
  rw [Bool.eq_iff_iff, SignRun.negates, SignRun.negates, seen, seen', and_iff_left_iff_imp,
    SignRun.OddNegative, not_and, Nat.not_le]

end SignCounter

/-! ## A variable behind some signs -/

section

variable {signs : List Token} (signed : ∀ sign ∈ signs, sign.isSign = true) (name : String)
include signed

private theorem operand_signs (counter : SignCounter) :
    ∃ shorter, Descent.operand counter (signs ++ [⟨.identifier, name⟩]) =
      .ok (Descent.negateIf (SignRun.negates counter signs) (.identifier name), ⟨[], shorter⟩) := by
  have unsigned : ∀ token ∈ [Token.mk .identifier name].head?, token.isSign = false := by
    simp [Token.isSign, TokenKind.isSign]
  have leaf : ∃ shorter, Descent.leaf counter (SignRun.behind (signs ++ [⟨.identifier, name⟩])) =
      .ok (.identifier name, ⟨[], shorter⟩) := by
    rw [SignRun.behind_signs unsigned signed, Descent.leaf]
    exact ⟨Nat.zero_lt_one, rfl⟩
  rcases leaf with ⟨shorter, leaf⟩
  rw [Descent.operand, leaf, SignRun.front_signs unsigned signed]
  exact ⟨_, rfl⟩

private theorem chain_signs (counter : SignCounter) (tier : Tier) :
    ∃ shorter, Descent.chain counter tier (signs ++ [⟨.identifier, name⟩]) =
      .ok (Descent.negateIf (SignRun.negates counter signs) (.identifier name), ⟨[], shorter⟩) := by
  have single : ∃ shorter, Descent.chain counter .product (signs ++ [⟨.identifier, name⟩]) =
      .ok (Descent.negateIf (SignRun.negates counter signs) (.identifier name), ⟨[], shorter⟩) := by
    rcases operand_signs signed name counter with ⟨shorter, operand⟩
    rw [Descent.chain, Descent.member, operand]
    simp only [Descent.extend]
    exact ⟨shorter, trivial⟩
  cases tier with
  | product => exact single
  | sum =>
      rcases single with ⟨shorter, single⟩
      rw [Descent.chain, Descent.member, single]
      simp only [Descent.extend]
      exact ⟨shorter, trivial⟩

theorem parseCounting_signs (counter : SignCounter) :
    parseCounting counter (signs ++ [⟨.identifier, name⟩]) =
      .ok (Descent.negateIf (SignRun.negates counter signs) (.identifier name)) := by
  have unended : ∀ token ∈ signs ++ [Token.mk .identifier name],
      (token.kind != .endOfInput) = true := by
    intro token member
    rcases List.mem_append.mp member with sign | value
    · have sign := signed token sign
      rw [Token.isSign] at sign
      cases kind : token.kind <;> simp_all [TokenKind.isSign]
    · rw [List.mem_singleton.mp value]
      rfl
  have chain : ∃ shorter, Descent.chain counter .sum
      ((signs ++ [Token.mk .identifier name]).takeWhile (·.kind != .endOfInput)) =
        .ok (Descent.negateIf (SignRun.negates counter signs) (.identifier name),
          ⟨[], shorter⟩) := by
    rw [List.takeWhile_eq_self_iff.mpr unended]
    exact chain_signs signed name counter .sum
  rcases chain with ⟨shorter, chain⟩
  rw [parseCounting, chain]

theorem toPostfixCounting_signs (counter : SignCounter) :
    toPostfixCounting counter (signs ++ [⟨.identifier, name⟩]) =
      .ok (⟨.identifier, name⟩ ::
        if SignRun.negates counter signs then [.ofKind .negate] else []) := by
  have unsigned : Token.isSign ⟨.identifier, name⟩ = false := rfl
  have converted : toPostfixCounting counter (signs ++ [⟨.identifier, name⟩]) =
      (Yard.run counter .start (signs ++ [⟨.identifier, name⟩])).bind Yard.finish := by
    have nonempty : signs ++ [Token.mk .identifier name] ≠ [] := by simp
    rcases List.exists_cons_of_ne_nil nonempty with ⟨token, rest, tokens⟩
    rw [tokens, toPostfixCounting]
    cases Yard.run counter .start (token :: rest) <;> rfl
  have accepted : Yard.acceptSigns counter .start signs =
      .ok ⟨[], if SignRun.negates counter signs then [.ofKind .negate] else [], true⟩ := by
    rw [Yard.acceptSigns]
    split <;> rfl
  rw [converted, Yard.run_of_signs rfl signed (by simpa using unsigned), accepted, Except.bind,
    Yard.run_cons, if_neg (by simp [unsigned])]
  cases SignRun.negates counter signs with
  | true =>
      simp only [Except.bind, Yard.accept, Yard.run_nil]
      rfl
  | false =>
      simp only [Except.bind, Yard.accept, Yard.run_nil]
      rfl

end

theorem isSign_replicate (count : Nat) :
    ∀ sign ∈ List.replicate count (Token.ofKind (.binary .subtract)), sign.isSign = true := by
  intro sign member
  rw [List.eq_of_mem_replicate member]
  rfl

theorem countP_replicate_minus (count : Nat) :
    (List.replicate count (Token.ofKind (.binary .subtract))).countP Token.isNegating = count := by
  rw [List.countP_replicate]
  rfl

/-- Minus signs in front of a variable are all that is read, as an odd or an
even number of them. -/
theorem parseCounting_minusSigns (counter : SignCounter) (count : Nat) (name : String) :
    parseCounting counter
        (List.replicate count (.ofKind (.binary .subtract)) ++ [⟨.identifier, name⟩]) =
      .ok (Descent.negateIf (counter.seesOdd count) (.identifier name)) := by
  rw [parseCounting_signs (isSign_replicate count), SignRun.negates, countP_replicate_minus]

theorem toPostfixCounting_minusSigns (counter : SignCounter) (count : Nat) (name : String) :
    toPostfixCounting counter
        (List.replicate count (.ofKind (.binary .subtract)) ++ [⟨.identifier, name⟩]) =
      .ok (⟨.identifier, name⟩ ::
        if counter.seesOdd count then [.ofKind .negate] else []) := by
  rw [toPostfixCounting_signs (isSign_replicate count), SignRun.negates, countP_replicate_minus]

/-! ## Expressions -/

namespace Token

/-- Whether a memory can hold some tokens, of which each takes 32 bytes and all
together less than `2 ^ 63`. -/
def FitInMemory (tokens : List Token) : Prop :=
  32 * tokens.length < 2 ^ 63

instance (tokens : List Token) : Decidable (FitInMemory tokens) :=
  inferInstanceAs (Decidable (_ < _))

/-- The number of runs in an expression whose count is odd and negative. -/
def oddNegatives (tokens : List Token) : Nat :=
  (signRuns false (tokens.takeWhile (·.kind != .endOfInput))).countP fun run =>
    SignRun.OddNegative run

/-- Whether a signed word of 32 bits can hold the number of minus signs of
every run in an expression. -/
def RunsFit (tokens : List Token) : Prop :=
  ∀ run ∈ signRuns false (tokens.takeWhile (·.kind != .endOfInput)),
    run.countP isNegating < 2 ^ 31

instance (tokens : List Token) : Decidable (RunsFit tokens) :=
  inferInstanceAs (Decidable (∀ run ∈ _, _))

theorem missed_signed32 (tokens : List Token) :
    SignCounter.signed32.missed false (tokens.takeWhile (·.kind != .endOfInput)) =
      oddNegatives tokens := by
  rw [SignCounter.missed, oddNegatives]
  refine List.countP_congr fun run _ => ?_
  rw [SignCounter.misses_signed32, decide_eq_true_eq]

end Token

/-- What the counters of a machine make of an expression.  The yard has an
unsigned word of 64 bits for its count, the descent a signed word of 32
bits. -/
structure CountedInWords (tokens : List Token) : Prop where
  /-- The yard gets through every run. -/
  yard_counts : ∀ run ∈ Token.signRuns false tokens,
    SignCounter.unsigned64.count? run = some (run.countP Token.isNegating)
  yard_folds : toPostfixCounting .unsigned64 tokens = toPostfix tokens
  /-- The descent gets through a run with less than `2 ^ 31` minus signs, and
  through no other. -/
  descent_overflows : ∀ run ∈ Token.signRuns false tokens,
    SignCounter.signed32.count? run = none ↔ 2 ^ 31 ≤ run.countP Token.isNegating
  /-- The two fold a run alike unless the count of the descent is odd and
  negative. -/
  folded_alike : ∀ run ∈ Token.signRuns false tokens,
    SignRun.negates .signed32 run = SignRun.negates .unsigned64 run ↔ ¬ SignRun.OddNegative run
  /-- Where the descent gets through all runs, it finds what there is to be
  found. -/
  descent_counts : (∀ run ∈ Token.signRuns false (tokens.takeWhile (·.kind != .endOfInput)),
    SignCounter.signed32.count? run ≠ none) -> parseCounting .signed32 tokens = parse tokens
  /-- If it goes on after an overflow, it still fails where it should. -/
  descent_fails : ∀ failure,
    parseCounting .signed32 tokens = .error failure ↔ parse tokens = .error failure
  /-- If it goes on after an overflow, its tree lacks some negations. -/
  descent_folds : ∀ tree, parse tokens = .ok tree ->
    ∃ seen, parseCounting .signed32 tokens = .ok seen ∧
      seen.negations + Token.oddNegatives tokens = tree.negations ∧
      (seen = tree ↔ Token.oddNegatives tokens = 0)

theorem parseCounting_signed32 (tokens : List Token) :
    (∃ failure, parseCounting .signed32 tokens = .error failure ∧ parse tokens = .error failure) ∨
      ∃ seen tree, parseCounting .signed32 tokens = .ok seen ∧ parse tokens = .ok tree ∧
        seen.negations + Token.oddNegatives tokens = tree.negations ∧
        (seen = tree ↔ Token.oddNegatives tokens = 0) := by
  rcases parseCounting_matches .signed32 tokens with
    failed | ⟨seen, tree, read, read', fewer, same⟩
  · exact .inl failed
  · rw [Token.missed_signed32] at fewer same
    refine .inr ⟨seen, tree, read, read', fewer, fun equal => ?_, same⟩
    rw [equal] at fewer
    omega

theorem Token.RunsFit.oddNegatives_eq_zero {tokens : List Token} (fit : RunsFit tokens) :
    oddNegatives tokens = 0 := by
  rw [oddNegatives, List.countP_eq_zero]
  intro run member
  have small := fit run member
  rw [decide_eq_true_eq, SignRun.OddNegative]
  omega

theorem parseCounting_of_runsFit {tokens : List Token} (fit : Token.RunsFit tokens) :
    parseCounting .signed32 tokens = parse tokens := by
  rcases parseCounting_signed32 tokens with
    ⟨failure, failed, failed'⟩ | ⟨seen, tree, read, read', _, same⟩
  · rw [failed, failed']
  · rw [read, read', same.mpr fit.oddNegatives_eq_zero]

/-- A counter makes no difference to whether the descent fails, and with
what. -/
theorem parseCounting_signed32_eq_error_iff {tokens : List Token} {failure : Failure} :
    parseCounting .signed32 tokens = .error failure ↔ parse tokens = .error failure := by
  rcases parseCounting_signed32 tokens with
    ⟨failure', failed, failed'⟩ | ⟨seen, tree, read, read', _⟩
  · rw [failed, failed']
  · simp only [read, read', reduceCtorEq]

/-- A tree that the descent has read is the one that is there to be found, but
for the negations that have been forgotten. -/
theorem exists_parse_of_signed32 {tokens : List Token} {seen : Expression Float}
    (read : parseCounting .signed32 tokens = .ok seen) :
    ∃ tree, parse tokens = .ok tree ∧
      seen.negations + Token.oddNegatives tokens = tree.negations := by
  rcases parseCounting_signed32 tokens with
    ⟨failure, failed, _⟩ | ⟨seen', tree, read', found, account, _⟩
  · rw [failed] at read
    cases read
  · rw [read'] at read
    cases read
    exact ⟨tree, found, account⟩

/-- The minus signs of every run that fits into memory are counted in the yard.
In the descent they are not, and it reads an expression in the same way only if
the runs in which the count becomes negative have an even number of minus
signs. -/
theorem countedInWords {tokens : List Token} (fit : Token.FitInMemory tokens) :
    CountedInWords tokens where
  yard_counts run member := by
    have within := Token.length_le_of_mem_signRuns member
    rw [Token.FitInMemory] at fit
    exact SignCounter.count?_unsigned64 (by omega)
  yard_folds := toPostfixCounting_unsigned64 tokens
  descent_overflows _ _ := SignCounter.count?_signed32_eq_none
  folded_alike _ _ := SignCounter.negates_signed32_eq
  descent_counts counts := by
    refine parseCounting_of_runsFit fun run member => ?_
    have small := mt SignCounter.count?_signed32_eq_none.mpr (counts run member)
    exact Nat.lt_of_not_le small
  descent_fails _ := parseCounting_signed32_eq_error_iff
  descent_folds tree found := by
    rcases parseCounting_signed32 tokens with
      ⟨failure, _, failed⟩ | ⟨seen, tree', read, read', same⟩
    · rw [failed] at found
      cases found
    · rw [read'] at found
      cases found
      exact ⟨seen, read, same⟩

/-- A short run overflows no counter. -/
theorem countedInWords_four :
    let tokens := [.ofKind (.binary .subtract), .ofKind (.binary .add), .ofKind (.binary .subtract),
      .ofKind (.binary .subtract), ⟨.identifier, "x"⟩]
    Token.FitInMemory tokens ∧ CountedInWords tokens ∧
      parseCounting .signed32 tokens = parse tokens := by
  intro tokens
  have fit : Token.FitInMemory tokens := by decide
  exact ⟨fit, countedInWords fit, (countedInWords fit).descent_counts (by decide)⟩

/-- There is room in memory for more minus signs in front of a variable than a
signed word of 32 bits can count.  Their number is odd, and the descent forgets
the negation that the yard finds. -/
theorem signed32_overflows :
    let signs := List.replicate (2 ^ 31 + 1) (Token.ofKind (.binary .subtract))
    let tokens := signs ++ [⟨.identifier, "x"⟩]
    Token.FitInMemory tokens ∧ Odd (signs.countP Token.isNegating) ∧
      SignCounter.signed32.count? signs = none ∧
      parse tokens = .ok (.negate (.identifier "x")) ∧
      toPostfixCounting .unsigned64 tokens = .ok [⟨.identifier, "x"⟩, .ofKind .negate] ∧
      parseCounting .signed32 tokens = .ok (.identifier "x") := by
  intro signs tokens
  have count : signs.countP Token.isNegating = 2 ^ 31 + 1 := countP_replicate_minus _
  refine ⟨?_, ?_, ?_, ?_, ?_, ?_⟩
  · rw [Token.FitInMemory, List.length_append, List.length_replicate]
    decide
  · rw [count]
    decide
  · rw [SignCounter.count?_signed32_eq_none, count]
    decide
  · exact parseCounting_minusSigns .unbounded _ _
  · exact toPostfixCounting_minusSigns .unsigned64 _ _
  · exact parseCounting_minusSigns .signed32 _ _

/-! ## The grammar -/

/-- With a signed word of 32 bits for its count the descent reads the
expressions that the grammar derives, and no others.  Its tree is the one that
is derived if no run is too long for the word.  Otherwise it lacks a negation
for each run whose count is odd and negative. -/
theorem parseCounting_signed32_eq_ok_iff_derives (tokens : List Token) :
    let expression := tokens.takeWhile (·.kind != .endOfInput)
    ((∃ seen, parseCounting .signed32 tokens = .ok seen) ↔
        ∃ tree, Derives (.chain .sum) expression tree) ∧
      (∀ others, {tree | Derives (.chain .sum) others tree}.Subsingleton) ∧
      (Token.RunsFit tokens -> ∀ tree,
        parseCounting .signed32 tokens = .ok tree ↔ Derives (.chain .sum) expression tree) ∧
      ∀ seen tree, parseCounting .signed32 tokens = .ok seen ->
        Derives (.chain .sum) expression tree ->
          seen.negations + Token.oddNegatives tokens = tree.negations := by
  intro expression
  have derives (tree : Expression Float) :
      parse tokens = .ok tree ↔ Derives (.chain .sum) expression tree :=
    (parse_eq_ok_iff_derives tokens tree).1
  refine ⟨?_, fun others => (parse_eq_ok_iff_derives others (.number 0)).2, fun fit tree => ?_,
    fun seen tree found derived => ?_⟩
  · simp only [← derives]
    rcases parseCounting_signed32 tokens with
      ⟨failure, failed, failed'⟩ | ⟨seen, tree, read, read', _⟩
    · simp only [failed, failed']
    · simp only [read, read', Except.ok.injEq, exists_eq']
  · rw [parseCounting_of_runsFit fit, derives]
  · rcases exists_parse_of_signed32 found with ⟨tree', parsed, account⟩
    rw [← derives, parsed] at derived
    cases derived
    exact account

/-- Two minus signs before a parenthesis leave no trace, the end of the
expression and what stands behind it neither. -/
theorem parseCounting_signed32_eq_ok_iff_derives_signs :
    let tokens : List Token :=
      [.ofKind (.binary .subtract), .ofKind .negate, .ofKind .opening, ⟨.identifier, "x"⟩,
        .ofKind .closing, .ofKind .endOfInput, .ofKind .closing]
    Token.RunsFit tokens ∧ parseCounting .signed32 tokens = .ok (.identifier "x") ∧
      Derives (.chain .sum) (tokens.takeWhile (·.kind != .endOfInput)) (.identifier "x") ∧
      Token.oddNegatives tokens = 0 := by
  intro tokens
  have fit : Token.RunsFit tokens := by decide
  have read : parseCounting .signed32 tokens = .ok (.identifier "x") := by decide +kernel
  have result := parseCounting_signed32_eq_ok_iff_derives tokens
  have derived := (result.2.2.1 fit _).mp read
  exact ⟨fit, read, derived, by simpa using result.2.2.2 _ _ read derived⟩

/-- The negation in front of the variable is derived, but not read. -/
theorem derives_unread :
    let tokens : List Token :=
      List.replicate (2 ^ 31 + 1) (.ofKind (.binary .subtract)) ++ [⟨.identifier, "x"⟩]
    Derives (.chain .sum) (tokens.takeWhile (·.kind != .endOfInput))
        (.negate (.identifier "x")) ∧
      parseCounting .signed32 tokens = .ok (.identifier "x") := by
  intro tokens
  have parsed : parse tokens = .ok (.negate (.identifier "x")) :=
    parseCounting_minusSigns .unbounded _ _
  exact ⟨Descent.derives_of_parse parsed, parseCounting_minusSigns .signed32 _ _⟩

end Reckoner
