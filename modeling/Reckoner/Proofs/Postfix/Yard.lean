import Reckoner.Postfix.Yard
import Reckoner.Proofs.Grammar
import Reckoner.Proofs.Postfix.Listing

namespace Reckoner
namespace Yard

/-!
# The yard and the grammar

A phrase that begins where an operand is expected leaves two traces in the
yard.  What is put out grows by a part of the listing of its tree, and the
operators at its surface wait on the siding.  `run_of_derives` says that the
two together make up the listing: releasing the operators that the phrase has
left behind completes it.

This works for a phrase in any surroundings because of two conditions on
precedences.  The operators that a phrase leaves behind bind at least as
tightly as its level, so the operator that comes next in the chain around it
releases them all.  The operators that were waiting before the phrase bind less
tightly than its level (`Clear`), so nothing in the phrase releases them.

Where no phrase can be read the yard comes to a state that refuses what
follows.  `run_of_stuck` names this state for each of the ways in which the
grammar can be stuck.
-/

/-- An operator on the siding that binds at least as tightly as a level. -/
def BindsAtLeast (level : Nat) (token : Token) : Prop :=
  ∃ precedence, stackedPrecedence token = .ok precedence ∧ level ≤ precedence

/-- A siding whose top is out of reach for the operators of a level. -/
def Clear (level : Nat) (operators : List Token) : Prop :=
  ∀ top ∈ operators.head?, top.kind = .opening ∨
    ∃ precedence, stackedPrecedence top = .ok precedence ∧ precedence < level

theorem BindsAtLeast.mono {level lower : Nat} {token : Token}
    (binds : BindsAtLeast level token) (le : lower ≤ level) : BindsAtLeast lower token := by
  rcases binds with ⟨precedence, found, bound⟩
  exact ⟨precedence, found, Nat.le_trans le bound⟩

theorem Clear.mono {level higher : Nat} {operators : List Token}
    (clear : Clear level operators) (le : level ≤ higher) : Clear higher operators := by
  intro top first
  rcases clear top first with opening | ⟨precedence, found, bound⟩
  · exact .inl opening
  · exact .inr ⟨precedence, found, Nat.lt_of_lt_of_le bound le⟩

theorem clear_nil (level : Nat) : Clear level [] := by
  simp [Clear]

theorem clear_opening {opening : Token} (kind : opening.kind = .opening) (level : Nat)
    (operators : List Token) : Clear level (opening :: operators) := by
  intro top first
  rw [← Option.mem_some.mp first]
  exact .inl kind

theorem stackedPrecedence_binary {token : Token} {op : Operator}
    (kind : token.kind = .binary op) : stackedPrecedence token = .ok op.precedence := by
  rw [stackedPrecedence, kind]

theorem stackedPrecedence_negate {token : Token} (kind : token.kind = .negate) :
    stackedPrecedence token = .ok Operator.negationPrecedence := by
  rw [stackedPrecedence, kind]

/-- Behind an operator of a chain no member of the chain releases it. -/
theorem clear_operator {tier : Tier} {op : Operator} {token : Token}
    (kind : token.kind = .binary op) (same : op.tier = tier) (operators : List Token) :
    Clear tier.member.level (token :: operators) := by
  intro top first
  rw [← Option.mem_some.mp first]
  refine .inr ⟨_, stackedPrecedence_binary kind, ?_⟩
  rw [tier.level_member, Operator.precedence_eq_level same]
  exact Nat.lt_succ_self _

theorem clear_negate (operators : List Token) :
    Clear Phrase.leaf.level (.ofKind .negate :: operators) := by
  intro top first
  rw [← Option.mem_some.mp first]
  exact .inr ⟨_, stackedPrecedence_negate rfl, Nat.lt_succ_self _⟩

theorem BindsAtLeast.kind_ne {level : Nat} {token : Token} (binds : BindsAtLeast level token) :
    token.kind ≠ .opening ∧ token.kind ≠ .closing := by
  rcases binds with ⟨precedence, found, _⟩
  rw [stackedPrecedence] at found
  constructor
  · intro kind
    simp [kind] at found
  · intro kind
    simp [kind] at found

/-! ## Releasing what a phrase has left behind -/

/-- Nothing is released from a siding that is out of reach. -/
theorem release_stops {precedence : Nat} (associativity : Associativity)
    {operators : List Token} (output : List Token) (clear : Clear precedence operators) :
    release precedence associativity operators output = .ok (operators, output) := by
  cases operators with
  | nil => rfl
  | cons top below =>
      rw [release]
      rcases clear top rfl with opening | ⟨other, found, bound⟩
      · rw [if_pos opening]
      · by_cases opening : top.kind = .opening
        · rw [if_pos opening]
        · have neither : ¬ (other > precedence ∨ other = precedence ∧ associativity = .left) := by
            omega
          simp only [if_neg opening, found]
          rw [if_neg (by simpa using neither)]

/-- An operator that groups to the left releases exactly the operators of the
phrase before it. -/
theorem release_pending {level : Nat} {pending operators : List Token} (output : List Token)
    (binds : ∀ top ∈ pending, BindsAtLeast level top) (clear : Clear level operators) :
    release level .left (pending ++ operators) output =
      .ok (operators, pending.reverse ++ output) := by
  induction pending generalizing output with
  | nil => exact release_stops .left output clear
  | cons top below inductionHypothesis =>
      have first := binds top List.mem_cons_self
      have later : ∀ other ∈ below, BindsAtLeast level other := by
        intro other member
        exact binds other (List.mem_cons_of_mem top member)
      rcases first with ⟨precedence, found, bound⟩
      have tight : precedence > level ∨ precedence = level := by omega
      rw [List.cons_append, release, if_neg (binds top List.mem_cons_self).kind_ne.1]
      simp only [found]
      rw [if_pos (by simpa using tight), inductionHypothesis (top :: output) later]
      simp

theorem releaseToOpening_above {operators : List Token}
    (closed : ∀ top ∈ operators, top.kind ≠ .opening) {opening : Token}
    (opens : opening.kind = .opening) (below output : List Token) :
    releaseToOpening (operators ++ opening :: below) output =
      .ok (below, operators.reverse ++ output) := by
  induction operators generalizing output with
  | nil =>
      rw [List.nil_append, releaseToOpening, if_pos opens]
      rfl
  | cons top operators inductionHypothesis =>
      rw [List.cons_append, releaseToOpening, if_neg (closed top List.mem_cons_self),
        inductionHypothesis fun other member => closed other (List.mem_cons_of_mem top member)]
      simp

/-- A closing parenthesis releases the operators of the phrase before it. -/
theorem releaseToOpening_pending {level : Nat} {pending operators : List Token}
    {opening : Token} (output : List Token)
    (binds : ∀ top ∈ pending, BindsAtLeast level top) (kind : opening.kind = .opening) :
    releaseToOpening (pending ++ opening :: operators) output =
      .ok (operators, pending.reverse ++ output) :=
  releaseToOpening_above (fun top member => (binds top member).kind_ne.1) kind operators output

/-- The end of the expression releases the operators of the phrase before
it. -/
theorem releaseAll_pending {level : Nat} {pending : List Token} (output : List Token)
    (binds : ∀ top ∈ pending, BindsAtLeast level top) :
    releaseAll pending output = .ok (pending.reverse ++ output) := by
  induction pending generalizing output with
  | nil => rfl
  | cons top below inductionHypothesis =>
      have neither := (binds top List.mem_cons_self).kind_ne
      rw [releaseAll, if_neg (by simpa using neither),
        inductionHypothesis _ fun other member => binds other (List.mem_cons_of_mem top member)]
      simp

/-! ## Single steps -/

theorem run_nil {counter : SignCounter} (yard : Yard) : run counter yard [] = .ok yard := by
  rw [run]

theorem run_cons (counter : SignCounter) (yard : Yard) (token : Token) (rest : List Token) :
    run counter yard (token :: rest) =
      if yard.expectsOperand && token.isSign then
        (acceptSigns counter yard (token :: SignRun.front rest)).bind
          fun yard' => run counter yard' (SignRun.behind rest)
      else (accept yard token).bind fun yard' => run counter yard' rest := by
  rw [run, advance]
  by_cases sign : (yard.expectsOperand && token.isSign) = true
  · simp only [if_pos sign]
    cases acceptSigns counter yard (token :: SignRun.front rest) <;> rfl
  · simp only [if_neg sign]
    cases accept yard token <;> rfl

theorem run_accept {yard : Yard} {token : Token} (rest : List Token)
    (alone : (yard.expectsOperand && token.isSign) = false) :
    run .unbounded yard (token :: rest) =
      (accept yard token).bind fun yard' => run .unbounded yard' rest := by
  rw [run_cons, alone]
  rfl

theorem run_value {token : Token} (output operators rest : List Token)
    (kind : token.kind = .number ∨ token.kind = .identifier) :
    run .unbounded ⟨output, operators, true⟩ (token :: rest) =
      run .unbounded ⟨token :: output, operators, false⟩ rest := by
  have unsigned : token.isSign = false := by
    rcases kind with kind | kind <;> simp [Token.isSign, kind, TokenKind.isSign]
  rw [run_accept rest (by simpa using unsigned), accept]
  rcases kind with kind | kind <;> simp only [kind] <;> rfl

theorem run_opening {token : Token} (output operators rest : List Token)
    (kind : token.kind = .opening) :
    run .unbounded ⟨output, operators, true⟩ (token :: rest) =
      run .unbounded ⟨output, token :: operators, true⟩ rest := by
  have unsigned : token.isSign = false := by simp [Token.isSign, kind, TokenKind.isSign]
  rw [run_accept rest (by simpa using unsigned), accept]
  simp only [kind]
  rfl

theorem run_operator {token : Token} {op : Operator} {pending operators : List Token}
    (output rest : List Token) (kind : token.kind = .binary op)
    (binds : ∀ top ∈ pending, BindsAtLeast op.precedence top)
    (clear : Clear op.precedence operators) :
    run .unbounded ⟨output, pending ++ operators, false⟩ (token :: rest) =
      run .unbounded ⟨pending.reverse ++ output, token :: operators, true⟩ rest := by
  rw [run_accept rest rfl, accept]
  simp only [kind, push, Operator.associativity, release_pending output binds clear]
  rfl

theorem run_closing {token opening : Token} {level : Nat} {pending operators : List Token}
    (output rest : List Token) (kind : token.kind = .closing) (opens : opening.kind = .opening)
    (binds : ∀ top ∈ pending, BindsAtLeast level top) :
    run .unbounded ⟨output, pending ++ opening :: operators, false⟩ (token :: rest) =
      run .unbounded ⟨pending.reverse ++ output, operators, false⟩ rest := by
  rw [run_accept rest rfl, accept]
  simp only [kind, releaseToOpening_pending output binds opens]
  rfl

theorem acceptSigns_nil (counter : SignCounter) (yard : Yard) :
    acceptSigns counter yard [] = .ok yard := by
  cases counter <;> rfl

/-- Where an operand is expected, the signs in front of it are taken as a
whole. -/
theorem run_of_signs {counter : SignCounter} {yard : Yard} {signs tokens : List Token}
    (expects : yard.expectsOperand = true) (signed : ∀ sign ∈ signs, sign.isSign = true)
    (unsigned : ∀ token ∈ tokens.head?, token.isSign = false) :
    run counter yard (signs ++ tokens) =
      (acceptSigns counter yard signs).bind fun yard' => run counter yard' tokens := by
  cases signs with
  | nil =>
      rw [acceptSigns_nil]
      rfl
  | cons sign further =>
      have first : sign.isSign = true := signed sign List.mem_cons_self
      have later : ∀ other ∈ further, other.isSign = true := by
        intro other member
        exact signed other (List.mem_cons_of_mem sign member)
      rw [List.cons_append, run_cons, SignRun.front_signs unsigned later,
        SignRun.behind_signs unsigned later, if_pos (by simp [expects, first])]

/-- A run of signs leaves a negation on the siding if the count of its minus
signs is odd. -/
theorem run_signs {signs operators tokens : List Token} (output : List Token)
    (signed : ∀ sign ∈ signs, sign.isSign = true)
    (unsigned : ∀ token ∈ tokens.head?, token.isSign = false)
    (clear : Clear Operator.negationPrecedence operators) :
    run .unbounded ⟨output, operators, true⟩ (signs ++ tokens) =
      run .unbounded ⟨output, if Odd (signs.countP Token.isNegating)
        then .ofKind .negate :: operators else operators, true⟩ tokens := by
  have accepted : acceptSigns .unbounded ⟨output, operators, true⟩ signs =
      .ok ⟨output, if Odd (signs.countP Token.isNegating)
        then .ofKind .negate :: operators else operators, true⟩ := by
    rw [acceptSigns]
    simp only [SignRun.negates_unbounded_iff, push, release_stops _ output clear]
    split <;> rfl
  rw [run_of_signs rfl signed unsigned, accepted]
  rfl

/-! ## Derived phrases -/

/-- A phrase in the place of an operand leaves the listing of its tree, partly
put out and partly on the siding.  The phrase is read in the same way whatever
follows it. -/
def Leaves (phrase : Phrase) (tokens : List Token) (tree : Expression Float) : Prop :=
  ∀ output operators, Clear phrase.level operators ->
    ∃ listing pending output', Postfix.Lists listing tree ∧
      (∀ top ∈ pending, BindsAtLeast phrase.level top) ∧
      pending.reverse ++ output' = listing.reverse ++ output ∧
      ∀ rest, run .unbounded ⟨output, operators, true⟩ (tokens ++ rest) =
        run .unbounded ⟨output', pending ++ operators, false⟩ rest

private theorem leaves_single {tier : Tier} {tokens : List Token} {tree : Expression Float}
    (member : Leaves tier.member tokens tree) : Leaves (.chain tier) tokens tree := by
  intro output operators clear
  rcases member output operators (clear.mono tier.level_le_member) with
    ⟨listing, pending, output', lists, binds, whole, runs⟩
  exact ⟨listing, pending, output', lists,
    fun top member => (binds top member).mono tier.level_le_member, whole, runs⟩

/-- The operator releases what the chain before it has left behind, and waits
below what its right operand leaves. -/
private theorem leaves_joined {tier : Tier} {op : Operator} {token : Token}
    {front back : List Token} {left right : Expression Float}
    (first : Leaves (.chain tier) front left) (kind : token.kind = .binary op)
    (same : op.tier = tier) (last : Leaves tier.member back right) :
    Leaves (.chain tier) (front ++ token :: back) (.binary op left right) := by
  intro output operators clear
  have precedence := Operator.precedence_eq_level same
  rcases first output operators clear with
    ⟨listing, pending, output', lists, binds, whole, runs⟩
  rcases last (listing.reverse ++ output) (token :: operators)
      (clear_operator kind same operators) with
    ⟨listing', pending', output'', lists', binds', whole', runs'⟩
  refine ⟨listing ++ listing' ++ [token], pending' ++ [token], output'',
    .binary lists lists' kind, ?_, ?_, ?_⟩
  · intro top member
    rcases List.mem_append.mp member with inner | outer
    · exact (binds' top inner).mono tier.level_le_member
    · rw [List.mem_singleton.mp outer]
      exact ⟨_, stackedPrecedence_binary kind, Nat.le_of_eq precedence.symm⟩
  · simp [whole']
  · intro rest
    rw [List.append_assoc, List.cons_append, runs,
      run_operator _ _ kind (precedence ▸ binds) (precedence ▸ clear), whole, runs']
    simp

/-- A negation that the signs amount to waits below what the leaf leaves. -/
private theorem leaves_signed {signs tokens : List Token} {tree : Expression Float}
    (signed : ∀ sign ∈ signs, sign.isSign = true)
    (unsigned : ∃ first back, tokens = first :: back ∧ first.isSign = false)
    (inner : Leaves .leaf tokens tree) :
    Leaves .operand (signs ++ tokens)
      (if Odd (signs.countP Token.isNegating) then .negate tree else tree) := by
  intro output operators clear
  have stops : ∀ rest, ∀ token ∈ (tokens ++ rest).head?, token.isSign = false := by
    intro rest token next
    rcases unsigned with ⟨first, back, split, unsigned⟩
    rw [split] at next
    rw [← Option.mem_some.mp next]
    exact unsigned
  have tight : Operator.negationPrecedence ≤ Phrase.leaf.level := Nat.le_succ _
  have signsRun := fun rest => run_signs output signed (stops rest) clear
  by_cases odd : Odd (signs.countP Token.isNegating)
  · rcases inner output (.ofKind .negate :: operators) (clear_negate operators) with
      ⟨listing, pending, output', lists, binds, whole, runs⟩
    rw [if_pos odd]
    refine ⟨listing ++ [.ofKind .negate], pending ++ [.ofKind .negate], output',
      .negate lists rfl, ?_, by simp [whole], ?_⟩
    · intro top member
      rcases List.mem_append.mp member with inside | last
      · exact (binds top inside).mono tight
      · rw [List.mem_singleton.mp last]
        exact ⟨_, stackedPrecedence_negate rfl, Nat.le_refl _⟩
    · intro rest
      rw [List.append_assoc, signsRun, if_pos odd, runs]
      simp
  · rcases inner output operators (Clear.mono clear tight) with
      ⟨listing, pending, output', lists, binds, whole, runs⟩
    rw [if_neg odd]
    refine ⟨listing, pending, output', lists,
      fun top member => (binds top member).mono tight, whole, ?_⟩
    intro rest
    rw [List.append_assoc, signsRun, if_neg odd, runs]

/-- The closing parenthesis releases all that was left behind since the opening
one. -/
private theorem leaves_parenthesized {opening closing : Token} {tokens : List Token}
    {tree : Expression Float} (opens : opening.kind = .opening)
    (closes : closing.kind = .closing) (inner : Leaves (.chain .sum) tokens tree) :
    Leaves .leaf (opening :: tokens ++ [closing]) tree := by
  intro output operators _
  rcases inner output (opening :: operators) (clear_opening opens _ _) with
    ⟨listing, pending, output', lists, binds, whole, runs⟩
  refine ⟨listing, [], listing.reverse ++ output, lists, by simp, rfl, ?_⟩
  intro rest
  rw [List.append_assoc, List.cons_append, run_opening _ _ _ opens, runs,
    List.singleton_append, run_closing _ _ closes opens binds, whole]
  rfl

/-- Every derived phrase leaves its listing. -/
theorem run_of_derives {phrase : Phrase} {tokens : List Token} {tree : Expression Float}
    (derived : Derives phrase tokens tree) : Leaves phrase tokens tree := by
  induction derived with
  | single _ inductionHypothesis => exact leaves_single inductionHypothesis
  | joined _ kind same _ onFirst onLast => exact leaves_joined onFirst kind same onLast
  | signed signed inner inductionHypothesis =>
      exact leaves_signed signed inner.head_leaf inductionHypothesis
  | @number token value kind reads =>
      intro output operators _
      refine ⟨[token], [], token :: output, .number kind reads, by simp, rfl, ?_⟩
      intro rest
      exact run_value output operators rest (.inl kind)
  | @identifier token kind =>
      intro output operators _
      refine ⟨[token], [], token :: output, .identifier kind, by simp, rfl, ?_⟩
      intro rest
      exact run_value output operators rest (.inr kind)
  | parenthesized opens closes _ inductionHypothesis =>
      exact leaves_parenthesized opens closes inductionHypothesis

/-! ## Tokens that are refused -/

/-- A state that refuses what follows, with the failure that the descent
reports in the same place. -/
inductive Refuses : Yard -> List Token -> Failure -> Prop where
  | missing {output operators suspect : List Token} (missing : LeafMissing suspect) :
      Refuses ⟨output, operators, true⟩ suspect (Descent.unexpected suspect)
  | unreadable {output operators rest : List Token} {token : Token}
      (kind : token.kind = .number) (fails : readNumber token.text = none) :
      Refuses ⟨output, operators, true⟩ (token :: rest) (Descent.unexpected (token :: rest))
  | unclosed {output operators suspect : List Token} {opening : Token}
      (waiting : opening ∈ operators) (opens : opening.kind = .opening)
      (stops : Stops (.chain .sum) suspect)
      (unclosed : ∀ token ∈ suspect.head?, token.kind ≠ .closing) :
      Refuses ⟨output, operators, false⟩ suspect .missingCloseParenthesis
  | surplus {output operators rest : List Token} {token : Token}
      (closed : ∀ top ∈ operators, top.kind ≠ .opening)
      (stops : Stops (.chain .sum) (token :: rest)) :
      Refuses ⟨output, operators, false⟩ (token :: rest) (Descent.unexpected (token :: rest))

/-- Where a phrase is stuck the yard refuses what follows. -/
theorem run_of_stuck {phrase : Phrase} {tokens suspect : List Token} {failure : Failure}
    (stuck : Stuck phrase tokens suspect failure) (output operators : List Token)
    (clear : Clear phrase.level operators) :
    ∃ yard, run .unbounded ⟨output, operators, true⟩ tokens = run .unbounded yard suspect ∧
      Refuses yard suspect failure := by
  induction stuck generalizing output operators with
  | @member tier tokens suspect failure inner inductionHypothesis =>
      exact inductionHypothesis output operators (clear.mono tier.level_le_member)
  | @joined tier op token front tokens suspect left failure first kind same inner
      inductionHypothesis =>
      have precedence := Operator.precedence_eq_level same
      rcases run_of_derives first output operators clear with
        ⟨listing, pending, output', _, binds, _, runs⟩
      rw [runs, run_operator _ _ kind (precedence ▸ binds) (precedence ▸ clear)]
      exact inductionHypothesis _ _ (clear_operator kind same operators)
  | @signed signs tokens suspect failure signed inner inductionHypothesis =>
      rw [run_signs output signed inner.head_leaf clear]
      apply inductionHypothesis
      split
      · exact clear_negate operators
      · exact Clear.mono clear (Nat.le_succ _)
  | missing missing => exact ⟨_, rfl, .missing missing⟩
  | unreadable kind fails => exact ⟨_, rfl, .unreadable kind fails⟩
  | inside opens inner inductionHypothesis =>
      rw [run_opening _ _ _ opens]
      exact inductionHypothesis output _ (clear_opening opens _ _)
  | @unclosed opening tokens suspect tree opens inner stops unclosed =>
      rcases run_of_derives inner output (opening :: operators) (clear_opening opens _ _) with
        ⟨listing, pending, output', _, _, _, runs⟩
      rw [run_opening _ _ _ opens, runs]
      exact ⟨_, rfl, .unclosed (by simp) opens stops unclosed⟩

/-- What is put out in the end, from a state on. -/
def conclude (yard : Yard) (tokens : List Token) : Except Failure (List Token) :=
  (run .unbounded yard tokens).bind finish

theorem toPostfix_eq_conclude {tokens : List Token} (nonempty : tokens ≠ []) :
    toPostfix tokens = conclude start tokens := by
  cases tokens with
  | nil => exact absurd rfl nonempty
  | cons token rest =>
      rw [toPostfix, toPostfixCounting, conclude]
      cases run .unbounded start (token :: rest) <;> rfl

theorem releaseAll_of_waiting {operators : List Token} {opening : Token}
    (waiting : opening ∈ operators) (opens : opening.kind = .opening) (output : List Token) :
    releaseAll operators output = .error .mismatchedParenthesis := by
  induction operators generalizing output with
  | nil => cases waiting
  | cons top below inductionHypothesis =>
      rw [releaseAll]
      by_cases parenthesis : (top.kind = .opening || top.kind = .closing) = true
      · rw [if_pos parenthesis]
      · rw [if_neg parenthesis]
        rcases List.mem_cons.mp waiting with same | later
        · simp [← same, opens] at parenthesis
        · exact inductionHypothesis later (top :: output)

theorem releaseToOpening_of_closed {operators : List Token}
    (closed : ∀ top ∈ operators, top.kind ≠ .opening) (output : List Token) :
    releaseToOpening operators output = .error .mismatchedParenthesis := by
  induction operators generalizing output with
  | nil => rfl
  | cons top below inductionHypothesis =>
      rw [releaseToOpening, if_neg (closed top List.mem_cons_self)]
      exact inductionHypothesis (fun other member => closed other
        (List.mem_cons_of_mem top member)) (top :: output)

end Yard
end Reckoner
