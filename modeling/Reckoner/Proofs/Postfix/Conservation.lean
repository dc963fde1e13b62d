import Reckoner.Proofs.Postfix.Frame
import Reckoner.Proofs.Postfix.Steps

namespace Reckoner

/-!
# What a conversion keeps

Between its state before the first token and its end a conversion moves tokens
from the input to the siding and from the siding to the output.  It drops
parentheses and puts a single negation in place of a run of signs.  This module
says that nothing else happens to the tokens, and that every operator of the
output finds its operands (`Conserves`).

What the conversion should keep is read off the input alone.  Whether a token
stands behind an operand can be told from the token before it, which decides
whether an operator is one between two operands (`Token.joining`) or belongs to
a run of signs in front of one (`Token.signRuns`).

The invariant of the conversion is about the output that would come out if the
expression ended with the next operand (`Yard.completed`).  It always is a
sound postfix expression, and its operators are those of the input that has
been read (`Yard.Carries`).

Whether numbers can be read does not matter here.
-/

/-! ## The operators of an expression -/

namespace Token

/-- Tokens, each with whether it stands directly behind the end of an
operand. -/
def placed (behindOperand : Bool) (tokens : List Token) : List (Token × Bool) :=
  tokens.zip (behindOperand :: tokens.map (·.kind.endsOperand))

def isOperator (token : Token) : Bool :=
  token.isBinary || token.kind == .negate

/-- The operators that stand directly behind the end of an operand. -/
def joining (behindOperand : Bool) (tokens : List Token) : List Token :=
  ((placed behindOperand tokens).filter fun place => place.2 && place.1.isOperator).map Prod.fst

/-- The longest runs of signs in front of operands.  They are what lies between
the tokens of all other kinds, and many of them are empty. -/
def signRuns (behindOperand : Bool) (tokens : List Token) : List (List Token) :=
  ((placed behindOperand tokens).splitOnP fun place => place.2 || !place.1.isSign).map
    (·.map Prod.fst)

def negations (behindOperand : Bool) (tokens : List Token) : Nat :=
  (signRuns behindOperand tokens).countP fun run => Odd (run.countP isNegating)

theorem placed_cons (behindOperand : Bool) (token : Token) (rest : List Token) :
    placed behindOperand (token :: rest) =
      (token, behindOperand) :: placed token.kind.endsOperand rest :=
  rfl

theorem joining_cons (behindOperand : Bool) (token : Token) (rest : List Token) :
    joining behindOperand (token :: rest) =
      joining behindOperand [token] ++ joining token.kind.endsOperand rest := by
  rw [joining, joining, joining, placed_cons, placed_cons, List.filter_cons, List.filter_cons]
  split <;> simp [placed]

theorem joining_binary {token : Token} {op : Operator} (kind : token.kind = .binary op) :
    joining true [token] = [token] := by
  simp [joining, placed, isOperator, isBinary, TokenKind.operator?, kind]

/-- A token of another kind, or one in front of an operand, joins nothing. -/
theorem joining_other {behindOperand : Bool} {token : Token}
    (other : behindOperand = false ∨ token.isOperator = false) :
    joining behindOperand [token] = [] := by
  rcases other with other | other <;> simp [joining, placed, other]

/-- A token that belongs to no run in front of an operand ends the run before
it. -/
theorem signRuns_cons {behindOperand : Bool} {token : Token}
    (alone : behindOperand = true ∨ token.isSign = false) (rest : List Token) :
    signRuns behindOperand (token :: rest) = [] :: signRuns token.kind.endsOperand rest := by
  have separates : (behindOperand || !token.isSign) = true := by
    rcases alone with alone | alone <;> simp [alone]
  rw [signRuns, placed_cons, List.splitOnP_cons_eq_if_modifyHead, if_pos separates,
    List.map_cons, List.map_nil, signRuns]

theorem negations_cons {behindOperand : Bool} {token : Token}
    (alone : behindOperand = true ∨ token.isSign = false) (rest : List Token) :
    negations behindOperand (token :: rest) = negations token.kind.endsOperand rest := by
  rw [negations, signRuns_cons alone, List.countP_cons_of_neg (by simp), negations]

private theorem length_le_of_mem_splitOnP {α : Type} {separates : α -> Bool} {members part : List α}
    (member : part ∈ members.splitOnP separates) : part.length ≤ members.length := by
  induction members generalizing part with
  | nil =>
      rw [List.splitOnP_nil, List.mem_singleton] at member
      rw [member]
  | cons first members inductionHypothesis =>
      rw [List.splitOnP_cons_eq_if_modifyHead] at member
      rcases parts : members.splitOnP separates with _ | ⟨front, later⟩
      · exact absurd parts (List.splitOnP_ne_nil _ _)
      · rw [parts] at member inductionHypothesis
        split at member
        · rcases List.mem_cons.mp member with rfl | within
          · exact Nat.zero_le _
          · exact Nat.le_succ_of_le (inductionHypothesis within)
        · rcases List.mem_cons.mp member with rfl | within
          · exact Nat.succ_le_succ (inductionHypothesis List.mem_cons_self)
          · exact Nat.le_succ_of_le (inductionHypothesis (List.mem_cons_of_mem _ within))

theorem length_le_of_mem_signRuns {behindOperand : Bool} {tokens run : List Token}
    (member : run ∈ signRuns behindOperand tokens) : run.length ≤ tokens.length := by
  have same : (placed behindOperand tokens).length = tokens.length := by simp [placed]
  rcases List.mem_map.mp member with ⟨part, within, rfl⟩
  rw [List.length_map, ← same]
  exact length_le_of_mem_splitOnP within

theorem endsOperand_of_isSign {token : Token} (sign : token.isSign = true) :
    token.kind.endsOperand = false := by
  rw [isSign] at sign
  cases kind : token.kind <;> simp_all [TokenKind.isSign, TokenKind.endsOperand]

section

variable {signs rest : List Token} (run : ∀ sign ∈ signs, sign.isSign = true)
include run

theorem placed_signs :
    placed false (signs ++ rest) = signs.map (·, false) ++ placed false rest := by
  induction signs with
  | nil => rfl
  | cons sign signs inductionHypothesis =>
      rw [List.cons_append, placed_cons, endsOperand_of_isSign (run sign List.mem_cons_self),
        inductionHypothesis fun other member => run other (List.mem_cons_of_mem sign member)]
      rfl

theorem joining_signs : joining false (signs ++ rest) = joining false rest := by
  have none : (signs.map (·, false)).filter (fun place => place.2 && place.1.isOperator) = [] := by
    simp [List.filter_eq_nil_iff]
  rw [joining, placed_signs run, List.filter_append, none, List.nil_append, joining]

theorem signRuns_signs (unsigned : ∀ token ∈ rest.head?, token.isSign = false) :
    ∃ later, signRuns false (signs ++ rest) = signs :: later ∧
      signRuns false rest = [] :: later := by
  have unseparated : ∀ place ∈ signs.map (·, false), (place.2 || !place.1.isSign) = false := by
    simpa using run
  have whole : (signs.map (·, false)).map Prod.fst = signs := by
    rw [List.map_map]
    exact List.map_id signs
  cases rest with
  | nil =>
      have single : placed false (signs ++ []) = signs.map (·, false) := by
        rw [placed_signs run]
        exact List.append_nil _
      refine ⟨[], ?_, rfl⟩
      rw [signRuns, single, List.splitOnP_eq_singleton unseparated, List.map_singleton, whole]
  | cons token rest =>
      have separates : (false || !token.isSign) = true := by simp [unsigned token rfl]
      refine ⟨signRuns token.kind.endsOperand rest, ?_,
        signRuns_cons (.inr (unsigned token rfl)) rest⟩
      rw [signRuns, placed_signs run, placed_cons,
        List.splitOnP_append_cons_of_forall_mem unseparated _ separates, List.map_cons, whole,
        signRuns]

theorem negations_signs (unsigned : ∀ token ∈ rest.head?, token.isSign = false) :
    negations false (signs ++ rest) =
      (if Odd (signs.countP isNegating) then 1 else 0) + negations false rest := by
  rcases signRuns_signs run unsigned with ⟨later, whole, behind⟩
  rw [negations, negations, whole, behind, List.countP_cons, List.countP_cons]
  simp [Nat.add_comm]

end

end Token

/-! ## Sound postfix expressions -/

namespace Postfix

/-- The number of operands at hand behind a token, if it finds as many as it
needs. -/
def operandsBehind? (operands : Nat) (token : Token) : Option Nat :=
  match token.kind with
  | .number | .identifier => some (operands + 1)
  | .negate => if 1 ≤ operands then some operands else none
  | .binary _ => if 2 ≤ operands then some (operands - 1) else none
  | .opening | .closing | .endOfInput => none

theorem operandsBehind?_leaf {token : Token} (leaf : token.isLeaf = true) (operands : Nat) :
    operandsBehind? operands token = some (operands + 1) := by
  rcases Token.isLeaf_iff.mp leaf with kind | kind <;> rw [operandsBehind?, kind]

theorem pos_of_operandsBehind? {operands behind : Nat} {token : Token}
    (found : operandsBehind? operands token = some behind) : 1 ≤ behind := by
  rw [operandsBehind?] at found
  split at found
  · cases found
    omega
  · cases found
    omega
  · split at found <;> cases found
    assumption
  · split at found <;> cases found
    omega
  all_goals cases found

theorem pos_of_foldlM {tokens : List Token} {operands behind : Nat}
    (found : tokens.foldlM operandsBehind? operands = some behind) (nonempty : tokens ≠ []) :
    1 ≤ behind := by
  rcases List.eq_nil_or_concat tokens with rfl | ⟨front, last, rfl⟩
  · exact absurd rfl nonempty
  · rw [List.concat_eq_append, List.foldlM_append] at found
    rcases Option.bind_eq_some_iff.mp found with ⟨operands', _, found'⟩
    rw [List.foldlM_cons] at found'
    rcases Option.bind_eq_some_iff.mp found' with ⟨behind', step, ended⟩
    cases ended
    exact pos_of_operandsBehind? step

/-- A part can be exchanged for another one that changes the number of operands
in the same way.  Behind other tokens there is an operand, so that it does not
matter what the parts do without one. -/
theorem foldlM_exchange {front part part' back : List Token} {operands behind : Nat}
    (same : ∀ operands, (front ≠ [] -> 1 ≤ operands) ->
      part'.foldlM operandsBehind? operands = part.foldlM operandsBehind? operands)
    (found : (front ++ part ++ back).foldlM operandsBehind? operands = some behind) :
    (front ++ part' ++ back).foldlM operandsBehind? operands = some behind := by
  rw [List.append_assoc, List.foldlM_append] at found ⊢
  rcases Option.bind_eq_some_iff.mp found with ⟨middle, before, found'⟩
  refine Option.bind_eq_some_iff.mpr ⟨middle, before, ?_⟩
  rw [List.foldlM_append] at found' ⊢
  rw [same middle (pos_of_foldlM before)]
  exact found'

end Postfix

/-! ## The invariant -/

namespace Yard

def awaited : Token := ⟨.identifier, ""⟩

/-- The output that would come out if the expression ended here, with the
operand to come if one is expected and with all parentheses closed. -/
def completed (yard : Yard) : List Token :=
  yard.output.reverse ++ (if yard.expectsOperand then [awaited] else []) ++
    yard.operators.filter (·.kind != .opening)

/-- A yard has taken in some operators between two operands and some number of
negations if these are the operators of what it can be completed to, and this
is a sound postfix expression.  There is output in front of every place where
no operand is expected. -/
structure Carries (binaries : List Token) (negations : Nat) (yard : Yard) : Prop where
  perm : (yard.completed.filter (!·.isLeaf)).Perm
    (binaries ++ List.replicate negations (.ofKind .negate))
  binary : ∀ token ∈ binaries, token.isBinary = true
  sound : yard.completed.foldlM Postfix.operandsBehind? 0 = some 1
  begun : yard.expectsOperand = false -> yard.output ≠ []

theorem carries_start : Carries [] 0 start := by
  refine ⟨?_, by simp, rfl, by simp [start]⟩
  simp [completed, start, awaited, Token.isLeaf]

theorem filter_of_closed {operators : List Token}
    (closed : ∀ top ∈ operators, top.kind ≠ .opening) :
    operators.filter (·.kind != .opening) = operators := by
  rw [List.filter_eq_self]
  intro top member
  exact bne_iff_ne.mpr (closed top member)

theorem completed_of_expects {yard : Yard} (expects : yard.expectsOperand = true) :
    yard.completed =
      yard.output.reverse ++ [awaited] ++ yard.operators.filter (·.kind != .opening) := by
  rw [completed, expects, if_pos rfl]

theorem completed_of_behind {yard : Yard} (behind : yard.expectsOperand = false) :
    yard.completed = yard.output.reverse ++ yard.operators.filter (·.kind != .opening) := by
  rw [completed, behind]
  simp

section

variable {binaries : List Token} {negations : Nat} {yard yard' : Yard}
  (carries : Carries binaries negations yard)
include carries

/-- A step exchanges a part of what the yard can be completed to, and the
operators of the new part are carried from then on. -/
theorem Carries.exchange {front part part' back : List Token} (gained : List Token) (count : Nat)
    (before : yard.completed = front ++ part ++ back)
    (after : yard'.completed = front ++ part' ++ back)
    (gains : part'.filter (!·.isLeaf) =
      gained ++ List.replicate count (.ofKind .negate) ++ part.filter (!·.isLeaf))
    (binary : ∀ token ∈ gained, token.isBinary = true)
    (same : ∀ operands, (front ≠ [] -> 1 ≤ operands) ->
      part'.foldlM Postfix.operandsBehind? operands = part.foldlM Postfix.operandsBehind? operands)
    (begun : yard'.expectsOperand = false -> yard'.output ≠ []) :
    Carries (binaries ++ gained) (negations + count) yard' := by
  refine ⟨?_, List.forall_mem_append.mpr ⟨carries.binary, binary⟩, ?_, begun⟩
  · rw [List.perm_iff_count]
    intro token
    have counted := carries.perm.count_eq token
    rw [before] at counted
    rw [after, List.replicate_add]
    simp only [List.filter_append, gains, List.count_append] at counted ⊢
    omega
  · have sound := carries.sound
    rw [before] at sound
    rw [after]
    exact Postfix.foldlM_exchange same sound

theorem Carries.takes {token : Token} (takes : Takes token yard yard') :
    Carries (binaries ++ Token.joining (!yard.expectsOperand) [token]) negations yard' := by
  cases takes with
  | leaf expects leaf =>
      have after : (⟨token :: yard.output, yard.operators, false⟩ : Yard).completed =
          yard.output.reverse ++ [token] ++ yard.operators.filter (·.kind != .opening) := by
        simp [completed]
      rw [Token.joining_other (.inl (by simp [expects]))]
      apply carries.exchange [] 0 (completed_of_expects expects) after
      · have same : awaited.isLeaf = true := rfl
        simp [leaf, same]
      · simp
      · intro operands _
        rw [List.foldlM_cons, List.foldlM_cons, Postfix.operandsBehind?_leaf leaf,
          Postfix.operandsBehind?_leaf (by rfl)]
      · simp
  | opening expects opens =>
      have after : (⟨yard.output, token :: yard.operators, true⟩ : Yard).completed =
          yard.output.reverse ++ [awaited] ++ yard.operators.filter (·.kind != .opening) := by
        simp [completed, opens]
      rw [Token.joining_other (.inl (by simp [expects]))]
      exact carries.exchange [] 0 (completed_of_expects expects) after rfl (by simp)
        (fun _ _ => rfl) (by simp)
  | @operator op released left behind kind split binds clear =>
      have noneOpens : ∀ top ∈ released, top.kind ≠ .opening :=
        fun top member => (binds top member).kind_ne.1
      have before : yard.completed = (yard.output.reverse ++ released) ++ [] ++
          left.filter (·.kind != .opening) := by
        rw [completed_of_behind behind, split, List.filter_append, filter_of_closed noneOpens]
        simp
      have after : (⟨released.reverse ++ yard.output, token :: left, true⟩ : Yard).completed =
          (yard.output.reverse ++ released) ++ [awaited, token] ++
            left.filter (·.kind != .opening) := by
        simp [completed, kind]
      rw [behind, Bool.not_false, Token.joining_binary kind]
      apply carries.exchange [token] 0 before after
      · simp [awaited, Token.isLeaf, kind]
      · simp [Token.isBinary, TokenKind.operator?, kind]
      · -- The operator takes the operand that has been put out before it and the awaited one.
        intro operands atHand
        have enough : 1 ≤ operands := atHand (by simp [carries.begun behind])
        rw [List.foldlM_cons, Postfix.operandsBehind?_leaf (by rfl)]
        simp [Postfix.operandsBehind?, kind, enough]
      · simp
  | @closing above left opening behind closes split opens closed =>
      have before : yard.completed = yard.completed ++ [] ++ [] := by simp
      have after : (⟨above.reverse ++ yard.output, left, false⟩ : Yard).completed =
          yard.completed ++ [] ++ [] := by
        rw [completed_of_behind rfl, completed_of_behind behind, split, List.filter_append,
          filter_of_closed closed]
        simp [opens]
      have noOperator : token.isOperator = false := by
        simp [Token.isOperator, Token.isBinary, TokenKind.operator?, closes]
      rw [Token.joining_other (.inr noOperator)]
      exact carries.exchange [] 0 before after rfl (by simp) (fun _ _ => rfl)
        (by simp [carries.begun behind])

theorem Carries.acceptSigns {signs : List Token} (expects : yard.expectsOperand = true)
    (done : yard.acceptSigns .unbounded signs = .ok yard') :
    Carries binaries (negations + if Odd (signs.countP Token.isNegating) then 1 else 0) yard' := by
  have taken := acceptSigns_eq_ok_iff.mp done
  simp only [SignRun.negates_unbounded_iff] at taken
  by_cases odd : Odd (signs.countP Token.isNegating)
  · rw [if_pos odd] at taken
    rcases taken with ⟨_, rfl⟩
    have after : (⟨yard.output, .ofKind .negate :: yard.operators, true⟩ : Yard).completed =
        yard.output.reverse ++ [awaited, .ofKind .negate] ++
          yard.operators.filter (·.kind != .opening) := by
      simp [completed, Token.ofKind]
    rw [if_pos odd, ← List.append_nil binaries]
    apply carries.exchange [] 1 (completed_of_expects expects) after
    · rfl
    · simp
    · intro operands _
      rw [List.foldlM_cons, List.foldlM_cons, Postfix.operandsBehind?_leaf (by rfl)]
      simp [Postfix.operandsBehind?, Token.ofKind]
    · simp
  · rw [if_neg odd] at taken
    rw [if_neg odd, taken, Nat.add_zero]
    exact carries

end

theorem Carries.runs {binaries tokens : List Token} {negations : Nat} {yard yard' : Yard}
    (carries : Carries binaries negations yard) (runs : Runs .unbounded yard tokens yard') :
    Carries (binaries ++ Token.joining (!yard.expectsOperand) tokens)
      (negations + Token.negations (!yard.expectsOperand) tokens) yard' := by
  induction runs generalizing binaries negations with
  | nil => simpa [Token.joining, Token.negations, Token.signRuns, Token.placed] using carries
  | signs expects run unsigned first _ inductionHypothesis =>
      have further := inductionHypothesis (carries.acceptSigns expects first)
      rw [expectsOperand_of_acceptSigns expects first, Bool.not_true, Nat.add_assoc] at further
      rw [expects, Bool.not_true, Token.joining_signs run, Token.negations_signs run unsigned]
      exact further
  | @token yard _ _ token _ alone takes _ inductionHypothesis =>
      have place : (!yard.expectsOperand) = true ∨ token.isSign = false := by
        cases expects : yard.expectsOperand <;> simp_all
      have further := inductionHypothesis (carries.takes takes)
      rw [takes.expectsOperand_eq, Bool.not_not, List.append_assoc, ← Token.joining_cons,
        ← Token.negations_cons place] at further
      exact further

/-! ## What is carried in the end -/

section

variable {binaries : List Token} {negations : Nat} {yard : Yard}
  (carries : Carries binaries negations yard)
include carries

/-- What is no leaf is carried, so that a choice of it can be made there. -/
private theorem Carries.filter {choice : Token -> Bool}
    (noLeaf : ∀ token, token.isLeaf = true -> choice token = false) :
    (yard.completed.filter choice).Perm
      (binaries.filter choice ++ (List.replicate negations (.ofKind .negate)).filter choice) := by
  have same : yard.completed.filter (fun token => choice token && !token.isLeaf) =
      yard.completed.filter choice := by
    apply List.filter_congr
    intro token _
    cases leaf : token.isLeaf with
    | true => simp [noLeaf token leaf]
    | false => simp
  rw [← same, ← List.filter_filter, ← List.filter_append]
  exact carries.perm.filter choice

theorem Carries.filter_isBinary : (yard.completed.filter Token.isBinary).Perm binaries := by
  have noLeaf : ∀ token : Token, token.isLeaf = true -> token.isBinary = false := by
    intro token leaf
    rcases Token.isLeaf_iff.mp leaf with kind | kind <;>
      simp [Token.isBinary, TokenKind.operator?, kind]
  have chosen := carries.filter noLeaf
  rwa [List.filter_eq_self.mpr carries.binary, List.filter_replicate_of_neg (by decide),
    List.append_nil] at chosen

theorem Carries.filter_negate :
    yard.completed.filter (·.kind = .negate) = List.replicate negations (.ofKind .negate) := by
  have noLeaf : ∀ token : Token, token.isLeaf = true -> decide (token.kind = .negate) = false := by
    intro token leaf
    rcases Token.isLeaf_iff.mp leaf with kind | kind <;> simp [kind]
  have none : binaries.filter (·.kind = .negate) = [] := by
    rw [List.filter_eq_nil_iff]
    intro token member negates
    have binary := carries.binary token member
    simp [Token.isBinary, TokenKind.operator?, of_decide_eq_true negates] at binary
  have chosen := carries.filter noLeaf
  rw [none, List.nil_append, List.filter_replicate_of_pos (by decide)] at chosen
  exact List.perm_replicate.mp chosen

/-- The yard can be completed to leaves and operators only. -/
theorem Carries.isOperator {token : Token} (member : token ∈ yard.completed) :
    token.isLeaf = true ∨ token.isOperator = true := by
  by_cases leaf : token.isLeaf = true
  · exact .inl leaf
  · have operator := carries.perm.subset (List.mem_filter.mpr ⟨member, by simpa using leaf⟩)
    rcases List.mem_append.mp operator with binary | negates
    · exact .inr (by simp [Token.isOperator, carries.binary token binary])
    · rw [(List.mem_replicate.mp negates).2]
      exact .inr rfl

end

end Yard

/-! ## The whole conversion -/

/-- Nothing is lost, duplicated or malformed in the output of a conversion. -/
structure Conserves (tokens ordered : List Token) : Prop where
  /-- Numbers and names are there, in their order. -/
  leaves : ordered.filter Token.isLeaf = tokens.filter Token.isLeaf
  /-- So are the operators that stand behind operands, in some order. -/
  joining : (ordered.filter Token.isBinary).Perm (Token.joining false tokens)
  /-- There is one negation for each run of signs that amounts to one. -/
  negations : ordered.filter (·.kind = .negate) =
    List.replicate (Token.negations false tokens) (.ofKind .negate)
  /-- There is nothing else, no parenthesis and no end of the expression. -/
  others : ∀ token ∈ ordered,
    token.kind ≠ .opening ∧ token.kind ≠ .closing ∧ token.kind ≠ .endOfInput
  /-- Every operator finds its operands, and one operand is left. -/
  sound : ordered.foldlM Postfix.operandsBehind? 0 = some 1

open Yard in
/-- A nonempty list of tokens that is converted keeps its operands in their
order and its operators in another one.  Parentheses are gone, every run of
signs has become a negation or nothing, and the result can be evaluated from
left to right with one value in the end. -/
theorem toPostfix_conserves {tokens ordered : List Token} (nonempty : tokens ≠ [])
    (converted : toPostfix tokens = .ok ordered) : Conserves tokens ordered := by
  rw [toPostfix_eq_conclude nonempty] at converted
  rcases run_of_conclude converted with ⟨last, ran, ended⟩
  rcases finish_moves ended with ⟨behind, closed, whole, _⟩
  rcases adds_run ran with ⟨added, adds⟩
  have carries : Carries (Token.joining false tokens) (Token.negations false tokens) last := by
    simpa [start] using carries_start.runs (runs_of_run ran)
  have completed : last.completed = ordered := by
    rw [completed_of_behind behind, filter_of_closed closed, whole]
  have leafless : Leafless start.operators := by simp [start, Leafless]
  have waiting : last.operators.filter Token.isLeaf = [] := by
    rw [List.filter_eq_nil_iff]
    intro top member
    simp [adds.leafless leafless top member]
  refine ⟨?_, completed ▸ carries.filter_isBinary, completed ▸ carries.filter_negate, ?_,
    completed ▸ carries.sound⟩
  · rw [whole, adds.output_eq ran, List.filter_append, waiting, List.append_nil, start,
      List.append_nil, List.filter_reverse, adds.leaves leafless, List.reverse_reverse]
  · intro token member
    rw [← completed] at member
    rcases carries.isOperator member with leaf | operator
    · rcases Token.isLeaf_iff.mp leaf with kind | kind <;> simp [kind]
    · rw [Token.isOperator, Token.isBinary] at operator
      refine ⟨?_, ?_, ?_⟩ <;> intro kind <;> simp [kind, TokenKind.operator?] at operator

/-- In `x-(-+2)*--y` the first minus sign joins two operands and the second one
negates, while the last two come to nothing. -/
theorem toPostfix_conserves_nested :
    let tokens : List Token :=
      [⟨.identifier, "x"⟩, .ofKind (.binary .subtract), .ofKind .opening,
        .ofKind (.binary .subtract), .ofKind (.binary .add), ⟨.number, "2"⟩, .ofKind .closing,
        .ofKind (.binary .multiply), .ofKind (.binary .subtract), .ofKind (.binary .subtract),
        ⟨.identifier, "y"⟩]
    let ordered : List Token :=
      [⟨.identifier, "x"⟩, ⟨.number, "2"⟩, .ofKind .negate, ⟨.identifier, "y"⟩,
        .ofKind (.binary .multiply), .ofKind (.binary .subtract)]
    toPostfix tokens = .ok ordered ∧ Conserves tokens ordered ∧
      Token.joining false tokens = [.ofKind (.binary .subtract), .ofKind (.binary .multiply)] ∧
      Token.negations false tokens = 1 := by
  intro tokens ordered
  have converted : toPostfix tokens = .ok ordered := by decide +kernel
  exact ⟨converted, toPostfix_conserves (by simp [tokens]) converted, by decide, by decide⟩

end Reckoner
