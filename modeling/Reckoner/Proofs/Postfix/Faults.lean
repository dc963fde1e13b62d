import Mathlib.Data.List.Induction
import Reckoner.Proofs.Grammar.Leaves
import Reckoner.Proofs.Postfix.Listing

namespace Reckoner
namespace Postfix

/-!
# Tokens that list no tree

Tokens are read onto a stack of trees one by one.  What has been read so far is
a row of listings, one for each tree on the stack (`Piles`), and this is all
that there is to say about a reading that goes through: every such row is read
as the trees that it lists.  The stack is as high as there are operands less
operators between two of them, so that its height can be told from the tokens
alone (`Piles.height_eq`).

A reading fails at the first token that offends at the height reached there, or
at the end if the height is not one.  `Offends` and `Faulty` say this without
reference to a stack, and `toExpression_spec` says that nothing else happens.

The numbers of a listing have to be readable.  Their values have no part in
what is said here.
-/

/-- The number of operands at hand behind some tokens: an operator between two
of them leaves one. -/
def height (tokens : List Token) : Int :=
  tokens.countP Token.isLeaf - tokens.countP Token.isBinary

/-- The tokens that cannot be read when some number of operands is at hand, and
the failures that report them. -/
inductive Offends (stage : Stage) (operands : Int) (token : Token) : Failure -> Prop where
  | unreadable (kind : token.kind = .number) (fails : readNumber token.text = none) :
      Offends stage operands token (.unexpectedToken token.shown)
  | misplaced (kind : token.kind = .opening ∨ token.kind = .closing ∨ token.kind = .endOfInput) :
      Offends stage operands token (.unsupportedToken stage token.shown)
  | noOperand (kind : token.kind = .negate) (none : operands = 0) :
      Offends stage operands token .missingOperand
  | fewOperands {op : Operator} (kind : token.kind = .binary op) (few : operands < 2) :
      Offends stage operands token .missingOperand

/-- Tokens none of which offends where it stands. -/
def Regular (tokens : List Token) : Prop :=
  ∀ front token back, tokens = front ++ token :: back ->
    ∀ stage failure, ¬ Offends stage (height front) token failure

/-- Tokens that list no tree, the part of them in front of the place where this
shows, and the failure that is reported there.  The place is the first token
that offends, or the end if none does and there is not a single operand
left. -/
inductive Faulty (stage : Stage) : List Token -> List Token -> Failure -> Prop where
  | offence {front back : List Token} {token : Token} {failure : Failure}
      (regular : Regular front) (offends : Offends stage (height front) token failure) :
      Faulty stage (front ++ token :: back) front failure
  | count {tokens : List Token} {count : Nat} (regular : Regular tokens)
      (counted : height tokens = count) (several : count ≠ 1) :
      Faulty stage tokens tokens (.resultCount count)

/-! ## Rows of listings -/

/-- Tokens that list the trees of a stack, the one at the bottom first. -/
inductive Piles : List Token -> List (Expression Float) -> Prop where
  | nil : Piles [] []
  | cons {front back : List Token} {stack : List (Expression Float)} {tree : Expression Float}
      (below : Piles front stack) (top : Lists back tree) : Piles (front ++ back) (tree :: stack)

theorem lists_of_piles {tokens : List Token} {tree : Expression Float}
    (piles : Piles tokens [tree]) : Lists tokens tree := by
  cases piles with
  | cons below top =>
      cases below
      exact top

theorem height_append (front back : List Token) :
    height (front ++ back) = height front + height back := by
  simp only [height, List.countP_append, Int.natCast_add]
  omega

theorem Lists.height_eq {tokens : List Token} {tree : Expression Float}
    (lists : Lists tokens tree) : height tokens = 1 := by
  induction lists with
  | number kind _ => simp [height, Token.isLeaf, Token.isBinary, TokenKind.operator?, kind]
  | identifier kind => simp [height, Token.isLeaf, Token.isBinary, TokenKind.operator?, kind]
  | @negate token _ _ _ kind inductionHypothesis =>
      have last : height [token] = 0 := by
        simp [height, Token.isLeaf, Token.isBinary, TokenKind.operator?, kind]
      rw [height_append, inductionHypothesis, last]
      rfl
  | @binary _ token _ _ _ _ _ _ kind onFirst onSecond =>
      have last : height [token] = -1 := by
        simp [height, Token.isLeaf, Token.isBinary, TokenKind.operator?, kind]
      rw [height_append, height_append, onFirst, onSecond, last]
      rfl

theorem Piles.height_eq {tokens : List Token} {stack : List (Expression Float)}
    (piles : Piles tokens stack) : height tokens = stack.length := by
  induction piles with
  | nil => rfl
  | cons _ top inductionHypothesis =>
      rw [height_append, inductionHypothesis, top.height_eq, List.length_cons]
      rfl

theorem Piles.foldlM_buildStep {tokens : List Token} {stack : List (Expression Float)}
    (piles : Piles tokens stack) : tokens.foldlM buildStep [] = .ok stack := by
  induction piles with
  | nil => rfl
  | cons _ top inductionHypothesis =>
      rw [List.foldlM_append, inductionHypothesis]
      exact Postfix.foldlM_buildStep top _

/-! ## One token -/

/-- A token that is read makes another row of listings. -/
theorem Piles.step {tokens : List Token} {stack stack' : List (Expression Float)} {token : Token}
    (piles : Piles tokens stack) (done : buildStep stack token = .ok stack') :
    Piles (tokens ++ [token]) stack' := by
  cases kind : token.kind with
  | number =>
      cases reads : readNumber token.text with
      | none =>
          simp only [buildStep, kind, number, reads] at done
          cases done
      | some value =>
          simp only [buildStep, kind, number, reads] at done
          cases done
          exact .cons piles (.number kind reads)
  | identifier =>
      simp only [buildStep, kind] at done
      cases done
      exact .cons piles (.identifier kind)
  | negate =>
      simp only [buildStep, kind] at done
      cases piles with
      | nil => cases done
      | @cons front back _ _ below top =>
          cases done
          rw [List.append_assoc]
          exact .cons below (.negate top kind)
  | binary op =>
      simp only [buildStep, kind] at done
      cases piles with
      | nil => cases done
      | cons below second =>
          cases below with
          | nil => cases done
          | cons bottom first =>
              cases done
              rw [List.append_assoc, List.append_assoc, ← List.append_assoc _ _ [token]]
              exact .cons bottom (.binary first second kind)
  | opening | closing | endOfInput =>
      simp only [buildStep, kind] at done
      cases done

/-- A token is refused exactly if it offends at the height of the stack. -/
theorem buildStep_eq_error_iff {stack : List (Expression Float)} {token : Token}
    {failure : Failure} :
    buildStep stack token = .error failure ↔
      Offends .treeConstruction stack.length token failure := by
  constructor
  · intro failed
    cases kind : token.kind with
    | number =>
        cases reads : readNumber token.text with
        | none =>
            simp only [buildStep, kind, number, reads] at failed
            cases failed
            exact .unreadable kind reads
        | some value =>
            simp only [buildStep, kind, number, reads] at failed
            cases failed
    | identifier =>
        simp only [buildStep, kind] at failed
        cases failed
    | negate =>
        simp only [buildStep, kind] at failed
        rcases stack with _ | ⟨operand, below⟩ <;> cases failed
        exact .noOperand kind rfl
    | binary op =>
        simp only [buildStep, kind] at failed
        rcases stack with _ | ⟨right, _ | ⟨left, below⟩⟩ <;> cases failed
        · exact .fewOperands kind (by simp)
        · exact .fewOperands kind (by simp)
    | opening =>
        simp only [buildStep, kind] at failed
        cases failed
        exact .misplaced (.inl kind)
    | closing =>
        simp only [buildStep, kind] at failed
        cases failed
        exact .misplaced (.inr (.inl kind))
    | endOfInput =>
        simp only [buildStep, kind] at failed
        cases failed
        exact .misplaced (.inr (.inr kind))
  · intro offends
    cases offends with
    | unreadable kind fails =>
        simp only [buildStep, kind, number, fails]
        rfl
    | misplaced kind => rcases kind with kind | kind | kind <;> simp only [buildStep, kind]
    | noOperand kind none =>
        have empty : stack = [] := List.eq_nil_of_length_eq_zero (by omega)
        simp only [buildStep, kind, empty]
    | fewOperands kind few =>
        rcases stack with _ | ⟨right, _ | ⟨left, below⟩⟩
        · simp only [buildStep, kind]
        · simp only [buildStep, kind]
        · simp only [List.length_cons] at few
          omega

/-- Whether a token offends does not depend on the stage that reads it. -/
theorem Offends.exists_at {stage : Stage} {operands : Int} {token : Token} {failure : Failure}
    (offends : Offends stage operands token failure) (other : Stage) :
    ∃ failure', Offends other operands token failure' := by
  cases offends with
  | unreadable kind fails => exact ⟨_, .unreadable kind fails⟩
  | misplaced kind => exact ⟨_, .misplaced kind⟩
  | noOperand kind none => exact ⟨_, .noOperand kind none⟩
  | fewOperands kind few => exact ⟨_, .fewOperands kind few⟩

/-! ## All tokens -/

/-- A reading ends with the first token that offends. -/
private theorem foldlM_of_offence {front : List Token} {stack : List (Expression Float)}
    {token : Token} {failure : Failure} (piles : Piles front stack)
    (offends : Offends .treeConstruction (height front) token failure) (back : List Token) :
    (front ++ token :: back).foldlM buildStep [] = .error failure := by
  rw [piles.height_eq] at offends
  rw [List.foldlM_append, piles.foldlM_buildStep]
  change List.foldlM buildStep stack (token :: back) = _
  rw [List.foldlM_cons, buildStep_eq_error_iff.mpr offends]
  rfl

/-- Tokens are a row of listings, or there is a first one that offends behind
such a row. -/
private theorem piles_or_offence (tokens : List Token) :
    (∃ stack, Piles tokens stack) ∨
      ∃ front stack token back failure, tokens = front ++ token :: back ∧ Piles front stack ∧
        Offends .treeConstruction (height front) token failure := by
  induction tokens using List.reverseRecOn with
  | nil => exact .inl ⟨[], .nil⟩
  | append_singleton tokens last inductionHypothesis =>
      rcases inductionHypothesis with
        ⟨stack, piles⟩ | ⟨front, stack, token, back, failure, rfl, piles, offends⟩
      · cases step : buildStep stack last with
        | ok stack' => exact .inl ⟨stack', piles.step step⟩
        | error failure =>
            have offends := buildStep_eq_error_iff.mp step
            rw [← piles.height_eq] at offends
            exact .inr ⟨tokens, stack, last, [], failure, rfl, piles, offends⟩
      · exact .inr ⟨front, stack, token, back ++ [last], failure, by simp, piles, offends⟩

/-- Of the tokens of a row of listings none offends. -/
theorem Piles.regular {tokens : List Token} {stack : List (Expression Float)}
    (piles : Piles tokens stack) : Regular tokens := by
  intro front token back split stage failure offends
  have goesOn := piles.foldlM_buildStep
  rcases piles_or_offence front with
    ⟨stack', piles'⟩ | ⟨front', stack', token', back', failure', rfl, piles', offends'⟩
  · rcases offends.exists_at .treeConstruction with ⟨failure', offends'⟩
    rw [split, foldlM_of_offence piles' offends'] at goesOn
    cases goesOn
  · rw [split, List.append_assoc, List.cons_append, foldlM_of_offence piles' offends'] at goesOn
    cases goesOn

/-- Tokens of which none offends are a row of listings. -/
theorem Regular.exists_piles {tokens : List Token} (regular : Regular tokens) :
    ∃ stack, Piles tokens stack := by
  rcases piles_or_offence tokens with found | ⟨front, _, token, back, _, split, _, offends⟩
  · exact found
  · exact absurd offends (regular front token back split _ _)

theorem lists_of_toExpression {tokens : List Token} {tree : Expression Float}
    (built : toExpression tokens = .ok tree) : Lists tokens tree := by
  rw [toExpression] at built
  rcases piles_or_offence tokens with
    ⟨stack, piles⟩ | ⟨front, stack, token, back, failure, rfl, piles, offends⟩
  · rw [piles.foldlM_buildStep] at built
    rcases stack with _ | ⟨top, _ | ⟨below, bottom⟩⟩ <;> cases built
    exact lists_of_piles piles
  · rw [foldlM_of_offence piles offends] at built
    cases built

theorem faulty_of_toExpression {tokens : List Token} {failure : Failure}
    (failed : toExpression tokens = .error failure) :
    ∃ front, Faulty .treeConstruction tokens front failure := by
  rw [toExpression] at failed
  rcases piles_or_offence tokens with
    ⟨stack, piles⟩ | ⟨front, stack, token, back, failure', rfl, piles, offends⟩
  · rw [piles.foldlM_buildStep] at failed
    rcases stack with _ | ⟨top, _ | ⟨below, bottom⟩⟩ <;> cases failed
    · exact ⟨tokens, .count piles.regular piles.height_eq (by simp)⟩
    · exact ⟨tokens, .count piles.regular piles.height_eq (by simp)⟩
  · rw [foldlM_of_offence piles offends] at failed
    cases failed
    exact ⟨front, .offence piles.regular offends⟩

theorem Faulty.toExpression_eq {tokens front : List Token} {failure : Failure}
    (faulty : Faulty .treeConstruction tokens front failure) :
    toExpression tokens = .error failure := by
  rw [toExpression]
  cases faulty with
  | offence regular offends =>
      rcases regular.exists_piles with ⟨stack, piles⟩
      rw [foldlM_of_offence piles offends]
      rfl
  | count regular counted several =>
      rcases regular.exists_piles with ⟨stack, piles⟩
      have length : stack.length = _ := Int.ofNat.inj (piles.height_eq.symm.trans counted)
      rw [piles.foldlM_buildStep, ← length]
      rw [← length] at several
      rcases stack with _ | ⟨top, _ | ⟨below, bottom⟩⟩
      · rfl
      · exact absurd rfl several
      · rfl

/-- Tokens are read as a tree exactly if they list it in postfix order.  All
others fail, with the failure of the first token that offends at the height of
the stack that it finds, or of the final height if none does and this is not
one. -/
theorem toExpression_spec (tokens : List Token) :
    (∀ tree, toExpression tokens = .ok tree ↔ Lists tokens tree) ∧
      ∀ failure, toExpression tokens = .error failure ↔
        ∃ front, Faulty .treeConstruction tokens front failure := by
  constructor
  · exact fun tree => ⟨lists_of_toExpression, toExpression_of_lists⟩
  · refine fun failure => ⟨faulty_of_toExpression, ?_⟩
    rintro ⟨front, faulty⟩
    exact faulty.toExpression_eq

/-- In `x ~ + )` the sum finds a single operand, which is reported rather than
the parenthesis behind it. -/
example :
    toExpression [⟨.identifier, "x"⟩, .ofKind .negate, .ofKind (.binary .add),
      .ofKind .closing] = .error .missingOperand := by
  decide +kernel

end Postfix
end Reckoner
