import Reckoner.Proofs.Conversion
import Reckoner.Proofs.Expression.Infix

namespace Reckoner

/-!
# The normal form of a tree

`Expression.Rewrites` writes out the four laws by which a chain is turned to
the left, and lets each of them be used at any place of a tree.  It is the
relation `Expression.Regroups`, which says the same through the tiers of the
operators.

Whatever law is used next, and wherever, the laws come to an end, because each
use moves operators out of right operands.  The end is always the same tree,
because a step does not change what a tree is regrouped to.  This tree is what
the tokens of a tree are read as (`parse_toInfix`), for numbers of every kind
and names of every spelling at the leaves.
-/

theorem Operator.regroups_iff_listed {op inner : Operator} :
    op.regroups inner = true ↔
      (op = .add ∧ (inner = .add ∨ inner = .subtract)) ∨
        (op = .multiply ∧ (inner = .multiply ∨ inner = .divide)) := by
  cases op <;> cases inner <;> decide

namespace Expression

open Relation

variable {ν : Type}

/-- One use of a law for chains, at any place of a tree. -/
inductive Rewrites : Expression ν -> Expression ν -> Prop where
  | addAdd (a b c : Expression ν) :
      Rewrites (.binary .add a (.binary .add b c)) (.binary .add (.binary .add a b) c)
  | addSubtract (a b c : Expression ν) :
      Rewrites (.binary .add a (.binary .subtract b c)) (.binary .subtract (.binary .add a b) c)
  | multiplyMultiply (a b c : Expression ν) :
      Rewrites (.binary .multiply a (.binary .multiply b c))
        (.binary .multiply (.binary .multiply a b) c)
  | multiplyDivide (a b c : Expression ν) :
      Rewrites (.binary .multiply a (.binary .divide b c))
        (.binary .divide (.binary .multiply a b) c)
  | negate {operand operand' : Expression ν} (step : Rewrites operand operand') :
      Rewrites (.negate operand) (.negate operand')
  | left {left left' : Expression ν} (op : Operator) (right : Expression ν)
      (step : Rewrites left left') : Rewrites (.binary op left right) (.binary op left' right)
  | right {right right' : Expression ν} (op : Operator) (left : Expression ν)
      (step : Rewrites right right') : Rewrites (.binary op left right) (.binary op left right')

theorem rewrites_iff_regroups {tree tree' : Expression ν} :
    Rewrites tree tree' ↔ Regroups tree tree' := by
  constructor
  · intro step
    induction step with
    | addAdd a b c => exact .turn rfl a b c
    | addSubtract a b c => exact .turn rfl a b c
    | multiplyMultiply a b c => exact .turn rfl a b c
    | multiplyDivide a b c => exact .turn rfl a b c
    | negate _ inductionHypothesis => exact .negate inductionHypothesis
    | left op right _ inductionHypothesis => exact .left op right inductionHypothesis
    | right op left _ inductionHypothesis => exact .right op left inductionHypothesis
  · intro step
    induction step with
    | turn regroups left front back =>
        rcases Operator.regroups_iff_listed.mp regroups with
          ⟨rfl, rfl | rfl⟩ | ⟨rfl, rfl | rfl⟩
        · exact .addAdd left front back
        · exact .addSubtract left front back
        · exact .multiplyMultiply left front back
        · exact .multiplyDivide left front back
    | negate _ inductionHypothesis => exact .negate inductionHypothesis
    | left op right _ inductionHypothesis => exact .left op right inductionHypothesis
    | right op left _ inductionHypothesis => exact .right op left inductionHypothesis

theorem rewrites_eq_regroups : Rewrites (ν := ν) = Regroups := by
  funext tree tree'
  exact propext rewrites_iff_regroups

/-! ## Rewriting comes to an end -/

def operatorCount : Expression ν -> Nat
  | number _ | identifier _ => 0
  | negate operand => operand.operatorCount
  | binary _ left right => left.operatorCount + right.operatorCount + 1

/-- How far a tree leans to the right: each operator counts those in its right
operand. -/
def rightWeight : Expression ν -> Nat
  | number _ | identifier _ => 0
  | negate operand => operand.rightWeight
  | binary _ left right => left.rightWeight + right.rightWeight + right.operatorCount

theorem Regroups.operatorCount_eq {tree tree' : Expression ν} (step : Regroups tree tree') :
    tree'.operatorCount = tree.operatorCount := by
  induction step with
  | turn =>
      simp only [operatorCount]
      omega
  | negate _ inductionHypothesis => exact inductionHypothesis
  | left op right _ inductionHypothesis =>
      rw [operatorCount, operatorCount, inductionHypothesis]
  | right op left _ inductionHypothesis =>
      rw [operatorCount, operatorCount, inductionHypothesis]

/-- A turn takes the operator of the chain, and those behind it, out of a right
operand. -/
theorem Regroups.rightWeight_lt {tree tree' : Expression ν} (step : Regroups tree tree') :
    tree'.rightWeight < tree.rightWeight := by
  induction step with
  | turn =>
      simp only [rightWeight, operatorCount]
      omega
  | negate _ inductionHypothesis => exact inductionHypothesis
  | left op right _ inductionHypothesis =>
      simp only [rightWeight]
      omega
  | right op left step inductionHypothesis =>
      simp only [rightWeight, step.operatorCount_eq]
      omega

theorem regroups_wellFounded :
    WellFounded fun after before : Expression ν => Regroups before after :=
  Subrelation.wf (fun step => step.rightWeight_lt) (measure rightWeight).wf

/-! ## The end is unique -/

theorem regrouped_of_reflTransGen {tree other : Expression ν}
    (steps : ReflTransGen Regroups tree other) : other.regrouped = tree.regrouped := by
  induction steps with
  | refl => rfl
  | tail _ step inductionHypothesis => exact step.regrouped_eq.trans inductionHypothesis

/-- Where the steps come to an end they have reached the regrouped tree. -/
theorem final_iff_eq_regrouped {tree other : Expression ν}
    (steps : ReflTransGen Regroups tree other) :
    (∀ next, ¬Regroups other next) ↔ other = tree.regrouped := by
  rw [← leftGrouped_iff, ← regrouped_eq_self_iff, regrouped_of_reflTransGen steps]
  exact eq_comm

/-! ## Trees in normal form -/

def subtrees : Expression ν -> List (Expression ν)
  | number value => [number value]
  | identifier name => [identifier name]
  | negate operand => negate operand :: operand.subtrees
  | binary op left right => binary op left right :: (left.subtrees ++ right.subtrees)

/-- No plus sign within a tree has a sum or a difference as its right operand,
and no times sign a product or a quotient. -/
def NoRightChain (tree : Expression ν) : Prop :=
  ∀ op left inner front back, binary op left (binary inner front back) ∈ tree.subtrees ->
    (op = .add -> inner ≠ .add ∧ inner ≠ .subtract) ∧
      (op = .multiply -> inner ≠ .multiply ∧ inner ≠ .divide)

theorem leftGrouped_iff_subtrees (tree : Expression ν) :
    tree.LeftGrouped ↔ ∀ op left right, binary op left right ∈ tree.subtrees ->
      ∀ inner ∈ right.operator?, op.regroups inner = false := by
  induction tree with
  | number => simp [LeftGrouped, subtrees]
  | identifier => simp [LeftGrouped, subtrees]
  | negate operand inductionHypothesis => simpa [LeftGrouped, subtrees] using inductionHypothesis
  | binary op left right onLeft onRight =>
      rw [LeftGrouped, onLeft, onRight]
      constructor
      · rintro ⟨inLeft, inRight, root⟩ op' left' right' member
        rcases List.mem_cons.mp member with same | within
        · cases same
          exact root
        · rcases List.mem_append.mp within with before | behind
          · exact inLeft op' left' right' before
          · exact inRight op' left' right' behind
      · intro everywhere
        refine ⟨?_, ?_, everywhere op left right List.mem_cons_self⟩
        · exact fun op' left' right' member =>
            everywhere op' left' right' (.tail _ (List.mem_append_left _ member))
        · exact fun op' left' right' member =>
            everywhere op' left' right' (.tail _ (List.mem_append_right _ member))

theorem leftGrouped_iff_noRightChain (tree : Expression ν) :
    tree.LeftGrouped ↔ tree.NoRightChain := by
  rw [leftGrouped_iff_subtrees]
  constructor
  · intro grouped op left inner front back member
    have apart := Bool.eq_false_iff.mp (grouped op left _ member inner rfl)
    rw [Ne, Operator.regroups_iff_listed] at apart
    grind
  · intro chains op left right member inner root
    cases right with
    | number | identifier | negate => cases root
    | binary inner' front back =>
        cases root
        have apart := chains op left inner front back member
        rw [Bool.eq_false_iff, Ne, Operator.regroups_iff_listed]
        grind

end Expression

/-- The tokens of a tree are read as its normal form, the only tree to be
reached from it by the four laws at which none of them can be used.  The laws
cannot be used without end.  The tree itself is read if and only if it has no
chain on the right of a plus or times sign. -/
theorem parse_toInfix (tree : Expression Float) :
    WellFounded (fun after before : Expression Float => Expression.Rewrites before after) ∧
      (∃ normal, parse tree.toInfix = .ok normal ∧
        Relation.ReflTransGen Expression.Rewrites tree normal ∧
        ∀ other, Relation.ReflTransGen Expression.Rewrites tree other ->
          ((∀ next, ¬Expression.Rewrites other next) ↔ other = normal)) ∧
      (parse tree.toInfix = .ok tree ↔ tree.NoRightChain) := by
  have read : parse tree.toInfix = .ok tree.regrouped := parse_of_derives tree.derives_toInfix
  rw [Expression.rewrites_eq_regroups]
  refine ⟨Expression.regroups_wellFounded, ⟨tree.regrouped, read, tree.reflTransGen_regrouped,
    fun other steps => Expression.final_iff_eq_regrouped steps⟩, ?_⟩
  rw [read, Except.ok.injEq, tree.regrouped_eq_self_iff, tree.leftGrouped_iff_noRightChain]

end Reckoner
