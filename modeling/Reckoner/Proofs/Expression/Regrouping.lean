import Mathlib.Logic.Relation
import Reckoner.Expression.Descent
import Reckoner.Expression.Value

namespace Reckoner

/-!
# Regrouping to the left

A sum that adds a sum, or a product that multiplies by a product, can be
regrouped so that its chain leans to the left.  `Expression.Regroups` is a
single such step, anywhere in a tree, and `Expression.regrouped` is the tree in
which no step is left to be made.

Regrouping keeps the order of the leaves, and with it every lookup.  It keeps
the value only in an arithmetic that allows it (`Arithmetic.Regroupable`).
Rounded addition does not, so that nothing is said here about the value in
binary64 numbers.
-/

namespace Operator

/-- Whether an operator takes over the chain that its right operand is. -/
def regroups (op inner : Operator) : Bool :=
  op.tier == inner.tier && !op.isRightSensitive

theorem regroups_iff {op inner : Operator} :
    op.regroups inner = true ↔
      op.precedence = inner.precedence ∧ op.isRightSensitive = false := by
  cases op <;> cases inner <;> decide

theorem tier_of_regroups {op inner : Operator} (regroups : op.regroups inner = true) :
    op.tier = inner.tier := by
  rw [Operator.regroups, Bool.and_eq_true, beq_iff_eq] at regroups
  exact regroups.1

theorem regroups_of_tier {op inner other : Operator} (same : inner.tier = other.tier) :
    op.regroups inner = op.regroups other := by
  rw [regroups, regroups, same]

theorem regroups_trans {op inner last : Operator} (first : op.regroups inner = true)
    (second : inner.regroups last = true) : op.regroups last = true := by
  rwa [← regroups_of_tier (tier_of_regroups second)]

end Operator

/-- An arithmetic in which a chain of sums or of products may be regrouped. -/
def Arithmetic.Regroupable {ν : Type} (arithmetic : Arithmetic ν) : Prop :=
  ∀ op inner, Operator.regroups op inner = true -> ∀ a b c,
    arithmetic.apply op a (arithmetic.apply inner b c) =
      arithmetic.apply inner (arithmetic.apply op a b) c

namespace Expression

variable {σ ν : Type}

/-- One step of regrouping, at any place of a tree. -/
inductive Regroups : Expression ν -> Expression ν -> Prop where
  | turn {op inner : Operator} (regroups : op.regroups inner = true)
      (left front back : Expression ν) :
      Regroups (.binary op left (.binary inner front back))
        (.binary inner (.binary op left front) back)
  | negate {operand operand' : Expression ν} (step : Regroups operand operand') :
      Regroups (.negate operand) (.negate operand')
  | left {left left' : Expression ν} (op : Operator) (right : Expression ν)
      (step : Regroups left left') : Regroups (.binary op left right) (.binary op left' right)
  | right {right right' : Expression ν} (op : Operator) (left : Expression ν)
      (step : Regroups right right') : Regroups (.binary op left right) (.binary op left right')

/-- No operator takes over the chain that its right operand is. -/
def LeftGrouped : Expression ν -> Prop
  | number _ | identifier _ => True
  | negate operand => operand.LeftGrouped
  | binary op left right =>
      left.LeftGrouped ∧ right.LeftGrouped ∧
        ∀ inner ∈ right.operator?, op.regroups inner = false

/-- An operator between a tree and the left end of a chain. -/
def attach (op : Operator) (left : Expression ν) : Expression ν -> Expression ν
  | binary inner front back =>
      if op.regroups inner then binary inner (attach op left front) back
      else binary op left (binary inner front back)
  | number value => binary op left (number value)
  | identifier name => binary op left (identifier name)
  | negate operand => binary op left (negate operand)

/-- The tree with all its chains regrouped to the left. -/
def regrouped : Expression ν -> Expression ν
  | number value => number value
  | identifier name => identifier name
  | negate operand => negate operand.regrouped
  | binary op left right => attach op left.regrouped right.regrouped

/-! ## Attaching -/

theorem attach_of_not_regroups {op : Operator} {right : Expression ν} (left : Expression ν)
    (apart : ∀ inner ∈ right.operator?, op.regroups inner = false) :
    attach op left right = binary op left right := by
  cases right with
  | number => rfl
  | identifier => rfl
  | negate => rfl
  | binary inner front back =>
      have other : ¬op.regroups inner = true := by simp [apart inner rfl]
      rw [attach, if_neg other]

theorem attach_binary {op inner : Operator} (regroups : op.regroups inner = true)
    (left front back : Expression ν) :
    attach op left (binary inner front back) = binary inner (attach op left front) back := by
  rw [attach, if_pos regroups]

/-- A chain may be attached before or after its last member is attached to
it. -/
theorem attach_attach {op inner : Operator} (regroups : op.regroups inner = true)
    (left front back : Expression ν) :
    attach op left (attach inner front back) = attach inner (attach op left front) back := by
  induction back with
  | number => exact attach_binary regroups left front _
  | identifier => exact attach_binary regroups left front _
  | negate => exact attach_binary regroups left front _
  | binary last first second onFirst =>
      by_cases further : inner.regroups last = true
      · rw [attach_binary further, attach_binary further,
          attach_binary (Operator.regroups_trans regroups further), onFirst]
      · have apart : ∀ other ∈ (binary last first second).operator?,
            inner.regroups other = false := by
          simpa [operator?] using further
        rw [attach_of_not_regroups _ apart, attach_of_not_regroups _ apart,
          attach_binary regroups]

/-- The operator at the root of a regrouped tree is of the same tier as
before. -/
theorem operator?_attach (op : Operator) (left right : Expression ν) :
    ∃ root, (attach op left right).operator? = some root ∧ root.tier = op.tier := by
  cases right with
  | number => exact ⟨op, rfl, rfl⟩
  | identifier => exact ⟨op, rfl, rfl⟩
  | negate => exact ⟨op, rfl, rfl⟩
  | binary inner front back =>
      by_cases regroups : op.regroups inner = true
      · rw [attach_binary regroups]
        exact ⟨inner, rfl, (Operator.tier_of_regroups regroups).symm⟩
      · rw [attach, if_neg regroups]
        exact ⟨op, rfl, rfl⟩

/-- Whether an operator takes over its right operand can be told before
regrouping it. -/
theorem regroups_regrouped {op : Operator} {right : Expression ν} :
    (∀ inner ∈ right.regrouped.operator?, op.regroups inner = false) ↔
      ∀ inner ∈ right.operator?, op.regroups inner = false := by
  cases right with
  | number => exact Iff.rfl
  | identifier => exact Iff.rfl
  | negate => exact Iff.rfl
  | binary inner front back =>
      rcases operator?_attach inner front.regrouped back.regrouped with ⟨root, found, same⟩
      have alike : op.regroups root = op.regroups inner :=
        Operator.regroups_of_tier same
      rw [regrouped, found]
      simp [operator?, alike]

theorem map_attach {μ : Type} (f : ν -> μ) (op : Operator) (left right : Expression ν) :
    (attach op left right).map f = attach op (left.map f) (right.map f) := by
  induction right with
  | number => rfl
  | identifier => rfl
  | negate => rfl
  | binary inner front back onFront =>
      by_cases regroups : op.regroups inner = true
      · rw [attach_binary regroups, map, map, attach_binary regroups, onFront]
      · rw [attach, if_neg regroups, map, map, attach, if_neg regroups]

theorem map_regrouped {μ : Type} (f : ν -> μ) (tree : Expression ν) :
    (tree.map f).regrouped = tree.regrouped.map f := by
  induction tree with
  | number => rfl
  | identifier => rfl
  | negate _ inductionHypothesis => rw [map, regrouped, regrouped, map, inductionHypothesis]
  | binary op left right onLeft onRight =>
      rw [map, regrouped, regrouped, map_attach, onLeft, onRight]

/-! ## The end of regrouping -/

theorem leftGrouped_attach {op : Operator} {left right : Expression ν}
    (onLeft : left.LeftGrouped) (onRight : right.LeftGrouped) :
    (attach op left right).LeftGrouped := by
  induction right with
  | number => exact ⟨onLeft, onRight, by simp [operator?]⟩
  | identifier => exact ⟨onLeft, onRight, by simp [operator?]⟩
  | negate => exact ⟨onLeft, onRight, by simp [operator?]⟩
  | binary inner front back onFront =>
      by_cases regroups : op.regroups inner = true
      · rw [attach_binary regroups]
        exact ⟨onFront onRight.1, onRight.2⟩
      · rw [attach, if_neg regroups]
        exact ⟨onLeft, onRight, by simpa [operator?] using regroups⟩

/-- In a regrouped tree no step is left to be made. -/
theorem leftGrouped_regrouped (tree : Expression ν) : tree.regrouped.LeftGrouped := by
  induction tree with
  | number => trivial
  | identifier => trivial
  | negate _ inductionHypothesis => exact inductionHypothesis
  | binary op left right onLeft onRight => exact leftGrouped_attach onLeft onRight

/-- The condition on the operators says that no step can be made anywhere. -/
theorem leftGrouped_iff (tree : Expression ν) :
    tree.LeftGrouped ↔ ∀ other, ¬Regroups tree other := by
  constructor
  · intro grouped other step
    induction step with
    | turn regroups =>
        rw [grouped.2.2 _ rfl] at regroups
        cases regroups
    | negate _ inductionHypothesis => exact inductionHypothesis grouped
    | left _ _ _ inductionHypothesis => exact inductionHypothesis grouped.1
    | right _ _ _ inductionHypothesis => exact inductionHypothesis grouped.2.1
  · intro final
    induction tree with
    | number => trivial
    | identifier => trivial
    | negate operand inductionHypothesis =>
        exact inductionHypothesis fun other step => final _ (.negate step)
    | binary op left right onLeft onRight =>
        refine ⟨onLeft fun other step => final _ (.left op right step),
          onRight fun other step => final _ (.right op left step), ?_⟩
        intro inner root
        cases right with
        | number => cases root
        | identifier => cases root
        | negate => cases root
        | binary inner' front back =>
            cases root
            exact Bool.eq_false_iff.mpr fun regroups => final _ (.turn regroups left front back)

theorem regrouped_eq_self_iff (tree : Expression ν) :
    tree.regrouped = tree ↔ tree.LeftGrouped := by
  constructor
  · intro same
    rw [← same]
    exact tree.leftGrouped_regrouped
  · intro grouped
    induction tree with
    | number => rfl
    | identifier => rfl
    | negate operand inductionHypothesis => rw [regrouped, inductionHypothesis grouped]
    | binary op left right onLeft onRight =>
        rcases grouped with ⟨leftGrouped, rightGrouped, apart⟩
        rw [regrouped, onLeft leftGrouped, onRight rightGrouped,
          attach_of_not_regroups left apart]

/-! ## The way there -/

open Relation

theorem reflTransGen_attach (op : Operator) (left right : Expression ν) :
    ReflTransGen Regroups (binary op left right) (attach op left right) := by
  induction right with
  | number => exact .refl
  | identifier => exact .refl
  | negate => exact .refl
  | binary inner front back onFront =>
      by_cases regroups : op.regroups inner = true
      · rw [attach_binary regroups]
        refine .head (.turn regroups left front back) ?_
        exact onFront.lift (binary inner · back) fun _ _ step => .left inner back step
      · rw [attach, if_neg regroups]

theorem reflTransGen_regrouped (tree : Expression ν) :
    ReflTransGen Regroups tree tree.regrouped := by
  induction tree with
  | number => exact .refl
  | identifier => exact .refl
  | negate operand inductionHypothesis =>
      exact inductionHypothesis.lift negate fun _ _ step => .negate step
  | binary op left right onLeft onRight =>
      have first : ReflTransGen Regroups (binary op left right) (binary op left.regrouped right) :=
        onLeft.lift (binary op · right) fun _ _ step => .left op right step
      have second : ReflTransGen Regroups (binary op left.regrouped right)
          (binary op left.regrouped right.regrouped) :=
        onRight.lift (binary op left.regrouped ·) fun _ _ step => .right op _ step
      exact (first.trans second).trans (reflTransGen_attach op _ _)

/-! ## What is kept -/

/-- What every step keeps is kept by regrouping. -/
theorem regrouped_of_step {α : Type} (f : Expression ν -> α)
    (kept : ∀ {tree tree' : Expression ν}, Regroups tree tree' -> f tree' = f tree)
    (tree : Expression ν) : f tree.regrouped = f tree := by
  have along {tree' : Expression ν} (steps : ReflTransGen Regroups tree tree') :
      f tree' = f tree := by
    induction steps with
    | refl => rfl
    | tail _ step inductionHypothesis => exact (kept step).trans inductionHypothesis
  exact along tree.reflTransGen_regrouped

theorem Regroups.leaves_eq {tree tree' : Expression ν} (step : Regroups tree tree') :
    tree'.leaves = tree.leaves := by
  induction step with
  | turn => simp [leaves]
  | negate _ inductionHypothesis => exact inductionHypothesis
  | left op right _ inductionHypothesis => rw [leaves, leaves, inductionHypothesis]
  | right op left _ inductionHypothesis => rw [leaves, leaves, inductionHypothesis]

theorem leaves_regrouped (tree : Expression ν) : tree.regrouped.leaves = tree.leaves :=
  regrouped_of_step leaves Regroups.leaves_eq tree

theorem Regroups.occurrences_eq {tree tree' : Expression ν} (step : Regroups tree tree') :
    tree'.occurrences = tree.occurrences := by
  induction step with
  | turn => simp [occurrences]
  | negate _ inductionHypothesis => exact inductionHypothesis
  | left op right _ inductionHypothesis => rw [occurrences, occurrences, inductionHypothesis]
  | right op left _ inductionHypothesis => rw [occurrences, occurrences, inductionHypothesis]

theorem occurrences_regrouped (tree : Expression ν) :
    tree.regrouped.occurrences = tree.occurrences :=
  regrouped_of_step occurrences Regroups.occurrences_eq tree

theorem Regroups.evaluateIn_eq {arithmetic : Arithmetic ν} (law : arithmetic.Regroupable)
    (resolver : Resolver σ ν) {tree tree' : Expression ν} (step : Regroups tree tree') :
    tree'.evaluateIn arithmetic resolver = tree.evaluateIn arithmetic resolver := by
  induction step with
  | turn regroups left front back =>
      simp only [evaluateIn, bind_assoc, pure_bind, law _ _ regroups]
  | negate _ inductionHypothesis => rw [evaluateIn, evaluateIn, inductionHypothesis]
  | left op right _ inductionHypothesis => rw [evaluateIn, evaluateIn, inductionHypothesis]
  | right op left _ inductionHypothesis => rw [evaluateIn, evaluateIn, inductionHypothesis]

/-- In an arithmetic that allows it a regrouped tree has the value of the
tree. -/
theorem evaluateIn_regrouped {arithmetic : Arithmetic ν} (law : arithmetic.Regroupable)
    (resolver : Resolver σ ν) (tree : Expression ν) :
    tree.regrouped.evaluateIn arithmetic resolver = tree.evaluateIn arithmetic resolver :=
  regrouped_of_step (evaluateIn arithmetic resolver) (Regroups.evaluateIn_eq law resolver) tree

theorem Regroups.regrouped_eq {tree tree' : Expression ν} (step : Regroups tree tree') :
    tree'.regrouped = tree.regrouped := by
  induction step with
  | turn regroups left front back => exact (attach_attach regroups _ _ _).symm
  | negate _ inductionHypothesis => rw [regrouped, regrouped, inductionHypothesis]
  | left op right _ inductionHypothesis => rw [regrouped, regrouped, inductionHypothesis]
  | right op left _ inductionHypothesis => rw [regrouped, regrouped, inductionHypothesis]

end Expression
end Reckoner
