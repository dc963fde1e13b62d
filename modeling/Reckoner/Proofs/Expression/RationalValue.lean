import Reckoner.Proofs.Expression.Lookups
import Reckoner.Proofs.Expression.NormalForm
import Reckoner.Proofs.Number.Exact

namespace Reckoner

/-!
# Values without rounding

A tree can be evaluated with rational numbers in place of binary64 numbers.
Its finite numbers are rational as they stand, and the names get rational
values.  Nothing is rounded and nothing overflows, but there is no quotient by
zero, and no result where an operand has none.

In this arithmetic chains of sums and of products may be regrouped
(`regroupable_rational`).  A quotient has to be taken into account here that
changes its place in a chain: its divisor stays the same, and is zero before
and after.  The line of a tree therefore loses no value and gains none when
parentheses are left out (`exactValue_toInfix`), although the same line may
have another value in binary64 numbers.
-/

/-- The result of an operator on rational numbers, if there is one. -/
def Operator.rational? : Operator -> ℚ -> ℚ -> Option ℚ
  | .add, a, b => some (a + b)
  | .subtract, a, b => some (a - b)
  | .multiply, a, b => some (a * b)
  | .divide, a, b => if b = 0 then none else some (a / b)

/-- The arithmetic of rational numbers, in which a result can be missing. -/
def Arithmetic.rational : Arithmetic (Option ℚ) where
  apply op first second := first.bind fun a => second.bind fun b => op.rational? a b
  negate operand := operand.map fun a => -a

/-- Where a divisor is zero neither grouping has a value, and elsewhere both
have the same. -/
theorem regroupable_rational : Arithmetic.rational.Regroupable := by
  intro op inner regroups first second third
  have quotient (a b c : ℚ) :
      ((if c = 0 then none else some (b / c)).bind fun q => some (a * q)) =
        if c = 0 then none else some (a * b / c) := by
    split
    · rfl
    · rw [Option.bind_some, mul_div_assoc]
  rcases first with _ | a
  · rfl
  · rcases second with _ | b
    · rfl
    · rcases third with _ | c
      · rcases Operator.regroups_iff_listed.mp regroups with
          ⟨rfl, rfl | rfl⟩ | ⟨rfl, rfl | rfl⟩ <;> rfl
      · rcases Operator.regroups_iff_listed.mp regroups with
          ⟨rfl, rfl | rfl⟩ | ⟨rfl, rfl | rfl⟩
        · exact congrArg some (add_assoc a b c).symm
        · exact congrArg some (add_sub_assoc a b c).symm
        · exact congrArg some (mul_assoc a b c).symm
        · exact quotient a b c

namespace Expression

variable {assignment : String -> ℚ}

/-- A tree is evaluated with rational numbers, its names having given values,
and comes to a number or to none. -/
def ComesTo (assignment : String -> ℚ) (tree : Expression Float) (value? : Option ℚ) : Prop :=
  ((tree.map Binary64.rational?).evaluateIn .rational
    (Resolver.ofFunction fun name => some (some (assignment name)))).run () = (.ok value?, ())

def HasFiniteNumbers (tree : Expression Float) : Prop :=
  ∀ value, number value ∈ tree.leaves -> value.isFinite = true

def DividesByZero (assignment : String -> ℚ) (tree : Expression Float) : Prop :=
  ∃ dividend divisor, binary .divide dividend divisor ∈ tree.subtrees ∧
    divisor.ComesTo assignment (some 0)

theorem ComesTo.unique {tree : Expression Float} {first second : Option ℚ}
    (comes : tree.ComesTo assignment first) (comes' : tree.ComesTo assignment second) :
    first = second := by
  cases comes.symm.trans comes'
  rfl

theorem ComesTo.negate {operand : Expression Float} {value? : Option ℚ}
    (inner : operand.ComesTo assignment value?) :
    (negate operand).ComesTo assignment (Arithmetic.rational.negate value?) := by
  rw [ComesTo] at inner
  rw [ComesTo, map, evaluateIn, Evaluation.run_bind, inner]
  rfl

theorem ComesTo.binary {left right : Expression Float} {first second : Option ℚ}
    (onLeft : left.ComesTo assignment first) (onRight : right.ComesTo assignment second)
    (op : Operator) :
    (binary op left right).ComesTo assignment (Arithmetic.rational.apply op first second) := by
  rw [ComesTo] at onLeft onRight
  rw [ComesTo, map, evaluateIn, Evaluation.run_bind, onLeft]
  simp only
  rw [Evaluation.run_bind, onRight]
  rfl

theorem comesTo_regrouped (tree : Expression Float) (value? : Option ℚ) :
    tree.regrouped.ComesTo assignment value? ↔ tree.ComesTo assignment value? := by
  rw [ComesTo, ComesTo, ← map_regrouped, evaluateIn_regrouped regroupable_rational]

theorem rational_apply_eq_none_iff {op : Operator} {first second : Option ℚ} :
    Arithmetic.rational.apply op first second = none ↔
      first = none ∨ second = none ∨ (op = .divide ∧ second = some 0) := by
  rcases first with _ | a <;> rcases second with _ | b <;> cases op <;>
    simp [Arithmetic.rational, Operator.rational?]

theorem dividesByZero_binary {op : Operator} {left right : Expression Float} :
    (binary op left right).DividesByZero assignment ↔
      left.DividesByZero assignment ∨ right.DividesByZero assignment ∨
        (op = .divide ∧ right.ComesTo assignment (some 0)) := by
  constructor
  · rintro ⟨dividend, divisor, member, zero⟩
    rcases List.mem_cons.mp member with same | within
    · cases same
      exact .inr (.inr ⟨rfl, zero⟩)
    · rcases List.mem_append.mp within with before | behind
      · exact .inl ⟨dividend, divisor, before, zero⟩
      · exact .inr (.inl ⟨dividend, divisor, behind, zero⟩)
  · rintro (⟨dividend, divisor, member, zero⟩ | ⟨dividend, divisor, member, zero⟩ | ⟨rfl, zero⟩)
    · exact ⟨dividend, divisor, .tail _ (List.mem_append_left _ member), zero⟩
    · exact ⟨dividend, divisor, .tail _ (List.mem_append_right _ member), zero⟩
    · exact ⟨left, right, List.mem_cons_self, zero⟩

/-- A tree of finite numbers comes to a number unless it divides by zero. -/
theorem exists_comesTo {tree : Expression Float} (finite : tree.HasFiniteNumbers) :
    ∃ value?, tree.ComesTo assignment value? ∧
      (value? = none ↔ tree.DividesByZero assignment) := by
  induction tree with
  | number value =>
      refine ⟨Binary64.rational? value, rfl, ?_⟩
      rw [Binary64.rational?, if_pos (finite value List.mem_cons_self)]
      simp [DividesByZero, subtrees]
  | identifier name => exact ⟨some (assignment name), rfl, by simp [DividesByZero, subtrees]⟩
  | negate operand inductionHypothesis =>
      rcases inductionHypothesis finite with ⟨value?, comes, undefined⟩
      refine ⟨_, comes.negate, ?_⟩
      simpa [Arithmetic.rational, DividesByZero, subtrees] using undefined
  | binary op left right onLeft onRight =>
      rcases onLeft fun value member => finite value (List.mem_append_left _ member) with
        ⟨first, comesLeft, undefinedLeft⟩
      rcases onRight fun value member => finite value (List.mem_append_right _ member) with
        ⟨second, comesRight, undefinedRight⟩
      have zero : right.ComesTo assignment (some 0) ↔ second = some 0 :=
        ⟨fun comes => comesRight.unique comes, fun same => same ▸ comesRight⟩
      refine ⟨_, comesLeft.binary comesRight op, ?_⟩
      rw [rational_apply_eq_none_iff, dividesByZero_binary, undefinedLeft, undefinedRight, zero]

end Expression

/-- The line of a tree of finite numbers is read as a tree with the same exact
value, whatever values its names have.  Both have none if and only if the tree
divides by zero. -/
theorem exactValue_toInfix {tree : Expression Float} (finite : tree.HasFiniteNumbers) :
    ∃ read, parse tree.toInfix = .ok read ∧ ∀ assignment : String -> ℚ,
      ∃ value?, tree.ComesTo assignment value? ∧ read.ComesTo assignment value? ∧
        (value? = none ↔ tree.DividesByZero assignment) := by
  refine ⟨tree.regrouped, parse_of_derives tree.derives_toInfix, fun assignment => ?_⟩
  rcases Expression.exists_comesTo finite with ⟨value?, comes, undefined⟩
  exact ⟨value?, comes, (tree.comesTo_regrouped value?).mpr comes, undefined⟩

/-- In `x * (y / (z - 2.5))` the divisor, which can be zero, changes its
place. -/
theorem exactValue_toInfix_quotient :
    let divisor : Expression Float := .binary .subtract (.identifier "z") (.number 2.5)
    let tree : Expression Float := .binary .multiply (.identifier "x")
      (.binary .divide (.identifier "y") divisor)
    let read : Expression Float := .binary .divide
      (.binary .multiply (.identifier "x") (.identifier "y")) divisor
    tree.HasFiniteNumbers ∧ parse tree.toInfix = .ok read ∧ ∀ assignment : String -> ℚ,
      ∃ value?, tree.ComesTo assignment value? ∧ read.ComesTo assignment value? ∧
        (value? = none ↔ tree.DividesByZero assignment) := by
  intro divisor tree read
  have finite : tree.HasFiniteNumbers := by
    intro value member
    simp only [tree, divisor, Expression.leaves, List.cons_append, List.nil_append,
      List.mem_cons, reduceCtorEq, false_or, Expression.number.injEq, List.not_mem_nil, or_false]
      at member
    rw [member]
    decide +kernel
  have parsed : parse tree.toInfix = .ok read := by decide +kernel
  rcases exactValue_toInfix finite with ⟨read', parsed', same⟩
  cases parsed.symm.trans parsed'
  exact ⟨finite, parsed, same⟩

end Reckoner
