import Reckoner.Expression.Infix
import Reckoner.Proofs.Expression.Regrouping
import Reckoner.Proofs.Grammar
import Reckoner.Proofs.Number.ReadingBack

namespace Reckoner

/-!
# The tokens of a tree

The grammar derives the regrouped tree from the tokens of a tree
(`Expression.derives_toInfix`).  The tokens of a subtree are a phrase of their
own where they stand in parentheses, and also where the operators around them
bind less tightly.  The remaining case is a right operand that goes without
parentheses and binds just as tightly.  Its tokens are no phrase there: the
chain in front of them runs on into them.  What the induction says of a right
operand is therefore said for every chain that may stand before it.

The tokens do not tell a tree from its regrouped tree
(`Expression.toInfix_regrouped`).
-/

/-- An operator that takes over a chain writes no parentheses around it, and
treats the left end of the chain as the chain does. -/
theorem Operator.parenthesizes_of_regroups {op inner : Operator}
    (regroups : op.regroups inner = true) :
    op.parenthesizesRight (some inner) = false ∧
      ∀ left : Option Operator, inner.parenthesizesLeft left = op.parenthesizesRight left := by
  rcases regroups_iff.mp regroups with ⟨equal, insensitive⟩
  constructor
  · simp [Operator.parenthesizesRight, equal, insensitive]
  · intro left
    cases left with
    | none => rfl
    | some other =>
        simp [Operator.parenthesizesLeft, Operator.parenthesizesRight, equal, insensitive]

namespace Expression

/-- The phrase that the tokens of a tree are. -/
def surface : Expression Float -> Phrase
  | number _ | identifier _ => .leaf
  | negate _ => .operand
  | binary op _ _ => .chain op.tier

/-- In parentheses where they are needed, the tokens of a tree are any
phrase. -/
theorem derives_parenthesizeIf {tree regrouped : Expression Float} {tokens : List Token}
    {needed : Bool} {phrase : Phrase} (derived : Derives tree.surface tokens regrouped)
    (fits : needed = false -> phrase.level ≤ tree.surface.level) :
    Derives phrase (parenthesizeIf needed tokens) regrouped := by
  cases needed with
  | false => exact derived.of_level_le (fits rfl)
  | true =>
      have inner : Derives (.chain .sum) tokens regrouped :=
        derived.of_level_le (Phrase.level_sum_le _)
      have leaf : Derives .leaf (Token.ofKind .opening :: tokens ++ [Token.ofKind .closing])
          regrouped := .parenthesized rfl rfl inner
      exact leaf.of_level_le phrase.level_le_leaf

theorem level_of_parenthesizesLeft {op : Operator} {left : Expression Float}
    (bare : op.parenthesizesLeft left.operator? = false) :
    (Phrase.chain op.tier).level ≤ left.surface.level := by
  cases left with
  | number => exact Phrase.level_le_leaf _
  | identifier => exact Phrase.level_le_leaf _
  | negate =>
      rw [Phrase.level, op.precedence_tier]
      exact Nat.le_of_lt op.precedence_lt_negationPrecedence
  | binary inner =>
      rw [operator?, Operator.parenthesizesLeft, decide_eq_false_iff_not] at bare
      rw [surface, Phrase.level, Phrase.level, op.precedence_tier, inner.precedence_tier]
      exact Nat.le_of_not_gt bare

theorem level_of_parenthesizesRight {op : Operator} {right : Expression Float}
    (bare : op.parenthesizesRight right.operator? = false)
    (apart : ∀ inner ∈ right.operator?, op.regroups inner = false) :
    op.tier.member.level ≤ right.surface.level := by
  rw [op.tier.level_member, op.precedence_tier]
  cases right with
  | number => exact Nat.le_succ_of_le op.precedence_lt_negationPrecedence
  | identifier => exact Nat.le_succ_of_le op.precedence_lt_negationPrecedence
  | negate => exact op.precedence_lt_negationPrecedence
  | binary inner =>
      have apart := Bool.eq_false_iff.mp (apart inner rfl)
      rw [Ne, Operator.regroups_iff] at apart
      rw [operator?, Operator.parenthesizesRight, Bool.or_eq_false_iff, decide_eq_false_iff_not]
        at bare
      rw [surface, Phrase.level, inner.precedence_tier]
      apply Nat.lt_of_le_of_ne (Nat.le_of_not_gt bare.1)
      intro equal
      have insensitive : op.isRightSensitive = false := by simpa [equal] using bare.2
      exact apart ⟨equal, insensitive⟩

/-- What the grammar makes of the tokens of a tree: by themselves, and as a
right operand behind a chain. -/
structure ReadsBack (tree : Expression Float) : Prop where
  alone : Derives tree.surface tree.toInfix tree.regrouped
  behind : ∀ (op : Operator) (front : List Token) (left : Expression Float),
    Derives (.chain op.tier) front left ->
      Derives (.chain op.tier)
        (front ++ Token.ofKind (.binary op) ::
          parenthesizeIf (op.parenthesizesRight tree.operator?) tree.toInfix)
        (attach op left tree.regrouped)

/-- Where the chain in front does not run on, a right operand is a member of
it. -/
theorem derives_behind {tree : Expression Float}
    (alone : Derives tree.surface tree.toInfix tree.regrouped) {op : Operator}
    (apart : ∀ inner ∈ tree.operator?, op.regroups inner = false) {front : List Token}
    {left : Expression Float} (first : Derives (.chain op.tier) front left) :
    Derives (.chain op.tier)
      (front ++ Token.ofKind (.binary op) ::
        parenthesizeIf (op.parenthesizesRight tree.operator?) tree.toInfix)
      (attach op left tree.regrouped) := by
  have member : Derives op.tier.member
      (parenthesizeIf (op.parenthesizesRight tree.operator?) tree.toInfix) tree.regrouped :=
    derives_parenthesizeIf alone fun bare => level_of_parenthesizesRight bare apart
  rw [attach_of_not_regroups left (regroups_regrouped.mpr apart)]
  exact .joined first rfl rfl member

/-- A tree that no operator takes over reads back if its own tokens do. -/
private theorem readsBack_of_root {tree : Expression Float} (root : tree.operator? = none)
    (alone : Derives tree.surface tree.toInfix tree.regrouped) : ReadsBack tree := by
  refine ⟨alone, fun op front left first => derives_behind alone ?_ first⟩
  simp [root]

private theorem readsBack_negate {operand : Expression Float} (inner : ReadsBack operand) :
    ReadsBack (negate operand) := by
  have leaf : Derives .leaf (parenthesizeIf (!operand.isLeaf) operand.toInfix)
      operand.regrouped := by
    apply derives_parenthesizeIf inner.alone
    intro bare
    cases operand with
    | number => exact Nat.le_refl _
    | identifier => exact Nat.le_refl _
    | negate => cases bare
    | binary => cases bare
  have sign : ∀ sign ∈ [Token.ofKind .negate], sign.isSign = true := by decide
  have odd : Odd ([Token.ofKind .negate].countP Token.isNegating) := by decide
  have signed := Derives.signed sign leaf
  rw [if_pos odd] at signed
  exact readsBack_of_root rfl signed

private theorem readsBack_binary {inner : Operator} {front back : Expression Float}
    (onFront : ReadsBack front) (onBack : ReadsBack back) :
    ReadsBack (binary inner front back) := by
  have start : Derives (.chain inner.tier)
      (parenthesizeIf (inner.parenthesizesLeft front.operator?) front.toInfix)
      front.regrouped :=
    derives_parenthesizeIf onFront.alone level_of_parenthesizesLeft
  have alone : Derives (binary inner front back).surface (binary inner front back).toInfix
      (binary inner front back).regrouped := onBack.behind inner _ _ start
  refine ⟨alone, ?_⟩
  intro op tokens left first
  by_cases regroups : op.regroups inner = true
  · rcases Operator.parenthesizes_of_regroups regroups with ⟨bare, same⟩
    have tier := Operator.tier_of_regroups regroups
    -- The chain in front takes the first member of the operand, then all others.
    have joined := onFront.behind op tokens left first
    rw [← same, tier] at joined
    have whole := onBack.behind inner _ _ joined
    rw [← attach_attach regroups, List.append_assoc] at whole
    rw [operator?, bare, tier]
    exact whole
  · exact derives_behind alone (by simpa [operator?] using regroups) first

theorem readsBack (tree : Expression Float) : ReadsBack tree := by
  induction tree with
  | number value =>
      exact readsBack_of_root rfl (.number rfl (NumberStyle.readNumber_write value))
  | identifier name => exact readsBack_of_root rfl (@Derives.identifier ⟨.identifier, name⟩ rfl)
  | negate _ inductionHypothesis => exact readsBack_negate inductionHypothesis
  | binary _ _ _ onFront onBack => exact readsBack_binary onFront onBack

/-- The tokens of a tree are read as the regrouped tree. -/
theorem derives_toInfix (tree : Expression Float) :
    Derives (.chain .sum) tree.toInfix tree.regrouped :=
  tree.readsBack.alone.of_level_le (Phrase.level_sum_le _)

/-! ## The tokens of a regrouped tree -/

theorem parenthesizesLeft_eq (op : Operator) (left : Expression Float) :
    op.parenthesizesLeft left.operator? = decide (left.surface.level < op.precedence) := by
  have tight := op.precedence_lt_negationPrecedence
  cases left with
  | number => exact (decide_eq_false (Nat.not_lt_of_ge (Nat.le_succ_of_le tight.le))).symm
  | identifier => exact (decide_eq_false (Nat.not_lt_of_ge (Nat.le_succ_of_le tight.le))).symm
  | negate => exact (decide_eq_false (Nat.not_lt_of_ge tight.le)).symm
  | binary inner =>
      rw [operator?, Operator.parenthesizesLeft, surface, Phrase.level, inner.precedence_tier]

theorem parenthesizesRight_eq (op : Operator) (right : Expression Float) :
    op.parenthesizesRight right.operator? =
      (decide (right.surface.level < op.precedence) ||
        (op.precedence == right.surface.level && op.isRightSensitive)) := by
  cases right with
  | number => cases op <;> rfl
  | identifier => cases op <;> rfl
  | negate => cases op <;> rfl
  | binary inner =>
      rw [operator?, Operator.parenthesizesRight, surface, Phrase.level, inner.precedence_tier]

theorem isLeaf_eq (tree : Expression Float) : tree.isLeaf = decide (tree.surface = .leaf) := by
  cases tree <;> rfl

/-- Regrouping does not change the surface of a tree, since it stays within a
tier. -/
theorem Regroups.surface_eq {tree tree' : Expression Float} (step : Regroups tree tree') :
    tree'.surface = tree.surface := by
  cases step with
  | turn regroups => rw [surface, surface, Operator.tier_of_regroups regroups]
  | negate => rfl
  | left => rfl
  | right => rfl

/-- A step of regrouping cannot be seen in the tokens: where an operator takes
over a chain no parentheses have been written. -/
theorem Regroups.toInfix_eq {tree tree' : Expression Float} (step : Regroups tree tree') :
    tree'.toInfix = tree.toInfix := by
  induction step with
  | @turn op inner regroups left front back =>
      rcases Operator.parenthesizes_of_regroups regroups with ⟨bareRight, same⟩
      have bareLeft : inner.parenthesizesLeft (some op) = false := by
        have equal := (Operator.regroups_iff.mp regroups).1
        simp [Operator.parenthesizesLeft, equal]
      have root (op : Operator) (left right : Expression Float) :
          (binary op left right).operator? = some op := rfl
      rw [toInfix, toInfix, toInfix, toInfix, root, root, bareLeft, bareRight, same]
      simp only [parenthesizeIf, Bool.false_eq_true, if_false, List.append_assoc,
        List.cons_append]
  | negate step inductionHypothesis =>
      rw [toInfix, toInfix, isLeaf_eq, isLeaf_eq, step.surface_eq, inductionHypothesis]
  | left op right step inductionHypothesis =>
      rw [toInfix, toInfix, parenthesizesLeft_eq, parenthesizesLeft_eq, step.surface_eq,
        inductionHypothesis]
  | right op left step inductionHypothesis =>
      rw [toInfix, toInfix, parenthesizesRight_eq op, parenthesizesRight_eq op, step.surface_eq,
        inductionHypothesis]

theorem toInfix_regrouped (tree : Expression Float) : tree.regrouped.toInfix = tree.toInfix :=
  regrouped_of_step toInfix Regroups.toInfix_eq tree

end Expression
end Reckoner
