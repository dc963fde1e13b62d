import Mathlib.Data.List.Forall2
import Reckoner.Proofs.Grammar

namespace Reckoner

/-!
# The leaves of a derivation

Numbers and names are the only tokens that become leaves.  They do so in the
order in which they stand (`Derives.leaves`), whatever precedences and
parentheses do to the inner nodes, so that the leaf of a token can be found by
counting the leaves before it.

A derivation does not look into its leaves.  In place of one of them any other
leaf may stand, in particular an expression in parentheses, and the tree
changes in this one leaf and nowhere else (`Derives.replace`).
-/

def Token.isLeaf (token : Token) : Bool :=
  match token.kind with
  | .number | .identifier => true
  | _ => false

theorem Token.isLeaf_iff {token : Token} :
    token.isLeaf = true ↔ token.kind = .number ∨ token.kind = .identifier := by
  rw [isLeaf]
  cases token.kind <;> simp

theorem Token.isLeaf_of_isSign {token : Token} (sign : token.isSign = true) :
    token.isLeaf = false := by
  rw [isSign] at sign
  rw [isLeaf]
  cases kind : token.kind <;> simp_all [TokenKind.isSign]

/-- The leaf that a token becomes. -/
inductive Token.Denotes : Token -> Expression Float -> Prop where
  | number {token : Token} {value : Float} (kind : token.kind = .number)
      (reads : readNumber token.text = some value) : Denotes token (.number value)
  | identifier {token : Token} (kind : token.kind = .identifier) :
      Denotes token (.identifier token.text)

private theorem filter_isLeaf_signs {signs : List Token}
    (run : ∀ sign ∈ signs, sign.isSign = true) : signs.filter Token.isLeaf = [] := by
  rw [List.filter_eq_nil_iff]
  intro sign member
  simp [Token.isLeaf_of_isSign (run sign member)]

/-- The leaves of a derived tree are those of its tokens, in the same order. -/
theorem Derives.leaves {phrase : Phrase} {tokens : List Token} {tree : Expression Float}
    (derived : Derives phrase tokens tree) :
    List.Forall₂ Token.Denotes (tokens.filter Token.isLeaf) tree.leaves := by
  induction derived with
  | single _ inductionHypothesis => exact inductionHypothesis
  | joined _ kind _ _ onFront onBack =>
      rw [List.filter_append, List.filter_cons_of_neg (by simp [Token.isLeaf, kind])]
      exact List.rel_append onFront onBack
  | @signed signs tokens tree run _ inductionHypothesis =>
      rw [List.filter_append, filter_isLeaf_signs run, List.nil_append]
      split
      · exact inductionHypothesis
      · exact inductionHypothesis
  | number kind reads =>
      rw [List.filter_cons_of_pos (by simp [Token.isLeaf, kind])]
      exact .cons (.number kind reads) .nil
  | identifier kind =>
      rw [List.filter_cons_of_pos (by simp [Token.isLeaf, kind])]
      exact .cons (.identifier kind) .nil
  | parenthesized opens closes _ inductionHypothesis =>
      rw [List.cons_append, List.filter_cons_of_neg (by simp [Token.isLeaf, opens]),
        List.filter_append, List.filter_cons_of_neg (by simp [Token.isLeaf, closes]),
        List.filter_nil, List.append_nil]
      exact inductionHypothesis

theorem Derives.length_leaves {phrase : Phrase} {tokens : List Token} {tree : Expression Float}
    (derived : Derives phrase tokens tree) :
    tree.leaves.length = tokens.countP Token.isLeaf := by
  rw [List.countP_eq_length_filter]
  exact derived.leaves.length_eq.symm

/-- The leaf of a name stands behind those of the tokens before it. -/
theorem Derives.leaf_identifier {phrase : Phrase} {front back : List Token} {token : Token}
    {tree : Expression Float} (derived : Derives phrase (front ++ token :: back) tree)
    (kind : token.kind = .identifier) :
    tree.leaves[front.countP Token.isLeaf]? = some (.identifier token.text) := by
  have behind := List.forall₂_drop (front.countP Token.isLeaf) derived.leaves
  rw [List.filter_append, List.filter_cons_of_pos (by simp [Token.isLeaf, kind]),
    List.countP_eq_length_filter, List.drop_left] at behind
  rw [List.countP_eq_length_filter, ← List.head?_drop]
  rcases List.forall₂_cons_left_iff.mp behind with ⟨leaf, others, denotes, _, split⟩
  rw [split]
  cases denotes with
  | number kind' => cases kind.symm.trans kind'
  | identifier => rfl

namespace Expression

variable {ν : Type}

/-- The tree with another one in place of a leaf, which is found by its number
from the left. -/
def replaceLeaf (tree : Expression ν) (index : Nat) (other : Expression ν) : Expression ν :=
  match tree with
  | number _ | identifier _ => if index = 0 then other else tree
  | negate operand => .negate (operand.replaceLeaf index other)
  | binary op left right =>
      if index < left.leaves.length then .binary op (left.replaceLeaf index other) right
      else .binary op left (right.replaceLeaf (index - left.leaves.length) other)

end Expression

/-! ## Another leaf in place of one -/

private theorem split_of_append_eq {part rest front back : List Token} {token : Token}
    (same : part ++ rest = front ++ token :: back) :
    (∃ middle, part = front ++ token :: middle ∧ back = middle ++ rest) ∨
      ∃ middle, front = part ++ middle ∧ rest = middle ++ token :: back := by
  rcases List.append_eq_append_iff.mp same with ⟨middle, split, behind⟩ | ⟨middle, split, behind⟩
  · exact .inr ⟨middle, split, behind⟩
  · cases middle with
    | nil => exact .inr ⟨[], by simpa using split.symm, by simpa using behind.symm⟩
    | cons first middle =>
        cases behind
        exact .inl ⟨middle, split, rfl⟩

/-- It stands in the second part if the first one has no leaves and it is a
leaf. -/
private theorem split_behind (part : List Token) {rest front back : List Token} {token : Token}
    (same : part ++ rest = front ++ token :: back) (leaf : token.isLeaf = true)
    (others : ∀ other ∈ part, other.isLeaf = false) :
    ∃ middle, front = part ++ middle ∧ rest = middle ++ token :: back := by
  rcases split_of_append_eq same with ⟨middle, split, _⟩ | behind
  · have other := others token (by simp [split])
    rw [leaf] at other
    cases other
  · exact behind

private theorem countP_behind {part : List Token}
    (others : ∀ other ∈ part, other.isLeaf = false) (rest : List Token) :
    (part ++ rest).countP Token.isLeaf = rest.countP Token.isLeaf := by
  have none : part.countP Token.isLeaf = 0 := List.countP_eq_zero.mpr (by simpa using others)
  rw [List.countP_append, none, Nat.zero_add]

/-- Any leaf may stand in place of a token that is one.  The tree changes in
the leaf of this token. -/
theorem Derives.replace {phrase : Phrase} {front back inserted : List Token} {token : Token}
    {tree other : Expression Float} (derived : Derives phrase (front ++ token :: back) tree)
    (leaf : token.isLeaf = true) (inner : Derives .leaf inserted other) :
    Derives phrase (front ++ inserted ++ back)
      (tree.replaceLeaf (front.countP Token.isLeaf) other) := by
  generalize whole : front ++ token :: back = tokens at derived
  induction derived generalizing front back with
  | single _ inductionHypothesis => exact .single (inductionHypothesis whole)
  | @joined tier op operator before behind left right first kind same last onFirst onLast =>
      have operatorNoLeaf : ∀ other ∈ [operator], other.isLeaf = false := by
        simp [Token.isLeaf, kind]
      rcases split_of_append_eq whole.symm with ⟨middle, rfl, rfl⟩ | ⟨middle, rfl, split⟩
      · have within : front.countP Token.isLeaf < left.leaves.length := by
          rw [first.length_leaves, List.countP_append, List.countP_cons_of_pos leaf]
          omega
        rw [Expression.replaceLeaf, if_pos within, ← List.append_assoc]
        exact .joined (onFirst rfl) kind same last
      · rcases split_behind [operator] split leaf operatorNoLeaf with ⟨inside, rfl, rfl⟩
        have counted : (before ++ ([operator] ++ inside)).countP Token.isLeaf =
            left.leaves.length + inside.countP Token.isLeaf := by
          rw [first.length_leaves, List.countP_append, countP_behind operatorNoLeaf]
        rw [counted, Expression.replaceLeaf, if_neg (by omega), Nat.add_sub_cancel_left]
        simpa using Derives.joined first kind same (onLast rfl)
  | @signed signs tokens tree run _ inductionHypothesis =>
      have signsNoLeaf : ∀ sign ∈ signs, sign.isLeaf = false :=
        fun sign member => Token.isLeaf_of_isSign (run sign member)
      rcases split_behind signs whole.symm leaf signsNoLeaf with ⟨middle, rfl, rfl⟩
      rw [countP_behind signsNoLeaf, List.append_assoc, List.append_assoc,
        ← List.append_assoc middle]
      have signed := Derives.signed run (inductionHypothesis rfl)
      split
      · rename_i odd
        rwa [if_pos odd] at signed
      · rename_i even
        rwa [if_neg even] at signed
  | number _ _ | identifier _ =>
      rcases List.append_eq_singleton_iff.mp whole with ⟨rfl, split⟩ | ⟨rfl, split⟩
      · cases split
        simpa [Expression.replaceLeaf] using inner
      · cases split
  | @parenthesized opening closing tokens tree opens closes _ inductionHypothesis =>
      have openingNoLeaf : ∀ other ∈ [opening], other.isLeaf = false := by
        simp [Token.isLeaf, opens]
      rcases split_behind [opening] whole.symm leaf openingNoLeaf with
        ⟨middle, rfl, split⟩
      rcases split_of_append_eq split with ⟨inside, rfl, rfl⟩ | ⟨inside, rfl, split'⟩
      · rw [countP_behind openingNoLeaf]
        simpa using Derives.parenthesized opens closes (inductionHypothesis rfl)
      · have impossible : token = closing := by
          have member : token ∈ [closing] := by simp [split']
          exact List.mem_singleton.mp member
        simp [Token.isLeaf, impossible, closes] at leaf

end Reckoner
