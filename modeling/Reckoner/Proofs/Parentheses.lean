import Reckoner.Proofs.Conversion
import Reckoner.Proofs.Postfix.Frame

namespace Reckoner

/-!
# Expressions in parentheses

An expression in parentheses can stand wherever a name can.  The tree of the
whole is then the tree with the name, changed in the leaf of this name only,
and its postfix order is the one with the name, in which the postfix order of
the inserted expression has taken the place of the name.  The two statements
have different reasons.  A derivation does not look into its leaves, and a
conversion does not look below an opening parenthesis.

Parentheses around a number, a name or other parentheses are therefore without
effect, and so are those around a whole expression.  Nothing is said about
parentheses that change the grouping.

The inserted expression must not contain an end of the expression.  Alone it
would be read up to there, and in parentheses it is refused.
-/

def Token.enclose (tokens : List Token) : List Token :=
  .ofKind .opening :: tokens ++ [.ofKind .closing]

/-- Tokens that come to the same in both ways of reading, if they come to
anything. -/
structure SameResults (tokens tokens' : List Token) : Prop where
  tree : ∀ tree, parse tokens = .ok tree ↔ parse tokens' = .ok tree
  ordered : ∀ ordered, toPostfix tokens = .ok ordered ↔ toPostfix tokens' = .ok ordered

theorem Derives.enclose {tokens : List Token} {tree : Expression Float}
    (derived : Derives (.chain .sum) tokens tree) : Derives .leaf (Token.enclose tokens) tree :=
  .parenthesized rfl rfl derived

theorem Yard.passes_enclose {tokens listing : List Token} (nonempty : tokens ≠ [])
    (converted : toPostfix tokens = .ok listing) : Passes (Token.enclose tokens) listing :=
  passes_enclosed rfl rfl nonempty converted

theorem Derives.passes {tokens : List Token} {tree : Expression Float}
    (derived : Derives .leaf tokens tree) : ∃ listing, Yard.Passes tokens listing := by
  cases derived with
  | number kind => exact ⟨_, Yard.passes_leaf (Token.isLeaf_iff.mpr (.inl kind))⟩
  | identifier kind => exact ⟨_, Yard.passes_leaf (Token.isLeaf_iff.mpr (.inr kind))⟩
  | parenthesized opens closes inner =>
      rcases toPostfix_of_derives inner with ⟨listing, converted, _⟩
      exact ⟨listing, Yard.passes_enclosed opens closes inner.ne_nil converted⟩

/-- Tokens that pass alike can be exchanged without effect. -/
private theorem toPostfix_of_alike {front back part part' listing ordered : List Token}
    (passes : Yard.Passes part listing) (passes' : Yard.Passes part' listing)
    (converted : toPostfix (front ++ part ++ back) = .ok ordered) :
    toPostfix (front ++ part' ++ back) = .ok ordered := by
  rcases toPostfix_exchange passes passes' converted with ⟨before, behind, _, whole, exchanged⟩
  rw [whole]
  exact exchanged

private theorem sameResults_of_toPostfix {tokens tokens' : List Token}
    (endless : ∀ token ∈ tokens, token.kind ≠ .endOfInput)
    (endless' : ∀ token ∈ tokens', token.kind ≠ .endOfInput)
    (ordered : ∀ ordered, toPostfix tokens = .ok ordered ↔ toPostfix tokens' = .ok ordered) :
    SameResults tokens tokens' := by
  have built {tokens : List Token} (endless : ∀ token ∈ tokens, token.kind ≠ .endOfInput)
      (tree : Expression Float) : parse tokens = .ok tree ↔
      ∃ ordered, toPostfix tokens = .ok ordered ∧ Postfix.toExpression ordered = .ok tree := by
    have either : parse tokens = .ok tree ↔ parseViaPostfix tokens = .ok tree :=
      ⟨fun parsed => parseViaPostfix_of_derives (derives_of_parse endless parsed),
        parse_of_parseViaPostfix endless⟩
    rw [either, parseViaPostfix]
    cases toPostfix tokens <;> simp [bind, Except.bind]
  refine ⟨fun tree => ?_, ordered⟩
  simp only [built endless, built endless', ordered]

theorem sameResults_enclose_leaf {front back part : List Token} {leaf : Expression Float}
    (endless : ∀ token ∈ front ++ back, token.kind ≠ .endOfInput)
    (derived : Derives .leaf part leaf) :
    SameResults (front ++ Token.enclose part ++ back) (front ++ part ++ back) := by
  rcases derived.passes with ⟨listing, passes⟩
  have passes' : Yard.Passes (Token.enclose part) listing :=
    Yard.passes_enclose passes.ne_nil (Yard.toPostfix_of_passes passes)
  have enclosed : Derives .leaf (Token.enclose part) leaf :=
    Derives.enclose (derived.of_level_le (Phrase.level_le_leaf _))
  have around {part : List Token} {leaf : Expression Float} (derived : Derives .leaf part leaf) :
      ∀ token ∈ front ++ part ++ back, token.kind ≠ .endOfInput := by
    rcases List.forall_mem_append.mp endless with ⟨before, behind⟩
    have inside := derived.kind_ne_endOfInput
    exact List.forall_mem_append.mpr ⟨List.forall_mem_append.mpr ⟨before, inside⟩, behind⟩
  exact sameResults_of_toPostfix (around enclosed) (around derived) fun ordered =>
    ⟨toPostfix_of_alike passes' passes, toPostfix_of_alike passes passes'⟩

/-- Parentheses around a whole expression are without effect. -/
theorem sameResults_enclose {tokens : List Token} {tree : Expression Float}
    (derived : Derives (.chain .sum) tokens tree) :
    SameResults (Token.enclose tokens) tokens := by
  rcases toPostfix_of_derives derived with ⟨listing, converted, _⟩
  have converted' := Yard.toPostfix_of_passes (Yard.passes_enclose derived.ne_nil converted)
  have parsed := parse_of_derives derived
  have parsed' := parse_of_derives (derived.enclose.of_level_le (Phrase.level_sum_le _))
  exact ⟨fun _ => by rw [parsed, parsed'], fun _ => by rw [converted, converted']⟩

/-- The leaves of what is put in place of a leaf stand between those before and
behind it. -/
theorem Expression.leaves_replaceLeaf {ν : Type} {tree : Expression ν} {index : Nat}
    (bound : index < tree.leaves.length) (other : Expression ν) :
    (tree.replaceLeaf index other).leaves =
      tree.leaves.take index ++ other.leaves ++ tree.leaves.drop (index + 1) := by
  induction tree generalizing index with
  | number _ | identifier _ =>
      have first : index = 0 := Nat.lt_one_iff.mp bound
      simp [replaceLeaf, first, leaves]
  | negate operand inductionHypothesis => exact inductionHypothesis bound
  | binary op left right onLeft onRight =>
      rw [replaceLeaf]
      split
      · rename_i within
        rw [leaves, onLeft within, leaves, List.take_append_of_le_length (Nat.le_of_lt within),
          List.drop_append_of_le_length within, List.append_assoc _ _ right.leaves]
      · rename_i behind
        have inRight : index - left.leaves.length < right.leaves.length := by
          rw [leaves, List.length_append] at bound
          omega
        have past : left.leaves.length ≤ index := Nat.le_of_not_lt behind
        rw [leaves, onRight inRight, leaves, List.take_append, List.drop_append,
          List.take_of_length_le past, List.drop_of_length_le (Nat.le_succ_of_le past),
          Nat.sub_add_comm past, List.nil_append, List.append_assoc, List.append_assoc,
          List.append_assoc]

/-- An expression in parentheses in place of a name.  The tree changes in the
leaf of the name, and the postfix order in the name; the leaf and the name are
found by counting the leaves before them.  Parentheses without an effect on the
grouping have no effect at all. -/
theorem parentheses_compositional {front inner back : List Token} {name : String}
    {tree context : Expression Float}
    (endless : ∀ token ∈ front ++ inner ++ back, token.kind ≠ .endOfInput)
    (parsed : parse inner = .ok tree)
    (accepted : parse (front ++ ⟨.identifier, name⟩ :: back) = .ok context) :
    let index := front.countP Token.isLeaf
    context.leaves[index]? = some (.identifier name) ∧
      parse (front ++ Token.enclose inner ++ back) = .ok (context.replaceLeaf index tree) ∧
      (∃ before listing behind, before.countP Token.isLeaf = index ∧
        toPostfix inner = .ok listing ∧
        toPostfix (front ++ ⟨.identifier, name⟩ :: back) =
          .ok (before ++ ⟨.identifier, name⟩ :: behind) ∧
        toPostfix (front ++ Token.enclose inner ++ back) = .ok (before ++ listing ++ behind)) ∧
      SameResults (Token.enclose inner) inner ∧
      ∀ part leaf, Derives .leaf part leaf ->
        SameResults (front ++ Token.enclose part ++ back) (front ++ part ++ back) := by
  intro index
  rcases List.forall_mem_append.mp endless with ⟨others, behind⟩
  rcases List.forall_mem_append.mp others with ⟨before, inside⟩
  have around : ∀ token ∈ front ++ back, token.kind ≠ .endOfInput :=
    List.forall_mem_append.mpr ⟨before, behind⟩
  have endless' : ∀ token ∈ front ++ ⟨.identifier, name⟩ :: back, token.kind ≠ .endOfInput :=
    List.forall_mem_append.mpr ⟨before, List.forall_mem_cons.mpr ⟨by simp, behind⟩⟩
  have derived := derives_of_parse inside parsed
  have derived' := derives_of_parse endless' accepted
  refine ⟨derived'.leaf_identifier rfl, ?_, ?_, sameResults_enclose derived,
    fun _ _ leaf => sameResults_enclose_leaf around leaf⟩
  · exact parse_of_derives (derived'.replace rfl derived.enclose)
  · rcases toPostfix_of_derives derived with ⟨listing, converted, _⟩
    rcases toPostfix_of_derives derived' with ⟨whole, converted', _⟩
    have passes : Yard.Passes [⟨.identifier, name⟩] [⟨.identifier, name⟩] := Yard.passes_leaf rfl
    have passes' := Yard.passes_enclose derived.ne_nil converted
    rw [List.append_cons] at converted'
    rcases toPostfix_exchange passes passes' converted' with
      ⟨before, behind, leaves, rfl, exchanged⟩
    refine ⟨before, listing, behind, ?_, converted, ?_, exchanged⟩
    · rw [List.countP_eq_length_filter, leaves, ← List.countP_eq_length_filter]
    · rw [List.append_cons, converted', List.append_assoc, List.singleton_append]

/-- In `2 - -h * h` a sum takes the place of the first name behind the
signs. -/
theorem parentheses_compositional_nested :
    let front : List Token :=
      [⟨.number, "2"⟩, .ofKind (.binary .subtract), .ofKind (.binary .subtract)]
    let inner : List Token := [⟨.identifier, "x"⟩, .ofKind (.binary .add), ⟨.identifier, "y"⟩]
    let back : List Token := [.ofKind (.binary .multiply), ⟨.identifier, "h"⟩]
    let tree : Expression Float := .binary .add (.identifier "x") (.identifier "y")
    let around (leaf : Expression Float) : Expression Float :=
      .binary .subtract (.number 2) (.binary .multiply (.negate leaf) (.identifier "h"))
    (∀ token ∈ front ++ inner ++ back, token.kind ≠ .endOfInput) ∧ parse inner = .ok tree ∧
      parse (front ++ ⟨.identifier, "h"⟩ :: back) = .ok (around (.identifier "h")) ∧
      parse (front ++ Token.enclose inner ++ back) = .ok (around tree) := by
  intro front inner back tree around
  have endless : ∀ token ∈ front ++ inner ++ back, token.kind ≠ .endOfInput := by decide
  have parsed : parse inner = .ok tree := by decide +kernel
  have accepted : parse (front ++ ⟨.identifier, "h"⟩ :: back) = .ok (around (.identifier "h")) := by
    decide +kernel
  exact ⟨endless, parsed, accepted, (parentheses_compositional endless parsed accepted).2.1⟩

/-- Alone a name may stand before an end of the expression, in parentheses it
may not. -/
theorem parentheses_around_endOfInput :
    let inner : List Token := [⟨.identifier, "x"⟩, .ofKind .endOfInput]
    parse inner = .ok (.identifier "x") ∧
      parse ([] ++ ⟨.identifier, "h"⟩ :: []) = .ok (.identifier "h") ∧
      parse ([] ++ Token.enclose inner ++ []) = .error .missingCloseParenthesis := by
  decide +kernel

end Reckoner
