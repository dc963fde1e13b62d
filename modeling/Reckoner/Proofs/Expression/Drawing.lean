import Reckoner.Expression.Drawing
import Reckoner.Proofs.Expression.NormalForm
import Reckoner.Proofs.Postfix.Line
import Reckoner.Proofs.Regeneration

namespace Reckoner

/-!
# What a drawing shows

The visit of a tree begins and ends parts of a sketch, and what it has built in
the end is the outline of the tree (`Expression.sketched_eq`), because a visit
ends what it has begun and adds to nothing else.  The drawing has therefore a
line for each node, in preorder, led by three characters for each level.

A tree can be found again from its drawing.  The text of a root says what kind
of node it is, as no number looks like a name and neither looks like an
operator.  Only negations and subtractions have the same text.  They differ in
the line that follows: what stands below a negation is the last thing there,
and what comes first below a subtraction is not.  The lines of a tree are hence
a prefix code (`Expression.eq_of_lines`), which is what an induction over two
trees can be made with.
-/

/-! ## Outlines -/

namespace Outline

theorem length_trunk (isLast : Bool) : (trunk isLast).length = 3 := by
  cases isLast <;> decide

theorem length_branch (isLast : Bool) : (branch isLast).length = 3 := by
  cases isLast <;> decide

theorem newline_notMem_trunk (isLast : Bool) : '\n' ∉ (trunk isLast).toList := by
  cases isLast <;> decide

theorem newline_notMem_branch (isLast : Bool) : '\n' ∉ (branch isLast).toList := by
  cases isLast <;> decide

theorem branch_injective : Function.Injective branch := by
  decide

/-- A text whose lines are ended is split into them, and nothing behind the
last. -/
theorem splitOn_join_ended {texts : List String} (unbroken : ∀ text ∈ texts, '\n' ∉ text.toList) :
    (String.join (texts.map (· ++ "\n"))).toList.splitOn '\n' =
      texts.map String.toList ++ [[]] := by
  induction texts with
  | nil => rfl
  | cons text texts inductionHypothesis =>
      rw [List.forall_mem_cons] at unbroken
      have ended : (String.join ((text :: texts).map (· ++ "\n"))).toList =
          text.toList ++ '\n' :: (String.join (texts.map (· ++ "\n"))).toList := by
        simp
      rw [ended, List.splitOn_append_cons_self_of_not_mem unbroken.1,
        inductionHypothesis unbroken.2, List.map_cons, List.cons_append]

end Outline

/-- A node of a tree with its place in a drawing. -/
structure Drawn where
  /-- Of the nodes above, from the root on, whether each is the last below its
  own parent. -/
  above : List Bool
  /-- Whether the node is the last below its parent. -/
  isLast : Bool
  node : Expression Float

namespace Drawn

def lead (drawn : Drawn) : String :=
  String.join (drawn.above.map Outline.trunk) ++ Outline.branch drawn.isLast

def line (drawn : Drawn) : String :=
  drawn.lead ++ drawn.node.label

theorem length_lead (drawn : Drawn) : drawn.lead.length = 3 * (drawn.above.length + 1) := by
  have widths : (drawn.above.map Outline.trunk).map String.length =
      drawn.above.map fun _ => 3 := by
    simp [Function.comp_def, Outline.length_trunk]
  rw [lead, String.length_append, Outline.length_branch, String.length_join, widths,
    List.map_const', List.sum_replicate]
  simp only [smul_eq_mul]
  omega

/-- Among the nodes with the same nodes above them, the line of a node shows
its side and the text of its root. -/
theorem line_inj {above : List Bool} {isLast isLast' : Bool} {node node' : Expression Float}
    (same : line ⟨above, isLast, node⟩ = line ⟨above, isLast', node'⟩) :
    isLast = isLast' ∧ node.label = node'.label := by
  rw [line, line, lead, lead, String.append_assoc, String.append_assoc, String.append_right_inj]
    at same
  have chars := congrArg String.toList same
  rw [String.toList_append, String.toList_append] at chars
  have parts := List.append_inj chars (by
    rw [String.length_toList, String.length_toList, Outline.length_branch, Outline.length_branch])
  exact ⟨Outline.branch_injective (String.toList_injective parts.1),
    String.toList_injective parts.2⟩

theorem newline_notMem_lead (drawn : Drawn) : '\n' ∉ drawn.lead.toList := by
  rw [lead, String.toList_append, String.toList_join, List.mem_append, List.mem_flatMap]
  rintro (⟨text, member, within⟩ | within)
  · rcases List.mem_map.mp member with ⟨isLast, _, rfl⟩
    exact Outline.newline_notMem_trunk isLast within
  · exact Outline.newline_notMem_branch _ within

end Drawn

namespace Expression

open Lexer

/-! ## The lines of a drawing -/

def outlined : Expression Float -> Outline
  | number value => .node (number value).label []
  | identifier name => .node (identifier name).label []
  | negate operand => .node (negate operand).label [operand.outlined]
  | binary op left right => .node (binary op left right).label [left.outlined, right.outlined]

/-- A visit adds the outline of the tree to what is open, and leaves the rest
as it is. -/
theorem sketched_eq (tree : Expression Float) (sketch : Sketch) :
    tree.sketched sketch = ⟨sketch.current.add tree.outlined, sketch.around⟩ := by
  induction tree generalizing sketch with
  | number | identifier => rfl
  | negate operand inductionHypothesis =>
      rw [sketched, inductionHypothesis]
      rfl
  | binary op left right onLeft onRight =>
      rw [sketched, onLeft, onRight]
      rfl

theorem drawing_eq (tree : Expression Float) :
    tree.drawing = (Outline.node "expression" [tree.outlined]).written := by
  rw [drawing, sketched_eq]
  rfl

/-- The nodes of a tree in preorder, with their places below given ones. -/
def nodes (above : List Bool) (isLast : Bool) : Expression Float -> List Drawn
  | number value => [⟨above, isLast, number value⟩]
  | identifier name => [⟨above, isLast, identifier name⟩]
  | negate operand =>
      ⟨above, isLast, negate operand⟩ :: operand.nodes (above ++ [isLast]) true
  | binary op left right =>
      ⟨above, isLast, binary op left right⟩ ::
        (left.nodes (above ++ [isLast]) false ++ right.nodes (above ++ [isLast]) true)

theorem nodes_eq_cons (tree : Expression Float) (above : List Bool) (isLast : Bool) :
    ∃ behind, tree.nodes above isLast = ⟨above, isLast, tree⟩ :: behind := by
  cases tree <;> exact ⟨_, rfl⟩

/-- How deep the nodes of a tree lie, in preorder. -/
def depths {ν : Type} : Expression ν -> List Nat
  | number _ | identifier _ => [0]
  | negate operand => 0 :: operand.depths.map (· + 1)
  | binary _ left right => 0 :: (left.depths ++ right.depths).map (· + 1)

theorem lines_outlined (tree : Expression Float) (above : List Bool) (isLast : Bool) :
    tree.outlined.lines (String.join (above.map Outline.trunk)) isLast =
      (tree.nodes above isLast).map Drawn.line := by
  have deeper (above : List Bool) (isLast : Bool) :
      String.join (above.map Outline.trunk) ++ Outline.trunk isLast =
        String.join ((above ++ [isLast]).map Outline.trunk) := by
    simp
  induction tree generalizing above isLast with
  | number | identifier => rfl
  | negate operand inductionHypothesis =>
      rw [outlined, nodes, List.map_cons, ← inductionHypothesis, ← deeper]
      simp [Outline.lines, Outline.linesBelow, Drawn.line, Drawn.lead]
  | binary op left right onLeft onRight =>
      rw [outlined, nodes, List.map_cons, List.map_append, ← onLeft, ← onRight, ← deeper]
      simp [Outline.lines, Outline.linesBelow, Drawn.line, Drawn.lead]

theorem lines_negate (operand : Expression Float) (above : List Bool) (isLast : Bool)
    (rest : List String) :
    ((negate operand).nodes above isLast).map Drawn.line ++ rest =
      Drawn.line ⟨above, isLast, negate operand⟩ ::
        ((operand.nodes (above ++ [isLast]) true).map Drawn.line ++ rest) := rfl

theorem lines_binary (op : Operator) (left right : Expression Float) (above : List Bool)
    (isLast : Bool) (rest : List String) :
    ((binary op left right).nodes above isLast).map Drawn.line ++ rest =
      Drawn.line ⟨above, isLast, binary op left right⟩ ::
        ((left.nodes (above ++ [isLast]) false).map Drawn.line ++
          ((right.nodes (above ++ [isLast]) true).map Drawn.line ++ rest)) := by
  rw [nodes, List.map_cons, List.map_append, List.cons_append, List.append_assoc]

/-- The nodes of a drawing are all nodes of the tree in preorder. -/
theorem map_node_nodes (tree : Expression Float) (above : List Bool) (isLast : Bool) :
    (tree.nodes above isLast).map Drawn.node = tree.subtrees := by
  induction tree generalizing above isLast with
  | number | identifier => rfl
  | negate operand inductionHypothesis =>
      rw [nodes, List.map_cons, inductionHypothesis, subtrees]
  | binary op left right onLeft onRight =>
      rw [nodes, List.map_cons, List.map_append, onLeft, onRight, subtrees]

/-- As many nodes stand above a node as it is deep. -/
theorem map_length_above_nodes (tree : Expression Float) (above : List Bool) (isLast : Bool) :
    (tree.nodes above isLast).map (·.above.length) = tree.depths.map (above.length + ·) := by
  have shift (above : List Bool) (isLast : Bool) (depths : List Nat) :
      depths.map ((above ++ [isLast]).length + ·) =
        (depths.map (· + 1)).map (above.length + ·) := by
    rw [List.map_map, List.length_append, List.length_singleton]
    refine List.map_congr_left fun depth _ => ?_
    rw [Function.comp_apply, Nat.add_assoc, Nat.add_comm 1]
  induction tree generalizing above isLast with
  | number | identifier => rfl
  | negate operand inductionHypothesis =>
      rw [nodes, depths, List.map_cons, List.map_cons, inductionHypothesis, shift, Nat.add_zero]
  | binary op left right onLeft onRight =>
      rw [nodes, depths, List.map_cons, List.map_cons, List.map_append, onLeft, onRight, shift,
        shift, ← List.map_append, ← List.map_append, Nat.add_zero]

theorem Writable.of_subtree {tree node : Expression Float} (writable : tree.Writable)
    (member : node ∈ tree.subtrees) : node.Writable := by
  induction tree with
  | number | identifier =>
      cases List.mem_singleton.mp member
      exact writable
  | negate operand inductionHypothesis =>
      rcases List.mem_cons.mp member with rfl | within
      · exact writable
      · exact inductionHypothesis writable within
  | binary op left right onLeft onRight =>
      rcases List.mem_cons.mp member with rfl | within
      · exact writable
      · rcases List.mem_append.mp within with before | behind
        · exact onLeft writable.1 before
        · exact onRight writable.2 behind

/-! ## What a root is -/

/-- The token that the text of a root is read as. -/
def mark : Expression Float -> Token
  | number value => ⟨.number, (number value).label⟩
  | identifier name => ⟨.identifier, name⟩
  | negate _ => .ofKind (.binary .subtract)
  | binary op _ _ => .ofKind (.binary op)

theorem text_mark (tree : Expression Float) : tree.mark.text = tree.label := by
  cases tree with
  | binary op left right => cases op <;> rfl
  | _ => rfl

theorem spelled_mark {tree : Expression Float} (writable : tree.Writable) : Spelled tree.mark := by
  cases tree with
  | number value => exact spelled_number writable.1 writable.2
  | identifier name => exact spelled_identifier writable
  | negate operand => exact spelled_binary .subtract
  | binary op left right => exact spelled_binary op

theorem tokenize_label {tree : Expression Float} (writable : tree.Writable) :
    tokenize tree.label = .ok [tree.mark] := by
  have kind : tree.mark.kind ≠ .negate := by
    cases tree <;> nofun
  rw [← text_mark]
  exact (spelled_iff_tokenize kind).mp (spelled_mark writable)

theorem newline_notMem_label {tree : Expression Float} (writable : tree.Writable) :
    '\n' ∉ tree.label.toList := by
  intro member
  rw [← text_mark] at member
  exact absurd ((spelled_mark writable).visible.2 _ member) (by decide)

/-- Roots are alike if they are the same, or a negation and a subtraction. -/
inductive Alike : Expression Float -> Expression Float -> Prop where
  | number (value : Float) : Alike (.number value) (.number value)
  | identifier (name : String) : Alike (.identifier name) (.identifier name)
  | negate (operand operand' : Expression Float) : Alike (.negate operand) (.negate operand')
  | binary (op : Operator) (left right left' right' : Expression Float) :
      Alike (.binary op left right) (.binary op left' right')
  | negateSubtract (operand left right : Expression Float) :
      Alike (.negate operand) (.binary .subtract left right)
  | subtractNegate (left right operand : Expression Float) :
      Alike (.binary .subtract left right) (.negate operand)

theorem alike_of_label {tree tree' : Expression Float} (writable : tree.Writable)
    (writable' : tree'.Writable) (same : tree.label = tree'.label) : Alike tree tree' := by
  have marks : tree.mark = tree'.mark := by
    have read := tokenize_label writable
    rw [same, tokenize_label writable'] at read
    exact (List.singleton_inj.mp (Except.ok.inj read)).symm
  have kinds := congrArg Token.kind marks
  cases tree with
  | number value =>
      cases tree' with
      | number value' =>
          have read := NumberStyle.readNumber_write value
          rw [show NumberStyle.plain.write value = NumberStyle.plain.write value' from same,
            NumberStyle.readNumber_write] at read
          cases read
          exact .number value
      | identifier | negate | binary => cases kinds
  | identifier name =>
      cases tree' with
      | identifier name' =>
          cases same
          exact .identifier name
      | number | negate | binary => cases kinds
  | negate operand =>
      cases tree' with
      | negate operand' => exact .negate operand operand'
      | binary op left right =>
          cases kinds
          exact .negateSubtract operand left right
      | number | identifier => cases kinds
  | binary op left right =>
      cases tree' with
      | negate operand =>
          cases kinds
          exact .subtractNegate left right operand
      | binary op' left' right' =>
          cases kinds
          exact .binary op left right left' right'
      | number | identifier => cases kinds

/-! ## Finding the tree again -/

theorem splitOn_drawing {tree : Expression Float} (writable : tree.Writable) :
    tree.drawing.toList.splitOn '\n' =
      "expression".toList :: ((tree.nodes [] true).map (·.line.toList) ++ [[]]) := by
  have written : tree.drawing =
      String.join (("expression" :: (tree.nodes [] true).map Drawn.line).map (· ++ "\n")) := by
    rw [drawing_eq, Outline.written, ← lines_outlined tree [] true]
    simp [Outline.linesBelow]
  have unbroken : ∀ text ∈ "expression" :: (tree.nodes [] true).map Drawn.line,
      '\n' ∉ text.toList := by
    rw [List.forall_mem_cons, List.forall_mem_map]
    refine ⟨by decide, fun drawn member => ?_⟩
    have among : drawn.node ∈ tree.subtrees := by
      rw [← map_node_nodes tree [] true]
      exact List.mem_map_of_mem member
    rw [Drawn.line, String.toList_append, List.mem_append, not_or]
    exact ⟨drawn.newline_notMem_lead, newline_notMem_label (writable.of_subtree among)⟩
  rw [written, Outline.splitOn_join_ended unbroken, List.map_cons, List.map_map, List.cons_append]
  rfl

theorem root_of_lines {tree tree' : Expression Float} {above : List Bool} {isLast isLast' : Bool}
    {rest rest' : List String}
    (same : (tree.nodes above isLast).map Drawn.line ++ rest =
      (tree'.nodes above isLast').map Drawn.line ++ rest') :
    isLast = isLast' ∧ tree.label = tree'.label := by
  rcases nodes_eq_cons tree above isLast with ⟨behind, first⟩
  rcases nodes_eq_cons tree' above isLast' with ⟨behind', first'⟩
  rw [first, first'] at same
  exact Drawn.line_inj (List.cons.inj same).1

/-- The lines of a tree come to an end by themselves: whatever follows them,
they determine the tree and what follows. -/
theorem eq_of_lines {tree tree' : Expression Float} (writable : tree.Writable)
    (writable' : tree'.Writable) {above : List Bool} {isLast : Bool} {rest rest' : List String}
    (same : (tree.nodes above isLast).map Drawn.line ++ rest =
      (tree'.nodes above isLast).map Drawn.line ++ rest') : tree = tree' ∧ rest = rest' := by
  induction tree generalizing tree' above isLast rest rest' with
  | number value =>
      cases alike_of_label writable writable' (root_of_lines same).2
      exact ⟨rfl, (List.cons.inj same).2⟩
  | identifier name =>
      cases alike_of_label writable writable' (root_of_lines same).2
      exact ⟨rfl, (List.cons.inj same).2⟩
  | negate operand inductionHypothesis =>
      cases alike_of_label writable writable' (root_of_lines same).2 with
      | negate _ operand' =>
          have inner : operand'.Writable := writable'
          rw [lines_negate, lines_negate, List.cons.injEq] at same
          rcases inductionHypothesis writable inner same.2 with ⟨rfl, rest⟩
          exact ⟨rfl, rest⟩
      | negateSubtract _ left right =>
          -- The next line would be that of a last operand and of one that is not the last.
          rw [lines_negate, lines_binary, List.cons.injEq] at same
          cases (root_of_lines same.2).1
  | binary op left right onLeft onRight =>
      cases alike_of_label writable writable' (root_of_lines same).2 with
      | binary _ _ _ left' right' =>
          rw [lines_binary, lines_binary, List.cons.injEq] at same
          rcases onLeft writable.1 writable'.1 same.2 with ⟨rfl, behind⟩
          rcases onRight writable.2 writable'.2 behind with ⟨rfl, rest⟩
          exact ⟨rfl, rest⟩
      | subtractNegate _ _ operand =>
          rw [lines_binary, lines_negate, List.cons.injEq] at same
          cases (root_of_lines same.2).1

/-- A writable tree can be found again from its drawing. -/
theorem drawing_injective {tree tree' : Expression Float} (writable : tree.Writable)
    (writable' : tree'.Writable) (same : tree.drawing = tree'.drawing) : tree = tree' := by
  have lines := splitOn_drawing writable
  rw [same, splitOn_drawing writable', List.cons.injEq, List.append_left_inj] at lines
  have texts : (tree'.nodes [] true).map Drawn.line = (tree.nodes [] true).map Drawn.line := by
    have injective : Function.Injective String.toList := fun _ _ => String.toList_injective
    apply injective.list_map
    rw [List.map_map, List.map_map]
    exact lines.2
  exact (eq_of_lines writable writable' (congrArg (· ++ []) texts.symm)).1

end Expression

/-- A drawing has a line for each node of a tree, in preorder and indented by
the depth of the node, below a line that says what is drawn; and no other tree
of a text has the same drawing. -/
theorem drawing_of_convert {text : String} {tree : Expression Float}
    (converted : convert text = .ok tree) :
    tree.drawing.toList.splitOn '\n' =
        "expression".toList :: ((tree.nodes [] true).map (·.line.toList) ++ [[]]) ∧
      (tree.nodes [] true).map Drawn.node = tree.subtrees ∧
      (tree.nodes [] true).map (·.lead.length) = tree.depths.map (3 * (· + 1)) ∧
      ∀ {text' : String} {tree' : Expression Float}, convert text' = .ok tree' ->
        tree'.drawing = tree.drawing -> tree' = tree := by
  have writable := Expression.writable_of_convert converted
  refine ⟨Expression.splitOn_drawing writable, Expression.map_node_nodes tree [] true, ?_,
    fun converted' same =>
      Expression.drawing_injective (Expression.writable_of_convert converted') writable same⟩
  have depths := Expression.map_length_above_nodes tree [] true
  simp only [List.length_nil, Nat.zero_add, List.map_id'] at depths
  rw [← depths, List.map_map]
  exact List.map_congr_left fun drawn _ => drawn.length_lead

/-- A tree of two texts, and another one with the same texts at its nodes in
the same order.  Only what leads their lines tells their drawings apart. -/
theorem drawing_of_convert_signs :
    let tree : Expression Float :=
      .binary .multiply (.negate (.binary .subtract (.identifier "a") (.number 2)))
        (.identifier "b")
    let same : Expression Float :=
      .binary .multiply (.negate (.binary .subtract (.identifier "a") (.number 2.0)))
        (.identifier "b")
    convert "-(a - 2) * b" = .ok tree ∧ convert "-((a - 2.0)) * (b)" = .ok same ∧
      tree.drawing =
        "expression\n└─ *\n   ├─ -\n   │  └─ -\n   │     ├─ a\n   │     └─ 2\n   └─ b\n" ∧
      (tree.nodes [] true).map (·.lead.length) = [3, 6, 9, 12, 12, 6] ∧
      same.drawing = tree.drawing ∧ same = tree ∧
      ∀ other, convert "(-a - 2) * b" = .ok other -> other.drawing ≠ tree.drawing := by
  intro tree same
  have converted : convert "-(a - 2) * b" = .ok tree := by decide +kernel
  have converted' : convert "-((a - 2.0)) * (b)" = .ok same := by decide +kernel
  have alike : same.drawing = tree.drawing := by decide +kernel
  rcases drawing_of_convert converted with ⟨_, _, widths, unique⟩
  refine ⟨converted, converted', by decide +kernel, widths.trans (by decide +kernel), alike,
    unique converted' alike, ?_⟩
  intro other converted'' drawn
  rw [unique converted'' drawn] at converted''
  exact absurd converted'' (by decide +kernel)

end Reckoner
