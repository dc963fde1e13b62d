import Reckoner.Proofs.Expression.Infix
import Reckoner.Proofs.Grammar.Place

namespace Reckoner

/-!
# As few parentheses as possible

No tokens with the tree of a line have fewer parentheses than the line
(`openingCount_toInfix_le`).  The reason is a count along the derivation.
Where the grammar asks for a phrase that binds more tightly than the surface of
a tree, only parentheses can make the tree such a phrase, and a line has
parentheses at no other place.

From this follows that no pair of parentheses in a line can be left out
(`toInfix_without_pair`).  The tokens without the pair are one parenthesis
short, so that their tree is another one.  That they have a tree at all is a
different matter, which is settled by a walk along them: between the two
parentheses it goes one step less deep.

The trees are told apart by their shapes alone, whatever numbers are taken for
equal.
-/

def openingCount (tokens : List Token) : Nat :=
  tokens.countP (·.kind = .opening)

def closingCount (tokens : List Token) : Nat :=
  tokens.countP (·.kind = .closing)

/-- Tokens whose parentheses close each other. -/
structure Balanced (tokens : List Token) : Prop where
  /-- From the front on no more parentheses are closed than have been
  opened. -/
  opened : ∀ front, front <+: tokens -> closingCount front ≤ openingCount front
  /-- In the end all are closed. -/
  closed : closingCount tokens = openingCount tokens

instance decidableBalanced (tokens : List Token) : Decidable (Balanced tokens) :=
  decidable_of_iff
    ((∀ front ∈ tokens.inits, closingCount front ≤ openingCount front) ∧
      closingCount tokens = openingCount tokens)
    ⟨fun both => ⟨fun front within => both.1 front ((List.mem_inits _ _).mpr within), both.2⟩,
      fun balanced => ⟨fun front among => balanced.opened front ((List.mem_inits _ _).mp among),
        balanced.closed⟩⟩

theorem openingCount_append (front back : List Token) :
    openingCount (front ++ back) = openingCount front + openingCount back :=
  List.countP_append

theorem openingCount_cons (token : Token) (rest : List Token) :
    openingCount (token :: rest) = openingCount rest + if token.kind = .opening then 1 else 0 := by
  simp [openingCount, List.countP_cons]

theorem closingCount_cons (token : Token) (rest : List Token) :
    closingCount (token :: rest) = closingCount rest + if token.kind = .closing then 1 else 0 := by
  simp [closingCount, List.countP_cons]

theorem openingCount_signs {signs : List Token} (run : ∀ sign ∈ signs, sign.isSign = true) :
    openingCount signs = 0 := by
  rw [openingCount, List.countP_eq_zero]
  intro sign member
  have isSign := run sign member
  cases kind : sign.kind <;> simp_all [Token.isSign, TokenKind.isSign]

/-! ## The parentheses of a tree -/

namespace Expression

theorem openingCount_parenthesizeIf (needed : Bool) (tokens : List Token) :
    openingCount (parenthesizeIf needed tokens) = openingCount tokens + needed.toNat := by
  cases needed with
  | false => rfl
  | true =>
      rw [parenthesizeIf, if_pos rfl, openingCount_append, openingCount_cons]
      rfl

/-- The parentheses of a tree where the grammar asks for a phrase. -/
def openingsIn (phrase : Phrase) (tree : Expression Float) : Nat :=
  openingCount tree.toInfix + (decide (tree.surface.level < phrase.level)).toNat

/-- The more tightly a phrase has to bind, the more parentheses it takes. -/
theorem openingsIn_mono {outer inner : Phrase} (within : outer.level ≤ inner.level)
    (tree : Expression Float) : tree.openingsIn outer ≤ tree.openingsIn inner := by
  apply Nat.add_le_add_left
  by_cases loose : tree.surface.level < outer.level
  · rw [decide_eq_true loose, decide_eq_true (Nat.lt_of_lt_of_le loose within)]
  · rw [decide_eq_false loose]
    exact Nat.zero_le _

/-- The tokens of a tree have the parentheses that are needed for a sum. -/
theorem openingsIn_sum (tree : Expression Float) :
    tree.openingsIn (.chain .sum) = openingCount tree.toInfix := by
  have tight := Nat.not_lt_of_ge (Phrase.level_sum_le tree.surface)
  rw [openingsIn, decide_eq_false tight]
  rfl

theorem openingsIn_negate (operand : Expression Float) :
    (negate operand).openingsIn .operand = operand.openingsIn .leaf := by
  have loose : (!operand.isLeaf) = decide (operand.surface.level < Phrase.leaf.level) := by
    cases operand with
    | number | identifier | negate => rfl
    | binary op => cases op <;> rfl
  rw [openingsIn, openingsIn, toInfix, openingCount_cons, openingCount_parenthesizeIf, loose]
  rfl

theorem openingsIn_binary_le (op : Operator) (left right : Expression Float) :
    (binary op left right).openingsIn (.chain op.tier) ≤
      left.openingsIn (.chain op.tier) + right.openingsIn op.tier.member := by
  have level : op.tier.member.level = op.precedence + 1 := by
    rw [op.tier.level_member, op.precedence_tier]
  have onLeft : op.parenthesizesLeft left.operator? =
      decide (left.surface.level < (Phrase.chain op.tier).level) := by
    rw [parenthesizesLeft_eq, Operator.precedence_eq_level rfl]
  have onRight : (op.parenthesizesRight right.operator?).toNat ≤
      (decide (right.surface.level < op.tier.member.level)).toNat := by
    rw [parenthesizesRight_eq, level]
    apply Bool.toNat_le_toNat ∘ Bool.le_iff_imp.mpr
    simp only [Bool.or_eq_true, Bool.and_eq_true, decide_eq_true_eq, beq_iff_eq]
    omega
  have surface : (decide ((binary op left right).surface.level <
      (Phrase.chain op.tier).level)).toNat = 0 := by
    rw [Expression.surface, decide_eq_false (Nat.lt_irrefl _)]
    rfl
  rw [openingsIn, surface, toInfix, openingCount_append, openingCount_cons,
    openingCount_parenthesizeIf, openingCount_parenthesizeIf, onLeft, openingsIn, openingsIn]
  simp only [Token.ofKind, reduceCtorEq, if_false]
  omega

end Expression

/-! ## The parentheses of other tokens with the same tree -/

/-- Tokens have at least the parentheses that their tree needs where they
stand. -/
theorem Derives.openingsIn_le {phrase : Phrase} {tokens : List Token} {tree : Expression Float}
    (derived : Derives phrase tokens tree) : tree.openingsIn phrase ≤ openingCount tokens := by
  induction derived with
  | @single tier tokens tree _ inductionHypothesis =>
      exact (tree.openingsIn_mono tier.level_le_member).trans inductionHypothesis
  | @joined tier op token front back left right _ kind same _ onFront onBack =>
      subst same
      have joined := Expression.openingsIn_binary_le op left right
      rw [openingCount_append, openingCount_cons]
      omega
  | @signed signs tokens tree run _ inductionHypothesis =>
      rw [openingCount_append, openingCount_signs run, Nat.zero_add]
      split
      · rw [tree.openingsIn_negate]
        exact inductionHypothesis
      · exact (tree.openingsIn_mono (Nat.le_succ _)).trans inductionHypothesis
  | number => exact Nat.zero_le _
  | identifier => exact Nat.zero_le _
  | @parenthesized opening closing tokens tree opens _ _ inductionHypothesis =>
      have needed := Bool.toNat_le (decide (tree.surface.level < Phrase.leaf.level))
      rw [Expression.openingsIn_sum] at inductionHypothesis
      rw [Expression.openingsIn, openingCount_append, openingCount_cons, if_pos opens]
      omega

/-- No tokens with a tree have fewer parentheses than the line of the tree. -/
theorem openingCount_toInfix_le {tokens : List Token} {tree : Expression Float}
    (parsed : parse tokens = .ok tree) : openingCount tree.toInfix ≤ openingCount tokens := by
  have counted := (Descent.derives_of_parse parsed).openingsIn_le
  rw [tree.openingsIn_sum] at counted
  exact counted.trans (List.takeWhile_sublist _).countP_le

namespace Expression

theorem surface_of_agrees {tree other : Expression Float} (agree : tree.agrees other = true) :
    tree.surface = other.surface := by
  cases tree <;> cases other <;> simp_all [agrees, surface]

theorem openingCount_of_agrees {tree other : Expression Float}
    (agree : tree.agrees other = true) :
    openingCount tree.toInfix = openingCount other.toInfix := by
  induction tree generalizing other with
  | number =>
      cases other with
      | number => simp [toInfix, openingCount]
      | identifier | negate | binary => cases agree
  | identifier =>
      cases other with
      | identifier => simp [toInfix, openingCount]
      | number | negate | binary => cases agree
  | negate operand inductionHypothesis =>
      cases other with
      | negate operand' =>
          rw [agrees] at agree
          rw [toInfix, toInfix, openingCount_cons, openingCount_cons, openingCount_parenthesizeIf,
            openingCount_parenthesizeIf, isLeaf_eq, isLeaf_eq, surface_of_agrees agree,
            inductionHypothesis agree]
      | number | identifier | binary => cases agree
  | binary op left right onLeft onRight =>
      cases other with
      | binary op' left' right' =>
          rw [agrees, Bool.and_eq_true, Bool.and_eq_true, beq_iff_eq] at agree
          rcases agree with ⟨⟨rfl, agreeLeft⟩, agreeRight⟩
          rw [toInfix, toInfix, openingCount_append, openingCount_append, openingCount_cons,
            openingCount_cons, openingCount_parenthesizeIf, openingCount_parenthesizeIf,
            openingCount_parenthesizeIf, openingCount_parenthesizeIf, parenthesizesLeft_eq,
            parenthesizesLeft_eq, parenthesizesRight_eq, parenthesizesRight_eq,
            surface_of_agrees agreeLeft, surface_of_agrees agreeRight, onLeft agreeLeft,
            onRight agreeRight]
      | number | identifier | negate => cases agree

end Expression

/-! ## Leaving out a pair of parentheses -/

namespace Place

theorem step?_lower {expects expects' : Bool} {depth depth' : Nat} {kind : TokenKind}
    (fits : step? ⟨expects, depth + 1⟩ kind = some ⟨expects', depth' + 1⟩) :
    step? ⟨expects, depth⟩ kind = some ⟨expects', depth'⟩ := by
  rw [step?.eq_def] at fits
  split at fits <;> simp_all [step?]

/-- A walk that never closes the parenthesis that is open at its start can be
made one step less deep. -/
theorem walk_lower {expects expects' : Bool} {depth depth' : Nat} {tokens : List Token}
    (through : walk ⟨expects, depth + 1⟩ tokens = (⟨expects', depth' + 1⟩, []))
    (opened : ∀ front, front <+: tokens -> closingCount front ≤ openingCount front + depth) :
    walk ⟨expects, depth⟩ tokens = (⟨expects', depth'⟩, []) := by
  induction tokens generalizing expects depth with
  | nil =>
      cases through
      rfl
  | cons token rest inductionHypothesis =>
      rcases walk_through_cons through with ⟨⟨between, depthBetween⟩, fits, further⟩
      have balance : depthBetween + (if token.kind = .closing then 1 else 0) =
          depth + 1 + (if token.kind = .opening then 1 else 0) := (of_step? fits).2
      have first : (if token.kind = .closing then 1 else 0) ≤
          (if token.kind = .opening then 1 else 0) + depth := by
        simpa [closingCount_cons, openingCount_cons, closingCount, openingCount] using
          opened [token] ⟨rest, rfl⟩
      have above : 0 < depthBetween := by omega
      rcases Nat.exists_eq_add_one.mpr above with ⟨lower, rfl⟩
      rw [walk_step rest (step?_lower fits)]
      apply inductionHypothesis further
      intro front within
      have whole := opened (token :: front) (List.cons_prefix_cons.mpr ⟨rfl, within⟩)
      rw [closingCount_cons, openingCount_cons] at whole
      omega

/-- Only where an operand is expected a parenthesis opens. -/
theorem walk_through_opening {place stop : Place} {opening : Token} {rest : List Token}
    (opens : opening.kind = .opening) (through : place.walk (opening :: rest) = (stop, [])) :
    place.expectsOperand = true ∧ walk ⟨true, place.depth + 1⟩ rest = (stop, []) := by
  rcases walk_through_cons through with ⟨next, fits, further⟩
  rcases place with ⟨_ | _, depth⟩
  · simp [opens, step?] at fits
  · simp only [opens, step?, Option.some.injEq] at fits
    subst fits
    exact ⟨rfl, further⟩

/-- Only behind an operand a parenthesis closes, and only an open one. -/
theorem walk_through_closing {place stop : Place} {closing : Token} {rest : List Token}
    (closes : closing.kind = .closing) (through : place.walk (closing :: rest) = (stop, [])) :
    ∃ depth, place = ⟨false, depth + 1⟩ ∧ walk ⟨false, depth⟩ rest = (stop, []) := by
  rcases walk_through_cons through with ⟨next, fits, further⟩
  rcases place with ⟨_ | _, _ | depth⟩
  · simp [closes, step?] at fits
  · simp only [closes, step?, Option.some.injEq] at fits
    subst fits
    exact ⟨depth, rfl, further⟩
  · simp [closes, step?] at fits
  · simp [closes, step?] at fits

/-- What a walk goes through it also goes through without a pair of
parentheses. -/
theorem walk_without_pair {place stop : Place} {front middle back : List Token}
    {opening closing : Token} (opens : opening.kind = .opening) (closes : closing.kind = .closing)
    (balanced : Balanced middle)
    (through : place.walk (front ++ opening :: middle ++ closing :: back) = (stop, [])) :
    place.walk (front ++ middle ++ back) = (stop, []) := by
  rw [List.append_assoc, List.cons_append] at through
  rcases walk_through_append through with ⟨⟨expects, depth⟩, before, pair⟩
  rcases walk_through_opening opens pair with ⟨expectsOperand, inside⟩
  rcases walk_through_append inside with ⟨place', between, last⟩
  rcases walk_through_closing closes last with ⟨depth', rfl, behind⟩
  have balance : depth' + 1 + closingCount middle = depth + 1 + openingCount middle :=
    (of_walk between).2
  have closed := balanced.closed
  have same : depth' = depth := by omega
  subst same
  have lower : walk ⟨expects, depth'⟩ middle = (⟨false, depth'⟩, []) := by
    apply walk_lower
    · rw [show expects = true from expectsOperand]
      exact between
    · exact fun part within => Nat.le_add_right_of_le (balanced.opened part within)
  rw [List.append_assoc, walk_append _ before, walk_append _ lower]
  exact behind

end Place

/-- No pair of parentheses in the line of a tree can be left out: without it
the line has a tree as well, but one of another shape. -/
theorem toInfix_without_pair {tree : Expression Float} {front middle back : List Token}
    {opening closing : Token}
    (line : tree.toInfix = front ++ opening :: middle ++ closing :: back)
    (opens : opening.kind = .opening) (closes : closing.kind = .closing)
    (balanced : Balanced middle) :
    ∃ read other, parse tree.toInfix = .ok read ∧ parse (front ++ middle ++ back) = .ok other ∧
      other ≠ read ∧ other.agrees read = false := by
  have derived := tree.derives_toInfix
  have fewer : openingCount (front ++ middle ++ back) < openingCount tree.toInfix := by
    rw [line]
    simp only [openingCount_append, openingCount_cons, if_pos opens]
    omega
  have part : List.Sublist (front ++ middle ++ back) tree.toInfix := by
    rw [line]
    exact ((List.Sublist.refl front).append (List.sublist_cons_self _ _)).append
      (List.sublist_cons_self _ _)
  have endless : ∀ token ∈ front ++ middle ++ back, token.kind ≠ .endOfInput :=
    fun token member => derived.kind_ne_endOfInput token (part.subset member)
  have readable : Readable (front ++ middle ++ back) :=
    fun token member => derived.readable token (part.subset member)
  have through : Place.start.walk (front ++ middle ++ back) = (.finished, []) := by
    apply Place.walk_without_pair opens closes balanced
    rw [← line]
    exact walk_of_parse derived.kind_ne_endOfInput (parse_of_derives derived)
  rcases (parse_ok_iff_walk endless readable).mpr through with ⟨other, parsed⟩
  have different : openingCount other.toInfix ≠ openingCount tree.regrouped.toInfix := by
    rw [tree.toInfix_regrouped]
    exact Nat.ne_of_lt (Nat.lt_of_le_of_lt (openingCount_toInfix_le parsed) fewer)
  refine ⟨tree.regrouped, other, parse_of_derives derived, parsed, ?_, ?_⟩
  · rintro rfl
    exact different rfl
  · exact eq_false_of_ne_true fun agree => different (Expression.openingCount_of_agrees agree)

/-- In the line `a - (b - (c + d) / 2)` the outer pair of parentheses is left
out. -/
theorem toInfix_without_pair_nested :
    let quotient : Expression Float := .binary .divide
      (.binary .add (.identifier "c") (.identifier "d")) (.number 2)
    let tree : Expression Float := .binary .subtract (.identifier "a")
      (.binary .subtract (.identifier "b") quotient)
    let front : List Token := [⟨.identifier, "a"⟩, .ofKind (.binary .subtract)]
    let middle : List Token := [⟨.identifier, "b"⟩, .ofKind (.binary .subtract), .ofKind .opening,
      ⟨.identifier, "c"⟩, .ofKind (.binary .add), ⟨.identifier, "d"⟩, .ofKind .closing,
      .ofKind (.binary .divide), ⟨.number, "2"⟩]
    tree.toInfix = front ++ .ofKind .opening :: middle ++ [.ofKind .closing] ∧ Balanced middle ∧
      ∃ read other, parse tree.toInfix = .ok read ∧ parse (front ++ middle ++ []) = .ok other ∧
        other ≠ read ∧ other.agrees read = false := by
  intro quotient tree front middle
  have line : tree.toInfix = front ++ .ofKind .opening :: middle ++ [.ofKind .closing] := by
    decide +kernel
  have balanced : Balanced middle := by decide +kernel
  exact ⟨line, balanced, toInfix_without_pair line rfl rfl balanced⟩

end Reckoner
