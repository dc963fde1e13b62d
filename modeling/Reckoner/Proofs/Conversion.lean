import Mathlib.Data.List.TakeWhile
import Reckoner.Conversion
import Reckoner.Proofs.Grammar.Descent
import Reckoner.Proofs.Postfix.Frame

namespace Reckoner

/-!
# Two ways to one tree

The descent and the conversion to postfix order accept the same tokens and
agree on the tree.  Both are compared with the grammar.  Derived tokens are put
out by the yard as a listing of the derived tree, and where no tree can be
derived the yard is refused at the token that the descent blames.

One difference remains between the two.  The yard passes numbers on without
reading them, so that a number without a value is only found when the tree is
built or evaluated.  The statements name such a number among what is put out.
-/

theorem takeWhile_ne_endOfInput {tokens : List Token}
    (endless : ∀ token ∈ tokens, token.kind ≠ .endOfInput) :
    tokens.takeWhile (·.kind != .endOfInput) = tokens := by
  rw [List.takeWhile_eq_self_iff]
  intro token member
  exact bne_iff_ne.mpr (endless token member)

theorem derives_of_parse {tokens : List Token} {tree : Expression Float}
    (endless : ∀ token ∈ tokens, token.kind ≠ .endOfInput) (parsed : parse tokens = .ok tree) :
    Derives (.chain .sum) tokens tree := by
  have derived := Descent.derives_of_parse parsed
  rwa [takeWhile_ne_endOfInput endless] at derived

/-- No derived token is an end of the expression, so that all of them are
read. -/
theorem parse_of_derives {tokens : List Token} {tree : Expression Float}
    (derived : Derives (.chain .sum) tokens tree) : parse tokens = .ok tree := by
  apply Descent.parse_of_derives
  rwa [takeWhile_ne_endOfInput derived.kind_ne_endOfInput]

theorem convert_eq_ok_iff {text : String} {tree : Expression Float} :
    convert text = .ok tree ↔ ∃ tokens, tokenize text = .ok tokens ∧ parse tokens = .ok tree := by
  have convert_eq : convert text = (tokenize text).bind parse := rfl
  rw [convert_eq]
  cases tokenize text with
  | error failure => exact iff_of_false nofun nofun
  | ok tokens =>
      constructor
      · exact fun parsed => ⟨tokens, rfl, parsed⟩
      · rintro ⟨_, same, parsed⟩
        cases same
        exact parsed

/-- Derived tokens have a postfix order, which lists their tree. -/
theorem toPostfix_of_derives {tokens : List Token} {tree : Expression Float}
    (derived : Derives (.chain .sum) tokens tree) :
    ∃ listing, toPostfix tokens = .ok listing ∧ Postfix.Lists listing tree := by
  rcases Yard.run_of_derives derived [] [] (Yard.clear_nil _) with
    ⟨listing, pending, output, lists, binds, whole, runs⟩
  have last := runs []
  rw [List.append_nil, List.append_nil, Yard.run_nil] at last
  refine ⟨listing, ?_, lists⟩
  rw [Yard.toPostfix_eq_conclude derived.ne_nil, Yard.conclude, Yard.start, last]
  change (Yard.releaseAll pending output).map List.reverse = .ok listing
  rw [Yard.releaseAll_pending output binds, whole]
  simp [Except.map]

/-! ## Refused readings -/

namespace Yard

private theorem conclude_of_accept_error {yard : Yard} {token : Token} {failure : Failure}
    (rest : List Token) (alone : (yard.expectsOperand && token.isSign) = false)
    (refused : yard.accept token = .error failure) :
    conclude yard (token :: rest) = .error failure := by
  rw [conclude, run_accept rest alone, refused]
  rfl

private theorem accept_missing {output operators : List Token} {token : Token}
    (begins : token.kind.beginsLeaf = false) :
    ∃ failure, accept ⟨output, operators, true⟩ token = .error failure := by
  rw [accept]
  cases kind : token.kind with
  | number | identifier | opening => simp [kind, TokenKind.beginsLeaf] at begins
  | binary | negate | closing => exact ⟨unexpected token, rfl⟩
  | endOfInput => exact ⟨unsupported token, rfl⟩

/-- Behind an operand there is room for an operator and a closing parenthesis
only. -/
private theorem accept_behind_operand {output operators rest : List Token} {token : Token}
    (stops : Stops (.chain .sum) (token :: rest))
    (closes : token.kind = .closing -> ∀ top ∈ operators, top.kind ≠ .opening) :
    ∃ failure, accept ⟨output, operators, false⟩ token = .error failure := by
  rw [accept]
  cases kind : token.kind with
  | binary op => exact absurd kind (stops.kind_ne_binary token rfl op)
  | number | identifier | opening | negate => exact ⟨unexpected token, rfl⟩
  | closing =>
      refine ⟨.mismatchedParenthesis, ?_⟩
      simp [releaseToOpening_of_closed (closes kind)]
  | endOfInput => exact ⟨unsupported token, rfl⟩

/-- A refused reading ends in a failure, or with a number that cannot be read
among what is put out. -/
theorem conclude_of_refuses {yard : Yard} {suspect ordered : List Token} {failure : Failure}
    (refuses : Refuses yard suspect failure) (concluded : conclude yard suspect = .ok ordered) :
    ∃ token ∈ suspect, token ∈ ordered ∧ token.kind = .number ∧
      readNumber token.text = none := by
  cases refuses with
  | missing missing =>
      cases suspect with
      | nil =>
          rw [conclude, run_nil] at concluded
          cases concluded
      | cons token rest =>
          rcases missing token rfl with ⟨begins, unsigned⟩
          rcases accept_missing begins with ⟨failure, refused⟩
          rw [conclude_of_accept_error rest (by simpa using unsigned) refused] at concluded
          cases concluded
  | @unreadable output operators rest token kind fails =>
      rw [conclude, run_value _ _ _ (.inl kind)] at concluded
      have put := conclude_subset concluded List.mem_cons_self
      exact ⟨token, List.mem_cons_self, put, kind, fails⟩
  | @unclosed output operators _ opening waiting opens stops unclosed =>
      cases suspect with
      | nil =>
          rw [conclude, run_nil] at concluded
          change (releaseAll operators output).map List.reverse = .ok ordered at concluded
          rw [releaseAll_of_waiting waiting opens output] at concluded
          cases concluded
      | cons token rest =>
          rcases accept_behind_operand stops
            (fun closes => absurd closes (unclosed token rfl)) with ⟨failure, refused⟩
          rw [conclude_of_accept_error rest rfl refused] at concluded
          cases concluded
  | @surplus output operators rest token closed stops =>
      rcases accept_behind_operand stops (fun _ => closed) with ⟨failure, refused⟩
      rw [conclude_of_accept_error rest rfl refused] at concluded
      cases concluded

end Yard

private theorem refuses_of_parse_error {tokens : List Token} {failure : Failure}
    (endless : ∀ token ∈ tokens, token.kind ≠ .endOfInput)
    (failed : parse tokens = .error failure) :
    ∃ yard suspect, Yard.run .unbounded .start tokens = Yard.run .unbounded yard suspect ∧
      suspect <:+ tokens ∧ Yard.Refuses yard suspect failure := by
  have accounts := Descent.accounts_read (.chain .sum) tokens (by simp)
  rw [Descent.parse_eq_read, takeWhile_ne_endOfInput endless] at failed
  rcases result : Descent.read (.chain .sum) tokens with
    found | ⟨tree, _ | ⟨token, rest⟩⟩
  · rw [result] at accounts failed
    cases failed
    rcases accounts with ⟨suspect, stuck⟩
    rcases Yard.run_of_stuck stuck [] [] (Yard.clear_nil _) with ⟨yard, runs, refuses⟩
    exact ⟨yard, suspect, runs, stuck.suffix, refuses⟩
  · rw [result] at failed
    cases failed
  · rw [result] at accounts failed
    cases failed
    rcases accounts with ⟨front, split, derived, stops⟩
    rcases Yard.run_of_derives derived [] [] (Yard.clear_nil _) with
      ⟨listing, pending, output, _, binds, _, runs⟩
    refine ⟨_, token :: rest, split ▸ runs (token :: rest), ⟨front, split.symm⟩, ?_⟩
    apply Yard.Refuses.surplus _ stops
    intro top member
    rw [List.append_nil] at member
    exact (binds top member).kind_ne.1

/-- Tokens without a tree have no postfix order, unless a number among them
cannot be read; the order then contains it. -/
theorem unreadable_of_toPostfix {tokens ordered : List Token} {failure : Failure}
    (endless : ∀ token ∈ tokens, token.kind ≠ .endOfInput) (nonempty : tokens ≠ [])
    (failed : parse tokens = .error failure) (converted : toPostfix tokens = .ok ordered) :
    ∃ token ∈ tokens, token ∈ ordered ∧ token.kind = .number ∧
      readNumber token.text = none := by
  rcases refuses_of_parse_error endless failed with ⟨yard, suspect, runs, suffix, refuses⟩
  rw [Yard.toPostfix_eq_conclude nonempty, Yard.conclude, runs] at converted
  rcases Yard.conclude_of_refuses refuses converted with ⟨token, member, fate⟩
  exact ⟨token, suffix.subset member, fate⟩

/-! ## Two ways to the same trees -/

theorem parseViaPostfix_of_derives {tokens : List Token} {tree : Expression Float}
    (derived : Derives (.chain .sum) tokens tree) : parseViaPostfix tokens = .ok tree := by
  rcases toPostfix_of_derives derived with ⟨listing, converted, lists⟩
  rw [parseViaPostfix, converted]
  exact Postfix.toExpression_of_lists lists

theorem parse_of_parseViaPostfix {tokens : List Token} {tree : Expression Float}
    (endless : ∀ token ∈ tokens, token.kind ≠ .endOfInput)
    (built : parseViaPostfix tokens = .ok tree) : parse tokens = .ok tree := by
  cases parsed : parse tokens with
  | ok found =>
      rw [parseViaPostfix_of_derives (derives_of_parse endless parsed)] at built
      exact built
  | error failure =>
      exfalso
      by_cases nonempty : tokens = []
      · subst nonempty
        cases built
      · rw [parseViaPostfix] at built
        cases converted : toPostfix tokens with
        | error failure =>
            rw [converted] at built
            cases built
        | ok ordered =>
            rw [converted] at built
            rcases unreadable_of_toPostfix endless nonempty parsed converted with
              ⟨token, _, member, kind, fails⟩
            exact Postfix.toExpression_ne_ok member kind fails tree built

/-- Both ways lead to the same trees. -/
theorem parse_eq_ok_iff_parseViaPostfix {tokens : List Token}
    (endless : ∀ token ∈ tokens, token.kind ≠ .endOfInput) (tree : Expression Float) :
    parse tokens = .ok tree ↔ parseViaPostfix tokens = .ok tree :=
  ⟨fun parsed => parseViaPostfix_of_derives (derives_of_parse endless parsed),
    parse_of_parseViaPostfix endless⟩

/-- The tokens of `2 - -(x + y) * +z`, which wait on the siding in five
layers. -/
theorem parse_eq_ok_iff_parseViaPostfix_nested :
    let tokens : List Token :=
      [⟨.number, "2"⟩, .ofKind (.binary .subtract), .ofKind (.binary .subtract),
        .ofKind .opening, ⟨.identifier, "x"⟩, .ofKind (.binary .add), ⟨.identifier, "y"⟩,
        .ofKind .closing, .ofKind (.binary .multiply), .ofKind (.binary .add),
        ⟨.identifier, "z"⟩]
    let tree : Expression Float :=
      .binary .subtract (.number 2) (.binary .multiply
        (.negate (.binary .add (.identifier "x") (.identifier "y"))) (.identifier "z"))
    (∀ token ∈ tokens, token.kind ≠ .endOfInput) ∧ parse tokens = .ok tree ∧
      parseViaPostfix tokens = .ok tree := by
  intro tokens tree
  have endless : ∀ token ∈ tokens, token.kind ≠ .endOfInput := by decide
  have parsed : parse tokens = .ok tree := by decide +kernel
  exact ⟨endless, parsed, (parse_eq_ok_iff_parseViaPostfix endless tree).mp parsed⟩

end Reckoner
