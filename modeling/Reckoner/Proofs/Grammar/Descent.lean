import Mathlib.Data.Set.Subsingleton
import Reckoner.Proofs.Grammar

namespace Reckoner

/-!
# What the descent reads

The functions of the descent return the rest of the tokens together with a
bound on its length.  `Descent.read` forgets the bound and puts the functions
for the phrases of the grammar into one.  It satisfies one equation for each
phrase, and `Descent.induction` is the induction that follows them.

Two statements describe it completely.  `Descent.accounts_read` says what its
result means: a tree is derived from the tokens before the rest, and the rest
stops the phrase; a failure reports the token at which the phrase is stuck.
`Derives.read` is the converse for trees.  Its point is that the loops take
neither too much nor too little: a chain of members is read as far as it was
derived, whatever tokens follow, and the loop for its tier goes on from there.
-/

namespace Descent

def plain {bound : Nat} (parsed : Parsed bound) :
    Except Failure (Expression Float × List Token) :=
  parsed.map fun result => (result.1, result.2.1)

def read : Phrase -> List Token -> Except Failure (Expression Float × List Token)
  | .chain tier, tokens => plain (chain .unbounded tier tokens)
  | .operand, tokens => plain (operand .unbounded tokens)
  | .leaf, tokens => plain (leaf .unbounded tokens)

def readFurther (tier : Tier) (left : Expression Float) (tokens : List Token) :
    Except Failure (Expression Float × List Token) :=
  plain (extend .unbounded tier left tokens)

/-- What an opening parenthesis and the chain behind it amount to, depending on
what follows the chain. -/
def enclose (inner : Expression Float) :
    List Token -> Except Failure (Expression Float × List Token)
  | [] => .error .missingCloseParenthesis
  | token :: rest =>
      if token.kind = .closing then .ok (inner, rest) else .error .missingCloseParenthesis

private theorem length_plain {bound : Nat} {parsed : Parsed bound}
    {tree : Expression Float} {rest : List Token} (found : plain parsed = .ok (tree, rest)) :
    rest.length < bound := by
  rcases parsed with failure | ⟨tree', rest', shorter⟩
  · cases found
  · cases found
    exact shorter

theorem length_read {phrase : Phrase} {tokens rest : List Token} {tree : Expression Float}
    (found : read phrase tokens = .ok (tree, rest)) : rest.length < tokens.length := by
  cases phrase <;> exact length_plain found

/-! ## The equations of the descent -/

theorem read_member (tier : Tier) (tokens : List Token) :
    read tier.member tokens = plain (member .unbounded tier tokens) := by
  cases tier <;> rw [member] <;> rfl

theorem read_chain (tier : Tier) (tokens : List Token) :
    read (.chain tier) tokens =
      (read tier.member tokens).bind fun first => readFurther tier first.1 first.2 := by
  rw [read_member, read, chain]
  rcases member .unbounded tier tokens with failure | ⟨first, rest, shorter⟩
  · rfl
  · simp only [plain, readFurther, Except.map, Except.bind]
    rcases extend .unbounded tier first rest with failure | ⟨whole, rest', shorter'⟩ <;> rfl

theorem readFurther_nil (tier : Tier) (left : Expression Float) :
    readFurther tier left [] = .ok (left, []) := by
  rw [readFurther, extend]
  rfl

/-- An operator of the tier is followed by a further member. -/
theorem readFurther_operator {tier : Tier} {op : Operator} {token : Token}
    (left : Expression Float) (rest : List Token) (kind : token.kind = .binary op)
    (same : op.tier = tier) :
    readFurther tier left (token :: rest) =
      (read tier.member rest).bind fun right =>
        readFurther tier (.binary op left right.1) right.2 := by
  rw [read_member, readFurther, extend]
  simp only [kind, TokenKind.operator?, if_pos same]
  rcases member .unbounded tier rest with failure | ⟨right, rest', shorter⟩
  · rfl
  · simp only [plain, readFurther, Except.map, Except.bind]
    rcases extend .unbounded tier (.binary op left right) rest' with
      failure | ⟨whole, rest'', shorter'⟩ <;> rfl

/-- Any other token ends the chain. -/
theorem readFurther_other {tier : Tier} {token : Token} (left : Expression Float)
    (rest : List Token) (other : ∀ op, token.kind = .binary op -> op.tier ≠ tier) :
    readFurther tier left (token :: rest) = .ok (left, token :: rest) := by
  rw [readFurther, extend]
  cases kind : token.kind with
  | binary op =>
      simp only [TokenKind.operator?, if_neg (other op kind)]
      rfl
  | number | identifier | negate | opening | closing | endOfInput => rfl

theorem read_operand (tokens : List Token) :
    read .operand tokens = (read .leaf (SignRun.behind tokens)).map fun leaf =>
      (negateIf (SignRun.negates .unbounded (SignRun.front tokens)) leaf.1, leaf.2) := by
  rw [read, operand, read]
  rcases leaf .unbounded (SignRun.behind tokens) with failure | ⟨tree, rest, shorter⟩ <;> rfl

theorem read_leaf_number {token : Token} (rest : List Token) (kind : token.kind = .number) :
    read .leaf (token :: rest) =
      match readNumber token.text with
      | some value => .ok (.number value, rest)
      | none => .error (unexpected (token :: rest)) := by
  rw [read, leaf]
  simp only [kind]
  cases readNumber token.text <;> rfl

theorem read_leaf_identifier {token : Token} (rest : List Token)
    (kind : token.kind = .identifier) :
    read .leaf (token :: rest) = .ok (.identifier token.text, rest) := by
  rw [read, leaf]
  simp only [kind]
  rfl

theorem read_leaf_opening {token : Token} (rest : List Token) (kind : token.kind = .opening) :
    read .leaf (token :: rest) =
      (read (.chain .sum) rest).bind fun inner => enclose inner.1 inner.2 := by
  rw [read, read, leaf]
  simp only [kind]
  rcases chain .unbounded .sum rest with failure | ⟨inner, _ | ⟨closing, rest'⟩, shorter⟩
  · rfl
  · rfl
  · simp only [plain, Except.map, Except.bind, enclose]
    by_cases closes : closing.kind = .closing
    · simp only [if_pos closes]
    · simp only [if_neg closes]

theorem read_leaf_missing {tokens : List Token}
    (missing : ∀ token ∈ tokens.head?, token.kind.beginsLeaf = false) :
    read .leaf tokens = .error (unexpected tokens) := by
  rw [read]
  cases tokens with
  | nil =>
      rw [leaf]
      rfl
  | cons token rest =>
      have none : token.kind.beginsLeaf = false := missing token rfl
      rw [leaf]
      split
      · rename_i kind
        simp [kind, TokenKind.beginsLeaf] at none
      · rename_i kind
        simp [kind, TokenKind.beginsLeaf] at none
      · rename_i kind
        simp [kind, TokenKind.beginsLeaf] at none
      · rfl

/-! ## Induction along the descent -/

/-- To prove something of all phrases and of all extensions of chains it is
enough to follow the calls of the descent: from a phrase to the phrases that it
asks for, and to what these leave. -/
theorem induction {P : Phrase -> List Token -> Prop}
    {Q : Tier -> Expression Float -> List Token -> Prop}
    (chain : ∀ tier tokens, P tier.member tokens ->
      (∀ first rest, read tier.member tokens = .ok (first, rest) -> Q tier first rest) ->
      P (.chain tier) tokens)
    (further : ∀ tier left tokens,
      (∀ op token rest, tokens = token :: rest -> token.kind = .binary op -> op.tier = tier ->
        P tier.member rest ∧ ∀ right rest', read tier.member rest = .ok (right, rest') ->
          Q tier (.binary op left right) rest') ->
      Q tier left tokens)
    (operand : ∀ tokens, P .leaf (SignRun.behind tokens) -> P .operand tokens)
    (leaf : ∀ tokens, (∀ token rest, tokens = token :: rest -> P (.chain .sum) rest) ->
      P .leaf tokens) :
    (∀ phrase tokens, P phrase tokens) ∧ ∀ tier left tokens, Q tier left tokens := by
  -- The calls keep the tokens and go down in the grammar, or they shorten the tokens.
  have all : ∀ size tokens, tokens.length = size ->
      (∀ phrase, P phrase tokens) ∧ ∀ tier left, Q tier left tokens := by
    intro size
    induction size using Nat.strong_induction_on with
    | _ size inductionHypothesis =>
        intro tokens length
        have phraseBelow : ∀ phrase rest, rest.length < tokens.length -> P phrase rest := by
          intro phrase rest shorter
          exact (inductionHypothesis rest.length (length ▸ shorter) rest rfl).1 phrase
        have furtherBelow : ∀ tier left rest, rest.length < tokens.length ->
            Q tier left rest := by
          intro tier left rest shorter
          exact (inductionHypothesis rest.length (length ▸ shorter) rest rfl).2 tier left
        have ofLeaf : P .leaf tokens := by
          apply leaf
          intro token rest split
          exact phraseBelow _ rest (by simp [split])
        have ofOperand : P .operand tokens := by
          apply operand
          rcases Nat.lt_or_eq_of_le (SignRun.length_behind_le tokens) with shorter | equal
          · exact phraseBelow _ _ shorter
          · have whole := SignRun.front_append_behind tokens
            have none : SignRun.front tokens = [] := by
              have lengths := congrArg List.length whole
              rw [List.length_append, equal] at lengths
              exact List.eq_nil_of_length_eq_zero (by omega)
            rw [none, List.nil_append] at whole
            rw [whole]
            exact ofLeaf
        have ofChain : ∀ tier, P (.chain tier) tokens := by
          have step : ∀ tier, P tier.member tokens -> P (.chain tier) tokens := by
            intro tier ofMember
            apply chain tier tokens ofMember
            intro first rest found
            exact furtherBelow _ _ _ (length_read found)
          intro tier
          cases tier with
          | sum => exact step .sum (step .product ofOperand)
          | product => exact step .product ofOperand
        constructor
        · intro phrase
          cases phrase with
          | chain tier => exact ofChain tier
          | operand => exact ofOperand
          | leaf => exact ofLeaf
        · intro tier left
          apply further
          intro op token rest split kind same
          have shorter : rest.length < tokens.length := by simp [split]
          constructor
          · exact phraseBelow _ _ shorter
          · intro right rest' found
            exact furtherBelow _ _ _ (Nat.lt_trans (length_read found) shorter)
  constructor
  · intro phrase tokens
    exact (all _ tokens rfl).1 phrase
  · intro tier left tokens
    exact (all _ tokens rfl).2 tier left

/-! ## What a result means -/

/-- The meaning of a result: a tree stands for the tokens before the rest, and
the rest stops the phrase; a failure blames a token at which the phrase is
stuck. -/
def Accounts (phrase : Phrase) (tokens : List Token) :
    Except Failure (Expression Float × List Token) -> Prop
  | .ok (tree, rest) =>
      ∃ front, tokens = front ++ rest ∧ Derives phrase front tree ∧ Stops phrase rest
  | .error failure => ∃ suspect, Stuck phrase tokens suspect failure

private theorem stops_of_other {tier : Tier} {token : Token} {rest : List Token}
    (stops : Stops tier.member (token :: rest))
    (other : ∀ op, token.kind = .binary op -> op.tier ≠ tier) :
    Stops (.chain tier) (token :: rest) := by
  intro next first op kind
  have bound := stops next first op kind
  have same : token = next := Option.mem_some.mp first
  subst next
  have different := other op kind
  rw [tier.level_member, ← op.precedence_tier] at bound
  rw [← op.precedence_tier]
  cases tier <;> cases tiers : op.tier <;> simp_all [Phrase.level, Tier.precedence]

private theorem accounts_chain {tier : Tier} {tokens : List Token}
    (ofMember : Accounts tier.member tokens (read tier.member tokens))
    (ofFurther : ∀ first rest, read tier.member tokens = .ok (first, rest) ->
      ∀ before, Derives (.chain tier) before first -> Stops tier.member rest ->
        Accounts (.chain tier) (before ++ rest) (readFurther tier first rest)) :
    Accounts (.chain tier) tokens (read (.chain tier) tokens) := by
  rw [read_chain]
  rcases found : read tier.member tokens with failure | ⟨first, rest⟩
  · rw [found] at ofMember
    rcases ofMember with ⟨suspect, stuck⟩
    exact ⟨suspect, .member stuck⟩
  · rw [found] at ofMember
    rcases ofMember with ⟨front, split, derived, stops⟩
    rw [split]
    exact ofFurther first rest found front (.single derived) stops

private theorem accounts_further {tier : Tier} {left : Expression Float}
    {tokens before : List Token}
    (calls : ∀ op token rest, tokens = token :: rest -> token.kind = .binary op ->
      op.tier = tier -> Accounts tier.member rest (read tier.member rest) ∧
        ∀ right rest', read tier.member rest = .ok (right, rest') ->
          ∀ before, Derives (.chain tier) before (.binary op left right) ->
            Stops tier.member rest' ->
            Accounts (.chain tier) (before ++ rest')
              (readFurther tier (.binary op left right) rest'))
    (derived : Derives (.chain tier) before left) (stops : Stops tier.member tokens) :
    Accounts (.chain tier) (before ++ tokens) (readFurther tier left tokens) := by
  cases tokens with
  | nil =>
      rw [readFurther_nil]
      exact ⟨before, rfl, derived, stops_nil _⟩
  | cons token rest =>
      by_cases operator : ∃ op, token.kind = .binary op ∧ op.tier = tier
      · rcases operator with ⟨op, kind, same⟩
        rcases calls op token rest rfl kind same with ⟨ofMember, ofFurther⟩
        rw [readFurther_operator left rest kind same]
        rcases found : read tier.member rest with failure | ⟨right, rest'⟩
        · rw [found] at ofMember
          rcases ofMember with ⟨suspect, stuck⟩
          exact ⟨suspect, .joined derived kind same stuck⟩
        · rw [found] at ofMember
          rcases ofMember with ⟨back, split, derived', stops'⟩
          have joined := ofFurther right rest' found (before ++ token :: back)
            (.joined derived kind same derived') stops'
          rw [List.append_assoc, List.cons_append, ← split] at joined
          exact joined
      · have other : ∀ op, token.kind = .binary op -> op.tier ≠ tier := by
          intro op kind same
          exact operator ⟨op, kind, same⟩
        rw [readFurther_other left rest other]
        exact ⟨before, rfl, derived, stops_of_other stops other⟩

/-- The parity of the counted signs decides. -/
theorem negateIf_negates (signs : List Token) (tree : Expression Float) :
    negateIf (SignRun.negates .unbounded signs) tree =
      if Odd (signs.countP Token.isNegating) then .negate tree else tree := by
  simp only [negateIf, SignRun.negates_unbounded_iff]

private theorem accounts_operand {tokens : List Token}
    (ofLeaf : Accounts .leaf (SignRun.behind tokens) (read .leaf (SignRun.behind tokens))) :
    Accounts .operand tokens (read .operand tokens) := by
  have signs : ∀ sign ∈ SignRun.front tokens, sign.isSign = true := SignRun.isSign_of_mem_front
  have whole := SignRun.front_append_behind tokens
  rw [read_operand]
  rcases found : read .leaf (SignRun.behind tokens) with failure | ⟨leaf, rest⟩
  · rw [found] at ofLeaf
    rcases ofLeaf with ⟨suspect, stuck⟩
    exact ⟨suspect, whole ▸ .signed signs stuck⟩
  · rw [found] at ofLeaf
    rcases ofLeaf with ⟨front, split, derived, _⟩
    rw [Except.map, negateIf_negates]
    refine ⟨SignRun.front tokens ++ front, ?_, .signed signs derived,
      stops_of_negationPrecedence_le (Nat.le_refl _) rest⟩
    rw [List.append_assoc, ← split, whole]

private theorem accounts_leaf {tokens : List Token}
    (ofChain : ∀ token rest, tokens = token :: rest ->
      Accounts (.chain .sum) rest (read (.chain .sum) rest))
    (unsigned : ∀ token ∈ tokens.head?, token.isSign = false) :
    Accounts .leaf tokens (read .leaf tokens) := by
  have stops := @stops_of_negationPrecedence_le .leaf (Nat.le_succ _)
  by_cases missing : ∀ token ∈ tokens.head?, token.kind.beginsLeaf = false
  · rw [read_leaf_missing missing]
    exact ⟨tokens, .missing fun token first => ⟨missing token first, unsigned token first⟩⟩
  · cases tokens with
    | nil => simp at missing
    | cons token rest =>
        cases kind : token.kind with
        | number =>
            rw [read_leaf_number rest kind]
            cases value : readNumber token.text with
            | none => exact ⟨_, .unreadable kind value⟩
            | some value' => exact ⟨[token], rfl, .number kind value, stops rest⟩
        | identifier =>
            rw [read_leaf_identifier rest kind]
            exact ⟨[token], rfl, .identifier kind, stops rest⟩
        | opening =>
            have inner := ofChain token rest rfl
            rw [read_leaf_opening rest kind]
            rcases found : read (.chain .sum) rest with failure | ⟨tree, rest'⟩
            · rw [found] at inner
              rcases inner with ⟨suspect, stuck⟩
              exact ⟨suspect, .inside kind stuck⟩
            · rw [found] at inner
              rcases inner with ⟨front, split, derived, stopped⟩
              subst split
              cases rest' with
              | nil => exact ⟨[], .unclosed kind derived stopped (by simp)⟩
              | cons closing rest'' =>
                  rw [Except.bind, enclose]
                  by_cases closes : closing.kind = .closing
                  · rw [if_pos closes]
                    exact ⟨token :: front ++ [closing], by simp,
                      .parenthesized kind closes derived, stops rest''⟩
                  · rw [if_neg closes]
                    refine ⟨closing :: rest'', .unclosed kind derived stopped ?_⟩
                    intro other first
                    rw [← Option.mem_some.mp first]
                    exact closes
        | binary | negate | closing | endOfInput =>
            simp [kind, TokenKind.beginsLeaf] at missing

/-- Every result of the descent has its meaning.  The signs before a leaf
belong to the operand, so a leaf is only looked for behind them. -/
theorem accounts_read (phrase : Phrase) (tokens : List Token)
    (unsigned : phrase = .leaf -> ∀ token ∈ tokens.head?, token.isSign = false) :
    Accounts phrase tokens (read phrase tokens) := by
  refine (induction
    (P := fun phrase tokens =>
      (phrase = .leaf -> ∀ token ∈ tokens.head?, token.isSign = false) ->
        Accounts phrase tokens (read phrase tokens))
    (Q := fun tier left tokens => ∀ before, Derives (.chain tier) before left ->
      Stops tier.member tokens ->
        Accounts (.chain tier) (before ++ tokens) (readFurther tier left tokens))
    ?chain ?further ?operand ?leaf).1 phrase tokens unsigned
  case chain =>
      intro tier tokens ofMember ofFurther _
      exact accounts_chain (ofMember (by cases tier <;> simp [Tier.member])) ofFurther
  case further =>
      intro tier left tokens calls before derived stops
      apply accounts_further _ derived stops
      intro op token rest split kind same
      rcases calls op token rest split kind same with ⟨ofMember, ofFurther⟩
      exact ⟨ofMember (by cases tier <;> simp [Tier.member]), ofFurther⟩
  case operand =>
      intro tokens ofLeaf _
      exact accounts_operand (ofLeaf fun _ => SignRun.head_behind tokens)
  case leaf =>
      intro tokens ofChain unsigned
      apply accounts_leaf _ (unsigned rfl)
      intro token rest split
      exact ofChain token rest split (by simp)

/-! ## Derived phrases are read as they were derived -/

private theorem readFurther_stops {tier : Tier} {rest : List Token}
    (left : Expression Float) (stops : Stops (.chain tier) rest) :
    readFurther tier left rest = .ok (left, rest) := by
  cases rest with
  | nil => exact readFurther_nil tier left
  | cons token rest =>
      apply readFurther_other
      intro op kind same
      have bound := stops token rfl op kind
      rw [Phrase.level, ← same, op.precedence_tier] at bound
      exact Nat.lt_irrefl _ bound

/-- What it means that a derived phrase is read along.  A chain may go on
behind its derived part, with further members that the loop for its tier then
joins. -/
private def ReadAlong : Phrase -> List Token -> Expression Float -> Prop
  | .chain tier, tokens, tree => ∀ rest, Stops tier.member rest ->
      read (.chain tier) (tokens ++ rest) = readFurther tier tree rest
  | .operand, tokens, tree => ∀ rest, read .operand (tokens ++ rest) = .ok (tree, rest)
  | .leaf, tokens, tree => ∀ rest, read .leaf (tokens ++ rest) = .ok (tree, rest)

private theorem ReadAlong.read {phrase : Phrase} {tokens rest : List Token}
    {tree : Expression Float} (along : ReadAlong phrase tokens tree)
    (stops : Stops phrase rest) : read phrase (tokens ++ rest) = .ok (tree, rest) := by
  cases phrase with
  | chain tier =>
      have within : (Phrase.chain tier).level ≤ tier.member.level := by
        rw [tier.level_member]
        exact Nat.le_succ _
      rw [along rest (stops.mono within)]
      exact readFurther_stops tree stops
  | operand => exact along rest
  | leaf => exact along rest

private theorem read_signed {signs tokens rest : List Token} {tree : Expression Float}
    (run : ∀ sign ∈ signs, sign.isSign = true) (inner : Derives .leaf tokens tree)
    (along : ReadAlong .leaf tokens tree) :
    read .operand (signs ++ tokens ++ rest) =
      .ok (if Odd (signs.countP Token.isNegating) then .negate tree else tree, rest) := by
  have unsigned : ∀ token ∈ (tokens ++ rest).head?, token.isSign = false := by
    rcases inner.head_leaf with ⟨token, back, split, unsigned⟩
    simp [split, unsigned]
  rw [read_operand, List.append_assoc, SignRun.front_signs unsigned run,
    SignRun.behind_signs unsigned run, along rest, Except.map, negateIf_negates]

private theorem readAlong {phrase : Phrase} {tokens : List Token} {tree : Expression Float}
    (derived : Derives phrase tokens tree) : ReadAlong phrase tokens tree := by
  induction derived with
  | single member inductionHypothesis =>
      intro rest stops
      rw [read_chain, inductionHypothesis.read stops]
      rfl
  | joined first kind same last alongFirst alongLast =>
      intro rest stops
      rw [List.append_assoc, List.cons_append,
        alongFirst _ (Stops.of_operator kind same), readFurther_operator _ _ kind same,
        alongLast.read stops]
      rfl
  | signed run inner inductionHypothesis =>
      intro rest
      exact read_signed run inner inductionHypothesis
  | number kind reads =>
      intro rest
      rw [List.singleton_append, read_leaf_number rest kind, reads]
  | identifier kind =>
      intro rest
      exact read_leaf_identifier rest kind
  | @parenthesized opening closing tokens tree opens closes inner inductionHypothesis =>
      intro rest
      have stops : Stops (.chain .sum) (closing :: rest) := by
        intro token first op kind
        rw [← Option.mem_some.mp first, closes] at kind
        cases kind
      rw [List.append_assoc, List.cons_append, List.singleton_append,
        read_leaf_opening _ opens, inductionHypothesis.read stops, Except.bind, enclose,
        if_pos closes]

theorem read_of_derives {phrase : Phrase} {tokens rest : List Token} {tree : Expression Float}
    (derived : Derives phrase tokens tree) (stops : Stops phrase rest) :
    read phrase (tokens ++ rest) = .ok (tree, rest) :=
  (readAlong derived).read stops

/-! ## Whole expressions -/

/-- The tree of some tokens in terms of the reading of a sum. -/
theorem parse_eq_read (tokens : List Token) :
    parse tokens =
      match read (.chain .sum) (tokens.takeWhile (·.kind != .endOfInput)) with
      | .error failure => .error failure
      | .ok (tree, []) => .ok tree
      | .ok (_, token :: rest) => .error (unexpected (token :: rest)) := by
  rw [parse, parseCounting, read]
  rcases chain .unbounded .sum (tokens.takeWhile (·.kind != .endOfInput)) with
    failure | ⟨tree, _ | ⟨token, rest⟩, shorter⟩ <;> rfl

/-- A derivation of all tokens is found. -/
theorem parse_of_derives {tokens : List Token} {tree : Expression Float}
    (derived : Derives (.chain .sum) (tokens.takeWhile (·.kind != .endOfInput)) tree) :
    parse tokens = .ok tree := by
  have found := read_of_derives derived (stops_nil _)
  rw [List.append_nil] at found
  rw [parse_eq_read, found]

/-- A tree that is found is derived. -/
theorem derives_of_parse {tokens : List Token} {tree : Expression Float}
    (found : parse tokens = .ok tree) :
    Derives (.chain .sum) (tokens.takeWhile (·.kind != .endOfInput)) tree := by
  have accounts := accounts_read (.chain .sum) (tokens.takeWhile (·.kind != .endOfInput))
    (by simp)
  rw [parse_eq_read] at found
  rcases result : read (.chain .sum) (tokens.takeWhile (·.kind != .endOfInput)) with
    failure | ⟨whole, _ | ⟨token, rest⟩⟩
  · simp [result] at found
  · rw [result] at accounts found
    rcases accounts with ⟨front, split, derived, _⟩
    cases found
    rw [split, List.append_nil]
    exact derived
  · simp [result] at found

/-- Without a tree there is a token to blame, or a parenthesis left open. -/
theorem isSyntactic_of_parse {tokens : List Token} {failure : Failure}
    (failed : parse tokens = .error failure) : failure.isSyntactic = true := by
  have accounts := accounts_read (.chain .sum) (tokens.takeWhile (·.kind != .endOfInput))
    (by simp)
  rw [parse_eq_read] at failed
  rcases result : read (.chain .sum) (tokens.takeWhile (·.kind != .endOfInput)) with
    found | ⟨tree, _ | ⟨token, rest⟩⟩
  · rw [result] at accounts failed
    cases failed
    rcases accounts with ⟨suspect, stuck⟩
    exact stuck.isSyntactic
  · simp [result] at failed
  · rw [result] at failed
    cases failed
    rfl

/-- Two derivations of the same tokens have the same tree, since both are
found. -/
theorem derives_unique {tokens : List Token} {tree other : Expression Float}
    (derived : Derives (.chain .sum) tokens tree)
    (derived' : Derives (.chain .sum) tokens other) : tree = other := by
  have found := read_of_derives derived (stops_nil _)
  rw [read_of_derives derived' (stops_nil _)] at found
  cases found
  rfl

end Descent

/-- The tokens before the first end of the expression have a tree exactly if it
is derived from them, and they derive no second one. -/
theorem parse_eq_ok_iff_derives (tokens : List Token) (tree : Expression Float) :
    (parse tokens = .ok tree ↔
      Derives (.chain .sum) (tokens.takeWhile (·.kind != .endOfInput)) tree) ∧
    {other | Derives (.chain .sum) tokens other}.Subsingleton := by
  constructor
  · constructor
    · exact Descent.derives_of_parse
    · exact Descent.parse_of_derives
  · intro tree derived other derived'
    exact Descent.derives_unique derived derived'

/-- Two minus signs before a parenthesis leave no trace, the end of the
expression and what stands behind it neither. -/
example :
    parse [.ofKind (.binary .subtract), .ofKind .negate, .ofKind .opening,
      ⟨.identifier, "x"⟩, .ofKind .closing, .ofKind .endOfInput, .ofKind .closing] =
        .ok (.identifier "x") := by
  decide +kernel

end Reckoner
