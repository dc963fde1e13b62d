import Reckoner.Proofs.Postfix.Steps

namespace Reckoner

/-!
# What a conversion does not look at

The yard never looks at what it has put out.  Of the operators that wait it
sees no more than lies above the last opening parenthesis, unless this one is
closed.  A part of a conversion that goes through therefore goes through in the
same way on top of any other output, and of anything that an opening
parenthesis hides: it adds the same tokens (`Yard.Adds`).

Three things follow.  Nothing that is out is taken back
(`Yard.conclude_subset`).  Tokens in parentheses are put out as they are put
out alone (`Yard.passes_enclosed`).  And tokens that put out something and
leave nothing behind can be exchanged in the midst of others, with the same
exchange in what is put out in the end (`toPostfix_exchange`).
-/

namespace Yard

variable {counter : SignCounter}

/-- Tokens can be read in two parts, if the second one does not go on with a
run of signs. -/
theorem run_append (yard : Yard) (front : List Token) {back : List Token}
    (unsigned : ∀ token ∈ back.head?, token.isSign = false) :
    run counter yard (front ++ back) =
      (run counter yard front).bind fun yard' => run counter yard' back := by
  induction front using SignRun.induction generalizing yard with
  | nil =>
      rw [List.nil_append, run_nil]
      rfl
  | cons token rest onRest onBehind =>
      rw [List.cons_append, run_cons, run_cons, SignRun.front_append unsigned,
        SignRun.behind_append unsigned]
      split
      · cases acceptSigns counter yard (token :: SignRun.front rest) with
        | error failure => rfl
        | ok yard' => exact onBehind yard'
      · cases accept yard token with
        | error failure => rfl
        | ok yard' => exact onRest yard'

/-! ## What a step adds to the output -/

/-- What may wait below a part of a conversion without being seen by it. -/
def Hidden (operators : List Token) : Prop :=
  ∀ top ∈ operators.head?, top.kind = .opening

/-- Operators and parentheses, among which no leaf waits. -/
def Leafless (operators : List Token) : Prop :=
  ∀ top ∈ operators, top.isLeaf = false

/-- A part of a conversion that reads some tokens goes through, and adds the
same to any output above anything hidden.  The leaves among the tokens pass in
their order. -/
structure Adds (part : Yard -> Except Failure Yard) (tokens : List Token) (yard yard' : Yard)
    (added : List Token) : Prop where
  anywhere : ∀ output hidden, Hidden hidden ->
    part ⟨output, yard.operators ++ hidden, yard.expectsOperand⟩ =
      .ok ⟨added ++ output, yard'.operators ++ hidden, yard'.expectsOperand⟩
  leafless : Leafless yard.operators -> Leafless yard'.operators
  leaves : Leafless yard.operators ->
    added.filter Token.isLeaf = (tokens.filter Token.isLeaf).reverse

theorem Adds.output_eq {part : Yard -> Except Failure Yard} {tokens added : List Token}
    {yard yard' : Yard} (adds : Adds part tokens yard yard' added)
    (done : part yard = .ok yard') : yard'.output = added ++ yard.output := by
  have alone := adds.anywhere yard.output [] (by simp [Hidden])
  rw [List.append_nil, List.append_nil, done] at alone
  exact congrArg output (Except.ok.inj alone)

private theorem Adds.andThen {first second : Yard -> Except Failure Yard}
    {tokens tokens' before behind : List Token} {yard middle yard' : Yard}
    (adds : Adds first tokens yard middle before)
    (adds' : Adds second tokens' middle yard' behind) :
    Adds (fun yard => (first yard).bind second) (tokens ++ tokens') yard yard'
      (behind ++ before) := by
  refine ⟨fun output hidden covered => ?_, fun leafless => adds'.leafless (adds.leafless leafless),
    fun leafless => ?_⟩
  · rw [adds.anywhere output hidden covered, List.append_assoc]
    exact adds'.anywhere (before ++ output) hidden covered
  · rw [List.filter_append, List.filter_append, List.reverse_append, adds.leaves leafless,
      adds'.leaves (adds.leafless leafless)]

theorem Clear.append_hidden {level : Nat} {operators hidden : List Token}
    (clear : Clear level operators) (covered : Hidden hidden) :
    Clear level (operators ++ hidden) := by
  cases operators with
  | nil => exact fun top first => .inl (covered top first)
  | cons top below => exact clear

private theorem filter_of_leafless {operators : List Token} (leafless : Leafless operators) :
    operators.reverse.filter Token.isLeaf = [] := by
  rw [List.filter_reverse, List.reverse_eq_nil_iff, List.filter_eq_nil_iff]
  intro top member
  simp [leafless top member]

private theorem adds_acceptSigns {yard yard' : Yard} {run : List Token}
    (signs : ∀ sign ∈ run, sign.isSign = true)
    (done : yard.acceptSigns counter run = .ok yard') :
    Adds (fun yard => yard.acceptSigns counter run) run yard yard' [] := by
  have none : run.filter Token.isLeaf = [] := by
    rw [List.filter_eq_nil_iff]
    intro sign member
    simp [Token.isLeaf_of_isSign (signs sign member)]
  have taken := acceptSigns_eq_ok_iff.mp done
  by_cases negates : SignRun.negates counter run = true
  · rw [if_pos negates] at taken
    rcases taken with ⟨clear, rfl⟩
    refine ⟨fun output hidden covered => acceptSigns_eq_ok_iff.mpr ?_, fun leafless => ?_, ?_⟩
    · rw [if_pos negates]
      exact ⟨clear.append_hidden covered, rfl⟩
    · exact List.forall_mem_cons.mpr ⟨rfl, leafless⟩
    · simp [none]
  · rw [if_neg negates] at taken
    subst taken
    refine ⟨fun output hidden _ => acceptSigns_eq_ok_iff.mpr ?_, id, by simp [none]⟩
    rw [if_neg negates]
    rfl

private theorem adds_takes {yard yard' : Yard} {token : Token} (takes : Takes token yard yard') :
    ∃ added, Adds (fun yard => yard.accept token) [token] yard yard' added := by
  cases takes with
  | leaf expects leaf =>
      refine ⟨[token], fun output hidden _ => ?_, id, fun _ => by simp [leaf]⟩
      exact accept_eq_ok_iff.mpr (.leaf expects leaf)
  | opening expects opens =>
      have noLeaf : token.isLeaf = false := by simp [Token.isLeaf, opens]
      refine ⟨[], fun output hidden _ => ?_, fun leafless => ?_, fun _ => by simp [noLeaf]⟩
      · exact accept_eq_ok_iff.mpr (.opening expects opens)
      · exact List.forall_mem_cons.mpr ⟨noLeaf, leafless⟩
  | @operator op released left behind kind split binds clear =>
      have noLeaf : token.isLeaf = false := by simp [Token.isLeaf, kind]
      refine ⟨released.reverse, fun output hidden covered => ?_, fun leafless => ?_,
        fun leafless => ?_⟩
      · apply accept_eq_ok_iff.mpr
        exact .operator behind kind (by simp [split]) binds (clear.append_hidden covered)
      · refine List.forall_mem_cons.mpr ⟨noLeaf, fun top member => leafless top ?_⟩
        simp [split, member]
      · have leafless' : Leafless released :=
          fun top member => leafless top (by simp [split, member])
        simp [filter_of_leafless leafless', noLeaf]
  | @closing above left opening behind closes split opens closed =>
      have noLeaf : token.isLeaf = false := by simp [Token.isLeaf, closes]
      refine ⟨above.reverse, fun output hidden covered => ?_, fun leafless => ?_,
        fun leafless => ?_⟩
      · apply accept_eq_ok_iff.mpr
        exact .closing behind closes (by simp [split]) opens closed
      · exact fun top member => leafless top (by simp [split, member])
      · have leafless' : Leafless above :=
          fun top member => leafless top (by simp [split, member])
        simp [filter_of_leafless leafless', noLeaf]

/-- A run adds what its steps add, one after another. -/
theorem adds_run {yard yard' : Yard} {tokens : List Token}
    (done : run counter yard tokens = .ok yard') :
    ∃ added, Adds (fun yard => run counter yard tokens) tokens yard yard' added := by
  have runs := runs_of_run done
  clear done
  induction runs with
  | nil => exact ⟨[], fun output hidden _ => run_nil _, id, fun _ => rfl⟩
  | signs expects run unsigned first _ inductionHypothesis =>
      rcases inductionHypothesis with ⟨behind, adds'⟩
      have both := (adds_acceptSigns run first).andThen adds'
      refine ⟨_, fun output hidden covered => ?_, both.leafless, both.leaves⟩
      refine Eq.trans ?_ (both.anywhere output hidden covered)
      exact run_of_signs (by exact expects) run unsigned
  | token alone first _ inductionHypothesis =>
      rcases adds_takes first with ⟨before, adds⟩
      rcases inductionHypothesis with ⟨behind, adds'⟩
      have both := adds.andThen adds'
      refine ⟨_, fun output hidden covered => ?_, both.leafless, both.leaves⟩
      rw [run_cons, if_neg (by simp [alone])]
      exact both.anywhere output hidden covered

/-! ## Tokens that pass -/

/-- Tokens that begin like a leaf, put out a listing and leave nothing
behind. -/
structure Passes (tokens listing : List Token) : Prop where
  begins : ∃ token rest, tokens = token :: rest ∧ token.kind.beginsLeaf = true
  runs : ∀ output operators rest,
    run .unbounded ⟨output, operators, true⟩ (tokens ++ rest) =
      run .unbounded ⟨listing.reverse ++ output, operators, false⟩ rest

private theorem releaseAll_moves {operators output output' : List Token}
    (done : releaseAll operators output = .ok output') :
    (∀ top ∈ operators, top.kind ≠ .opening) ∧
      ∀ output, releaseAll operators output = .ok (operators.reverse ++ output) := by
  induction operators generalizing output with
  | nil => exact ⟨by simp, fun output => rfl⟩
  | cons top below inductionHypothesis =>
      rw [releaseAll] at done
      by_cases parenthesis : (top.kind = .opening || top.kind = .closing) = true
      · rw [if_pos parenthesis] at done
        cases done
      · rw [if_neg parenthesis] at done
        rcases inductionHypothesis done with ⟨closed, moves⟩
        refine ⟨List.forall_mem_cons.mpr ⟨?_, closed⟩, fun output => ?_⟩
        · intro opens
          simp [opens] at parenthesis
        · rw [releaseAll, if_neg parenthesis, moves]
          simp

theorem finish_moves {yard : Yard} {ordered : List Token}
    (done : yard.finish = .ok ordered) :
    yard.expectsOperand = false ∧ (∀ top ∈ yard.operators, top.kind ≠ .opening) ∧
      ordered = yard.output.reverse ++ yard.operators ∧
      ∀ output,
        finish ⟨output, yard.operators, false⟩ = .ok (output.reverse ++ yard.operators) := by
  rw [finish] at done
  split at done
  · cases done
  · rename_i behind
    cases all : releaseAll yard.operators yard.output with
    | error failure =>
        rw [all] at done
        cases done
    | ok output' =>
        rw [all] at done
        cases done
        rcases releaseAll_moves all with ⟨closed, moves⟩
        refine ⟨Bool.eq_false_iff.mpr behind, closed, ?_, fun output => ?_⟩
        · rw [Except.ok.inj (all.symm.trans (moves yard.output))]
          simp
        · rw [finish, moves]
          simp [Except.map]

/-- A successful conversion is a run from the start and an end. -/
theorem run_of_conclude {yard : Yard} {tokens ordered : List Token}
    (done : conclude yard tokens = .ok ordered) :
    ∃ yard', run .unbounded yard tokens = .ok yard' ∧ yard'.finish = .ok ordered := by
  rw [conclude] at done
  cases ran : run .unbounded yard tokens with
  | error failure =>
      rw [ran] at done
      cases done
  | ok yard' =>
      rw [ran] at done
      exact ⟨yard', rfl, done⟩

theorem conclude_subset {yard : Yard} {tokens ordered : List Token}
    (concluded : conclude yard tokens = .ok ordered) : yard.output ⊆ ordered := by
  rcases run_of_conclude concluded with ⟨last, ran, ended⟩
  rcases adds_run ran with ⟨added, adds⟩
  rcases finish_moves ended with ⟨_, _, put, _⟩
  intro token member
  rw [put, adds.output_eq ran]
  simp [member]

theorem passes_leaf {token : Token} (leaf : token.isLeaf = true) : Passes [token] [token] := by
  have kind := Token.isLeaf_iff.mp leaf
  refine ⟨⟨token, [], rfl, ?_⟩, fun output operators rest => run_value output operators rest kind⟩
  rcases kind with kind | kind <;> rw [kind] <;> rfl

/-- In parentheses tokens are put out as they are put out alone. -/
theorem passes_enclosed {opening closing : Token} {tokens listing : List Token}
    (opens : opening.kind = .opening) (closes : closing.kind = .closing) (nonempty : tokens ≠ [])
    (converted : toPostfix tokens = .ok listing) :
    Passes (opening :: tokens ++ [closing]) listing := by
  rw [toPostfix_eq_conclude nonempty] at converted
  rcases run_of_conclude converted with ⟨yard, ran, ended⟩
  rcases adds_run ran with ⟨added, adds⟩
  rcases finish_moves ended with ⟨behind, closed, whole, _⟩
  have put : yard.output = added ++ [] := adds.output_eq ran
  have unsigned : closing.isSign = false := by simp [Token.isSign, closes, TokenKind.isSign]
  refine ⟨⟨opening, _, rfl, by simp [opens, TokenKind.beginsLeaf]⟩, fun output operators rest => ?_⟩
  have inside : run .unbounded ⟨output, opening :: operators, true⟩ tokens =
      .ok ⟨added ++ output, yard.operators ++ opening :: operators, false⟩ :=
    behind ▸ adds.anywhere output (opening :: operators) (by simp [Hidden, opens])
  have closedOff := releaseToOpening_above closed opens operators (added ++ output)
  rw [List.append_assoc, List.cons_append, run_opening _ _ _ opens,
    run_append _ _ (by simpa using unsigned), inside]
  simp only [Except.bind, List.singleton_append]
  rw [run_accept rest rfl, accept]
  simp only [closes, closedOff, whole, put]
  simp [Except.bind]

/-- Tokens that pass lead from the state before them to the one behind them. -/
private theorem run_passing {yard yard' : Yard} {tokens listing rest : List Token}
    (passes : Passes tokens listing) (done : run .unbounded yard (tokens ++ rest) = .ok yard') :
    yard.expectsOperand = true ∧
      run .unbounded ⟨listing.reverse ++ yard.output, yard.operators, false⟩ rest = .ok yard' := by
  rcases yard with ⟨output, operators, expects⟩
  cases expects with
  | true => exact ⟨rfl, (passes.runs output operators rest).symm.trans done⟩
  | false =>
      rcases passes.begins with ⟨token, further, rfl, begins⟩
      have refused : accept ⟨output, operators, false⟩ token = .error (unexpected token) := by
        rw [accept]
        cases kind : token.kind <;> simp_all [TokenKind.beginsLeaf]
      rw [List.cons_append, run_accept _ rfl, refused] at done
      cases done

theorem Passes.unsigned {tokens listing : List Token} (passes : Passes tokens listing)
    (rest : List Token) : ∀ token ∈ (tokens ++ rest).head?, token.isSign = false := by
  rcases passes.begins with ⟨token, further, rfl, begins⟩
  intro first next
  rw [← Option.mem_some.mp next, Token.isSign]
  cases kind : token.kind <;> simp_all [TokenKind.beginsLeaf, TokenKind.isSign]

theorem Passes.ne_nil {tokens listing : List Token} (passes : Passes tokens listing) :
    tokens ≠ [] := by
  rcases passes.begins with ⟨token, rest, rfl, _⟩
  exact List.cons_ne_nil token rest

theorem toPostfix_of_passes {tokens listing : List Token} (passes : Passes tokens listing) :
    toPostfix tokens = .ok listing := by
  have runs := passes.runs [] [] []
  rw [List.append_nil, List.append_nil, run_nil] at runs
  rw [toPostfix_eq_conclude passes.ne_nil, conclude, start, runs]
  simp [Except.bind, finish, releaseAll, Except.map]

end Yard

open Yard in
/-- In place of tokens that pass any other ones may stand that do.  The result
changes where they have been put out, which is behind the leaves that stand
before them. -/
theorem toPostfix_exchange {front back part part' listing listing' ordered : List Token}
    (passes : Passes part listing) (passes' : Passes part' listing')
    (converted : toPostfix (front ++ part ++ back) = .ok ordered) :
    ∃ before behind, before.filter Token.isLeaf = front.filter Token.isLeaf ∧
      ordered = before ++ listing ++ behind ∧
      toPostfix (front ++ part' ++ back) = .ok (before ++ listing' ++ behind) := by
  have whole {part listing : List Token} (passes : Passes part listing) :
      toPostfix (front ++ part ++ back) =
        ((run .unbounded start front).bind
          fun yard => run .unbounded yard (part ++ back)).bind finish := by
    rw [toPostfix_eq_conclude (by simp [passes.ne_nil]), conclude, List.append_assoc,
      run_append start front (passes.unsigned back)]
  rw [whole passes] at converted
  cases first : run .unbounded start front with
  | error failure =>
      rw [first] at converted
      cases converted
  | ok yard =>
      rw [first] at converted
      rcases run_of_conclude converted with ⟨last, ran, ended⟩
      rcases run_passing passes ran with ⟨expects, ran'⟩
      rcases finish_moves ended with ⟨complete, _, put'', moves⟩
      rcases adds_run first with ⟨added, adds⟩
      rcases adds_run ran' with ⟨added', adds'⟩
      have put : yard.output = added ++ [] := adds.output_eq first
      have put' : last.output = added' ++ (listing.reverse ++ yard.output) :=
        adds'.output_eq ran'
      have again : run .unbounded yard (part' ++ back) =
          .ok ⟨added' ++ (listing'.reverse ++ yard.output), last.operators, false⟩ := by
        have runs := passes'.runs yard.output yard.operators back
        have rest := adds'.anywhere (listing'.reverse ++ yard.output) [] (by simp [Hidden])
        rw [List.append_nil, List.append_nil, complete] at rest
        rw [← expects] at runs
        exact runs.trans rest
      refine ⟨added.reverse, added'.reverse ++ last.operators, ?_, ?_, ?_⟩
      · rw [List.filter_reverse, adds.leaves (by simp [start, Leafless]), List.reverse_reverse]
      · rw [put'', put', put]
        simp
      · rw [whole passes', first]
        simp only [Except.bind, again, moves, put]
        simp

end Reckoner
