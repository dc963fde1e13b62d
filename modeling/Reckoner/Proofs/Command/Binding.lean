import Reckoner.Proofs.Command.Output
import Reckoner.Proofs.Expression.Names
import Reckoner.Proofs.TextOrder

namespace Reckoner

/-!
# What a binding is worth

The reader of bindings and the lexer have a notion of a name each.  To the
lexer a name is letters with digits behind them.  The reader of bindings looks
at the first character only, so that it lets through names with blanks,
operators or further letters in them.

Such a binding is accepted and does nothing: no tree has a name of this form,
so that every expression has the value that it would have without the binding.
A binding with a name in the sense of the lexer gives this name its value,
whatever has been bound before.  There is nothing in between.
-/

theorem Bindings.value?_ofList (pairs : List (String × Float)) (name : String) :
    (ofList pairs).value? name = pairs.reverse.lookup name := by
  induction pairs using List.reverseRecOn with
  | nil => rfl
  | append_singleton pairs pair inductionHypothesis =>
      rcases pair with ⟨other, value⟩
      have last : ofList (pairs ++ [(other, value)]) = (ofList pairs).set other value := by
        rw [ofList, List.foldl_append]
        rfl
      rw [last, value?_set, inductionHypothesis, List.reverse_append, List.reverse_singleton,
        List.singleton_append, List.lookup_cons]
      by_cases same : name = other
      · simp [same]
      · simp [same, beq_eq_false_iff_ne.mpr same]

/-! ## Names of the lexer -/

/-- A name of the lexer is read as one token, and no other text is. -/
theorem Lexer.tokenize_eq_identifier_iff {name : String} :
    tokenize name = .ok [⟨.identifier, name⟩] ↔ NameShape name.toList := by
  have same : Spelled ⟨.identifier, name⟩ ↔ tokenize name = .ok [⟨.identifier, name⟩] :=
    spelled_iff_tokenize nofun
  rw [← same]
  constructor
  · intro spelled
    generalize named : (⟨.identifier, name⟩ : Token) = token at spelled
    cases spelled with
    | number | negate => cases named
    | identifier shape =>
        cases named
        rwa [String.toList_ofList]
    | symbol symbol =>
        cases named
        exact absurd rfl (kind_of_ofSymbol? symbol).2.1
  · intro shape
    have spelled := Spelled.identifier shape
    rwa [String.ofList_toList] at spelled

theorem nameShape_of_mem_names {text name : String} {tree : Expression Float}
    (converted : convert text = .ok tree) (member : name ∈ tree.names) :
    Lexer.NameShape name.toList := by
  rcases convert_eq_ok_iff.mp converted with ⟨tokens, lexer, parsed⟩
  have derived := derives_of_parse (Lexer.endless_of_tokenize lexer) parsed
  rw [Expression.names, Expression.mem_firstOccurrences, derived.occurrences_eq,
    Token.identifiers] at member
  rcases List.mem_map.mp member with ⟨token, chosen, rfl⟩
  rcases List.mem_filter.mp chosen with ⟨among, kind⟩
  cases Lexer.spelled_of_tokenize lexer token among with
  | number | negate => cases kind
  | identifier shape => rwa [String.toList_ofList]
  | symbol symbol => exact absurd (of_decide_eq_true kind) (kind_of_ofSymbol? symbol).2.1

/-- A text that begins with a letter has a name among its tokens. -/
theorem Lexer.exists_identifier {text : String} {c : Char} {rest : List Char}
    {tokens : List Token} (begins : text.toList = c :: rest) (letter : isLetter c = true)
    (lexer : tokenize text = .ok tokens) : ∃ token ∈ tokens, token.kind = .identifier := by
  have leads : Leads ⟨.identifier, String.ofList (spanName (c :: rest)).1⟩
      (spanName (c :: rest)).2 := .identifier (longest_spanName (by simp [letter]))
  have read := scan_of_leads leads 0
  rw [String.toList_ofList, spanName_append] at read
  rw [tokenize, begins, read] at lexer
  cases further : scan (0 + (spanName (c :: rest)).1.length) (spanName (c :: rest)).2 with
  | error failure =>
      rw [further] at lexer
      cases lexer
  | ok later =>
      rw [further] at lexer
      cases lexer
      exact ⟨_, List.mem_cons_self, rfl⟩

namespace Command

/-! ## Bindings and verdicts -/

theorem verdict_of_convert {expression : String} {tree : Expression Float}
    (converted : convert expression = .ok tree) (bindings : List (String × Float)) :
    verdict expression bindings =
      ((tree.evaluate (Bindings.ofList bindings).resolver).run ()).1.toOption := by
  rw [verdict, run_calculate_of_convert converted]

/-- Bindings that give the same values to the names of the lexer have the same
verdicts. -/
theorem verdict_congr (expression : String) {bindings others : List (String × Float)}
    (agree : ∀ name, Lexer.NameShape name.toList ->
      (Bindings.ofList bindings).value? name = (Bindings.ofList others).value? name) :
    verdict expression bindings = verdict expression others := by
  -- Only a tree asks for names, and its names are names of the lexer.
  cases lexer : tokenize expression with
  | error failure =>
      rw [verdict_of_error (run_calculate_of_lexical _ _ _ lexer),
        verdict_of_error (run_calculate_of_lexical _ _ _ lexer)]
  | ok tokens =>
      by_cases empty : tokens = []
      · subst empty
        rw [verdict, verdict, run_calculate_of_blank _ _ _ lexer,
          run_calculate_of_blank _ _ _ lexer]
      · cases parsed : parse tokens with
        | error failure =>
            rw [verdict, verdict, run_calculate_syntaxTree _ _ lexer empty,
              run_calculate_syntaxTree _ _ lexer empty, parsed]
        | ok tree =>
            have converted := convert_eq_ok_iff.mpr ⟨tokens, lexer, parsed⟩
            rw [verdict_of_convert converted, verdict_of_convert converted]
            have alike : Evaluation.Alike (fun _ _ => True)
                (tree.evaluate ((Bindings.ofList bindings).resolver (σ := Unit)))
                (tree.evaluate ((Bindings.ofList others).resolver (σ := Unit))) := by
              apply Expression.alike_of_names
              intro name member
              have same := agree name (nameShape_of_mem_names converted member)
              have resolvers : (Bindings.ofList bindings).resolver (σ := Unit) name =
                  (Bindings.ofList others).resolver name := by
                rw [Bindings.resolver, Bindings.resolver, Resolver.ofFunction, Resolver.ofFunction,
                  same]
              rw [resolvers]
              exact Evaluation.steady_iff_alike.mp (Resolver.steady_ofFunction _ name)
            rw [(alike () () trivial).1]

/-- A binding of what is no name of the lexer is without effect. -/
theorem verdict_insert (expression : String) {name : String}
    (shapeless : ¬ Lexer.NameShape name.toList) (value : Float)
    (before after : List (String × Float)) :
    verdict expression (before ++ (name, value) :: after) =
      verdict expression (before ++ after) := by
  apply verdict_congr
  intro other shape
  have different : (other == name) = false := by
    apply beq_eq_false_iff_ne.mpr
    rintro rfl
    exact shapeless shape
  simp [Bindings.value?_ofList, List.lookup_append, List.lookup_cons, different]

theorem verdict_name {name : String} (shape : Lexer.NameShape name.toList) (value : Float)
    (earlier : List (String × Float)) :
    verdict name (earlier ++ [(name, value)]) = some value := by
  have lexer := Lexer.tokenize_eq_identifier_iff.mpr shape
  have parsed : parse [⟨.identifier, name⟩] = .ok (.identifier name) :=
    parse_of_derives ((Derives.identifier rfl).of_level_le (Phrase.level_le_leaf _))
  have bound : (Bindings.ofList (earlier ++ [(name, value)])).value? name = some value := by
    simp [Bindings.value?_ofList]
  rw [verdict_of_convert (convert_eq_ok_iff.mpr ⟨_, lexer, parsed⟩), Expression.evaluate,
    Expression.evaluateIn, Bindings.resolver, Resolver.ofFunction, bound]
  rfl

/-- Without bindings a text that begins with a letter has no value. -/
theorem verdict_nil {text : String} (begins : beginsWithLetter text.toList = true) :
    verdict text [] = none := by
  cases lexer : tokenize text with
  | error failure => exact verdict_of_error (run_calculate_of_lexical _ _ _ lexer)
  | ok tokens =>
      cases split : text.toList with
      | nil =>
          rw [split] at begins
          cases begins
      | cons c rest =>
          rw [split] at begins
          rcases Lexer.exists_identifier split begins lexer with ⟨token, member, kind⟩
          cases parsed : parse tokens with
          | error failure =>
              apply verdict_of_error
              rw [run_calculate_syntaxTree _ _ lexer (List.ne_nil_of_mem member), parsed]
          | ok tree =>
              have derived := derives_of_parse (Lexer.endless_of_tokenize lexer) parsed
              have named : token.text ∈ tree.names := by
                rw [Expression.names, Expression.mem_firstOccurrences, derived.occurrences_eq]
                exact List.mem_map_of_mem (List.mem_filter.mpr ⟨member, decide_eq_true kind⟩)
              have unbound :
                  ¬∀ name ∈ tree.names, ((Bindings.ofList []).value? name).isSome = true :=
                fun bound => Bool.false_ne_true (bound _ named)
              rw [← tree.evaluates_iff _ ()] at unbound
              rw [verdict_of_convert (convert_eq_ok_iff.mpr ⟨tokens, lexer, parsed⟩)]
              rcases run : (tree.evaluate (Bindings.ofList []).resolver).run () with
                ⟨failure | value, after⟩
              · rfl
              · exact absurd ⟨value, run⟩ unbound

/-! ## The reader of bindings -/

/-- The characters before and behind the first equals sign of a text. -/
def Parts (text : String) (left right : List Char) : Prop :=
  text.toList = left ++ '=' :: right ∧ '=' ∉ left

theorem splitAtEqualsSign_eq_some_iff {text : String} {left right : List Char} :
    splitAtEqualsSign text.toList = some (left, right) ↔ Parts text left right := by
  rw [Parts, splitAtEqualsSign]
  constructor
  · intro found
    have whole := List.takeWhile_append_dropWhile (p := (· != '=')) (l := text.toList)
    cases behind : text.toList.dropWhile (· != '=') with
    | nil =>
        rw [behind] at found
        cases found
    | cons sign rest =>
        rw [behind] at found whole
        cases found
        have stop := List.head?_dropWhile_not (· != '=') text.toList
        rw [behind] at stop
        have equals : sign = '=' := bne_eq_false_iff_eq.mp stop
        subst equals
        refine ⟨whole.symm, fun member => ?_⟩
        have other := List.all_eq_true.mp List.all_takeWhile _ member
        simp at other
  · rintro ⟨whole, absent⟩
    have others : ∀ c ∈ left, (c != '=') = true := by
      intro c member
      apply bne_iff_ne.mpr
      rintro rfl
      exact absent member
    rw [whole, List.dropWhile_append_of_pos others, List.takeWhile_append_of_pos others]
    simp

section

variable {text name : String} {left right : List Char}

/-- The name in front of the first equals sign is accepted if it begins with a
letter, and then everything depends on the numeral. -/
theorem readBinding_of_parts (parts : Parts text left right) :
    readBinding text =
      if beginsWithLetter (trimBlanks left) then
        if (trimBlanks right).isEmpty then .error (.noValue (String.ofList (trimBlanks left)))
        else
          match readNumber (String.ofList (trimBlanks right)) with
          | some value => .ok (String.ofList (trimBlanks left), value)
          | none => .error (.invalidValue (String.ofList (trimBlanks left)))
      else .error (.invalidName (String.ofList (trimBlanks left))) := by
  rw [readBinding, splitAtEqualsSign_eq_some_iff.mpr parts, readNumber, String.toList_ofList]
  simp only
  cases beginsWithLetter (trimBlanks left) with
  | false => rfl
  | true =>
      cases (trimBlanks right).isEmpty with
      | true => rfl
      | false => cases Numeral.read (trimBlanks right) <;> rfl

/-- A text that is not in two parts is refused for this. -/
theorem parts_or_noEqualsSign (text : String) :
    (∃ left right, Parts text left right) ∨ readBinding text = .error (.noEqualsSign text) := by
  cases split : splitAtEqualsSign text.toList with
  | none =>
      right
      rw [readBinding, split]
  | some parts => exact .inl ⟨parts.1, parts.2, splitAtEqualsSign_eq_some_iff.mp split⟩

theorem readBinding_eq_ok_iff {value : Float} :
    readBinding text = .ok (name, value) ↔
      ∃ left right, Parts text left right ∧ name = String.ofList (trimBlanks left) ∧
        beginsWithLetter name.toList = true ∧
        readNumber (String.ofList (trimBlanks right)) = some value := by
  constructor
  · intro accepted
    rcases parts_or_noEqualsSign text with ⟨left, right, parts⟩ | refused
    · rw [readBinding_of_parts parts] at accepted
      split at accepted
      · rename_i begins
        split at accepted
        · cases accepted
        · split at accepted
          · rename_i reads
            cases accepted
            exact ⟨left, right, parts, rfl, by rwa [String.toList_ofList], reads⟩
          · cases accepted
      · cases accepted
    · rw [refused] at accepted
      cases accepted
  · rintro ⟨left, right, parts, rfl, begins, reads⟩
    have nonempty : (trimBlanks right).isEmpty = false := by
      cases trimmed : trimBlanks right with
      | nil =>
          rw [trimmed] at reads
          cases reads
      | cons c rest => rfl
    rw [String.toList_ofList] at begins
    rw [readBinding_of_parts parts, if_pos begins, nonempty, reads]
    rfl

theorem readBinding_eq_invalidName_iff :
    readBinding text = .error (.invalidName name) ↔
      ∃ left right, Parts text left right ∧ name = String.ofList (trimBlanks left) ∧
        beginsWithLetter name.toList = false := by
  constructor
  · intro refused
    rcases parts_or_noEqualsSign text with ⟨left, right, parts⟩ | other
    · rw [readBinding_of_parts parts] at refused
      split at refused
      · split at refused
        · cases refused
        · split at refused <;> cases refused
      · rename_i begins
        cases refused
        exact ⟨left, right, parts, rfl, by simpa using begins⟩
    · rw [other] at refused
      cases refused
  · rintro ⟨left, right, parts, rfl, begins⟩
    rw [String.toList_ofList] at begins
    rw [readBinding_of_parts parts, begins]
    rfl

end

/-- Which names are refused, and what the accepted ones are worth.  A name is
refused if it does not begin with a letter.  Of the others those have the value
of their binding that are names of the lexer; the rest of them have no value,
and their bindings are without effect. -/
theorem readBinding_names (text name : String) :
    (readBinding text = .error (.invalidName name) ↔
        ∃ left right, Parts text left right ∧ name = String.ofList (trimBlanks left) ∧
          beginsWithLetter name.toList = false) ∧
      ∀ value, readBinding text = .ok (name, value) ->
        beginsWithLetter name.toList = true ∧
          (tokenize name = .ok [⟨.identifier, name⟩] ↔ Lexer.NameShape name.toList) ∧
          (Lexer.NameShape name.toList ->
            ∀ earlier, verdict name (earlier ++ [(name, value)]) = some value) ∧
          (¬ Lexer.NameShape name.toList ->
            verdict name [(name, value)] = none ∧
              ∀ expression before after,
                verdict expression (before ++ (name, value) :: after) =
                  verdict expression (before ++ after)) := by
  refine ⟨readBinding_eq_invalidName_iff, fun value accepted => ?_⟩
  rcases readBinding_eq_ok_iff.mp accepted with ⟨_, _, _, _, begins, _⟩
  refine ⟨begins, Lexer.tokenize_eq_identifier_iff, fun shape => verdict_name shape value,
    fun shapeless => ⟨?_, fun expression => verdict_insert expression shapeless value⟩⟩
  have without := verdict_insert name shapeless value [] []
  rw [List.nil_append, List.nil_append, verdict_nil begins] at without
  exact without

/-- A name with a blank in it is accepted, but the lexer reads two names
there. -/
theorem readBinding_two_names :
    readBinding "x y=1" = .ok ("x y", 1) ∧
      tokenize "x y" = .ok [⟨.identifier, "x"⟩, ⟨.identifier, "y"⟩] ∧
      verdict "x y" [("x y", 1)] = none := by
  decide +kernel

end Command
end Reckoner
