import Reckoner.Proofs.Command.Arguments
import Reckoner.Proofs.Command.Binding
import Reckoner.Proofs.Number.ReadingBack

namespace Reckoner

/-!
# Completing an expression with bindings

An expression that has a tree lacks nothing but values for its names.  These
can always be given on the command line.  A binding is written as the name and
the plain form of the value, with blanks as one likes, and is read back as what
it was made from, because names and plain forms have no blanks of their own and
no equals sign stands in a name.

The bindings may come in any order, and repeat themselves, and others may stand
before them.  The run then has the value that the tree has with these values of
its names.
-/

/-! ## Blanks at the ends -/

theorem trimBlanks_of_visible {front core back : List Char}
    (blank : ∀ c ∈ front ++ back, isBlank c = true) (nonempty : core ≠ [])
    (visible : ∀ c ∈ core, isBlank c = false) :
    trimBlanks (front ++ core ++ back) = core := by
  rcases List.forall_mem_append.mp blank with ⟨before, behind⟩
  have first : ∀ c ∈ (core ++ back).head?, isBlank c = false := by
    cases core with
    | nil => exact absurd rfl nonempty
    | cons c rest => simp [visible c List.mem_cons_self]
  have last : ∀ c ∈ core.reverse.head?, isBlank c = false := by
    intro c member
    exact visible c (List.mem_reverse.mp (List.mem_of_mem_head? member))
  rw [trimBlanks, List.append_assoc, dropWhile_isBlank before first, List.reverse_append,
    dropWhile_isBlank (by simpa using behind) last, List.reverse_reverse]

theorem trimBlanks_cons {c : Char} (visible : isBlank c = false) (rest : List Char) :
    ∃ rest', trimBlanks (c :: rest) = c :: rest' := by
  rw [trimBlanks, List.dropWhile_cons_of_neg (by simp [visible]), List.reverse_cons,
    List.dropWhile_append]
  split
  · exact ⟨[], by simp [visible]⟩
  · exact ⟨_, by rw [List.reverse_append]; rfl⟩

/-! ## Names and values in a binding -/

theorem Lexer.NameShape.visible {cs : List Char} (shape : NameShape cs) :
    ∀ c ∈ cs, isBlank c = false ∧ c ≠ '=' := by
  intro c member
  refine ⟨shape.isBlank_eq_false c member, ?_⟩
  rintro rfl
  rcases shape.isLetter_or_isDigit _ member with letter | digit
  · exact absurd (le_toNat_of_isLetter letter) (by decide)
  · exact absurd digit (by decide)

theorem NumberStyle.isBlank_of_mem_write (x : Float) :
    ∀ c ∈ (plain.write x).toList, isBlank c = false := by
  have word {cs : List Char} (visible : cs.all (!isBlank ·) = true) : ∀ c ∈ cs, isBlank c = false :=
    by simpa using visible
  have sign : ∀ c ∈ if Binary64.isNegative x then ['-'] else [], isBlank c = false := by
    cases Binary64.isNegative x <;> exact word (by decide)
  by_cases nan : x.isNaN = true
  · rw [write, if_pos nan]
    exact word (by decide +kernel)
  · by_cases infinite : x.isInf = true
    · rw [write, if_neg nan, if_pos infinite, String.toList_ofList]
      exact List.forall_mem_append.mpr ⟨sign, word (by decide)⟩
    · rcases write_of_isFinite (Binary64.isFinite_of_isInf nan infinite) with
        ⟨whole, fraction, layout, text, _⟩
      rw [layout]
      refine List.forall_mem_append.mpr ⟨sign, List.forall_mem_append.mpr ⟨fun c member => ?_, ?_⟩⟩
      · exact isBlank_of_isDigit (text.whole c member)
      · cases fraction with
        | nil => exact word rfl
        | cons digit rest =>
            exact List.forall_mem_cons.mpr
              ⟨by decide, fun c member => isBlank_of_isDigit (text.fraction c member)⟩

namespace Command

/-- A text that binds a name to a value: the name and the plain form of the
value, with an equals sign between them and blanks around each. -/
inductive Binds (name : String) (value : Float) : String -> Prop where
  | intro {before behind before' behind' : List Char}
      (blank : ∀ c ∈ before ++ behind, isBlank c = true)
      (blank' : ∀ c ∈ before' ++ behind', isBlank c = true) :
      Binds name value (String.ofList (before ++ name.toList ++ behind ++
        '=' :: (before' ++ (NumberStyle.plain.write value).toList ++ behind')))

theorem readBinding_of_binds {name text : String} {value : Float}
    (shape : Lexer.NameShape name.toList) (binds : Binds name value text) :
    readBinding text = .ok (name, value) := by
  cases binds with
  | @intro before behind before' behind' blank blank' =>
      rcases shape.head with ⟨c, rest, split, letter⟩
      have trimmed : trimBlanks (before ++ name.toList ++ behind) = name.toList :=
        trimBlanks_of_visible blank (by simp [split]) fun c member => (shape.visible c member).1
      have some : (NumberStyle.plain.write value).toList ≠ [] := by
        intro empty
        have reads := NumberStyle.readNumber_write value
        rw [readNumber, empty] at reads
        cases reads
      have trimmed' := trimBlanks_of_visible blank' some (NumberStyle.isBlank_of_mem_write value)
      have others : ∀ c ∈ before ++ behind, c ≠ '=' := by
        rintro _ member rfl
        exact absurd (blank _ member) (by decide)
      rcases List.forall_mem_append.mp others with ⟨first, last⟩
      have absent : ∀ c ∈ before ++ name.toList ++ behind, c ≠ '=' :=
        List.forall_mem_append.mpr ⟨List.forall_mem_append.mpr
          ⟨first, fun c member => (shape.visible c member).2⟩, last⟩
      refine readBinding_eq_ok_iff.mpr
        ⟨_, _, ⟨String.toList_ofList, fun member => absent _ member rfl⟩, ?_, ?_, ?_⟩
      · rw [trimmed, String.ofList_toList]
      · rw [split]
        exact letter
      · rw [trimmed', String.ofList_toList]
        exact NumberStyle.readNumber_write value

/-- Bindings of several names are read back. -/
theorem readBinding_of_binds_each {assignment : String -> Float} {order texts : List String}
    (shapes : ∀ name ∈ order, Lexer.NameShape name.toList)
    (binds : List.Forall₂ (fun name text => Binds name (assignment name) text) order texts) :
    List.Forall₂ (fun name text => readBinding text = .ok (name, assignment name)) order texts := by
  induction binds with
  | nil => exact .nil
  | cons first _ inductionHypothesis =>
      rcases List.forall_mem_cons.mp shapes with ⟨shape, others⟩
      exact .cons (readBinding_of_binds shape first) (inductionHypothesis others)

/-! ## Bindings among the arguments -/

/-- The arguments that give some bindings. -/
def bindingArguments (texts : List String) : List String :=
  texts.flatMap fun text => ["-D", text]

/-- What is accepted as a binding would not be read as an option. -/
theorem looksLikeOption_of_readBinding {text : String} {pair : String × Float}
    (accepted : readBinding text = .ok pair) : looksLikeOption text = false := by
  rcases pair with ⟨name, value⟩
  rcases readBinding_eq_ok_iff.mp accepted with ⟨left, right, ⟨whole, _⟩, rfl, begins, _⟩
  rw [looksLikeOption, whole]
  split
  · rename_i c rest hyphen
    cases left with
    | nil => cases hyphen
    | cons first left =>
        rcases List.cons.inj hyphen with ⟨rfl, _⟩
        rcases trimBlanks_cons (show isBlank '-' = false by decide) left with ⟨rest', trimmed⟩
        rw [trimmed, String.toList_ofList] at begins
        cases begins
  · rfl

theorem spells_bindingArguments {texts : List String} {bindings : List (String × Float)}
    (accepted : List.Forall₂ (fun text pair => readBinding text = .ok pair) texts bindings) :
    List.Forall₂ Spells (texts.map (.valued .binding)) (texts.map fun text => ["-D", text]) := by
  induction accepted with
  | nil => exact .nil
  | cons first _ inductionHypothesis =>
      have plain := looksLikeOption_of_readBinding first
      exact .cons (.apart List.mem_cons_self plain) inductionHypothesis

/-- Bindings before an expression make a request, which leaves everything else
as usual. -/
theorem read_bindingArguments {texts : List String} {bindings : List (String × Float)}
    (accepted : List.Forall₂ (fun text pair => readBinding text = .ok pair) texts bindings)
    (expression : String) :
    Request.read (bindingArguments texts ++ ["--", expression]) =
      .ok ⟨expression, .tree, bindings, [], Level.error.rank⟩ := by
  have quiet : (texts.map (Item.valued .binding) ++ [Item.expression expression]).count
      Item.louder = 0 := List.count_eq_zero.mpr (by simp)
  have asks : AsksFor (texts.map (.valued .binding) ++ [.expression expression])
      ⟨expression, .tree, bindings, [], Level.error.rank⟩ :=
    { expression := by simp [expressionsOf, List.filterMap_map]
      method := .inr ⟨by simp [valuesOf, List.filterMap_map], rfl⟩
      bindings := by simpa [valuesOf, List.filterMap_map] using accepted
      representations := by simp [representationsOf, List.filterMap_map]
      once := List.nodup_nil
      loudness := .inr ⟨by simp, by rw [quiet]; rfl⟩
      calculates := by simp }
  exact @Request.read_of_asksFor ⟨expression, .tree, bindings, [], Level.error.rank⟩ _ _
    (spells_bindingArguments accepted) asks

/-! ## Complete runs -/

section

variable {expression : String} {tree : Expression Float} (assignment : String -> Float)
  {order : List String}

/-- The values of a list of names. -/
def assigned (order : List String) : List (String × Float) :=
  order.map fun name => (name, assignment name)

/-- Names that are bound last have their values from there. -/
theorem value?_assigned {name : String} (member : name ∈ order)
    (earlier : List (String × Float)) :
    (Bindings.ofList (earlier ++ assigned assignment order)).value? name =
      some (assignment name) := by
  rw [Bindings.value?_ofList, List.reverse_append, List.lookup_append, assigned,
    ← List.map_reverse, List.lookup_graph assignment (List.mem_reverse.mpr member)]
  rfl

theorem exists_value (tree : Expression Float) :
    ∃ value, (tree.evaluate (Resolver.ofFunction fun name => some (assignment name))).run () =
      (.ok value, ()) := by
  have run := tree.run_evaluateIn_ofFunction .binary64 (fun name => some (assignment name)) ()
  rwa [Expression.firstUnbound?_eq_none.mpr fun _ _ => rfl] at run

theorem verdict_assigned (converted : convert expression = .ok tree)
    (covers : ∀ name ∈ tree.names, name ∈ order) {value : Float}
    (evaluated : (tree.evaluate (Resolver.ofFunction fun name => some (assignment name))).run () =
      (.ok value, ())) (earlier : List (String × Float)) :
    verdict expression (earlier ++ assigned assignment order) = some value := by
  have alike : Evaluation.Alike (fun _ _ => True)
      (tree.evaluate
        ((Bindings.ofList (earlier ++ assigned assignment order)).resolver (σ := Unit)))
      (tree.evaluate (Resolver.ofFunction (σ := Unit) fun name => some (assignment name))) := by
    apply Expression.alike_of_names
    intro name member
    have bound := value?_assigned assignment (covers name member) earlier
    rw [Bindings.resolver, Resolver.ofFunction, Resolver.ofFunction, bound]
    exact fun _ _ _ => ⟨rfl, trivial⟩
  rw [verdict_of_convert converted, (alike () () trivial).1, evaluated]
  rfl

end

/-- An expression is completed by bindings for its names, whatever values are
assigned to them.  The texts that give the bindings are read back.  With them a
run ends in the value of the tree under the assignment, also if others come
before them and the names are in another order or repeated. -/
theorem run_completed {expression : String} {tree : Expression Float}
    (converted : convert expression = .ok tree) (assignment : String -> Float)
    {order texts : List String} (same : ∀ name, name ∈ order ↔ name ∈ tree.names)
    (binds : List.Forall₂ (fun name text => Binds name (assignment name) text) order texts) :
    List.Forall₂ (fun name text => readBinding text = .ok (name, assignment name)) order texts ∧
      ∃ value,
        (tree.evaluate (Resolver.ofFunction fun name => some (assignment name))).run () =
          (.ok value, ()) ∧
        ∀ earlier : List (String × Float),
          (∀ arguments request, Request.read arguments = .ok request ->
            request.expression = expression ->
            request.bindings = earlier ++ assigned assignment order ->
            ∃ output pieces, run arguments = .ok output ∧ request.Presents pieces ∧
              output.Ends pieces (some value)) ∧
          ∀ earlierTexts,
            List.Forall₂ (fun text pair => readBinding text = .ok pair) earlierTexts earlier ->
            ∃ output,
              run (bindingArguments (earlierTexts ++ texts) ++ ["--", expression]) = .ok output ∧
              output.code = 0 ∧
              output.printed = NumberStyle.plain.write value ++ "\n" := by
  have shapes : ∀ name ∈ order, Lexer.NameShape name.toList :=
    fun name member => nameShape_of_mem_names converted ((same name).mp member)
  have accepted := readBinding_of_binds_each shapes binds
  have pairs : List.Forall₂ (fun text pair => readBinding text = .ok pair) texts
      (assigned assignment order) := List.forall₂_map_right_iff.mpr accepted.flip
  rcases exists_value assignment tree with ⟨value, evaluated⟩
  have ends := verdict_assigned assignment converted (fun name => (same name).mpr) evaluated
  refine ⟨accepted, value, evaluated, fun earlier => ⟨?_, ?_⟩⟩
  · rintro arguments request read rfl given
    rcases request.output_spec with ⟨pieces, presents, ended⟩
    rw [given, ends] at ended
    exact ⟨request.output, pieces, by rw [run, read]; rfl, presents, ended⟩
  · intro earlierTexts earlierAccepted
    have read := read_bindingArguments (List.rel_append earlierAccepted pairs) expression
    generalize made : Request.mk expression .tree _ [] _ = request at read
    rcases request.output_spec with ⟨pieces, presents, ended⟩
    have silent : pieces = [] := by
      cases presents with
      | none => rfl
      | all => simp [Request.wanted, Request.wants, ← made]
    rw [← made] at ended
    rw [ends, silent] at ended
    cases ended with
    | value code printed =>
        refine ⟨request.output, by rw [run, read]; rfl, made ▸ code, ?_⟩
        rw [← made, printed]
        simp

/-- An infinite value among the bindings, which come in another order than the
names, one of them twice, and behind a binding that they undo. -/
theorem run_completed_repeated :
    let expression := "x - y * x"
    let tree : Expression Float := .binary .subtract (.identifier "x")
      (.binary .multiply (.identifier "y") (.identifier "x"))
    let assignment (name : String) : Float := if name = "x" then 1 / 0 else -2.5
    let order := ["y", "x", "y"]
    let texts := [" y\t=-2.5 ", "x=inf", "y= -2.5"]
    convert expression = .ok tree ∧ (∀ name, name ∈ order ↔ name ∈ tree.names) ∧
      List.Forall₂ (fun name text => Binds name (assignment name) text) order texts ∧
      ∃ output,
        run ["-D", "x=7", "-D", " y\t=-2.5 ", "-D", "x=inf", "-D", "y= -2.5", "--", expression] =
          .ok output ∧
        output.code = 0 ∧ output.printed = "inf\n" := by
  intro expression tree assignment order texts
  have converted : convert expression = .ok tree := by decide +kernel
  have names : tree.names = ["x", "y"] := by decide
  have same : ∀ name, name ∈ order ↔ name ∈ tree.names := by
    intro name
    rw [names]
    simp only [order, List.mem_cons, List.not_mem_nil, or_false]
    tauto
  have bound {name text : String} {value : Float} (before behind before' behind' : List Char)
      (blank : (before ++ behind ++ (before' ++ behind')).all isBlank = true)
      (written : String.ofList (before ++ name.toList ++ behind ++
        '=' :: (before' ++ (NumberStyle.plain.write value).toList ++ behind')) = text) :
      Binds name value text := by
    rcases List.forall_mem_append.mp (List.all_eq_true.mp blank) with ⟨left, right⟩
    exact written ▸ .intro left right
  have binds : List.Forall₂ (fun name text => Binds name (assignment name) text) order texts :=
    .cons (bound [' '] ['\t'] [] [' '] (by decide) (by decide +kernel))
      (.cons (bound [] [] [] [] rfl (by decide +kernel))
        (.cons (bound [] [] [' '] [] (by decide) (by decide +kernel)) .nil))
  have evaluated :
      ((tree.evaluate (Resolver.ofFunction fun name => some (assignment name))).run ()).1 =
        .ok (1 / 0) := by
    decide +kernel
  rcases run_completed converted assignment same binds with ⟨_, value, evaluated', completed⟩
  have infinite : value = 1 / 0 := by
    rw [evaluated'] at evaluated
    exact Except.ok.inj evaluated
  rcases (completed [("x", 7)]).2 ["x=7"] (.cons (by decide +kernel) .nil) with
    ⟨output, ran, code, printed⟩
  rw [infinite] at printed
  exact ⟨converted, same, binds, output, ran, code, printed.trans (by decide +kernel)⟩

end Command
end Reckoner
