import Mathlib.Data.List.Forall2
import Reckoner.Command.Run

namespace Reckoner
namespace Command

/-!
# What arguments ask for

The first pass over the arguments goes from left to right, and what it makes of
an item does not depend on what follows.  So it is enough to know the ways in
which a single item can be written (`Spells`): a list of items that are written
one after another is read as this list (`scan_of_spells`).

The second pass loses the order of items of different kinds.  `AsksFor` says
when items ask for a request, and they are read as that request and as no other
(`Request.ofItems_eq_ok_iff`).  As every request is asked for by some items,
there is nothing that the command line could not be asked
(`Request.read_written`).

A question for help or for the version cuts the arguments off.  What comes
after it is not looked at (`run_information`).
-/

theorem mapM_eq_ok_iff {α β ε : Type} {f : α -> Except ε β} {members : List α} {results : List β} :
    members.mapM f = .ok results ↔
      List.Forall₂ (fun member result => f member = .ok result) members results := by
  induction members generalizing results with
  | nil =>
      rw [List.mapM_nil, List.forall₂_nil_left_iff]
      exact ⟨fun same => (Except.ok.inj same).symm, fun same => congrArg Except.ok same.symm⟩
  | cons member members inductionHypothesis =>
      rw [List.mapM_cons, List.forall₂_cons_left_iff]
      cases first : f member with
      | error failure =>
          exact iff_of_false nofun fun ⟨_, _, same, _⟩ => by simp at same
      | ok result =>
          cases further : members.mapM f with
          | error failure =>
              refine iff_of_false nofun ?_
              rintro ⟨_, others, _, each, _⟩
              rw [inductionHypothesis.mpr each] at further
              cases further
          | ok others =>
              have each := inductionHypothesis.mp further
              constructor
              · intro same
                cases same
                exact ⟨result, others, rfl, each, rfl⟩
              · rintro ⟨_, others', same, each', rfl⟩
                cases same
                have same' := further.symm.trans (inductionHypothesis.mpr each')
                cases same'
                rfl

theorem exists_forall₂ {α β : Type} {R : α -> β -> Prop} {members : List α}
    (each : ∀ member ∈ members, ∃ result, R member result) :
    ∃ results, List.Forall₂ R members results := by
  induction members with
  | nil => exact ⟨[], .nil⟩
  | cons member members inductionHypothesis =>
      rcases List.forall_mem_cons.mp each with ⟨⟨result, first⟩, others⟩
      rcases inductionHypothesis others with ⟨results, further⟩
      exact ⟨result :: results, .cons first further⟩

/-! ## Writing items -/

def Method.word : Method -> String
  | tree => "tree"
  | shuntingYard => "shunting-yard"
  | both => "both"

theorem Method.ofWord?_eq_some_iff {word : String} {method : Method} :
    ofWord? word = some method ↔ word = method.word := by
  constructor
  · intro asked
    unfold ofWord? at asked
    split at asked
    · cases asked
      rfl
    · cases asked
      rfl
    · cases asked
      rfl
    · cases asked
  · rintro rfl
    cases method <;> rfl

def ValuedOption.letter : ValuedOption -> Char
  | method => 's'
  | binding => 'D'

def ValuedOption.name : ValuedOption -> String
  | method => "strategy"
  | binding => "define"

def ValuedOption.flags (option : ValuedOption) : List String :=
  [String.ofList ['-', option.letter], "--" ++ option.name]

/-- The arguments that are an item without a value. -/
def Item.flags : Item -> List String
  | representation .postfixLine => ["--postfix"]
  | representation .drawing => ["--tree"]
  | representation .infixLine => ["--infix"]
  | louder => ["-v", "--verbose"]
  | quieter => ["-q", "--quiet"]
  | information .help => ["-h", "--help"]
  | information .version => ["-V", "--version"]
  | expression _ | valued _ _ => []

/-- The ways to write an item as arguments.  Of several letters behind one
hyphen only the first is considered, and only if it has a value. -/
inductive Spells : Item -> List String -> Prop where
  | expression {text : String} (plain : looksLikeOption text = false) :
      Spells (.expression text) [text]
  | flag {item : Item} {flag : String} (listed : flag ∈ item.flags) : Spells item [flag]
  | apart {option : ValuedOption} {flag value : String} (listed : flag ∈ option.flags)
      (plain : looksLikeOption value = false) : Spells (.valued option value) [flag, value]
  | attached {option : ValuedOption} {flag value : String} (listed : flag ∈ option.flags) :
      Spells (.valued option value) [flag ++ "=" ++ value]
  | joined {option : ValuedOption} {c : Char} {value : List Char} (other : c ≠ '=') :
      Spells (.valued option (String.ofList (c :: value)))
        [String.ofList ('-' :: option.letter :: c :: value)]

/-- All items but expressions can be written, whatever their values are. -/
theorem exists_spells {item : Item} (option : ∀ text, item ≠ .expression text) :
    ∃ arguments, Spells item arguments := by
  cases item with
  | expression text => exact absurd rfl (option text)
  | valued option value => exact ⟨_, .attached List.mem_cons_self⟩
  | representation kind => cases kind <;> exact ⟨_, .flag List.mem_cons_self⟩
  | louder | quieter => exact ⟨_, .flag List.mem_cons_self⟩
  | information about => cases about <;> exact ⟨_, .flag List.mem_cons_self⟩

/-! ## Reading items -/

theorem scan_of_scanArgument {argument : String} {items : List Item}
    {waiting : Option ValuedOption} (scanned : scanArgument argument = .ok (items, waiting))
    (other : argument ≠ "--") (calculates : informationOf? items = none) (rest : List String) :
    scan none (argument :: rest) = (scan waiting rest).map (items ++ ·) := by
  rw [scan, if_neg other, scanned]
  simp [calculates]

private theorem scanArgument_flag {item : Item} {flag : String} (listed : flag ∈ item.flags) :
    scanArgument flag = .ok ([item], none) ∧ flag ≠ "--" := by
  have all : ∀ item ∈ [Item.representation .postfixLine, .representation .drawing,
      .representation .infixLine, .louder, .quieter, .information .help, .information .version],
      ∀ flag ∈ item.flags, scanArgument flag = .ok ([item], none) ∧ flag ≠ "--" := by
    decide +kernel
  cases item with
  | expression | valued => cases listed
  | representation kind => cases kind <;> exact all _ (by simp) flag listed
  | louder | quieter => exact all _ (by simp) flag listed
  | information about => cases about <;> exact all _ (by simp) flag listed

private theorem scanArgument_waiting {option : ValuedOption} {flag : String}
    (listed : flag ∈ option.flags) :
    scanArgument flag = .ok ([], some option) ∧ flag ≠ "--" := by
  have all : ∀ option ∈ [ValuedOption.method, .binding], ∀ flag ∈ option.flags,
      scanArgument flag = .ok ([], some option) ∧ flag ≠ "--" := by
    decide +kernel
  cases option <;> exact all _ (by simp) flag listed

private theorem scanArgument_attached {option : ValuedOption} {flag : String}
    (listed : flag ∈ option.flags) (value : String) :
    scanArgument (flag ++ "=" ++ value) = .ok ([.valued option value], none) := by
  have whole : (flag ++ "=" ++ value).toList = flag.toList ++ '=' :: value.toList := by
    simp [String.toList_append]
  rw [scanArgument, whole]
  cases option <;> rcases List.mem_cons.mp listed with rfl | listed <;>
    (try rcases List.mem_singleton.mp listed with rfl) <;>
    simp [ValuedOption.letter, ValuedOption.name, scanLetters, splitAtEqualsSign, scanNamed]

private theorem scanArgument_joined (option : ValuedOption) {c : Char} (other : c ≠ '=')
    (value : List Char) :
    scanArgument (String.ofList ('-' :: option.letter :: c :: value)) =
      .ok ([.valued option (String.ofList (c :: value))], none) := by
  rw [scanArgument, String.toList_ofList]
  cases option <;> simp [ValuedOption.letter, scanLetters, other]

private theorem scanArgument_expression {text : String} (plain : looksLikeOption text = false) :
    scanArgument text = .ok ([.expression text], none) ∧ text ≠ "--" := by
  constructor
  · rw [looksLikeOption] at plain
    unfold scanArgument
    split
    · simp_all
    · simp_all
    · rfl
  · rintro rfl
    cases plain

/-- An item is read from the arguments that it is written as. -/
theorem scan_spells {item : Item} {arguments : List String} (spells : Spells item arguments)
    (calculates : informationOf? [item] = none) (rest : List String) :
    scan none (arguments ++ rest) = (scan none rest).map (item :: ·) := by
  cases spells with
  | expression plain =>
      rcases scanArgument_expression plain with ⟨scanned, other⟩
      exact scan_of_scanArgument scanned other rfl rest
  | flag listed =>
      rcases scanArgument_flag listed with ⟨scanned, other⟩
      exact scan_of_scanArgument scanned other calculates rest
  | @apart option flag value listed plain =>
      rcases scanArgument_waiting listed with ⟨scanned, other⟩
      have waits := scan_of_scanArgument scanned other rfl (value :: rest)
      rw [scan, plain, if_neg Bool.false_ne_true] at waits
      rw [List.cons_append, List.cons_append, List.nil_append, waits]
      cases scan none rest <;> rfl
  | @attached option flag value listed =>
      have other : flag ++ "=" ++ value ≠ "--" := by
        intro same
        have member : '=' ∈ (flag ++ "=" ++ value).toList := by simp [String.toList_append]
        rw [same] at member
        exact absurd member (by decide)
      exact scan_of_scanArgument (scanArgument_attached listed value) other rfl rest
  | @joined option c value unequal =>
      have other : String.ofList ('-' :: option.letter :: c :: value) ≠ "--" := by
        intro same
        have letters := congrArg String.toList same
        rw [String.toList_ofList] at letters
        cases option <;> cases letters
      exact scan_of_scanArgument (scanArgument_joined option unequal value) other rfl rest

theorem scan_of_spells {items : List Item} {pieces : List (List String)}
    (spelled : List.Forall₂ Spells items pieces)
    (calculates : ∀ about, .information about ∉ items) (rest : List String) :
    scan none (pieces.flatten ++ rest) = (scan none rest).map (items ++ ·) := by
  induction spelled with
  | nil =>
      rw [List.flatten_nil, List.nil_append]
      cases scan none rest <;> rfl
  | @cons item arguments items pieces first _ inductionHypothesis =>
      have calculates' : informationOf? [item] = none := by
        cases item with
        | information about => exact absurd List.mem_cons_self (calculates about)
        | _ => rfl
      have further := inductionHypothesis fun about member =>
        calculates about (List.mem_cons_of_mem _ member)
      rw [List.flatten_cons, List.append_assoc, scan_spells first calculates', further]
      cases scan none rest <;> rfl

/-! ## Requests -/

/-- What a request has to do with the items that ask for it. -/
structure AsksFor (items : List Item) (request : Request) : Prop where
  expression : expressionsOf items = [request.expression]
  method : valuesOf .method items = [request.method.word] ∨
    valuesOf .method items = [] ∧ request.method = .tree
  bindings : List.Forall₂ (fun text pair => readBinding text = .ok pair)
    (valuesOf .binding items) request.bindings
  representations : representationsOf items = request.representations
  once : request.representations.Nodup
  loudness : .quieter ∈ items ∧ .louder ∉ items ∧ request.loudness = 0 ∨
    .quieter ∉ items ∧
      request.loudness = min (Level.error.rank + items.count .louder) Level.trace.rank
  calculates : ∀ about, .information about ∉ items

theorem methodOf_eq_ok_iff {word : String} {method : Method} :
    methodOf word = .ok method ↔ word = method.word := by
  rw [methodOf, ← Method.ofWord?_eq_some_iff]
  cases Method.ofWord? word <;> simp

theorem bindingOf_eq_ok_iff {text : String} {pair : String × Float} :
    bindingOf text = .ok pair ↔ readBinding text = .ok pair := by
  rw [bindingOf]
  cases readBinding text <;> simp [Except.mapError]

theorem onlyMethod_eq_ok_iff {methods : List Method} {method : Method} :
    onlyMethod methods = .ok method ↔ methods = [method] ∨ methods = [] ∧ method = .tree := by
  rcases methods with _ | ⟨first, _ | ⟨second, rest⟩⟩ <;> simp [onlyMethod, eq_comm]

theorem checkSurplus_eq_ok_iff {texts : List String} {done : Unit} :
    checkSurplus texts = .ok done ↔ texts.length ≤ 1 := by
  rcases texts with _ | ⟨first, _ | ⟨second, rest⟩⟩ <;> simp [checkSurplus]

theorem onlyExpression_eq_ok_iff {texts : List String} {text : String} :
    onlyExpression texts = .ok text ↔ texts.head? = some text := by
  cases texts <;> simp [onlyExpression]

theorem distinct_eq_ok_iff {representations distinct' : List Representation} :
    distinct representations = .ok distinct' ↔
      representations = distinct' ∧ representations.Nodup := by
  rw [distinct]
  split
  · rename_i once
    simp [once]
  · rename_i repeated
    simp [repeated]

theorem loudnessOf_eq_ok_iff {items : List Item} {loudness : Nat} :
    loudnessOf items = .ok loudness ↔
      .quieter ∈ items ∧ .louder ∉ items ∧ loudness = 0 ∨
        .quieter ∉ items ∧
          loudness = min (Level.error.rank + items.count .louder) Level.trace.rank := by
  rw [loudnessOf]
  by_cases quiet : .quieter ∈ items
  · by_cases loud : .louder ∈ items
    · simp [quiet, loud, List.count_eq_zero]
    · simp [quiet, loud, List.count_eq_zero, eq_comm]
  · simp [quiet, eq_comm]

theorem informationOf?_eq_none_iff {items : List Item} :
    informationOf? items = none ↔ ∀ about, .information about ∉ items := by
  rw [informationOf?, List.findSome?_eq_none_iff]
  constructor
  · intro none about member
    cases none _ member
  · intro absent item member
    cases item with
    | information about => exact absurd member (absent about)
    | _ => rfl

theorem checkInformation_eq_ok_iff {items : List Item} {done : Unit} :
    checkInformation items = .ok done ↔ ∀ about, .information about ∉ items := by
  rw [checkInformation, ← informationOf?_eq_none_iff]
  cases informationOf? items <;> simp

theorem bind_eq_ok_iff {α β ε : Type} {first : Except ε α} {next : α -> Except ε β} {result : β} :
    first >>= next = .ok result ↔ ∃ value, first = .ok value ∧ next value = .ok result := by
  cases first with
  | error failure => exact iff_of_false nofun (by simp)
  | ok value => simp [bind, Except.bind]

/-- The requests that items are read as are those that they ask for. -/
theorem Request.ofItems_eq_ok_iff {items : List Item} {request : Request} :
    ofItems items = .ok request ↔ AsksFor items request := by
  rw [ofItems]
  simp only [bind_eq_ok_iff, mapM_eq_ok_iff, checkSurplus_eq_ok_iff, bindingOf_eq_ok_iff,
    methodOf_eq_ok_iff, checkInformation_eq_ok_iff, onlyExpression_eq_ok_iff,
    onlyMethod_eq_ok_iff, distinct_eq_ok_iff, loudnessOf_eq_ok_iff]
  constructor
  · rintro ⟨_, single, bindings, read, methods, words, _, calculates, expression, first, method,
      chosen, representations, ⟨given, once⟩, loudness, shown, made⟩
    cases made
    have expressions : expressionsOf items = [expression] := by
      rcases List.head?_eq_some_iff.mp first with ⟨rest, split⟩
      have none : rest = [] := by
        rw [split, List.length_cons] at single
        exact List.eq_nil_of_length_eq_zero (by omega)
      rw [split, none]
    have methods' : valuesOf .method items = [method.word] ∨
        valuesOf .method items = [] ∧ method = .tree := by
      rcases chosen with rfl | ⟨rfl, usual⟩
      · exact .inl (by simpa [List.forall₂_cons_right_iff] using words)
      · exact .inr ⟨List.forall₂_nil_right_iff.mp words, usual⟩
    exact ⟨expressions, methods', read, given, given ▸ once, shown, calculates⟩
  · intro asks
    have methods : ∃ methods,
        List.Forall₂ (fun word method => word = Method.word method) (valuesOf .method items)
          methods ∧ (methods = [request.method] ∨ methods = [] ∧ request.method = .tree) := by
      rcases asks.method with word | ⟨none, usual⟩
      · exact ⟨[request.method], by simp [word], .inl rfl⟩
      · exact ⟨[], by simp [none], .inr ⟨rfl, usual⟩⟩
    rcases methods with ⟨methods, words, chosen⟩
    exact ⟨(), by simp [asks.expression], request.bindings, asks.bindings, methods, words, (),
      asks.calculates, request.expression, by simp [asks.expression], request.method, chosen,
      request.representations, ⟨asks.representations, asks.representations ▸ asks.once⟩,
      request.loudness, asks.loudness, rfl⟩

/-! ## Whole command lines -/

/-- The items that ask for a loudness. -/
def loudnessItems : Nat -> List Item
  | 0 => [.quieter]
  | louder + 1 => List.replicate louder .louder

namespace Request

/-- The options that ask for a request whose bindings are given by some
texts. -/
def options (request : Request) (texts : List String) : List Item :=
  .valued .method request.method.word ::
    (texts.map (.valued .binding) ++ request.representations.map .representation ++
      loudnessItems request.loudness)

variable {request : Request} {texts : List String}

private theorem count_louder_options (louder : Nat) (rest : List Item) :
    (texts.map (Item.valued .binding) ++ (request.representations.map Item.representation ++
      (List.replicate louder Item.louder ++ rest))).count .louder =
        louder + rest.count .louder := by
  have ofTexts : (texts.map (Item.valued .binding)).count .louder = 0 :=
    List.count_eq_zero.mpr (by simp)
  have ofRepresentations : (request.representations.map Item.representation).count .louder = 0 :=
    List.count_eq_zero.mpr (by simp)
  simp [ofTexts, ofRepresentations]

/-- There is no request that could not be asked for. -/
theorem asksFor_options
    (accepted : List.Forall₂ (fun text pair => readBinding text = .ok pair) texts request.bindings)
    (once : request.representations.Nodup) (audible : request.loudness ≤ Level.trace.rank) :
    AsksFor (request.options texts ++ [.expression request.expression]) request where
  expression := by
    cases loudness : request.loudness <;>
      simp [options, loudnessItems, loudness, expressionsOf, List.filterMap_map]
  method := by
    cases loudness : request.loudness <;>
      simp [options, loudnessItems, loudness, valuesOf, List.filterMap_map]
  bindings := by
    cases loudness : request.loudness <;>
      simpa [options, loudnessItems, loudness, valuesOf, List.filterMap_map] using accepted
  representations := by
    cases loudness : request.loudness <;>
      simp [options, loudnessItems, loudness, representationsOf, List.filterMap_map]
  once := once
  loudness := by
    cases loudness : request.loudness with
    | zero => simp [options, loudnessItems, loudness]
    | succ louder =>
        have shown : Level.error.rank + louder ≤ Level.trace.rank := by
          rw [loudness, Nat.add_comm] at audible
          exact audible
        right
        simp only [options, loudnessItems, loudness, List.cons_append, List.append_assoc]
        refine ⟨by simp, ?_⟩
        have none : [Item.expression request.expression].count .louder = 0 :=
          List.count_eq_zero.mpr (by simp)
        rw [List.count_cons_of_ne (by simp), count_louder_options, none]
        exact (Nat.add_comm louder 1).trans (Nat.min_eq_left shown).symm
  calculates about := by
    cases loudness : request.loudness <;> simp [options, loudnessItems, loudness]

/-- Arguments that ask for a request are read as that request.  Its options may
be written in any way, and in any order if only the items ask for it.  The
expression stands at the end, behind two hyphens, as it could look like an
option. -/
theorem read_of_asksFor {items : List Item} {pieces : List (List String)}
    (spelled : List.Forall₂ Spells items pieces)
    (asks : AsksFor (items ++ [.expression request.expression]) request) :
    Request.read (pieces.flatten ++ ["--", request.expression]) = .ok request := by
  have calculates : ∀ about, .information about ∉ items :=
    fun about member => asks.calculates about (List.mem_append_left _ member)
  have last : scan none ["--", request.expression] = .ok [.expression request.expression] := rfl
  rw [Request.read, scan_of_spells spelled calculates, last]
  exact ofItems_eq_ok_iff.mpr asks

/-- Every request can be written, with each of its options in any of its ways,
and is read back. -/
theorem read_written
    (accepted : List.Forall₂ (fun text pair => readBinding text = .ok pair) texts request.bindings)
    (once : request.representations.Nodup) (audible : request.loudness ≤ Level.trace.rank) :
    (∃ pieces, List.Forall₂ Spells (request.options texts) pieces) ∧
      ∀ pieces, List.Forall₂ Spells (request.options texts) pieces ->
        Request.read (pieces.flatten ++ ["--", request.expression]) = .ok request := by
  constructor
  · refine exists_forall₂ fun item member => exists_spells fun text same => ?_
    rw [same] at member
    cases loudness : request.loudness <;>
      simp [options, loudnessItems, loudness] at member
  · exact fun pieces spelled => read_of_asksFor spelled (asksFor_options accepted once audible)

end Request

/-! ## Information -/

/-- A question for help or for the version is answered at once.  What stands
behind it is not read, and what stands before it is only looked at for an
expression too many, a binding that is none or a word that is no method. -/
theorem run_information {items : List Item} {pieces : List (List String)}
    (spelled : List.Forall₂ Spells items pieces)
    (calculates : ∀ about, .information about ∉ items)
    (single : (expressionsOf items).length ≤ 1)
    (bindings : ∀ text ∈ valuesOf .binding items, ∃ pair, readBinding text = .ok pair)
    (methods : ∀ word ∈ valuesOf .method items, ∃ method : Method, word = method.word)
    {about : Information} {flag : String} (listed : flag ∈ (Item.information about).flags)
    (rest : List String) :
    run (pieces.flatten ++ flag :: rest) = .error (.information about) ∧
      (UsageFault.information about).code = 0 := by
  rcases scanArgument_flag listed with ⟨scanned, other⟩
  have last : scan none (flag :: rest) = .ok [.information about] := by
    rw [scan, if_neg other, scanned]
    rfl
  have scanned : scan none (pieces.flatten ++ flag :: rest) =
      .ok (items ++ [.information about]) := by
    rw [scan_of_spells spelled calculates, last]
    rfl
  generalize whole : items ++ [.information about] = items' at scanned
  have surplus : checkSurplus (expressionsOf items') = .ok () :=
    checkSurplus_eq_ok_iff.mpr (by simpa [← whole, expressionsOf] using single)
  have read : ∃ pairs, (valuesOf .binding items').mapM bindingOf = .ok pairs := by
    simp only [mapM_eq_ok_iff, bindingOf_eq_ok_iff]
    exact exists_forall₂ (by simpa [← whole, valuesOf] using bindings)
  have words : ∃ asked, (valuesOf .method items').mapM methodOf = .ok asked := by
    simp only [mapM_eq_ok_iff, methodOf_eq_ok_iff]
    exact exists_forall₂ (by simpa [← whole, valuesOf] using methods)
  have given : checkInformation items' = .error (.information about) := by
    have found : informationOf? items' = some about := by
      rw [← whole, informationOf?, List.findSome?_append, ← informationOf?,
        informationOf?_eq_none_iff.mpr calculates]
      rfl
    rw [checkInformation, found]
  rcases read with ⟨pairs, read⟩
  rcases words with ⟨asked, words⟩
  rw [run, Request.read, scanned]
  simp only [bind, Except.bind, Request.ofItems, surplus, read, words, given]
  exact ⟨rfl, rfl⟩

end Command
end Reckoner
