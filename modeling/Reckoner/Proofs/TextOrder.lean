import Reckoner.Proofs.Calculator
import Reckoner.Proofs.Expression.Course

namespace Reckoner

/-!
# Lookups in the order of the text

A tree is evaluated along its branches, and postfix order moves operators
behind their operands.  Neither changes the order of the names.  A derivation
keeps them as they stand among the tokens (`Derives.occurrences_eq`), whatever
precedences and parentheses do to the tree, and the course of the lookups is
that of the names of the text.

The strategies share this course, so that they ask for the same names and stop
at the same occurrence.  A cross-check takes it twice, if it gets through it
the first time, and the second time goes on from the state that the first has
left (`lookups_in_text_order`).
-/

variable {σ : Type}

def Token.identifiers (tokens : List Token) : List String :=
  (tokens.filter (·.kind = .identifier)).map (·.text)

theorem Token.identifiers_append (front back : List Token) :
    identifiers (front ++ back) = identifiers front ++ identifiers back := by
  simp [identifiers]

theorem Token.identifiers_cons_of_ne {token : Token} (rest : List Token)
    (other : token.kind ≠ .identifier) : identifiers (token :: rest) = identifiers rest := by
  simp [identifiers, other]

theorem Token.identifiers_signs {signs : List Token}
    (run : ∀ sign ∈ signs, sign.isSign = true) : identifiers signs = [] := by
  rw [identifiers, List.map_eq_nil_iff, List.filter_eq_nil_iff]
  intro sign member kind
  have isSign := run sign member
  rw [Token.isSign, of_decide_eq_true kind] at isSign
  cases isSign

/-- The names of a derived tree are those of its tokens, in the same order. -/
theorem Derives.occurrences_eq {phrase : Phrase} {tokens : List Token} {tree : Expression Float}
    (derived : Derives phrase tokens tree) : tree.occurrences = Token.identifiers tokens := by
  induction derived with
  | single _ inductionHypothesis => exact inductionHypothesis
  | joined _ kind _ _ onFront onBack =>
      rw [Expression.occurrences, onFront, onBack, Token.identifiers_append,
        Token.identifiers_cons_of_ne _ (by simp [kind])]
  | @signed signs _ tree run _ inductionHypothesis =>
      rw [Token.identifiers_append, Token.identifiers_signs run, List.nil_append,
        ← inductionHypothesis]
      split <;> rfl
  | number kind _ =>
      rw [Token.identifiers_cons_of_ne _ (by simp [kind])]
      rfl
  | identifier kind => simp [Token.identifiers, kind, Expression.occurrences]
  | parenthesized opens closes _ inductionHypothesis =>
      rw [List.cons_append, Token.identifiers_cons_of_ne _ (by simp [opens]),
        Token.identifiers_append, Token.identifiers_cons_of_ne _ (by simp [closes]),
        inductionHypothesis]
      exact (List.append_nil _).symm

/-- How a computation ends with a resolver in some state, in which state it
leaves the resolver, and which lookups it makes.  These are seen by recording
them. -/
structure Makes (computation : {ρ : Type} -> Resolver ρ Float -> Evaluation ρ Float)
    (resolver : Resolver σ Float) (state : σ) (lookups : List String)
    (outcome : Except Failure Float) (after : σ) : Prop where
  ends : (computation resolver).run state = (outcome, after)
  records : ∀ log, (computation resolver.recording).run (state, log) =
    (outcome, (after, log ++ lookups))

/-- The calculations of a text that takes the course of some names, and its
cross-check.  A name is refused in the first course, or not before the second
one, or not at all. -/
inductive FollowsCourse (text : String) (names : List String) (resolver : Resolver σ Float)
    (state : σ) : Prop where
  | refused {made : List String} {failure : Failure} {after : σ}
      (course : resolver.Course state names made (.error failure) after)
      (calculations : ∀ strategy, Makes (fun asked => calculate strategy asked text)
        resolver state made (.error failure) after)
      (check : Makes (fun asked => crossCheck asked text)
        resolver state made (.error failure) after)
  | refusedAgain {value : Float} {further : List String} {failure : Failure} {between after : σ}
      (course : resolver.Course state names names (.ok ()) between)
      (calculations : ∀ strategy, Makes (fun asked => calculate strategy asked text)
        resolver state names (.ok value) between)
      (again : resolver.Course between names further (.error failure) after)
      (check : Makes (fun asked => crossCheck asked text)
        resolver state (names ++ further) (.error failure) after)
  | finished {ofTree ofPostfix : Float} {between after : σ}
      (course : resolver.Course state names names (.ok ()) between)
      (calculations : ∀ strategy, Makes (fun asked => calculate strategy asked text)
        resolver state names (.ok ofTree) between)
      (again : resolver.Course between names names (.ok ()) after)
      (second : Makes (fun asked => calculate .shuntingYard asked text)
        resolver between names (.ok ofPostfix) after)
      (check : Makes (fun asked => crossCheck asked text) resolver state (names ++ names)
        (if valuesAgree ofTree ofPostfix then .ok ofTree
          else .error (.strategiesDisagree ofTree ofPostfix)) after)

section CrossChecks

variable {text : String} {resolver : Resolver σ Float} {state between after : σ}
  {made further : List String}

theorem Makes.crossCheck_of_error {failure : Failure}
    (first : Makes (fun asked => calculate .syntaxTree asked text) resolver state made
      (.error failure) after) :
    Makes (fun asked => crossCheck asked text) resolver state made (.error failure) after := by
  constructor
  · rw [run_crossCheck, first.ends]
  · intro log
    rw [run_crossCheck, first.records log]

theorem Makes.crossCheck_of_ok {ofTree : Float} {outcome : Except Failure Float}
    (first : Makes (fun asked => calculate .syntaxTree asked text) resolver state made
      (.ok ofTree) between)
    (second : Makes (fun asked => calculate .shuntingYard asked text) resolver between further
      outcome after) :
    Makes (fun asked => crossCheck asked text) resolver state (made ++ further)
      (outcome.bind fun ofPostfix => if valuesAgree ofTree ofPostfix then .ok ofTree
        else .error (.strategiesDisagree ofTree ofPostfix)) after := by
  constructor
  · rw [run_crossCheck, first.ends]
    simp only [second.ends]
    cases outcome <;> rfl
  · intro log
    rw [run_crossCheck, first.records log]
    simp only [second.records, List.append_assoc]
    cases outcome <;> rfl

end CrossChecks

section

variable {text : String} {tokens : List Token} {tree : Expression Float}
  (lexer : tokenize text = .ok tokens) (parsed : parse tokens = .ok tree)
include lexer parsed

/-- A calculation takes the course of the names of its text, by either
strategy. -/
theorem makes_of_course {resolver : Resolver σ Float} {state after : σ} {made : List String}
    {result : Except Failure Unit}
    (course : resolver.Course state (Token.identifiers tokens) made result after) :
    ∃ outcome : Except Failure Float, outcome.map (fun _ => ()) = result ∧
      ∀ strategy, Makes (fun asked => calculate strategy asked text) resolver state made
        outcome after := by
  have derived := derives_of_parse (Lexer.endless_of_tokenize lexer) parsed
  rw [← derived.occurrences_eq] at course
  rcases Expression.run_evaluateIn_of_course .binary64 course with
    ⟨outcome, same, ends, records⟩
  refine ⟨outcome, same, fun strategy => ⟨?_, fun log => ?_⟩⟩
  · exact (run_calculate_of_parse lexer parsed strategy resolver state).trans ends
  · exact (run_calculate_of_parse lexer parsed strategy resolver.recording _).trans (records log)

/-- Both strategies look up the names of an accepted text in its order, each
occurrence once, up to the first one that is refused, and return that refusal.
A cross-check does so once if a name is refused then.  Otherwise it does so a
second time, from the state that is left, and returns a refusal as it is. -/
theorem lookups_in_text_order (resolver : Resolver σ Float) (state : σ) :
    FollowsCourse text (Token.identifiers tokens) resolver state := by
  rcases resolver.exists_course state (Token.identifiers tokens) with
    ⟨made, failure | _, between, course⟩
  · rcases makes_of_course lexer parsed course with ⟨outcome | value, same, makes⟩ <;> cases same
    exact .refused course makes (makes .syntaxTree).crossCheck_of_error
  · have complete := course.made_eq rfl
    subst complete
    rcases makes_of_course lexer parsed course with ⟨failure | ofTree, same, makes⟩ <;> cases same
    rcases resolver.exists_course between (Token.identifiers tokens) with
      ⟨further, failure | _, after, again⟩
    · rcases makes_of_course lexer parsed again with ⟨outcome | value, same, makes'⟩ <;> cases same
      exact .refusedAgain course makes again
        ((makes .syntaxTree).crossCheck_of_ok (makes' .shuntingYard))
    · have complete := again.made_eq rfl
      subst complete
      rcases makes_of_course lexer parsed again with ⟨failure | ofPostfix, same, makes'⟩ <;>
        cases same
      exact .finished course makes again (makes' .shuntingYard)
        ((makes .syntaxTree).crossCheck_of_ok (makes' .shuntingYard))

end

/-- A resolver that runs out of numbers in the second calculation.  The names
are asked for in the order of the text, although the tree negates and divides
before it adds. -/
theorem lookups_in_text_order_nested :
    let text := "b+(a - b)*-(a/c)"
    let tokens : List Token :=
      [⟨.identifier, "b"⟩, .ofKind (.binary .add), .ofKind .opening, ⟨.identifier, "a"⟩,
        .ofKind (.binary .subtract), ⟨.identifier, "b"⟩, .ofKind .closing,
        .ofKind (.binary .multiply), .ofKind (.binary .subtract), .ofKind .opening,
        ⟨.identifier, "a"⟩, .ofKind (.binary .divide), ⟨.identifier, "c"⟩, .ofKind .closing]
    let tree : Expression Float :=
      .binary .add (.identifier "b") (.binary .multiply
        (.binary .subtract (.identifier "a") (.identifier "b"))
        (.negate (.binary .divide (.identifier "a") (.identifier "c"))))
    tokenize text = .ok tokens ∧ parse tokens = .ok tree ∧
      FollowsCourse text ["b", "a", "b", "a", "c"] Resolver.sequence [1, 2, 3, 4, 5, 6, 7] ∧
      let check := (crossCheck Resolver.sequence.recording text).run ([1, 2, 3, 4, 5, 6, 7], [])
      check.1 = .error (.unknownVariable "b") ∧
        check.2 = ([], ["b", "a", "b", "a", "c", "b", "a", "b"]) := by
  intro text tokens tree
  have lexer : tokenize text = .ok tokens := by decide +kernel
  have parsed : parse tokens = .ok tree := by decide +kernel
  exact ⟨lexer, parsed, lookups_in_text_order lexer parsed _ _, by decide +kernel,
    by decide +kernel⟩

end Reckoner
