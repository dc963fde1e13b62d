import Mathlib.Order.Bounds.Defs
import Reckoner.Proofs.Postfix.Refusal

namespace Reckoner

/-!
# The token to blame

Tokens that are no expression go wrong at a certain token, the first one with
which what has been read can no longer be completed.  Where everything can
still be completed the end of the tokens is to blame.  Both ways to a tree fail
there and nowhere else (`failures_at_earliest`), although they notice it in
different functions and do not always report the same.

What they report depends on whether an operand is complete before that token.
If it is, the conversion to postfix order speaks of parentheses when it meets
the end or a closing one, and the descent when a parenthesis is open.  In all
other cases both name the token.
-/

/-- Whether some tokens end with the end of an operand. -/
def endsWithOperand (tokens : List Token) : Bool :=
  tokens.getLast?.any (·.kind.endsOperand)

/-- Whether more parentheses are opened than closed among some tokens. -/
def leavesOpen (tokens : List Token) : Bool :=
  tokens.countP (·.kind = .closing) < tokens.countP (·.kind = .opening)

/-- The place behind tokens that an expression can begin with, as their last
token and their parentheses tell it. -/
theorem Place.of_walk_start {stop : Place} {front : List Token}
    (through : Place.start.walk front = (stop, [])) :
    (!stop.expectsOperand) = endsWithOperand front ∧
      decide (0 < stop.depth) = leavesOpen front := by
  rcases Place.of_walk through with ⟨last, balance⟩
  constructor
  · rcases List.eq_nil_or_concat front with rfl | ⟨before, token, rfl⟩
    · cases through
      rfl
    · have expects := last token (by simp)
      simp [expects, endsWithOperand]
  · rw [leavesOpen, decide_eq_decide]
    change stop.depth + _ = 0 + _ at balance
    omega

/-- Where a walk stops lies the least index up to which no expression can begin
like the tokens, or their length if there is none. -/
theorem isLeast_of_walk {front suspect : List Token} {stop : Place}
    (endless : ∀ token ∈ front ++ suspect, token.kind ≠ .endOfInput)
    (readable : Readable (front ++ suspect)) (through : Place.start.walk front = (stop, []))
    (stops : ∀ token ∈ suspect.head?, stop.step? token.kind = none) :
    IsLeast {i | i = (front ++ suspect).length ∨ ¬Viable ((front ++ suspect).take (i + 1))}
      front.length := by
  have viable_iff (i : Nat) : Viable ((front ++ suspect).take (i + 1)) ↔
      (Place.start.walk ((front ++ suspect).take (i + 1))).2 = [] :=
    viable_iff_walk (fun token member => endless token (List.mem_of_mem_take member))
      fun token member => readable token (List.mem_of_mem_take member)
  constructor
  · cases suspect with
    | nil => exact .inl (by simp)
    | cons token rest =>
        refine .inr fun viable => ?_
        have walked : Place.start.walk (front ++ [token]) = (stop, [token]) :=
          Place.walk_eq_iff.mpr ⟨front, rfl, through, stops⟩
        rw [viable_iff, List.take_length_add_append, List.take_succ_cons, List.take_zero, walked]
          at viable
        cases viable
  · intro i blamed
    by_contra below
    have shorter : i + 1 ≤ front.length := Nat.lt_of_not_le below
    rcases blamed with whole | unviable
    · rw [List.length_append] at whole
      omega
    · have split := List.take_append_drop (i + 1) front
      rw [← split] at through
      apply unviable
      rw [viable_iff, List.take_append_of_le_length shorter]
      exact Place.walk_of_append through

/-- Rejected tokens are refused by both ways to a tree at the least index up to
which no expression can begin like them, or at their end.  The conversion
reports a parenthesis without a partner, and the descent one left open, if an
operand is complete there and parentheses are what is wrong; otherwise each of
them names the token at the index. -/
theorem failures_at_earliest {tokens : List Token} (nonempty : tokens ≠ [])
    (endless : ∀ token ∈ tokens, token.kind ≠ .endOfInput) (readable : Readable tokens)
    (rejected : (∀ tree, parse tokens ≠ .ok tree) ∨ ∀ tree, parseViaPostfix tokens ≠ .ok tree) :
    ∃ i, IsLeast {i | i = tokens.length ∨ ¬Viable (tokens.take (i + 1))} i ∧
      toPostfix tokens = .error
        (if endsWithOperand (tokens.take i) && (tokens.drop i).head?.all (·.kind = .closing)
          then .mismatchedParenthesis
          else .unexpectedToken (Token.shownFirst (tokens.drop i))) ∧
      parse tokens = .error
        (if endsWithOperand (tokens.take i) && leavesOpen (tokens.take i)
          then .missingCloseParenthesis
          else .unexpectedToken (Token.shownFirst (tokens.drop i))) := by
  cases parsed : parse tokens with
  | ok tree =>
      rcases rejected with never | never
      · exact absurd parsed (never tree)
      · exact absurd (parseViaPostfix_of_derives (derives_of_parse endless parsed)) (never tree)
  | error failure =>
      rcases walk_of_parse_error endless readable parsed with
        ⟨stop, suspect, walked, unfinished, same⟩
      have converted := toPostfix_error_of_walk nonempty walked unfinished
      rcases Place.walk_eq_iff.mp walked with ⟨front, rfl, through, stops⟩
      rcases Place.of_walk_start through with ⟨complete, opened⟩
      refine ⟨front.length, isLeast_of_walk endless readable through stops, ?_, ?_⟩
      · rw [converted, List.take_left, List.drop_left, ← complete, Place.yardFailure_eq
          fun token member => endless token (List.mem_append_right front member)]
        rfl
      · rw [same, List.take_left, List.drop_left, ← complete, ← opened]
        rfl

/-- In `2 * (x + (y - 1) 3` the last number is to blame, behind an operand and
within a parenthesis.  The conversion names the number, the descent misses the
parenthesis. -/
theorem failures_at_earliest_open :
    let tokens : List Token :=
      [⟨.number, "2"⟩, .ofKind (.binary .multiply), .ofKind .opening, ⟨.identifier, "x"⟩,
        .ofKind (.binary .add), .ofKind .opening, ⟨.identifier, "y"⟩,
        .ofKind (.binary .subtract), ⟨.number, "1"⟩, .ofKind .closing, ⟨.number, "3"⟩]
    (∀ token ∈ tokens, token.kind ≠ .endOfInput) ∧ Readable tokens ∧
      (∀ tree, parse tokens ≠ .ok tree) ∧
      (∃ i, IsLeast {i | i = tokens.length ∨ ¬Viable (tokens.take (i + 1))} i ∧
        toPostfix tokens = .error
          (if endsWithOperand (tokens.take i) && (tokens.drop i).head?.all (·.kind = .closing)
            then .mismatchedParenthesis
            else .unexpectedToken (Token.shownFirst (tokens.drop i))) ∧
        parse tokens = .error
          (if endsWithOperand (tokens.take i) && leavesOpen (tokens.take i)
            then .missingCloseParenthesis
            else .unexpectedToken (Token.shownFirst (tokens.drop i)))) ∧
      toPostfix tokens = .error (.unexpectedToken "3") ∧
      parse tokens = .error .missingCloseParenthesis := by
  intro tokens
  have endless : ∀ token ∈ tokens, token.kind ≠ .endOfInput := by decide
  have readable : Readable tokens := by
    rw [Readable]
    decide +kernel
  have parsed : parse tokens = .error .missingCloseParenthesis := by decide +kernel
  have rejected : ∀ tree, parse tokens ≠ .ok tree := by
    intro tree accepted
    rw [parsed] at accepted
    cases accepted
  exact ⟨endless, readable, rejected,
    failures_at_earliest (by decide) endless readable (.inl rejected), by decide +kernel, parsed⟩

end Reckoner
