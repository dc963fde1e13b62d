import Reckoner.Expression
import Reckoner.Failure
import Reckoner.Number.Numeral
import Reckoner.SignRun

namespace Reckoner

/-!
# From tokens to a tree, by descent

The grammar has two tiers of chains.  A sum is a chain of products joined by
plus and minus, a product a chain of operands joined by times and divided, and
both group to the left.  An operand is any run of signs before a leaf, and a
leaf is a number, a name, or a sum in parentheses.

`chain`, `operand` and `leaf` read one of these from the front of some tokens
and give back what follows it.  That the rest is shorter is part of each
result, as it is the reason why the descent ends.  Each function reads as much
as it can; a token that fits nowhere is reported when something else is needed
in its place.

The end of the expression may also stand among the tokens.  What comes behind
it is not read.
-/

/-- The two kinds of chains. -/
inductive Tier where
  | sum
  | product
  deriving DecidableEq

/-- The chains that an operator forms. -/
def Operator.tier : Operator -> Tier
  | add | subtract => .sum
  | multiply | divide => .product

namespace Descent

/-- A tree read from the front of some tokens, and fewer tokens than a bound
that follow it. -/
abbrev Parsed (bound : Nat) : Type :=
  Except Failure (Expression Float × { rest : List Token // rest.length < bound })

/-- The failure to find what is needed at the front of some tokens. -/
def unexpected (tokens : List Token) : Failure :=
  .unexpectedToken (Token.shownFirst tokens)

/-- A tree, negated if a run of signs says so. -/
def negateIf (negates : Bool) (expression : Expression Float) : Expression Float :=
  if negates then .negate expression else expression

mutual

def chain (counter : SignCounter) (tier : Tier) (tokens : List Token) :
    Parsed tokens.length :=
  match member counter tier tokens with
  | .error failure => .error failure
  | .ok ⟨first, rest, shorter⟩ =>
    match extend counter tier first rest with
    | .error failure => .error failure
    | .ok ⟨whole, rest', shorter'⟩ => .ok ⟨whole, rest', by omega⟩
termination_by 6 * tokens.length + (match tier with | .sum => 5 | .product => 3)
decreasing_by
  · cases tier <;> (simp only; omega)
  · cases tier <;> (simp only; omega)

def member (counter : SignCounter) (tier : Tier) (tokens : List Token) :
    Parsed tokens.length :=
  match tier with
  | .sum => chain counter .product tokens
  | .product => operand counter tokens
termination_by 6 * tokens.length + (match tier with | .sum => 4 | .product => 2)

/-- Reads further members of a chain, as long as operators of its tier
follow. -/
def extend (counter : SignCounter) (tier : Tier) (left : Expression Float)
    (tokens : List Token) : Parsed (tokens.length + 1) :=
  match tokens with
  | [] => .ok ⟨left, [], by simp⟩
  | token :: rest =>
    match token.kind.operator? with
    | none => .ok ⟨left, token :: rest, by simp⟩
    | some op =>
      if op.tier = tier then
        match member counter tier rest with
        | .error failure => .error failure
        | .ok ⟨right, rest', shorter⟩ =>
          match extend counter tier (.binary op left right) rest' with
          | .error failure => .error failure
          | .ok ⟨whole, rest'', shorter'⟩ =>
            .ok ⟨whole, rest'', Nat.lt_of_lt_of_le shorter'
              (Nat.le_trans shorter (Nat.le_trans (Nat.le_succ _) (Nat.le_succ _)))⟩
      else .ok ⟨left, token :: rest, by simp⟩
termination_by 6 * tokens.length + 5
decreasing_by
  · cases tier <;> (simp only [List.length_cons]; omega)
  · simp only [List.length_cons]
    omega

/-- Reads an operand with the signs before it. -/
def operand (counter : SignCounter) (tokens : List Token) : Parsed tokens.length :=
  match leaf counter (SignRun.behind tokens) with
  | .error failure => .error failure
  | .ok ⟨expression, rest, shorter⟩ =>
    .ok ⟨negateIf (SignRun.negates counter (SignRun.front tokens)) expression, rest,
      Nat.lt_of_lt_of_le shorter (SignRun.length_behind_le tokens)⟩
termination_by 6 * tokens.length + 1
decreasing_by
  have shorter := SignRun.length_behind_le tokens
  omega

def leaf (counter : SignCounter) (tokens : List Token) : Parsed tokens.length :=
  match tokens with
  | [] => .error (unexpected [])
  | token :: rest =>
    match token.kind with
    | .number =>
      match readNumber token.text with
      | some value => .ok ⟨.number value, rest, by simp⟩
      | none => .error (unexpected (token :: rest))
    | .identifier => .ok ⟨.identifier token.text, rest, by simp⟩
    | .opening =>
      match chain counter .sum rest with
      | .error failure => .error failure
      | .ok ⟨inner, closing :: rest', shorter⟩ =>
        if closing.kind = .closing then
          .ok ⟨inner, rest', by simp only [List.length_cons] at shorter ⊢; omega⟩
        else .error .missingCloseParenthesis
      | .ok ⟨_, [], _⟩ => .error .missingCloseParenthesis
    | _ => .error (unexpected (token :: rest))
termination_by 6 * tokens.length

end

end Descent

/-- The tree of some tokens, the minus signs of a run counted in a given
way. -/
def parseCounting (counter : SignCounter) (tokens : List Token) :
    Except Failure (Expression Float) :=
  match Descent.chain counter .sum (tokens.takeWhile (·.kind != .endOfInput)) with
  | .error failure => .error failure
  | .ok ⟨expression, [], _⟩ => .ok expression
  | .ok ⟨_, token :: rest, _⟩ => .error (Descent.unexpected (token :: rest))

/-- The tree of some tokens. -/
def parse (tokens : List Token) : Except Failure (Expression Float) :=
  parseCounting .unbounded tokens

end Reckoner
