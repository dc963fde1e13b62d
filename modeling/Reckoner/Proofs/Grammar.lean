import Mathlib.Algebra.Ring.Parity
import Mathlib.Data.List.TakeWhile
import Reckoner.Expression.Descent

namespace Reckoner

/-!
# The grammar of expressions

The grammar is stated here without reference to any way of reading it.  A
phrase is a chain of one of the two tiers, an operand, or a leaf, and `Derives`
says which tokens make up a phrase and which tree they stand for.  A chain is
derived from its left end, so that it groups to the left.

`Stuck` is the counterpart for tokens from which no phrase can be read.  It
names the place where the first token stands that fits nowhere, and the failure
that reports it.  What lies before that place is derived as far as it goes;
this is what a comparison of two readers has to hold on to.

Phrases are ordered by how tightly their operators bind.  A phrase of higher
level is also one of each lower level (`Derives.of_level_le`).

Both relations leave open what follows a phrase.  `Stops` is the condition
under which a phrase cannot be continued by it: an operator between two
operands that comes next has to bind less tightly than the operators of the
phrase.
-/

/-! ## Runs of signs -/

namespace SignRun

theorem isSign_of_mem_front {tokens : List Token} :
    ∀ sign ∈ front tokens, sign.isSign = true :=
  List.all_eq_true.mp List.all_takeWhile

theorem head_behind (tokens : List Token) :
    ∀ token ∈ (behind tokens).head?, token.isSign = false := by
  intro token first
  have stopped := List.head?_dropWhile_not Token.isSign tokens
  rw [behind] at first
  rw [Option.mem_def.mp first] at stopped
  simpa using stopped

/-- Induction along the tokens as a conversion reads them: one by one, or a run
of signs at once. -/
theorem induction {P : List Token -> Prop} (nil : P [])
    (cons : ∀ token rest, P rest -> P (behind rest) -> P (token :: rest)) :
    ∀ tokens, P tokens
  | [] => nil
  | token :: rest => cons token rest (induction nil cons rest) (induction nil cons (behind rest))
termination_by tokens => tokens.length
decreasing_by
  · simp
  · exact Nat.lt_succ_of_le (length_behind_le rest)

theorem negates_unbounded_iff (run : List Token) :
    negates .unbounded run = true ↔ Odd (run.countP Token.isNegating) := by
  rw [negates, SignCounter.seesOdd, beq_iff_eq, Nat.odd_iff]

section

variable {rest : List Token} (unsigned : ∀ token ∈ rest.head?, token.isSign = false)
include unsigned

theorem front_append (tokens : List Token) : front (tokens ++ rest) = front tokens := by
  induction tokens with
  | nil =>
      cases rest with
      | nil => rfl
      | cons token rest => simp [front, unsigned token rfl]
  | cons token tokens inductionHypothesis =>
      rw [front, front] at *
      rw [List.cons_append, List.takeWhile_cons, List.takeWhile_cons, inductionHypothesis]

theorem behind_append (tokens : List Token) : behind (tokens ++ rest) = behind tokens ++ rest := by
  have whole := front_append_behind (tokens ++ rest)
  rw [front_append unsigned] at whole
  apply List.append_cancel_left
  rw [whole, ← List.append_assoc, front_append_behind]

variable {signs : List Token} (run : ∀ sign ∈ signs, sign.isSign = true)
include run

theorem front_signs : front (signs ++ rest) = signs := by
  rw [front_append unsigned, front, List.takeWhile_eq_self_iff.mpr run]

theorem behind_signs : behind (signs ++ rest) = rest := by
  rw [behind_append unsigned, behind, List.dropWhile_eq_nil_iff.mpr run, List.nil_append]

end
end SignRun

/-! ## Phrases -/

inductive Phrase where
  | chain (tier : Tier)
  | operand
  | leaf
  deriving DecidableEq

def Tier.member : Tier -> Phrase
  | .sum => .chain .product
  | .product => .operand

def Tier.precedence : Tier -> Nat
  | .sum => 1
  | .product => 2

theorem Operator.precedence_tier (op : Operator) : op.tier.precedence = op.precedence := by
  cases op <;> rfl

/-- How tightly the operators at the surface of a phrase bind at least.  A leaf
has none there. -/
def Phrase.level : Phrase -> Nat
  | .chain tier => tier.precedence
  | .operand => Operator.negationPrecedence
  | .leaf => Operator.negationPrecedence + 1

theorem Tier.level_member (tier : Tier) : tier.member.level = tier.precedence + 1 := by
  cases tier <;> rfl

theorem Tier.level_le_member (tier : Tier) : (Phrase.chain tier).level ≤ tier.member.level := by
  rw [tier.level_member]
  exact Nat.le_succ _

theorem Operator.precedence_eq_level {op : Operator} {tier : Tier} (same : op.tier = tier) :
    op.precedence = (Phrase.chain tier).level := by
  rw [← op.precedence_tier, same]
  rfl

theorem Phrase.level_le_leaf (phrase : Phrase) : phrase.level ≤ Phrase.leaf.level := by
  match phrase with
  | .leaf => decide
  | .operand => decide
  | .chain .product => decide
  | .chain .sum => decide

theorem Phrase.level_sum_le (phrase : Phrase) : (Phrase.chain .sum).level ≤ phrase.level := by
  match phrase with
  | .leaf => decide
  | .operand => decide
  | .chain .product => decide
  | .chain .sum => decide

/-- Tokens that do not continue a phrase. -/
def Stops (phrase : Phrase) (rest : List Token) : Prop :=
  ∀ token ∈ rest.head?, ∀ op, token.kind = .binary op -> op.precedence < phrase.level

/-- Which tokens make up a phrase, and the tree they stand for.  The signs of
an operand negate it once if an odd number of them negates, and not at all
otherwise. -/
inductive Derives : Phrase -> List Token -> Expression Float -> Prop where
  | single {tier : Tier} {tokens : List Token} {tree : Expression Float}
      (member : Derives tier.member tokens tree) : Derives (.chain tier) tokens tree
  | joined {tier : Tier} {op : Operator} {token : Token} {front back : List Token}
      {left right : Expression Float} (first : Derives (.chain tier) front left)
      (kind : token.kind = .binary op) (same : op.tier = tier)
      (last : Derives tier.member back right) :
      Derives (.chain tier) (front ++ token :: back) (.binary op left right)
  | signed {signs tokens : List Token} {tree : Expression Float}
      (run : ∀ sign ∈ signs, sign.isSign = true) (inner : Derives .leaf tokens tree) :
      Derives .operand (signs ++ tokens)
        (if Odd (signs.countP Token.isNegating) then .negate tree else tree)
  | number {token : Token} {value : Float} (kind : token.kind = .number)
      (reads : readNumber token.text = some value) :
      Derives .leaf [token] (.number value)
  | identifier {token : Token} (kind : token.kind = .identifier) :
      Derives .leaf [token] (.identifier token.text)
  | parenthesized {opening closing : Token} {tokens : List Token}
      {tree : Expression Float} (opens : opening.kind = .opening)
      (closes : closing.kind = .closing) (inner : Derives (.chain .sum) tokens tree) :
      Derives .leaf (opening :: tokens ++ [closing]) tree

def TokenKind.beginsLeaf : TokenKind -> Bool
  | .number | .identifier | .opening => true
  | .binary _ | .negate | .closing | .endOfInput => false

def TokenKind.endsOperand : TokenKind -> Bool
  | .number | .identifier | .closing => true
  | .binary _ | .negate | .opening | .endOfInput => false

/-- The tokens that do not begin with a leaf or a sign. -/
def LeafMissing (tokens : List Token) : Prop :=
  ∀ token ∈ tokens.head?, token.kind.beginsLeaf = false ∧ token.isSign = false

/-- Tokens from which a phrase cannot be read, the part of them that begins
with the token to blame, and the failure that says so. -/
inductive Stuck : Phrase -> List Token -> List Token -> Failure -> Prop where
  | member {tier : Tier} {tokens suspect : List Token} {failure : Failure}
      (inner : Stuck tier.member tokens suspect failure) :
      Stuck (.chain tier) tokens suspect failure
  | joined {tier : Tier} {op : Operator} {token : Token}
      {front tokens suspect : List Token} {left : Expression Float} {failure : Failure}
      (first : Derives (.chain tier) front left) (kind : token.kind = .binary op)
      (same : op.tier = tier) (inner : Stuck tier.member tokens suspect failure) :
      Stuck (.chain tier) (front ++ token :: tokens) suspect failure
  | signed {signs tokens suspect : List Token} {failure : Failure}
      (run : ∀ sign ∈ signs, sign.isSign = true)
      (inner : Stuck .leaf tokens suspect failure) :
      Stuck .operand (signs ++ tokens) suspect failure
  | missing {tokens : List Token} (missing : LeafMissing tokens) :
      Stuck .leaf tokens tokens (Descent.unexpected tokens)
  | unreadable {token : Token} {rest : List Token} (kind : token.kind = .number)
      (fails : readNumber token.text = none) :
      Stuck .leaf (token :: rest) (token :: rest) (Descent.unexpected (token :: rest))
  | inside {opening : Token} {tokens suspect : List Token} {failure : Failure}
      (opens : opening.kind = .opening)
      (inner : Stuck (.chain .sum) tokens suspect failure) :
      Stuck .leaf (opening :: tokens) suspect failure
  | unclosed {opening : Token} {tokens suspect : List Token} {tree : Expression Float}
      (opens : opening.kind = .opening) (inner : Derives (.chain .sum) tokens tree)
      (stops : Stops (.chain .sum) suspect)
      (unclosed : ∀ token ∈ suspect.head?, token.kind ≠ .closing) :
      Stuck .leaf (opening :: (tokens ++ suspect)) suspect .missingCloseParenthesis

theorem stops_nil (phrase : Phrase) : Stops phrase [] := by
  simp [Stops]

theorem Stops.mono {outer inner : Phrase} {rest : List Token} (stops : Stops outer rest)
    (within : outer.level ≤ inner.level) : Stops inner rest := by
  intro token next op kind
  exact Nat.lt_of_lt_of_le (stops token next op kind) within

/-- Anything may follow an operand or a leaf. -/
theorem stops_of_negationPrecedence_le {phrase : Phrase}
    (tight : Operator.negationPrecedence ≤ phrase.level) (rest : List Token) :
    Stops phrase rest := by
  intro token _ op _
  exact Nat.lt_of_lt_of_le op.precedence_lt_negationPrecedence tight

theorem Stops.of_operator {tier : Tier} {op : Operator} {token : Token} {rest : List Token}
    (kind : token.kind = .binary op) (same : op.tier = tier) :
    Stops tier.member (token :: rest) := by
  intro other next op' kind'
  have first : token = other := Option.mem_some.mp next
  subst other
  rw [kind] at kind'
  cases kind'
  rw [tier.level_member, Operator.precedence_eq_level same]
  exact Nat.lt_succ_self _

theorem Stops.kind_ne_binary {rest : List Token} (stops : Stops (.chain .sum) rest) :
    ∀ token ∈ rest.head?, ∀ op, token.kind ≠ .binary op := by
  intro token first op kind
  have bound := stops token first op kind
  cases op <;> simp [Operator.precedence, Phrase.level, Tier.precedence] at bound

/-- The phrase of lower level contains the one of higher level. -/
theorem Derives.of_level_le {inner outer : Phrase} {tokens : List Token}
    {tree : Expression Float} (derived : Derives inner tokens tree)
    (within : outer.level ≤ inner.level) : Derives outer tokens tree := by
  have operand (leaf : Derives .leaf tokens tree) : Derives .operand tokens tree := by
    have none : ∀ sign ∈ ([] : List Token), sign.isSign = true := by simp
    simpa using Derives.signed none leaf
  have product (operand : Derives .operand tokens tree) :
      Derives (.chain .product) tokens tree := .single operand
  have sum (product : Derives (.chain .product) tokens tree) :
      Derives (.chain .sum) tokens tree := .single product
  match inner, outer with
  | .leaf, .leaf => exact derived
  | .leaf, .operand => exact operand derived
  | .leaf, .chain .product => exact product (operand derived)
  | .leaf, .chain .sum => exact sum (product (operand derived))
  | .operand, .operand => exact derived
  | .operand, .chain .product => exact product derived
  | .operand, .chain .sum => exact sum (product derived)
  | .chain .product, .chain .product => exact derived
  | .chain .product, .chain .sum => exact sum derived
  | .chain .sum, .chain .sum => exact derived
  | .operand, .leaf => exact absurd within (by decide)
  | .chain tier, .leaf => cases tier <;> exact absurd within (by decide)
  | .chain tier, .operand => cases tier <;> exact absurd within (by decide)
  | .chain .sum, .chain .product => exact absurd within (by decide)

theorem Derives.ne_nil {phrase : Phrase} {tokens : List Token} {tree : Expression Float}
    (derived : Derives phrase tokens tree) : tokens ≠ [] := by
  induction derived with
  | single _ inductionHypothesis => exact inductionHypothesis
  | joined => simp
  | signed _ _ inductionHypothesis =>
      exact fun empty => inductionHypothesis (List.append_eq_nil_iff.mp empty).2
  | number => simp
  | identifier => simp
  | parenthesized => simp

theorem Derives.head_leaf {tokens : List Token} {tree : Expression Float}
    (derived : Derives .leaf tokens tree) :
    ∃ token rest, tokens = token :: rest ∧ token.isSign = false := by
  cases derived with
  | number kind => exact ⟨_, _, rfl, by simp [Token.isSign, kind, TokenKind.isSign]⟩
  | identifier kind => exact ⟨_, _, rfl, by simp [Token.isSign, kind, TokenKind.isSign]⟩
  | parenthesized opens => exact ⟨_, _, rfl, by simp [Token.isSign, opens, TokenKind.isSign]⟩

theorem Stuck.head_leaf {tokens suspect : List Token} {failure : Failure}
    (stuck : Stuck .leaf tokens suspect failure) :
    ∀ token ∈ tokens.head?, token.isSign = false := by
  intro token first
  cases stuck with
  | missing missing => exact (missing token first).2
  | unreadable kind =>
      rw [← Option.mem_some.mp first]
      simp [Token.isSign, kind, TokenKind.isSign]
  | inside opens =>
      rw [← Option.mem_some.mp first]
      simp [Token.isSign, opens, TokenKind.isSign]
  | unclosed opens =>
      rw [← Option.mem_some.mp first]
      simp [Token.isSign, opens, TokenKind.isSign]

/-- The place where a phrase is stuck lies at the end of its tokens. -/
theorem Stuck.suffix {phrase : Phrase} {tokens suspect : List Token} {failure : Failure}
    (stuck : Stuck phrase tokens suspect failure) : suspect <:+ tokens := by
  induction stuck with
  | member _ inductionHypothesis => exact inductionHypothesis
  | joined _ _ _ _ inductionHypothesis =>
      exact (inductionHypothesis.trans (List.suffix_cons _ _)).trans (List.suffix_append _ _)
  | signed _ _ inductionHypothesis => exact inductionHypothesis.trans (List.suffix_append _ _)
  | missing => exact List.suffix_refl _
  | unreadable => exact List.suffix_refl _
  | inside _ _ inductionHypothesis => exact inductionHypothesis.trans (List.suffix_cons _ _)
  | unclosed => exact (List.suffix_append _ _).trans (List.suffix_cons _ _)

/-- The failures of tokens that do not follow the grammar. -/
def Failure.isSyntactic : Failure -> Bool
  | .missingCloseParenthesis | .unexpectedToken _ => true
  | _ => false

theorem Stuck.isSyntactic {phrase : Phrase} {tokens suspect : List Token} {failure : Failure}
    (stuck : Stuck phrase tokens suspect failure) : failure.isSyntactic = true := by
  induction stuck with
  | member _ inductionHypothesis => exact inductionHypothesis
  | joined _ _ _ _ inductionHypothesis => exact inductionHypothesis
  | signed _ _ inductionHypothesis => exact inductionHypothesis
  | missing => rfl
  | unreadable => rfl
  | inside _ _ inductionHypothesis => exact inductionHypothesis
  | unclosed => rfl

theorem Derives.kind_ne_endOfInput {phrase : Phrase} {tokens : List Token}
    {tree : Expression Float} (derived : Derives phrase tokens tree) :
    ∀ token ∈ tokens, token.kind ≠ .endOfInput := by
  have signs {token : Token} (sign : token.isSign = true) : token.kind ≠ .endOfInput := by
    intro kind
    simp [Token.isSign, kind, TokenKind.isSign] at sign
  induction derived with
  | single _ inductionHypothesis => exact inductionHypothesis
  | joined _ kind _ _ first last =>
      intro token member
      rcases List.mem_append.mp member with before | after
      · exact first token before
      · rcases List.mem_cons.mp after with same | after
        · simp [same, kind]
        · exact last token after
  | signed run _ inductionHypothesis =>
      intro token member
      rcases List.mem_append.mp member with before | after
      · exact signs (run token before)
      · exact inductionHypothesis token after
  | number kind => simp [kind]
  | identifier kind => simp [kind]
  | parenthesized opens closes _ inductionHypothesis =>
      intro token member
      rcases List.mem_append.mp member with before | after
      · rcases List.mem_cons.mp before with same | inside
        · simp [same, opens]
        · exact inductionHypothesis token inside
      · simp [List.mem_singleton.mp after, closes]

end Reckoner
