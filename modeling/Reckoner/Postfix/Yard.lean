import Reckoner.Failure
import Reckoner.SignRun

namespace Reckoner

/-!
# From infix to postfix order

In postfix order every operator stands behind its operands, so that neither
parentheses nor precedences are needed.  The conversion reads the tokens once,
from the left, like the sorting of wagons in a yard: operands pass straight
through to the output, operators wait on a siding until no operator that binds
tighter can take an operand away from them.

The siding is a stack.  An operator between two operands first releases those
that bind at least as tightly as itself.  An opening parenthesis closes off
what lies below it until its partner comes.  A run of signs in front of an
operand is taken as a whole, and leaves one negation on the stack or nothing.

Operands and operators have to alternate.  Of the two kinds of states, one
expects an operand and the other does not; a token that does not fit the state
is refused at once.
-/

/-- The state of a conversion between two tokens. -/
structure Yard where
  /-- What has been put out, the latest first. -/
  output : List Token
  /-- The operators and opening parentheses that wait, the top first. -/
  operators : List Token
  /-- Whether an operand has to come next. -/
  expectsOperand : Bool
  deriving DecidableEq

namespace Yard

def start : Yard := ⟨[], [], true⟩

/-- The failure of a token that fits the grammar but not in its place. -/
def unexpected (token : Token) : Failure :=
  .unexpectedToken token.shown

/-- The failure of a token that has no place in a conversion. -/
def unsupported (token : Token) : Failure :=
  .unsupportedToken .conversion token.shown

def stackedPrecedence (token : Token) : Except Failure Nat :=
  match token.kind with
  | .negate => .ok Operator.negationPrecedence
  | .binary op => .ok op.precedence
  | _ => .error (unsupported token)

/-- Moves the operators from the top of a stack to the output, down to a
parenthesis or to one that binds less tightly than an incoming operator.  One
that binds equally is moved if the incoming operator groups to the left.
Returns the stack and the output. -/
def release (precedence : Nat) (associativity : Associativity) :
    List Token -> List Token -> Except Failure (List Token × List Token)
  | [], output => .ok ([], output)
  | top :: below, output =>
    if top.kind = .opening then .ok (top :: below, output)
    else
      match stackedPrecedence top with
      | .error failure => .error failure
      | .ok other =>
        if other > precedence || (other == precedence && associativity = .left) then
          release precedence associativity below (top :: output)
        else .ok (top :: below, output)

/-- Stacks an operator after releasing those that come before it. -/
def push (yard : Yard) (token : Token) (precedence : Nat) (associativity : Associativity) :
    Except Failure Yard :=
  match release precedence associativity yard.operators yard.output with
  | .error failure => .error failure
  | .ok (operators, output) => .ok ⟨output, token :: operators, true⟩

/-- Moves operators to the output down to an opening parenthesis and drops the
parenthesis.  Returns the stack and the output. -/
def releaseToOpening : List Token -> List Token -> Except Failure (List Token × List Token)
  | [], _ => .error .mismatchedParenthesis
  | top :: below, output =>
    if top.kind = .opening then .ok (below, output)
    else releaseToOpening below (top :: output)

/-- Moves all operators to the output, which only goes through without
parentheses among them. -/
def releaseAll : List Token -> List Token -> Except Failure (List Token)
  | [], output => .ok output
  | top :: below, output =>
    if top.kind = .opening || top.kind = .closing then .error .mismatchedParenthesis
    else releaseAll below (top :: output)

/-- The state after a run of signs in front of an operand. -/
def acceptSigns (counter : SignCounter) (yard : Yard) (run : List Token) : Except Failure Yard :=
  if SignRun.negates counter run then
    yard.push (.ofKind .negate) Operator.negationPrecedence Operator.negationAssociativity
  else .ok yard

/-- The state after a token that does not belong to such a run. -/
def accept (yard : Yard) (token : Token) : Except Failure Yard :=
  if yard.expectsOperand then
    match token.kind with
    | .number | .identifier => .ok ⟨token :: yard.output, yard.operators, false⟩
    | .opening => .ok ⟨yard.output, token :: yard.operators, true⟩
    | .endOfInput => .error (unsupported token)
    | _ => .error (unexpected token)
  else
    match token.kind with
    | .binary op => yard.push token op.precedence op.associativity
    | .closing =>
      match releaseToOpening yard.operators yard.output with
      | .error failure => .error failure
      | .ok (operators, output) => .ok ⟨output, operators, false⟩
    | .endOfInput => .error (unsupported token)
    | _ => .error (unexpected token)

/-- Handles a token, with the signs that follow it if it begins a run.  Returns
the state and the tokens that are left. -/
def advance (counter : SignCounter) (yard : Yard) (token : Token) (rest : List Token) :
    Except Failure (Yard × { rest' : List Token // rest'.length ≤ rest.length }) :=
  if yard.expectsOperand && token.isSign then
    (acceptSigns counter yard (token :: SignRun.front rest)).map fun yard' =>
      (yard', ⟨SignRun.behind rest, SignRun.length_behind_le rest⟩)
  else
    (accept yard token).map fun yard' => (yard', ⟨rest, Nat.le_refl _⟩)

def run (counter : SignCounter) (yard : Yard) : List Token -> Except Failure Yard
  | [] => .ok yard
  | token :: rest =>
    match advance counter yard token rest with
    | .error failure => .error failure
    | .ok (yard', ⟨rest', _⟩) => run counter yard' rest'
termination_by tokens => tokens.length
decreasing_by
  simp only [List.length_cons]
  omega

/-- The states in which a token is read, from a given one on, each with this
token.  The signs of a run behind the first one are read along with it. -/
def visits (counter : SignCounter) (yard : Yard) : List Token -> List (Yard × Token)
  | [] => []
  | token :: rest =>
    (yard, token) ::
      match advance counter yard token rest with
      | .error _ => []
      | .ok (yard', ⟨rest', _⟩) => visits counter yard' rest'
termination_by tokens => tokens.length
decreasing_by
  simp only [List.length_cons]
  omega

/-- What has been put out when the end of a nonempty expression is reached. -/
def finish (yard : Yard) : Except Failure (List Token) :=
  if yard.expectsOperand then .error (unexpected (.ofKind .endOfInput))
  else (releaseAll yard.operators yard.output).map List.reverse

end Yard

/-- Some tokens in postfix order, the minus signs of a run counted in a given
way. -/
def toPostfixCounting (counter : SignCounter) : List Token -> Except Failure (List Token)
  | [] => .ok []
  | token :: rest =>
    match Yard.run counter .start (token :: rest) with
    | .error failure => .error failure
    | .ok yard => yard.finish

/-- Some tokens in postfix order. -/
def toPostfix (tokens : List Token) : Except Failure (List Token) :=
  toPostfixCounting .unbounded tokens

end Reckoner
