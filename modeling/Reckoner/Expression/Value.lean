import Reckoner.Expression
import Reckoner.Resolver

namespace Reckoner
namespace Expression

/-!
# The value of an expression

A tree is evaluated from its leaves, the left operand before the right one.
Names are looked up when they are met, each time they are met, and the first
name without a value ends the evaluation.
-/

variable {σ ν : Type}

/-- The value of a tree in an arithmetic. -/
def evaluateIn (arithmetic : Arithmetic ν) (resolver : Resolver σ ν) :
    Expression ν -> Evaluation σ ν
  | number value => pure value
  | identifier name => resolver name
  | negate operand => do
    let value ← operand.evaluateIn arithmetic resolver
    pure (arithmetic.negate value)
  | binary op left right => do
    let leftValue ← left.evaluateIn arithmetic resolver
    let rightValue ← right.evaluateIn arithmetic resolver
    pure (arithmetic.apply op leftValue rightValue)

def evaluate (resolver : Resolver σ Float) (expression : Expression Float) :
    Evaluation σ Float :=
  expression.evaluateIn .binary64 resolver

end Expression
end Reckoner
