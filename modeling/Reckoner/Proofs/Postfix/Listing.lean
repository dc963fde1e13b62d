import Reckoner.Expression.Value
import Reckoner.Postfix.Stack

namespace Reckoner
namespace Postfix

/-!
# Trees listed in postfix order

`Lists` says that some tokens are the nodes of a tree, each behind its operands
and the left operand before the right one.  The tokens are not determined by
the tree, because a number can be written in several ways.

The two stack machines do on a listing what the tree tells them to.  Both
statements are about an arbitrary stack, on which the tree or its value is put;
the rest of the stack is never looked at.
-/

/-- The tokens of a tree in postfix order. -/
inductive Lists : List Token -> Expression Float -> Prop where
  | number {token : Token} {value : Float} (kind : token.kind = .number)
      (reads : readNumber token.text = some value) : Lists [token] (.number value)
  | identifier {token : Token} (kind : token.kind = .identifier) :
      Lists [token] (.identifier token.text)
  | negate {token : Token} {tokens : List Token} {tree : Expression Float}
      (operand : Lists tokens tree) (kind : token.kind = .negate) :
      Lists (tokens ++ [token]) (.negate tree)
  | binary {op : Operator} {token : Token} {front back : List Token}
      {left right : Expression Float} (first : Lists front left) (second : Lists back right)
      (kind : token.kind = .binary op) :
      Lists (front ++ back ++ [token]) (.binary op left right)

theorem number_of_reads {token : Token} {value : Float}
    (reads : readNumber token.text = some value) : number token = .ok value := by
  rw [number, reads]

/-- The stack of trees receives the tree that is listed. -/
theorem foldlM_buildStep {tokens : List Token} {tree : Expression Float}
    (listed : Lists tokens tree) (stack : List (Expression Float)) :
    tokens.foldlM buildStep stack = .ok (tree :: stack) := by
  induction listed generalizing stack with
  | number kind reads =>
      simp only [List.foldlM_cons, List.foldlM_nil, buildStep, kind, number_of_reads reads]
      rfl
  | identifier kind =>
      simp only [List.foldlM_cons, List.foldlM_nil, buildStep, kind]
      rfl
  | negate operand kind inductionHypothesis =>
      rw [List.foldlM_append, inductionHypothesis stack]
      change List.foldlM buildStep _ _ = _
      simp only [List.foldlM_cons, List.foldlM_nil, buildStep, kind]
      rfl
  | binary first second kind onFirst onSecond =>
      rw [List.foldlM_append, List.foldlM_append, onFirst stack]
      change (List.foldlM buildStep _ _ >>= _) = _
      rw [onSecond]
      change List.foldlM buildStep _ _ = _
      simp only [List.foldlM_cons, List.foldlM_nil, buildStep, kind]
      rfl

/-- A listing is read as the tree that it lists. -/
theorem toExpression_of_lists {tokens : List Token} {tree : Expression Float}
    (listed : Lists tokens tree) : toExpression tokens = .ok tree := by
  rw [toExpression, foldlM_buildStep listed]
  rfl

/-- A step that fails on every stack makes every run over its token fail. -/
private theorem foldlM_buildStep_ne_ok {token : Token} (failure : Failure)
    (fails : ∀ stack, buildStep stack token = .error failure) {tokens : List Token}
    (member : token ∈ tokens) (stack stack' : List (Expression Float)) :
    tokens.foldlM buildStep stack ≠ .ok stack' := by
  induction tokens generalizing stack with
  | nil => cases member
  | cons first rest inductionHypothesis =>
      rw [List.foldlM_cons]
      rcases List.mem_cons.mp member with same | later
      · rw [← same, fails]
        intro impossible
        cases impossible
      · cases step : buildStep stack first with
        | error failure =>
            intro impossible
            cases impossible
        | ok next => exact inductionHypothesis later next

theorem toExpression_ne_ok {token : Token} {tokens : List Token} (member : token ∈ tokens)
    (kind : token.kind = .number) (fails : readNumber token.text = none)
    (tree : Expression Float) : toExpression tokens ≠ .ok tree := by
  have step : ∀ stack, buildStep stack token = .error (.unexpectedToken token.shown) := by
    intro stack
    simp only [buildStep, kind, number, fails]
    rfl
  rw [toExpression]
  cases run : tokens.foldlM buildStep [] with
  | error failure =>
      intro impossible
      cases impossible
  | ok stack => exact absurd run (foldlM_buildStep_ne_ok _ step member [] stack)

variable {σ : Type} (arithmetic : Arithmetic Float) (resolver : Resolver σ Float)

/-- The stack of numbers receives the value of the tree that is listed, with
the lookups of the tree and the failures they may end in. -/
theorem foldlM_evaluateStep {tokens : List Token} {tree : Expression Float}
    (listed : Lists tokens tree) (stack : List Float) :
    tokens.foldlM (evaluateStep arithmetic resolver) stack = (do
      let value ← tree.evaluateIn arithmetic resolver
      pure (value :: stack)) := by
  induction listed generalizing stack with
  | number kind reads =>
      simp only [List.foldlM_cons, List.foldlM_nil, evaluateStep, kind, number_of_reads reads]
      rfl
  | identifier kind =>
      simp only [List.foldlM_cons, List.foldlM_nil, evaluateStep, kind, bind_pure,
        Expression.evaluateIn]
  | negate operand kind inductionHypothesis =>
      rw [List.foldlM_append, inductionHypothesis stack]
      simp only [List.foldlM_cons, List.foldlM_nil, evaluateStep, kind, bind_pure, bind_assoc,
        pure_bind, Expression.evaluateIn]
  | binary first second kind onFirst onSecond =>
      rw [List.foldlM_append, List.foldlM_append, onFirst stack]
      simp only [bind_assoc, pure_bind, onSecond, List.foldlM_cons, List.foldlM_nil,
        evaluateStep, kind, bind_pure, Expression.evaluateIn]

/-- A listing has the value of the tree that it lists. -/
theorem evaluateIn_of_lists {tokens : List Token} {tree : Expression Float}
    (listed : Lists tokens tree) :
    evaluateIn arithmetic resolver tokens = tree.evaluateIn arithmetic resolver := by
  rw [evaluateIn, foldlM_evaluateStep arithmetic resolver listed, bind_assoc]
  simp only [pure_bind]
  exact bind_pure _

end Postfix
end Reckoner
