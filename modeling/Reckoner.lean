import Reckoner.Calculator
import Reckoner.Character.Blank
import Reckoner.Character.CodeRange
import Reckoner.Character.Letter
import Reckoner.Character.Printable
import Reckoner.Command.Binding
import Reckoner.Command.Request
import Reckoner.Command.Run
import Reckoner.Conversion
import Reckoner.Expression
import Reckoner.Expression.Descent
import Reckoner.Expression.Drawing
import Reckoner.Expression.Infix
import Reckoner.Expression.Value
import Reckoner.Failure
import Reckoner.Journal
import Reckoner.Main
import Reckoner.Number.Binary64
import Reckoner.Number.Decimal
import Reckoner.Number.Numeral
import Reckoner.Number.Shortest
import Reckoner.Number.Style
import Reckoner.Operator
import Reckoner.Postfix.Stack
import Reckoner.Postfix.Yard
import Reckoner.Resolver
import Reckoner.Session
import Reckoner.SignRun
import Reckoner.Text.Outline
import Reckoner.Text.Quoted
import Reckoner.Token
import Reckoner.Token.Lexer
import Reckoner.Proofs.Grammar
import Reckoner.Proofs.Grammar.Descent
import Reckoner.Proofs.Postfix.Listing
import Reckoner.Proofs.Postfix.Yard
import Reckoner.Proofs.Conversion
import Reckoner.Proofs.Calculator
import Reckoner.Proofs.CalculatorWords
import Reckoner.Proofs.Postfix.Line
import Reckoner.Proofs.Number.Exact
import Reckoner.Proofs.Number.Numeral
import Reckoner.Proofs.Number.ReadingBack
import Reckoner.Proofs.Token.Line
import Reckoner.Proofs.Token.Separation
import Reckoner.Proofs.Expression.Infix
import Reckoner.Proofs.Regeneration
import Reckoner.Proofs.Token.Legible
import Reckoner.Proofs.Expression.NormalForm
import Reckoner.Proofs.CrossCheck
import Reckoner.Proofs.Grammar.Place
import Reckoner.Proofs.Postfix.Refusal
import Reckoner.Proofs.Blame
import Reckoner.Proofs.Expression.Course
import Reckoner.Proofs.TextOrder
import Reckoner.Proofs.Expression.Names
import Reckoner.Proofs.Causes
import Reckoner.Proofs.Number.Overflow
import Reckoner.Proofs.Agreement
import Reckoner.Proofs.Grammar.Leaves
import Reckoner.Proofs.Postfix.Frame
import Reckoner.Proofs.Parentheses
import Reckoner.Proofs.Command.Output
import Reckoner.Proofs.Command.Arguments
import Reckoner.Proofs.Command.Binding
import Reckoner.Proofs.Command.Completion
import Reckoner.Proofs.Postfix.Faults
import Reckoner.Proofs.StackEvaluation
import Reckoner.Proofs.Postfix.Steps
import Reckoner.Proofs.Postfix.Conservation
import Reckoner.Proofs.SignCounter
import Reckoner.Proofs.SignParity
import Reckoner.Proofs.Session
import Reckoner.Proofs.Expression.FewestParentheses
import Reckoner.Proofs.Expression.RationalValue
import Reckoner.Proofs.Expression.Drawing
import Reckoner.Proofs.Postfix.Siding
import Reckoner.Proofs.CounterWidth
