import Reckoner.Operator
import Reckoner.Text.Blank
import Reckoner.Text.Printable
import Reckoner.Text.Quoted
import Reckoner.Numeral
import Reckoner.Token
import Reckoner.Lexer
import Reckoner.Lexer.Feed
import Reckoner.Tree
import Reckoner.Grammar
import Reckoner.Parser.Assembly
import Reckoner.Parser
import Reckoner.Decimal.Shortest
import Reckoner.Decimal
import Reckoner.Evaluation
import Reckoner.Limits
import Reckoner.Fault
import Reckoner.Log
import Reckoner.Calculation
import Reckoner.Interpreter
import Reckoner.Evaluation.Direct
import Reckoner.Tree.Spelling
import Reckoner.Lexer.Layout
import Reckoner.Lexer.Outcomes
import Reckoner.Lexer.Inscription
import Reckoner.Lexer.Flaw
import Reckoner.Proofs.Assembly
import Reckoner.Proofs.Lexing
import Reckoner.Proofs.Numeral
import Reckoner.Proofs.Layout
import Reckoner.Proofs.Outcome
import Reckoner.Proofs.Acceptance
import Reckoner.Proofs.Nesting
import Reckoner.Proofs.Spelling
import Reckoner.Proofs.Conversion
import Reckoner.Proofs.Diagnosis
import Reckoner.Proofs.Evaluation
import Reckoner.Proofs.Metering
import Reckoner.Proofs.Calculation
import Reckoner.Proofs.Displacement
import Reckoner.Proofs.Spacing
import Reckoner.Proofs.Cost
import Reckoner.Proofs.Interpretation
import Reckoner.Proofs.Session
import Reckoner.Proofs.Recovery
import Reckoner.Proofs.Lookahead
import Reckoner.Proofs.Inscription
import Reckoner.Proofs.Composition
import Reckoner.Proofs.Stream
import Reckoner.Parser.Descent
import Reckoner.Proofs.Descent
import Reckoner.Proofs.Accounting
import Reckoner.Proofs.Phrases
import Reckoner.Proofs.Flaws
import Reckoner.Proofs.OnDemand
import Reckoner.Proofs.Independence
import Reckoner.Evaluation.Course
import Reckoner.Proofs.Finiteness
import Reckoner.Proofs.Cursor
import Reckoner.Proofs.Records
import Reckoner.Proofs.Rendering
import Reckoner.Proofs.Balance
import Reckoner.Proofs.Consumption
import Reckoner.Proofs.Range
