import Reckoner.Evaluation
import Reckoner.Parser

namespace Reckoner

inductive Fault where
  | parse (fault : ParseFault)
  | eval (fault : EvalFault)

def ParseFault.name : ParseFault → String
  | lexical _ => "LexError"
  | unexpected .. => "ParseError"
  | nesting _ => "DepthExceeded"
  | noNestingLimit => "TypeError"

def EvalFault.name : EvalFault → String
  | gas => "GasExhausted"
  | treeDepth => "DepthExceeded"
  | unknownNode _ => "EvalError"
  | unknownOperator _ => "EvalError"
  | divisionByZero _ => "ZeroDivisionError"
  | outOfRange .. => "OverflowError"
  | integerTooLarge => "OverflowError"
  | tooLong => "ValueError"
  | noOperand => "IndexError"
  | noValue => "IndexError"

structure Details where
  char : Option Char := none
  expected : Option String := none
  found : Option String := none
  pos : Option Int := none
  deriving DecidableEq, Repr

structure Report extends Details where
  name : String
  message : String
  deriving DecidableEq, Repr

namespace Fault

def name : Fault → String
  | parse fault => fault.name
  | eval fault => fault.name

def message : Fault → String
  | parse fault => fault.message
  | eval fault => fault.message

def relocate (place : Int → Int) : Fault → Fault
  | parse fault => parse (fault.relocate place)
  | eval fault => eval fault

def details : Fault → Details
  | parse (.lexical fault) => { char := some fault.char, pos := some fault.pos }
  | parse (.unexpected expected found pos) =>
      { expected := some expected.text, found := some found.name, pos := some pos }
  | _ => {}

def report (fault : Fault) : Report :=
  let plain : Report := { name := fault.name, message := fault.message }
  match fault with
  | parse (.lexical fault) => { plain with char := some fault.char, pos := some fault.pos }
  | parse (.unexpected expected found pos) =>
      { plain with expected := some expected.text, found := some found.name, pos := some pos }
  | _ => plain

theorem report_eq (fault : Fault) :
    fault.report = { fault.details with name := fault.name, message := fault.message } := by
  rcases fault with (_ | _ | _ | _) | _ <;> rfl

theorem report_name (fault : Fault) : fault.report.name = fault.name := by
  rw [report_eq]

theorem report_message (fault : Fault) : fault.report.message = fault.message := by
  rw [report_eq]

/-- A calculation answers with the faults of texts, of limits and of arithmetic. A missing nesting
limit, an integer too long to write and an empty stack are raised. No text leads to the last two. -/
def isReported : Fault → Bool
  | parse .noNestingLimit => false
  | eval .tooLong => false
  | eval .noOperand => false
  | eval .noValue => false
  | _ => true

end Fault
end Reckoner
