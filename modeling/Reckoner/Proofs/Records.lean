import Reckoner.Proofs.Interpretation
import Mathlib

namespace Reckoner

def Record.line (record : Record) : String × String := (record.logger, record.message)

def failedLine (source : List Char) (name : String) : String × String :=
  ("arith.calculator", "calculate(" ++ quoted source ++ ") failed: " ++ name)

/-- The line with which a calculation closes: the type of the fault that it answers with, if any. -/
def closing (source : List Char) : Answer → List (String × String)
  | .ok _ => []
  | .error fault => [failedLine source fault.report.name]

namespace Interpreter

def log (interpreter : Interpreter) (requests : List Request) : List (String × String) :=
  (interpreter.serveAll requests).flatMap fun step =>
    step.1.elim [] fun logged => logged.records.map Record.line

end Interpreter

end Reckoner
