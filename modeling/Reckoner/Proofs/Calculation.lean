import Reckoner.Calculation
import Reckoner.Proofs.Acceptance
import Reckoner.Proofs.Conversion
import Reckoner.Proofs.Layout
import Reckoner.Proofs.Metering
import Reckoner.Tree.Spelling

namespace Reckoner

open Assembly

/-- The faults that the calculation of a text can end with. -/
inductive Fault.Arises : Fault → Prop where
  | lexical (fault : LexFault) : Arises (.parse (.lexical fault))
  | unexpected (expected : Expected) (found : Kind) (pos : Int) :
      Arises (.parse (.unexpected expected found pos))
  | nesting (pos : Int) : Arises (.parse (.nesting pos))
  | gas : Arises (.eval .gas)
  | treeDepth : Arises (.eval .treeDepth)
  | divisionByZero (left : Float) : Arises (.eval (.divisionByZero left))
  | outOfRange (left : Float) (op : Operator) (right : Float) :
      Arises (.eval (.outOfRange left op right))

theorem Fault.Arises.isReported {fault : Fault} (arises : fault.Arises) :
    fault.isReported = true := by
  cases arises <;> rfl

theorem Fault.Arises.reported {fault : Fault} (arises : fault.Arises) :
    fault.report.name ∈
        ["LexError", "ParseError", "DepthExceeded", "GasExhausted", "ZeroDivisionError"] ∨
      fault.report.name = "OverflowError" ∧ ∃ left op right,
        fault = .eval (.outOfRange left op right) ∧
        fault.report.message = "result out of range: " ++ Decimal.text left ++ " " ++
          op.symbol.toString ++ " " ++ Decimal.text right := by
  rw [report_name, report_message]
  cases arises with
  | outOfRange left op right => exact .inr ⟨rfl, left, op, right, rfl, rfl⟩
  | lexical | unexpected | nesting | gas | treeDepth | divisionByZero =>
      simp [Fault.name, ParseFault.name, EvalFault.name]

section

variable {text : List Char}

end

end Reckoner
