import Reckoner.Interpreter
import Reckoner.Proofs.Calculation
import Mathlib

namespace Reckoner

namespace Interpreter

end Interpreter

/-- How a calculation tells of a fault: it raises the missing limit and reports every other. -/
def told (fault : Fault) : Except Fault Answer :=
  if fault.name = "TypeError" then .error fault else .ok (.error fault)

end Reckoner
