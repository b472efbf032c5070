import Reckoner.Limits
import Reckoner.Log

namespace Reckoner

def appraise (source : List Char) (limits : Limits) : Logged (Except Fault Float) :=
  let parsed := Logged.parse source limits.maxNesting
  match parsed.result with
  | .error fault => ⟨.error (.parse fault), parsed.records⟩
  | .ok tree =>
      let evaluated := Logged.evaluate tree limits.maxGas limits.maxDepth
      ⟨evaluated.result.mapError .eval, parsed.records ++ evaluated.records⟩

abbrev Answer := Except Fault Float

/-- Answers every text. Only a fault that is not reported leaves no answer. -/
def calculate (source : List Char) (env : Environment) : Logged (Except Fault Answer) :=
  let appraised := appraise source env.limits
  match appraised.result with
  | .ok value => ⟨.ok (.ok value), appraised.records⟩
  | .error fault =>
      if fault.isReported then
        ⟨.ok (.error fault), appraised.records ++ [.failed source fault]⟩
      else ⟨.error fault, appraised.records⟩

end Reckoner
