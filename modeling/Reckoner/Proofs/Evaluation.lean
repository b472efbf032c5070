import Reckoner.Evaluation.Direct

namespace Reckoner
namespace Machine

section

variable {tree left right : Tree} {level : Nat} {frames : List Frame} {values : List Float}
  {meter charged : Meter} {op : Operator} {fault : EvalFault}

theorem step_of_charge_fault (failed : meter.charge level = .error fault) :
    step ⟨.visit tree level :: frames, values, meter⟩ = .done (.error fault) := by
  simp only [step, failed]

theorem step_num {value : Int} (paid : meter.charge level = .ok charged) :
    step ⟨.visit (.num value) level :: frames, values, meter⟩ =
      push ⟨frames, values, charged⟩ (ofInteger value) := by
  simp only [step, paid]

theorem step_bin (paid : meter.charge level = .ok charged) :
    step ⟨.visit (.bin op left right) level :: frames, values, meter⟩ =
      .more
        ⟨.visit left (level + 1) :: .visit right (level + 1) :: .combine op left right :: frames,
          values, charged⟩ := by
  simp only [step, paid]

theorem step_stray {object : Stray} (paid : meter.charge level = .ok charged) :
    step ⟨.visit (.stray object) level :: frames, values, meter⟩ =
      .done (.error object.refusal) := by
  simp only [step, paid]

end

end Machine

end Reckoner
