import Reckoner.Evaluation

namespace Reckoner.Machine

inductive Goes : Machine → Machine → Prop where
  | convert {value : Int} {number : Float} {level : Nat} {frames : List Frame}
      {values : List Float} {meter charged : Meter} :
      meter.charge level = .ok charged → ofInteger value = .ok number →
        Goes ⟨.visit (.num value) level :: frames, values, meter⟩
          ⟨frames, number :: values, charged⟩
  | expand {op : Operator} {left right : Tree} {level : Nat} {frames : List Frame}
      {values : List Float} {meter charged : Meter} :
      meter.charge level = .ok charged →
        Goes ⟨.visit (.bin op left right) level :: frames, values, meter⟩
          ⟨.visit left (level + 1) :: .visit right (level + 1) :: .combine op left right :: frames,
            values, charged⟩
  | combine {op : Operator} {left right : Tree} {first second result : Float}
      {frames : List Frame} {values : List Float} {meter : Meter} :
      op.apply first second = .ok result →
        Goes ⟨.combine op left right :: frames, second :: first :: values, meter⟩
          ⟨frames, result :: values, meter⟩

/-- The machines that a run comes to, each with the number of steps that lead to it. -/
inductive Iterates (first : Machine) : Nat → Machine → Prop where
  | refl : Iterates first 0 first
  | step {count : Nat} {before after : Machine} :
      Iterates first count before → before.step = .more after → Iterates first (count + 1) after

def Reaches (first machine : Machine) : Prop := ∃ count, first.Iterates count machine

theorem push_eq_more {before after : Machine} {result : Except EvalFault Float}
    (progress : before.push result = .more after) :
    ∃ value, result = .ok value ∧ after = { before with values := value :: before.values } := by
  cases result with
  | ok value =>
      cases progress
      exact ⟨value, rfl, rfl⟩
  | error fault => cases progress

theorem goes_of_step {before after : Machine} (progress : before.step = .more after) :
    Goes before after := by
  obtain ⟨frames, values, meter⟩ := before
  unfold step at progress
  dsimp only at progress
  split at progress
  · split at progress <;> cases progress
  · split at progress
    · obtain ⟨value, applied, rfl⟩ := push_eq_more progress
      exact .combine applied
    · cases progress
  · split at progress
    · cases progress
    · rename_i paid
      split at progress
      · obtain ⟨number, converted, rfl⟩ := push_eq_more progress
        exact .convert paid converted
      · cases progress
        exact .expand paid
      · cases progress

theorem Iterates.keeps {first after : Machine} {count : Nat} {kept : Machine → Prop}
    (iterates : first.Iterates count after) (begun : kept first)
    (onward : ∀ {before after}, Goes before after → kept before → kept after) : kept after := by
  induction iterates with
  | refl => exact begun
  | step _ progress ih => exact onward (goes_of_step progress) ih

theorem Iterates.head {before after last : Machine} {count : Nat}
    (progress : before.step = .more after) (iterates : after.Iterates count last) :
    before.Iterates (count + 1) last := by
  induction iterates with
  | refl => exact .step .refl progress
  | step _ further ih => exact .step ih further

theorem exists_last (machine : Machine) :
    ∃ count last, machine.Iterates count last ∧ last.step = .done machine.run := by
  induction left : weight machine.frames using Nat.strongRecOn generalizing machine with
  | _ bound ih =>
      cases progress : machine.step with
      | done result => exact ⟨0, machine, .refl, by rw [progress, run_of_done progress]⟩
      | more after =>
          have lighter := left ▸ weight_lt_of_step progress
          obtain ⟨count, last, iterates, ended⟩ := ih _ lighter after rfl
          exact ⟨count + 1, last, .head progress iterates, by rw [ended, run_of_more progress]⟩

end Reckoner.Machine
