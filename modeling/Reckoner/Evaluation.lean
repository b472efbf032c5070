import Reckoner.Decimal
import Reckoner.Tree

/-!
Evaluating a tree in double precision under two limits. Every visit of a node costs one unit of gas,
and no node may lie deeper than the depth limit. A `Machine` walks the tree with a stack of frames
for what is left to do and a stack of values for what has been done.
-/

namespace Reckoner

inductive EvalFault where
  | gas
  | treeDepth
  | unknownNode (text : String)
  | unknownOperator (symbol : List Char)
  | divisionByZero (left : Float)
  | outOfRange (left : Float) (op : Operator) (right : Float)
  | integerTooLarge
  | tooLong
  | noOperand
  | noValue

def EvalFault.message : EvalFault → String
  | gas => "gas budget exceeded"
  | treeDepth => "max tree depth exceeded"
  | unknownNode text => "Unknown node: " ++ text
  | unknownOperator symbol => "Unknown operator: " ++ String.ofList symbol
  | divisionByZero left => "division by zero: " ++ Decimal.text left ++ " / 0"
  | outOfRange left op right =>
      "result out of range: " ++ Decimal.text left ++ " " ++ op.symbol.toString ++ " " ++
        Decimal.text right
  | integerTooLarge => "int too large to convert to float"
  | tooLong => Decimal.TooLong.message .written
  | noOperand => "pop from empty list"
  | noValue => "list index out of range"

/-- Why an object is refused where a node should stand. The fault has its text, if that can be
written. -/
def Stray.refusal (object : Stray) : EvalFault :=
  match object.print with
  | .ok printed => .unknownNode printed
  | .error _ => .tooLong

namespace Operator

def compute : Operator → Float → Float → Float
  | add => (· + ·)
  | sub => (· - ·)
  | mul => (· * ·)
  | div => (· / ·)

/-- Zero of either sign divides nothing, and only finite results are values. -/
def apply (op : Operator) (left right : Float) : Except EvalFault Float :=
  if op = div ∧ right == 0 then .error (.divisionByZero left)
  else
    let result := op.compute left right
    if result.isFinite then .ok result else .error (.outOfRange left op right)

def applyNamed (symbol : List Char) (left right : Float) : Except EvalFault Float :=
  match ofText? symbol with
  | some op => op.apply left right
  | none => .error (.unknownOperator symbol)

end Operator

def ofInteger (value : Int) : Except EvalFault Float :=
  let nearest := Float.ofInt value
  if nearest.isFinite then .ok nearest else .error .integerTooLarge

structure Meter where
  gas : Option Int := none
  maxDepth : Option Int := none
  deriving DecidableEq, Repr

/-- Charges for the visit of a node at a level, the root's being 1. Gas goes first. -/
def Meter.charge (meter : Meter) (level : Nat) : Except EvalFault Meter :=
  let left := meter.gas.map (· - 1)
  if left.any fun units => units < (0 : Int) then .error .gas
  else if meter.maxDepth.any fun limit => limit < (level : Int) then .error .treeDepth
  else .ok { meter with gas := left }

/-- A subtree to visit at a level, or an operator whose operands have been visited before. -/
inductive Frame where
  | visit (tree : Tree) (level : Nat)
  | combine (op : Operator) (left right : Tree)
  deriving DecidableEq, Repr

structure Machine where
  frames : List Frame
  values : List Float
  meter : Meter

namespace Machine

inductive Progress where
  | more (machine : Machine)
  | done (result : Except EvalFault Float)

def start (tree : Tree) (meter : Meter) : Machine := ⟨[.visit tree 1], [], meter⟩

def push (machine : Machine) : Except EvalFault Float → Progress
  | .ok value => .more { machine with values := value :: machine.values }
  | .error fault => .done (.error fault)

def step (machine : Machine) : Progress :=
  match machine.frames with
  | [] =>
      match machine.values.getLast? with
      | some value => .done (.ok value)
      | none => .done (.error .noValue)
  | .combine op _ _ :: frames =>
      match machine.values with
      | right :: left :: values => push ⟨frames, values, machine.meter⟩ (op.apply left right)
      | _ => .done (.error .noOperand)
  | .visit tree level :: frames =>
      match machine.meter.charge level with
      | .error fault => .done (.error fault)
      | .ok meter =>
          match tree with
          | .num value => push ⟨frames, machine.values, meter⟩ (ofInteger value)
          | .bin op left right =>
              .more ⟨.visit left (level + 1) :: .visit right (level + 1) ::
                .combine op left right :: frames, machine.values, meter⟩
          | .stray object => .done (.error object.refusal)

def weight : List Frame → Nat
  | [] => 0
  | .visit tree _ :: frames => 2 * tree.size + weight frames
  | .combine .. :: frames => 1 + weight frames

theorem frames_of_push {before after : Machine} {result : Except EvalFault Float}
    (progress : before.push result = .more after) : after.frames = before.frames := by
  cases result with
  | ok value =>
      cases progress
      rfl
  | error fault => cases progress

theorem weight_lt_of_step {before after : Machine} (progress : before.step = .more after) :
    weight after.frames < weight before.frames := by
  unfold step at progress
  split at progress
  · split at progress <;> cases progress
  · rename_i frames shape
    split at progress
    · rw [frames_of_push progress, shape]
      simp [weight]
    · cases progress
  · rename_i tree level frames shape
    split at progress
    · cases progress
    · rw [shape]
      split at progress
      · rw [frames_of_push progress]
        simp [weight, Tree.size]
      · cases progress
        simp only [weight, Tree.size]
        omega
      · cases progress

def run (machine : Machine) : Except EvalFault Float :=
  match _ : machine.step with
  | .done result => result
  | .more after => after.run
termination_by weight machine.frames
decreasing_by exact weight_lt_of_step ‹_›

theorem run_of_done {machine : Machine} {result : Except EvalFault Float}
    (progress : machine.step = .done result) : machine.run = result := by
  rw [run]
  split
  · rename_i ended
    rw [progress] at ended
    cases ended
    rfl
  · rename_i ended
    rw [progress] at ended
    cases ended

theorem run_of_more {machine after : Machine} (progress : machine.step = .more after) :
    machine.run = after.run := by
  rw [run]
  split
  · rename_i ended
    rw [progress] at ended
    cases ended
  · rename_i ended
    rw [progress] at ended
    cases ended
    rfl

end Machine

def evaluate (tree : Tree) (gas maxDepth : Option Int) : Except EvalFault Float :=
  (Machine.start tree ⟨gas, maxDepth⟩).run

end Reckoner
