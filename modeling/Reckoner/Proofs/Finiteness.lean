import Reckoner.Evaluation.Course
import Mathlib

namespace Reckoner

open Float.Model (Format UnpackedFloat)
open Float.Model.UnpackedFloat

def IsFinite (value : Float) : Prop := value.isNaN = false ∧ value.isInf = false

theorem isFinite_iff (value : Float) : value.isFinite = true ↔ IsFinite value := by
  change value.toModel.unpack.isFinite = true ↔
    value.toModel.unpack.isNaN = false ∧ value.toModel.unpack.isInf = false
  cases value.toModel.unpack <;>
    simp [UnpackedFloat.isFinite, UnpackedFloat.isNaN, UnpackedFloat.isInf]

theorem bits_of_unpack_zero {word : BitVec Format.binary64.numBits} {sign : Sign}
    (zero : unpack Format.binary64 word = .zero sign) :
    word = 0#64 ∨ word = 0x8000000000000000#64 := by
  unfold unpack at zero
  dsimp only at zero
  split at zero
  · split at zero <;> cases zero
  · split at zero
    · split at zero
      · rename_i exponent mantissa
        have high := congrArg BitVec.toNat exponent
        have low := congrArg BitVec.toNat mantissa
        have bound := word.isLt
        simp only [unpackExponent, unpackMantissa, BitVec.toNat_cast, BitVec.extractLsb_toNat,
          Nat.shiftRight_eq_div_pow] at high low
        change word.toNat / 2 ^ 52 % 2 ^ 11 = 0 at high
        change word.toNat / 2 ^ 0 % 2 ^ 52 = 0 at low
        change word.toNat < 2 ^ 64 at bound
        have bits : word.toNat = 0 ∨ word.toNat = 0x8000000000000000 := by omega
        exact bits.imp BitVec.eq_of_toNat_eq BitVec.eq_of_toNat_eq
      · cases zero
    · cases zero

theorem unpack_of_beq_zero {value : Float} (isZero : (value == 0) = true) :
    ∃ sign, value.toModel.unpack = .zero sign := by
  have zero : (Float.toModel 0).unpack = .zero .positive := rfl
  change (value.toModel.unpack.compare (Float.toModel 0).unpack == some .eq) = true at isZero
  rw [zero] at isZero
  generalize value.toModel.unpack = unpacked at isZero
  cases unpacked with
  | zero sign => exact ⟨sign, rfl⟩
  | notANumber => cases isZero
  | infinity sign => cases sign <;> cases isZero
  | finite sign => cases sign <;> cases isZero

theorem beq_zero_iff (value : Float) : (value == 0) = true ↔ value = 0.0 ∨ value = -0.0 := by
  constructor
  · intro isZero
    obtain ⟨sign, zero⟩ := unpack_of_beq_zero isZero
    refine (bits_of_unpack_zero zero).imp ?_ ?_
    all_goals
      intro bits
      exact Float.toBits_inj.mp (UInt64.toBitVec_inj.mp bits)
  · rintro (rfl | rfl) <;> decide

def Operator.ByZero (op : Operator) (right : Float) : Prop :=
  op = .div ∧ (right = 0.0 ∨ right = -0.0)

/-- What an operator makes of two doubles. A division by zero is not computed, and of the results
that are computed the finite ones are values. -/
inductive Operator.Yields (op : Operator) (left right : Float) : Except EvalFault Float → Prop where
  | byZero : op.ByZero right → Yields op left right (.error (.divisionByZero left))
  | value : ¬ op.ByZero right → IsFinite (op.compute left right) →
      Yields op left right (.ok (op.compute left right))
  | outOfRange : ¬ op.ByZero right → ¬ IsFinite (op.compute left right) →
      Yields op left right (.error (.outOfRange left op right))

theorem Operator.yields_apply (op : Operator) (left right : Float) :
    op.Yields left right (op.apply left right) := by
  have tested : op = .div ∧ (right == 0) = true ↔ op.ByZero right :=
    and_congr_right' (beq_zero_iff right)
  have checked := isFinite_iff (op.compute left right)
  unfold apply
  dsimp only
  split
  · exact .byZero (tested.mp ‹_›)
  · have computed := (not_congr tested).mp ‹_›
    split
    · exact .value computed (checked.mp ‹_›)
    · exact .outOfRange computed ((not_congr checked).mp ‹_›)

theorem Operator.Yields.finite {op : Operator} {left right value : Float}
    (yields : op.Yields left right (.ok value)) : IsFinite value := by
  cases yields with
  | value _ finite => exact finite

theorem finite_of_ofInteger {value : Int} {number : Float}
    (converted : ofInteger value = .ok number) : IsFinite number := by
  unfold ofInteger at converted
  dsimp only at converted
  split at converted
  · rename_i finite
    cases converted
    exact (isFinite_iff _).mp finite
  · cases converted

namespace Machine

/-- The operator that is to be applied next, with its operands and what lies below them. -/
inductive Operates : Machine → Operator → Float → Float → Machine → Prop where
  | top {op : Operator} {left right : Tree} {first second : Float} {frames : List Frame}
      {values : List Float} {meter : Meter} :
      Operates ⟨.combine op left right :: frames, second :: first :: values, meter⟩ op first second
        ⟨frames, values, meter⟩

def Finite (machine : Machine) : Prop := ∀ value ∈ machine.values, IsFinite value

theorem Goes.finite {before after : Machine} (goes : Goes before after) (finite : before.Finite) :
    after.Finite := by
  cases goes with
  | convert _ converted => exact List.forall_mem_cons.mpr ⟨finite_of_ofInteger converted, finite⟩
  | expand => exact finite
  | @combine op _ _ first second _ _ values _ applied =>
      have yields := op.yields_apply first second
      have below : ∀ value ∈ values, IsFinite value :=
        fun value member => finite value (by simp [member])
      rw [applied] at yields
      exact List.forall_mem_cons.mpr ⟨yields.finite, below⟩

theorem Reaches.finite {tree : Tree} {meter : Meter} {machine : Machine}
    (reached : (start tree meter).Reaches machine) : machine.Finite := by
  obtain ⟨count, iterates⟩ := reached
  have begun : (start tree meter).Finite := List.forall_mem_nil _
  exact iterates.keeps begun Goes.finite

theorem Operates.finite {machine rest : Machine} {op : Operator} {first second : Float}
    (operates : machine.Operates op first second rest) (finite : machine.Finite) :
    IsFinite first ∧ IsFinite second := by
  cases operates with
  | top => exact ⟨finite first (by simp), finite second (by simp)⟩

theorem Operates.step {machine rest : Machine} {op : Operator} {first second : Float}
    (operates : machine.Operates op first second rest) :
    ∃ result, machine.step = rest.push result ∧ op.Yields first second result := by
  cases operates with
  | top => exact ⟨_, rfl, op.yields_apply first second⟩

theorem value_of_done {machine : Machine} {value : Float}
    (progress : machine.step = .done (.ok value)) : value ∈ machine.values := by
  unfold step push at progress
  repeat' split at progress
  all_goals cases progress
  rename_i bottom
  exact List.mem_of_getLast? bottom

end Machine

/-- Every number on the stack of a machine that an evaluation comes to is finite, so no operator is
applied to any other. A division by zero is not computed and ends the evaluation. A value that is
returned is finite, and so is what an operator makes of any two doubles without a fault. -/
theorem evaluate_finite (tree : Tree) (gas maxDepth : Option Int) :
    (∀ machine, (Machine.start tree ⟨gas, maxDepth⟩).Reaches machine →
      (∀ value ∈ machine.values, IsFinite value) ∧
      ∀ op first second rest, machine.Operates op first second rest →
        IsFinite first ∧ IsFinite second ∧
          ∃ result, machine.step = rest.push result ∧ op.Yields first second result) ∧
    (∀ value, evaluate tree gas maxDepth = .ok value → IsFinite value) ∧
    ∀ symbol left right,
      (∃ op value, Operator.ofText? symbol = some op ∧ op.Yields left right (.ok value) ∧
        Operator.applyNamed symbol left right = .ok value ∧ IsFinite value) ∨
      ∃ fault, Operator.applyNamed symbol left right = .error fault := by
  refine ⟨fun machine reached => ⟨reached.finite, ?_⟩, ?_, ?_⟩
  · intro op first second rest operates
    obtain ⟨left, right⟩ := operates.finite reached.finite
    exact ⟨left, right, operates.step⟩
  · intro value evaluated
    obtain ⟨count, last, iterates, ended⟩ := Machine.exists_last (.start tree ⟨gas, maxDepth⟩)
    have reached : (Machine.start tree ⟨gas, maxDepth⟩).Reaches last := ⟨count, iterates⟩
    rw [← evaluate, evaluated] at ended
    exact reached.finite value (Machine.value_of_done ended)
  · intro symbol left right
    unfold Operator.applyNamed
    cases named : Operator.ofText? symbol with
    | none => exact .inr ⟨_, rfl⟩
    | some op =>
        have yields := op.yields_apply left right
        cases applied : op.apply left right with
        | error fault => exact .inr ⟨fault, applied⟩
        | ok value =>
            rw [applied] at yields
            exact .inl ⟨op, value, rfl, yields, applied, yields.finite⟩

/-- `1 / (0 * -1)` comes to a division by the negative zero, which is not computed. -/
theorem evaluate_finite_negative_zero :
    let operand : Tree := .bin .mul (.num 0) (.num (-1))
    let machine : Machine := ⟨[.combine .div (.num 1) operand], [-0.0, 1.0], {}⟩
    (Machine.start (.bin .div (.num 1) operand) {}).Reaches machine ∧
      machine.Operates .div 1.0 (-0.0) ⟨[], [], {}⟩ ∧
      IsFinite 1.0 ∧ IsFinite (-0.0) ∧ machine.step = .done (.error (.divisionByZero 1.0)) := by
  intro operand machine
  have reached : (Machine.start (.bin .div (.num 1) operand) {}).Reaches machine :=
    ⟨6, .head rfl (.head rfl (.head rfl (.head rfl (.head rfl (.head rfl .refl)))))⟩
  have operates : machine.Operates .div 1.0 (-0.0) ⟨[], [], {}⟩ := .top
  have finite := (evaluate_finite (.bin .div (.num 1) operand) none none).1 machine reached
  obtain ⟨left, right, result, progress, yields⟩ := finite.2 _ _ _ _ operates
  refine ⟨reached, operates, left, right, ?_⟩
  cases yields with
  | byZero => exact progress
  | value computed | outOfRange computed => exact absurd ⟨rfl, .inr rfl⟩ computed

end Reckoner
