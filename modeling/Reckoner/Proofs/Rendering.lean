import Reckoner.Tree
import Mathlib

namespace Reckoner
namespace Tree

theorem essence_of_wellFormed {tree : Tree} (formed : tree.WellFormed) : tree.essence = tree := by
  induction tree with
  | num value => rfl
  | bin op left right leftward rightward => rw [essence, leftward formed.1, rightward formed.2]
  | stray object => exact absurd formed id

theorem same_iff {a b : Tree} (first : a.WellFormed) (second : b.WellFormed) :
    a.same b = true ↔ a = b := by
  rw [same, essence_of_wellFormed first, essence_of_wellFormed second, beq_iff_eq]

theorem print_num (value : Int) :
    (num value).print =
      (Decimal.integer value).map fun digits => "NumberNode(value=" ++ digits ++ ")" := rfl

def leaves : Tree → List Int
  | num value => [value]
  | bin _ left right => left.leaves ++ right.leaves
  | stray _ => []

end Tree

/-- A number of 4301 digits equals itself and is not printed. -/
theorem renderings_faithful_too_long :
    let tree : Tree := .num (Nat.pow 10 Decimal.mostDigits : Nat)
    tree.WellFormed ∧ tree.print = .error .written ∧
      ¬ (tree.same tree = true ↔ ∃ text, tree.print = .ok text ∧ tree.print = .ok text) := by
  intro tree
  have formed : tree.WellFormed := trivial
  have long : ¬ Decimal.IsShort (Nat.pow 10 Decimal.mostDigits : Nat) := by
    rw [Decimal.IsShort, Int.natAbs_natCast]
    exact Nat.lt_irrefl _
  have printed : tree.print = .error .written := by
    rw [Tree.print_num, Decimal.integer, if_neg long]
    rfl
  refine ⟨formed, printed, fun faithful => ?_⟩
  obtain ⟨text, written, -⟩ := faithful.mp ((Tree.same_iff formed formed).mpr rfl)
  cases printed.symm.trans written

end Reckoner
