import Reckoner.Proofs.OnDemand
import Mathlib

namespace Reckoner

namespace Numeral

theorem refused_iff {digits : List Char} (areDigits : ∀ digit ∈ digits, digit.isDigit = true) :
    19 < (significant digits).length ∨ greatest < value (significant digits) ↔
      greatest < value digits := by
  rw [← value_significant digits]
  constructor
  · intro refused
    exact refused.elim (greatest_lt_value areDigits) id
  · exact .inr

end Numeral

namespace Lexer

section

variable {front blanks digits rest : List Char} (blank : Blank blanks) (nonempty : digits ≠ [])
  (areDigits : ∀ digit ∈ digits, digit.isDigit = true)
  (ends : ∀ char ∈ rest.head?, char.isDigit = false)

theorem next_of_sees {reading : Reading} {length : Nat} (sees : Sees rest ⟨reading, length⟩) :
    Lexer.next ⟨front ++ rest, front.length⟩ =
      (reading.relocate (· + front.length), ⟨front ++ rest, front.length + length⟩) := by
  simp [Lexer.next, Lexer.rest, Lexer.origin, sees.glance_eq]

include blank nonempty areDigits ends

theorem next_of_too_great (tooGreat : Numeral.greatest < Numeral.value digits) :
    Lexer.next ⟨front ++ (blanks ++ digits ++ rest), front.length⟩ =
      (.error (.outOfRange digits (front.length + blanks.length : Nat)),
        ⟨front ++ (blanks ++ digits ++ rest), front.length + blanks.length + digits.length⟩) := by
  have sees := Sees.outOfRange blank nonempty areDigits ends
    ((Numeral.read_eq_none_iff areDigits).mpr tooGreat)
  rw [next_of_sees sees]
  simp [Reading.relocate, LexFault.relocate, Int.add_comm, Nat.add_assoc]

theorem next_of_in_range (low : Numeral.value digits ≤ Numeral.greatest) :
    Lexer.next ⟨front ++ (blanks ++ digits ++ rest), front.length⟩ =
      (.ok ⟨.integer (Numeral.value digits), (front.length + blanks.length : Nat)⟩,
        ⟨front ++ (blanks ++ digits ++ rest), front.length + blanks.length + digits.length⟩) := by
  have sees := Sees.integer blank nonempty areDigits ends
    ((Numeral.read_eq_some_iff areDigits).mpr ⟨rfl, low⟩)
  rw [next_of_sees sees]
  simp [Reading.relocate, Token.relocate, Int.add_comm, Nat.add_assoc]

end

/-- A run of digits is read alike wherever it stands in a text, behind blanks, and behind digits
when the cursor parts a run. What its leading zeros leave of it is too long or too great exactly
when the number that all its digits denote is out of range. Then it is refused, and else that number
is its value. In both cases the cursor is left where the run ends. -/
theorem next_numeral (front blanks digits rest : List Char) (blank : Blank blanks)
    (nonempty : digits ≠ []) (areDigits : ∀ digit ∈ digits, digit.isDigit = true)
    (ends : ∀ char ∈ rest.head?, char.isDigit = false) :
    let kept := Numeral.significant digits
    let number := Numeral.value digits
    let start := front.length + blanks.length
    let text := front ++ (blanks ++ digits ++ rest)
    let read := Lexer.next ⟨text, front.length⟩
    (19 < kept.length ∨ Numeral.greatest < Numeral.value kept ↔ Numeral.greatest < number) ∧
    (read.1 = .error (.outOfRange digits start) ↔ Numeral.greatest < number) ∧
    (read.1 = .ok ⟨.integer number, start⟩ ↔ number ≤ Numeral.greatest) ∧
    read.2 = ⟨text, start + digits.length⟩ := by
  intro kept number start text read
  refine ⟨Numeral.refused_iff areDigits, ?_⟩
  rcases Nat.lt_or_ge Numeral.greatest number with tooGreat | low
  · have refused : read = _ := next_of_too_great blank nonempty areDigits ends tooGreat
    rw [refused]
    exact ⟨⟨fun _ => tooGreat, fun _ => rfl⟩,
      ⟨nofun, fun low => absurd tooGreat (Nat.not_lt.mpr low)⟩, rfl⟩
  · have accepted : read = _ := next_of_in_range blank nonempty areDigits ends low
    rw [accepted]
    exact ⟨⟨nofun, fun tooGreat => absurd tooGreat (Nat.not_lt.mpr low)⟩,
      ⟨fun _ => low, fun _ => rfl⟩, rfl⟩

theorem next_numeral_least_refused :
    Numeral.greatest < Numeral.value "0009223372036854775808".toList ∧
    (Numeral.significant "0009223372036854775808".toList).length = 19 ∧
    Lexer.next ⟨['2', '*'] ++ ([' '] ++ "0009223372036854775808".toList ++ [')']), 2⟩ =
      (.error (.outOfRange "0009223372036854775808".toList 3),
        ⟨['2', '*'] ++ ([' '] ++ "0009223372036854775808".toList ++ [')']), 25⟩) := by
  have tooGreat : Numeral.greatest < Numeral.value "0009223372036854775808".toList := by
    decide +kernel
  have areDigits : "0009223372036854775808".toList.all Char.isDigit = true := by decide +kernel
  have length : "0009223372036854775808".toList.length = 22 := by decide +kernel
  obtain ⟨-, refused, -, left⟩ := next_numeral ['2', '*'] [' '] "0009223372036854775808".toList
    [')'] (List.forall_mem_singleton.mpr (by decide)) (by decide +kernel)
    (List.all_eq_true.mp areDigits) (by simp)
  rw [length] at left
  exact ⟨tooGreat, by decide +kernel, Prod.ext (refused.mpr tooGreat) left⟩

end Lexer

end Reckoner
