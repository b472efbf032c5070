import Reckoner.Numeral
import Reckoner.Text.Blank
import Mathlib

namespace Reckoner.Numeral

theorem mul_pow_le_ofDigitChars (digits : List Char) (init : Nat) :
    init * 10 ^ digits.length ≤ Nat.ofDigitChars 10 digits init := by
  induction digits generalizing init with
  | nil => simp
  | cons digit digits ih =>
      rw [Nat.ofDigitChars_cons, List.length_cons]
      calc
        init * 10 ^ (digits.length + 1) = 10 * init * 10 ^ digits.length := by ring
        _ ≤ (10 * init + (digit.toNat - '0'.toNat)) * 10 ^ digits.length := by
          apply Nat.mul_le_mul_right
          omega
        _ ≤ Nat.ofDigitChars 10 digits (10 * init + (digit.toNat - '0'.toNat)) := ih _

theorem one_le_digit {digit : Char} (decimal : digit.isDigit = true) (nonzero : digit ≠ '0') :
    1 ≤ digit.toNat - '0'.toNat := by
  have bounds := digit_bounds decimal
  have other : digit.toNat ≠ '0'.toNat := fun char_eq => nonzero (Char.toNat_inj.mp char_eq)
  simp at other ⊢
  omega

theorem greatest_lt_value {digits : List Char} (areDigits : ∀ digit ∈ digits, digit.isDigit = true)
    (long : 19 < (significant digits).length) : greatest < value (significant digits) := by
  have first := List.head?_dropWhile_not (· == '0') digits
  have suffix : significant digits <:+ digits := List.dropWhile_suffix _
  rw [← significant] at first
  cases kept : significant digits with
  | nil => simp [kept] at long
  | cons digit rest =>
      rw [kept] at first long suffix
      have nonzero : digit ≠ '0' := by simpa using first
      have decimal := areDigits digit (suffix.subset List.mem_cons_self)
      have large := one_le_digit decimal nonzero
      calc
        greatest < 1 * 10 ^ 19 := by decide
        _ ≤ (digit.toNat - '0'.toNat) * 10 ^ rest.length := by
          apply Nat.mul_le_mul large
          apply Nat.pow_le_pow_right (by decide)
          simpa using long
        _ ≤ Nat.ofDigitChars 10 rest (digit.toNat - '0'.toNat) := mul_pow_le_ofDigitChars _ _
        _ = value (digit :: rest) := by simp [value, Nat.ofDigitChars_cons]

theorem read_eq_some_iff {digits : List Char} (areDigits : ∀ digit ∈ digits, digit.isDigit = true)
    {number : Nat} : read? digits = some number ↔ value digits = number ∧ number ≤ greatest := by
  have large := greatest_lt_value areDigits
  simp only [read?, ← value_significant digits]
  split
  · have high := large ‹_›
    simp
    omega
  · split <;> simp <;> omega

theorem read_eq_none_iff {digits : List Char} (areDigits : ∀ digit ∈ digits, digit.isDigit = true) :
    read? digits = none ↔ greatest < value digits := by
  rw [Option.eq_none_iff_forall_ne_some]
  constructor
  · intro refused
    by_contra low
    exact refused _ ((read_eq_some_iff areDigits).mpr ⟨rfl, Nat.not_lt.mp low⟩)
  · intro tooGreat number read
    obtain ⟨rfl, low⟩ := (read_eq_some_iff areDigits).mp read
    exact absurd tooGreat (Nat.not_lt.mpr low)

end Reckoner.Numeral
