namespace Reckoner.Numeral

def greatest : Nat := 0x7fffffffffffffff

def value (digits : List Char) : Nat := Nat.ofDigitChars 10 digits 0

def significant (digits : List Char) : List Char := digits.dropWhile (· == '0')

/-- Reads a run of digits. More than nineteen digits behind the leading zeros are too many for the
range whatever they are, so that their value is not needed. -/
def read? (digits : List Char) : Option Nat :=
  let kept := significant digits
  if 19 < kept.length then none
  else if greatest < value kept then none
  else some (value kept)

theorem value_significant (digits : List Char) : value (significant digits) = value digits := by
  induction digits with
  | nil => rfl
  | cons digit digits ih =>
      by_cases zero : digit = '0'
      · subst zero
        simpa [value, significant, Nat.ofDigitChars_cons] using ih
      · simp [significant, zero]

end Reckoner.Numeral
