import Reckoner.Lexer.Layout

namespace Reckoner

def Foreign (char : Char) : Prop :=
  isBlank char = false ∧ char.isDigit = false ∧ char ∉ ['+', '-', '*', '/', '(', ')']

/-- A foreign character, or a run of digits that denotes too great a number. The run is whole: no
digit stands directly in front of it or behind it. -/
inductive Flaw : List Char → LexFault → Prop where
  | foreign {front behind : List Char} {char : Char} :
      Foreign char → Flaw (front ++ char :: behind) (.unexpected char front.length)
  | tooGreat {front digits behind : List Char} :
      digits ≠ [] → (∀ digit ∈ digits, digit.isDigit = true) →
        (∀ char ∈ front.getLast?, char.isDigit = false) →
          (∀ char ∈ behind.head?, char.isDigit = false) →
            Numeral.greatest < Numeral.value digits →
              Flaw (front ++ (digits ++ behind)) (.outOfRange digits front.length)

def FirstFlaw (text : List Char) (fault : LexFault) : Prop :=
  Flaw text fault ∧ ∀ other, Flaw text other → fault.pos ≤ other.pos

end Reckoner
