import Reckoner.Lexer

/-!
How tokens lie in a text: blanks, then the characters of a token, then blanks again, up to the end
of input. `Laid` is the relation between a text and its tokens, stated without reading anything.
-/

namespace Reckoner

inductive Spells : Lexeme → List Char → Prop where
  | integer {digits : List Char} :
      digits ≠ [] → (∀ digit ∈ digits, digit.isDigit = true) →
        Numeral.value digits ≤ Numeral.greatest →
          Spells (.integer (Numeral.value digits)) digits
  | operator (op : Operator) : Spells (.operator op) [op.symbol]
  | leftParen : Spells .leftParen ['(']
  | rightParen : Spells .rightParen [')']

def Blank (text : List Char) : Prop := ∀ char ∈ text, isBlank char = true

/-- No digit follows, so that a numeral ends where it is said to. -/
def Closed : Lexeme → List Char → Prop
  | .integer _, char :: _ => char.isDigit = false
  | _, _ => True

/-- The tokens lie in the text in their order, each at its position when the text starts at an
offset, and nothing but blanks lies outside them. -/
inductive Laid : Nat → List Token → List Char → Prop where
  | finish {start : Nat} {blanks : List Char} :
      Blank blanks → Laid start [⟨.endOfInput, (start + blanks.length : Nat)⟩] blanks
  | token {start : Nat} {blanks chars rest : List Char} {lexeme : Lexeme} {tokens : List Token} :
      Blank blanks → Spells lexeme chars → Closed lexeme rest →
        Laid (start + blanks.length + chars.length) tokens rest →
          Laid start (⟨lexeme, (start + blanks.length : Nat)⟩ :: tokens) (blanks ++ chars ++ rest)

end Reckoner
