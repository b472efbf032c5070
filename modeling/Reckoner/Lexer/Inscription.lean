import Reckoner.Lexer.Layout
import Reckoner.Tree.Spelling

namespace Reckoner

def Lexeme.Writable : Lexeme → Prop
  | integer value => 0 ≤ value ∧ value ≤ Numeral.greatest
  | endOfInput => False
  | _ => True

instance : DecidablePred Lexeme.Writable
  | .integer value => inferInstanceAs (Decidable (0 ≤ value ∧ value ≤ Numeral.greatest))
  | .endOfInput => .isFalse id
  | .operator _ => .isTrue trivial
  | .leftParen => .isTrue trivial
  | .rightParen => .isTrue trivial

instance : DecidablePred Blank := fun text =>
  decidable_of_iff (text.all isBlank = true) List.all_eq_true

/-- A lexeme and how it is written. Only a numeral takes leading zeros. -/
structure Inscription where
  lexeme : Lexeme
  zeros : Nat := 0
  blanks : List Char := []
  writable : lexeme.Writable := by decide
  blank : Blank blanks := by decide

namespace Inscription

def chars (mark : Inscription) : List Char :=
  match mark.lexeme with
  | .integer _ => List.replicate mark.zeros '0' ++ mark.lexeme.chars
  | _ => mark.lexeme.chars

def text (mark : Inscription) : List Char := mark.blanks ++ mark.chars

/-- Two numerals that follow each other have blanks between them. -/
def Parted (first second : Inscription) : Prop :=
  first.lexeme.kind = .integer → second.lexeme.kind = .integer → second.blanks ≠ []

end Inscription

def inscribe (marks : List Inscription) (behind : List Char) : List Char :=
  marks.flatMap Inscription.text ++ behind

/-- The tokens that are written, each where its lexeme starts, and the end of input behind them. -/
def inscribed (marks : List Inscription) (behind : List Char) : List Token :=
  (marks.mapIdx fun index mark =>
    ⟨mark.lexeme, (inscribe (marks.take index) mark.blanks).length⟩) ++
      [⟨.endOfInput, (inscribe marks behind).length⟩]

end Reckoner
