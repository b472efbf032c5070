import Reckoner.Proofs.Outcome

namespace Reckoner

open Assembly

variable {limit : Option Int}

theorem parse_eq_ok_iff {text : List Char} {tree : Tree} :
    parse text limit = .ok tree ↔
      ∃ word ended, tokenize text = .ok (word ++ [ended]) ∧ ended.lexeme = .endOfInput ∧
        Derives .expression (word.map Token.lexeme) tree ∧ Fits limit (word.map Token.lexeme) := by
  constructor
  · intro parsed
    have outcome := parse_outcome text limit
    rw [parsed] at outcome
    cases outcome with
    | accept shape ends complete fits fed =>
        exact ⟨_, _, tokenize_eq_ok_iff.mpr ⟨complete, shape⟩, ends, derives_of_feed fed, fits⟩
  · intro ⟨word, ended, tokens, ends, derived, fits⟩
    obtain ⟨complete, shape⟩ := tokenize_eq_ok_iff.mp tokens
    obtain ⟨sum, term, fed, rfl⟩ := feed_of_derives derived
    exact outcome_of_complete (parse_outcome text limit) shape ends complete fits fed

theorem fits_of_count {word : List Lexeme} {bound : Int}
    (enough : word.count .leftParen ≤ bound) : Fits (some bound) word := by
  rintro before behind rfl
  refine ⟨bound, rfl, ?_⟩
  simp only [excess, List.count_append, List.count_cons, List.count_nil] at enough ⊢
  simp at enough ⊢
  omega

theorem fits_of_scan {text : List Char} {bound : Int} (enough : text.count '(' ≤ bound)
    {used : List Token} (front : used <+: (Lexer.scan ⟨text, 0⟩).tokens) :
    Fits (some bound) (used.map Token.lexeme) := by
  apply fits_of_count
  have fewer := (front.map Token.lexeme).sublist.count_le .leftParen
  have opened := Lexer.parentheses_of_scan ⟨text, 0⟩
  simp only [Lexer.rest, List.drop_zero] at opened
  omega

end Reckoner
