import Reckoner.Lexer.Inscription
import Reckoner.Proofs.Spelling
import Mathlib

namespace Reckoner

theorem Numeral.value_zeros (zeros : Nat) (digits : List Char) :
    value (List.replicate zeros '0' ++ digits) = value digits := by
  induction zeros with
  | zero => rfl
  | succ zeros ih => simpa [value, List.replicate_succ, Nat.ofDigitChars_cons] using ih

theorem Spells.zeros {value : Int} {digits : List Char} (spells : Spells (.integer value) digits)
    (zeros : Nat) : Spells (.integer value) (List.replicate zeros '0' ++ digits) := by
  cases spells with
  | integer nonempty areDigits low =>
      rw [← Numeral.value_zeros zeros digits] at low ⊢
      refine .integer (by simp [nonempty]) ?_ low
      intro digit member
      rcases List.mem_append.mp member with zero | decimal
      · rw [List.eq_of_mem_replicate zero]
        rfl
      · exact areDigits digit decimal

theorem Inscription.spells (mark : Inscription) : Spells mark.lexeme mark.chars := by
  have writable := mark.writable
  unfold chars
  cases shape : mark.lexeme with
  | integer value =>
      rw [shape] at writable
      exact (spells_chars writable.1 writable.2).zeros mark.zeros
  | operator op => exact .operator op
  | leftParen => exact .leftParen
  | rightParen => exact .rightParen
  | endOfInput =>
      rw [shape] at writable
      exact absurd writable id

theorem Blank.undigited {blanks : List Char} (blank : Blank blanks) (nonempty : blanks ≠ [])
    (rest : List Char) : Undigited (blanks ++ rest) := by
  intro char first
  rw [List.head?_append_of_ne_nil _ nonempty] at first
  exact blank.is_digit_eq_false (List.mem_of_mem_head? first)

theorem Spells.undigited {lexeme : Lexeme} {chars : List Char} (spells : Spells lexeme chars)
    (symbol : lexeme.kind ≠ .integer) (rest : List Char) : Undigited (chars ++ rest) := by
  intro char first
  cases spells with
  | integer => exact absurd rfl symbol
  | operator op =>
      cases first
      exact op.symbol_class.2
  | leftParen | rightParen =>
      cases first
      rfl

theorem closed_of_symbol {lexeme : Lexeme} (symbol : lexeme.kind ≠ .integer) (rest : List Char) :
    Closed lexeme rest := by
  cases lexeme with
  | operator | leftParen | rightParen | endOfInput => trivial
  | integer => exact absurd rfl symbol

theorem Inscription.Parted.closed {mark next : Inscription} (parted : mark.Parted next)
    (rest : List Char) : Closed mark.lexeme (next.text ++ rest) := by
  by_cases number : mark.lexeme.kind = .integer
  · apply Undigited.closed
    by_cases another : next.lexeme.kind = .integer
    · rw [text, List.append_assoc]
      exact next.blank.undigited (parted number another) _
    · cases white : next.blanks with
      | nil =>
          rw [text, white, List.nil_append]
          exact next.spells.undigited another rest
      | cons char blanks =>
          rw [text, List.append_assoc]
          exact next.blank.undigited (by simp [white]) _
  · exact closed_of_symbol number _

section

variable {marks : List Inscription} {behind : List Char}

theorem closed_inscribe {mark : Inscription}
    (parted : (mark :: marks).IsChain Inscription.Parted) (blank : Blank behind) :
    Closed mark.lexeme (inscribe marks behind) := by
  cases marks with
  | nil =>
      rw [inscribe, List.flatMap_nil, List.nil_append]
      by_cases empty : behind = []
      · subst empty
        cases mark.lexeme <;> trivial
      · have undigited := blank.undigited empty []
        rw [List.append_nil] at undigited
        exact undigited.closed _
  | cons next marks =>
      rw [inscribe, List.flatMap_cons, List.append_assoc]
      exact (List.isChain_cons_cons.mp parted).1.closed _

theorem inscribe_cons (mark : Inscription) (marks : List Inscription) (behind : List Char) :
    inscribe (mark :: marks) behind = mark.blanks ++ mark.chars ++ inscribe marks behind := by
  simp [inscribe, Inscription.text]

theorem inscribed_cons (mark : Inscription) (marks : List Inscription) (behind : List Char) :
    inscribed (mark :: marks) behind =
      ⟨mark.lexeme, mark.blanks.length⟩ ::
        (inscribed marks behind).map
          (·.relocate (· + (mark.blanks.length + mark.chars.length : Nat))) := by
  have further (rest : List Inscription) (final : List Char) :
      (inscribe (mark :: rest) final).length =
        (inscribe rest final).length + (mark.blanks.length + mark.chars.length) := by
    simp only [inscribe_cons, List.length_append]
    omega
  have tokens : (marks.mapIdx fun index next =>
        (⟨next.lexeme, (inscribe ((mark :: marks).take (index + 1)) next.blanks).length⟩ : Token)) =
      (marks.mapIdx fun index next =>
        (⟨next.lexeme, (inscribe (marks.take index) next.blanks).length⟩ : Token)).map
          (·.relocate (· + (mark.blanks.length + mark.chars.length : Nat))) := by
    rw [List.mapIdx_eq_iff]
    intro index
    simp [further, Token.relocate, Function.comp_def]
  rw [inscribed, List.mapIdx_cons, tokens, further, inscribed]
  simp [inscribe, Token.relocate]

theorem laid_inscribe (start : Nat) (parted : marks.IsChain Inscription.Parted)
    (blank : Blank behind) :
    Laid start ((inscribed marks behind).map (·.relocate (· + start))) (inscribe marks behind) := by
  induction marks generalizing start with
  | nil =>
      have laid : Laid start _ behind := .finish blank
      simpa [inscribed, inscribe, Token.relocate, Int.add_comm] using laid
  | cons mark marks ih =>
      have rest := ih (start + mark.blanks.length + mark.chars.length) parted.tail
      have laid := Laid.token mark.blank mark.spells (closed_inscribe parted blank) rest
      rw [inscribe_cons, inscribed_cons]
      simpa [Token.relocate, Function.comp_def, Int.add_assoc, Int.add_comm, Int.add_left_comm]
        using laid

theorem laid_inscribed (parted : marks.IsChain Inscription.Parted) (blank : Blank behind) :
    Laid 0 (inscribed marks behind) (inscribe marks behind) := by
  have laid := laid_inscribe 0 parted blank
  have relocate_eq : (fun token : Token => token.relocate (· + (0 : Nat))) = id := by
    funext token
    simp [Token.relocate]
  rwa [relocate_eq, List.map_id] at laid

end

/-- Lexemes that are written with any blanks and leading zeros are read back in their order, each
where its characters start, if blanks part every two numerals that follow each other. -/
theorem tokenize_inscribe (marks : List Inscription) (behind : List Char)
    (parted : marks.IsChain Inscription.Parted) (blank : Blank behind) :
    tokenize (inscribe marks behind) = .ok (inscribed marks behind) :=
  tokenize_eq_ok_iff_laid.mpr (laid_inscribed parted blank)

theorem tokenize_inscribe_two_numerals :
    let marks : List Inscription :=
      [{ lexeme := .integer 9223372036854775807, zeros := 2, blanks := [' '] },
        { lexeme := .integer 7, blanks := ['\t'] }, { lexeme := .rightParen },
        { lexeme := .leftParen }]
    let text := " 009223372036854775807\t7)(\n".toList
    marks.IsChain Inscription.Parted ∧ Blank ['\n'] ∧ inscribe marks ['\n'] = text ∧
      tokenize text =
        .ok [⟨.integer 9223372036854775807, 1⟩, ⟨.integer 7, 23⟩, ⟨.rightParen, 24⟩,
          ⟨.leftParen, 25⟩, ⟨.endOfInput, 27⟩] := by
  intro marks text
  have parted : marks.IsChain Inscription.Parted := by
    simp [marks, Inscription.Parted, Lexeme.kind]
  have blank : Blank ['\n'] := by decide
  have written : inscribe marks ['\n'] = text := by decide
  have read := tokenize_inscribe marks ['\n'] parted blank
  rw [written] at read
  exact ⟨parted, blank, written, read⟩

end Reckoner
