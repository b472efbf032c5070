import Reckoner.Proofs.Inscription
import Reckoner.Proofs.Spacing
import Mathlib

/-!
Texts that are put together from others. Where no numeral runs over the cut, a text and another
behind it are read as the tokens of both (`tokenize_append`). So the texts of two trees with an
operator between them, each in parentheses as far as it needs them, parse to the tree that the
operator makes of both, and their calculation applies it to both values (`calculate_of_combines`).
-/

namespace Reckoner

section

variable {start : Nat} {tokens others : List Token} {text rest blanks : List Char}

theorem Laid.behind_blanks (blank : Blank blanks)
    (laid : Laid (start + blanks.length) tokens rest) : Laid start tokens (blanks ++ rest) := by
  cases laid with
  | @finish _ more white =>
      have laid : Laid start _ _ := .finish (blank.append white)
      simpa [Int.add_assoc] using laid
  | @token _ more chars rest lexeme tokens white spells closed behind =>
      have further : Laid (start + (blanks ++ more).length + chars.length) tokens rest := by
        simpa [Nat.add_assoc] using behind
      have laid := Laid.token (blank.append white) spells closed further
      simpa [Int.add_assoc] using laid

theorem Laid.further (laid : Laid start tokens text) (more : Nat) :
    Laid (start + more) (tokens.map (·.relocate (· + more))) text := by
  induction laid with
  | @finish start blanks blank =>
      have laid : Laid (start + more) _ _ := .finish blank
      simpa [Token.relocate, Int.add_right_comm] using laid
  | @token start blanks chars rest lexeme tokens blank spells closed _ ih =>
      have start_eq : start + blanks.length + chars.length + more =
          start + more + blanks.length + chars.length := by omega
      rw [start_eq] at ih
      have laid := Laid.token blank spells closed ih
      simpa [Token.relocate, Int.add_right_comm] using laid

theorem Closed.append {lexeme : Lexeme} {chars : List Char} (spells : Spells lexeme chars)
    (closed : Closed lexeme text) (broken : Broken (chars ++ text) rest) :
    Closed lexeme (text ++ rest) := by
  cases spells with
  | operator | leftParen | rightParen => trivial
  | integer nonempty areDigits =>
      cases text with
      | cons char text => exact closed
      | nil =>
          rw [List.append_nil] at broken
          have last := areDigits _ (List.getLast_mem nonempty)
          exact Undigited.closed (broken _ (List.getLast?_eq_getLast_of_ne_nil nonempty) last) _

theorem Laid.ne_nil (laid : Laid start tokens text) : tokens ≠ [] := by
  cases laid <;> simp

theorem Laid.append (laid : Laid start tokens text) (broken : Broken text rest)
    (behind : Laid (start + text.length) others rest) :
    Laid start (tokens.dropLast ++ others) (text ++ rest) := by
  induction laid with
  | finish blank => exact behind.behind_blanks blank
  | @token start blanks chars inner lexeme tokens blank spells closed laid ih =>
      rw [List.append_assoc] at broken
      have further := ih broken.of_append.of_append (by simpa [Nat.add_assoc] using behind)
      rw [List.dropLast_cons_of_ne_nil laid.ne_nil, List.append_assoc]
      exact .token blank spells (closed.append spells broken.of_append) further

theorem tokenize_append (read : tokenize text = .ok tokens) (readRest : tokenize rest = .ok others)
    (broken : Broken text rest) :
    tokenize (text ++ rest) =
      .ok (tokens.dropLast ++ others.map (·.relocate (· + text.length))) := by
  rw [tokenize_eq_ok_iff_laid] at read readRest ⊢
  exact read.append broken (readRest.further text.length)

end

def Reads (text : List Char) (word : List Lexeme) : Prop :=
  ∃ tokens ended, tokenize text = .ok (tokens ++ [ended]) ∧ ended.lexeme = .endOfInput ∧
    tokens.map Token.lexeme = word

section

variable {text rest : List Char} {word other : List Lexeme} {limit : Option Int} {tree : Tree}

theorem parse_eq_ok_iff_reads :
    parse text limit = .ok tree ↔
      ∃ word, Reads text word ∧ Derives .expression word tree ∧ Fits limit word := by
  rw [parse_eq_ok_iff]
  constructor
  · intro ⟨tokens, ended, read, ends, derived, fits⟩
    exact ⟨_, ⟨tokens, ended, read, ends, rfl⟩, derived, fits⟩
  · rintro ⟨_, ⟨tokens, ended, read, ends, rfl⟩, derived, fits⟩
    exact ⟨tokens, ended, read, ends, derived, fits⟩

theorem Reads.append (reads : Reads text word) (readsOther : Reads rest other)
    (broken : Broken text rest) : Reads (text ++ rest) (word ++ other) := by
  obtain ⟨tokens, ended, read, -, rfl⟩ := reads
  obtain ⟨others, last, further, ends, rfl⟩ := readsOther
  have readWhole := tokenize_append read further broken
  rw [List.dropLast_concat, List.map_append, ← List.append_assoc] at readWhole
  exact ⟨_, _, readWhole, ends, by simp [Token.relocate, Function.comp_def]⟩

theorem reads_symbol {char : Char} {lexeme : Lexeme} (found : Lexeme.ofChar? char = some lexeme) :
    Reads [char] [lexeme] := by
  obtain ⟨spells, -, -⟩ := spells_symbol found
  have laid := laid_without_blanks spells (closed_symbol found []) (laid_nil (0 + [char].length))
  exact ⟨[⟨lexeme, 0⟩], _, tokenize_eq_ok_iff_laid.mpr laid, rfl, rfl⟩

theorem Reads.around {char : Char} {lexeme : Lexeme} (reads : Reads text word)
    (found : Lexeme.ofChar? char = some lexeme) (readsRest : Reads rest other) :
    Reads (text ++ char :: rest) (word ++ lexeme :: other) := by
  obtain ⟨-, -, visible⟩ := spells_symbol found
  have behind : Reads (char :: rest) (lexeme :: other) :=
    (reads_symbol found).append readsRest fun last final decimal => by
      have char_eq : char = last := by simpa using final
      rw [← char_eq, visible] at decimal
      cases decimal
  exact reads.append behind fun _ _ _ first found_eq => by
    cases found_eq
    exact visible

theorem fits_append_iff {bound : Int} :
    Fits (some bound) (word ++ other) ↔
      Fits (some bound) word ∧ Fits (some (bound - excess word)) other := by
  constructor
  · intro fits
    refine ⟨fits.of_append other, ?_⟩
    rintro before behind rfl
    obtain ⟨limit, limit_eq, low⟩ := fits (word ++ before) behind (List.append_assoc ..).symm
    cases limit_eq
    rw [List.append_assoc, excess_append] at low
    exact ⟨_, rfl, by omega⟩
  · intro ⟨first, second⟩ before behind shape
    rcases cut_at_or_behind shape.symm with ⟨middle, rfl⟩ | ⟨middle, rfl⟩
    · rw [List.append_assoc, List.append_cancel_left_eq] at shape
      obtain ⟨limit, limit_eq, low⟩ := second middle behind shape
      cases limit_eq
      rw [List.append_assoc, excess_append]
      exact ⟨bound, rfl, by omega⟩
    · exact first before middle rfl

theorem fits_singleton {lexeme : Lexeme} {bound : Int}
    (room : lexeme = .leftParen → 1 ≤ bound) : Fits (some bound) [lexeme] := by
  intro before behind shape
  rcases List.singleton_eq_append_iff.mp shape with ⟨rfl, nil_eq⟩ | ⟨-, none⟩
  · cases nil_eq
    exact ⟨bound, rfl, room rfl⟩
  · cases none

theorem balanced_of_derives (derived : Derives .expression word tree) : excess word = 0 := by
  obtain ⟨sum, term, fed, -⟩ := Assembly.feed_of_derives derived
  exact excess_of_feed fed

theorem Fits.mono {bound ample : Int} (fits : Fits (some bound) word) (low : bound ≤ ample) :
    Fits (some ample) word := by
  intro before behind shape
  obtain ⟨limit, limit_eq, within⟩ := fits before behind shape
  cases limit_eq
  exact ⟨ample, rfl, Int.le_trans within low⟩

theorem Fits.around {bound : Int} {op : Operator} (fits : Fits (some bound) word)
    (balanced : excess word = 0) (fitsOther : Fits (some bound) other) :
    Fits (some bound) (word ++ .operator op :: other) := by
  have excess_eq : excess [.operator op] = 0 := rfl
  rw [fits_append_iff, ← List.singleton_append, fits_append_iff, balanced, excess_eq]
  simp only [Int.sub_zero]
  exact ⟨fits, fits_singleton nofun, fitsOther⟩

end

/-- A text parses as a phrase when its lexemes derive it and have room under the limit. -/
structure Forms (phrase : Phrase) (limit : Int) (text : List Char) (word : List Lexeme)
    (tree : Tree) : Prop where
  reads : Reads text word
  derived : Derives phrase word tree
  fits : Fits (some limit) word

section

variable {first second text : List Char} {word other : List Lexeme} {left right tree : Tree}
  {limit : Int}

theorem Forms.around {op : Operator} (forms : Forms op.level.phrase limit first word left)
    (formsSecond : Forms op.level.operand limit second other right) :
    parse (first ++ op.symbol :: second) (some limit) = .ok (.bin op left right) := by
  have joining : Lexeme.ofChar? op.symbol = some (.operator op) :=
    Lexeme.of_char_eq_some_iff.mpr (.inr (.inr ⟨op, rfl, rfl⟩))
  have balanced := balanced_of_derives (derives_expression forms.derived)
  exact parse_eq_ok_iff_reads.mpr ⟨_, forms.reads.around joining formsSecond.reads,
    derives_expression (derives_round rfl forms.derived formsSecond.derived),
    forms.fits.around balanced formsSecond.fits⟩

end

end Reckoner
