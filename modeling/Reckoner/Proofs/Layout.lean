import Reckoner.Lexer.Layout
import Reckoner.Proofs.Lexing
import Reckoner.Proofs.Numeral
import Mathlib

/-!
Tokens and the characters that they stand for. A text is read as a list of tokens exactly when the
tokens lie in it (`tokenize_eq_ok_iff_laid`), and then their spans account for every character that
is not blank (`tokenize_lossless`).
-/

namespace Reckoner

theorem Sees.spelled {text : List Char} {token : Token} {length : Nat}
    (sees : Sees text ⟨.ok token, length⟩) (inside : token.lexeme ≠ .endOfInput) :
    ∃ blanks chars rest, text = blanks ++ chars ++ rest ∧ Blank blanks ∧
      Spells token.lexeme chars ∧ Closed token.lexeme rest ∧ token.pos = blanks.length ∧
        length = blanks.length + chars.length := by
  cases sees with
  | ended => exact absurd rfl inside
  | @integer blanks digits rest value blank nonempty areDigits ends read =>
      obtain ⟨rfl, low⟩ := (Numeral.read_eq_some_iff areDigits).mp read
      have closed : Closed (.integer (Numeral.value digits)) rest := by
        cases rest with
        | nil => trivial
        | cons char rest => exact ends char rfl
      exact ⟨blanks, digits, rest, rfl, blank, .integer nonempty areDigits low, closed, rfl, rfl⟩
  | @symbol blanks rest char lexeme blank found =>
      refine ⟨blanks, [char], rest, by simp, blank, ?_, ?_, rfl, rfl⟩
      all_goals
        rcases Lexeme.of_char_eq_some_iff.mp found with ⟨rfl, rfl⟩ | ⟨rfl, rfl⟩ | ⟨op, rfl, rfl⟩
      · exact .leftParen
      · exact .rightParen
      · exact .operator op
      all_goals trivial

theorem Sees.blank_of_end {text : List Char} {token : Token} {length : Nat}
    (sees : Sees text ⟨.ok token, length⟩) (ends : token.lexeme = .endOfInput) : Blank text := by
  cases sees with
  | ended blank => exact blank
  | integer => cases ends
  | symbol _ found =>
      dsimp only at ends
      subst ends
      simp [Lexeme.of_char_eq_some_iff] at found

namespace Lexer

theorem origin_of_within {lexer : Lexer} (within : lexer.cursor ≤ lexer.text.length) :
    lexer.origin = lexer.cursor :=
  Nat.min_eq_left within

theorem rest_of_append {lexer : Lexer} {front rest : List Char}
    (shape : lexer.rest = front ++ rest) :
    Lexer.rest ⟨lexer.text, lexer.cursor + front.length⟩ = rest := by
  calc
    Lexer.rest ⟨lexer.text, lexer.cursor + front.length⟩ = lexer.rest.drop front.length := by
      rw [Lexer.rest, Lexer.rest, List.drop_drop]
    _ = rest := by rw [shape, List.drop_left]

theorem laid_of_scan (lexer : Lexer) (within : lexer.cursor ≤ lexer.text.length)
    (complete : lexer.scan.fault = none) : Laid lexer.cursor lexer.scan.tokens lexer.rest := by
  revert within complete
  refine scan_induction (motive := fun lexer scan => lexer.cursor ≤ lexer.text.length →
    scan.fault = none → Laid lexer.cursor scan.tokens lexer.rest) ?_ ?_ ?_ lexer
  · intro lexer stopped fault _ _ complete
    cases complete
  · intro lexer after token read ends within _
    obtain ⟨seen, length, sees, rfl, -⟩ := sees_of_next read
    have place := (sees.ends ends).1
    have laid : Laid lexer.cursor _ _ := .finish (sees.blank_of_end ends)
    simpa [Token.relocate, place, origin_of_within within, Int.add_comm, ← ends] using laid
  · intro lexer after token read inside ih within complete
    have moved := next_cursor_le lexer within
    rw [read] at moved
    obtain ⟨seen, length, sees, rfl, rfl⟩ := sees_of_next read
    obtain ⟨blanks, chars, rest, shape, blank, spells, closed, place, rfl⟩ := sees.spelled inside
    have behind := ih moved complete
    rw [← List.length_append, rest_of_append shape, List.length_append, ← Nat.add_assoc] at behind
    have laid := Laid.token blank spells closed behind
    rw [shape]
    simpa [Token.relocate, place, origin_of_within within, Int.add_comm, Nat.add_assoc] using laid

end Lexer

theorem Spells.ne_nil {lexeme : Lexeme} {chars : List Char} (spells : Spells lexeme chars) :
    chars ≠ [] := by
  cases spells with
  | integer nonempty => exact nonempty
  | operator | leftParen | rightParen => simp

theorem Spells.ne_end {lexeme : Lexeme} {chars : List Char} (spells : Spells lexeme chars) :
    lexeme ≠ .endOfInput := by
  cases spells <;> simp

theorem Operator.symbol_class (op : Operator) :
    isBlank op.symbol = false ∧ op.symbol.isDigit = false := by
  cases op <;> decide

theorem glance_of_blank {blanks : List Char} (blank : Blank blanks) :
    glance blanks = ⟨.ok ⟨.endOfInput, blanks.length⟩, blanks.length⟩ := by
  have taken : blanks.takeWhile isBlank = blanks := List.takeWhile_eq_self_iff.mpr blank
  have dropped : blanks.dropWhile isBlank = [] := List.dropWhile_eq_nil_iff.mpr blank
  simp [glance, taken, dropped]

theorem glance_behind_blanks {blanks : List Char} (blank : Blank blanks) (text : List Char) :
    glance (blanks ++ text) =
      ⟨(glance text).reading.relocate (· + blanks.length),
        blanks.length + (glance text).length⟩ := by
  have taken : (blanks ++ text).takeWhile isBlank = blanks ++ text.takeWhile isBlank :=
    List.takeWhile_append_of_pos blank
  have dropped : (blanks ++ text).dropWhile isBlank = text.dropWhile isBlank :=
    List.dropWhile_append_of_pos blank
  simp only [glance, taken, dropped, List.length_append]
  cases text.dropWhile isBlank with
  | nil => simp [Reading.relocate, Token.relocate, Int.add_comm]
  | cons char rest =>
      dsimp only
      repeat' split
      all_goals
        simp [Reading.relocate, Token.relocate, LexFault.relocate, Int.add_comm, Nat.add_assoc]

theorem glance_of_spells {chars rest : List Char} {lexeme : Lexeme}
    (spells : Spells lexeme chars) (closed : Closed lexeme rest) :
    glance (chars ++ rest) = ⟨.ok ⟨lexeme, 0⟩, chars.length⟩ := by
  cases spells with
  | integer nonempty areDigits low =>
      have read := (Numeral.read_eq_some_iff areDigits).mpr ⟨rfl, low⟩
      have taken : (chars ++ rest).takeWhile Char.isDigit = chars := by
        refine takeWhile_digits areDigits fun char first => ?_
        cases rest with
        | nil => cases first
        | cons => exact Option.some.inj first ▸ closed
      cases chars with
      | nil => exact absurd rfl nonempty
      | cons digit digits =>
          have decimal := areDigits digit List.mem_cons_self
          have visible := is_blank_eq_false_of_is_digit decimal
          rw [List.cons_append] at taken ⊢
          simp [glance, visible, decimal, taken, read]
  | operator op =>
      obtain ⟨visible, other⟩ := op.symbol_class
      have found : Lexeme.ofChar? op.symbol = some (.operator op) :=
        Lexeme.of_char_eq_some_iff.mpr (.inr (.inr ⟨op, rfl, rfl⟩))
      simp [glance, visible, other, found]
  | leftParen => rfl
  | rightParen => rfl

theorem Lexer.next_of_glance {front rest : List Char} {seen : Token} {length : Nat}
    (read : glance rest = ⟨.ok seen, length⟩) :
    Lexer.next ⟨front ++ rest, front.length⟩ =
      (.ok (seen.relocate (· + front.length)), ⟨front ++ rest, front.length + length⟩) := by
  simp [Lexer.next, Lexer.rest, Lexer.origin, read, Reading.relocate]

theorem Laid.scan {start : Nat} {tokens : List Token} {rest : List Char}
    (laid : Laid start tokens rest) (front : List Char) (offset : front.length = start) :
    ∃ stopped, Lexer.scan ⟨front ++ rest, start⟩ = ⟨tokens, none, stopped⟩ := by
  induction laid generalizing front with
  | @finish start blanks blank =>
      subst offset
      refine ⟨⟨front ++ blanks, front.length + blanks.length⟩, ?_⟩
      rw [Lexer.scan_of_token (Lexer.next_of_glance (glance_of_blank blank))]
      simp [Token.relocate, Int.add_comm]
  | @token start blanks chars rest lexeme tokens blank spells closed _ ih =>
      subst offset
      have read : glance (blanks ++ chars ++ rest) =
          ⟨.ok ⟨lexeme, blanks.length⟩, blanks.length + chars.length⟩ := by
        rw [List.append_assoc, glance_behind_blanks blank, glance_of_spells spells closed]
        simp [Reading.relocate, Token.relocate]
      obtain ⟨stopped, scanned⟩ := ih (front ++ blanks ++ chars) (by simp [Nat.add_assoc])
      refine ⟨stopped, ?_⟩
      rw [Lexer.scan_of_token (Lexer.next_of_glance read)]
      simp only [List.append_assoc, Nat.add_assoc] at scanned ⊢
      simp [scanned, spells.ne_end, Token.relocate, Int.add_comm]

/-- A text is read as the tokens that lie in it, and as no others. -/
theorem tokenize_eq_ok_iff_laid {text : List Char} {tokens : List Token} :
    tokenize text = .ok tokens ↔ Laid 0 tokens text := by
  rw [tokenize_eq_ok_iff]
  constructor
  · intro ⟨complete, gathered⟩
    have laid := Lexer.laid_of_scan ⟨text, 0⟩ (Nat.zero_le _) complete
    rw [gathered] at laid
    exact laid
  · intro laid
    obtain ⟨stopped, scanned⟩ := laid.scan [] rfl
    rw [List.nil_append] at scanned
    rw [scanned]
    exact ⟨rfl, rfl⟩

structure Span where
  lexeme : Lexeme
  start : Nat
  stop : Nat
  deriving DecidableEq, Repr

def Span.token (span : Span) : Token := ⟨span.lexeme, span.start⟩

def Span.Holds (span : Span) (index : Nat) : Prop := span.start ≤ index ∧ index < span.stop

def DigitAt (text : List Char) (index : Nat) : Prop := ∃ char ∈ text[index]?, char.isDigit = true

/-- The characters of the span spell its lexeme, and a numeral has all the digits of its run. -/
structure Span.Marks (text : List Char) (span : Span) : Prop where
  nonempty : span.start < span.stop
  within : span.stop ≤ text.length
  spelled : Spells span.lexeme (text.extract span.start span.stop)
  maximal : span.lexeme.kind = .integer →
    ¬ DigitAt text span.stop ∧ ∀ before, before + 1 = span.start → ¬ DigitAt text before

/-- From an offset on the spans lie in the text one behind the other, and nothing but blanks lies
outside them. -/
structure Covers (text : List Char) (offset : Nat) (spans : List Span) : Prop where
  marks : ∀ span ∈ spans, offset ≤ span.start ∧ span.Marks text
  apart : spans.Pairwise (·.stop ≤ ·.start)
  blank : ∀ index (inside : index < text.length), offset ≤ index →
    (∀ span ∈ spans, ¬ span.Holds index) → isBlank text[index] = true

theorem Covers.cons {text : List Char} {offset : Nat} {span : Span} {spans : List Span}
    (covers : Covers text span.stop spans) (marks : span.Marks text) (gap : offset ≤ span.start)
    (blank : ∀ index (inside : index < text.length), offset ≤ index → index < span.start →
      isBlank text[index] = true) : Covers text offset (span :: spans) where
  marks := by
    intro other member
    rcases List.mem_cons.mp member with rfl | member
    · exact ⟨gap, marks⟩
    · obtain ⟨behind, marked⟩ := covers.marks other member
      have nonempty := marks.nonempty
      exact ⟨by omega, marked⟩
  apart := by
    apply List.pairwise_cons.mpr
    exact ⟨fun other member => (covers.marks other member).1, covers.apart⟩
  blank := by
    intro index inside low outside
    simp only [List.mem_cons, forall_eq_or_imp, Span.Holds] at outside
    by_cases before : index < span.start
    · exact blank index inside low before
    · apply covers.blank index inside
      · omega
      · exact outside.2

/-- A digit in front of the cut is followed by none. -/
def Broken (front rest : List Char) : Prop :=
  ∀ before ∈ front.getLast?, before.isDigit = true → ∀ char ∈ rest.head?, char.isDigit = false

theorem Broken.behind_blanks {front blanks rest : List Char} (blank : Blank blanks)
    (broken : Broken front (blanks ++ rest)) : Broken (front ++ blanks) rest := by
  rcases List.eq_nil_or_concat blanks with rfl | ⟨others, last, rfl⟩
  · simpa using broken
  · intro before final decimal
    have undigited : last.isDigit = false := blank.is_digit_eq_false (by simp)
    have last_eq : last = before := by simpa using final
    rw [last_eq, decimal] at undigited
    cases undigited

theorem Broken.behind_lexeme {chars rest : List Char} {lexeme : Lexeme}
    (spells : Spells lexeme chars) (closed : Closed lexeme rest) (front : List Char) :
    Broken (front ++ chars) rest := by
  intro before final decimal char first
  cases spells with
  | integer =>
      cases rest with
      | nil => cases first
      | cons next rest =>
          cases first
          exact closed
  | operator op =>
      have symbol_eq : op.symbol = before := by simpa using final
      rw [← symbol_eq, op.symbol_class.2] at decimal
      cases decimal
  | leftParen | rightParen =>
      simp at final
      subst final
      cases decimal

theorem getElem?_before {front rest : List Char} {before : Nat} (last : before + 1 = front.length) :
    (front ++ rest)[before]? = front.getLast? := by
  rw [List.getElem?_append_left (by omega), List.getLast?_eq_getElem?]
  congr
  omega

theorem getElem?_behind (front rest : List Char) : (front ++ rest)[front.length]? = rest.head? := by
  rw [List.getElem?_append_right (Nat.le_refl _), Nat.sub_self, List.head?_eq_getElem?]

theorem not_digitAt_stop {front rest : List Char} {value : Int}
    (closed : Closed (.integer value) rest) : ¬ DigitAt (front ++ rest) front.length := by
  intro ⟨char, found, decimal⟩
  rw [getElem?_behind] at found
  cases rest with
  | nil => cases found
  | cons first rest =>
      cases found
      have stopped : char.isDigit = false := closed
      rw [stopped] at decimal
      cases decimal

theorem not_digitAt_before {front chars rest : List Char} (nonempty : chars ≠ [])
    (areDigits : ∀ digit ∈ chars, digit.isDigit = true) (broken : Broken front (chars ++ rest))
    {before : Nat} (last : before + 1 = front.length) :
    ¬ DigitAt (front ++ (chars ++ rest)) before := by
  intro ⟨char, found, decimal⟩
  rw [getElem?_before last] at found
  cases chars with
  | nil => exact nonempty rfl
  | cons digit digits =>
      have stopped := broken char found decimal digit (by simp)
      rw [areDigits digit List.mem_cons_self] at stopped
      cases stopped

theorem marks_of_spells {front chars rest : List Char} {lexeme : Lexeme}
    (spells : Spells lexeme chars) (closed : Closed lexeme rest)
    (broken : Broken front (chars ++ rest)) :
    Span.Marks (front ++ (chars ++ rest)) ⟨lexeme, front.length, front.length + chars.length⟩ where
  nonempty := by simpa using List.length_pos_iff.mpr spells.ne_nil
  within := by simp
  spelled := by simpa [List.extract] using spells
  maximal := by
    intro numeral
    cases spells with
    | integer nonempty areDigits low =>
        refine ⟨?_, fun before last => not_digitAt_before nonempty areDigits broken last⟩
        rw [← List.append_assoc, ← List.length_append]
        exact not_digitAt_stop closed
    | operator | leftParen | rightParen => cases numeral

theorem Laid.covers {start : Nat} {tokens : List Token} {rest : List Char}
    (laid : Laid start tokens rest) (front : List Char) (offset : front.length = start)
    (broken : Broken front rest) :
    ∃ spans, tokens = spans.map Span.token ++ [⟨.endOfInput, (front ++ rest).length⟩] ∧
      Covers (front ++ rest) start spans := by
  induction laid generalizing front with
  | @finish start blanks blank =>
      subst offset
      refine ⟨[], by simp, ⟨nofun, .nil, ?_⟩⟩
      intro index inside low _
      rw [List.getElem_append_right low]
      exact blank _ (List.getElem_mem _)
  | @token start blanks chars rest lexeme tokens blank spells closed _ ih =>
      subst offset
      rw [List.append_assoc] at broken
      have marks := marks_of_spells spells closed (broken.behind_blanks blank)
      obtain ⟨spans, rfl, covers⟩ := ih (front ++ blanks ++ chars) (by simp [Nat.add_assoc])
        (.behind_lexeme spells closed _)
      simp only [List.append_assoc, List.length_append] at marks covers ⊢
      refine ⟨⟨lexeme, front.length + blanks.length, _⟩ :: spans, ?_, covers.cons marks ?_ ?_⟩
      · simp [Span.token]
      · simp
      · intro index inside low before
        rw [List.getElem_append_right low, List.getElem_append_left (by simp at before; omega)]
        exact blank _ (List.getElem_mem _)

theorem Covers.holds_unique {text : List Char} {offset : Nat} {spans : List Span}
    (covers : Covers text offset spans) {span other : Span} {index : Nat} (member : span ∈ spans)
    (memberOther : other ∈ spans) (holds : span.Holds index) (shared : other.Holds index) :
    span = other := by
  by_contra different
  have disjoint : spans.Pairwise fun a b => ∀ index, ¬ (a.Holds index ∧ b.Holds index) := by
    apply covers.apart.imp
    intro a b before index ⟨first, second⟩
    simp only [Span.Holds] at first second
    omega
  have : Std.Symm fun a b : Span => ∀ index, ¬ (a.Holds index ∧ b.Holds index) :=
    ⟨fun a b separate index both => separate index both.symm⟩
  exact disjoint.forall member memberOther different index ⟨holds, shared⟩

/-- Reading a whole text loses nothing: the spans of the tokens spell them in their order up to the
end of input, and every character that is not blank belongs to the span of one token. -/
theorem tokenize_lossless (text : List Char) (tokens : List Token)
    (success : tokenize text = .ok tokens) :
    ∃ spans, tokens = spans.map Span.token ++ [⟨.endOfInput, text.length⟩] ∧
      (∀ span ∈ spans, span.lexeme ≠ .endOfInput) ∧ Covers text 0 spans ∧
        ∀ index (inside : index < text.length), isBlank text[index] = false →
          ∃! span, span ∈ spans ∧ span.Holds index := by
  have nothing : Broken [] text := nofun
  obtain ⟨spans, shape, covers⟩ := (tokenize_eq_ok_iff_laid.mp success).covers [] rfl nothing
  rw [List.nil_append] at shape covers
  refine ⟨spans, shape, ?_, covers, ?_⟩
  · intro span member
    exact (covers.marks span member).2.spelled.ne_end
  · intro index inside visible
    by_contra lost
    have blank : isBlank text[index] = true := by
      apply covers.blank index inside (Nat.zero_le _)
      intro span member holds
      exact lost ⟨span, ⟨member, holds⟩,
        fun other shared => covers.holds_unique shared.1 member shared.2 holds⟩
    rw [blank] at visible
    cases visible

theorem tokenize_lossless_zeros :
    let text := "007*(2 ".toList
    let tokens : List Token := [⟨.integer 7, 0⟩, ⟨.operator .mul, 3⟩, ⟨.leftParen, 4⟩,
      ⟨.integer 2, 5⟩, ⟨.endOfInput, 7⟩]
    tokenize text = .ok tokens ∧
      ∃ spans, tokens = spans.map Span.token ++ [⟨.endOfInput, text.length⟩] ∧
        (∀ span ∈ spans, span.lexeme ≠ .endOfInput) ∧ Covers text 0 spans ∧
          ∀ index (inside : index < text.length), isBlank text[index] = false →
            ∃! span, span ∈ spans ∧ span.Holds index :=
  ⟨by cbv, tokenize_lossless "007*(2 ".toList _ (by cbv)⟩

end Reckoner
