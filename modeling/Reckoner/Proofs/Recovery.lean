import Reckoner.Proofs.Spacing

/-!
Readings behind a fault. An unexpected character is read again and again (`next_of_unexpected`).
Digits that are out of range are read once: the readings in front of them do not depend on them, and
behind them the text is read as if blanks stood in their place (`Literal.trails`).
-/

namespace Reckoner

theorem broken_of_glance (before text : List Char) :
    Broken (before ++ text.take (glance text).length) (text.drop (glance text).length) := by
  have sees := sees_glance text
  generalize glance text = seen at sees
  cases sees with
  | ended => simp [Broken]
  | @integer blanks digits rest _ _ _ _ closed =>
      rw [← List.length_append, List.drop_left]
      exact fun _ _ _ => closed
  | @outOfRange blanks digits rest _ _ _ closed =>
      rw [← List.length_append, List.drop_left]
      exact fun _ _ _ => closed
  | @symbol blanks rest char lexeme _ found =>
      intro last final decimal
      have cut : (blanks ++ char :: rest).take (blanks.length + 1) = blanks ++ [char] := by
        simp [List.take_append]
      have char_eq : char = last := by simpa [cut] using final
      subst char_eq
      rcases Lexeme.of_char_eq_some_iff.mp found with ⟨rfl, -⟩ | ⟨rfl, -⟩ | ⟨op, rfl, -⟩
      · cases decimal
      · cases decimal
      · rw [op.symbol_class.2] at decimal
        cases decimal
  | unexpected _ _ other =>
      rw [List.drop_left]
      rintro _ _ _ _ ⟨⟩
      exact other

theorem Broken.of_digits {front digits behind : List Char}
    (broken : Broken front (digits ++ behind)) (nonempty : digits ≠ [])
    (areDigits : ∀ digit ∈ digits, digit.isDigit = true) (rest : List Char) :
    Broken front rest := by
  intro last final decimal
  obtain ⟨digit, digits, rfl⟩ := List.exists_cons_of_ne_nil nonempty
  have undigited := broken last final decimal digit rfl
  rw [areDigits digit List.mem_cons_self] at undigited
  cases undigited

namespace Lexer

theorem exists_cursor (text : List Char) (count : Nat) :
    ∃ cursor, cursor ≤ text.length ∧ (mk text 0).after count = ⟨text, cursor⟩ := by
  induction count with
  | zero => exact ⟨0, Nat.zero_le _, rfl⟩
  | succ count ih =>
      obtain ⟨cursor, within, reached⟩ := ih
      have moved := next_cursor_le ⟨text, cursor⟩ within
      exact ⟨_, moved, congrArg (·.next.2) reached⟩

theorem after_cursor_mono (lexer : Lexer) {first second : Nat} (order : first ≤ second) :
    (lexer.after first).cursor ≤ (lexer.after second).cursor := by
  induction order with
  | refl => exact Nat.le_refl _
  | step _ ih => exact Nat.le_trans ih (cursor_le_next _)

theorem broken_of_after {text : List Char} {count cursor : Nat}
    (reached : (mk text 0).after count = ⟨text, cursor⟩) :
    Broken (text.take cursor) (text.drop cursor) := by
  cases count with
  | zero =>
      cases reached
      simp [Broken]
  | succ count =>
      obtain ⟨before, -, earlier⟩ := exists_cursor text count
      have broken := broken_of_glance (text.take before) (text.drop before)
      rw [← List.take_add, List.drop_drop] at broken
      have moved : before + (glance (text.drop before)).length = cursor := by
        rw [after, earlier] at reached
        exact congrArg Lexer.cursor reached
      rwa [moved] at broken

theorem next_of_unexpected {lexer after : Lexer} {char : Char} {pos : Int}
    (read : lexer.next = (.error (.unexpected char pos), after)) :
    after.next = (.error (.unexpected char pos), after) := by
  have sees := sees_glance lexer.rest
  generalize shape : lexer.rest = text at sees
  generalize seen : glance text = glanced at sees
  have reading : glanced.reading.relocate (· + lexer.origin) = .error (.unexpected char pos) := by
    rw [← seen, ← shape]
    exact congrArg Prod.fst read
  cases sees with
  | ended | integer | outOfRange | symbol => cases reading
  | @unexpected blanks rest other blank _ _ _ =>
      have length := congrArg Glance.length seen
      rw [glance_behind_blanks blank] at length
      have length_eq : (glance (other :: rest)).length = 0 := by simpa using length
      obtain ⟨first, left⟩ := next_of_blanks blank shape
      have lengthBefore := rest_length lexer
      have lengthAfter := rest_length lexer.next.2
      rw [length_eq, List.drop_zero] at left
      rw [shape, List.length_append] at lengthBefore
      rw [left, next_text] at lengthAfter
      have origin : blanks.length + lexer.origin = lexer.next.2.origin := by omega
      have repeats : lexer.next.2.next = (lexer.next.1, lexer.next.2) := by
        rw [first, origin]
        simp only [next.eq_def lexer.next.2, left, length_eq, Nat.add_zero]
      rw [read] at repeats
      exact repeats

end Lexer

/-- Digits that are out of range, with the number of readings before them. -/
structure Literal (text : List Char) (count : Nat) (front digits behind : List Char) : Prop where
  shape : text = front ++ (digits ++ behind)
  nonempty : digits ≠ []
  low : ((Lexer.mk text 0).after count).cursor ≤ front.length
  blank : Blank (front.drop ((Lexer.mk text 0).after count).cursor)
  passed : ((Lexer.mk text 0).after (count + 1)).cursor = front.length + digits.length
  broken : ∀ rest, Broken front rest

section

variable {text front digits behind : List Char} {count index : Nat}

theorem exists_literal {pos : Int}
    (failed : Lexer.outcome ⟨text, 0⟩ count = .error (.outOfRange digits pos)) :
    ∃ front behind, Literal text count front digits behind ∧ pos = front.length := by
  obtain ⟨cursor, within, reached⟩ := Lexer.exists_cursor text count
  have broken := Lexer.broken_of_after reached
  have origin : Lexer.origin ⟨text, cursor⟩ = cursor := Nat.min_eq_left within
  have passed : ((Lexer.mk text 0).after (count + 1)).cursor =
      cursor + (glance (text.drop cursor)).length := by
    rw [Lexer.after, reached]
    rfl
  rw [Lexer.outcome, reached, Lexer.next, origin] at failed
  have sees := sees_glance (text.drop cursor)
  change (glance (text.drop cursor)).reading.relocate _ = _ at failed
  generalize left : text.drop cursor = rest at sees failed broken passed
  generalize glance rest = seen at sees failed passed
  cases sees with
  | ended | integer | symbol | unexpected => cases failed
  | @outOfRange blanks digits behind blank nonempty areDigits closed none =>
      cases failed
      have long : (text.take cursor).length = cursor := List.length_take_of_le within
      rw [List.append_assoc] at left broken
      refine ⟨text.take cursor ++ blanks, behind, ⟨?_, nonempty, ?_, ?_, ?_, ?_⟩, ?_⟩
      · rw [List.append_assoc, ← left, List.take_append_drop]
      · rw [reached, List.length_append, long]
        exact Nat.le_add_right cursor _
      · rwa [reached, List.drop_append_of_le_length (Nat.le_of_eq long.symm),
          List.drop_of_length_le (Nat.le_of_eq long)]
      · rw [passed, List.length_append, long, Nat.add_assoc]
      · exact (broken.behind_blanks blank).of_digits nonempty areDigits
      · rw [List.length_append, long]
        push_cast
        omega

theorem Literal.early (literal : Literal text count front digits behind) (low : index ≤ count) :
    ((Lexer.mk text 0).after index).cursor ≤ front.length :=
  Nat.le_trans (Lexer.after_cursor_mono ⟨text, 0⟩ low) literal.low

theorem Literal.rest_of_hidden (literal : Literal text count front digits behind)
    (low : ((Lexer.mk text 0).after index).cursor ≤ front.length)
    (hidden : Blank (front.drop ((Lexer.mk text 0).after index).cursor)) :
    ((Lexer.mk text 0).after (index + 1)).rest =
      (digits ++ behind).drop (glance (digits ++ behind)).length := by
  obtain ⟨cursor, -, reached⟩ := Lexer.exists_cursor text index
  rw [reached] at low hidden
  have shape : Lexer.rest ⟨text, cursor⟩ = front.drop cursor ++ (digits ++ behind) := by
    rw [Lexer.rest, literal.shape, List.drop_append_of_le_length low]
  rw [Lexer.after, reached]
  exact (Lexer.next_of_blanks hidden shape).2

theorem Literal.visible (literal : Literal text count front digits behind) (low : index < count) :
    ¬ Blank (front.drop ((Lexer.mk text 0).after index).cursor) := by
  intro hidden
  have onward := literal.early low
  -- The digits would have been read already, and the cursor would be behind them.
  have rests_eq := (literal.rest_of_hidden (literal.early (Nat.le_of_lt low)) hidden).trans
    (literal.rest_of_hidden literal.low literal.blank).symm
  obtain ⟨near, within, reached⟩ := Lexer.exists_cursor text (index + 1)
  obtain ⟨far, inside, passed⟩ := Lexer.exists_cursor text (count + 1)
  have lengths := congrArg List.length rests_eq
  have moved := literal.passed
  have positive := List.length_pos_iff.mpr literal.nonempty
  rw [reached] at onward lengths
  rw [passed] at moved lengths
  simp only [Lexer.rest, List.length_drop] at lengths
  dsimp only at onward moved
  omega

theorem Literal.next_eq (literal : Literal text count front digits behind) (rest : List Char)
    (low : index < count) :
    ∃ reading cursor, ((Lexer.mk text 0).after index).next = (reading, ⟨text, cursor⟩) ∧
      Lexer.next ⟨front ++ rest, ((Lexer.mk text 0).after index).cursor⟩ =
        (reading, ⟨front ++ rest, cursor⟩) ∧ reading.pos < front.length := by
  have visible := literal.visible low
  have early := literal.early (Nat.le_of_lt low)
  have reading := next_within (literal.broken rest) early visible
  have readingShared := next_within (literal.broken (digits ++ behind)) early visible
  have placed := glance_pos_lt visible
  rw [← literal.shape] at readingShared
  rw [List.length_drop] at placed
  obtain ⟨cursor, -, reached⟩ := Lexer.exists_cursor text index
  rw [reached] at readingShared early placed reading ⊢
  refine ⟨_, _, readingShared, reading, ?_⟩
  rw [Reading.pos_relocate]
  omega

theorem Literal.after_eq (literal : Literal text count front digits behind) (rest : List Char)
    (low : index ≤ count) :
    (Lexer.mk (front ++ rest) 0).after index =
      ⟨front ++ rest, ((Lexer.mk text 0).after index).cursor⟩ := by
  induction index with
  | zero => rfl
  | succ index ih =>
      obtain ⟨reading, cursor, read, readOther, -⟩ := literal.next_eq rest low
      rw [Lexer.after, ih (Nat.le_of_lt low), readOther, Lexer.after, read]

theorem Literal.outcome_eq (literal : Literal text count front digits behind) (rest : List Char)
    (low : index < count) :
    Lexer.outcome ⟨front ++ rest, 0⟩ index = Lexer.outcome ⟨text, 0⟩ index ∧
      (Lexer.outcome ⟨text, 0⟩ index).pos < front.length := by
  obtain ⟨reading, cursor, read, readOther, placed⟩ := literal.next_eq rest low
  rw [Lexer.outcome, literal.after_eq rest (Nat.le_of_lt low), readOther, Lexer.outcome, read]
  exact ⟨rfl, placed⟩

theorem Literal.trails (literal : Literal text count front digits behind) {blanks : List Char}
    (blank : Blank blanks) :
    Lexer.Trails (front.length + digits.length) (blanks.length - digits.length)
      ((Lexer.mk text 0).after (count + 1))
      ((Lexer.mk (front ++ (blanks ++ behind)) 0).after count) := by
  obtain ⟨cursor, within, passed⟩ := Lexer.exists_cursor text (count + 1)
  have shape := literal.shape
  have low := literal.low
  have hidden := literal.blank
  have moved := literal.passed
  rw [literal.after_eq (blanks ++ behind) (Nat.le_refl count), passed]
  rw [passed] at moved
  generalize ((Lexer.mk text 0).after count).cursor = place at low hidden
  dsimp only at moved
  subst moved
  constructor
  · refine ⟨[], front.drop place ++ blanks, behind, nofun, hidden.append blank, ?_, ?_, ?_⟩
    · rw [Lexer.rest, shape, ← List.append_assoc, ← List.length_append, List.drop_left]
      rfl
    · rw [Lexer.rest, List.drop_append_of_le_length low, List.append_assoc]
    · exact Nat.le_of_eq (Nat.min_eq_left within).symm
  · rw [shape]
    simp
    omega

end

end Reckoner
