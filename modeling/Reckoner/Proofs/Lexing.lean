import Reckoner.Lexer.Layout
import Mathlib.Data.List.TakeWhile

namespace Reckoner

theorem Lexeme.of_char_eq_some_iff {char : Char} {lexeme : Lexeme} :
    ofChar? char = some lexeme ↔
      char = '(' ∧ lexeme = leftParen ∨ char = ')' ∧ lexeme = rightParen ∨
        ∃ op : Operator, char = op.symbol ∧ lexeme = operator op := by
  constructor
  · intro found
    simp only [ofChar?] at found
    split at found
    · exact .inl ⟨‹_›, (Option.some.inj found).symm⟩
    · split at found
      · exact .inr (.inl ⟨‹_›, (Option.some.inj found).symm⟩)
      · obtain ⟨op, named, rfl⟩ := Option.map_eq_some_iff.mp found
        exact .inr (.inr ⟨op, Operator.of_symbol_eq_some_iff.mp named, rfl⟩)
  · rintro (⟨rfl, rfl⟩ | ⟨rfl, rfl⟩ | ⟨op, rfl, rfl⟩)
    · rfl
    · rfl
    · cases op <;> rfl

theorem Blank.is_digit_eq_false {blanks : List Char} (blank : Blank blanks) {char : Char}
    (member : char ∈ blanks) : char.isDigit = false := by
  cases digit : char.isDigit with
  | false => rfl
  | true =>
      have visible := is_blank_eq_false_of_is_digit digit
      rw [blank char member] at visible
      cases visible

/-- What a text may start with, and how it reads. -/
inductive Sees : List Char → Glance → Prop where
  | ended {blanks : List Char} :
      Blank blanks → Sees blanks ⟨.ok ⟨.endOfInput, blanks.length⟩, blanks.length⟩
  | integer {blanks digits rest : List Char} {value : Nat} :
      Blank blanks → digits ≠ [] → (∀ digit ∈ digits, digit.isDigit = true) →
        (∀ char ∈ rest.head?, char.isDigit = false) → Numeral.read? digits = some value →
          Sees (blanks ++ digits ++ rest)
            ⟨.ok ⟨.integer value, blanks.length⟩, blanks.length + digits.length⟩
  | outOfRange {blanks digits rest : List Char} :
      Blank blanks → digits ≠ [] → (∀ digit ∈ digits, digit.isDigit = true) →
        (∀ char ∈ rest.head?, char.isDigit = false) → Numeral.read? digits = none →
          Sees (blanks ++ digits ++ rest)
            ⟨.error (.outOfRange digits blanks.length), blanks.length + digits.length⟩
  | symbol {blanks rest : List Char} {char : Char} {lexeme : Lexeme} :
      Blank blanks → Lexeme.ofChar? char = some lexeme →
        Sees (blanks ++ char :: rest) ⟨.ok ⟨lexeme, blanks.length⟩, blanks.length + 1⟩
  | unexpected {blanks rest : List Char} {char : Char} :
      Blank blanks → isBlank char = false → char.isDigit = false → Lexeme.ofChar? char = none →
        Sees (blanks ++ char :: rest)
          ⟨.error (.unexpected char blanks.length), blanks.length⟩

theorem digits_split {char : Char} (rest : List Char) (digit : char.isDigit = true) :
    ∃ digits behind, char :: rest = digits ++ behind ∧ digits ≠ [] ∧
      (∀ digit ∈ digits, digit.isDigit = true) ∧ (∀ char ∈ behind.head?, char.isDigit = false) ∧
        (char :: rest).takeWhile Char.isDigit = digits := by
  refine ⟨(char :: rest).takeWhile Char.isDigit, (char :: rest).dropWhile Char.isDigit,
    List.takeWhile_append_dropWhile.symm, ?_, ?_, ?_, rfl⟩
  · simp [digit]
  · intro other member
    exact List.mem_takeWhile_imp member
  · intro other member
    have stopped := List.head?_dropWhile_not Char.isDigit (char :: rest)
    rw [Option.mem_def.mp member] at stopped
    exact stopped

theorem takeWhile_digits {digits rest : List Char}
    (areDigits : ∀ digit ∈ digits, digit.isDigit = true)
    (ends : ∀ char ∈ rest.head?, char.isDigit = false) :
    (digits ++ rest).takeWhile Char.isDigit = digits := by
  rw [List.takeWhile_append_of_pos areDigits]
  cases rest with
  | nil => simp
  | cons char rest => simp [ends char rfl]

theorem sees_glance (text : List Char) : Sees text (glance text) := by
  have split : text.takeWhile isBlank ++ text.dropWhile isBlank = text :=
    List.takeWhile_append_dropWhile
  have blank : Blank (text.takeWhile isBlank) := fun _ member => List.mem_takeWhile_imp member
  have stopped := List.head?_dropWhile_not isBlank text
  unfold glance
  generalize text.takeWhile isBlank = blanks at split blank
  generalize text.dropWhile isBlank = body at split stopped
  subst split
  cases body with
  | nil =>
      rw [List.append_nil]
      exact .ended blank
  | cons char rest =>
      by_cases digit : char.isDigit
      · obtain ⟨digits, behind, shape, nonempty, areDigits, ends, taken⟩ := digits_split rest digit
        simp only [digit, if_true, taken]
        rw [shape, ← List.append_assoc]
        cases read : Numeral.read? digits with
        | some value => exact .integer blank nonempty areDigits ends read
        | none => exact .outOfRange blank nonempty areDigits ends read
      · simp only [digit, Bool.false_eq_true, if_false]
        cases found : Lexeme.ofChar? char with
        | some lexeme => exact .symbol blank found
        | none => exact .unexpected blank stopped (by simpa using digit) found

theorem Sees.ends {text : List Char} {token : Token} {length : Nat}
    (sees : Sees text ⟨.ok token, length⟩) (ends : token.lexeme = .endOfInput) :
    token.pos = text.length ∧ length = text.length := by
  cases sees with
  | ended => exact ⟨rfl, rfl⟩
  | integer => cases ends
  | symbol _ found =>
      dsimp only at ends
      subst ends
      simp [Lexeme.of_char_eq_some_iff] at found

theorem Sees.within {text : List Char} {token : Token} {length : Nat}
    (sees : Sees text ⟨.ok token, length⟩) :
    0 ≤ token.pos ∧ (token.lexeme ≠ .endOfInput → token.pos < length) := by
  cases sees with
  | ended => exact ⟨Int.natCast_nonneg _, fun inside => absurd rfl inside⟩
  | integer _ nonempty =>
      have long := List.length_pos_iff.mpr nonempty
      dsimp only
      omega
  | symbol =>
      dsimp only
      omega

theorem LexFault.pos_relocate (fault : LexFault) (place : Int → Int) :
    (fault.relocate place).pos = place fault.pos := by
  cases fault <;> rfl

theorem Sees.fault_within {text : List Char} {fault : LexFault} {length : Nat}
    (sees : Sees text ⟨.error fault, length⟩) : 0 ≤ fault.pos := by
  cases sees <;> exact Int.natCast_nonneg _

theorem Sees.parentheses {text : List Char} {token : Token} {length : Nat}
    (sees : Sees text ⟨.ok token, length⟩) :
    (text.drop length).count '(' + [token.lexeme].count .leftParen ≤ text.count '(' := by
  cases sees with
  | ended => simp
  | @integer blanks digits rest =>
      have behind : (blanks ++ digits ++ rest).drop (blanks.length + digits.length) = rest := by
        rw [← List.length_append, List.drop_left]
      rw [behind]
      simp [List.count_append]
      omega
  | @symbol blanks rest char lexeme _ found =>
      have behind : (blanks ++ char :: rest).drop (blanks.length + 1) = rest := by
        simp [List.drop_append]
      rw [behind]
      simp only [List.count_append, List.count_cons, List.count_nil]
      rcases Lexeme.of_char_eq_some_iff.mp found with ⟨rfl, rfl⟩ | ⟨rfl, rfl⟩ | ⟨op, rfl, rfl⟩
      · simp
      · simp
      · simp
        omega

namespace Lexer

theorem keeps_of_next {lexer after : Lexer} {reading : Reading}
    (read : lexer.next = (reading, after)) :
    after.text = lexer.text ∧ lexer.cursor ≤ after.cursor := by
  have text := lexer.next_text
  have onward := lexer.cursor_le_next
  rw [read] at text onward
  exact ⟨text, onward⟩

theorem sees_of_next {lexer after : Lexer} {token : Token}
    (read : lexer.next = (.ok token, after)) :
    ∃ seen length, Sees lexer.rest ⟨.ok seen, length⟩ ∧
      token = seen.relocate (· + lexer.origin) ∧ after = ⟨lexer.text, lexer.cursor + length⟩ := by
  have sees := sees_glance lexer.rest
  simp only [next, Prod.mk.injEq] at read
  obtain ⟨reading, moved⟩ := read
  generalize glance lexer.rest = seen at sees reading moved
  obtain ⟨_ | relative, length⟩ := seen
  · cases reading
  · cases reading
    exact ⟨relative, length, sees, rfl, moved.symm⟩

theorem sees_of_fault {lexer stopped : Lexer} {fault : LexFault}
    (read : lexer.next = (.error fault, stopped)) :
    ∃ seen length, Sees lexer.rest ⟨.error seen, length⟩ ∧
      fault = seen.relocate (· + lexer.origin) := by
  have sees := sees_glance lexer.rest
  simp only [next, Prod.mk.injEq] at read
  obtain ⟨reading, -⟩ := read
  generalize glance lexer.rest = seen at sees reading
  obtain ⟨relative | _, length⟩ := seen
  · cases reading
    exact ⟨relative, length, sees, rfl⟩
  · cases reading

theorem rest_length (lexer : Lexer) : lexer.origin + lexer.rest.length = lexer.text.length := by
  simp only [origin, rest, List.length_drop]
  omega

theorem next_end {lexer after : Lexer} {token : Token} (read : lexer.next = (.ok token, after))
    (ends : token.lexeme = .endOfInput) : token.pos = lexer.text.length ∧ after.rest = [] := by
  obtain ⟨seen, length, sees, rfl, rfl⟩ := sees_of_next read
  have length_eq := rest_length lexer
  obtain ⟨pos, rest_eq⟩ := sees.ends ends
  constructor
  · simp only [Token.relocate]
    omega
  · simp only [rest, List.length_drop, List.drop_eq_nil_iff] at rest_eq ⊢
    omega

theorem next_of_rest_nil {lexer : Lexer} (nothing : lexer.rest = []) :
    lexer.next = (.ok ⟨.endOfInput, lexer.text.length⟩, lexer) := by
  have length_eq := rest_length lexer
  rw [nothing, List.length_nil, Nat.add_zero] at length_eq
  simp [next, nothing, glance, Reading.relocate, Token.relocate, length_eq]

theorem le_next_pos {lexer after : Lexer} {token : Token}
    (read : lexer.next = (.ok token, after)) : (lexer.origin : Int) ≤ token.pos := by
  obtain ⟨seen, length, sees, rfl, rfl⟩ := sees_of_next read
  have low := sees.within.1
  simp only [Token.relocate]
  omega

theorem next_pos_lt {lexer after : Lexer} {token : Token} (read : lexer.next = (.ok token, after))
    (inside : token.lexeme ≠ .endOfInput) : token.pos < (after.origin : Int) := by
  have moved := next_cursor (congrArg Prod.fst read) inside
  rw [read] at moved
  obtain ⟨seen, length, sees, rfl, rfl⟩ := sees_of_next read
  have high := sees.within.2 inside
  simp only [Token.relocate, origin] at moved ⊢
  omega

theorem le_fault_pos {lexer stopped : Lexer} {fault : LexFault}
    (read : lexer.next = (.error fault, stopped)) : (lexer.origin : Int) ≤ fault.pos := by
  obtain ⟨seen, length, sees, rfl⟩ := sees_of_fault read
  have low := sees.fault_within
  rw [LexFault.pos_relocate]
  omega

theorem parentheses_of_next {lexer after : Lexer} {token : Token}
    (read : lexer.next = (.ok token, after)) :
    after.rest.count '(' + [token.lexeme].count .leftParen ≤ lexer.rest.count '(' := by
  obtain ⟨seen, length, sees, rfl, rfl⟩ := sees_of_next read
  have fewer := sees.parentheses
  rw [rest, List.drop_drop] at fewer
  exact fewer

theorem scan_induction {motive : Lexer → Scan → Prop}
    (failed : ∀ {lexer stopped fault}, lexer.next = (.error fault, stopped) →
      motive lexer ⟨[], some fault, stopped⟩)
    (ended : ∀ {lexer after token}, lexer.next = (.ok token, after) →
      token.lexeme = .endOfInput → motive lexer ⟨[token], none, after⟩)
    (passed : ∀ {lexer after token}, lexer.next = (.ok token, after) →
      token.lexeme ≠ .endOfInput → motive after after.scan →
        motive lexer { after.scan with tokens := token :: after.scan.tokens })
    (lexer : Lexer) : motive lexer lexer.scan := by
  induction left : lexer.remaining using Nat.strongRecOn generalizing lexer with
  | _ remaining ih =>
      match read : lexer.next with
      | (.error fault, stopped) =>
          rw [scan_of_fault read]
          exact failed read
      | (.ok token, after) =>
          rw [scan_of_token read]
          split
          · exact ended read ‹_›
          · rename_i inside
            have fewer := remaining_lt read inside
            exact passed read inside (ih after.remaining (left ▸ fewer) after rfl)

theorem le_pos_of_mem_scan (lexer : Lexer) :
    ∀ token ∈ lexer.scan.tokens, (lexer.origin : Int) ≤ token.pos := by
  refine scan_induction
    (motive := fun lexer scan => ∀ token ∈ scan.tokens, (lexer.origin : Int) ≤ token.pos)
    ?_ ?_ ?_ lexer
  · intro lexer stopped fault _ token member
    cases member
  · intro lexer after token read _ other member
    rw [List.mem_singleton.mp member]
    exact le_next_pos read
  · intro lexer after token read inside ih other member
    rcases List.mem_cons.mp member with rfl | member
    · exact le_next_pos read
    · have low := le_next_pos read
      have high := next_pos_lt read inside
      have behind := ih other member
      omega

theorem scan_sorted (lexer : Lexer) : lexer.scan.tokens.Pairwise (·.pos < ·.pos) := by
  refine scan_induction (motive := fun _ scan => scan.tokens.Pairwise (·.pos < ·.pos))
    ?_ ?_ ?_ lexer
  · intro lexer stopped fault _
    exact .nil
  · intro lexer after token _ _
    exact List.pairwise_singleton _ _
  · intro lexer after token read inside ih
    refine List.pairwise_cons.mpr ⟨?_, ih⟩
    intro other member
    have high := next_pos_lt read inside
    have behind := le_pos_of_mem_scan after other member
    omega

theorem le_pos_of_scan_fault (lexer : Lexer) :
    ∀ fault, lexer.scan.fault = some fault → (lexer.origin : Int) ≤ fault.pos := by
  refine scan_induction (motive := fun lexer scan => ∀ fault, scan.fault = some fault →
    (lexer.origin : Int) ≤ fault.pos) ?_ ?_ ?_ lexer
  · intro lexer stopped fault read _ none_eq
    cases none_eq
    exact le_fault_pos read
  · intro lexer after token _ _ fault failed
    cases failed
  · intro lexer after token read inside ih fault failed
    have low := le_next_pos read
    have high := next_pos_lt read inside
    have behind := ih fault failed
    omega

theorem pos_lt_of_fault (lexer : Lexer) :
    ∀ fault, lexer.scan.fault = some fault →
      ∀ token ∈ lexer.scan.tokens, token.pos < fault.pos := by
  refine scan_induction (motive := fun _ scan => ∀ fault, scan.fault = some fault →
    ∀ token ∈ scan.tokens, token.pos < fault.pos) ?_ ?_ ?_ lexer
  · intro lexer stopped fault _ _ _ token member
    cases member
  · intro lexer after token _ _ fault failed
    cases failed
  · intro lexer after token read inside ih fault failed other member
    rcases List.mem_cons.mp member with rfl | member
    · have high := next_pos_lt read inside
      have behind := le_pos_of_scan_fault after fault failed
      omega
    · exact ih fault failed other member

theorem pos_of_end (lexer : Lexer) :
    ∀ token ∈ lexer.scan.tokens, token.lexeme = .endOfInput → token.pos = lexer.text.length := by
  refine scan_induction
    (motive := fun lexer scan => ∀ token ∈ scan.tokens, token.lexeme = .endOfInput →
      token.pos = lexer.text.length) ?_ ?_ ?_ lexer
  · intro lexer stopped fault _ token member
    cases member
  · intro lexer after token read _ other member ends
    rw [List.mem_singleton.mp member] at ends ⊢
    exact (next_end read ends).1
  · intro lexer after token read inside ih other member ends
    rcases List.mem_cons.mp member with rfl | member
    · exact absurd ends inside
    · obtain ⟨_, _, _, _, rfl⟩ := sees_of_next read
      exact ih other member ends

theorem parentheses_of_scan (lexer : Lexer) :
    (lexer.scan.tokens.map Token.lexeme).count .leftParen ≤ lexer.rest.count '(' := by
  refine scan_induction
    (motive := fun lexer scan => (scan.tokens.map Token.lexeme).count .leftParen ≤
      lexer.rest.count '(') ?_ ?_ ?_ lexer
  · intro lexer stopped fault _
    exact Nat.zero_le _
  · intro lexer after token read _
    have fewer := parentheses_of_next read
    rw [List.map_singleton]
    omega
  · intro lexer after token read _ ih
    have fewer := parentheses_of_next read
    rw [List.map_cons, ← List.singleton_append, List.count_append]
    omega

end Lexer

theorem tokenize_eq_ok_iff {text : List Char} {tokens : List Token} :
    tokenize text = .ok tokens ↔
      (Lexer.scan ⟨text, 0⟩).fault = none ∧ (Lexer.scan ⟨text, 0⟩).tokens = tokens := by
  unfold tokenize Scan.result
  split <;> simp_all

theorem tokenize_eq_error_iff {text : List Char} {fault : LexFault} :
    tokenize text = .error fault ↔ (Lexer.scan ⟨text, 0⟩).fault = some fault := by
  unfold tokenize Scan.result
  split <;> simp_all

end Reckoner
