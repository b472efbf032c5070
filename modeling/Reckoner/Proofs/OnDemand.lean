import Reckoner.Proofs.Layout
import Reckoner.Proofs.Session
import Mathlib

/-!
Reading on demand. A reading is decided by the characters up to the one that stands at the cursor
behind it (`glance_shared`), and the cursor never goes back. So a parse that has failed in front of
the end of its text fails in the same way on every text that goes on differently
(`parse_on_demand`).
-/

namespace Reckoner

/-- Two texts with the same characters up to an index, which lies inside of the first. -/
structure Shared (bound : Nat) (text other : List Char) : Prop where
  inside : bound < text.length
  take_eq : other.take (bound + 1) = text.take (bound + 1)

section

variable {bound lower cursor : Nat} {text other front rest : List Char} {seen : Glance}

theorem Shared.mono (shared : Shared bound text other) (low : lower ≤ bound) :
    Shared lower text other := by
  refine ⟨Nat.lt_of_le_of_lt low shared.inside, ?_⟩
  have shorter : min (lower + 1) (bound + 1) = lower + 1 := by omega
  calc
    other.take (lower + 1) = (other.take (bound + 1)).take (lower + 1) := by
      rw [List.take_take, shorter]
    _ = (text.take (bound + 1)).take (lower + 1) := by rw [shared.take_eq]
    _ = text.take (lower + 1) := by rw [List.take_take, shorter]

theorem Shared.drop (shared : Shared (cursor + bound) text other) :
    Shared bound (text.drop cursor) (other.drop cursor) := by
  have inside := shared.inside
  refine ⟨by rw [List.length_drop]; omega, ?_⟩
  have ends : cursor + bound + 1 = bound + 1 + cursor := by omega
  rw [List.take_drop, List.take_drop, ← Nat.add_assoc, shared.take_eq]

theorem Shared.split (shared : Shared front.length (front ++ rest) other) :
    ∃ next tail more, rest = next :: tail ∧ other = front ++ next :: more := by
  obtain ⟨inside, take_eq⟩ := shared
  cases rest with
  | nil => simp at inside
  | cons next tail =>
      refine ⟨next, tail, other.drop (front.length + 1), rfl, ?_⟩
      calc
        other = other.take (front.length + 1) ++ other.drop (front.length + 1) :=
          (List.take_append_drop _ _).symm
        _ = front ++ next :: other.drop (front.length + 1) := by
          rw [take_eq]
          simp [List.take_append]

theorem Sees.glance_eq (sees : Sees text seen) : glance text = seen := by
  cases sees with
  | ended blank => exact glance_of_blank blank
  | integer blank nonempty areDigits ends read | outOfRange blank nonempty areDigits ends read =>
      obtain ⟨digit, digits, rfl⟩ := List.exists_cons_of_ne_nil nonempty
      have decimal := areDigits digit List.mem_cons_self
      have visible := is_blank_eq_false_of_is_digit decimal
      have taken := takeWhile_digits areDigits ends
      rw [List.append_assoc, glance_behind_blanks blank]
      rw [List.cons_append] at taken ⊢
      simp [glance, visible, decimal, taken, read, Reading.relocate, Token.relocate,
        LexFault.relocate]
  | @symbol blanks rest char lexeme blank found =>
      have class_ : isBlank char = false ∧ char.isDigit = false := by
        rcases Lexeme.of_char_eq_some_iff.mp found with ⟨rfl, -⟩ | ⟨rfl, -⟩ | ⟨op, rfl, -⟩
        · decide
        · decide
        · exact op.symbol_class
      rw [glance_behind_blanks blank]
      simp [glance, class_.1, class_.2, found, Reading.relocate, Token.relocate]
  | unexpected blank visible other none =>
      rw [glance_behind_blanks blank]
      simp [glance, visible, other, none, Reading.relocate, LexFault.relocate]

theorem glance_shared (shared : Shared (glance text).length text other) :
    glance other = glance text := by
  have sees := sees_glance text
  generalize glance text = seen at sees shared
  apply Sees.glance_eq
  cases sees with
  | ended =>
      -- The end of input uses up the whole text, so that no further character is shared.
      exact absurd shared.inside (Nat.lt_irrefl _)
  | integer blank nonempty areDigits ends read =>
      rw [← List.length_append] at shared
      obtain ⟨next, tail, more, rfl, rfl⟩ := shared.split
      exact .integer blank nonempty areDigits (fun char first => ends char first) read
  | outOfRange blank nonempty areDigits ends read =>
      rw [← List.length_append] at shared
      obtain ⟨next, tail, more, rfl, rfl⟩ := shared.split
      exact .outOfRange blank nonempty areDigits (fun char first => ends char first) read
  | @symbol blanks rest char lexeme blank found =>
      have further : Shared (blanks ++ [char]).length ((blanks ++ [char]) ++ rest) other := by
        simpa using shared
      obtain ⟨next, tail, more, rfl, rfl⟩ := further.split
      rw [List.append_assoc, List.singleton_append]
      exact .symbol blank found
  | unexpected blank visible digit none =>
      obtain ⟨next, tail, more, ⟨⟩, rfl⟩ := shared.split
      exact .unexpected blank visible digit none

end

def Lexer.switch (lexer : Lexer) (text : List Char) : Lexer := { lexer with text }

theorem Lexer.next_switch {bound : Nat} {lexer after : Lexer} {other : List Char}
    {reading : Reading} (shared : Shared bound lexer.text other)
    (read : lexer.next = (reading, after)) (low : after.cursor ≤ bound) :
    (lexer.switch other).next = (reading, after.switch other) := by
  obtain ⟨rfl, rfl⟩ := Prod.mk.inj read
  have onward := Nat.le_trans lexer.cursor_le_next low
  have origin : (lexer.switch other).origin = lexer.origin := by
    have inside := shared.inside
    have long := congrArg List.length shared.take_eq
    simp only [List.length_take] at long
    simp only [Lexer.origin, switch]
    omega
  have glance_eq : glance (lexer.switch other).rest = glance lexer.rest :=
    glance_shared (shared.mono low).drop
  rw [next, origin, glance_eq]
  rfl

namespace Parser

def switch (parser : Parser) (text : List Char) : Parser :=
  { parser with lexer := parser.lexer.switch text }

section

variable {bound : Nat} {other : List Char} {goal : Phrase} {parser after reached : Parser}
  {state last : Assembly} {used : List Token} {result : Except ParseFault Tree}

theorem Fetches.keeps (fetches : Fetches parser after) :
    after.lexer.text = parser.lexer.text ∧ parser.lexer.cursor ≤ after.lexer.cursor := by
  induction fetches with
  | nothing lexer_eq =>
      exact ⟨congrArg Lexer.text lexer_eq, Nat.le_of_eq (congrArg Lexer.cursor lexer_eq.symm)⟩
  | token read _ ih =>
      obtain ⟨text, onward⟩ := Lexer.keeps_of_next read
      exact ⟨ih.1.trans text, Nat.le_trans onward ih.2⟩

theorem Leaves.keeps {fault? : Option ParseFault} (leaves : Leaves parser fault? after) :
    after.lexer.text = parser.lexer.text ∧ parser.lexer.cursor ≤ after.lexer.cursor := by
  cases leaves with
  | quiet fetches => exact fetches.keeps
  | lexical fetches read =>
      obtain ⟨text, onward⟩ := Lexer.keeps_of_next read
      exact ⟨text.trans fetches.keeps.1, Nat.le_trans fetches.keeps.2 onward⟩

theorem Onward.switch (onward : Onward parser after) (shared : Shared bound parser.lexer.text other)
    (low : after.lexer.cursor ≤ bound) : Onward (parser.switch other) (after.switch other) :=
  ⟨Lexer.next_switch shared onward.next low, onward.depth, onward.maxNesting⟩

theorem Uses.switch (uses : Uses goal parser state used reached last)
    (shared : Shared bound parser.lexer.text other) (low : reached.lexer.cursor ≤ bound) :
    Uses goal (parser.switch other) state used (reached.switch other) last := by
  induction uses with
  | nothing => exact .nothing
  | token goes rest ih =>
      -- The bound on the last cursor is one on every cursor before it.
      have below := Nat.le_trans rest.fetches.keeps.2 low
      have onward := goes.onward.switch shared below
      rw [← goes.onward.fetches.keeps.1] at shared
      exact .token ⟨goes.passes, onward, goes.room⟩ (ih shared low)

theorem Stops.switch (stops : Stops goal parser state result after)
    (shared : Shared bound parser.lexer.text other) (low : after.lexer.cursor ≤ bound) :
    Stops goal (parser.switch other) state result (after.switch other) := by
  cases stops with
  | finish moved => exact .finish moved
  | refuse moved => exact .refuse moved
  | lexical passes read => exact .lexical passes (Lexer.next_switch shared read low)
  | @nesting next opened limit moved onward limited high =>
      have switched : Onward (parser.switch other) (opened.switch other) := onward.switch shared low
      have entered : state.move goal (parser.switch other).lookahead.lexeme = .enter next := moved
      exact .nesting entered switched limited high
  | @noLimit next opened moved onward unlimited =>
      have switched : Onward (parser.switch other) (opened.switch other) := onward.switch shared low
      have entered : state.move goal (parser.switch other).lookahead.lexeme = .enter next := moved
      exact .noLimit entered switched unlimited

theorem run_switch (shared : Shared bound parser.lexer.text other)
    (read : parser.run goal state = (result, after)) (low : after.lexer.cursor ≤ bound) :
    (parser.switch other).run goal state = (result, after.switch other) := by
  obtain ⟨used, reached, last, uses, stops⟩ := run_eq_iff.mp read
  have switched := uses.switch shared (Nat.le_trans (leaves_of_stops stops).keeps.2 low)
  rw [← uses.fetches.keeps.1] at shared
  exact run_eq_iff.mpr ⟨used, _, last, switched, stops.switch shared low⟩

theorem advance_switch {token : Except ParseFault Token}
    (shared : Shared bound parser.lexer.text other) (advanced : parser.advance = (token, after))
    (low : after.lexer.cursor ≤ bound) :
    (parser.switch other).advance = (token, after.switch other) := by
  cases token with
  | ok token =>
      obtain ⟨rfl, onward⟩ := onward_of_advance advanced
      exact advance_of_onward (onward.switch shared low)
  | error fault =>
      obtain ⟨lexical, lexer, rfl, read, rfl⟩ := fault_of_advance advanced
      exact advance_of_next_fault (Lexer.next_switch shared read low)

theorem expect_switch {kind : Kind} {token : Except ParseFault Token}
    (shared : Shared bound parser.lexer.text other) (expected : parser.expect kind = (token, after))
    (low : after.lexer.cursor ≤ bound) :
    (parser.switch other).expect kind = (token, after.switch other) := by
  by_cases kind_eq : parser.lookahead.kind = kind
  · rw [expect, if_pos kind_eq] at expected
    exact (if_pos kind_eq).trans (advance_switch shared expected low)
  · rw [expect, if_neg kind_eq] at expected
    cases expected
    exact if_neg kind_eq

theorem parse_switch (shared : Shared bound parser.lexer.text other)
    (parsed : parser.parse = (result, after)) (low : after.lexer.cursor ≤ bound) :
    (parser.switch other).parse = (result, after.switch other) := by
  have begun := (leaves_of_run .expression parser .start).keeps
  rcases read : parser.run .expression .start with ⟨fault | tree, reached⟩
  · rw [parse, phrase, read] at parsed
    cases parsed
    rw [parse, phrase, run_switch shared read low]
  · rw [read] at begun
    have ended := (leaves_of_expect reached .endOfInput).keeps
    rcases closed : reached.expect .endOfInput with ⟨token, last⟩
    rw [closed] at ended
    rw [parse, phrase, read] at parsed
    simp only [closed] at parsed
    cases parsed
    have switched := run_switch shared read (Nat.le_trans ended.2 low)
    rw [← begun.1] at shared
    simp only [parse, phrase, switched, expect_switch shared closed low]

end

end Parser

/-- A parse that fails in front of the end of a text fails in the same way, and with the cursor at
the same place, on every text that shares the characters up to the one at the cursor. -/
theorem parse_on_demand {text other : List Char} {limit : Option Int} {fault : ParseFault}
    {stopped : Lexer} (failed : parseUpTo text limit = (.error fault, stopped))
    (inside : stopped.cursor < text.length)
    (take_eq : other.take (stopped.cursor + 1) = text.take (stopped.cursor + 1)) :
    parseUpTo other limit = (.error fault, ⟨other, stopped.cursor⟩) := by
  have shared : Shared stopped.cursor text other := ⟨inside, take_eq⟩
  rcases read : Lexer.next ⟨text, 0⟩ with ⟨lexical | token, lexer⟩
  · rw [parseUpTo, Parser.start, read] at failed
    cases failed
    have switched : Lexer.next ⟨other, 0⟩ = _ := Lexer.next_switch shared read (Nat.le_refl _)
    rw [parseUpTo, Parser.start, switched]
    rfl
  · rcases parsed : Parser.parse ⟨lexer, token, 0, limit⟩ with ⟨result, after⟩
    have keeps := (Parser.leaves_of_parse ⟨lexer, token, 0, limit⟩).keeps
    rw [parsed] at keeps
    rw [parseUpTo, Parser.start, read] at failed
    simp only [parsed] at failed
    cases failed
    have switched : Lexer.next ⟨other, 0⟩ = _ := Lexer.next_switch shared read keeps.2
    have kept : lexer.text = text := (Lexer.keeps_of_next read).1
    rw [← kept] at shared
    have parsed : Parser.parse ⟨lexer.switch other, token, 0, limit⟩ = _ :=
      Parser.parse_switch shared parsed (Nat.le_refl _)
    simp only [parseUpTo, Parser.start, switched, parsed]
    rfl

/-- Digits that are out of range end where the blank behind them is read. No parenthesis is refused
before that, and nothing behind the blank makes a difference. -/
theorem parse_on_demand_digits :
    let text := "7+(99999999999999999999 $".toList
    let other := "7+(99999999999999999999 )) 1".toList
    let fault := ParseFault.lexical (.outOfRange "99999999999999999999".toList 3)
    parseUpTo text (some 0) = (.error fault, ⟨text, 23⟩) ∧ 23 < text.length ∧
      other.take 24 = text.take 24 ∧ parseUpTo other (some 0) = (.error fault, ⟨other, 23⟩) := by
  have failed : parseUpTo "7+(99999999999999999999 $".toList (some 0) =
      (.error (.lexical (.outOfRange "99999999999999999999".toList 3)),
        ⟨"7+(99999999999999999999 $".toList, 23⟩) := by cbv
  have inside : 23 < "7+(99999999999999999999 $".toList.length := by cbv
  have take_eq : "7+(99999999999999999999 )) 1".toList.take 24 =
      "7+(99999999999999999999 $".toList.take 24 := by cbv
  exact ⟨failed, inside, take_eq, parse_on_demand failed inside take_eq⟩

end Reckoner
