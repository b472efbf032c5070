import Reckoner.Proofs.Stream
import Mathlib

namespace Reckoner

namespace Lexer

variable {start : Nat} {apart lexer : Lexer}

/-- One lexer has a text of its own that is the end of the other's text, from a place on. Their
cursors are at the same character. -/
structure Follows (start : Nat) (apart lexer : Lexer) : Prop where
  within : start ≤ lexer.text.length
  text : apart.text = lexer.text.drop start
  cursor : lexer.cursor = start + apart.cursor

theorem Follows.rest (follows : Follows start apart lexer) : lexer.rest = apart.rest := by
  rw [Lexer.rest, Lexer.rest, follows.text, follows.cursor, List.drop_drop]

theorem Follows.origin (follows : Follows start apart lexer) :
    lexer.origin = start + apart.origin := by
  have within := follows.within
  simp only [Lexer.origin, follows.text, follows.cursor, List.length_drop]
  omega

theorem Follows.next (follows : Follows start apart lexer) :
    lexer.next.1 = apart.next.1.relocate (· + start) ∧ Follows start apart.next.2 lexer.next.2 := by
  refine ⟨?_, follows.within, follows.text, ?_⟩
  · simp only [Lexer.next, follows.rest, follows.origin, Reading.relocate_relocate]
    apply Reading.relocate_congr
    simp only [Function.comp_apply]
    omega
  · simp only [Lexer.next, follows.rest, follows.cursor, Nat.add_assoc]

theorem Follows.after (follows : Follows start apart lexer) (count : Nat) :
    Follows start (apart.after count) (lexer.after count) := by
  induction count with
  | zero => exact follows
  | succ count ih => exact ih.next.2

theorem Follows.outcome (follows : Follows start apart lexer) (count : Nat) :
    lexer.outcome count = (apart.outcome count).relocate (· + start) :=
  (follows.after count).next.1

theorem Follows.after_eq (follows : Follows start apart lexer) (count : Nat) :
    lexer.after count = ⟨lexer.text, start + (apart.after count).cursor⟩ := by
  rw [← (follows.after count).cursor, ← after_text lexer count]

theorem follows_drop {text : List Char} (within : start ≤ text.length) :
    Follows start ⟨text.drop start, 0⟩ ⟨text, start⟩ :=
  ⟨within, rfl, rfl⟩

theorem shifted_fault (fault : LexFault) (start : Nat) :
    let shifted := fault.relocate (· + start)
    shifted.char = fault.char ∧ shifted.pos = fault.pos + start ∧
      ∃ before behind, fault.message = before ++ toString fault.pos ++ behind ∧
        shifted.message = before ++ toString (fault.pos + start) ++ behind := by
  intro shifted
  have fault_eq : fault.relocate id = fault := by cases fault <;> rfl
  obtain ⟨before, behind, words⟩ := fault.message_relocate
  have message_eq := words id
  rw [fault_eq] at message_eq
  refine ⟨?_, fault.pos_relocate _, before, behind, message_eq, words _⟩
  cases fault <;> rfl

theorem after_of_nothing (nothing : lexer.rest = []) (count : Nat) : lexer.after count = lexer := by
  induction count with
  | zero => rfl
  | succ count ih => rw [Lexer.after, ih, next_of_rest_nil nothing]

theorem cursor_lt_of_token {token : Token} (read : lexer.next.1 = .ok token)
    (inside : token.lexeme ≠ .endOfInput) : lexer.cursor < lexer.next.2.cursor :=
  (next_cursor read inside).1

theorem cursor_lt_of_out_of_range {digits : List Char} {pos : Int}
    (read : lexer.next.1 = .error (.outOfRange digits pos)) :
    lexer.cursor < lexer.next.2.cursor := by
  have sees := sees_glance lexer.rest
  simp only [Lexer.next] at read ⊢
  generalize lexer.rest = rest at sees read ⊢
  generalize glance rest = seen at sees read ⊢
  cases sees with
  | ended | integer | symbol | unexpected => cases read
  | outOfRange _ nonempty =>
      have long := List.length_pos_iff.mpr nonempty
      dsimp only
      omega

end Lexer

namespace Feed

variable {request : Request}

theorem exists_after_of_serve (feed : Feed) (noSeek : ∀ cursor, request ≠ .seek cursor) :
    ∃ made, (feed.serve request).2.lexer = feed.lexer.after made := by
  obtain ⟨made, reply, after, served, -⟩ := answers_of_serve feed.lexer 0 feed.closed noSeek
  rw [Nat.zero_add] at served
  exact ⟨made, congrArg (·.2.lexer) served⟩

theorem text_of_serve (feed : Feed) (request : Request) :
    (feed.serve request).2.lexer.text = feed.lexer.text := by
  by_cases seeks : ∃ cursor, request = .seek cursor
  · obtain ⟨cursor, rfl⟩ := seeks
    rfl
  · obtain ⟨made, reached⟩ := feed.exists_after_of_serve (not_exists.mp seeks)
    rw [reached, Lexer.after_text]

theorem text_of_leave (feed : Feed) (requests : List Request) :
    (feed.leave requests).lexer.text = feed.lexer.text := by
  induction requests generalizing feed with
  | nil => rfl
  | cons request requests ih => exact (ih _).trans (feed.text_of_serve request)

theorem cursor_le_of_serve (feed : Feed) (noSeek : ∀ cursor, request ≠ .seek cursor) :
    feed.lexer.cursor ≤ (feed.serve request).2.lexer.cursor := by
  obtain ⟨made, reached⟩ := feed.exists_after_of_serve noSeek
  rw [reached]
  exact Lexer.after_cursor_mono feed.lexer (Nat.zero_le made)

end Feed

/-- From any cursor in a text the readings are those of the rest of the text, and every place that a
token, a fault or a message names is further on by the cursor, as is every cursor that follows. Past
the end nothing but the end of input is read, and the cursor stays. No reading moves it back, and
tokens and digits that are out of range move it on. The cursors of a session are of this kind,
wherever it seeks. -/
theorem Lexer.reads_behind_cursor (text : List Char) (start : Nat) :
    let lexer : Lexer := ⟨text, start⟩
    let apart : Lexer := ⟨text.drop start, 0⟩
    (start ≤ text.length → ∀ count,
      lexer.outcome count = (apart.outcome count).relocate (· + start) ∧
      lexer.after count = ⟨text, start + (apart.after count).cursor⟩ ∧
      ∀ fault, apart.outcome count = .error fault →
        ∃ shifted before behind, lexer.outcome count = .error shifted ∧
          shifted.char = fault.char ∧ shifted.pos = fault.pos + start ∧
          fault.message = before ++ toString fault.pos ++ behind ∧
          shifted.message = before ++ toString (fault.pos + start) ++ behind) ∧
    (text.length < start → ∀ count,
      lexer.outcome count = .ok ⟨.endOfInput, text.length⟩ ∧ lexer.after count = lexer) ∧
    (∀ count,
      (lexer.after count).cursor ≤ (lexer.after (count + 1)).cursor ∧
      (∀ token, lexer.outcome count = .ok token → token.lexeme ≠ .endOfInput →
        (lexer.after count).cursor < (lexer.after (count + 1)).cursor) ∧
      ∀ digits pos, lexer.outcome count = .error (.outOfRange digits pos) →
        (lexer.after count).cursor < (lexer.after (count + 1)).cursor) ∧
    ∀ requests request,
      let feed := Feed.leave ⟨⟨text, 0⟩, false⟩ requests
      feed.lexer = ⟨text, feed.lexer.cursor⟩ ∧
        ((∀ cursor, request ≠ .seek cursor) →
          feed.lexer.cursor ≤ (feed.serve request).2.lexer.cursor) := by
  intro lexer apart
  refine ⟨fun within count => ?_, fun past count => ?_, fun count => ⟨?_, ?_, ?_⟩, ?_⟩
  · have follows := follows_drop within
    have shifted := follows.outcome count
    refine ⟨shifted, follows.after_eq count, fun fault failed => ?_⟩
    obtain ⟨char, pos, before, behind, message, words⟩ := shifted_fault fault start
    rw [failed] at shifted
    exact ⟨_, before, behind, shifted, char, pos, message, words⟩
  · have nothing : lexer.rest = [] := List.drop_of_length_le (Nat.le_of_lt past)
    have stays := after_of_nothing nothing count
    refine ⟨?_, stays⟩
    rw [Lexer.outcome, stays, next_of_rest_nil nothing]
  · exact cursor_le_next _
  · exact fun token read inside => cursor_lt_of_token read inside
  · exact fun digits pos read => cursor_lt_of_out_of_range read
  · intro requests request feed
    have text_eq : feed.lexer.text = text := Feed.text_of_leave _ requests
    exact ⟨by rw [← text_eq], feed.cursor_le_of_serve⟩

theorem Lexer.reads_behind_cursor_in_numeral :
    let text := "99999999999999999999 $".toList
    let lexer : Lexer := ⟨text, 18⟩
    18 ≤ text.length ∧ lexer.outcome 0 = .ok ⟨.integer 99, 18⟩ ∧
      (lexer.after 0).cursor < (lexer.after 1).cursor ∧
      lexer.outcome 1 = .error (.unexpected '$' 21) ∧ lexer.after 2 = ⟨text, 21⟩ ∧
      Lexer.outcome ⟨text, 23⟩ 5 = .ok ⟨.endOfInput, 22⟩ := by
  intro text lexer
  have within : 18 ≤ text.length := by decide
  have rest : text.drop 18 = "99 $".toList := by decide
  obtain ⟨behind, -, onward, -⟩ := reads_behind_cursor text 18
  have past := (reads_behind_cursor text 23).2.1 (by decide) 5
  have first : Lexer.outcome ⟨"99 $".toList, 0⟩ 0 = .ok ⟨.integer 99, 0⟩ := by cbv
  have second : Lexer.outcome ⟨"99 $".toList, 0⟩ 1 = .error (.unexpected '$' 3) := by cbv
  have left : (Lexer.after ⟨"99 $".toList, 0⟩ 2).cursor = 3 := by cbv
  rw [rest] at behind
  have read : lexer.outcome 0 = .ok ⟨.integer 99, 18⟩ := by
    rw [(behind within 0).1, first]
    rfl
  refine ⟨within, read, (onward 0).2.1 _ read (by simp), ?_, ?_, past.1⟩
  · rw [(behind within 1).1, second]
    rfl
  · rw [(behind within 2).2.1, left]

end Reckoner
