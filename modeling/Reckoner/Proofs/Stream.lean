import Reckoner.Lexer.Feed
import Reckoner.Lexer.Outcomes
import Reckoner.Proofs.Recovery
import Mathlib

/-!
One lexer read in several ways. Every request takes the next readings of one sequence, those of the
text, and the cursor is where as many readings have left it (`Shares`). A request is answered from
its readings alone (`answers_of_serve`). Behind the end of input and behind an unexpected character
the sequence stands still, and it goes on behind digits that are out of range (`session_stream`).
-/

namespace Reckoner

namespace Lexer

variable {lexer : Lexer} {index other : Nat}

@[simp] theorem after_text (lexer : Lexer) (count : Nat) :
    (lexer.after count).text = lexer.text := by
  induction count with
  | zero => rfl
  | succ count ih => rw [after, next_text, ih]

theorem outcome_of_end {token : Token} (read : lexer.outcome index = .ok token)
    (ends : token.lexeme = .endOfInput) (behind : index ≤ other) :
    lexer.outcome other = .ok ⟨.endOfInput, lexer.text.length⟩ := by
  induction behind with
  | refl =>
      have place := (next_end (Prod.ext read rfl) ends).1
      rw [after_text] at place
      rw [read, ← ends, ← place]
  | step _ ih =>
      have nothing := (next_end (Prod.ext ih rfl) rfl).2
      rw [outcome, after, next_of_rest_nil nothing, next_text, after_text]

theorem outcome_of_unexpected {char : Char} {pos : Int}
    (read : lexer.outcome index = .error (.unexpected char pos)) (behind : index ≤ other) :
    lexer.outcome other = .error (.unexpected char pos) := by
  induction behind with
  | refl => exact read
  | step _ ih => exact congrArg Prod.fst (next_of_unexpected (Prod.ext ih rfl))

theorem digits_of_out_of_range {digits : List Char} {pos : Int}
    (read : lexer.outcome index = .error (.outOfRange digits pos)) :
    digits ≠ [] ∧ ∀ digit ∈ digits, digit.isDigit = true := by
  obtain ⟨seen, length, sees, fault_eq⟩ := sees_of_fault (Prod.ext read rfl)
  generalize (lexer.after index).rest = rest at sees
  cases sees with
  | unexpected => cases fault_eq
  | outOfRange _ nonempty areDigits =>
      cases fault_eq
      exact ⟨nonempty, areDigits⟩

theorem outcome_of_out_of_range {text digits : List Char} {pos : Int}
    (read : Lexer.outcome ⟨text, 0⟩ index = .error (.outOfRange digits pos)) :
    ∃ front behind, text = front ++ (digits ++ behind) ∧ pos = front.length ∧
      (∀ digit ∈ digits, digit.isDigit = true) ∧
      (∀ char ∈ behind.head?, char.isDigit = false) ∧
      ∀ more, Lexer.outcome ⟨text, 0⟩ (index + 1 + more) =
        Lexer.outcome ⟨text, front.length + digits.length⟩ more := by
  obtain ⟨nonempty, areDigits⟩ := digits_of_out_of_range read
  obtain ⟨front, behind, literal, place⟩ := exists_literal read
  obtain ⟨cursor, -, reached⟩ := exists_cursor text (index + 1)
  have passed : cursor = front.length + digits.length := by
    rw [← literal.passed, reached]
  have broken : Broken (front ++ digits) behind := by
    have cut := broken_of_after reached
    rwa [passed, literal.shape, ← List.append_assoc, ← List.length_append, List.take_left,
      List.drop_left] at cut
  have last := areDigits _ (List.getLast_mem nonempty)
  refine ⟨front, behind, literal.shape, place, areDigits, ?_, fun more => ?_⟩
  · exact broken.of_append _ (List.getLast?_eq_getLast_of_ne_nil nonempty) last
  · rw [outcome_add, reached, passed]

end Lexer

namespace Feed

variable {request : Request} {requests : List Request}

/-- What a drain gathers from its readings. The last of them is the end of input or a fault, and a
fault leaves nothing of the tokens in front of it. -/
inductive Drains : List Reading → Except LexFault (List Token) → Prop where
  | ended {token : Token} : token.lexeme = .endOfInput → Drains [.ok token] (.ok [token])
  | failed (fault : LexFault) : Drains [.error fault] (.error fault)
  | passed {token : Token} {readings : List Reading} {result : Except LexFault (List Token)} :
      token.lexeme ≠ .endOfInput → Drains readings result →
        Drains (.ok token :: readings) (result.map (token :: ·))

/-- How a request is answered from the readings that it takes. The flag tells before and behind it
whether the stream has ended. -/
inductive Answers : Bool → Request → List Reading → Reply → Bool → Prop where
  | next (closed : Bool) (reading : Reading) :
      Answers closed .next [reading] (.reading reading) closed
  | pull (reading : Reading) : Answers false .pull [reading] (.reading reading) (!continues reading)
  | exhausted : Answers true .pull [] .exhausted true
  | restart (closed : Bool) : Answers closed .restart [] .done false
  | drain (closed : Bool) {readings : List Reading} {result : Except LexFault (List Token)} :
      Drains readings result → Answers closed .drain readings (.drained result) closed

def taken (lexer : Lexer) (count made : Nat) : List Reading :=
  (List.range' count made).map lexer.outcome

/-- The steps of a session that shares the readings of one lexer, with the number of readings made
before it. -/
inductive Shares (lexer : Lexer) : Nat → Bool → List Request → List (Reply × Feed) → Prop where
  | nil {count : Nat} {closed : Bool} : Shares lexer count closed [] []
  | cons {count made : Nat} {closed after : Bool} {request : Request} {requests : List Request}
      {reply : Reply} {steps : List (Reply × Feed)} :
      Answers closed request (taken lexer count made) reply after →
        Shares lexer (count + made) after requests steps →
          Shares lexer count closed (request :: requests)
            ((reply, ⟨lexer.after (count + made), after⟩) :: steps)

theorem result_cons (token : Token) (scan : Scan) :
    Scan.result { scan with tokens := token :: scan.tokens } = scan.result.map (token :: ·) := by
  rcases scan with ⟨tokens, _ | fault, stopped⟩ <;> rfl

theorem drains_of_scan (lexer : Lexer) (count : Nat) :
    ∃ made, (lexer.after count).scan.stopped = lexer.after (count + made) ∧
      Drains (taken lexer count made) (lexer.after count).scan.result := by
  -- The scan goes on from the next reading, so the number of readings before it has to vary.
  refine Lexer.scan_induction (motive := fun current scan => ∀ count, lexer.after count = current →
    ∃ made, scan.stopped = lexer.after (count + made) ∧ Drains (taken lexer count made) scan.result)
    ?_ ?_ ?_ (lexer.after count) count rfl
  · rintro _ stopped fault read count rfl
    have reading : lexer.outcome count = .error fault := congrArg Prod.fst read
    refine ⟨1, (congrArg Prod.snd read).symm, ?_⟩
    rw [taken, List.range'_one, List.map_singleton, reading]
    exact .failed fault
  · rintro _ after token read ends count rfl
    have reading : lexer.outcome count = .ok token := congrArg Prod.fst read
    refine ⟨1, (congrArg Prod.snd read).symm, ?_⟩
    rw [taken, List.range'_one, List.map_singleton, reading]
    exact .ended ends
  · rintro _ after token read inside ih count rfl
    have reading : lexer.outcome count = .ok token := congrArg Prod.fst read
    obtain ⟨made, stopped, drains⟩ := ih (count + 1) (congrArg Prod.snd read)
    refine ⟨made + 1, ?_, ?_⟩
    · rw [stopped, Nat.add_assoc, Nat.add_comm 1]
    · rw [taken, List.range'_succ, List.map_cons, reading, result_cons]
      exact .passed inside drains

theorem answers_of_serve (lexer : Lexer) (count : Nat) (closed : Bool)
    (noSeek : ∀ cursor, request ≠ .seek cursor) :
    ∃ made reply after,
      serve ⟨lexer.after count, closed⟩ request = (reply, ⟨lexer.after (count + made), after⟩) ∧
        Answers closed request (taken lexer count made) reply after := by
  cases request with
  | next => exact ⟨1, _, closed, rfl, .next closed _⟩
  | pull =>
      cases closed with
      | false => exact ⟨1, _, _, rfl, .pull _⟩
      | true => exact ⟨0, _, true, rfl, .exhausted⟩
  | restart => exact ⟨0, _, false, rfl, .restart closed⟩
  | drain =>
      obtain ⟨made, stopped, drains⟩ := drains_of_scan lexer count
      refine ⟨made, _, closed, ?_, .drain closed drains⟩
      rw [← stopped]
      rfl
  | seek cursor => exact absurd rfl (noSeek cursor)

theorem shares_of_session (lexer : Lexer) (count : Nat) (closed : Bool)
    (noSeek : ∀ cursor, .seek cursor ∉ requests) :
    Shares lexer count closed requests (serveAll ⟨lexer.after count, closed⟩ requests) := by
  induction requests generalizing count closed with
  | nil => exact .nil
  | cons request requests ih =>
      obtain ⟨made, reply, after, served, answers⟩ := answers_of_serve lexer count closed
        fun cursor seek_eq => noSeek cursor (seek_eq ▸ List.mem_cons_self)
      rw [serveAll, Session.serveAll, served]
      exact .cons answers
        (ih _ _ fun cursor member => noSeek cursor (List.mem_cons_of_mem _ member))

section

variable {feed : Feed}

theorem serve_pull_of_closed (closed : feed.closed = true) :
    feed.serve .pull = (.exhausted, feed) := by
  simp [serve, pull, closed]

theorem closed_of_pull {reading : Reading} (pulled : (feed.serve .pull).1 = .reading reading)
    (ended : continues reading = false) : (feed.serve .pull).2.closed = true := by
  cases before : feed.closed with
  | true =>
      rw [serve_pull_of_closed before] at pulled
      cases pulled
  | false =>
      simp only [serve, pull, before, Bool.false_eq_true, if_false] at pulled ⊢
      cases pulled
      rw [ended]
      rfl

theorem closed_of_serve (closed : feed.closed = true) (kept : request ≠ .restart) :
    (feed.serve request).2.closed = true := by
  cases request with
  | restart => exact absurd rfl kept
  | pull => rwa [serve_pull_of_closed closed]
  | next | drain | seek => exact closed

theorem closed_of_leave (closed : feed.closed = true) (kept : .restart ∉ requests) :
    (feed.leave requests).closed = true := by
  induction requests generalizing feed with
  | nil => exact closed
  | cons request requests ih =>
      rw [List.mem_cons, not_or] at kept
      exact ih (closed_of_serve closed (Ne.symm kept.1)) kept.2

end

/-- Whatever mix of requests reads a text, each of them takes the next readings of the text, and
the cursor is where so many readings have left it. A stream that has ended takes none. Behind the
end of input and behind an unexpected character the readings stay the same, and they go on behind
digits that are out of range. -/
theorem session_stream (text : List Char) (requests : List Request)
    (noSeek : ∀ cursor, .seek cursor ∉ requests) :
    let stream := Lexer.outcome ⟨text, 0⟩
    Shares ⟨text, 0⟩ 0 false requests (serveAll ⟨⟨text, 0⟩, false⟩ requests) ∧
    (∀ before between reading,
      ((leave ⟨⟨text, 0⟩, false⟩ before).serve .pull).1 = .reading reading →
        continues reading = false → .restart ∉ between →
          let ended := leave ⟨⟨text, 0⟩, false⟩ (before ++ .pull :: between)
          ended.serve .pull = (.exhausted, ended)) ∧
    (∀ index token, stream index = .ok token → token.lexeme = .endOfInput →
      ∀ other, index ≤ other → stream other = .ok ⟨.endOfInput, text.length⟩) ∧
    (∀ index char pos, stream index = .error (.unexpected char pos) →
      ∀ other, index ≤ other → stream other = .error (.unexpected char pos)) ∧
    ∀ index digits pos, stream index = .error (.outOfRange digits pos) →
      ∃ front behind, text = front ++ (digits ++ behind) ∧ pos = front.length ∧
        (∀ digit ∈ digits, digit.isDigit = true) ∧
        (∀ char ∈ behind.head?, char.isDigit = false) ∧
        ∀ more, stream (index + 1 + more) =
          Lexer.outcome ⟨text, front.length + digits.length⟩ more := by
  refine ⟨shares_of_session ⟨text, 0⟩ 0 false noSeek, ?_, ?_, ?_, ?_⟩
  · intro before between reading pulled ended kept
    have closed := closed_of_leave (closed_of_pull pulled ended) kept
    rw [leave, Session.leave_append]
    exact serve_pull_of_closed closed
  · exact fun index token read ends other => Lexer.outcome_of_end read ends
  · exact fun index char pos read other => Lexer.outcome_of_unexpected read
  · exact fun index digits pos => Lexer.outcome_of_out_of_range

theorem session_stream_over_digits :
    let text := "7 8 99999999999999999999+".toList
    let requests : List Request := [.pull, .drain, .next, .drain, .pull, .pull]
    let steps := serveAll ⟨⟨text, 0⟩, false⟩ requests
    (∀ cursor, .seek cursor ∉ requests) ∧ Shares ⟨text, 0⟩ 0 false requests steps ∧
      steps.map (·.2.lexer.cursor) = [1, 24, 25, 25, 25, 25] := by
  have noSeek : ∀ cursor, .seek cursor ∉
      ([.pull, .drain, .next, .drain, .pull, .pull] : List Request) := by simp
  exact ⟨noSeek, (session_stream _ _ noSeek).1, by cbv⟩

end Feed
end Reckoner
