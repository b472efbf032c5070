import Reckoner.Lexer.Outcomes
import Reckoner.Parser
import Mathlib.Data.List.Forall2

/-!
Readings at other places. Two lexers are alike when they read the same tokens and faults for ever,
at places that a map takes to each other. Parsers over such lexers answer every session alike
(`serveAll_alike`), and so do the parses of two texts (`parse_of_alike`).
-/

namespace Reckoner

variable {place : Int → Int}

/-- Every reading of one lexer is a reading of the other at another place. -/
def Lexer.Alike (place : Int → Int) (lexer other : Lexer) : Prop :=
  ∀ index, other.outcome index = (lexer.outcome index).relocate place

namespace Lexer

variable {lexer other : Lexer}

theorem Alike.reading (alike : Alike place lexer other) :
    other.next.1 = lexer.next.1.relocate place :=
  alike 0

theorem Alike.next (alike : Alike place lexer other) : Alike place lexer.next.2 other.next.2 := by
  intro index
  rw [← outcome_succ, ← outcome_succ]
  exact alike (index + 1)

theorem alike_of_kept {kept : Lexer → Lexer → Prop}
    (step : ∀ {lexer other}, kept lexer other →
      other.next.1 = lexer.next.1.relocate place ∧ kept lexer.next.2 other.next.2)
    (begun : kept lexer other) : Alike place lexer other := by
  intro index
  induction index generalizing lexer other with
  | zero => exact (step begun).1
  | succ index ih =>
      rw [outcome_succ, outcome_succ]
      exact ih (step begun).2

end Lexer

namespace Parser

def Reply.relocate (place : Int → Int) : Reply → Reply
  | tree result => tree (result.mapError (·.relocate place))
  | token result => token ((result.map (·.relocate place)).mapError (·.relocate place))
  | flag on => flag on
  | done => done

structure Alike (place : Int → Int) (parser other : Parser) : Prop where
  lexer : parser.lexer.Alike place other.lexer
  lookahead : other.lookahead = parser.lookahead.relocate place
  depth : other.depth = parser.depth
  maxNesting : other.maxNesting = parser.maxNesting

section

variable {parser other : Parser}

theorem advance_alike (alike : Alike place parser other) :
    other.advance.1 =
        (parser.advance.1.map (·.relocate place)).mapError (·.relocate place) ∧
      Alike place parser.advance.2 other.advance.2 := by
  have reading := alike.lexer.reading
  have behind := alike.lexer.next
  unfold advance
  rcases read : parser.lexer.next with ⟨seen, lexer⟩
  rcases readOther : other.lexer.next with ⟨image, further⟩
  rw [read, readOther] at reading behind
  cases reading
  cases seen with
  | ok token =>
      exact ⟨congrArg Except.ok alike.lookahead, behind, rfl, alike.depth, alike.maxNesting⟩
  | error fault => exact ⟨rfl, behind, alike.lookahead, alike.depth, alike.maxNesting⟩

theorem unexpected_alike (alike : Alike place parser other) (expected : Expected) :
    other.unexpected expected = (parser.unexpected expected).relocate place := by
  simp [unexpected, alike.lookahead, Token.relocate, Token.kind, ParseFault.relocate]

theorem expect_alike (alike : Alike place parser other) (kind : Kind) :
    (other.expect kind).1 =
        ((parser.expect kind).1.map (·.relocate place)).mapError (·.relocate place) ∧
      Alike place (parser.expect kind).2 (other.expect kind).2 := by
  have kind_eq : other.lookahead.kind = parser.lookahead.kind := by
    rw [alike.lookahead]
    rfl
  unfold expect
  rw [kind_eq]
  split
  · exact advance_alike alike
  · exact ⟨congrArg Except.error (unexpected_alike alike _), alike⟩

end

end Parser

inductive Progress.Alike (place : Int → Int) : Progress → Progress → Prop where
  | more {parser other : Parser} {state : Assembly} :
      Parser.Alike place parser other → Alike place (.more parser state) (.more other state)
  | done {parser other : Parser} {result : Except ParseFault Tree} :
      Parser.Alike place parser other →
        Alike place (.done result parser) (.done (result.mapError (·.relocate place)) other)

namespace Parser

section

variable {parser other : Parser}

theorem enter_alike (alike : Alike place parser other) (pos : Int) (state : Assembly) :
    Progress.Alike place (parser.enter pos state) (other.enter (place pos) state) := by
  unfold enter
  rw [alike.maxNesting, alike.depth]
  split
  · exact .done ⟨alike.lexer, alike.lookahead, rfl, rfl⟩
  · split
    · exact .done ⟨alike.lexer, alike.lookahead, rfl, rfl⟩
    · exact .more alike

theorem step_alike (goal : Phrase) (alike : Alike place parser other) (state : Assembly) :
    Progress.Alike place (parser.step goal state) (other.step goal state) := by
  have lexeme : other.lookahead.lexeme = parser.lookahead.lexeme := by
    rw [alike.lookahead]
    rfl
  have onward := advance_alike alike
  unfold step
  rw [lexeme]
  rcases advanced : parser.advance with ⟨result, after⟩
  rcases advancedOther : other.advance with ⟨image, further⟩
  rw [advanced, advancedOther] at onward
  obtain ⟨rfl, behind⟩ := onward
  cases state.move goal parser.lookahead.lexeme with
  | finish tree => exact .done alike
  | refuse expected =>
      have unexpected_eq := unexpected_alike alike expected
      dsimp only
      rw [unexpected_eq]
      exact .done alike
  | take next =>
      cases result with
      | ok token => exact .more behind
      | error fault => exact .done behind
  | enter next =>
      cases result with
      | ok token => exact enter_alike behind token.pos next
      | error fault => exact .done behind

theorem run_alike (goal : Phrase) (alike : Alike place parser other) (state : Assembly) :
    (other.run goal state).1 = (parser.run goal state).1.mapError (·.relocate place) ∧
      Alike place (parser.run goal state).2 (other.run goal state).2 := by
  induction left : parser.ahead using Nat.strongRecOn generalizing parser other state with
  | _ ahead ih =>
      have steps := step_alike goal alike state
      cases progress : parser.step goal state with
      | done result after =>
          rw [progress] at steps
          generalize progressOther : other.step goal state = image at steps
          cases steps with
          | done behind =>
              rw [run_of_done progress, run_of_done progressOther]
              exact ⟨rfl, behind⟩
      | more after next =>
          rw [progress] at steps
          generalize progressOther : other.step goal state = image at steps
          cases steps with
          | more behind =>
              rw [run_of_more progress, run_of_more progressOther]
              exact ih after.ahead (left ▸ ahead_lt_of_step progress) behind next rfl

theorem parse_alike (alike : Alike place parser other) :
    other.parse.1 = parser.parse.1.mapError (·.relocate place) ∧
      Alike place parser.parse.2 other.parse.2 := by
  have phrases := run_alike .expression alike .start
  unfold parse phrase
  rcases read : parser.run .expression .start with ⟨result, after⟩
  rcases readOther : other.run .expression .start with ⟨image, further⟩
  rw [read, readOther] at phrases
  obtain ⟨rfl, behind⟩ := phrases
  cases result with
  | error fault => exact ⟨rfl, behind⟩
  | ok tree =>
      obtain ⟨closed, ended⟩ := expect_alike behind .endOfInput
      refine ⟨?_, ended⟩
      dsimp only [Except.mapError] at closed ⊢
      rw [closed]
      cases (after.expect .endOfInput).1 <;> rfl

theorem serve_alike (alike : Alike place parser other) (request : Request) :
    (other.serve request).1 = (parser.serve request).1.relocate place ∧
      Alike place (parser.serve request).2 (other.serve request).2 := by
  cases request with
  | parse =>
      obtain ⟨reply_eq, behind⟩ := parse_alike alike
      exact ⟨congrArg Reply.tree reply_eq, behind⟩
  | phrase goal =>
      obtain ⟨reply_eq, behind⟩ := run_alike goal alike .start
      exact ⟨congrArg Reply.tree reply_eq, behind⟩
  | advance =>
      obtain ⟨reply_eq, behind⟩ := advance_alike alike
      exact ⟨congrArg Reply.token reply_eq, behind⟩
  | expect kind =>
      obtain ⟨reply_eq, behind⟩ := expect_alike alike kind
      exact ⟨congrArg Reply.token reply_eq, behind⟩
  | atOperator symbols =>
      have reply_eq : other.atOperator symbols = parser.atOperator symbols := by
        simp [atOperator, alike.lookahead, Token.relocate]
      exact ⟨congrArg Reply.flag reply_eq, alike⟩
  | setMaxNesting limit => exact ⟨rfl, alike.lexer, alike.lookahead, alike.depth, rfl⟩

theorem serveAll_alike (alike : Alike place parser other) (requests : List Request) :
    List.Forall₂ (fun step image => image.1 = step.1.relocate place ∧ Alike place step.2 image.2)
      (parser.serveAll requests) (other.serveAll requests) := by
  induction requests generalizing parser other with
  | nil => exact .nil
  | cons request requests ih =>
      have answered := serve_alike alike request
      exact .cons answered (ih answered.2)

end

end Parser

end Reckoner
