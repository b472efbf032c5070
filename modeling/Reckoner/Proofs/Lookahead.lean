import Reckoner.Proofs.Recovery
import Reckoner.Proofs.Session
import Mathlib

/-!
The lookahead in a session of a parser. Tokens go through it in the order of the text and none is
left out, until a fault of the text is reported. Then the session halts at an unexpected character,
or skips digits that are out of range (`session_lookahead`).
-/

namespace Reckoner.Parser

/-- The fault that is read leaves the cursor where it is. -/
def Stuck (fault : LexFault) (parser : Parser) : Prop :=
  parser.lexer.next = (.error fault, parser.lexer)

def Request.Tries (kind : Kind) : Request → Prop
  | parse => kind = .integer ∨ kind = .leftParen
  | phrase _ => kind = .integer ∨ kind = .leftParen
  | advance => True
  | expect wanted => kind = wanted
  | atOperator _ => False
  | setMaxNesting _ => False

section

variable {fault : LexFault} {parser reached after : Parser}

theorem Stuck.fetches (stuck : Stuck fault parser) (fetches : Fetches parser after) :
    after.lexer = parser.lexer ∧ after.lookahead = parser.lookahead := by
  cases fetches with
  | nothing lexer_eq lookahead_eq => exact ⟨lexer_eq, lookahead_eq⟩
  | token read =>
      rw [stuck] at read
      cases read

theorem Stuck.leaves (stuck : Stuck fault parser) {fault? : Option ParseFault}
    (leaves : Leaves parser fault? after) :
    (after.lexer = parser.lexer ∧ after.lookahead = parser.lookahead) ∧
      ∀ other, fault? = some (.lexical other) → other = fault := by
  cases leaves with
  | quiet fetches silent =>
      exact ⟨stuck.fetches fetches, fun other reported => absurd reported (silent other)⟩
  | lexical fetches read lookahead_eq =>
      obtain ⟨lexer, lookahead⟩ := stuck.fetches fetches
      rw [lexer, stuck] at read
      obtain ⟨fault_eq, lexer_eq⟩ := Prod.mk.inj read
      refine ⟨⟨lexer_eq.symm, lookahead_eq.trans lookahead⟩, ?_⟩
      rintro _ ⟨⟩
      exact (Except.error.inj fault_eq).symm

theorem Stuck.leave (stuck : Stuck fault parser) (requests : List Request) :
    (parser.leave requests).lexer = parser.lexer ∧
      (parser.leave requests).lookahead = parser.lookahead := by
  induction requests generalizing parser with
  | nil => exact ⟨rfl, rfl⟩
  | cons request requests ih =>
      obtain ⟨⟨lexer, lookahead⟩, -⟩ := stuck.leaves (leaves_of_serve parser request)
      have remains : Stuck fault (parser.serve request).2 := by rwa [Stuck, lexer]
      obtain ⟨lexer_eq, lookahead_eq⟩ := ih remains
      exact ⟨lexer_eq.trans lexer, lookahead_eq.trans lookahead⟩

theorem Stuck.advance (stuck : Stuck fault parser) :
    parser.advance = (.error (.lexical fault), parser) := by
  rw [Parser.advance, stuck]

theorem Stuck.run (stuck : Stuck fault parser) (goal : Phrase) :
    parser.run goal .start =
      if parser.lookahead.kind = .integer ∨ parser.lookahead.kind = .leftParen then
        (.error (.lexical fault), parser)
      else (.error (parser.unexpected .operand), parser) := by
  apply run_of_done
  unfold step
  rw [stuck.advance]
  unfold Token.kind
  cases parser.lookahead.lexeme <;> rfl

theorem Stuck.parse (stuck : Stuck fault parser) :
    parser.parse = parser.run .expression .start := by
  unfold Parser.parse phrase
  rw [stuck.run]
  by_cases first : parser.lookahead.kind = .integer ∨ parser.lookahead.kind = .leftParen
  · rw [if_pos first]
  · rw [if_neg first]

theorem Stuck.run_fault (stuck : Stuck fault parser) (goal : Phrase) :
    fault? (parser.run goal .start).1 = some (.lexical fault) ↔
      parser.lookahead.kind = .integer ∨ parser.lookahead.kind = .leftParen := by
  rw [stuck.run]
  split
  · rename_i first
    exact ⟨fun _ => first, fun _ => rfl⟩
  · rename_i first
    exact ⟨nofun, fun tries => absurd tries first⟩

theorem Stuck.serve (stuck : Stuck fault parser) (request : Request) :
    (parser.serve request).1.fault? = some (.lexical fault) ↔
      request.Tries parser.lookahead.kind := by
  cases request with
  | parse =>
      change fault? parser.parse.1 = _ ↔ _
      rw [stuck.parse]
      exact stuck.run_fault .expression
  | phrase goal => exact stuck.run_fault goal
  | advance =>
      change fault? parser.advance.1 = _ ↔ True
      rw [stuck.advance]
      exact ⟨fun _ => trivial, fun _ => rfl⟩
  | expect kind =>
      change fault? (parser.expect kind).1 = _ ↔ parser.lookahead.kind = kind
      unfold expect
      rw [stuck.advance]
      split
      · rename_i kind_eq
        exact ⟨fun _ => kind_eq, fun _ => rfl⟩
      · rename_i kind_ne
        exact ⟨nofun, fun kind_eq => absurd kind_eq kind_ne⟩
  | atOperator => exact ⟨nofun, nofun⟩
  | setMaxNesting => exact ⟨nofun, nofun⟩

/-- Nothing is read any more: the lookahead and the cursor stay whatever is requested, and every
request that needs a token reports the same fault. -/
def Halts (fault : LexFault) (parser : Parser) : Prop :=
  ∀ (requests : List Request) (request : Request),
    let later := parser.leave requests
    let reply := (later.serve request).1
    later.lookahead = parser.lookahead ∧ later.lexer = parser.lexer ∧
      (request.Tries parser.lookahead.kind → reply.fault? = some (.lexical fault)) ∧
        (¬ request.Tries parser.lookahead.kind → ¬ reply.IsLexical)

theorem halts_of_stuck (stuck : Stuck fault parser) : Halts fault parser := by
  intro requests request later reply
  obtain ⟨lexer, lookahead⟩ := stuck.leave requests
  have remains : Stuck fault later := by rwa [Stuck, lexer]
  have answered := remains.serve request
  rw [lookahead] at answered
  refine ⟨lookahead, lexer, answered.mpr, ?_⟩
  rintro idle ⟨other, reported⟩
  have fault_eq := (remains.leaves (leaves_of_serve later request)).2 other reported
  exact idle (answered.mp (fault_eq ▸ reported))

theorem Leaves.halts {char : Char} {pos : Int}
    (leaves : Leaves parser (some (.lexical (.unexpected char pos))) after) :
    Halts (.unexpected char pos) after := by
  cases leaves with
  | quiet _ silent => exact absurd rfl (silent _)
  | lexical _ read => exact halts_of_stuck (Lexer.next_of_unexpected read)

end

def shiftBehind (start : Nat) (shift pos : Int) : Int := if pos < start then pos else pos + shift

/-- What a session shows of a request: the reply and the state behind it, apart from the lexer. -/
def seen (step : Reply × Parser) : Reply × Token × Nat × Option Int :=
  (step.1, step.2.lookahead, step.2.depth, step.2.maxNesting)

/-- Digits that are out of range have been read since the lookahead was. What follows is the same,
at other places, as for a parser in that state that has read as much of the text with blanks for the
digits. With as many blanks as digits the places are the same too. -/
def Skips (text digits : List Char) (pos : Int) (parser : Parser) : Prop :=
  ∃ front behind index count, text = front ++ digits ++ behind ∧ pos = front.length ∧
    Lexer.outcome ⟨text, 0⟩ count = .error (.outOfRange digits pos) ∧ index < count ∧
    Stands ⟨text, 0⟩ index (count + 1) parser ∧
    ∀ blanks, Blank blanks →
      let cleared : Lexer := ⟨front ++ blanks ++ behind, 0⟩
      let other : Parser := { parser with lexer := cleared.after count }
      let place := shiftBehind front.length (blanks.length - digits.length)
      (∀ earlier < count, cleared.outcome earlier = Lexer.outcome ⟨text, 0⟩ earlier) ∧
      ∀ requests,
        List.Forall₂
            (fun step image => image.1 = step.1.relocate place ∧ Alike place step.2 image.2)
            (parser.serveAll requests) (other.serveAll requests) ∧
          (blanks.length = digits.length →
            (other.serveAll requests).map seen = (parser.serveAll requests).map seen)

theorem Reply.relocate_id (reply : Reply) : reply.relocate id = reply := by
  rcases reply with (fault | tree) | (fault | token) | on | _
  · exact congrArg (fun told => Reply.tree (.error told)) fault.relocate_id
  · rfl
  · exact congrArg (fun told => Reply.token (.error told)) fault.relocate_id
  · rfl
  · rfl
  · rfl

theorem seen_of_alike {parser other : Parser} (alike : Alike id parser other)
    (requests : List Request) :
    (other.serveAll requests).map seen = (parser.serveAll requests).map seen := by
  apply Eq.symm
  rw [← List.forall₂_eq_eq_eq, List.forall₂_map_left_iff, List.forall₂_map_right_iff]
  refine (serveAll_alike alike requests).imp ?_
  rintro ⟨reply, after⟩ ⟨image, further⟩ ⟨answered, reached⟩
  obtain ⟨-, lookahead, depth, maxNesting⟩ := reached
  dsimp only at answered lookahead depth maxNesting
  rw [seen, seen, answered, lookahead, depth, maxNesting, reply.relocate_id]
  rfl

section

variable {text digits front behind : List Char} {parser : Parser} {index count : Nat}

theorem alike_of_literal (literal : Literal text count front digits behind)
    (stands : Stands ⟨text, 0⟩ index (count + 1) parser) (before : index < count)
    {blanks : List Char} (blank : Blank blanks) :
    Alike (shiftBehind front.length (blanks.length - digits.length)) parser
      { parser with lexer := (Lexer.mk (front ++ (blanks ++ behind)) 0).after count } where
  lexer := by
    rw [stands.read]
    refine Lexer.alike_of_trails (fun pos low => ?_) (literal.trails blank)
    exact if_neg (by push_cast at low; omega)
  lookahead := by
    have placed := (literal.outcome_eq [] before).2
    rw [stands.lookahead] at placed
    change parser.lookahead.pos < _ at placed
    rw [Token.relocate, shiftBehind, if_pos placed]
  depth := rfl
  maxNesting := rfl

theorem skips_of_fault {pos : Int}
    (failed : Lexer.outcome ⟨text, 0⟩ count = .error (.outOfRange digits pos))
    (before : index < count) (stands : Stands ⟨text, 0⟩ index (count + 1) parser) :
    Skips text digits pos parser := by
  obtain ⟨front, behind, literal, place⟩ := exists_literal failed
  refine ⟨front, behind, index, count, ?_, place, failed, before, stands, fun blanks blank => ?_⟩
  · rw [literal.shape, List.append_assoc]
  · have alike := alike_of_literal literal stands before blank
    rw [List.append_assoc]
    refine ⟨fun earlier low => (literal.outcome_eq _ low).1, fun requests =>
      ⟨serveAll_alike alike requests, fun even => seen_of_alike ?_ requests⟩⟩
    have shift_eq : shiftBehind front.length (blanks.length - digits.length) = id := by
      funext pos
      simp [shiftBehind, even]
    rwa [shift_eq] at alike

end

/-- The lookahead and all that the lexer reads behind it are the readings from an index on. -/
def Heads (lexer : Lexer) (index : Nat) (parser : Parser) : Prop :=
  lexer.outcome index = .ok parser.lookahead ∧
    ∀ more, parser.lexer.outcome more = lexer.outcome (index + 1 + more)

theorem Stands.heads {lexer : Lexer} {index : Nat} {parser : Parser}
    (stands : Stands lexer index (index + 1) parser) : Heads lexer index parser :=
  ⟨stands.lookahead, fun more => by rw [stands.read, Lexer.outcome_add]⟩

theorem Leaves.found {parser after : Parser} {expected : Expected} {found : Kind} {pos : Int}
    (leaves : Leaves parser (some (.unexpected expected found pos)) after) :
    after.lookahead.kind = found ∧ after.lookahead.pos = pos := by
  cases leaves with
  | quiet _ _ found => exact found expected _ _ rfl

theorem token_of_serve {parser : Parser} {request : Request} {token : Token}
    (answered : (parser.serve request).1 = .token (.ok token)) : token = parser.lookahead := by
  have handed : ∀ {result : Except ParseFault Token × Parser}, parser.advance = result →
      result.1 = .ok token → token = parser.lookahead := by
    rintro ⟨_, after⟩ advanced rfl
    exact (onward_of_advance advanced).1
  cases request with
  | parse | phrase | atOperator | setMaxNesting => cases answered
  | advance => exact handed rfl (Reply.token.inj answered)
  | expect kind =>
      have given : (parser.expect kind).1 = .ok token := Reply.token.inj answered
      unfold expect at given
      split at given
      · exact handed rfl given
      · cases given

/-- At any point of a session the lookahead and the readings behind it are the readings of the text
from some index on, which only grows, until a fault of the text is reported. What is handed out is
the lookahead. An unexpected token stays in the lookahead, and a check of its kind that fails
changes nothing. An unexpected character halts the session, digits that are out of range are
skipped. -/
theorem session_lookahead (text : List Char) (maxNesting : Option Int) {parser : Parser}
    {stopped : Lexer} (started : start text maxNesting = (.ok parser, stopped))
    (requests more : List Request) (request : Request) :
    let readings : Lexer := ⟨text, 0⟩
    let current := parser.leave requests
    let reply := (current.serve request).1
    let after := (current.serve request).2
    (parser.serveAll (requests ++ request :: more))[requests.length]? = some (reply, after) ∧
    ((∀ step ∈ parser.serveAll requests, ¬ step.1.IsLexical) →
      ∃ index, Heads readings index current ∧
        (¬ reply.IsLexical → ∃ further, index ≤ further ∧ Heads readings further after)) ∧
    (∀ token, reply = .token (.ok token) → token = current.lookahead) ∧
    (∀ expected found pos, reply.fault? = some (.unexpected expected found pos) →
      after.lookahead.kind = found ∧ after.lookahead.pos = pos) ∧
    (∀ kind, request = .expect kind → current.lookahead.kind ≠ kind →
      reply.fault? = some (current.unexpected (.kind kind)) ∧ after = current) ∧
    (∀ char pos, reply.fault? = some (.lexical (.unexpected char pos)) →
      Halts (.unexpected char pos) after) ∧
    ∀ digits pos, reply.fault? = some (.lexical (.outOfRange digits pos)) →
      Skips text digits pos after := by
  intro readings current reply after
  have leaves := leaves_of_serve current request
  obtain ⟨index, count, stands, close⟩ := stands_of_session started requests
  obtain ⟨further, total, low, reached, quiet, failed⟩ := stands.leaves leaves
  refine ⟨Session.getElem?_serveAll serve parser requests more request, fun silent => ?_, ?_, ?_,
    ?_, ?_, ?_⟩
  · obtain rfl := close silent
    refine ⟨index, stands.heads, fun answered => ⟨further, low, ?_⟩⟩
    obtain rfl := quiet (fun fault reported => answered ⟨fault, reported⟩) rfl
    exact reached.heads
  · exact fun token answered => token_of_serve answered
  · intro expected found pos reported
    rw [reported] at leaves
    exact leaves.found
  · rintro kind rfl other
    have refused : current.expect kind = (.error (current.unexpected (.kind kind)), current) :=
      if_neg other
    have told : fault? (current.expect kind).1 = some (current.unexpected (.kind kind)) := by
      rw [refused]
      rfl
    exact ⟨told, congrArg Prod.snd refused⟩
  · intro char pos reported
    rw [reported] at leaves
    exact leaves.halts
  · intro digits pos reported
    obtain ⟨read, rfl, before, fault⟩ := failed _ reported
    exact skips_of_fault fault before reached

theorem session_lookahead_over_digits :
    let text := "1 99999999999999999999+2".toList
    let parser : Parser := ⟨⟨text, 1⟩, ⟨.integer 1, 0⟩, 0, some 100⟩
    let after := (parser.serve .advance).2
    start text (some 100) = (.ok parser, ⟨text, 1⟩) ∧
      Skips text "99999999999999999999".toList 2 after ∧
      (after.serve .parse).1 = .tree (.ok (.bin .add (.num 1) (.num 2))) := by
  refine ⟨by cbv, ?_, by cbv⟩
  have started : start "1 99999999999999999999+2".toList (some 100) =
      (.ok ⟨⟨"1 99999999999999999999+2".toList, 1⟩, ⟨.integer 1, 0⟩, 0, some 100⟩,
        ⟨"1 99999999999999999999+2".toList, 1⟩) := by cbv
  obtain ⟨-, -, -, -, -, -, skips⟩ := session_lookahead _ _ started [] [] .advance
  exact skips _ _ (by cbv)

end Reckoner.Parser
