import Reckoner.Lexer.Outcomes
import Reckoner.Proofs.Parsing

/-!
Sessions of a parser. A request takes tokens from the lexer into the lookahead, one by one
(`Fetches`), and a lexical fault leaves the lookahead where it was (`leaves_of_serve`). So at any
point of a session the lookahead is a reading of the text, and only faults have been read behind it
(`stands_of_session`).
-/

namespace Reckoner.Parser

def fault? {α : Type} : Except ParseFault α → Option ParseFault
  | .ok _ => none
  | .error fault => some fault

def Reply.fault? : Reply → Option ParseFault
  | tree result => Parser.fault? result
  | token result => Parser.fault? result
  | _ => none

def Reply.IsLexical (reply : Reply) : Prop := ∃ fault, reply.fault? = some (.lexical fault)

inductive Fetches : Parser → Parser → Prop where
  | nothing {parser after : Parser} : after.lexer = parser.lexer →
      after.lookahead = parser.lookahead → Fetches parser after
  | token {parser next after : Parser} :
      parser.lexer.next = (.ok next.lookahead, next.lexer) → Fetches next after →
        Fetches parser after

/-- What a parser leaves behind with a fault or with none. On a fault of the text the lookahead is
the last token that could be read. An unexpected token is the lookahead. -/
inductive Leaves (parser : Parser) : Option ParseFault → Parser → Prop where
  | quiet {fault? : Option ParseFault} {after : Parser} : Fetches parser after →
      (∀ fault, fault? ≠ some (.lexical fault)) →
        (∀ expected found pos, fault? = some (.unexpected expected found pos) →
          after.lookahead.kind = found ∧ after.lookahead.pos = pos) →
          Leaves parser fault? after
  | lexical {reached after : Parser} {fault : LexFault} : Fetches parser reached →
      reached.lexer.next = (.error fault, after.lexer) →
        after.lookahead = reached.lookahead → Leaves parser (some (.lexical fault)) after

section

variable {parser reached after : Parser} {goal : Phrase} {state last : Assembly}

theorem Fetches.refl (parser : Parser) : Fetches parser parser := .nothing rfl rfl

theorem Fetches.trans (first : Fetches parser reached) (second : Fetches reached after) :
    Fetches parser after := by
  induction first with
  | token next _ ih => exact .token next (ih second)
  | nothing lexer lookahead =>
      cases second with
      | nothing lexer_eq lookahead_eq =>
          exact .nothing (lexer_eq.trans lexer) (lookahead_eq.trans lookahead)
      | token next rest => exact .token (lexer ▸ next) rest

theorem Onward.fetches (onward : Onward parser after) : Fetches parser after :=
  .token onward.next (.refl after)

theorem Uses.fetches {used : List Token} (uses : Uses goal parser state used reached last) :
    Fetches parser reached := by
  induction uses with
  | nothing => exact .refl _
  | token goes _ ih => exact .token goes.onward.next ih

theorem Leaves.behind {fault? : Option ParseFault} (fetches : Fetches parser reached)
    (leaves : Leaves reached fault? after) : Leaves parser fault? after := by
  cases leaves with
  | quiet further silent found => exact .quiet (fetches.trans further) silent found
  | lexical further read lookahead_eq => exact .lexical (fetches.trans further) read lookahead_eq

theorem Leaves.fetches (leaves : Leaves parser none after) : Fetches parser after := by
  cases leaves with
  | quiet fetches => exact fetches

theorem leaves_of_stops {result : Except ParseFault Tree}
    (stops : Stops goal parser state result after) : Leaves parser (fault? result) after := by
  cases stops with
  | finish => exact .quiet (.refl parser) nofun nofun
  | refuse =>
      refine .quiet (.refl parser) nofun ?_
      intro expected found pos reported
      cases reported
      exact ⟨rfl, rfl⟩
  | lexical _ read => exact .lexical (.refl parser) read rfl
  | nesting _ onward => exact .quiet (onward.fetches.trans (.nothing rfl rfl)) nofun nofun
  | noLimit _ onward => exact .quiet (onward.fetches.trans (.nothing rfl rfl)) nofun nofun

theorem leaves_of_run (goal : Phrase) (parser : Parser) (state : Assembly) :
    Leaves parser (fault? (parser.run goal state).1) (parser.run goal state).2 := by
  obtain ⟨used, reached, last, uses, stops⟩ := uses_of_run goal parser state
  exact (leaves_of_stops stops).behind uses.fetches

theorem leaves_of_advance (parser : Parser) :
    Leaves parser (fault? parser.advance.1) parser.advance.2 := by
  rcases advanced : parser.advance with ⟨token | fault, after⟩
  · obtain ⟨lexical, lexer, rfl, read, rfl⟩ := fault_of_advance advanced
    exact .lexical (.refl parser) read rfl
  · exact .quiet (onward_of_advance advanced).2.fetches nofun nofun

theorem leaves_of_expect (parser : Parser) (kind : Kind) :
    Leaves parser (fault? (parser.expect kind).1) (parser.expect kind).2 := by
  unfold expect
  split
  · exact leaves_of_advance parser
  · refine .quiet (.refl parser) nofun ?_
    intro expected found pos reported
    cases reported
    exact ⟨rfl, rfl⟩

theorem leaves_of_parse (parser : Parser) :
    Leaves parser (fault? parser.parse.1) parser.parse.2 := by
  have begun := leaves_of_run .expression parser .start
  unfold parse phrase
  rcases read : parser.run .expression .start with ⟨fault | tree, reached⟩
  · rw [read] at begun
    exact begun
  · rw [read] at begun
    have ended := (leaves_of_expect reached .endOfInput).behind begun.fetches
    dsimp only
    cases closed : (reached.expect .endOfInput).1 <;> rw [closed] at ended <;> exact ended

theorem leaves_of_serve (parser : Parser) (request : Request) :
    Leaves parser (parser.serve request).1.fault? (parser.serve request).2 := by
  cases request with
  | parse => exact leaves_of_parse parser
  | phrase goal => exact leaves_of_run goal parser .start
  | advance => exact leaves_of_advance parser
  | expect kind => exact leaves_of_expect parser kind
  | atOperator => exact .quiet (.refl parser) nofun nofun
  | setMaxNesting => exact .quiet (.nothing rfl rfl) nofun nofun

end

/-- The lookahead is the reading at an index, and the readings from there to a count have been made,
all of them faults. -/
structure Stands (lexer : Lexer) (index count : Nat) (parser : Parser) : Prop where
  read : parser.lexer = lexer.after count
  passed : index < count
  lookahead : lexer.outcome index = .ok parser.lookahead
  faults : ∀ other, index < other → other < count → ∃ fault, lexer.outcome other = .error fault

section

variable {lexer : Lexer} {index count : Nat} {parser after : Parser}

theorem stands_of_start {text : List Char} {maxNesting : Option Int} {stopped : Lexer}
    (started : start text maxNesting = (.ok parser, stopped)) : Stands ⟨text, 0⟩ 0 1 parser := by
  unfold start at started
  split at started
  · rename_i token stopped next
    cases started
    refine ⟨(congrArg Prod.snd next).symm, Nat.one_pos, congrArg Prod.fst next, ?_⟩
    intro other above below
    omega
  · cases started

theorem Stands.fetches (stands : Stands lexer index count parser)
    (fetches : Fetches parser after) :
    ∃ further total, index ≤ further ∧ Stands lexer further total after ∧
      (count = index + 1 → total = further + 1) := by
  induction fetches generalizing index count with
  | nothing lexer_eq lookahead_eq =>
      exact ⟨index, count, Nat.le_refl index,
        ⟨lexer_eq.trans stands.read, stands.passed, lookahead_eq ▸ stands.lookahead,
          stands.faults⟩, id⟩
  | @token parser next after read _ ih =>
      rw [stands.read] at read
      have onward : Stands lexer count (count + 1) next := by
        refine ⟨(congrArg Prod.snd read).symm, Nat.lt_succ_self count, congrArg Prod.fst read, ?_⟩
        intro other above below
        omega
      obtain ⟨further, total, low, reached, close⟩ := ih onward
      exact ⟨further, total, Nat.le_trans (Nat.le_of_lt stands.passed) low, reached,
        fun _ => close rfl⟩

theorem Stands.fault (stands : Stands lexer index count parser) {fault : LexFault}
    (read : parser.lexer.next = (.error fault, after.lexer))
    (lookahead_eq : after.lookahead = parser.lookahead) :
    lexer.outcome count = .error fault ∧ Stands lexer index (count + 1) after := by
  rw [stands.read] at read
  have failed : lexer.outcome count = .error fault := congrArg Prod.fst read
  refine ⟨failed, (congrArg Prod.snd read).symm, Nat.lt_succ_of_lt stands.passed,
    lookahead_eq ▸ stands.lookahead, ?_⟩
  intro other above below
  rcases Nat.lt_succ_iff_lt_or_eq.mp below with within | rfl
  · exact stands.faults other above within
  · exact ⟨fault, failed⟩

theorem Stands.leaves (stands : Stands lexer index count parser) {fault? : Option ParseFault}
    (leaves : Leaves parser fault? after) :
    ∃ further total, index ≤ further ∧ Stands lexer further total after ∧
      ((∀ fault, fault? ≠ some (.lexical fault)) → count = index + 1 → total = further + 1) ∧
        ∀ fault, fault? = some (.lexical fault) →
          ∃ read, total = read + 1 ∧ further < read ∧ lexer.outcome read = .error fault := by
  cases leaves with
  | quiet fetches silent =>
      obtain ⟨further, total, low, reached, close⟩ := stands.fetches fetches
      exact ⟨further, total, low, reached, fun _ => close, fun fault reported =>
        absurd reported (silent fault)⟩
  | @lexical reached after fault fetches read lookahead_eq =>
      obtain ⟨further, total, low, reached, -⟩ := stands.fetches fetches
      obtain ⟨failed, ended⟩ := reached.fault read lookahead_eq
      refine ⟨further, total + 1, low, ended, fun silent => absurd rfl (silent fault), ?_⟩
      rintro _ ⟨⟩
      exact ⟨total, rfl, reached.passed, failed⟩

theorem Stands.leave (stands : Stands lexer index count parser) (requests : List Request) :
    ∃ further total, index ≤ further ∧ Stands lexer further total (parser.leave requests) ∧
      ((∀ step ∈ parser.serveAll requests, ¬ step.1.IsLexical) →
        count = index + 1 → total = further + 1) := by
  induction requests generalizing parser index count with
  | nil => exact ⟨index, count, Nat.le_refl index, stands, fun _ => id⟩
  | cons request requests ih =>
      obtain ⟨middle, read, low, answered, quiet, -⟩ :=
        stands.leaves (leaves_of_serve parser request)
      obtain ⟨further, total, high, reached, close⟩ := ih answered
      refine ⟨further, total, Nat.le_trans low high, reached, fun silent begun => ?_⟩
      refine close (fun step member => silent step (List.mem_cons_of_mem _ member)) (quiet ?_ begun)
      exact fun fault reported => silent _ List.mem_cons_self ⟨fault, reported⟩

theorem stands_of_session {text : List Char} {maxNesting : Option Int} {stopped : Lexer}
    (started : start text maxNesting = (.ok parser, stopped)) (requests : List Request) :
    ∃ index count, Stands ⟨text, 0⟩ index count (parser.leave requests) ∧
      ((∀ step ∈ parser.serveAll requests, ¬ step.1.IsLexical) → count = index + 1) := by
  obtain ⟨index, count, -, stands, close⟩ := (stands_of_start started).leave requests
  exact ⟨index, count, stands, fun silent => close silent rfl⟩

end

end Reckoner.Parser
