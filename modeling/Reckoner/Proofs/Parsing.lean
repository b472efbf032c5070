import Reckoner.Parser
import Reckoner.Proofs.Assembly
import Reckoner.Proofs.Lexing

/-!
Runs of the parser against the scan of its text. A run uses up tokens one by one (`Uses`) until it
stops in one of five ways (`Stops`), and these tell what it comes to (`run_eq_iff`). From the scan
alone `parse_outcome` tells how the parse of a whole text ends.
-/

namespace Reckoner

open Assembly

namespace Parser

def pending (parser : Parser) : Scan :=
  if parser.lookahead.lexeme = .endOfInput then ⟨[parser.lookahead], none, parser.lexer⟩
  else { parser.lexer.scan with tokens := parser.lookahead :: parser.lexer.scan.tokens }

/-- The lookahead was the last token to be read, as far as the end of input tells. -/
def Settled (parser : Parser) : Prop :=
  parser.lookahead.lexeme = .endOfInput → parser.lexer.rest = []

structure Onward (parser after : Parser) : Prop where
  next : parser.lexer.next = (.ok after.lookahead, after.lexer)
  depth : after.depth = parser.depth
  maxNesting : after.maxNesting = parser.maxNesting

theorem onward_of_advance {parser after : Parser} {token : Token}
    (advanced : parser.advance = (.ok token, after)) :
    token = parser.lookahead ∧ Onward parser after := by
  unfold advance at advanced
  split at advanced
  · rename_i read lexer next
    cases advanced
    exact ⟨rfl, next, rfl, rfl⟩
  · cases advanced

theorem fault_of_advance {parser after : Parser} {fault : ParseFault}
    (advanced : parser.advance = (.error fault, after)) :
    ∃ lexical lexer, fault = .lexical lexical ∧ parser.lexer.next = (.error lexical, lexer) ∧
      after = { parser with lexer } := by
  unfold advance at advanced
  split at advanced
  · cases advanced
  · rename_i lexical lexer next
    cases advanced
    exact ⟨lexical, lexer, rfl, next, rfl⟩

theorem Onward.settled {parser after : Parser} (onward : Onward parser after) : Settled after :=
  fun ends => (Lexer.next_end onward.next ends).2

theorem pending_of_next {lexer after : Lexer} {token : Token}
    (read : lexer.next = (.ok token, after)) (depth : Nat) (maxNesting : Option Int) :
    lexer.scan = pending ⟨after, token, depth, maxNesting⟩ :=
  Lexer.scan_of_token read

theorem Onward.pending {parser after : Parser} (onward : Onward parser after)
    (inside : parser.lookahead.lexeme ≠ .endOfInput) :
    parser.pending =
      { after.pending with tokens := parser.lookahead :: after.pending.tokens } := by
  have behind := pending_of_next onward.next after.depth after.maxNesting
  rw [Parser.pending, if_neg inside, behind]

theorem pending_of_end {parser : Parser} (ends : parser.lookahead.lexeme = .endOfInput) :
    parser.pending = ⟨[parser.lookahead], none, parser.lexer⟩ := by
  rw [pending, if_pos ends]

theorem pending_of_fault {parser : Parser} {fault : LexFault} {stopped : Lexer}
    (inside : parser.lookahead.lexeme ≠ .endOfInput)
    (read : parser.lexer.next = (.error fault, stopped)) :
    parser.pending = ⟨[parser.lookahead], some fault, stopped⟩ := by
  rw [pending, if_neg inside, Lexer.scan_of_fault read]

theorem pending_tokens (parser : Parser) :
    ∃ behind, parser.pending.tokens = parser.lookahead :: behind := by
  unfold pending
  split
  · exact ⟨[], rfl⟩
  · exact ⟨parser.lexer.scan.tokens, rfl⟩

def Admits (parser : Parser) (state : Assembly) : Prop :=
  ∃ limit, parser.maxNesting = some limit ∧ (parser.depth + state.nesting : Int) ≤ limit

structure Goes (goal : Phrase) (parser : Parser) (state : Assembly) (after : Parser)
    (next : Assembly) : Prop where
  passes : Passes goal state parser.lookahead.lexeme next
  onward : Onward parser after
  room : parser.lookahead.lexeme = .leftParen → parser.Admits next

/-- A step that ends the run, with what the run comes to. -/
inductive Stops (goal : Phrase) (parser : Parser) (state : Assembly) :
    Except ParseFault Tree → Parser → Prop where
  | finish {tree : Tree} : state.move goal parser.lookahead.lexeme = .finish tree →
      Stops goal parser state (.ok tree) parser
  | refuse {expected : Expected} :
      state.move goal parser.lookahead.lexeme = .refuse expected →
        Stops goal parser state (.error (parser.unexpected expected)) parser
  | lexical {next : Assembly} {fault : LexFault} {lexer : Lexer} :
      Passes goal state parser.lookahead.lexeme next →
        parser.lexer.next = (.error fault, lexer) →
          Stops goal parser state (.error (.lexical fault)) { parser with lexer }
  | nesting {next : Assembly} {after : Parser} {limit : Int} :
      state.move goal parser.lookahead.lexeme = .enter next → Onward parser after →
        parser.maxNesting = some limit → limit < parser.depth + next.nesting →
          Stops goal parser state (.error (.nesting parser.lookahead.pos))
            { after with depth := after.depth + 1 }
  | noLimit {next : Assembly} {after : Parser} :
      state.move goal parser.lookahead.lexeme = .enter next → Onward parser after →
        parser.maxNesting = none →
          Stops goal parser state (.error .noNestingLimit)
            { after with depth := after.depth + 1 }

theorem goes_of_enter {goal : Phrase} {parser opened after : Parser} {state entered next : Assembly}
    {pos : Int} (moved : state.move goal parser.lookahead.lexeme = .enter entered)
    (onward : Onward parser opened) (progress : opened.enter pos entered = .more after next) :
    Goes goal parser state after next := by
  unfold enter at progress
  rw [onward.maxNesting, onward.depth] at progress
  split at progress
  · cases progress
  · rename_i limit limited
    split at progress
    · cases progress
    · rename_i low
      cases progress
      exact ⟨passes_of_enter moved, onward, fun _ => ⟨limit, limited, Int.not_lt.mp low⟩⟩

theorem goes_of_more {goal : Phrase} {parser after : Parser} {state next : Assembly}
    (progress : parser.step goal state = .more after next) : Goes goal parser state after next := by
  unfold step at progress
  split at progress
  · cases progress
  · cases progress
  · rename_i taken moved
    split at progress
    · rename_i token reached advanced
      obtain ⟨-, onward⟩ := onward_of_advance advanced
      cases progress
      exact ⟨passes_of_take moved, onward, fun opening => absurd opening (lexeme_of_take moved)⟩
    · cases progress
  · rename_i entered moved
    split at progress
    · rename_i token reached advanced
      exact goes_of_enter moved (onward_of_advance advanced).2 progress
    · cases progress

theorem stops_of_enter {goal : Phrase} {parser opened after : Parser} {state entered : Assembly}
    {result : Except ParseFault Tree}
    (moved : state.move goal parser.lookahead.lexeme = .enter entered)
    (onward : Onward parser opened)
    (progress : opened.enter parser.lookahead.pos entered = .done result after) :
    Stops goal parser state result after := by
  unfold enter at progress
  split at progress
  · rename_i unlimited
    cases progress
    exact .noLimit moved onward (onward.maxNesting ▸ unlimited)
  · rename_i limit limited
    split at progress
    · rename_i high
      cases progress
      exact .nesting moved onward (onward.maxNesting ▸ limited) (onward.depth ▸ high)
    · cases progress

theorem stops_of_done {goal : Phrase} {parser after : Parser} {state : Assembly}
    {result : Except ParseFault Tree} (progress : parser.step goal state = .done result after) :
    Stops goal parser state result after := by
  unfold step at progress
  split at progress
  · rename_i tree moved
    cases progress
    exact .finish moved
  · rename_i expected moved
    cases progress
    exact .refuse moved
  · rename_i taken moved
    split at progress
    · cases progress
    · rename_i fault reached advanced
      obtain ⟨lexical, lexer, rfl, read, rfl⟩ := fault_of_advance advanced
      cases progress
      exact .lexical (passes_of_take moved) read
  · rename_i entered moved
    split at progress
    · rename_i token reached advanced
      obtain ⟨rfl, onward⟩ := onward_of_advance advanced
      exact stops_of_enter moved onward progress
    · rename_i fault reached advanced
      obtain ⟨lexical, lexer, rfl, read, rfl⟩ := fault_of_advance advanced
      cases progress
      exact .lexical (passes_of_enter moved) read

/-- Tokens that are used up in their order on the way from one parser and state to others. -/
inductive Uses (goal : Phrase) : Parser → Assembly → List Token → Parser → Assembly → Prop where
  | nothing {parser : Parser} {state : Assembly} : Uses goal parser state [] parser state
  | token {parser after reached : Parser} {state next last : Assembly} {tokens : List Token} :
      Goes goal parser state after next → Uses goal after next tokens reached last →
        Uses goal parser state (parser.lookahead :: tokens) reached last

theorem uses_of_run (goal : Phrase) (parser : Parser) (state : Assembly) :
    ∃ used reached last, Uses goal parser state used reached last ∧
      Stops goal reached last (parser.run goal state).1 (parser.run goal state).2 := by
  induction left : parser.ahead using Nat.strongRecOn generalizing parser state with
  | _ ahead ih =>
      cases progress : parser.step goal state with
      | done result after =>
          rw [run_of_done progress]
          exact ⟨[], parser, state, .nothing, stops_of_done progress⟩
      | more after next =>
          have fewer := ahead_lt_of_step progress
          obtain ⟨used, reached, last, uses, stops⟩ := ih after.ahead (left ▸ fewer) after next rfl
          rw [run_of_more progress]
          exact ⟨_, reached, last, .token (goes_of_more progress) uses, stops⟩

section

variable {goal : Phrase} {parser after reached : Parser} {state next last : Assembly}
  {used : List Token} {result : Except ParseFault Tree}

theorem advance_of_onward (onward : Onward parser after) :
    parser.advance = (.ok parser.lookahead, after) := by
  obtain ⟨read, depth, maxNesting⟩ := onward
  rw [advance, read, ← depth, ← maxNesting]

theorem advance_of_next_fault {fault : LexFault} {lexer : Lexer}
    (read : parser.lexer.next = (.error fault, lexer)) :
    parser.advance = (.error (.lexical fault), { parser with lexer }) := by
  rw [advance, read]

theorem enter_of_admits (admits : parser.Admits state) (pos : Int) :
    parser.enter pos state = .more parser state := by
  obtain ⟨limit, limited, low⟩ := admits
  simp only [enter, limited, Int.not_lt.mpr low, if_false]

theorem step_of_goes (goes : Goes goal parser state after next) :
    parser.step goal state = .more after next := by
  have advanced := advance_of_onward goes.onward
  have uses := goes.passes.next
  cases moved : state.move goal parser.lookahead.lexeme with
  | take taken =>
      rw [moved] at uses
      cases uses
      rw [step, moved, advanced]
  | enter entered =>
      rw [moved] at uses
      cases uses
      have room := goes.room (Assembly.lexeme_of_enter moved)
      rw [Admits, ← goes.onward.maxNesting, ← goes.onward.depth] at room
      rw [step, moved, advanced]
      exact enter_of_admits room _
  | finish | refuse =>
      rw [moved] at uses
      cases uses

theorem run_of_uses (uses : Uses goal parser state used reached last) :
    parser.run goal state = reached.run goal last := by
  induction uses with
  | nothing => rfl
  | token goes _ ih => rw [run_of_more (step_of_goes goes), ih]

theorem run_of_stops (stops : Stops goal parser state result after) :
    parser.run goal state = (result, after) := by
  apply run_of_done
  cases stops with
  | finish moved | refuse moved => rw [step, moved]
  | lexical passes read =>
      have advanced := advance_of_next_fault read
      have uses := passes.next
      cases moved : state.move goal parser.lookahead.lexeme with
      | take | enter => rw [step, moved, advanced]
      | finish | refuse =>
          rw [moved] at uses
          cases uses
  | nesting moved onward limited high =>
      rw [← onward.maxNesting] at limited
      rw [← onward.depth] at high
      rw [step, moved, advance_of_onward onward]
      simp only [enter, limited, high, if_true]
  | noLimit moved onward unlimited =>
      rw [← onward.maxNesting] at unlimited
      rw [step, moved, advance_of_onward onward]
      simp only [enter, unlimited]

theorem run_eq_iff : parser.run goal state = (result, after) ↔
    ∃ used reached last, Uses goal parser state used reached last ∧
      Stops goal reached last result after := by
  constructor
  · intro read
    have told := uses_of_run goal parser state
    rwa [read] at told
  · rintro ⟨used, reached, last, uses, stops⟩
    exact (run_of_uses uses).trans (run_of_stops stops)

end

section

variable {goal : Phrase} {parser after reached : Parser} {state next last : Assembly}
  {used : List Token}

theorem Goes.inside (goes : Goes goal parser state after next) :
    parser.lookahead.lexeme ≠ .endOfInput := by
  intro ends
  have passes := goes.passes
  rw [ends] at passes
  cases passes

theorem Goes.pending (goes : Goes goal parser state after next) :
    parser.pending = { after.pending with tokens := parser.lookahead :: after.pending.tokens } :=
  goes.onward.pending goes.inside

theorem Uses.feed (uses : Uses goal parser state used reached last) :
    feed goal state (used.map Token.lexeme) = some last := by
  induction uses with
  | nothing => rfl
  | token goes _ ih =>
      rw [List.map_cons, feed_cons, goes.passes.next, Option.bind_some]
      exact ih

theorem Uses.pending (uses : Uses goal parser state used reached last) :
    parser.pending = { reached.pending with tokens := used ++ reached.pending.tokens } := by
  induction uses with
  | nothing => rfl
  | token goes _ ih => rw [goes.pending, ih, List.cons_append]

theorem Uses.depth (uses : Uses goal parser state used reached last) :
    reached.depth = parser.depth := by
  induction uses with
  | nothing => rfl
  | token goes _ ih => exact ih.trans goes.onward.depth

theorem Uses.maxNesting (uses : Uses goal parser state used reached last) :
    reached.maxNesting = parser.maxNesting := by
  induction uses with
  | nothing => rfl
  | token goes _ ih => exact ih.trans goes.onward.maxNesting

theorem Uses.settled (uses : Uses goal parser state used reached last) (settled : Settled parser) :
    Settled reached := by
  induction uses with
  | nothing => exact settled
  | token goes _ ih => exact ih goes.onward.settled

theorem Uses.room (uses : Uses goal parser state used reached last) {before behind : List Token}
    {opening : Token} (shape : used = before ++ opening :: behind)
    (parenthesis : opening.lexeme = .leftParen) :
    ∃ entered, Assembly.feed goal state ((before ++ [opening]).map Token.lexeme) = some entered ∧
      parser.Admits entered := by
  induction uses generalizing before with
  | nothing => simp at shape
  | @token parser after reached state next last tokens goes _ ih =>
      cases before with
      | nil =>
          obtain ⟨rfl, rfl⟩ := List.cons_eq_cons.mp shape
          refine ⟨next, ?_, goes.room parenthesis⟩
          rw [List.nil_append, List.map_singleton, feed_singleton]
          exact goes.passes.next
      | cons first before =>
          obtain ⟨rfl, rest⟩ := List.cons_eq_cons.mp shape
          obtain ⟨entered, fed, limit, limited, low⟩ := ih rest
          rw [goes.onward.maxNesting] at limited
          rw [goes.onward.depth] at low
          refine ⟨entered, ?_, limit, limited, low⟩
          rw [List.cons_append, List.map_cons, feed_cons, goes.passes.next, Option.bind_some]
          exact fed

end

end Parser

def excess (word : List Lexeme) : Int := word.count .leftParen - word.count .rightParen

def Fits (limit : Option Int) (word : List Lexeme) : Prop :=
  ∀ before behind, word = before ++ .leftParen :: behind →
    ∃ bound, limit = some bound ∧ excess (before ++ [.leftParen]) ≤ bound

theorem excess_of_feed {goal : Phrase} {state : Assembly} {word : List Lexeme}
    (fed : feed goal .start word = some state) : excess word = state.nesting := by
  have balance := Assembly.nesting_of_feed fed
  simp only [excess]
  omega

/-- How many parentheses may be open at once in the phrases to come. -/
def Parser.room (parser : Parser) : Option Int := parser.maxNesting.map (· - parser.depth)

theorem Parser.Uses.fits_room {goal : Phrase} {parser reached : Parser} {last : Assembly}
    {used : List Token} (uses : Uses goal parser .start used reached last) :
    Fits parser.room (used.map Token.lexeme) := by
  intro before behind shape
  obtain ⟨first, rest, rfl, rfl, tail_eq⟩ := List.map_eq_append_iff.mp shape
  obtain ⟨opening, tokens, rfl, parenthesis, rfl⟩ := List.map_eq_cons_iff.mp tail_eq
  obtain ⟨entered, fed, limit, limited, low⟩ := uses.room rfl parenthesis
  rw [List.map_append, List.map_singleton, parenthesis] at fed
  refine ⟨limit - parser.depth, by rw [Parser.room, limited]; rfl, ?_⟩
  rw [excess_of_feed fed]
  omega

theorem Parser.Uses.fits {goal : Phrase} {parser reached : Parser} {last : Assembly}
    {used : List Token} (uses : Uses goal parser .start used reached last)
    (fresh : parser.depth = 0) : Fits parser.maxNesting (used.map Token.lexeme) := by
  have fits := uses.fits_room
  simpa [Parser.room, fresh] using fits

/-- The ends of a parse, told by the scan of the text. What is refused is the first token that no
phrase can go on with, a fault of the text counts where no token before it is refused, and a
parenthesis is too deep only when a token has been read behind it. -/
inductive Outcome (scan : Scan) (limit : Option Int) : Except ParseFault Tree → Prop where
  | accept {used : List Token} {ended : Token} {sum : Option Pending} {term : Tree} :
      scan.tokens = used ++ [ended] → ended.lexeme = .endOfInput → scan.fault = none →
        Fits limit (used.map Token.lexeme) →
          feed .expression .start (used.map Token.lexeme) =
            some (.operator sum term []) →
            Outcome scan limit (.ok (attach sum term))
  | refuse {used behind : List Token} {token : Token} {state : Assembly} :
      scan.tokens = used ++ token :: behind → Fits limit (used.map Token.lexeme) →
        feed .expression .start (used.map Token.lexeme) = some state →
          (state.move .expression token.lexeme).next? = none →
            (token.lexeme = .endOfInput → ∀ sum term, state ≠ .operator sum term []) →
              Outcome scan limit (.error (.unexpected state.expected token.kind token.pos))
  | lexical {fault : LexFault} {state : Assembly} :
      scan.fault = some fault → Fits limit (scan.tokens.dropLast.map Token.lexeme) →
        feed .expression .start (scan.tokens.map Token.lexeme) = some state →
          Outcome scan limit (.error (.lexical fault))
  | nesting {used behind : List Token} {opening token : Token} {state : Assembly} {bound : Int} :
      scan.tokens = used ++ opening :: token :: behind → Fits limit (used.map Token.lexeme) →
        opening.lexeme = .leftParen →
          feed .expression .start ((used ++ [opening]).map Token.lexeme) = some state →
            limit = some bound → bound < state.nesting →
              Outcome scan limit (.error (.nesting opening.pos))
  | noLimit {used behind : List Token} {opening token : Token} {state : Assembly} :
      scan.tokens = used ++ opening :: token :: behind → Fits limit (used.map Token.lexeme) →
        opening.lexeme = .leftParen →
          feed .expression .start ((used ++ [opening]).map Token.lexeme) = some state →
            limit = none → Outcome scan limit (.error .noNestingLimit)

namespace Parser

theorem expect_end {parser : Parser} (settled : Settled parser)
    (ends : parser.lookahead.lexeme = .endOfInput) :
    (parser.expect .endOfInput).1 = .ok parser.lookahead := by
  have kind : parser.lookahead.kind = .endOfInput := by rw [Token.kind, ends]; rfl
  rw [expect, if_pos kind, advance, Lexer.next_of_rest_nil (settled ends)]

theorem expect_other {parser : Parser} (inside : parser.lookahead.lexeme ≠ .endOfInput) :
    (parser.expect .endOfInput).1 = .error (parser.unexpected (.kind .endOfInput)) := by
  have kind : parser.lookahead.kind ≠ .endOfInput := by
    intro kind_eq
    cases shape : parser.lookahead.lexeme <;> simp_all [Token.kind, Lexeme.kind]
  rw [expect, if_neg kind]

theorem parse_of_error {parser : Parser} {fault : ParseFault}
    (failed : (parser.run .expression .start).1 = .error fault) :
    parser.parse.1 = .error fault := by
  unfold parse phrase
  split
  · rename_i kind_eq
    rw [kind_eq] at failed
    exact failed
  · rename_i kind_eq
    rw [kind_eq] at failed
    cases failed

theorem parse_of_ok {parser : Parser} {tree : Tree}
    (read : (parser.run .expression .start).1 = .ok tree) :
    parser.parse.1 =
      ((parser.run .expression .start).2.expect .endOfInput).1.map fun _ => tree := by
  unfold parse phrase
  split
  · rename_i kind_eq
    rw [kind_eq] at read
    cases read
  · rename_i kind_eq
    rw [kind_eq] at read ⊢
    cases read
    rfl

section

variable {goal : Phrase} {parser reached : Parser} {last : Assembly} {used : List Token}

theorem Uses.split (uses : Uses goal parser .start used reached last) :
    ∃ behind, parser.pending.tokens = used ++ reached.lookahead :: behind := by
  obtain ⟨behind, tokens⟩ := pending_tokens reached
  exact ⟨behind, by rw [uses.pending, tokens]⟩

theorem outcome_of_finish (fresh : parser.depth = 0) (settled : Settled parser)
    (uses : Uses .expression parser .start used reached last) {tree : Tree}
    (moved : last.move .expression reached.lookahead.lexeme = .finish tree) :
    Outcome parser.pending parser.maxNesting
      ((reached.expect .endOfInput).1.map fun _ => tree) := by
  obtain ⟨sum, term, rfl, rfl⟩ := finish_of_move moved
  by_cases ends : reached.lookahead.lexeme = .endOfInput
  · have pending_eq := uses.pending
    rw [pending_of_end ends] at pending_eq
    rw [expect_end (uses.settled settled) ends]
    exact .accept (congrArg Scan.tokens pending_eq) ends (congrArg Scan.fault pending_eq)
      (uses.fits fresh)
      uses.feed
  · obtain ⟨behind, shape⟩ := uses.split
    rw [expect_other ends]
    exact .refuse shape (uses.fits fresh) uses.feed (by rw [moved]; rfl)
      (fun ended => absurd ended ends)

theorem outcome_of_refuse (fresh : parser.depth = 0)
    (uses : Uses .expression parser .start used reached last) {expected : Expected}
    (moved : last.move .expression reached.lookahead.lexeme = .refuse expected) :
    Outcome parser.pending parser.maxNesting (.error (reached.unexpected expected)) := by
  obtain ⟨behind, shape⟩ := uses.split
  obtain ⟨rfl, unfinished⟩ := refuse_of_move moved
  exact .refuse shape (uses.fits fresh) uses.feed (by rw [moved]; rfl) (fun _ => unfinished)

theorem outcome_of_fault (fresh : parser.depth = 0)
    (uses : Uses .expression parser .start used reached last) {next : Assembly} {fault : LexFault}
    {lexer : Lexer} (passes : Passes .expression last reached.lookahead.lexeme next)
    (read : reached.lexer.next = (.error fault, lexer)) :
    Outcome parser.pending parser.maxNesting (.error (.lexical fault)) := by
  have inside : reached.lookahead.lexeme ≠ .endOfInput := by
    intro ends
    rw [ends] at passes
    cases passes
  have pending_eq := uses.pending
  rw [pending_of_fault inside read] at pending_eq
  have tokens : parser.pending.tokens = used ++ [reached.lookahead] :=
    congrArg Scan.tokens pending_eq
  have fed : feed .expression .start (parser.pending.tokens.map Token.lexeme) = some next := by
    rw [tokens, List.map_append, List.map_singleton, feed_concat uses.feed]
    exact passes.next
  refine .lexical (congrArg Scan.fault pending_eq) ?_ fed
  rw [tokens, List.dropLast_concat]
  exact uses.fits fresh

theorem Uses.entered (uses : Uses goal parser .start used reached last)
    {entered : Assembly} {after : Parser}
    (moved : last.move goal reached.lookahead.lexeme = .enter entered)
    (onward : Onward reached after) :
    (∃ behind, parser.pending.tokens = used ++ reached.lookahead :: after.lookahead :: behind) ∧
      reached.lookahead.lexeme = .leftParen ∧
        Assembly.feed goal .start ((used ++ [reached.lookahead]).map Token.lexeme) =
          some entered := by
  have opening := lexeme_of_enter moved
  have pending_eq := uses.pending
  rw [onward.pending (by rw [opening]; decide)] at pending_eq
  obtain ⟨behind, tokens⟩ := pending_tokens after
  refine ⟨⟨behind, ?_⟩, opening, ?_⟩
  · rw [congrArg Scan.tokens pending_eq, tokens]
  · rw [List.map_append, List.map_singleton, feed_concat uses.feed]
    exact (passes_of_enter moved).next

end

theorem outcome_of_settled {parser : Parser} (fresh : parser.depth = 0) (settled : Settled parser) :
    Outcome parser.pending parser.maxNesting parser.parse.1 := by
  obtain ⟨used, reached, last, uses, stops⟩ := uses_of_run .expression parser .start
  have depth := uses.depth
  have maxNesting := uses.maxNesting
  cases run : parser.run .expression .start with
  | mk result after =>
      rw [run] at stops
      dsimp only at stops
      cases stops with
      | @finish tree moved =>
          rw [parse_of_ok (congrArg Prod.fst run), run]
          exact outcome_of_finish fresh settled uses moved
      | refuse moved =>
          rw [parse_of_error (congrArg Prod.fst run)]
          exact outcome_of_refuse fresh uses moved
      | lexical passes read =>
          rw [parse_of_error (congrArg Prod.fst run)]
          exact outcome_of_fault fresh uses passes read
      | nesting moved onward limited low =>
          obtain ⟨⟨behind, shape⟩, opening, fed⟩ := uses.entered moved onward
          rw [parse_of_error (congrArg Prod.fst run)]
          refine .nesting shape (uses.fits fresh) opening fed (maxNesting ▸ limited) ?_
          omega
      | noLimit moved onward unlimited =>
          obtain ⟨⟨behind, shape⟩, opening, fed⟩ := uses.entered moved onward
          rw [parse_of_error (congrArg Prod.fst run)]
          exact .noLimit shape (uses.fits fresh) opening fed (maxNesting ▸ unlimited)

end Parser

theorem parse_outcome (text : List Char) (maxNesting : Option Int) :
    Outcome (Lexer.scan ⟨text, 0⟩) maxNesting (parse text maxNesting) := by
  unfold parse parseUpTo Parser.start
  match read : Lexer.next ⟨text, 0⟩ with
  | (.error fault, stopped) =>
      rw [Lexer.scan_of_fault read]
      exact .lexical rfl (fun before behind shape => by simp at shape) rfl
  | (.ok token, lexer) =>
      rw [Parser.pending_of_next read 0 maxNesting]
      exact Parser.outcome_of_settled rfl fun ends => (Lexer.next_end read ends).2

end Reckoner
