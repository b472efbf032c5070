import Reckoner.Proofs.Descent
import Reckoner.Proofs.Outcome
import Mathlib

/-!
The depth counter of a parser over a session. A request leaves it as it was, except that it stays
one higher when the nesting check has ended the reading (`depth_of_serve`). So it tells how many
requests have ended there, and each of them takes one level from the phrases to come
(`session_depth`).
-/

namespace Reckoner.Parser

/-- Whether the nesting check has ended the request. -/
def Reply.barred (reply : Reply) : Bool := reply.fault?.any ParseFault.isNesting

def Request.goal? : Request → Option Phrase
  | parse => some .expression
  | phrase goal => some goal
  | _ => none

/-- The tokens begin like a phrase, and somewhere in front of the last of them more parentheses are
open than there is room for. -/
def Overruns (goal : Phrase) (room : Option Int) (tokens : List Token) : Prop :=
  ∃ used behind, tokens = used ++ behind ∧ behind ≠ [] ∧
    (∃ rest tree, Derives goal (used.map Token.lexeme ++ rest) tree) ∧
      ¬ Fits room (used.map Token.lexeme)

section

variable {goal : Phrase} {parser reached after : Parser} {last : Assembly} {used : List Token}
  {result : Except ParseFault Tree}

theorem depth_of_phrase (goal : Phrase) (parser : Parser) :
    (parser.phrase goal).2.depth = parser.depth + (barred (parser.phrase goal).1).toNat := by
  obtain ⟨track, tracks⟩ := descends_iff.mpr (rfl : parser.phrase goal = (_, _))
  exact tracks.depth

theorem barred_parse (parser : Parser) :
    barred parser.parse.1 = barred (parser.phrase .expression).1 ∧
      parser.parse.2.depth = (parser.phrase .expression).2.depth := by
  unfold parse
  rcases parser.phrase .expression with ⟨fault | tree, reached⟩
  · exact ⟨rfl, rfl⟩
  · rcases closed : reached.expect .endOfInput with ⟨closing, after⟩
    obtain ⟨quiet, depth_eq⟩ := depth_of_expect closed
    dsimp only
    rw [closed]
    exact ⟨(barred_map closing _).trans quiet, depth_eq⟩

theorem serve_of_goal (parser : Parser) (request : Request) :
    (parser.serve request).1.barred =
        request.goal?.any (fun goal => barred (parser.phrase goal).1) ∧
      (parser.serve request).2.depth =
        request.goal?.elim parser.depth (fun goal => (parser.phrase goal).2.depth) := by
  cases request with
  | parse => exact barred_parse parser
  | advance =>
      rcases advanced : parser.advance with ⟨token, after⟩
      rw [serve, advanced]
      exact depth_of_advance advanced
  | expect kind =>
      rcases read : parser.expect kind with ⟨token, after⟩
      rw [serve, read]
      exact depth_of_expect read
  | phrase | atOperator | setMaxNesting => exact ⟨rfl, rfl⟩

theorem depth_of_serve (parser : Parser) (request : Request) :
    (parser.serve request).2.depth = parser.depth + (parser.serve request).1.barred.toNat := by
  obtain ⟨barred_eq, depth⟩ := serve_of_goal parser request
  rw [barred_eq, depth]
  cases request.goal? with
  | none => rfl
  | some goal => exact depth_of_phrase goal parser

theorem depth_of_leave (parser : Parser) (requests : List Request) :
    (parser.leave requests).depth =
      parser.depth + (parser.serveAll requests).countP (·.1.barred) := by
  induction requests generalizing parser with
  | nil => rfl
  | cons request requests ih =>
      calc
        (parser.leave (request :: requests)).depth
        _ = (parser.serve request).2.depth +
              ((parser.serve request).2.serveAll requests).countP (·.1.barred) := ih _
        _ = parser.depth + (parser.serveAll (request :: requests)).countP (·.1.barred) := by
            simp only [depth_of_serve, Session.serveAll, List.countP_cons]
            cases (parser.serve request).1.barred <;> simp [Nat.add_assoc, Nat.add_comm 1]

theorem barred_of_stops (stops : Stops goal reached last result after)
    (used : (last.move goal reached.lookahead.lexeme).next? ≠ none) {behind : List Token}
    (pending : reached.pending.tokens = reached.lookahead :: behind) (nonempty : behind ≠ []) :
    barred result = true := by
  cases stops with
  | finish moved | refuse moved => exact absurd (by rw [moved]; rfl) used
  | lexical passes read =>
      have inside : reached.lookahead.lexeme ≠ .endOfInput := by
        intro ends
        rw [ends] at passes
        cases passes
      rw [pending_of_fault inside read] at pending
      exact absurd (List.cons.inj pending).2.symm nonempty
  | nesting | noLimit => rfl

theorem not_fits_of_high (uses : Uses goal parser .start used reached last) {entered : Assembly}
    (fed : Assembly.feed goal .start ((used ++ [reached.lookahead]).map Token.lexeme) =
      some entered)
    (opening : reached.lookahead.lexeme = .leftParen)
    (high : ∀ limit, reached.maxNesting = some limit → limit < reached.depth + entered.nesting) :
    ¬ Fits parser.room ((used ++ [reached.lookahead]).map Token.lexeme) := by
  intro fits
  rw [List.map_append, List.map_singleton, opening] at fed fits
  obtain ⟨-, bound, room, within⟩ := fits_concat_iff.mp fits
  obtain ⟨limit, limited, rfl⟩ := Option.map_eq_some_iff.mp room
  have low := high limit (uses.maxNesting.trans limited)
  rw [uses.depth] at low
  rw [excess_of_feed fed] at within
  omega

theorem overruns_of_stops (uses : Uses goal parser .start used reached last)
    (stops : Stops goal reached last result after) (ended : barred result = true) :
    Overruns goal parser.room parser.pending.tokens := by
  have overrun : ∀ {entered onward}, last.move goal reached.lookahead.lexeme = .enter entered →
      Onward reached onward →
        (∀ limit, reached.maxNesting = some limit → limit < reached.depth + entered.nesting) →
          Overruns goal parser.room parser.pending.tokens := by
    intro entered onward moved passed high
    obtain ⟨⟨behind, shape⟩, opening, fed⟩ := uses.entered moved passed
    refine ⟨used ++ [reached.lookahead], onward.lookahead :: behind, ?_, List.cons_ne_nil _ _,
      Assembly.exists_derives_iff_feed.mpr ⟨entered, fed⟩, not_fits_of_high uses fed opening high⟩
    rw [shape, List.append_assoc, List.singleton_append]
  cases stops with
  | finish | refuse | lexical => cases ended
  | nesting moved passed limited low =>
      refine overrun moved passed fun limit limit_eq => ?_
      rw [limited] at limit_eq
      cases limit_eq
      exact low
  | noLimit moved passed unlimited =>
      refine overrun moved passed fun limit limit_eq => ?_
      rw [unlimited] at limit_eq
      cases limit_eq

theorem barred_phrase_iff (goal : Phrase) (parser : Parser) :
    barred (parser.phrase goal).1 = true ↔ Overruns goal parser.room parser.pending.tokens := by
  obtain ⟨used, reached, last, uses, stops⟩ := uses_of_run goal parser .start
  constructor
  · exact overruns_of_stops uses stops
  · rintro ⟨word, behind, shape, nonempty, derived, deep⟩
    obtain ⟨state, fed⟩ := Assembly.exists_derives_iff_feed.mp derived
    obtain ⟨further, pending⟩ := pending_tokens reached
    have tokens_eq := congrArg Scan.tokens uses.pending
    rw [shape, pending] at tokens_eq
    rcases cut_at_or_behind tokens_eq.symm with ⟨middle, rfl⟩ | ⟨middle, rfl⟩
    · -- All these tokens have been used up, and so there was room for them.
      have fits := uses.fits_room
      rw [List.map_append] at fits
      exact absurd (fits.of_append _) deep
    · -- The run has stopped at one of them, though the phrase goes on with it.
      rw [List.append_assoc, List.append_cancel_left_eq, List.cons_append] at tokens_eq
      obtain ⟨-, rfl⟩ := List.cons.inj tokens_eq
      exact barred_of_stops stops (not_refused_of_fed fed rfl uses.feed) pending
        (List.append_ne_nil_of_right_ne_nil middle nonempty)

theorem barred_serve_iff (parser : Parser) (request : Request) :
    (parser.serve request).1.barred = true ↔
      ∃ goal, request.goal? = some goal ∧ Overruns goal parser.room parser.pending.tokens := by
  rw [(serve_of_goal parser request).1]
  cases request.goal? with
  | none => simp
  | some goal => simpa using barred_phrase_iff goal parser

end

/-- At any point of a session the depth is the number of requests that the nesting check has ended.
A request that it ends counts as one more, however deep the phrase was, and any other request leaves
the depth as it was, whether it returns or fails; each phrase is read as by recursive descent, which
counts a parenthesis up and down again. What the check ends are the phrases that open more
parentheses at once than the limit has left over. -/
theorem session_depth (text : List Char) (maxNesting : Option Int) {parser : Parser}
    {stopped : Lexer} (started : start text maxNesting = (.ok parser, stopped))
    (requests more : List Request) (request : Request) :
    let current := parser.leave requests
    let reply := (current.serve request).1
    let after := (current.serve request).2
    let ended := (parser.serveAll requests).countP (·.1.barred)
    (parser.serveAll (requests ++ request :: more))[requests.length]? = some (reply, after) ∧
    current.depth = ended ∧
    (reply.barred = false → after.depth = current.depth) ∧
    (reply.barred = true → after.depth = current.depth + 1) ∧
    (∀ goal result other,
      Descends (.phrase goal) current result other ↔ current.phrase goal = (result, other)) ∧
    (reply.barred = true ↔ ∃ goal, request.goal? = some goal ∧
      Overruns goal (current.maxNesting.map (· - (ended : Int))) current.pending.tokens) := by
  intro current reply after ended
  have fresh : parser.depth = 0 := by
    unfold start at started
    split at started <;> cases started
    rfl
  have depth : current.depth = ended := by
    rw [depth_of_leave, fresh, Nat.zero_add]
  have step := depth_of_serve current request
  refine ⟨Session.getElem?_serveAll serve parser requests more request, depth, fun kept => ?_,
    fun refused => ?_,
    fun _ _ _ => descends_iff, ?_⟩
  · rwa [show (current.serve request).1.barred = false from kept] at step
  · rwa [show (current.serve request).1.barred = true from refused] at step
  · rw [← depth]
    exact barred_serve_iff current request

/-- One level is admitted, until a second one is asked for. Then there is room for none. -/
theorem session_depth_used_up :
    let text := "((1))+(2)".toList
    let parser : Parser := ⟨⟨text, 1⟩, ⟨.leftParen, 0⟩, 0, some 1⟩
    let current := parser.leave [.parse, .phrase .expression, .advance, .advance, .advance]
    start text (some 1) = (.ok parser, ⟨text, 1⟩) ∧ current.depth = 1 ∧
      Overruns .factor (some 0) current.pending.tokens := by
  have started : start "((1))+(2)".toList (some 1) = (.ok ⟨⟨"((1))+(2)".toList, 1⟩,
      ⟨.leftParen, 0⟩, 0, some 1⟩, ⟨"((1))+(2)".toList, 1⟩) := by cbv
  obtain ⟨-, depth, -, -, -, exceeds⟩ := session_depth _ _ started
    [.parse, .phrase .expression, .advance, .advance, .advance] [] (.phrase .factor)
  have barred_once : (serveAll ⟨⟨"((1))+(2)".toList, 1⟩, ⟨.leftParen, 0⟩, 0, some 1⟩
      [.parse, .phrase .expression, .advance, .advance, .advance]).countP (·.1.barred) = 1 := by cbv
  rw [barred_once] at depth exceeds
  have limited : (leave ⟨⟨"((1))+(2)".toList, 1⟩, ⟨.leftParen, 0⟩, 0, some 1⟩
      [.parse, .phrase .expression, .advance, .advance, .advance]).maxNesting = some 1 := by cbv
  obtain ⟨goal, goal_eq, overruns⟩ := exceeds.mp (by cbv)
  cases goal_eq
  rw [limited] at overruns
  exact ⟨started, depth, overruns⟩

end Reckoner.Parser
