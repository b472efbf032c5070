import Reckoner.Proofs.Acceptance
import Reckoner.Proofs.Descent
import Mathlib

namespace Reckoner

def Phrase.symbols : Phrase → List (List Char)
  | expression => [['+'], ['-'], ['*'], ['/']]
  | term => [['*'], ['/']]
  | factor => []

namespace Parser

/-- Advancing again and again hands out these tokens in their order, and leaves a parser behind. -/
inductive Advances : Parser → List Token → Parser → Prop where
  | nothing {parser : Parser} : Advances parser [] parser
  | token {parser next after : Parser} {token : Token} {tokens : List Token} :
      parser.advance = (.ok token, next) → Advances next tokens after →
        Advances parser (token :: tokens) after

section

variable {goal : Phrase} {parser after further reached : Parser} {state next last : Assembly}
  {used longer : List Token} {tree : Tree}

theorem quiet_iff_at_operator : Quiet goal parser ↔ parser.atOperator goal.symbols = false := by
  unfold Quiet atOperator
  cases parser.lookahead.lexeme with
  | operator op => cases goal <;> cases op <;> simp [Phrase.admits, Operator.level] <;> decide
  | integer | leftParen | rightParen | endOfInput => simp

theorem Uses.advances (uses : Uses goal parser state used reached last) :
    Advances parser used reached := by
  induction uses with
  | nothing => exact .nothing
  | token goes _ ih => exact .token (advance_of_onward goes.onward) ih

theorem quiet_of_finish (moved : last.move goal parser.lookahead.lexeme = .finish tree) :
    Quiet goal parser := by
  intro op shape
  obtain ⟨sum, term, rfl, -⟩ := Assembly.finish_of_move moved
  rw [shape, Assembly.move, Assembly.phrase] at moved
  split at moved
  · cases moved
  · rename_i refused
    exact Bool.eq_false_of_not_eq_true refused

/-- Every parenthesis among these tokens is admitted, from a state on. -/
def Roomy (goal : Phrase) (parser : Parser) (state : Assembly) (tokens : List Token) : Prop :=
  ∀ before opening behind entered, tokens = before ++ opening :: behind →
    opening.lexeme = .leftParen →
      Assembly.feed goal state ((before ++ [opening]).map Token.lexeme) = some entered →
        parser.Admits entered

theorem roomy_of_fits (fits : Fits parser.room (used.map Token.lexeme)) :
    Roomy goal parser .start used := by
  rintro before opening behind entered rfl parenthesis fed
  obtain ⟨bound, room, within⟩ :=
    fits (before.map Token.lexeme) (behind.map Token.lexeme) (by simp [parenthesis])
  obtain ⟨limit, limited, rfl⟩ := Option.map_eq_some_iff.mp room
  rw [List.map_append, List.map_singleton, parenthesis] at fed
  rw [excess_of_feed fed] at within
  exact ⟨limit, limited, by omega⟩

theorem uses_of_advances (advances : Advances parser used reached)
    (fed : Assembly.feed goal state (used.map Token.lexeme) = some last)
    (roomy : Roomy goal parser state used) : Uses goal parser state used reached last := by
  induction advances generalizing state with
  | nothing =>
      cases fed
      exact .nothing
  | @token parser next reached token tokens advanced _ ih =>
      obtain ⟨rfl, onward⟩ := onward_of_advance advanced
      rw [List.map_cons, Assembly.feed_cons] at fed
      obtain ⟨entered, moved, rest⟩ := Option.bind_eq_some_iff.mp fed
      have passes := Assembly.passes_of_next moved
      refine .token ⟨passes, onward, fun parenthesis => ?_⟩ (ih rest ?_)
      · refine roomy [] parser.lookahead tokens entered rfl parenthesis ?_
        rw [List.nil_append, List.map_singleton, Assembly.feed_singleton, moved]
      · rintro before opening behind deeper rfl parenthesis further
        rw [Admits, onward.maxNesting, onward.depth]
        refine roomy (parser.lookahead :: before) opening behind deeper rfl parenthesis ?_
        rw [List.cons_append, List.map_cons, Assembly.feed_cons, moved, Option.bind_some, further]

theorem phrase_of_advances (advances : Advances parser used after)
    (derived : Derives goal (used.map Token.lexeme) tree)
    (fits : Fits parser.room (used.map Token.lexeme)) (quiet : Quiet goal after) :
    parser.phrase goal = (.ok tree, after) := by
  obtain ⟨sum, term, fed, rfl⟩ := Assembly.feed_of_derives derived
  have uses := uses_of_advances advances fed (roomy_of_fits fits)
  exact (run_of_uses uses).trans (run_of_complete quiet sum term)

theorem exists_advances (read : parser.phrase goal = (.ok tree, after)) :
    ∃ used, Advances parser used after ∧ Derives goal (used.map Token.lexeme) tree ∧
      Fits parser.room (used.map Token.lexeme) ∧ Quiet goal after := by
  obtain ⟨used, reached, last, uses, stops⟩ := run_eq_iff.mp read
  cases stops with
  | finish moved =>
      obtain ⟨sum, term, rfl, rfl⟩ := Assembly.finish_of_move moved
      exact ⟨used, uses.advances, Assembly.derives_of_feed uses.feed, uses.fits_room,
        quiet_of_finish moved⟩

theorem Advances.head {token : Token} {tokens : List Token}
    (advances : Advances parser (token :: tokens) after) : token = parser.lookahead := by
  cases advances with
  | token advanced => exact (onward_of_advance advanced).1

theorem Advances.split (advances : Advances parser used after)
    (advancesFurther : Advances parser longer further) :
    longer <+: used ∨ ∃ token more, longer = used ++ token :: more ∧
      Advances after (token :: more) further := by
  induction advances generalizing longer with
  | nothing =>
      cases advancesFurther with
      | nothing => exact .inl (List.prefix_refl [])
      | token advanced rest => exact .inr ⟨_, _, rfl, .token advanced rest⟩
  | @token parser next after token tokens advanced _ ih =>
      cases advancesFurther with
      | nothing => exact .inl List.nil_prefix
      | @token _ other _ next' others handed rest =>
          rw [advanced] at handed
          cases handed
          rcases ih rest with within | ⟨first, more, rfl, beyond⟩
          · exact .inl ((List.prefix_cons_inj token).mpr within)
          · exact .inr ⟨first, more, rfl, beyond⟩

theorem next_of_quiet (quiet : Quiet goal parser) (sum : Option Pending) (term : Tree) :
    ((Assembly.operator sum term []).move goal parser.lookahead.lexeme).next? = none := by
  rw [move_of_quiet quiet]
  rfl

theorem prefix_of_quiet (advances : Advances parser used after)
    (derived : Derives goal (used.map Token.lexeme) tree) (quiet : Quiet goal after)
    (advancesFurther : Advances parser longer further) {other : Tree}
    (longest : Derives goal (longer.map Token.lexeme) other) : longer <+: used := by
  rcases advances.split advancesFurther with within | ⟨token, more, rfl, beyond⟩
  · exact within
  · obtain ⟨sum, term, fed, -⟩ := Assembly.feed_of_derives derived
    obtain ⟨_, _, fedLonger, -⟩ := Assembly.feed_of_derives longest
    have stopped := next_of_quiet quiet sum term
    rw [← beyond.head, ← Assembly.feed_concat fed] at stopped
    rw [List.map_append, List.map_cons, ← List.singleton_append, ← List.append_assoc] at fedLonger
    obtain ⟨reached, passed⟩ := Assembly.exists_feed_of_append fedLonger
    rw [stopped] at passed
    cases passed

end

/-- From any state of a parser, a phrase is read to a tree exactly when tokens can be handed out
that derive it with this tree, that open no more parentheses at once than the limit has left over
and that no operator of the phrase follows. The parser is left behind as handing them out leaves it.
Such tokens are the longest ones ahead that derive the phrase. -/
theorem phrase_maximal (goal : Phrase) (parser : Parser) :
    (∀ tree after, parser.phrase goal = (.ok tree, after) ↔
      ∃ used, Advances parser used after ∧ Derives goal (used.map Token.lexeme) tree ∧
        Fits (parser.maxNesting.map (· - (parser.depth : Int))) (used.map Token.lexeme) ∧
          after.atOperator goal.symbols = false) ∧
    ∀ used after tree, Advances parser used after → Derives goal (used.map Token.lexeme) tree →
      after.atOperator goal.symbols = false →
        ∀ longer further other, Advances parser longer further →
          Derives goal (longer.map Token.lexeme) other → longer <+: used := by
  refine ⟨fun tree after => ⟨?_, ?_⟩, ?_⟩
  · intro read
    obtain ⟨used, advances, derived, fits, quiet⟩ := exists_advances read
    exact ⟨used, advances, derived, fits, quiet_iff_at_operator.mp quiet⟩
  · intro ⟨used, advances, derived, fits, quiet⟩
    exact phrase_of_advances advances derived fits (quiet_iff_at_operator.mpr quiet)
  · intro used after tree advances derived quiet longer further other advancesFurther longest
    exact prefix_of_quiet advances derived (quiet_iff_at_operator.mpr quiet) advancesFurther longest

theorem phrase_maximal_group :
    let text := "(3)+4".toList
    let parser : Parser := ⟨⟨text, 1⟩, ⟨.leftParen, 0⟩, 1, some 2⟩
    let after : Parser := ⟨⟨text, 4⟩, ⟨.operator .add, 3⟩, 1, some 2⟩
    let used : List Token := [⟨.leftParen, 0⟩, ⟨.integer 3, 1⟩, ⟨.rightParen, 2⟩]
    (Advances parser used after ∧ Derives .term (used.map Token.lexeme) (.num 3) ∧
      Fits (some 1) (used.map Token.lexeme) ∧ after.atOperator Phrase.term.symbols = false) ∧
    parser.phrase .term = (.ok (.num 3), after) ∧
    ∀ longer further other, Advances parser longer further →
      Derives .term (longer.map Token.lexeme) other → longer <+: used := by
  intro text parser after used
  have opened : parser.advance =
      (.ok ⟨.leftParen, 0⟩, ⟨⟨text, 2⟩, ⟨.integer 3, 1⟩, 1, some 2⟩) := rfl
  have inside : advance ⟨⟨text, 2⟩, ⟨.integer 3, 1⟩, 1, some 2⟩ =
      (.ok ⟨.integer 3, 1⟩, ⟨⟨text, 3⟩, ⟨.rightParen, 2⟩, 1, some 2⟩) := rfl
  have closed : advance ⟨⟨text, 3⟩, ⟨.rightParen, 2⟩, 1, some 2⟩ =
      (.ok ⟨.rightParen, 2⟩, after) := rfl
  have advances : Advances parser used after :=
    .token opened (.token inside (.token closed .nothing))
  have derived : Derives .term (used.map Token.lexeme) (.num 3) :=
    .factor (.group (.term (.factor (.integer 3))))
  have fits : Fits (some 1) (used.map Token.lexeme) := fits_of_count (by decide)
  have quiet : after.atOperator Phrase.term.symbols = false := rfl
  obtain ⟨reads, longest⟩ := phrase_maximal .term parser
  exact ⟨⟨advances, derived, fits, quiet⟩,
    (reads _ _).mpr ⟨used, advances, derived, fits, quiet⟩,
    longest used after _ advances derived quiet⟩

end Parser
end Reckoner
