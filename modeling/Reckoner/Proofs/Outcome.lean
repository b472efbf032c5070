import Reckoner.Proofs.Parsing

/-!
The end of a parse is determined by the scan of its text and the nesting limit (`outcome_unique`).
Of two events that could end it the first in the text does: a token that is refused lies behind all
that can be used up, and a parenthesis that is too deep behind all that fits the limit.
-/

namespace Reckoner

open Assembly

variable {scan : Scan} {limit : Option Int} {used rest before behind : List Token}
  {token opening next : Token} {state last : Assembly} {result other : Except ParseFault Tree}

theorem cut_at_or_behind {α : Type} {before behind used rest : List α} {token : α}
    (cuts_eq : before ++ token :: behind = used ++ rest) :
    (∃ middle, before = used ++ middle) ∨ ∃ middle, used = before ++ token :: middle := by
  rcases List.append_eq_append_iff.mp cuts_eq with ⟨middle, shape, split⟩ | ⟨middle, shape, -⟩
  · cases middle with
    | nil => exact .inl ⟨[], by simpa using shape.symm⟩
    | cons first middle =>
        obtain ⟨rfl, -⟩ := List.cons_eq_cons.mp split
        exact .inr ⟨middle, shape⟩
  · exact .inl ⟨middle, shape⟩

theorem not_refused_of_fed {goal : Phrase}
    (fed : feed goal .start (used.map Token.lexeme) = some last)
    (cut : used = before ++ token :: behind)
    (reached : feed goal .start (before.map Token.lexeme) = some state) :
    (state.move goal token.lexeme).next? ≠ none := by
  intro refused
  rw [cut, List.map_append, List.map_cons, ← List.singleton_append, ← List.append_assoc] at fed
  obtain ⟨next, passed⟩ := exists_feed_of_append fed
  rw [feed_concat reached, refused] at passed
  cases passed

theorem refused_behind_fed (shape : scan.tokens = used ++ rest)
    (fed : feed .expression .start (used.map Token.lexeme) = some last)
    (cut : scan.tokens = before ++ token :: behind)
    (reached : feed .expression .start (before.map Token.lexeme) = some state)
    (refused : (state.move .expression token.lexeme).next? = none) :
    ∃ middle, before = used ++ middle := by
  rcases cut_at_or_behind (cut.symm.trans shape) with beyond | ⟨middle, within⟩
  · exact beyond
  · exact absurd refused (not_refused_of_fed fed within reached)

theorem Fits.of_append {word : List Lexeme} (more : List Lexeme)
    (fits : Fits limit (word ++ more)) : Fits limit word := by
  rintro front rest rfl
  apply fits front (rest ++ more)
  simp

theorem fits_concat_iff {word : List Lexeme} :
    Fits limit (word ++ [.leftParen]) ↔
      Fits limit word ∧ ∃ bound, limit = some bound ∧ excess (word ++ [.leftParen]) ≤ bound := by
  constructor
  · intro fits
    exact ⟨fits.of_append _, fits word [] rfl⟩
  · intro ⟨fits, room⟩ front rest shape
    rcases List.eq_nil_or_concat rest with rfl | ⟨others, final, rfl⟩
    · obtain ⟨rfl, -⟩ := List.append_inj' shape rfl
      exact room
    · rw [List.concat_eq_append, ← List.cons_append, ← List.append_assoc] at shape
      exact fits front others (List.append_inj' shape rfl).1

theorem fits_opening_iff {word : List Lexeme} {bound : Int} (fits : Fits (some bound) word) :
    Fits (some bound) (word ++ [.leftParen]) ↔ excess (word ++ [.leftParen]) ≤ bound := by
  simp [fits_concat_iff, fits]

/-- A parenthesis that is refused for its depth, once the token behind it has been read. -/
structure Blocked (scan : Scan) (limit : Option Int) (used : List Token) (opening : Token)
    (behind : List Token) : Prop where
  shape : scan.tokens = used ++ opening :: behind
  read : behind ≠ []
  parenthesis : opening.lexeme = .leftParen
  viable : ∃ state, feed .expression .start ((used ++ [opening]).map Token.lexeme) = some state
  fits : Fits limit (used.map Token.lexeme)
  deep : ¬ Fits limit ((used ++ [opening]).map Token.lexeme)

def refusal (limit : Option Int) (pos : Int) : ParseFault :=
  match limit with
  | some _ => .nesting pos
  | none => .noNestingLimit

theorem Blocked.outcome (blocked : Blocked scan limit used opening behind) :
    Outcome scan limit (.error (refusal limit opening.pos)) := by
  obtain ⟨shape, read, parenthesis, ⟨state, fed⟩, fits, deep⟩ := blocked
  obtain ⟨token, more, rfl⟩ := List.exists_cons_of_ne_nil read
  cases limit with
  | none => exact .noLimit shape fits parenthesis fed rfl
  | some bound =>
      apply Outcome.nesting shape fits parenthesis fed rfl
      rw [List.map_append, List.map_singleton, parenthesis] at fed deep
      rw [fits_opening_iff fits, excess_of_feed fed] at deep
      exact Int.not_le.mp deep

theorem blocked_of_nesting {bound : Int} (shape : scan.tokens = used ++ opening :: next :: behind)
    (fits : Fits (some bound) (used.map Token.lexeme)) (parenthesis : opening.lexeme = .leftParen)
    (fed : feed .expression .start ((used ++ [opening]).map Token.lexeme) = some state)
    (high : bound < state.nesting) : Blocked scan (some bound) used opening (next :: behind) where
  shape := shape
  read := by simp
  parenthesis := parenthesis
  viable := ⟨state, fed⟩
  fits := fits
  deep := by
    rw [List.map_append, List.map_singleton, parenthesis] at fed ⊢
    rw [fits_opening_iff fits, excess_of_feed fed]
    exact Int.not_le.mpr high

theorem blocked_of_no_limit (shape : scan.tokens = used ++ opening :: next :: behind)
    (fits : Fits none (used.map Token.lexeme)) (parenthesis : opening.lexeme = .leftParen)
    (fed : feed .expression .start ((used ++ [opening]).map Token.lexeme) = some state) :
    Blocked scan none used opening (next :: behind) where
  shape := shape
  read := by simp
  parenthesis := parenthesis
  viable := ⟨state, fed⟩
  fits := fits
  deep := by
    rw [List.map_append, List.map_singleton, parenthesis]
    intro within
    obtain ⟨-, bound, limit_eq, -⟩ := fits_concat_iff.mp within
    cases limit_eq

theorem Blocked.behind_fits (blocked : Blocked scan limit used opening behind)
    {front : List Token} (shape : scan.tokens = front ++ rest)
    (fits : Fits limit (front.map Token.lexeme)) : ∃ middle, used = front ++ middle := by
  rcases cut_at_or_behind (blocked.shape.symm.trans shape) with beyond | ⟨middle, within⟩
  · exact beyond
  · apply absurd _ blocked.deep
    apply Fits.of_append (middle.map Token.lexeme)
    rw [← List.map_append]
    simpa [within] using fits

theorem eq_of_behind_each_other {front back : List Token}
    (frontBehind : ∃ middle, front = back ++ middle)
    (backBehind : ∃ middle, back = front ++ middle) : front = back := by
  obtain ⟨middle, shape⟩ := frontBehind
  obtain ⟨extra, rfl⟩ := backBehind
  have nothing : extra = [] ∧ middle = [] := by simpa using shape
  simp [nothing.1]

theorem Blocked.not_refused {after : List Token}
    (blocked : Blocked scan limit before opening after)
    (shape : scan.tokens = used ++ token :: behind) (fits : Fits limit (used.map Token.lexeme))
    (fed : feed .expression .start (used.map Token.lexeme) = some state) :
    (state.move .expression token.lexeme).next? ≠ none := by
  intro refused
  obtain ⟨reached, viable⟩ := blocked.viable
  have cut : scan.tokens = (before ++ [opening]) ++ after := by simpa using blocked.shape
  obtain ⟨middle, rfl⟩ := refused_behind_fed cut viable shape fed refused
  obtain ⟨extra, used_eq⟩ := blocked.behind_fits shape fits
  simp at used_eq

theorem Blocked.not_fits_dropLast (blocked : Blocked scan limit before opening behind) :
    ¬ Fits limit (scan.tokens.dropLast.map Token.lexeme) := by
  intro fits
  apply blocked.deep
  apply Fits.of_append (behind.dropLast.map Token.lexeme)
  rw [← List.map_append]
  simpa [blocked.shape, List.dropLast_append_of_ne_nil, List.dropLast_cons_of_ne_nil blocked.read]
    using fits

theorem outcome_of_complete {sum : Option Pending} {term : Tree}
    (outcome : Outcome scan limit result) (shape : scan.tokens = used ++ [token])
    (ends : token.lexeme = .endOfInput) (complete : scan.fault = none)
    (fits : Fits limit (used.map Token.lexeme))
    (fed : feed .expression .start (used.map Token.lexeme) = some (.operator sum term [])) :
    result = .ok (attach sum term) := by
  have used_eq : scan.tokens.dropLast = used := by simp [shape]
  rw [← used_eq] at fits
  cases outcome with
  | accept tokens _ _ _ reached =>
      obtain ⟨rfl, -⟩ := List.append_inj' (tokens.symm.trans shape) rfl
      rw [fed] at reached
      cases reached
      rfl
  | @refuse before behind token state cut _ reached refused unfinished =>
      obtain ⟨middle, rfl⟩ := refused_behind_fed shape fed cut reached refused
      rw [shape, List.append_assoc, List.append_cancel_left_eq] at cut
      cases middle with
      | cons => simp at cut
      | nil =>
          cases cut
          rw [List.append_nil, fed] at reached
          cases reached
          exact absurd rfl (unfinished ends sum term)
  | lexical failed =>
      rw [complete] at failed
      cases failed
  | nesting cut room parenthesis reached limited high =>
      subst limited
      exact absurd fits (blocked_of_nesting cut room parenthesis reached high).not_fits_dropLast
  | noLimit cut room parenthesis reached unlimited =>
      subst unlimited
      exact absurd fits (blocked_of_no_limit cut room parenthesis reached).not_fits_dropLast

theorem outcome_of_refused (outcome : Outcome scan limit result)
    (shape : scan.tokens = used ++ token :: behind) (fits : Fits limit (used.map Token.lexeme))
    (fed : feed .expression .start (used.map Token.lexeme) = some state)
    (refused : (state.move .expression token.lexeme).next? = none)
    (unfinished : token.lexeme = .endOfInput → ∀ sum term, state ≠ .operator sum term []) :
    result = .error (.unexpected state.expected token.kind token.pos) := by
  have refusing := Outcome.refuse shape fits fed refused unfinished
  cases outcome with
  | accept tokens ends complete room reached =>
      exact (outcome_of_complete refusing tokens ends complete room reached).symm
  | @refuse front rest other last cut _ reached stopped _ =>
      have front_eq : front = used := eq_of_behind_each_other
        (refused_behind_fed shape fed cut reached stopped)
        (refused_behind_fed cut reached shape fed refused)
      subst front_eq
      rw [shape, List.append_cancel_left_eq] at cut
      rw [fed] at reached
      cases cut
      cases reached
      rfl
  | lexical _ _ reached => exact absurd refused (not_refused_of_fed reached shape fed)
  | nesting cut room parenthesis reached limited high =>
      subst limited
      have blocked := blocked_of_nesting cut room parenthesis reached high
      exact absurd refused (blocked.not_refused shape fits fed)
  | noLimit cut room parenthesis reached unlimited =>
      subst unlimited
      have blocked := blocked_of_no_limit cut room parenthesis reached
      exact absurd refused (blocked.not_refused shape fits fed)

theorem outcome_of_fault {fault : LexFault} (outcome : Outcome scan limit result)
    (failed : scan.fault = some fault) (fits : Fits limit (scan.tokens.dropLast.map Token.lexeme))
    (fed : feed .expression .start (scan.tokens.map Token.lexeme) = some state) :
    result = .error (.lexical fault) := by
  have failing := Outcome.lexical failed fits fed
  cases outcome with
  | accept tokens ends complete room reached =>
      exact (outcome_of_complete failing tokens ends complete room reached).symm
  | refuse shape room reached refused unfinished =>
      exact (outcome_of_refused failing shape room reached refused unfinished).symm
  | lexical first =>
      rw [failed] at first
      cases first
      rfl
  | nesting cut room parenthesis reached limited high =>
      subst limited
      exact absurd fits (blocked_of_nesting cut room parenthesis reached high).not_fits_dropLast
  | noLimit cut room parenthesis reached unlimited =>
      subst unlimited
      exact absurd fits (blocked_of_no_limit cut room parenthesis reached).not_fits_dropLast

theorem Blocked.ends (blocked : Blocked scan limit used opening behind)
    (outcome : Outcome scan limit result) :
    result = .error (refusal limit opening.pos) := by
  have blocking := blocked.outcome
  cases outcome with
  | accept tokens ends complete room reached =>
      exact (outcome_of_complete blocking tokens ends complete room reached).symm
  | refuse shape room reached refused unfinished =>
      exact (outcome_of_refused blocking shape room reached refused unfinished).symm
  | lexical failed room reached => exact (outcome_of_fault blocking failed room reached).symm
  | @nesting front rest other token state bound cut room parenthesis reached limited high =>
      subst limited
      have refused := blocked_of_nesting cut room parenthesis reached high
      have used_eq : used = front := eq_of_behind_each_other
        (blocked.behind_fits refused.shape refused.fits)
        (refused.behind_fits blocked.shape blocked.fits)
      subst used_eq
      rw [blocked.shape, List.append_cancel_left_eq] at cut
      cases cut
      rfl
  | noLimit cut room parenthesis reached unlimited =>
      subst unlimited
      rfl

theorem outcome_unique (outcome : Outcome scan limit result)
    (outcomeOther : Outcome scan limit other) :
    result = other := by
  cases outcome with
  | accept tokens ends complete room reached =>
      exact (outcome_of_complete outcomeOther tokens ends complete room reached).symm
  | refuse shape room reached refused unfinished =>
      exact (outcome_of_refused outcomeOther shape room reached refused unfinished).symm
  | lexical failed room reached => exact (outcome_of_fault outcomeOther failed room reached).symm
  | nesting cut room parenthesis reached limited high =>
      subst limited
      exact ((blocked_of_nesting cut room parenthesis reached high).ends outcomeOther).symm
  | noLimit cut room parenthesis reached unlimited =>
      subst unlimited
      exact ((blocked_of_no_limit cut room parenthesis reached).ends outcomeOther).symm

theorem Outcome.widen {wider : Option Int} (outcome : Outcome scan limit result)
    (admitted : ∀ pos, result ≠ .error (refusal limit pos))
    (room : ∀ used : List Token, used <+: scan.tokens → Fits limit (used.map Token.lexeme) →
      Fits wider (used.map Token.lexeme)) : Outcome scan wider result := by
  cases outcome with
  | accept shape ends complete fits fed =>
      exact .accept shape ends complete (room _ ⟨_, shape.symm⟩ fits) fed
  | refuse shape fits fed refused unfinished =>
      exact .refuse shape (room _ ⟨_, shape.symm⟩ fits) fed refused unfinished
  | lexical failed fits fed => exact .lexical failed (room _ (List.dropLast_prefix _) fits) fed
  | nesting _ _ _ _ limited =>
      subst limited
      exact absurd rfl (admitted _)
  | noLimit _ _ _ _ unlimited =>
      subst unlimited
      exact absurd rfl (admitted 0)

end Reckoner
