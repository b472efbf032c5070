import Reckoner.Fault
import Reckoner.Proofs.Acceptance
import Mathlib

namespace Reckoner

open Assembly

def parseFreely (text : List Char) : Except ParseFault Tree := parse text (some (text.count '('))

def ParseFault.pos? : ParseFault → Option Int
  | lexical fault => some fault.pos
  | unexpected _ _ pos => some pos
  | nesting pos => some pos
  | noNestingLimit => none

/-- The first opening parenthesis of a text at which more are open than the limit allows. -/
structure Exceeds (text : List Char) (limit : Int) (before : List Token) (opening : Token)
    (behind : List Token) : Prop where
  shape : (Lexer.scan ⟨text, 0⟩).tokens = before ++ opening :: behind
  parenthesis : opening.lexeme = .leftParen
  first : Fits (some limit) (before.map Token.lexeme)
  deep : limit < excess ((before ++ [opening]).map Token.lexeme)

/-- Every failure is about a place behind this one. -/
def FailsBehind (pos : Int) (result : Except ParseFault Tree) : Prop :=
  ∀ fault, result = .error fault → ∃ place, fault.pos? = some place ∧ pos < place

variable {text : List Char} {limit : Int} {used before middle behind after : List Token}
  {opening token : Token} {result : Except ParseFault Tree}

theorem free_outcome (text : List Char) :
    Outcome (Lexer.scan ⟨text, 0⟩) (some (text.count '(')) (parseFreely text) :=
  parse_outcome text _

theorem not_blocked_of_enough (enough : (text.count '(' : Int) ≤ limit) :
    ¬ Blocked (Lexer.scan ⟨text, 0⟩) (some limit) used opening behind := by
  intro blocked
  have shape := blocked.shape
  rw [← List.singleton_append, ← List.append_assoc] at shape
  exact blocked.deep (fits_of_scan enough ⟨_, shape.symm⟩)

theorem parse_ne_nesting_of_enough (enough : (text.count '(' : Int) ≤ limit) (pos : Int) :
    parse text (some limit) ≠ .error (.nesting pos) := by
  intro failed
  have outcome := parse_outcome text (some limit)
  rw [failed] at outcome
  cases outcome with
  | nesting shape fits parenthesis fed limited high =>
      cases limited
      exact not_blocked_of_enough enough (blocked_of_nesting shape fits parenthesis fed high)

theorem parse_eq_of_not_nesting {ample : Int} (enough : (text.count '(' : Int) ≤ ample)
    (admitted : ∀ pos, parse text (some limit) ≠ .error (.nesting pos)) :
    parse text (some limit) = parse text (some ample) := by
  have outcome := parse_outcome text (some limit)
  have wide := outcome.widen admitted fun used front _ => fits_of_scan enough front
  exact outcome_unique wide (parse_outcome text _)

theorem parse_of_enough (enough : (text.count '(' : Int) ≤ limit) :
    parse text (some limit) = parseFreely text :=
  parse_eq_of_not_nesting (Int.le_refl _) (parse_ne_nesting_of_enough enough)

theorem pos_lt_of_cut (shape : (Lexer.scan ⟨text, 0⟩).tokens = used ++ token :: behind)
    {earlier : Token} (member : earlier ∈ used) : earlier.pos < token.pos := by
  have sorted := Lexer.scan_sorted ⟨text, 0⟩
  rw [shape, List.pairwise_append] at sorted
  exact sorted.2.2 earlier member token List.mem_cons_self

theorem pos_le_of_cut (shape : (Lexer.scan ⟨text, 0⟩).tokens = used ++ middle ++ opening :: behind)
    (cut : (Lexer.scan ⟨text, 0⟩).tokens = used ++ token :: after) : token.pos ≤ opening.pos := by
  cases middle with
  | nil =>
      rw [List.append_nil, cut, List.append_cancel_left_eq] at shape
      cases shape
      exact Int.le_refl _
  | cons first middle =>
      have cuts_eq := cut.symm.trans shape
      rw [List.append_assoc, List.append_cancel_left_eq] at cuts_eq
      cases cuts_eq
      exact Int.le_of_lt (pos_lt_of_cut shape (by simp))

theorem viable_of_fed {last : Assembly}
    (fed : feed .expression .start (used.map Token.lexeme) = some last)
    (cut : used = before ++ opening :: middle) :
    ∃ state, feed .expression .start ((before ++ [opening]).map Token.lexeme) = some state := by
  apply exists_feed_of_append
  rw [← List.map_append, List.append_assoc, List.singleton_append, ← cut]
  exact fed

theorem Blocked.fails_behind
    (blocked : Blocked (Lexer.scan ⟨text, 0⟩) (some limit) used opening behind) :
    FailsBehind opening.pos (parseFreely text) := by
  intro fault failed
  have outcome := free_outcome text
  rw [failed] at outcome
  cases outcome with
  | refuse shape _ fed refused _ =>
      obtain ⟨state, viable⟩ := blocked.viable
      have cut : (Lexer.scan ⟨text, 0⟩).tokens = (used ++ [opening]) ++ behind := by
        simpa using blocked.shape
      obtain ⟨middle, rfl⟩ := refused_behind_fed cut viable shape fed refused
      exact ⟨_, rfl, pos_lt_of_cut shape (by simp)⟩
  | lexical first =>
      have member : opening ∈ (Lexer.scan ⟨text, 0⟩).tokens := by simp [blocked.shape]
      exact ⟨_, rfl, Lexer.pos_lt_of_fault _ _ first opening member⟩
  | nesting => exact absurd failed (parse_ne_nesting_of_enough (Int.le_refl _) _)
  | noLimit _ _ _ _ unlimited => cases unlimited

theorem Blocked.exceeds
    (blocked : Blocked (Lexer.scan ⟨text, 0⟩) (some limit) used opening behind) :
    Exceeds text limit used opening behind where
  shape := blocked.shape
  parenthesis := blocked.parenthesis
  first := blocked.fits
  deep := by
    have deep := blocked.deep
    rw [List.map_append, List.map_singleton, blocked.parenthesis] at deep ⊢
    exact Int.not_le.mp (mt (fits_opening_iff blocked.fits).mpr deep)

theorem viable_of_fails_behind
    (shape : (Lexer.scan ⟨text, 0⟩).tokens = before ++ opening :: behind) (read : behind ≠ [])
    (failsBehind : FailsBehind opening.pos (parseFreely text)) :
    ∃ state, feed .expression .start ((before ++ [opening]).map Token.lexeme) = some state := by
  have outcome := free_outcome text
  generalize free : parseFreely text = result at outcome failsBehind
  cases outcome with
  | accept tokens _ _ _ fed =>
      rcases cut_at_or_behind (shape.symm.trans tokens) with ⟨middle, rfl⟩ | ⟨middle, within⟩
      · rw [tokens, List.append_assoc, List.append_cancel_left_eq] at shape
        cases middle <;> simp_all
      · exact viable_of_fed fed within
  | refuse cut _ fed _ _ =>
      rcases cut_at_or_behind (shape.symm.trans cut) with ⟨middle, rfl⟩ | ⟨middle, within⟩
      · obtain ⟨place, named, further⟩ := failsBehind _ rfl
        cases named
        exact absurd (pos_le_of_cut shape cut) (Int.not_le.mpr further)
      · exact viable_of_fed fed within
  | lexical _ _ fed => exact viable_of_fed fed shape
  | nesting => exact absurd free (parse_ne_nesting_of_enough (Int.le_refl _) _)
  | noLimit _ _ _ _ unlimited => cases unlimited

theorem Exceeds.blocked (exceeds : Exceeds text limit before opening behind) (read : behind ≠ [])
    (failsBehind : FailsBehind opening.pos (parseFreely text)) :
    Blocked (Lexer.scan ⟨text, 0⟩) (some limit) before opening behind where
  shape := exceeds.shape
  read := read
  parenthesis := exceeds.parenthesis
  viable := viable_of_fails_behind exceeds.shape read failsBehind
  fits := exceeds.first
  deep := by
    have deep := exceeds.deep
    rw [List.map_append, List.map_singleton, exceeds.parenthesis] at deep ⊢
    exact mt (fits_opening_iff exceeds.first).mp (Int.not_le.mpr deep)

theorem parse_eq_nesting_iff (text : List Char) (limit pos : Int) :
    parse text (some limit) = .error (.nesting pos) ↔
      ∃ before opening behind, Exceeds text limit before opening behind ∧ opening.pos = pos ∧
        behind ≠ [] ∧ FailsBehind pos (parseFreely text) := by
  have outcome := parse_outcome text (some limit)
  constructor
  · intro failed
    rw [failed] at outcome
    cases outcome with
    | nesting shape fits parenthesis fed limited high =>
        cases limited
        have blocked := blocked_of_nesting shape fits parenthesis fed high
        exact ⟨_, _, _, blocked.exceeds, rfl, blocked.read, blocked.fails_behind⟩
  · rintro ⟨before, opening, behind, exceeds, rfl, read, failsBehind⟩
    exact (exceeds.blocked read failsBehind).ends outcome

def nestingReport (pos : Int) : Report :=
  { name := "DepthExceeded"
    message := "max parenthesis nesting exceeded at position " ++ toString pos }

theorem report_eq_nesting_iff {fault : ParseFault} {pos : Int} :
    (Fault.parse fault).report = nestingReport pos ↔ fault = .nesting pos := by
  constructor
  · intro reported
    have name : (Fault.parse fault).report.name = "DepthExceeded" := congrArg Report.name reported
    rw [Fault.report_name] at name
    cases fault with
    | lexical | unexpected | noNestingLimit => simp [Fault.name, ParseFault.name] at name
    | nesting place =>
        have message : "max parenthesis nesting exceeded at position " ++ place.repr =
            "max parenthesis nesting exceeded at position " ++ pos.repr :=
          congrArg Report.message reported
        rw [← String.toList_inj, String.toList_append, String.toList_append] at message
        rw [Int.repr_inj.mp (String.toList_inj.mp (List.append_cancel_left message))]
  · rintro rfl
    rfl

/-- A parse under a nesting limit is refused at the first parenthesis beyond it, exactly when the
parse without a limit does not fail before and a token can be read behind it, and the report of that
names the place. In all other cases it ends like the parse without a limit, which has no parenthesis
to refuse. -/
theorem parse_nesting_exactly (text : List Char) (limit : Int) :
    (∀ pos, parse text (some limit) = .error (.nesting pos) ↔
      ∃ before opening behind, Exceeds text limit before opening behind ∧ opening.pos = pos ∧
        behind ≠ [] ∧ FailsBehind pos (parseFreely text)) ∧
    (∀ pos, (∃ fault, parse text (some limit) = .error fault ∧
        (Fault.parse fault).report = nestingReport pos) ↔
      parse text (some limit) = .error (.nesting pos)) ∧
    ((∀ pos, parse text (some limit) ≠ .error (.nesting pos)) →
      parse text (some limit) = parseFreely text) ∧
    (∀ pos, parseFreely text ≠ .error (.nesting pos)) ∧
    ∀ ample, (text.count '(' : Int) ≤ ample → parse text (some ample) = parseFreely text := by
  refine ⟨parse_eq_nesting_iff text limit, fun pos => ?_, ?_, ?_, ?_⟩
  · simp only [report_eq_nesting_iff, exists_eq_right]
  · exact parse_eq_of_not_nesting (Int.le_refl _)
  · exact parse_ne_nesting_of_enough (Int.le_refl _)
  · intro ample enough
    exact parse_of_enough enough

/-- In `(1)*((2$` the third parenthesis is beyond a limit of 1, before the fault; in `1*($` the
fault comes too soon behind the parenthesis for a limit of 0 to count. -/
theorem parse_nesting_before_fault :
    (∃ before opening behind, Exceeds "(1)*((2$".toList 1 before opening behind ∧
      opening.pos = 5 ∧ behind ≠ [] ∧ FailsBehind 5 (parseFreely "(1)*((2$".toList)) ∧
    parse "1*($".toList (some 0) = parseFreely "1*($".toList ∧
    parse "1*($".toList (some 1) = parseFreely "1*($".toList :=
  ⟨((parse_nesting_exactly "(1)*((2$".toList 1).1 5).mp (by cbv),
    (parse_nesting_exactly "1*($".toList 0).2.2.1 (by intro pos; cbv; simp),
    (parse_nesting_exactly "1*($".toList 0).2.2.2.2 1 (by decide)⟩

end Reckoner
