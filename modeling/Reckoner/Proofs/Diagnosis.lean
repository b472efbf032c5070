import Reckoner.Proofs.Acceptance
import Mathlib

namespace Reckoner

open Assembly

/-- The words for what must follow the tokens of an unfinished expression. -/
def wanted (word : List Lexeme) : String :=
  match word.getLast? with
  | none => "Integer or LeftParen"
  | some (.operator _) => "Integer or LeftParen"
  | some .leftParen => "Integer or LeftParen"
  | some _ =>
      if word.count .rightParen < word.count .leftParen then "RightParen" else "EndOfInput"

theorem Expected.text_injective {a b : Expected} (texts_eq : a.text = b.text) : a = b := by
  rcases a with _ | first <;> rcases b with _ | second
  · rfl
  · cases second <;> simp [text, Kind.name] at texts_eq
  · cases first <;> simp [text, Kind.name] at texts_eq
  · have kinds : first = second := by
      cases first <;> cases second <;> simp_all [text, Kind.name]
    rw [kinds]

theorem expected_text_of_operator {sum : Option Pending} {term : Tree} {outer : List Layer}
    {word : List Lexeme} (fed : feed .expression .start word = some (.operator sum term outer)) :
    (Assembly.operator sum term outer).expected.text =
      if word.count .rightParen < word.count .leftParen then "RightParen" else "EndOfInput" := by
  have balance := nesting_of_feed fed
  cases outer with
  | nil =>
      have level : ¬ word.count .rightParen < word.count .leftParen := by
        simp only [nesting, outer, List.length_nil] at balance
        omega
      rw [if_neg level]
      rfl
  | cons here outer =>
      have level : word.count .rightParen < word.count .leftParen := by
        simp only [nesting, Assembly.outer, List.length_cons] at balance
        omega
      rw [if_pos level]
      rfl

theorem expected_text_of_feed {state : Assembly} {word : List Lexeme}
    (fed : feed .expression .start word = some state) : state.expected.text = wanted word := by
  rcases List.eq_nil_or_concat word with rfl | ⟨before, lexeme, rfl⟩
  · cases fed
    rfl
  · rw [List.concat_eq_append] at fed ⊢
    obtain ⟨reached, first⟩ := exists_feed_of_append fed
    have passes := fed
    rw [feed_concat first] at passes
    rw [wanted, List.getLast?_concat]
    cases passes_of_next passes with
    | integer => exact expected_text_of_operator fed
    | opening => rfl
    | operator => rfl
    | closing => exact expected_text_of_operator fed

theorem not_viable_iff {state : Assembly} {word : List Lexeme} {lexeme : Lexeme}
    (fed : feed .expression .start word = some state) :
    ¬ Viable (word ++ [lexeme]) ↔ (state.move .expression lexeme).next? = none := by
  rw [viable_iff_feed, feed_concat fed, ← Option.ne_none_iff_exists', not_not]

/-- A token that cannot follow the tokens before it, though these can be continued. The end of input
can follow only a whole expression. -/
structure Misplaced (text : List Char) (before : List Token) (token : Token)
    (behind : List Token) : Prop where
  shape : (Lexer.scan ⟨text, 0⟩).tokens = before ++ token :: behind
  earlier : ∀ other ∈ before, other.pos < token.pos
  later : ∀ other ∈ behind, token.pos < other.pos
  viable : Viable (before.map Token.lexeme)
  stuck : ¬ Viable ((before ++ [token]).map Token.lexeme)
  unfinished : token.lexeme = .endOfInput →
    token.pos = text.length ∧ ¬ ∃ tree, Derives .expression (before.map Token.lexeme) tree

section

variable {text : List Char} {limit : Int} {before behind : List Token} {token : Token}
  {result : Except ParseFault Tree}

theorem misplaced_of_refused {state : Assembly}
    (shape : (Lexer.scan ⟨text, 0⟩).tokens = before ++ token :: behind)
    (fed : feed .expression .start (before.map Token.lexeme) = some state)
    (refused : (state.move .expression token.lexeme).next? = none)
    (unfinished : token.lexeme = .endOfInput → ∀ sum term, state ≠ .operator sum term []) :
    Misplaced text before token behind := by
  have sorted := Lexer.scan_sorted ⟨text, 0⟩
  have ended := Lexer.pos_of_end ⟨text, 0⟩
  rw [shape, List.pairwise_append, List.pairwise_cons] at sorted
  rw [shape] at ended
  obtain ⟨-, ⟨later, -⟩, between⟩ := sorted
  refine ⟨shape, ?_, later, viable_iff_feed.mpr ⟨state, fed⟩, ?_, ?_⟩
  · intro other member
    exact between other member token List.mem_cons_self
  · rw [List.map_append, List.map_singleton]
    exact (not_viable_iff fed).mpr refused
  · intro ends
    refine ⟨ended token (List.mem_append_right _ List.mem_cons_self) ends, ?_⟩
    intro ⟨tree, derived⟩
    obtain ⟨sum, term, complete, -⟩ := feed_of_derives derived
    rw [fed] at complete
    exact unfinished ends sum term (Option.some.inj complete)

theorem outcome_of_misplaced (enough : (text.count '(' : Int) ≤ limit)
    (outcome : Outcome (Lexer.scan ⟨text, 0⟩) (some limit) result)
    (misplaced : Misplaced text before token behind) :
    ∃ expected, result = .error (.unexpected expected token.kind token.pos) ∧
      expected.text = wanted (before.map Token.lexeme) := by
  obtain ⟨state, fed⟩ := viable_iff_feed.mp misplaced.viable
  have stuck := misplaced.stuck
  rw [List.map_append, List.map_singleton, not_viable_iff fed] at stuck
  have fits := fits_of_scan enough ⟨_, misplaced.shape.symm⟩
  refine ⟨state.expected, ?_, expected_text_of_feed fed⟩
  apply outcome_of_refused outcome misplaced.shape fits fed stuck
  rintro ends sum term rfl
  exact (misplaced.unfinished ends).2 ⟨_, derives_of_feed fed⟩

theorem outcome_of_lexical (enough : (text.count '(' : Int) ≤ limit)
    (outcome : Outcome (Lexer.scan ⟨text, 0⟩) (some limit) result) {fault : LexFault}
    (failed : (Lexer.scan ⟨text, 0⟩).fault = some fault)
    (viable : Viable ((Lexer.scan ⟨text, 0⟩).tokens.map Token.lexeme)) :
    result = .error (.lexical fault) := by
  obtain ⟨state, fed⟩ := viable_iff_feed.mp viable
  exact outcome_of_fault outcome failed (fits_of_scan enough (List.dropLast_prefix _)) fed

end

/-- With room for all parentheses of the text, a parse that meets an unexpected token reports the
misplaced one and what its place wanted, and a lexical fault is reported exactly when the tokens
before it can be continued. -/
theorem parse_diagnosis (text : List Char) (limit : Int)
    (enough : (text.count '(' : Int) ≤ limit) :
    (∀ expected found pos, parse text (some limit) = .error (.unexpected expected found pos) ↔
      ∃ before token behind, Misplaced text before token behind ∧ token.kind = found ∧
        token.pos = pos ∧ expected.text = wanted (before.map Token.lexeme)) ∧
    ∀ fault, parse text (some limit) = .error (.lexical fault) ↔
      tokenize text = .error fault ∧
        Viable ((Lexer.scan ⟨text, 0⟩).tokens.map Token.lexeme) := by
  have outcome := parse_outcome text (some limit)
  refine ⟨fun expected found pos => ⟨?_, ?_⟩, fun fault => ⟨?_, ?_⟩⟩
  · intro failed
    rw [failed] at outcome
    cases outcome with
    | refuse shape _ fed refused unfinished =>
        exact ⟨_, _, _, misplaced_of_refused shape fed refused unfinished, rfl, rfl,
          expected_text_of_feed fed⟩
  · rintro ⟨before, token, behind, misplaced, rfl, rfl, words⟩
    obtain ⟨other, failed, text⟩ := outcome_of_misplaced enough outcome misplaced
    rw [failed, Expected.text_injective (text.trans words.symm)]
  · intro failed
    rw [failed] at outcome
    cases outcome with
    | lexical first _ fed => exact ⟨tokenize_eq_error_iff.mpr first, viable_iff_feed.mpr ⟨_, fed⟩⟩
  · intro ⟨first, viable⟩
    exact outcome_of_lexical enough outcome (tokenize_eq_error_iff.mp first) viable

/-- In `(1+*2$` the second operator is reported, not the fault behind it. -/
theorem parse_diagnosis_before_fault :
    (("(1+*2$".toList.count '(' : Nat) : Int) ≤ 1 ∧
      ∃ before token behind, Misplaced "(1+*2$".toList before token behind ∧
        token.kind = .operator ∧ token.pos = 3 ∧
          Expected.operand.text = wanted (before.map Token.lexeme) :=
  ⟨by decide, ((parse_diagnosis "(1+*2$".toList 1 (by decide)).1 .operand .operator 3).mp (by cbv)⟩

end Reckoner
