import Reckoner.Lexer.Feed
import Reckoner.Lexer.Flaw
import Reckoner.Proofs.Composition
import Mathlib

/-!
Lexical faults. Where no numeral runs over a cut, the flaws of a text are those of both its parts
(`flaw_append_iff`). A text is read up to its first flaw, and what stands in front of that is a text
of its own with the same tokens (`tokenize_first_flaw`).
-/

namespace Reckoner

section

variable {front rest digits : List Char} {fault : LexFault}

theorem Broken.not_both (broken : Broken front rest) {last first : Char}
    (before : last ∈ front.getLast?) (behind : first ∈ rest.head?) :
    last.isDigit = false ∨ first.isDigit = false := by
  cases decimal : last.isDigit with
  | false => exact .inl rfl
  | true => exact .inr (broken last before decimal first behind)

theorem exists_last_digit (nonempty : digits ≠ [])
    (areDigits : ∀ digit ∈ digits, digit.isDigit = true)
    (front : List Char) : ∃ last ∈ (front ++ digits).getLast?, last.isDigit = true := by
  refine ⟨digits.getLast nonempty, ?_, areDigits _ (List.getLast_mem nonempty)⟩
  rw [List.getLast?_append_of_ne_nil _ nonempty, List.getLast?_eq_getLast_of_ne_nil nonempty]
  rfl

theorem Flaw.behind (flaw : Flaw rest fault) (broken : Broken front rest) :
    Flaw (front ++ rest) (fault.relocate (· + front.length)) := by
  cases flaw with
  | @foreign before after char foreign =>
      have flaw : Flaw ((front ++ before) ++ char :: after) _ := .foreign foreign
      simpa [LexFault.relocate, Int.add_comm] using flaw
  | @tooGreat before digits after nonempty areDigits start stop great =>
      have edge : ∀ char ∈ (front ++ before).getLast?, char.isDigit = false := by
        rcases List.eq_nil_or_concat before with rfl | ⟨others, last, rfl⟩
        · intro char final
          rw [List.append_nil] at final
          obtain ⟨digit, digits, rfl⟩ := List.exists_cons_of_ne_nil nonempty
          have first := areDigits digit List.mem_cons_self
          rcases broken.not_both final rfl with undigited | undigited'
          · exact undigited
          · rw [first] at undigited'
            cases undigited'
        · intro char final
          exact start char (by simpa using final)
      have flaw : Flaw ((front ++ before) ++ (digits ++ after)) _ :=
        .tooGreat nonempty areDigits edge stop great
      simpa [LexFault.relocate, Int.add_comm] using flaw

theorem Flaw.before (flaw : Flaw front fault) (broken : Broken front rest) :
    Flaw (front ++ rest) fault := by
  cases flaw with
  | foreign foreign =>
      rw [List.append_assoc, List.cons_append]
      exact .foreign foreign
  | @tooGreat before digits after nonempty areDigits start stop great =>
      rw [List.append_assoc, List.append_assoc]
      refine .tooGreat nonempty areDigits start ?_ great
      cases after with
      | cons next after => exact stop
      | nil =>
          obtain ⟨last, final, decimal⟩ := exists_last_digit nonempty areDigits before
          rw [List.append_nil] at broken
          exact broken last final decimal

theorem run_at_or_behind {before after : List Char}
    (cuts_eq : before ++ (digits ++ after) = front ++ rest) (nonempty : digits ≠ [])
    (areDigits : ∀ digit ∈ digits, digit.isDigit = true) (broken : Broken front rest) :
    (∃ middle, before = front ++ middle) ∨ ∃ middle, front = before ++ (digits ++ middle) := by
  obtain ⟨digit, digits, rfl⟩ := List.exists_cons_of_ne_nil nonempty
  rcases cut_at_or_behind cuts_eq with beyond | ⟨middle, rfl⟩
  · exact .inl beyond
  · right
    simp only [List.append_assoc, List.cons_append, List.append_cancel_left_eq,
      List.cons.injEq, true_and] at cuts_eq
    rcases List.append_eq_append_iff.mp cuts_eq with ⟨others, rfl, -⟩ | ⟨others, rfl, rfl⟩
    · exact ⟨others, rfl⟩
    · cases others with
      | nil => exact ⟨[], by simp⟩
      | cons first others =>
          -- The first digits would end the one part, and the next one would begin the other.
          have inner : ∀ char ∈ digit :: middle, char.isDigit = true := by
            intro char member
            apply areDigits
            simp only [List.mem_cons, List.mem_append] at member ⊢
            exact member.imp_right .inl
          obtain ⟨last, final, decimal⟩ := exists_last_digit (List.cons_ne_nil _ _) inner before
          have undigited := broken last final decimal first rfl
          rw [areDigits first (by simp)] at undigited
          cases undigited

theorem flaw_append_iff (broken : Broken front rest) :
    Flaw (front ++ rest) fault ↔
      Flaw front fault ∨ ∃ later, Flaw rest later ∧ fault = later.relocate (· + front.length) := by
  constructor
  · intro flaw
    generalize text_eq : front ++ rest = text at flaw
    cases flaw with
    | @foreign before after char foreign =>
        rcases cut_at_or_behind text_eq.symm with ⟨middle, rfl⟩ | ⟨middle, rfl⟩
        · rw [List.append_assoc, List.append_cancel_left_eq] at text_eq
          subst text_eq
          refine .inr ⟨_, .foreign foreign, ?_⟩
          simp [LexFault.relocate, Int.add_comm]
        · exact .inl (.foreign foreign)
    | @tooGreat before digits after nonempty areDigits start stop great =>
        rcases run_at_or_behind text_eq.symm nonempty areDigits broken with
          ⟨middle, rfl⟩ | ⟨middle, rfl⟩
        · rw [List.append_assoc, List.append_cancel_left_eq] at text_eq
          subst text_eq
          refine .inr
            ⟨_, .tooGreat nonempty areDigits (fun char final => start char ?_) stop great, ?_⟩
          · rw [List.getLast?_append, Option.mem_def.mp final]
            rfl
          · simp [LexFault.relocate, Int.add_comm]
        · refine .inl (.tooGreat nonempty areDigits start (fun char first => stop char ?_) great)
          simp only [List.append_assoc, List.append_cancel_left_eq] at text_eq
          rw [← text_eq, List.head?_append, Option.mem_def.mp first]
          rfl
  · rintro (flaw | ⟨later, flaw, rfl⟩)
    · exact flaw.before broken
    · exact flaw.behind broken

end

section

variable {text chars blanks rest : List Char} {lexeme : Lexeme} {fault : LexFault}

theorem flawless_of_plain (plain : ∀ char ∈ text, ¬ Foreign char ∧ char.isDigit = false) :
    ¬ Flaw text fault := by
  intro flaw
  cases flaw with
  | foreign foreign => exact (plain _ (by simp)).1 foreign
  | @tooGreat front digits behind nonempty areDigits =>
      have digit := areDigits _ (List.head_mem nonempty)
      have other := (plain (digits.head nonempty) (by simp)).2
      rw [digit] at other
      cases other

theorem Blank.flawless (blank : Blank blanks) : ¬ Flaw blanks fault := by
  refine flawless_of_plain fun char member => ⟨fun foreign => ?_, blank.is_digit_eq_false member⟩
  have visible := foreign.1
  rw [blank char member] at visible
  cases visible

theorem Spells.flawless (spells : Spells lexeme chars) : ¬ Flaw chars fault := by
  cases spells with
  | operator op =>
      apply flawless_of_plain
      intro char member
      rw [List.mem_singleton.mp member]
      exact ⟨fun foreign => foreign.2.2 (by cases op <;> decide), op.symbol_class.2⟩
  | leftParen | rightParen =>
      apply flawless_of_plain
      intro char member
      rw [List.mem_singleton.mp member]
      exact ⟨fun foreign => foreign.2.2 (by decide), by decide⟩
  | integer nonempty areDigits low =>
      intro flaw
      cases flaw with
      | @foreign front behind char foreign =>
          have digit := areDigits char (by simp)
          rw [foreign.2.1] at digit
          cases digit
      | @tooGreat front digits behind _ _ start stop great =>
          have begins : front = [] := by
            rcases List.eq_nil_or_concat front with nil_eq | ⟨others, last, rfl⟩
            · exact nil_eq
            · have digit := areDigits last (by simp)
              rw [start last (by simp)] at digit
              cases digit
          have ends : behind = [] := by
            cases behind with
            | nil => rfl
            | cons next behind =>
                have digit := areDigits next (by simp)
                rw [stop next rfl] at digit
                cases digit
          subst begins ends
          rw [List.nil_append, List.append_nil] at low
          exact absurd great (Nat.not_lt.mpr low)

theorem Blank.broken (blank : Blank blanks) (rest : List Char) : Broken blanks rest := by
  have edge : Broken [] (blanks ++ rest) := nofun
  exact edge.behind_blanks blank

theorem Laid.flawless {start : Nat} {tokens : List Token} (laid : Laid start tokens text) :
    ¬ Flaw text fault := by
  induction laid generalizing fault with
  | finish blank => exact blank.flawless
  | @token start blanks chars rest lexeme tokens blank spells closed _ ih =>
      intro flaw
      rw [flaw_append_iff (.behind_lexeme spells closed blanks),
        flaw_append_iff (blank.broken chars)] at flaw
      rcases flaw with (inside | ⟨later, inside, -⟩) | ⟨later, inside, -⟩
      · exact blank.flawless inside
      · exact spells.flawless inside
      · exact ih inside

end

theorem Closed.front {lexeme : Lexeme} {front rest : List Char}
    (closed : Closed lexeme (front ++ rest)) : Closed lexeme front := by
  cases lexeme with
  | integer value =>
      cases front with
      | nil => trivial
      | cons => exact closed
  | operator | leftParen | rightParen | endOfInput => trivial

theorem Broken.prepend {before front rest : List Char} (first : Broken before (front ++ rest))
    (second : Broken front rest) : Broken (before ++ front) rest := by
  rcases List.eq_nil_or_concat front with rfl | ⟨others, last, rfl⟩
  · simpa using first
  · intro char final
    exact second char (by simpa using final)

theorem Lexeme.of_char_eq_none_iff {char : Char} :
    ofChar? char = none ↔ char ∉ ['+', '-', '*', '/', '(', ')'] := by
  simp only [ofChar?, Operator.ofSymbol?]
  repeat' split
  all_goals simp_all

/-- A flaw of the rest of a text, and the text up to it as its tokens lie in it. -/
structure Stopped (lexer : Lexer) (tokens : List Token) (fault : LexFault) (front rest : List Char)
    (flaw : LexFault) : Prop where
  shape : lexer.rest = front ++ rest
  broken : Broken front rest
  laid : Laid lexer.cursor
    (tokens ++ [⟨.endOfInput, (lexer.cursor + front.length : Nat)⟩]) front
  wrong : Flaw rest flaw
  first : flaw.pos = 0
  placed : fault = flaw.relocate (· + (lexer.cursor + front.length : Nat))

namespace Lexer

theorem stopped_of_next {lexer stopped : Lexer} {fault : LexFault}
    (read : lexer.next = (.error fault, stopped)) (within : lexer.cursor ≤ lexer.text.length) :
    ∃ front rest flaw, Stopped lexer [] fault front rest flaw := by
  obtain ⟨seen, length, sees, rfl⟩ := sees_of_fault read
  generalize shape : lexer.rest = text at sees
  cases sees with
  | @outOfRange blanks digits rest blank nonempty areDigits ends refused =>
      rw [List.append_assoc] at shape
      have great := (Numeral.read_eq_none_iff areDigits).mp refused
      have flaw : Flaw ([] ++ (digits ++ rest)) _ :=
        .tooGreat nonempty areDigits (by simp) ends great
      refine ⟨blanks, digits ++ rest, _, shape, blank.broken _, .finish blank, flaw, rfl, ?_⟩
      simp [LexFault.relocate, origin_of_within within, Int.add_comm]
  | @unexpected blanks rest char blank visible undigited unspelled =>
      have foreign : Foreign char := ⟨visible, undigited, Lexeme.of_char_eq_none_iff.mp unspelled⟩
      have flaw : Flaw ([] ++ char :: rest) _ := .foreign foreign
      refine ⟨blanks, char :: rest, _, shape, blank.broken _, .finish blank, flaw, rfl, ?_⟩
      simp [LexFault.relocate, origin_of_within within, Int.add_comm]

theorem stopped_of_scan (lexer : Lexer) (within : lexer.cursor ≤ lexer.text.length)
    {fault : LexFault} (failed : lexer.scan.fault = some fault) :
    ∃ front rest flaw, Stopped lexer lexer.scan.tokens fault front rest flaw := by
  revert within failed
  refine scan_induction (motive := fun lexer scan => lexer.cursor ≤ lexer.text.length →
    scan.fault = some fault → ∃ front rest flaw, Stopped lexer scan.tokens fault front rest flaw)
    ?_ ?_ ?_ lexer
  · rintro lexer stopped _ read within ⟨⟩
    exact stopped_of_next read within
  · rintro lexer after token read ends within ⟨⟩
  · intro lexer after token read inside ih within failed
    have moved := next_cursor_le lexer within
    rw [read] at moved
    obtain ⟨seen, length, sees, rfl, rfl⟩ := sees_of_next read
    obtain ⟨blanks, chars, rest, shape, blank, spells, closed, place, rfl⟩ := sees.spelled inside
    obtain ⟨front, behind, flaw, further, broken, laid, wrong, first, placed⟩ := ih moved failed
    -- The front grows by the blanks and the characters of the token, and the flaw stays.
    rw [← List.length_append, rest_of_append shape] at further
    subst further
    refine ⟨blanks ++ chars ++ front, behind, flaw, ?_, ?_, ?_, wrong, first, ?_⟩
    · rw [shape]
      simp only [List.append_assoc]
    · exact (Broken.behind_lexeme spells closed blanks).prepend broken
    · rw [← Nat.add_assoc] at laid
      have laid := Laid.token blank spells closed.front laid
      simpa [Token.relocate, place, origin_of_within within, Int.add_comm, Nat.add_assoc] using laid
    · rw [placed]
      simp [Nat.add_assoc]

end Lexer

section

variable {text : List Char} {fault other : LexFault}

theorem Flaw.placed (flaw : Flaw text fault) :
    ∃ index : Nat, fault.pos = index ∧ text[index]? = some fault.char := by
  cases flaw with
  | @foreign front behind char foreign => exact ⟨front.length, rfl, by simp [LexFault.char]⟩
  | @tooGreat front digits behind nonempty =>
      obtain ⟨digit, digits, rfl⟩ := List.exists_cons_of_ne_nil nonempty
      exact ⟨front.length, rfl, by simp [LexFault.char]⟩

theorem Foreign.ne_run {char : Char} {rest digits behind : List Char} (foreign : Foreign char)
    (nonempty : digits ≠ []) (areDigits : ∀ digit ∈ digits, digit.isDigit = true) :
    char :: rest ≠ digits ++ behind := by
  obtain ⟨digit, digits, rfl⟩ := List.exists_cons_of_ne_nil nonempty
  rintro ⟨⟩
  have decimal := areDigits _ List.mem_cons_self
  rw [foreign.2.1] at decimal
  cases decimal

theorem Flaw.unique (flaw : Flaw text fault) (flawOther : Flaw text other)
    (pos_eq : fault.pos = other.pos) : fault = other := by
  cases flaw with
  | @foreign front rest char foreign =>
      generalize text_eq : front ++ char :: rest = text at flawOther
      cases flawOther with
      | foreign =>
          obtain ⟨rfl, tails⟩ := List.append_inj text_eq (Int.ofNat.inj pos_eq)
          cases tails
          rfl
      | tooGreat nonempty areDigits =>
          have tails := (List.append_inj text_eq (Int.ofNat.inj pos_eq)).2
          exact absurd tails (foreign.ne_run nonempty areDigits)
  | @tooGreat front digits rest nonempty areDigits start stop great =>
      generalize text_eq : front ++ (digits ++ rest) = text at flawOther
      cases flawOther with
      | foreign foreign =>
          have tails := (List.append_inj text_eq (Int.ofNat.inj pos_eq)).2
          exact absurd tails.symm (foreign.ne_run nonempty areDigits)
      | tooGreat _ every _ ends =>
          obtain ⟨rfl, tails⟩ := List.append_inj text_eq (Int.ofNat.inj pos_eq)
          have taken := takeWhile_digits areDigits stop
          rw [tails, takeWhile_digits every ends] at taken
          rw [taken]

theorem LexFault.message_tells (fault : LexFault) :
    (∃ before behind,
      fault.message = before ++ " at position " ++ toString fault.pos ++ behind) ∧
    ∀ digits pos, fault = .outOfRange digits pos →
      ∃ before, fault.message = before ++ String.ofList digits := by
  refine ⟨?_, ?_⟩
  · cases fault with
    | unexpected char pos =>
        exact ⟨"unexpected character " ++ quoted [char], "", by rw [String.append_empty]; rfl⟩
    | outOfRange digits pos =>
        refine ⟨"integer literal out of range", ": " ++ String.ofList digits, ?_⟩
        rw [← String.append_assoc]
        rfl
  · rintro digits pos rfl
    exact ⟨_, rfl⟩

theorem Feed.pulls_of_fault (lexer : Lexer) (failed : lexer.scan.fault = some fault) :
    (serveAll ⟨lexer, false⟩ (List.replicate (lexer.scan.tokens.length + 1) .pull)).map Prod.fst =
      lexer.scan.tokens.map (fun token => .reading (.ok token)) ++ [.reading (.error fault)] := by
  revert failed
  refine Lexer.scan_induction (motive := fun lexer scan => scan.fault = some fault →
    (serveAll ⟨lexer, false⟩ (List.replicate (scan.tokens.length + 1) .pull)).map Prod.fst =
      scan.tokens.map (fun token => .reading (.ok token)) ++ [.reading (.error fault)])
    ?_ ?_ ?_ lexer
  · rintro lexer stopped _ read ⟨⟩
    simp [Session.serveAll, serve, pull, read]
  · rintro lexer after token read ends ⟨⟩
  · intro lexer after token read inside ih failed
    have further := ih failed
    simp [Session.serveAll, serve, pull, read, continues, inside, List.replicate_succ] at further ⊢
    exact further

end

section

variable {text : List Char} {fault : LexFault}

theorem fault_of_flaw (flaw : Flaw text fault) : ∃ first, tokenize text = .error first := by
  cases read : tokenize text with
  | ok tokens => exact absurd flaw (tokenize_eq_ok_iff_laid.mp read).flawless
  | error first => exact ⟨first, rfl⟩

theorem first_flaw_of_tokenize (failed : tokenize text = .error fault) :
    FirstFlaw text fault ∧ ∃ index : Nat, fault.pos = index ∧ tokenize (text.take index) =
      .ok ((Lexer.scan ⟨text, 0⟩).tokens ++ [⟨.endOfInput, index⟩]) := by
  have scanned := tokenize_eq_error_iff.mp failed
  obtain ⟨front, rest, flaw, stopped⟩ := Lexer.stopped_of_scan ⟨text, 0⟩ (Nat.zero_le _) scanned
  obtain ⟨shape, broken, laid, wrong, first, rfl⟩ := stopped
  have text_eq : text = front ++ rest := shape
  simp only [Nat.zero_add] at laid ⊢
  have pos : (flaw.relocate (· + (front.length : Nat))).pos = front.length := by
    rw [LexFault.pos_relocate, first, Int.zero_add]
  refine ⟨⟨text_eq ▸ wrong.behind broken, fun other flawOther => ?_⟩, front.length, pos, ?_⟩
  · rw [text_eq, flaw_append_iff broken] at flawOther
    rcases flawOther with inside | ⟨later, behind, rfl⟩
    · exact absurd inside laid.flawless
    · obtain ⟨index, place, -⟩ := behind.placed
      rw [pos, LexFault.pos_relocate, place]
      omega
  · have cut : text.take front.length = front := by rw [text_eq, List.take_left]
    rw [cut]
    exact tokenize_eq_ok_iff_laid.mpr laid

theorem tokenize_eq_error_iff_first : tokenize text = .error fault ↔ FirstFlaw text fault := by
  constructor
  · exact fun failed => (first_flaw_of_tokenize failed).1
  · intro ⟨flaw, first⟩
    obtain ⟨other, failed⟩ := fault_of_flaw flaw
    obtain ⟨⟨flawOther, before⟩, -⟩ := first_flaw_of_tokenize failed
    have pos_eq := Int.le_antisymm (before fault flaw) (first other flawOther)
    rw [failed, flawOther.unique flaw pos_eq]

/-- A text cannot be read just when it holds a foreign character or too great a run of digits, and
the fault is the leftmost of these. It tells the place, the character that stands there and all
digits of a run. The text in front of it has the tokens that a stream yields before the fault. -/
theorem tokenize_first_flaw (text : List Char) :
    ((∃ fault, tokenize text = .error fault) ↔ ∃ fault, Flaw text fault) ∧
    ∀ fault, (tokenize text = .error fault ↔ FirstFlaw text fault) ∧
      (tokenize text = .error fault → ∃ (index : Nat) (tokens : List Token),
        fault.pos = index ∧ text[index]? = some fault.char ∧
        (∃ before behind,
          fault.message = before ++ " at position " ++ toString index ++ behind) ∧
        (∀ digits pos, fault = .outOfRange digits pos →
          ∃ before, fault.message = before ++ String.ofList digits) ∧
        tokenize (text.take index) = .ok (tokens ++ [⟨.endOfInput, index⟩]) ∧
        (Feed.serveAll ⟨⟨text, 0⟩, false⟩
          (List.replicate (tokens.length + 1) .pull)).map Prod.fst =
            tokens.map (fun token => .reading (.ok token)) ++ [.reading (.error fault)]) := by
  refine ⟨⟨?_, ?_⟩, fun fault => ⟨tokenize_eq_error_iff_first, fun failed => ?_⟩⟩
  · rintro ⟨fault, failed⟩
    exact ⟨fault, (tokenize_eq_error_iff_first.mp failed).1⟩
  · rintro ⟨fault, flaw⟩
    exact fault_of_flaw flaw
  · obtain ⟨⟨flaw, -⟩, index, place, front⟩ := first_flaw_of_tokenize failed
    obtain ⟨spot, pos_eq, char⟩ := flaw.placed
    obtain rfl : index = spot := Int.ofNat.inj (place.symm.trans pos_eq)
    obtain ⟨⟨before, behind, message⟩, digits⟩ := fault.message_tells
    rw [place] at message
    exact ⟨index, _, place, char, ⟨before, behind, message⟩, digits, front,
      Feed.pulls_of_fault ⟨text, 0⟩ (tokenize_eq_error_iff.mp failed)⟩

/-- A numeral that fits the range for all its zeros, one that does not, and a foreign character. -/
theorem tokenize_first_flaw_run :
    let text := "0012 0099999999999999999999 $".toList
    let fault := LexFault.outOfRange "0099999999999999999999".toList 5
    tokenize text = .error fault ∧ FirstFlaw text fault ∧
      ∃ tokens, tokenize (text.take 5) = .ok (tokens ++ [⟨.endOfInput, 5⟩]) := by
  have failed : tokenize "0012 0099999999999999999999 $".toList =
      .error (.outOfRange "0099999999999999999999".toList 5) := by cbv
  obtain ⟨exact, tells⟩ := (tokenize_first_flaw _).2 (.outOfRange _ 5)
  obtain ⟨index, tokens, place, -, -, -, front, -⟩ := tells failed
  obtain rfl : 5 = index := Int.ofNat.inj place
  exact ⟨failed, exact.mp failed, tokens, front⟩

end

end Reckoner
