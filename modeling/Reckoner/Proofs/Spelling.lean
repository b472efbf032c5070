import Reckoner.Proofs.Grammar
import Reckoner.Proofs.Layout
import Reckoner.Proofs.Nesting
import Reckoner.Tree.Spelling

namespace Reckoner

theorem derives_of_factor {word : List Lexeme} {tree : Tree} (derived : Derives .factor word tree)
    (kind : Phrase) : Derives kind word tree := by
  cases kind with
  | factor => exact derived
  | term => exact .factor derived
  | expression => exact .term (.factor derived)

theorem derives_expression {kind : Phrase} {word : List Lexeme} {tree : Tree}
    (derived : Derives kind word tree) : Derives .expression word tree := by
  cases kind with
  | factor => exact .term (.factor derived)
  | term => exact .term derived
  | expression => exact derived

namespace Spelling

theorem parenthesize_succ (pairs : Nat) (inner : List Lexeme) :
    parenthesize (pairs + 1) inner = .leftParen :: parenthesize pairs inner ++ [.rightParen] := by
  simp [parenthesize, List.replicate_succ, ← List.replicate_succ']

theorem derives_parenthesize {kind : Phrase} {inner : List Lexeme} {tree : Tree}
    (derived : Derives kind inner tree) (pairs : Nat) :
    Derives kind (parenthesize pairs inner) tree := by
  induction pairs with
  | zero => simpa [parenthesize] using derived
  | succ pairs ih =>
      rw [parenthesize_succ]
      exact derives_of_factor (.group (derives_expression ih)) kind

def phrase : Spelling → Phrase
  | num _ _ => .factor
  | bin _ op _ _ => op.level.phrase

theorem derives_guarded {kind : Phrase} {inner : List Lexeme} {tree : Tree} {guard : Bool}
    (derived : Derives .expression inner tree)
    (plain : guard = false → Derives kind inner tree) :
    Derives kind (parenthesize guard.toNat inner) tree := by
  cases guard with
  | false => exact derives_parenthesize (plain rfl) 0
  | true => exact derives_of_factor (.group derived) kind

theorem derives_left {op : Operator} {operand : Spelling}
    (derived : Derives operand.phrase operand.lexemes operand.tree) :
    Derives op.level.phrase (parenthesize (guardsLeft op operand).toNat operand.lexemes)
      operand.tree := by
  apply derives_guarded (derives_expression derived)
  intro bare
  cases operand with
  | num extra value => exact derives_of_factor derived _
  | bin extra inner left right =>
      cases op <;> cases inner <;> first | exact derived | exact .term derived | cases bare

theorem derives_right {op : Operator} {operand : Spelling}
    (derived : Derives operand.phrase operand.lexemes operand.tree) :
    Derives op.level.operand (parenthesize (guardsRight op operand).toNat operand.lexemes)
      operand.tree := by
  apply derives_guarded (derives_expression derived)
  intro bare
  cases operand with
  | num extra value => exact derives_of_factor derived _
  | bin extra inner left right => cases op <;> cases inner <;> first | exact derived | cases bare

theorem derives_spelling (spelling : Spelling) :
    Derives spelling.phrase spelling.lexemes spelling.tree := by
  induction spelling with
  | num extra value => exact derives_parenthesize (.integer value) extra
  | bin extra op left right leftward rightward =>
      apply derives_parenthesize
      exact derives_round rfl (derives_left leftward) (derives_right rightward)

end Spelling

def Undigited (text : List Char) : Prop := ∀ char ∈ text.head?, char.isDigit = false

theorem Undigited.closed {rest : List Char} (undigited : Undigited rest) (lexeme : Lexeme) :
    Closed lexeme rest := by
  cases lexeme with
  | operator | leftParen | rightParen | endOfInput => trivial
  | integer value =>
      cases rest with
      | nil => trivial
      | cons char rest => exact undigited char rfl

theorem spells_chars {value : Int} (low : 0 ≤ value) (high : value ≤ Numeral.greatest) :
    Spells (.integer value) (Lexeme.integer value).chars := by
  lift value to Nat using low
  have chars : (Lexeme.integer value).chars = Nat.toDigits 10 value := Nat.toList_repr
  have value_eq : Numeral.value (Nat.toDigits 10 value) = value := by
    simp [Numeral.value]
  have spelled : Spells (.integer (Numeral.value (Nat.toDigits 10 value)))
      (Nat.toDigits 10 value) := by
    refine .integer Nat.toDigits_ne_nil ?_ ?_
    · intro digit member
      exact Nat.isDigit_of_mem_toDigits (by decide) (by decide) member
    · omega
  rw [value_eq] at spelled
  rw [chars]
  exact spelled

theorem laid_without_blanks {start : Nat} {chars rest : List Char} {lexeme : Lexeme}
    {tokens : List Token} (spells : Spells lexeme chars) (closed : Closed lexeme rest)
    (laid : Laid (start + chars.length) tokens rest) :
    Laid start (⟨lexeme, start⟩ :: tokens) (chars ++ rest) :=
  @Laid.token start [] chars rest lexeme tokens (by simp [Blank]) spells closed laid

theorem laid_nil (start : Nat) : Laid start [⟨.endOfInput, start⟩] [] :=
  @Laid.finish start [] (by simp [Blank])

/-- In front of every text that starts without a digit the characters of the word lie as tokens. -/
def Lies (word : List Lexeme) : Prop :=
  ∀ start rest behind, Undigited rest →
    Laid (start + (word.flatMap Lexeme.chars).length) behind rest →
      ∃ tokens, Laid start tokens (word.flatMap Lexeme.chars ++ rest) ∧
        tokens.map Token.lexeme = word ++ behind.map Token.lexeme

theorem lies_nil : Lies [] := fun _ _ behind _ laid => ⟨behind, by simpa using laid, rfl⟩

theorem lies_integer {value : Int} (low : 0 ≤ value) (high : value ≤ Numeral.greatest) :
    Lies [.integer value] := by
  intro start rest behind undigited laid
  rw [List.flatMap_singleton] at laid ⊢
  exact ⟨_, laid_without_blanks (spells_chars low high) (undigited.closed _) laid, rfl⟩

section

variable {char : Char} {lexeme : Lexeme} {word before : List Lexeme}

theorem spells_symbol (found : Lexeme.ofChar? char = some lexeme) :
    Spells lexeme [char] ∧ lexeme.chars = [char] ∧ char.isDigit = false := by
  rcases Lexeme.of_char_eq_some_iff.mp found with ⟨rfl, rfl⟩ | ⟨rfl, rfl⟩ | ⟨op, rfl, rfl⟩
  · exact ⟨.leftParen, rfl, by decide⟩
  · exact ⟨.rightParen, rfl, by decide⟩
  · exact ⟨.operator op, rfl, op.symbol_class.2⟩

theorem closed_symbol (found : Lexeme.ofChar? char = some lexeme) (rest : List Char) :
    Closed lexeme rest := by
  rcases Lexeme.of_char_eq_some_iff.mp found with ⟨rfl, rfl⟩ | ⟨rfl, rfl⟩ | ⟨op, rfl, rfl⟩
  all_goals trivial

theorem lies_symbol (found : Lexeme.ofChar? char = some lexeme) (lies : Lies word) :
    Lies (lexeme :: word) := by
  intro start rest behind undigited laid
  obtain ⟨spells, chars, -⟩ := spells_symbol found
  rw [List.flatMap_cons, chars, List.length_append, ← Nat.add_assoc] at laid
  obtain ⟨tokens, placed, lexemes_eq⟩ := lies _ rest behind undigited laid
  rw [List.flatMap_cons, chars, List.append_assoc]
  exact ⟨_, laid_without_blanks spells (closed_symbol found _) placed, by simp [lexemes_eq]⟩

theorem lies_before_symbol (found : Lexeme.ofChar? char = some lexeme) (first : Lies before)
    (second : Lies (lexeme :: word)) : Lies (before ++ lexeme :: word) := by
  intro start rest behind undigited laid
  obtain ⟨-, chars, other⟩ := spells_symbol found
  rw [List.flatMap_append, List.length_append, ← Nat.add_assoc] at laid
  obtain ⟨tokens, placed, lexemes_eq⟩ := second _ rest behind undigited laid
  have separate : Undigited ((lexeme :: word).flatMap Lexeme.chars ++ rest) := by
    simpa [Undigited, chars] using other
  obtain ⟨more, laid, shape⟩ := first start _ tokens separate placed
  exact ⟨more, by simpa using laid, by simp [shape, lexemes_eq]⟩

end

theorem lies_of_derives {kind : Phrase} {word : List Lexeme} {tree : Tree}
    (derived : Derives kind word tree) (literal : tree.Literal) : Lies word := by
  have opening : Lexeme.ofChar? '(' = some .leftParen := rfl
  have closing : Lexeme.ofChar? ')' = some .rightParen := rfl
  have joining (op : Operator) : Lexeme.ofChar? op.symbol = some (.operator op) :=
    Lexeme.of_char_eq_some_iff.mpr (.inr (.inr ⟨op, rfl, rfl⟩))
  induction derived with
  | integer value => exact lies_integer literal.1 literal.2
  | group _ ih =>
      have ended := lies_symbol closing lies_nil
      exact lies_symbol opening (lies_before_symbol closing (ih literal) ended)
  | factor _ ih | term _ ih => exact ih literal
  | @product _ _ _ _ op _ _ _ left right | @sum _ _ _ _ op _ _ _ left right =>
      have joined := lies_symbol (joining op) (right literal.2)
      exact lies_before_symbol (joining op) (left literal.1) joined

theorem tokenize_of_derives {kind : Phrase} {word : List Lexeme} {tree : Tree}
    (derived : Derives kind word tree) (literal : tree.Literal) :
    ∃ tokens ended, tokenize (word.flatMap Lexeme.chars) = .ok (tokens ++ [ended]) ∧
      ended.lexeme = .endOfInput ∧ tokens.map Token.lexeme = word := by
  have nothing : Undigited [] := by simp [Undigited]
  obtain ⟨gathered, laid, lexemes_eq⟩ := lies_of_derives derived literal 0 [] _ nothing (laid_nil _)
  obtain ⟨tokens, others, rfl, front, last⟩ := List.map_eq_append_iff.mp lexemes_eq
  obtain ⟨ended, rfl, ends⟩ := List.map_eq_singleton_iff.mp last
  rw [List.append_nil] at laid
  exact ⟨tokens, ended, tokenize_eq_ok_iff_laid.mpr laid, ends, front⟩

section

variable {word before behind : List Lexeme} {limit : Int}

theorem excess_append (before behind : List Lexeme) :
    excess (before ++ behind) = excess before + excess behind := by
  simp only [excess, List.count_append]
  push_cast
  ring

theorem excess_cons (lexeme : Lexeme) (word : List Lexeme) :
    excess (lexeme :: word) = excess [lexeme] + excess word :=
  excess_append [lexeme] word

theorem le_deepest (start : Nat) (word : List Lexeme) : start ≤ deepest start word := by
  fun_induction deepest start word <;> omega

theorem excess_le_deepest (start : Nat) (front behind : List Lexeme) :
    start + excess front ≤ deepest start (front ++ behind) := by
  induction front generalizing start with
  | nil => simpa [excess] using le_deepest start behind
  | cons lexeme front ih =>
      rw [excess_cons, List.cons_append]
      cases lexeme with
      | leftParen =>
          have opened := ih (start + 1)
          simp [excess, deepest] at opened ⊢
          omega
      | rightParen =>
          have closed := ih (start - 1)
          simp [excess, deepest] at closed ⊢
          omega
      | integer | operator | endOfInput => simpa [excess, deepest] using ih start

theorem exists_deepest (start : Nat) (word : List Lexeme)
    (level : ∀ front, front <+: word → 0 ≤ start + excess front)
    (deep : start < deepest start word) :
    ∃ before behind, word = before ++ .leftParen :: behind ∧
      start + excess (before ++ [.leftParen]) = deepest start word := by
  induction word generalizing start with
  | nil => simp [deepest] at deep
  | cons lexeme word ih =>
      -- Behind the first lexeme another number of parentheses is open to begin with.
      have further (first : Nat) (moved : first = start + excess [lexeme])
          (beyond : first < deepest first word)
          (deepest_eq : deepest start (lexeme :: word) = deepest first word) :
          ∃ before behind, lexeme :: word = before ++ .leftParen :: behind ∧
            start + excess (before ++ [.leftParen]) = deepest start (lexeme :: word) := by
        have inner : ∀ front, front <+: word → 0 ≤ first + excess front := by
          intro front within
          have outer := level (lexeme :: front) (List.cons_prefix_cons.mpr ⟨rfl, within⟩)
          rw [excess_cons] at outer
          omega
        obtain ⟨before, behind, rfl, reached⟩ := ih first inner beyond
        refine ⟨lexeme :: before, behind, rfl, ?_⟩
        rw [List.cons_append, excess_cons, deepest_eq]
        omega
      cases lexeme with
      | leftParen =>
          by_cases beyond : start + 1 < deepest (start + 1) word
          · exact further (start + 1) rfl beyond rfl
          · refine ⟨[], word, rfl, ?_⟩
            have least := le_deepest (start + 1) word
            simp [deepest, excess]
            omega
      | rightParen =>
          have positive := level [.rightParen] (by simp)
          have moved : ((start - 1 : Nat) : Int) = start + excess [.rightParen] := by
            simp [excess] at positive ⊢
            omega
          simp only [deepest] at deep
          exact further (start - 1) moved (by omega) (by simp only [deepest]; omega)
      | integer | operator | endOfInput => exact further start (by simp [excess]) deep rfl

theorem fits_of_deepest_le (low : deepest 0 word ≤ limit) : Fits (some limit) word := by
  rintro before behind rfl
  refine ⟨limit, rfl, ?_⟩
  have within := excess_le_deepest 0 (before ++ [.leftParen]) behind
  rw [List.append_assoc, List.singleton_append] at within
  omega

theorem deepest_le_of_fits (level : ∀ front, front <+: word → 0 ≤ excess front)
    (opens : 1 ≤ deepest 0 word) (fits : Fits (some limit) word) : deepest 0 word ≤ limit := by
  obtain ⟨before, behind, rfl, reached⟩ := exists_deepest 0 word (by simpa using level) opens
  obtain ⟨bound, limit_eq, low⟩ := fits before behind rfl
  cases limit_eq
  omega

theorem excess_of_derives {tree : Tree} (derived : Derives .expression word tree) :
    ∀ front, front <+: word → 0 ≤ excess front := by
  rintro front ⟨behind, rfl⟩
  obtain ⟨sum, term, fed, -⟩ := Assembly.feed_of_derives derived
  obtain ⟨state, reached⟩ := Assembly.exists_feed_of_append fed
  rw [excess_of_feed reached]
  exact Int.natCast_nonneg _

end

theorem Tree.tree_spelling {tree : Tree} (literal : tree.Literal) : tree.spelling.tree = tree := by
  induction tree with
  | num value => simpa [spelling, Spelling.tree] using literal.1
  | bin op left right leftward rightward =>
      simp [spelling, Spelling.tree, leftward literal.1, rightward literal.2]
  | stray object => exact absurd literal id

section

variable {spelling : Spelling} {limit : Int}

theorem derives_written (spelling : Spelling) :
    Derives .expression spelling.lexemes spelling.tree :=
  derives_expression spelling.derives_spelling

theorem parse_text_eq_ok_iff (literal : spelling.tree.Literal) :
    parse spelling.text (some limit) = .ok spelling.tree ↔ Fits (some limit) spelling.lexemes := by
  have derived := derives_written spelling
  obtain ⟨tokens, ended, read, ends, lexemes_eq⟩ := tokenize_of_derives derived literal
  constructor
  · intro parsed
    obtain ⟨others, last, readOther, _, _, fits⟩ := parse_eq_ok_iff.mp parsed
    have tokens_eq := Except.ok.inj (read.symm.trans readOther)
    rw [← lexemes_eq, (List.append_inj' tokens_eq rfl).1]
    exact fits
  · intro fits
    refine parse_eq_ok_iff.mpr ⟨tokens, ended, read, ends, ?_, ?_⟩
    all_goals rw [lexemes_eq]
    · exact derived
    · exact fits

theorem parse_text_eq_nesting (literal : spelling.tree.Literal)
    (deep : ¬ Fits (some limit) spelling.lexemes) :
    ∃ pos, parse spelling.text (some limit) = .error (.nesting pos) := by
  by_contra admitted
  let ample : Int := max (spelling.text.count '(') (deepest 0 spelling.lexemes)
  have enough : (spelling.text.count '(' : Int) ≤ ample := le_max_left _ _
  have read : parse spelling.text (some ample) = .ok spelling.tree :=
    (parse_text_eq_ok_iff literal).mpr (fits_of_deepest_le (le_max_right _ _))
  rw [← parse_eq_of_not_nesting enough (not_exists.mp admitted)] at read
  exact deep ((parse_text_eq_ok_iff literal).mp read)

end

/-- A tree is written down in its own spelling and in all others that put more parentheses around
its parts. Each parses to the tree with any limit from its deepest nesting on, and with less is
refused for its nesting. -/
theorem parse_spelling (tree : Tree) (literal : tree.Literal) :
    tree.spelling.tree = tree ∧
    ∀ spelling : Spelling, spelling.tree = tree →
      (∀ limit : Int, deepest 0 spelling.lexemes ≤ limit →
        parse spelling.text (some limit) = .ok tree) ∧
      (1 ≤ deepest 0 spelling.lexemes → ∀ limit : Int, limit < deepest 0 spelling.lexemes →
        ∃ pos, parse spelling.text (some limit) = .error (.nesting pos)) := by
  refine ⟨Tree.tree_spelling literal, ?_⟩
  rintro spelling rfl
  refine ⟨fun limit low => ?_, fun opens limit high => ?_⟩
  · exact (parse_text_eq_ok_iff literal).mpr (fits_of_deepest_le low)
  · apply parse_text_eq_nesting literal
    intro fits
    have low := deepest_le_of_fits (excess_of_derives (derives_written spelling)) opens fits
    omega

theorem parse_spelling_product :
    (Tree.bin .mul (.bin .sub (.num 1) (.num 2)) (.num 3)).Literal ∧
    (let spelling : Spelling := .bin 0 .mul (.bin 0 .sub (.num 0 1) (.num 1 2)) (.num 0 3)
    spelling.text = "(1-(2))*3".toList ∧ deepest 0 spelling.lexemes = 2 ∧
      parse spelling.text (some 2) =
        .ok (.bin .mul (.bin .sub (.num 1) (.num 2)) (.num 3)) ∧
      ∃ pos, parse spelling.text (some 1) = .error (.nesting pos)) := by
  have literal : (Tree.bin .mul (.bin .sub (.num 1) (.num 2)) (.num 3)).Literal := by
    simp [Tree.Literal, Numeral.greatest]
  have written := (parse_spelling _ literal).2
    (.bin 0 .mul (.bin 0 .sub (.num 0 1) (.num 1 2)) (.num 0 3)) rfl
  exact ⟨literal, by decide, by decide, written.1 2 (by decide),
    written.2 (by decide) 1 (by decide)⟩

end Reckoner
