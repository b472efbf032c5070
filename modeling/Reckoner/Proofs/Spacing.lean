import Reckoner.Proofs.Calculation
import Reckoner.Proofs.Displacement
import Reckoner.Proofs.Nesting
import Mathlib

namespace Reckoner

namespace Reading

def pos : Reading → Int
  | .ok token => token.pos
  | .error fault => fault.pos

variable {reading : Reading} {first second : Int → Int}

theorem relocate_congr (pos_eq : first reading.pos = second reading.pos) :
    reading.relocate first = reading.relocate second := by
  cases reading with
  | ok token => simp_all [pos, relocate, Token.relocate]
  | error fault => cases fault <;> simp_all [pos, relocate, LexFault.relocate, LexFault.pos]

theorem pos_relocate (reading : Reading) (place : Int → Int) :
    (reading.relocate place).pos = place reading.pos := by
  cases reading with
  | ok token => rfl
  | error fault => cases fault <;> rfl

theorem relocate_relocate (reading : Reading) (first second : Int → Int) :
    (reading.relocate first).relocate second = reading.relocate (second ∘ first) := by
  cases reading with
  | ok token => rfl
  | error fault => cases fault <;> rfl

end Reading

theorem glance_pos (text : List Char) :
    (glance text).reading.pos = (text.takeWhile isBlank).length := by
  unfold glance
  dsimp only
  repeat' split
  all_goals rfl

section

variable {front rest : List Char}

theorem Broken.of_append {before behind : List Char} (broken : Broken (before ++ behind) rest) :
    Broken behind rest := by
  intro last final
  apply broken
  rw [List.getLast?_append, Option.mem_def.mp final]
  rfl

theorem takeWhile_isDigit_of_broken (broken : Broken front rest) (nonempty : front ≠ []) :
    (front ++ rest).takeWhile Char.isDigit = front.takeWhile Char.isDigit := by
  rw [List.takeWhile_append]
  split
  · rename_i length_eq
    have taken : front.takeWhile Char.isDigit = front :=
      (List.takeWhile_prefix _).eq_of_length length_eq
    have last : (front.getLast nonempty).isDigit = true :=
      List.takeWhile_eq_self_iff.mp taken _ (List.getLast_mem nonempty)
    have undigited : rest.takeWhile Char.isDigit = [] := by
      cases rest with
      | nil => rfl
      | cons char rest =>
          have stopped := broken _ (List.getLast?_eq_getLast_of_ne_nil nonempty) last char rfl
          simp [stopped]
    rw [undigited, taken, List.append_nil]
  · rfl

theorem glance_of_front (broken : Broken front rest) (visible : ¬ Blank front) :
    glance (front ++ rest) = glance front := by
  have split : front.takeWhile isBlank ++ front.dropWhile isBlank = front :=
    List.takeWhile_append_dropWhile
  have nonempty : front.dropWhile isBlank ≠ [] := fun nil_eq =>
    visible (List.dropWhile_eq_nil_iff.mp nil_eq)
  have taken : (front ++ rest).takeWhile isBlank = front.takeWhile isBlank := by
    rw [List.takeWhile_append, if_neg]
    intro length_eq
    have lengths_eq := congrArg List.length split
    rw [List.length_append] at lengths_eq
    exact nonempty (List.length_eq_zero_iff.mp (by omega))
  have dropped : (front ++ rest).dropWhile isBlank = front.dropWhile isBlank ++ rest := by
    rw [List.dropWhile_append, if_neg (by simpa using nonempty)]
  have shorter : Broken (front.dropWhile isBlank) rest := by
    rw [← split] at broken
    exact broken.of_append
  have digits := takeWhile_isDigit_of_broken shorter nonempty
  unfold glance
  rw [taken, dropped]
  generalize front.dropWhile isBlank = body at nonempty digits
  cases body with
  | nil => exact absurd rfl nonempty
  | cons char body =>
      rw [List.cons_append] at digits ⊢
      dsimp only
      rw [digits]

theorem glance_pos_lt (visible : ¬ Blank front) : (glance front).reading.pos < front.length := by
  rw [glance_pos, Int.ofNat_lt]
  apply Nat.lt_of_le_of_ne (List.takeWhile_prefix _).length_le
  intro length_eq
  apply visible
  rw [← (List.takeWhile_prefix isBlank).eq_of_length length_eq]
  exact fun _ member => List.mem_takeWhile_imp member

end

theorem Blank.append {first second : List Char} (blank : Blank first) (blankSecond : Blank second) :
    Blank (first ++ second) := by
  intro char member
  rcases List.mem_append.mp member with before | behind
  · exact blank char before
  · exact blankSecond char behind

namespace Lexer

variable {lexer other : Lexer} {start : Nat} {shift : Int}

theorem rest_next (lexer : Lexer) :
    lexer.next.2.rest = lexer.rest.drop (glance lexer.rest).length := by
  simp only [next, rest, List.drop_drop]

theorem next_of_blanks {blanks body : List Char} (blank : Blank blanks)
    (shape : lexer.rest = blanks ++ body) :
    lexer.next.1 = (glance body).reading.relocate (· + (blanks.length + lexer.origin : Nat)) ∧
      lexer.next.2.rest = body.drop (glance body).length := by
  constructor
  · simp only [next, shape, glance_behind_blanks blank, Reading.relocate_relocate]
    apply Reading.relocate_congr
    simp only [Function.comp_apply]
    omega
  · rw [rest_next, shape, glance_behind_blanks blank, ← List.drop_drop, List.drop_left]

/-- The same is left to read behind any blanks, and it stands further on by a fixed number. -/
structure Trails (start : Nat) (shift : Int) (lexer other : Lexer) : Prop where
  rest : ∃ blanks others body, Blank blanks ∧ Blank others ∧ lexer.rest = blanks ++ body ∧
    other.rest = others ++ body ∧ start ≤ lexer.origin + blanks.length
  length : (other.text.length : Int) = lexer.text.length + shift

theorem Trails.next {place : Int → Int} (trails : Trails start shift lexer other)
    (moved : ∀ pos, (start : Int) ≤ pos → place pos = pos + shift) :
    other.next.1 = lexer.next.1.relocate place ∧ Trails start shift lexer.next.2 other.next.2 := by
  obtain ⟨blanks, others, body, blank, blankOther, shape, form, begun⟩ := trails.rest
  obtain ⟨reading, behind⟩ := next_of_blanks blank shape
  obtain ⟨readingOther, further⟩ := next_of_blanks blankOther form
  have length_eq := rest_length lexer
  have lengthOther := rest_length other
  have length := trails.length
  rw [shape, List.length_append] at length_eq
  rw [form, List.length_append] at lengthOther
  refine ⟨?_, ⟨[], [], _, nofun, nofun, behind, further, ?_⟩, length⟩
  · rw [reading, readingOther, Reading.relocate_relocate]
    apply Reading.relocate_congr
    rw [Function.comp_apply, glance_pos, moved _ (by omega)]
    omega
  · have left := rest_length lexer.next.2
    rw [behind, List.length_drop, next_text] at left
    rw [List.length_nil]
    omega

theorem alike_of_trails {place : Int → Int}
    (moved : ∀ pos, (start : Int) ≤ pos → place pos = pos + shift)
    (trails : Trails start shift lexer other) : Alike place lexer other :=
  alike_of_kept (fun trails => trails.next moved) trails

end Lexer

/-- Where a place of a text is when more characters stand in front of an offset. -/
def widen (start width : Nat) (pos : Int) : Int := if pos < start then pos else pos + width

section

variable {a b blanks : List Char}

theorem next_within {rest : List Char} (broken : Broken a rest) {cursor : Nat}
    (low : cursor ≤ a.length) (visible : ¬ Blank (a.drop cursor)) :
    Lexer.next ⟨a ++ rest, cursor⟩ =
      ((glance (a.drop cursor)).reading.relocate (· + cursor),
        ⟨a ++ rest, cursor + (glance (a.drop cursor)).length⟩) := by
  have shorter : Broken (a.drop cursor) rest := by
    rw [← List.take_append_drop cursor a] at broken
    exact broken.of_append
  have shape : Lexer.rest ⟨a ++ rest, cursor⟩ = a.drop cursor ++ rest :=
    List.drop_append_of_le_length low
  have origin : Lexer.origin ⟨a ++ rest, cursor⟩ = cursor := by
    simp [Lexer.origin]
    omega
  simp only [Lexer.next, shape, origin, glance_of_front shorter visible]

end

def Fault.pos? : Fault → Option Int
  | parse fault => fault.pos?
  | eval _ => none

def written (pos : Option Int) : String := pos.elim "" toString

theorem LexFault.message_relocate (fault : LexFault) :
    ∃ before behind, ∀ place : Int → Int,
      (fault.relocate place).message = before ++ toString (place fault.pos) ++ behind := by
  cases fault with
  | unexpected char pos =>
      refine ⟨"unexpected character " ++ quoted [char] ++ " at position ", "", fun place => ?_⟩
      rw [String.append_empty]
      rfl
  | outOfRange digits pos =>
      refine ⟨"integer literal out of range at position ", ": " ++ String.ofList digits,
        fun place => ?_⟩
      rw [← String.append_assoc]
      rfl

theorem ParseFault.message_relocate (fault : ParseFault) :
    ∃ before behind, ∀ place : Int → Int,
      (fault.relocate place).message = before ++ written (fault.pos?.map place) ++ behind := by
  cases fault with
  | lexical fault => exact fault.message_relocate
  | unexpected expected found pos =>
      refine ⟨"expected " ++ expected.text ++ " but found " ++ found.name ++ " at position ", "",
        fun place => ?_⟩
      rw [String.append_empty]
      rfl
  | nesting pos =>
      refine ⟨"max parenthesis nesting exceeded at position ", "", fun place => ?_⟩
      rw [String.append_empty]
      rfl
  | noNestingLimit =>
      refine ⟨ParseFault.noNestingLimit.message, "", fun place => ?_⟩
      rw [String.append_empty]
      rfl

theorem ParseFault.relocate_id (fault : ParseFault) : fault.relocate id = fault := by
  rcases fault with (_ | _) | _ | _ | _ <;> rfl

end Reckoner
