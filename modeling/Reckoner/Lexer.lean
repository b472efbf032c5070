import Reckoner.Numeral
import Reckoner.Text.Blank
import Reckoner.Token

/-!
Reading tokens from a text on demand. `glance` reads the head of a text and counts offsets from
there; a `Lexer` holds a cursor in a whole text and reads what lies behind it.
-/

namespace Reckoner

inductive LexFault where
  | unexpected (char : Char) (pos : Int)
  | outOfRange (digits : List Char) (pos : Int)
  deriving DecidableEq, Repr

namespace LexFault

def pos : LexFault → Int
  | unexpected _ pos => pos
  | outOfRange _ pos => pos

def char : LexFault → Char
  | unexpected char _ => char
  | outOfRange digits _ => digits.headD '0'

def message : LexFault → String
  | unexpected char pos =>
      "unexpected character " ++ quoted [char] ++ " at position " ++ toString pos
  | outOfRange digits pos =>
      "integer literal out of range at position " ++ toString pos ++ ": " ++ String.ofList digits

def relocate (place : Int → Int) : LexFault → LexFault
  | unexpected char pos => unexpected char (place pos)
  | outOfRange digits pos => outOfRange digits (place pos)

end LexFault

abbrev Reading := Except LexFault Token

def Reading.relocate (place : Int → Int) : Reading → Reading
  | .ok token => .ok (token.relocate place)
  | .error fault => .error (fault.relocate place)

structure Glance where
  reading : Reading
  length : Nat

/-- Reads the token behind the blanks. An unexpected character is not used up, digits that are out
of range are. -/
def glance (text : List Char) : Glance :=
  let start := (text.takeWhile isBlank).length
  match text.dropWhile isBlank with
  | [] => ⟨.ok ⟨.endOfInput, start⟩, start⟩
  | char :: rest =>
      if char.isDigit then
        let digits := (char :: rest).takeWhile Char.isDigit
        match Numeral.read? digits with
        | some value => ⟨.ok ⟨.integer value, start⟩, start + digits.length⟩
        | none => ⟨.error (.outOfRange digits start), start + digits.length⟩
      else match Lexeme.ofChar? char with
        | some lexeme => ⟨.ok ⟨lexeme, start⟩, start + 1⟩
        | none => ⟨.error (.unexpected char start), start⟩

structure Lexer where
  text : List Char
  cursor : Nat := 0
  deriving DecidableEq, Repr

namespace Lexer

def rest (lexer : Lexer) : List Char := lexer.text.drop lexer.cursor

/-- Where the rest of the text starts: the cursor itself, unless it lies past the end. -/
def origin (lexer : Lexer) : Nat := min lexer.cursor lexer.text.length

def remaining (lexer : Lexer) : Nat := lexer.text.length - lexer.cursor

/-- Reads the next token and moves the cursor behind it. At the end the cursor stays. -/
def next (lexer : Lexer) : Reading × Lexer :=
  let seen := glance lexer.rest
  (seen.reading.relocate (· + lexer.origin), { lexer with cursor := lexer.cursor + seen.length })

end Lexer

theorem glance_length_le (text : List Char) : (glance text).length ≤ text.length := by
  have split : (text.takeWhile isBlank).length + (text.dropWhile isBlank).length = text.length := by
    rw [← List.length_append, List.takeWhile_append_dropWhile]
  unfold glance
  generalize text.dropWhile isBlank = behind at split
  cases behind with
  | nil => simpa using Nat.le_of_eq split
  | cons char rest =>
      have digits := (List.takeWhile_prefix Char.isDigit (l := char :: rest)).length_le
      simp only [List.length_cons] at split digits
      dsimp only
      repeat' split
      all_goals dsimp only
      all_goals omega

theorem glance_length_pos {text : List Char} {token : Token}
    (read : (glance text).reading = .ok token) (inside : token.lexeme ≠ .endOfInput) :
    0 < (glance text).length := by
  unfold glance at read ⊢
  generalize text.dropWhile isBlank = behind at read ⊢
  cases behind with
  | nil =>
      dsimp only at read
      cases read
      exact absurd rfl inside
  | cons char rest =>
      by_cases digit : char.isDigit
      · have nonempty : 1 ≤ ((char :: rest).takeWhile Char.isDigit).length := by
          simp [digit]
        simp only [digit, if_true] at read ⊢
        split
        all_goals dsimp only
        all_goals omega
      · simp only [digit, Bool.false_eq_true, if_false] at read ⊢
        split at read
        · dsimp only
          omega
        · cases read

namespace Lexer

@[simp] theorem next_text (lexer : Lexer) : lexer.next.2.text = lexer.text := rfl

theorem cursor_le_next (lexer : Lexer) : lexer.cursor ≤ lexer.next.2.cursor :=
  Nat.le_add_right _ _

theorem next_cursor_le (lexer : Lexer) (within : lexer.cursor ≤ lexer.text.length) :
    lexer.next.2.cursor ≤ lexer.text.length := by
  have used := glance_length_le lexer.rest
  simp only [rest, List.length_drop] at used
  simp only [next, rest]
  omega

theorem next_cursor {lexer : Lexer} {token : Token} (read : lexer.next.1 = .ok token)
    (inside : token.lexeme ≠ .endOfInput) :
    lexer.cursor < lexer.next.2.cursor ∧ lexer.next.2.cursor ≤ lexer.text.length := by
  have used := glance_length_le lexer.rest
  have moved : 0 < (glance lexer.rest).length := by
    simp only [next] at read
    cases seen : (glance lexer.rest).reading with
    | error fault => rw [seen] at read; cases read
    | ok relative =>
        rw [seen] at read
        cases read
        exact glance_length_pos seen inside
  simp only [rest, List.length_drop] at used moved
  simp only [next, rest]
  omega

theorem remaining_lt {lexer after : Lexer} {token : Token}
    (read : lexer.next = (.ok token, after)) (inside : token.lexeme ≠ .endOfInput) :
    after.remaining < lexer.remaining := by
  have moved := next_cursor (congrArg Prod.fst read) inside
  have text_eq := next_text lexer
  rw [read] at moved text_eq
  dsimp only at moved text_eq
  simp only [remaining, text_eq]
  omega

end Lexer

/-- The tokens gathered by reading on to the end or to the first fault. -/
structure Scan where
  tokens : List Token
  fault : Option LexFault
  stopped : Lexer
  deriving DecidableEq, Repr

def Scan.result (scan : Scan) : Except LexFault (List Token) :=
  match scan.fault with
  | none => .ok scan.tokens
  | some fault => .error fault

def Lexer.scan (lexer : Lexer) : Scan :=
  match _ : lexer.next with
  | (.error fault, stopped) => ⟨[], some fault, stopped⟩
  | (.ok token, after) =>
      if token.lexeme = .endOfInput then ⟨[token], none, after⟩
      else
        let more := after.scan
        { more with tokens := token :: more.tokens }
termination_by lexer.remaining
decreasing_by exact Lexer.remaining_lt ‹_› ‹_›

theorem Lexer.scan_of_fault {lexer stopped : Lexer} {fault : LexFault}
    (read : lexer.next = (.error fault, stopped)) : lexer.scan = ⟨[], some fault, stopped⟩ := by
  rw [scan]
  split
  · rename_i ended
    rw [read] at ended
    cases ended
    rfl
  · rename_i ended
    rw [read] at ended
    cases ended

theorem Lexer.scan_of_token {lexer after : Lexer} {token : Token}
    (read : lexer.next = (.ok token, after)) :
    lexer.scan = if token.lexeme = .endOfInput then ⟨[token], none, after⟩
      else { after.scan with tokens := token :: after.scan.tokens } := by
  rw [scan]
  split
  · rename_i ended
    rw [read] at ended
    cases ended
  · rename_i ended
    rw [read] at ended
    cases ended
    rfl

def tokenize (text : List Char) : Except LexFault (List Token) := (Lexer.scan ⟨text, 0⟩).result

end Reckoner
