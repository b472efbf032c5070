import Reckoner.Lexer
import Reckoner.Parser.Assembly
import Reckoner.Session

/-!
Parsing on demand. A `Parser` holds one token of lookahead in front of its lexer and reads phrases
by feeding lexemes to an `Assembly`; a lexeme is used up only when the assembly takes it. Opening a
parenthesis is checked against the nesting limit after the token behind it has been read.
-/

namespace Reckoner

inductive ParseFault where
  | lexical (fault : LexFault)
  | unexpected (expected : Expected) (found : Kind) (pos : Int)
  | nesting (pos : Int)
  | noNestingLimit
  deriving DecidableEq, Repr

def ParseFault.relocate (place : Int → Int) : ParseFault → ParseFault
  | lexical fault => lexical (fault.relocate place)
  | unexpected expected found pos => unexpected expected found (place pos)
  | nesting pos => nesting (place pos)
  | noNestingLimit => noNestingLimit

def ParseFault.message : ParseFault → String
  | lexical fault => fault.message
  | unexpected expected found pos =>
      "expected " ++ expected.text ++ " but found " ++ found.name ++ " at position " ++ toString pos
  | nesting pos => "max parenthesis nesting exceeded at position " ++ toString pos
  | noNestingLimit => "'>' not supported between instances of 'int' and 'NoneType'"

/-- The depth counts the parentheses that were opened and refused, in all phrases read so far. -/
structure Parser where
  lexer : Lexer
  lookahead : Token
  depth : Nat := 0
  maxNesting : Option Int
  deriving DecidableEq, Repr

inductive Progress where
  | more (parser : Parser) (state : Assembly)
  | done (result : Except ParseFault Tree) (parser : Parser)

namespace Parser

/-- Hands out the lookahead and reads the next one. On a fault the lookahead stays. -/
def advance (parser : Parser) : Except ParseFault Token × Parser :=
  match parser.lexer.next with
  | (.ok token, lexer) => (.ok parser.lookahead, { parser with lexer, lookahead := token })
  | (.error fault, lexer) => (.error (.lexical fault), { parser with lexer })

def unexpected (parser : Parser) (expected : Expected) : ParseFault :=
  .unexpected expected parser.lookahead.kind parser.lookahead.pos

def expect (parser : Parser) (kind : Kind) : Except ParseFault Token × Parser :=
  if parser.lookahead.kind = kind then parser.advance
  else (.error (parser.unexpected (.kind kind)), parser)

def enter (parser : Parser) (pos : Int) (state : Assembly) : Progress :=
  let refused := { parser with depth := parser.depth + 1 }
  match parser.maxNesting with
  | none => .done (.error .noNestingLimit) refused
  | some limit =>
      if limit < parser.depth + state.nesting then .done (.error (.nesting pos)) refused
      else .more parser state

def step (goal : Phrase) (parser : Parser) (state : Assembly) : Progress :=
  match state.move goal parser.lookahead.lexeme with
  | .finish tree => .done (.ok tree) parser
  | .refuse expected => .done (.error (parser.unexpected expected)) parser
  | .take next =>
      match parser.advance with
      | (.ok _, after) => .more after next
      | (.error fault, after) => .done (.error fault) after
  | .enter next =>
      match parser.advance with
      | (.ok opened, after) => after.enter opened.pos next
      | (.error fault, after) => .done (.error fault) after

def ahead (parser : Parser) : Nat :=
  parser.lexer.remaining + if parser.lookahead.lexeme = .endOfInput then 0 else 1

theorem ahead_lt_of_advance {parser after : Parser} {token : Token}
    (advanced : parser.advance = (.ok token, after))
    (inside : parser.lookahead.lexeme ≠ .endOfInput) : after.ahead < parser.ahead := by
  unfold advance at advanced
  split at advanced
  case h_2 => cases advanced
  case h_1 read lexer next =>
    cases advanced
    simp only [ahead, inside, if_false]
    split
    · have text_eq := Lexer.next_text parser.lexer
      have onward := Lexer.cursor_le_next parser.lexer
      rw [next] at text_eq onward
      dsimp only at text_eq onward
      simp only [Lexer.remaining, text_eq]
      omega
    · rename_i more
      have fewer := Lexer.remaining_lt next more
      omega

theorem ahead_lt_of_step {goal : Phrase} {parser after : Parser} {state next : Assembly}
    (progress : parser.step goal state = .more after next) : after.ahead < parser.ahead := by
  have inside : (state.move goal parser.lookahead.lexeme).Uses →
      parser.lookahead.lexeme ≠ .endOfInput := by
    intro uses ends
    rw [ends] at uses
    exact Assembly.move_end_of_input goal state uses
  unfold step at progress
  split at progress
  · cases progress
  · cases progress
  · rename_i taken moved
    rw [moved] at inside
    split at progress
    · rename_i advanced
      cases progress
      exact ahead_lt_of_advance advanced (inside trivial)
    · cases progress
  · rename_i taken moved
    rw [moved] at inside
    split at progress
    · rename_i opened reached advanced
      have fewer := ahead_lt_of_advance advanced (inside trivial)
      unfold enter at progress
      dsimp only at progress
      repeat' split at progress
      all_goals cases progress
      exact fewer
    · cases progress

/-- Reads on until the phrase is complete or cannot be. -/
def run (goal : Phrase) (parser : Parser) (state : Assembly) : Except ParseFault Tree × Parser :=
  match _ : parser.step goal state with
  | .done result after => (result, after)
  | .more after next => run goal after next
termination_by parser.ahead
decreasing_by exact ahead_lt_of_step ‹_›

theorem run_of_done {goal : Phrase} {parser after : Parser} {state : Assembly}
    {result : Except ParseFault Tree} (progress : parser.step goal state = .done result after) :
    parser.run goal state = (result, after) := by
  rw [run]
  split
  · rename_i ended
    rw [progress] at ended
    cases ended
    rfl
  · rename_i ended
    rw [progress] at ended
    cases ended

theorem run_of_more {goal : Phrase} {parser after : Parser} {state next : Assembly}
    (progress : parser.step goal state = .more after next) :
    parser.run goal state = after.run goal next := by
  rw [run]
  split
  · rename_i ended
    rw [progress] at ended
    cases ended
  · rename_i ended
    rw [progress] at ended
    cases ended
    rfl

def phrase (goal : Phrase) (parser : Parser) : Except ParseFault Tree × Parser :=
  parser.run goal .start

def parse (parser : Parser) : Except ParseFault Tree × Parser :=
  match parser.phrase .expression with
  | (.error fault, after) => (.error fault, after)
  | (.ok tree, after) =>
      let (closed, after) := after.expect .endOfInput
      (closed.map fun _ => tree, after)

def atOperator (parser : Parser) (symbols : List (List Char)) : Bool :=
  match parser.lookahead.lexeme with
  | .operator op => symbols.contains [op.symbol]
  | _ => false

def start (text : List Char) (maxNesting : Option Int) : Except LexFault Parser × Lexer :=
  match Lexer.next ⟨text, 0⟩ with
  | (.ok token, lexer) => (.ok { lexer, lookahead := token, maxNesting }, lexer)
  | (.error fault, lexer) => (.error fault, lexer)

inductive Request where
  | parse
  | phrase (goal : Phrase)
  | advance
  | expect (kind : Kind)
  | atOperator (symbols : List (List Char))
  | setMaxNesting (limit : Option Int)
  deriving DecidableEq, Repr

inductive Reply where
  | tree (result : Except ParseFault Tree)
  | token (result : Except ParseFault Token)
  | flag (on : Bool)
  | done

def serve (parser : Parser) : Request → Reply × Parser
  | .parse =>
      let (result, after) := parser.parse
      (.tree result, after)
  | .phrase goal =>
      let (result, after) := parser.phrase goal
      (.tree result, after)
  | .advance =>
      let (result, after) := parser.advance
      (.token result, after)
  | .expect kind =>
      let (result, after) := parser.expect kind
      (.token result, after)
  | .atOperator symbols => (.flag (parser.atOperator symbols), parser)
  | .setMaxNesting limit => (.done, { parser with maxNesting := limit })

abbrev serveAll (parser : Parser) (requests : List Request) : List (Reply × Parser) :=
  Session.serveAll serve parser requests

abbrev leave (parser : Parser) (requests : List Request) : Parser :=
  Session.leave serve parser requests

end Parser

/-- Parses a whole text and tells where the lexer stopped. -/
def parseUpTo (text : List Char) (maxNesting : Option Int) : Except ParseFault Tree × Lexer :=
  match Parser.start text maxNesting with
  | (.error fault, lexer) => (.error (.lexical fault), lexer)
  | (.ok parser, _) =>
      let (result, after) := parser.parse
      (result, after.lexer)

def parse (text : List Char) (maxNesting : Option Int) : Except ParseFault Tree :=
  (parseUpTo text maxNesting).1

end Reckoner
