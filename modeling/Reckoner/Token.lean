import Reckoner.Decimal.Integer
import Reckoner.Operator
import Reckoner.Text.Quoted

namespace Reckoner

structure InvalidOperator where
  symbol : List Char
  deriving DecidableEq, Repr

def InvalidOperator.message (fault : InvalidOperator) : String :=
  "invalid operator: " ++ quoted fault.symbol

def Operator.named (symbol : List Char) : Except InvalidOperator Operator :=
  match ofText? symbol with
  | some op => .ok op
  | none => .error ⟨symbol⟩

inductive Kind where
  | integer
  | operator
  | leftParen
  | rightParen
  | endOfInput
  deriving DecidableEq, Repr

def Kind.name : Kind → String
  | integer => "Integer"
  | operator => "Operator"
  | leftParen => "LeftParen"
  | rightParen => "RightParen"
  | endOfInput => "EndOfInput"

inductive Lexeme where
  | integer (value : Int)
  | operator (op : Operator)
  | leftParen
  | rightParen
  | endOfInput
  deriving DecidableEq, Repr

namespace Lexeme

def kind : Lexeme → Kind
  | integer _ => .integer
  | operator _ => .operator
  | leftParen => .leftParen
  | rightParen => .rightParen
  | endOfInput => .endOfInput

def ofChar? (char : Char) : Option Lexeme :=
  if char = '(' then some leftParen
  else if char = ')' then some rightParen
  else (Operator.ofSymbol? char).map operator

end Lexeme

/-- A lexeme and the offset at which it starts. Offsets count characters from the start of the
text; a token made by hand may stand anywhere. -/
structure Token where
  lexeme : Lexeme
  pos : Int := 0
  deriving DecidableEq, Repr

namespace Token

def kind (token : Token) : Kind := token.lexeme.kind

def relocate (place : Int → Int) (token : Token) : Token := { token with pos := place token.pos }

def text (token : Token) : Except Decimal.TooLong String :=
  let fields : Except Decimal.TooLong String := match token.lexeme with
    | .integer value => (Decimal.integer value).map fun digits => "value=" ++ digits ++ ", "
    | .operator op => .ok ("symbol=" ++ quoted [op.symbol] ++ ", ")
    | _ => .ok ""
  fields.bind fun fields => (Decimal.integer token.pos).map fun pos =>
    token.kind.name ++ "(" ++ fields ++ "pos=" ++ pos ++ ")"

end Token
end Reckoner
