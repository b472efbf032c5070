import Reckoner.Numeral
import Reckoner.Tree

namespace Reckoner

/-- A tree of numerals with the number of needless pairs of parentheses around each part. -/
inductive Spelling where
  | num (extra : Nat) (value : Nat)
  | bin (extra : Nat) (op : Operator) (left right : Spelling)
  deriving DecidableEq, Repr

namespace Spelling

def tree : Spelling → Tree
  | num _ value => .num value
  | bin _ op left right => .bin op left.tree right.tree

def level? : Spelling → Option Level
  | num _ _ => none
  | bin _ op _ _ => some op.level

def guardsLeft (op : Operator) (operand : Spelling) : Bool :=
  op.level = .product && operand.level? = some .sum

def guardsRight (op : Operator) (operand : Spelling) : Bool :=
  match operand.level? with
  | none => false
  | some level => !(op.level = .sum && level = .product)

def parenthesize (pairs : Nat) (inner : List Lexeme) : List Lexeme :=
  List.replicate pairs .leftParen ++ inner ++ List.replicate pairs .rightParen

def lexemes : Spelling → List Lexeme
  | num extra value => parenthesize extra [.integer value]
  | bin extra op left right =>
      parenthesize extra
        (parenthesize (guardsLeft op left).toNat left.lexemes ++
          .operator op :: parenthesize (guardsRight op right).toNat right.lexemes)

end Spelling

def Lexeme.chars : Lexeme → List Char
  | integer value => (toString value).toList
  | operator op => [op.symbol]
  | leftParen => ['(']
  | rightParen => [')']
  | endOfInput => []

def Spelling.text (spelling : Spelling) : List Char := spelling.lexemes.flatMap Lexeme.chars

/-- The greatest number of parentheses that are open at once, when some are open to begin with. -/
def deepest : Nat → List Lexeme → Nat
  | start, [] => start
  | start, .leftParen :: rest => deepest (start + 1) rest
  | start, .rightParen :: rest => max start (deepest (start - 1) rest)
  | start, _ :: rest => deepest start rest

/-- Whether every leaf is a number that a text can spell. -/
def Tree.Literal : Tree → Prop
  | num value => 0 ≤ value ∧ value ≤ Numeral.greatest
  | bin _ left right => left.Literal ∧ right.Literal
  | stray _ => False

def Tree.spelling : Tree → Spelling
  | num value => .num 0 value.toNat
  | bin op left right => .bin 0 op left.spelling right.spelling
  | stray _ => .num 0 0

end Reckoner
