import Reckoner.Grammar

namespace Reckoner

def Level.phrase : Level → Phrase
  | .sum => .expression
  | .product => .term

def Level.operand : Level → Phrase
  | .sum => .term
  | .product => .factor

structure Round where
  op : Operator
  word : List Lexeme
  right : Tree

namespace Round

def spelled (round : Round) : List Lexeme := .operator round.op :: round.word

def attach (left : Tree) (round : Round) : Tree := .bin round.op left round.right

end Round

theorem derives_round {level : Level} {before behind : List Lexeme} {left right : Tree}
    {op : Operator} (level_eq : op.level = level) (first : Derives level.phrase before left)
    (second : Derives level.operand behind right) :
    Derives level.phrase (before ++ .operator op :: behind) (.bin op left right) := by
  cases level with
  | sum => exact .sum level_eq first second
  | product => exact .product level_eq first second

end Reckoner
