import Reckoner.Tree

namespace Reckoner

inductive Phrase where
  | expression
  | term
  | factor
  deriving DecidableEq, Repr

inductive Derives : Phrase → List Lexeme → Tree → Prop where
  | integer (value : Int) : Derives .factor [.integer value] (.num value)
  | group {inner : List Lexeme} {tree : Tree} :
      Derives .expression inner tree →
        Derives .factor (.leftParen :: inner ++ [.rightParen]) tree
  | factor {word : List Lexeme} {tree : Tree} : Derives .factor word tree → Derives .term word tree
  | product {before behind : List Lexeme} {left right : Tree} {op : Operator} :
      op.level = .product → Derives .term before left → Derives .factor behind right →
        Derives .term (before ++ .operator op :: behind) (.bin op left right)
  | term {word : List Lexeme} {tree : Tree} :
      Derives .term word tree → Derives .expression word tree
  | sum {before behind : List Lexeme} {left right : Tree} {op : Operator} :
      op.level = .sum → Derives .expression before left → Derives .term behind right →
        Derives .expression (before ++ .operator op :: behind) (.bin op left right)

/-- Some continuation completes the word to an expression. -/
def Viable (word : List Lexeme) : Prop :=
  ∃ rest tree, Derives .expression (word ++ rest) tree

end Reckoner
