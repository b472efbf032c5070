import Reckoner.Token

namespace Reckoner

inductive Stray where
  | token (token : Token)
  | text (chars : List Char)
  | null
  | flag (on : Bool)
  | integer (value : Int)
  deriving DecidableEq, Repr

inductive Tree where
  | num (value : Int)
  | bin (op : Operator) (left right : Tree)
  | stray (object : Stray)
  deriving DecidableEq, Repr

namespace Stray

def print : Stray → Except Decimal.TooLong String
  | token placed => placed.text
  | text chars => .ok (quoted chars)
  | null => .ok "None"
  | flag on => .ok (if on then "True" else "False")
  | integer value => Decimal.integer value

def typeName : Stray → String
  | token placed => placed.kind.name
  | text _ => "str"
  | null => "NoneType"
  | flag _ => "bool"
  | integer _ => "int"

def shapeless (object : Stray) : String :=
  "'" ++ object.typeName ++ "' object has no attribute 'op'"

/-- What comparison sees of a stray: neither the position of a token nor that a truth value is not
the number 0 or 1. -/
def essence : Stray → Stray
  | token placed => token { placed with pos := 0 }
  | flag on => integer (if on then 1 else 0)
  | object => object

end Stray

namespace Tree

/-- A tree without strays. -/
def WellFormed : Tree → Prop
  | num _ => True
  | bin _ left right => left.WellFormed ∧ right.WellFormed
  | stray _ => False

def size : Tree → Nat
  | bin _ left right => 1 + left.size + right.size
  | _ => 1

def essence : Tree → Tree
  | num value => .num value
  | bin op left right => .bin op left.essence right.essence
  | stray object => .stray object.essence

def same (a b : Tree) : Bool := a.essence == b.essence

def print : Tree → Except Decimal.TooLong String
  | num value => (Decimal.integer value).map fun digits => "NumberNode(value=" ++ digits ++ ")"
  | bin op left right =>
      left.print.bind fun first => right.print.map fun second =>
        "BinaryOpNode(op=" ++ quoted [op.symbol] ++ ", left=" ++ first ++ ", right=" ++ second ++
          ")"
  | stray object => object.print

end Tree

inductive SExpr where
  | integer (value : Int)
  | symbol (char : Char)
  | list (items : List SExpr)

/-- The nested form of a tree, or why its leftmost stray has none. -/
def Tree.sexpr : Tree → Except String SExpr
  | num value => .ok (.integer value)
  | bin op left right => do
      let left ← left.sexpr
      let right ← right.sexpr
      return .list [.symbol op.symbol, left, right]
  | stray object => .error object.shapeless

end Reckoner
