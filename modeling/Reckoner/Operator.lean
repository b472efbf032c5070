namespace Reckoner

inductive Operator where
  | add
  | sub
  | mul
  | div
  deriving DecidableEq, Repr

inductive Level where
  | sum
  | product
  deriving DecidableEq, Repr

namespace Operator

def symbol : Operator → Char
  | add => '+'
  | sub => '-'
  | mul => '*'
  | div => '/'

def level : Operator → Level
  | add => .sum
  | sub => .sum
  | mul => .product
  | div => .product

def ofSymbol? (char : Char) : Option Operator :=
  if char = '+' then some add
  else if char = '-' then some sub
  else if char = '*' then some mul
  else if char = '/' then some div
  else none

def ofText? : List Char → Option Operator
  | [char] => ofSymbol? char
  | _ => none

@[simp] theorem of_symbol_symbol (op : Operator) : ofSymbol? op.symbol = some op := by
  cases op <;> rfl

theorem of_symbol_eq_some_iff {char : Char} {op : Operator} :
    ofSymbol? char = some op ↔ char = op.symbol := by
  constructor
  · intro found
    simp only [ofSymbol?] at found
    repeat' split at found
    all_goals simp_all [symbol]
    all_goals subst found; rfl
  · rintro rfl
    exact of_symbol_symbol op

end Operator
end Reckoner
