import Reckoner.Grammar

/-!
Building a tree from lexemes, one lexeme at a time. An `Assembly` holds what has been read of a
phrase: the operands that wait for their right neighbours, level by level, and the parentheses that
are still open. `move` decides what the next lexeme does to it, without looking any further.
-/

namespace Reckoner

structure Pending where
  left : Tree
  op : Operator
  deriving DecidableEq, Repr

def attach : Option Pending → Tree → Tree
  | none, tree => tree
  | some pending, tree => .bin pending.op pending.left tree

/-- What waits inside one pair of parentheses: a sum for a term and a product for a factor. -/
structure Layer where
  sum : Option Pending := none
  product : Option Pending := none
  deriving DecidableEq, Repr

/-- Either a factor comes next, or a term has been read to which an operator may add. The layers of
the open parentheses around it follow, the innermost first. -/
inductive Assembly where
  | operand (here : Layer) (outer : List Layer)
  | operator (sum : Option Pending) (term : Tree) (outer : List Layer)
  deriving DecidableEq, Repr

inductive Expected where
  | operand
  | kind (kind : Kind)
  deriving DecidableEq, Repr

def Expected.text : Expected → String
  | operand => "Integer or LeftParen"
  | kind wanted => wanted.name

inductive Move where
  | take (next : Assembly)
  | enter (next : Assembly)
  | finish (tree : Tree)
  | refuse (expected : Expected)
  deriving DecidableEq, Repr

def Move.Uses : Move → Prop
  | take _ => True
  | enter _ => True
  | _ => False

def Phrase.admits : Phrase → Level → Bool
  | expression, _ => true
  | term, .product => true
  | _, _ => false

def Layer.complete (here : Layer) (factor : Tree) (outer : List Layer) : Assembly :=
  .operator here.sum (attach here.product factor) outer

/-- The layer after an operator has followed a term. -/
def Layer.extend (sum : Option Pending) (term : Tree) (op : Operator) : Layer :=
  match op.level with
  | .product => ⟨sum, some ⟨term, op⟩⟩
  | .sum => ⟨some ⟨attach sum term, op⟩, none⟩

namespace Assembly

def start : Assembly := operand {} []

def outer : Assembly → List Layer
  | operand _ outer => outer
  | operator _ _ outer => outer

def nesting (state : Assembly) : Nat := state.outer.length

def phrase (goal : Phrase) : List Layer → Phrase
  | [] => goal
  | _ :: _ => .expression

def move (goal : Phrase) : Assembly → Lexeme → Move
  | operand here outer, .integer value => .take (here.complete (.num value) outer)
  | operand here outer, .leftParen => .enter (operand {} (here :: outer))
  | operand _ _, _ => .refuse .operand
  | operator sum term outer, .operator op =>
      if (phrase goal outer).admits op.level then .take (operand (Layer.extend sum term op) outer)
      else .finish (attach sum term)
  | operator sum term (here :: outer), .rightParen => .take (here.complete (attach sum term) outer)
  | operator _ _ (_ :: _), _ => .refuse (.kind .rightParen)
  | operator sum term [], _ => .finish (attach sum term)

theorem move_end_of_input (goal : Phrase) (state : Assembly) :
    ¬ (state.move goal .endOfInput).Uses := by
  rcases state with _ | ⟨_, _, _ | _⟩ <;> exact id

end Assembly
end Reckoner
