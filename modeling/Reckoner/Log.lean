import Reckoner.Fault

namespace Reckoner

inductive Record where
  | parsed (source : List Char)
  | evaluated (value : Float)
  | failed (source : List Char) (fault : Fault)

namespace Record

def logger : Record → String
  | parsed _ => "arith.parser"
  | evaluated _ => "arith.evaluator"
  | failed .. => "arith.calculator"

def message : Record → String
  | parsed source => "parsed " ++ quoted source
  | evaluated value => "evaluated to " ++ Decimal.text value
  | failed source fault => "calculate(" ++ quoted source ++ ") failed: " ++ fault.name

end Record

structure Logged (α : Type) where
  result : α
  records : List Record

namespace Logged

def parse (source : List Char) (maxNesting : Option Int) : Logged (Except ParseFault Tree) :=
  match Reckoner.parse source maxNesting with
  | .ok tree => ⟨.ok tree, [.parsed source]⟩
  | .error fault => ⟨.error fault, []⟩

def evaluate (tree : Tree) (gas maxDepth : Option Int) : Logged (Except EvalFault Float) :=
  match Reckoner.evaluate tree gas maxDepth with
  | .ok value => ⟨.ok value, [.evaluated value]⟩
  | .error fault => ⟨.error fault, []⟩

end Logged
end Reckoner
