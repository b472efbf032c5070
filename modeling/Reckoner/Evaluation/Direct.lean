import Reckoner.Evaluation

namespace Reckoner.Tree

def value : Tree → Except EvalFault Float
  | num value => ofInteger value
  | bin op left right => do
      let first ← left.value
      let second ← right.value
      op.apply first second
  | stray object => .error object.refusal

end Reckoner.Tree
