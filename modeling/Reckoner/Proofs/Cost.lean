import Reckoner.Proofs.Calculation
import Mathlib

namespace Reckoner

namespace Tree

end Tree

end Reckoner
