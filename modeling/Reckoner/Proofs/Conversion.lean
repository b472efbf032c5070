import Reckoner.Evaluation
import Reckoner.Numeral
import Mathlib

namespace Reckoner

open Float.Model (Format UnpackedFloat)
open Float.Model.UnpackedFloat

variable {bits : Nat} {top exponent : Int} {mantissa : Nat}

end Reckoner
