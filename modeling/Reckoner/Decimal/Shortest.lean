/-!
The fewest decimal digits that tell a binary floating-point number from its neighbours, and of those
the nearest to it. All comparisons are exact, between integers.
-/

namespace Reckoner.Decimal

/-- The positive number `mantissa · 2 ^ exponent` of a binary format. The numbers that round to it
reach half a step up and half a step down; the step below is half as wide when `narrow`. -/
structure Binary where
  mantissa : Nat
  exponent : Int
  narrow : Bool
  deriving DecidableEq, Repr

structure Scaled where
  count : Nat
  exponent : Int
  deriving DecidableEq, Repr

def digitCount (number : Nat) : Nat := (Nat.toDigits 10 number).length

namespace Binary

def magnitude (number : Binary) : Int :=
  let above := number.mantissa <<< number.exponent.toNat
  let below := 1 <<< (-number.exponent).toNat
  if below ≤ above then (digitCount (above / below) : Int) - 1
  else -(digitCount ((below - 1) / above) : Int)

/-- The multiple of a power of ten that rounds to the number, if one does: the nearer of the two
beside it, and the even one of two that are equally near. In quarters of the number's step, the
ends of the interval are whole; they belong to it when the mantissa is even. -/
def onGrid? (number : Binary) (exponent : Int) : Option Nat :=
  let quarter := number.exponent - 2
  let unit := Nat.pow 10 exponent.toNat <<< (-quarter).toNat
  let scale := Nat.pow 10 (-exponent).toNat <<< quarter.toNat
  let value := 4 * number.mantissa * scale
  let low := (4 * number.mantissa - if number.narrow then 1 else 2) * scale
  let high := (4 * number.mantissa + 2) * scale
  let inside (count : Nat) : Bool :=
    if number.mantissa % 2 = 0 then low ≤ count * unit ∧ count * unit ≤ high
    else low < count * unit ∧ count * unit < high
  let below := value / unit
  let down := value - below * unit
  let up := (below + 1) * unit - value
  let lower := down < up ∨ down = up ∧ below % 2 = 0
  match inside below, inside (below + 1) with
  | true, true => some (if lower then below else below + 1)
  | true, false => some below
  | false, true => some (below + 1)
  | false, false => none

/-- The first of the grids of one digit, two digits and so on that meets the interval. Seventeen
digits tell all numbers with a mantissa of 53 bits apart. -/
def shortest (number : Binary) : Scaled :=
  let grid (places : Nat) : Option Scaled :=
    let exponent := number.magnitude - places
    (number.onGrid? exponent).map (⟨·, exponent⟩)
  ((List.range 17).findSome? grid).getD ⟨0, 0⟩

end Binary
end Reckoner.Decimal
