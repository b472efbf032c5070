import Reckoner.Decimal.Shortest

/-! The decimal text of a double. -/

namespace Reckoner.Decimal

structure Layout where
  least : Int
  bound : Int
  exponentWidth : Nat
  deriving DecidableEq, Repr

/-- Numbers from 10⁻⁴ to below 10¹⁶ are written in place, and exponents with two digits or more. -/
def layout : Layout := ⟨-4, 16, 2⟩

def zeros (count : Nat) : List Char := List.replicate count '0'

namespace Layout

def inPlace (first : Int) (digits : List Char) : List Char :=
  if first < 0 then '0' :: '.' :: zeros (-first - 1).toNat ++ digits
  else
    let places := first.toNat + 1
    if digits.length ≤ places then digits ++ zeros (places - digits.length) ++ ['.', '0']
    else digits.take places ++ '.' :: digits.drop places

def withExponent (layout : Layout) (first : Int) (digits : List Char) : List Char :=
  let fraction := match digits.drop 1 with
    | [] => []
    | more => '.' :: more
  let exponent := Nat.toDigits 10 first.natAbs
  digits.take 1 ++ fraction ++ ['e', if first < 0 then '-' else '+'] ++
    zeros (layout.exponentWidth - exponent.length) ++ exponent

def write (layout : Layout) (number : Scaled) : List Char :=
  let digits := Nat.toDigits 10 number.count
  let first := number.exponent + digits.length - 1
  let kept := (digits.reverse.dropWhile (· == '0')).reverse
  if layout.least ≤ first ∧ first < layout.bound then inPlace first kept
  else layout.withExponent first kept

end Layout

inductive Double where
  | notANumber
  | infinite (negative : Bool)
  | zero (negative : Bool)
  | finite (negative : Bool) (magnitude : Binary)
  deriving DecidableEq, Repr

/-- The fields of the format: a sign, eleven bits of exponent and fifty-two of fraction. A number
whose exponent field is zero has no hidden leading bit. -/
def Double.ofBits (bits : Nat) : Double :=
  let hidden : Nat := 1 <<< 52
  let negative : Bool := bits.testBit 63
  let biased : Nat := bits / hidden % 2048
  let fraction : Nat := bits % hidden
  if biased = 2047 then
    if fraction = 0 then .infinite negative else .notANumber
  else if biased = 0 then
    if fraction = 0 then .zero negative else .finite negative ⟨fraction, -1074, false⟩
  else .finite negative ⟨hidden + fraction, biased - 1075, fraction = 0 ∧ 1 < biased⟩

def Double.text : Double → String
  | notANumber => "nan"
  | infinite negative => if negative then "-inf" else "inf"
  | zero negative => if negative then "-0.0" else "0.0"
  | finite negative magnitude =>
      String.ofList ((if negative then ['-'] else []) ++ layout.write magnitude.shortest)

/-- The shortest text that reads back as the same double. -/
def text (value : Float) : String := (Double.ofBits value.toBits.toNat).text

end Reckoner.Decimal
