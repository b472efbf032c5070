namespace Reckoner.Decimal

def mostDigits : Nat := 4300

inductive TooLong where
  | written
  | read (count : Nat)
  deriving DecidableEq, Repr

def TooLong.message (fault : TooLong) : String :=
  let found := match fault with
    | written => ""
    | read count => ": value has " ++ toString count ++ " digits"
  "Exceeds the limit (" ++ toString mostDigits ++ " digits) for integer string conversion" ++
    found ++
    "; use sys.set_int_max_str_digits() to increase the limit"

def IsShort (value : Int) : Prop := value.natAbs < Nat.pow 10 mostDigits

instance (value : Int) : Decidable (IsShort value) := inferInstanceAs (Decidable (_ < _))

def integer (value : Int) : Except TooLong String :=
  if IsShort value then .ok (toString value) else .error .written

end Reckoner.Decimal
