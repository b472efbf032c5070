import Reckoner.Text.Printable

namespace Reckoner

def singleQuote : Char := '\x27'

def doubleQuote : Char := '\x22'

def backslash : Char := '\x5c'

/-- Single quotes delimit, unless the text holds one of them and no double quote. -/
def delimiter (text : List Char) : Char :=
  if singleQuote ∈ text ∧ doubleQuote ∉ text then doubleQuote else singleQuote

def hexadecimal (width number : Nat) : List Char :=
  let digits := Nat.toDigits 16 number
  List.replicate (width - digits.length) '0' ++ digits

def numbered (char : Char) : List Char :=
  let point := char.toNat
  if point < 0x100 then backslash :: 'x' :: hexadecimal 2 point
  else if point < 0x10000 then backslash :: 'u' :: hexadecimal 4 point
  else backslash :: 'U' :: hexadecimal 8 point

def escape (quote char : Char) : List Char :=
  if char = quote ∨ char = backslash then [backslash, char]
  else if char = '\t' then [backslash, 't']
  else if char = '\n' then [backslash, 'n']
  else if char = '\r' then [backslash, 'r']
  else if isPrintable char then [char]
  else numbered char

def quoted (text : List Char) : String :=
  let quote := delimiter text
  String.ofList (quote :: text.flatMap (escape quote) ++ [quote])

end Reckoner
