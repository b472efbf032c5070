namespace Reckoner

/-- An absent limit is no limit, except that parsing needs one on nesting to open a parenthesis. -/
structure Limits where
  maxGas : Option Int := none
  maxDepth : Option Int := none
  maxNesting : Option Int := some 100
  deriving DecidableEq, Repr

namespace Limits

def set (limits : Limits) (name : String) (value : Option Int) : Limits :=
  match name with
  | "max_gas" => { limits with maxGas := value }
  | "max_depth" => { limits with maxDepth := value }
  | "max_nesting" => { limits with maxNesting := value }
  | _ => limits

/-- Reads limits from a table. Of the two names of the gas limit the first wins, and a name that is
present counts even when it lifts the limit. -/
def ofTable (entries : List (String × Option Int)) : Limits :=
  let standard : Limits := {}
  let gas := (entries.lookup "max_gas").or (entries.lookup "maxGas")
  { maxGas := gas.getD standard.maxGas
    maxDepth := (entries.lookup "max_depth").getD standard.maxDepth
    maxNesting := (entries.lookup "max_nesting").getD standard.maxNesting }

end Limits

/-- Limits are left to the defaults, read once from a table, or shared with their owner. -/
inductive Environment where
  | standard
  | table (entries : List (String × Option Int))
  | shared (limits : Limits)
  deriving DecidableEq, Repr

namespace Environment

def limits : Environment → Limits
  | standard => {}
  | table entries => .ofTable entries
  | shared limits => limits

def isShared : Environment → Bool
  | shared _ => true
  | _ => false

end Environment
end Reckoner
