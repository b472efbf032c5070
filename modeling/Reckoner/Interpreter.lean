import Reckoner.Calculation
import Reckoner.Session

namespace Reckoner

structure Interpreter where
  expression : List Char
  limits : Limits
  isShared : Bool
  deriving DecidableEq, Repr

namespace Interpreter

def start (expression : List Char) (env : Environment) : Interpreter :=
  ⟨expression, env.limits, env.isShared⟩

inductive Request where
  | evaluate
  | setExpression (expression : List Char)
  | setLimit (name : String) (value : Option Int)
  | ownerSets (name : String) (value : Option Int)
  deriving DecidableEq, Repr

def set (interpreter : Interpreter) (name : String) (value : Option Int) : Interpreter :=
  { interpreter with limits := interpreter.limits.set name value }

def update (interpreter : Interpreter) : Request → Interpreter
  | .evaluate => interpreter
  | .setExpression expression => { interpreter with expression }
  | .setLimit name value => interpreter.set name value
  | .ownerSets name value =>
      if interpreter.isShared then interpreter.set name value else interpreter

def evaluate (interpreter : Interpreter) : Logged (Except Fault Float) :=
  appraise interpreter.expression interpreter.limits

def reply (interpreter : Interpreter) : Request → Option (Logged (Except Fault Float))
  | .evaluate => some interpreter.evaluate
  | _ => none

def serve (interpreter : Interpreter) (request : Request) :
    Option (Logged (Except Fault Float)) × Interpreter :=
  (interpreter.reply request, interpreter.update request)

abbrev serveAll (interpreter : Interpreter) (requests : List Request) :
    List (Option (Logged (Except Fault Float)) × Interpreter) :=
  Session.serveAll serve interpreter requests

abbrev leave (interpreter : Interpreter) (requests : List Request) : Interpreter :=
  Session.leave serve interpreter requests

end Interpreter
end Reckoner
