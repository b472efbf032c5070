import Reckoner.Lexer
import Reckoner.Session

namespace Reckoner

structure Feed where
  lexer : Lexer
  closed : Bool := false
  deriving DecidableEq, Repr

namespace Feed

inductive Request where
  | next
  | pull
  | restart
  | drain
  | seek (cursor : Nat)
  deriving DecidableEq, Repr

inductive Reply where
  | reading (reading : Reading)
  | exhausted
  | drained (tokens : Except LexFault (List Token))
  | done

def continues : Reading → Bool
  | .ok token => token.lexeme ≠ .endOfInput
  | .error _ => false

def next (feed : Feed) : Reading × Feed :=
  let (reading, lexer) := feed.lexer.next
  (reading, { feed with lexer })

/-- The next item of the stream, none when it has ended. -/
def pull (feed : Feed) : Option Reading × Feed :=
  if feed.closed then (none, feed)
  else
    let (reading, lexer) := feed.lexer.next
    (some reading, { lexer, closed := !continues reading })

def serve (feed : Feed) : Request → Reply × Feed
  | .next =>
      let (reading, after) := feed.next
      (.reading reading, after)
  | .pull =>
      match feed.pull with
      | (some reading, after) => (.reading reading, after)
      | (none, after) => (.exhausted, after)
  | .restart => (.done, { feed with closed := false })
  | .drain =>
      let scan := feed.lexer.scan
      (.drained scan.result, { feed with lexer := scan.stopped })
  | .seek cursor => (.done, { feed with lexer := { feed.lexer with cursor } })

abbrev serveAll (feed : Feed) (requests : List Request) : List (Reply × Feed) :=
  Session.serveAll serve feed requests

abbrev leave (feed : Feed) (requests : List Request) : Feed :=
  Session.leave serve feed requests

end Feed
end Reckoner
