import Reckoner.Parser
import Reckoner.Proofs.Grammar

/-!
Reading by recursive descent, one rule for each way through a phrase. The depth counter of the
parser goes up behind an opening parenthesis, is checked, and goes down again when the expression
inside has been read or has failed. A parenthesis that the check refuses is never counted down.
-/

namespace Reckoner

def Level.symbols : Level → List (List Char)
  | .sum => [['+'], ['-']]
  | .product => [['*'], ['/']]

namespace Parser

def raise (parser : Parser) : Parser := { parser with depth := parser.depth + 1 }

def lower (parser : Parser) : Parser := { parser with depth := parser.depth - 1 }

def check (parser : Parser) (pos : Int) : Except ParseFault Unit :=
  match parser.maxNesting with
  | none => .error .noNestingLimit
  | some limit => if limit < parser.depth then .error (.nesting pos) else .ok ()

/-- A phrase, or what follows the first operand of a phrase that repeats operators. -/
inductive Task where
  | phrase (goal : Phrase)
  | rounds (level : Level) (left : Tree)

inductive Event where
  | advance (lookahead : Token)
  | turn (before behind : Parser)

def Event.token? : Event → Option Token
  | advance lookahead => some lookahead
  | turn .. => none

def calls (track : List Event) : List Token := track.filterMap Event.token?

/-- A turn stands where an operator has been passed and its right operand begins, where the round
is over, and where the expression inside a parenthesis begins. -/
inductive Tracks : Task → Parser → List Event → Except ParseFault Tree → Parser → Prop where
  | integer {parser after : Parser} {value : Int} {token : Except ParseFault Token} :
      parser.lookahead.lexeme = .integer value → parser.advance = (token, after) →
        Tracks (.phrase .factor) parser [.advance parser.lookahead]
          (token.map fun _ => .num value) after
  | unexpected {parser : Parser} :
      parser.lookahead.kind ≠ .integer → parser.lookahead.kind ≠ .leftParen →
        Tracks (.phrase .factor) parser [] (.error (parser.unexpected .operand)) parser
  | unopened {parser after : Parser} {fault : ParseFault} :
      parser.lookahead.lexeme = .leftParen → parser.advance = (.error fault, after) →
        Tracks (.phrase .factor) parser [.advance parser.lookahead] (.error fault) after
  | refused {parser opened : Parser} {token : Token} {fault : ParseFault} :
      parser.lookahead.lexeme = .leftParen → parser.advance = (.ok token, opened) →
        opened.raise.check token.pos = .error fault →
          Tracks (.phrase .factor) parser [.advance parser.lookahead] (.error fault) opened.raise
  | broken {parser opened inner : Parser} {token : Token} {fault : ParseFault}
      {track : List Event} :
      parser.lookahead.lexeme = .leftParen → parser.advance = (.ok token, opened) →
        opened.raise.check token.pos = .ok () →
          Tracks (.phrase .expression) opened.raise track (.error fault) inner →
            Tracks (.phrase .factor) parser
              (.advance parser.lookahead :: .turn parser opened.raise :: track)
                (.error fault) inner.lower
  | group {parser opened inner after : Parser} {token : Token} {tree : Tree}
      {closing : Except ParseFault Token} {track : List Event} :
      parser.lookahead.lexeme = .leftParen → parser.advance = (.ok token, opened) →
        opened.raise.check token.pos = .ok () →
          Tracks (.phrase .expression) opened.raise track (.ok tree) inner →
            inner.lower.expect .rightParen = (closing, after) →
              Tracks (.phrase .factor) parser
                (.advance parser.lookahead :: .turn parser opened.raise ::
                  (track ++ [.advance inner.lookahead])) (closing.map fun _ => tree) after
  | noOperand {parser after : Parser} {fault : ParseFault} {track : List Event} (level : Level) :
      Tracks (.phrase level.operand) parser track (.error fault) after →
        Tracks (.phrase level.phrase) parser track (.error fault) after
  | chain {parser next after : Parser} {left : Tree} {result : Except ParseFault Tree}
      {track more : List Event} (level : Level) :
      Tracks (.phrase level.operand) parser track (.ok left) next →
        Tracks (.rounds level left) next more result after →
          Tracks (.phrase level.phrase) parser (track ++ more) result after
  | rest {parser : Parser} {level : Level} {left : Tree} :
      parser.atOperator level.symbols = false →
        Tracks (.rounds level left) parser [] (.ok left) parser
  | unread {parser after : Parser} {level : Level} {left : Tree} {fault : ParseFault} :
      parser.atOperator level.symbols = true → parser.advance = (.error fault, after) →
        Tracks (.rounds level left) parser [.advance parser.lookahead] (.error fault) after
  | noRight {parser next after : Parser} {level : Level} {left : Tree} {token : Token}
      {fault : ParseFault} {track : List Event} :
      parser.atOperator level.symbols = true → parser.advance = (.ok token, next) →
        Tracks (.phrase level.operand) next track (.error fault) after →
          Tracks (.rounds level left) parser
            (.advance parser.lookahead :: .turn parser next :: track) (.error fault) after
  | round {parser next reached after : Parser} {level : Level} {left right : Tree} {token : Token}
      {op : Operator} {result : Except ParseFault Tree} {track more : List Event} :
      parser.atOperator level.symbols = true → parser.advance = (.ok token, next) →
        token.lexeme = .operator op →
          Tracks (.phrase level.operand) next track (.ok right) reached →
            Tracks (.rounds level (.bin op left right)) reached more result after →
              Tracks (.rounds level left) parser
                (.advance parser.lookahead :: .turn parser next ::
                  (track ++ .turn parser reached :: more)) result after

def Descends (task : Task) (parser : Parser) (result : Except ParseFault Tree) (after : Parser) :
    Prop :=
  ∃ track, Tracks task parser track result after

/-- The track of a whole parse: of its expression, and for the end of input behind a tree. -/
inductive TracksWhole : Parser → List Event → Except ParseFault Tree → Parser → Prop where
  | failed {parser after : Parser} {fault : ParseFault} {track : List Event} :
      Tracks (.phrase .expression) parser track (.error fault) after →
        TracksWhole parser track (.error fault) after
  | ended {parser reached after : Parser} {tree : Tree} {closing : Except ParseFault Token}
      {track : List Event} :
      Tracks (.phrase .expression) parser track (.ok tree) reached →
        reached.expect .endOfInput = (closing, after) →
          TracksWhole parser (track ++ [.advance reached.lookahead]) (closing.map fun _ => tree)
            after

end Parser
end Reckoner
