import Reckoner.Lexer

namespace Reckoner.Lexer

def after (lexer : Lexer) : Nat → Lexer
  | 0 => lexer
  | count + 1 => (lexer.after count).next.2

def outcome (lexer : Lexer) (index : Nat) : Reading := (lexer.after index).next.1

theorem after_succ (lexer : Lexer) (count : Nat) :
    lexer.after (count + 1) = lexer.next.2.after count := by
  induction count with
  | zero => rfl
  | succ count ih =>
      calc
        lexer.after (count + 1 + 1) = (lexer.after (count + 1)).next.2 := rfl
        _ = (lexer.next.2.after count).next.2 := by rw [ih]
        _ = lexer.next.2.after (count + 1) := rfl

theorem outcome_succ (lexer : Lexer) (index : Nat) :
    lexer.outcome (index + 1) = lexer.next.2.outcome index := by
  simp only [outcome, after_succ]

theorem outcome_add (lexer : Lexer) (first more : Nat) :
    lexer.outcome (first + more) = (lexer.after first).outcome more := by
  induction first generalizing lexer with
  | zero => rw [Nat.zero_add, after]
  | succ first ih => rw [Nat.add_right_comm, outcome_succ, ih, after_succ]

end Reckoner.Lexer
