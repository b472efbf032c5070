import Reckoner.Parser.Descent
import Reckoner.Proofs.Session
import Mathlib

/-!
Recursive descent against the parser that keeps its open parentheses in an `Assembly`. They come to
the same results and leave the same parsers behind (`descends_iff`). In a descent every parenthesis
that has been counted is counted down again, except the one that the nesting check refuses
(`Tracks.depth`).
-/

namespace Reckoner

open Assembly

def ParseFault.isNesting : ParseFault → Bool
  | nesting _ => true
  | noNestingLimit => true
  | _ => false

namespace Parser

def barred {α : Type} (result : Except ParseFault α) : Bool :=
  (fault? result).any ParseFault.isNesting

@[simp] theorem barred_ok {α : Type} (value : α) : barred (.ok value) = false := rfl

@[simp] theorem barred_error {α : Type} (fault : ParseFault) :
    barred (.error fault : Except ParseFault α) = fault.isNesting := rfl

@[simp] theorem barred_map {α β : Type} (result : Except ParseFault α) (f : α → β) :
    barred (result.map f) = barred result := by
  cases result <;> rfl

section

variable {parser after : Parser} {token : Except ParseFault Token} {kind : Kind}

theorem depth_of_advance (advanced : parser.advance = (token, after)) :
    barred token = false ∧ after.depth = parser.depth := by
  unfold advance at advanced
  split at advanced <;> cases advanced <;> exact ⟨rfl, rfl⟩

theorem depth_of_expect (read : parser.expect kind = (token, after)) :
    barred token = false ∧ after.depth = parser.depth := by
  unfold expect at read
  split at read
  · exact depth_of_advance read
  · cases read
    exact ⟨rfl, rfl⟩

theorem ahead_le_of_advance (advanced : parser.advance = (token, after)) :
    after.ahead ≤ parser.ahead := by
  have remaining_le : parser.lexer.next.2.remaining ≤ parser.lexer.remaining :=
    Nat.sub_le_sub_left (Lexer.cursor_le_next parser.lexer) _
  unfold advance at advanced
  split at advanced
  · rename_i seen lexer read
    cases advanced
    rw [read] at remaining_le
    by_cases ends : seen.lexeme = .endOfInput
    · simp only [ahead, ends, if_true]
      exact Nat.le_trans remaining_le (Nat.le_add_right _ _)
    · have fewer := Lexer.remaining_lt read ends
      simp only [ahead, ends, if_false]
      omega
  · rename_i fault lexer read
    cases advanced
    rw [read] at remaining_le
    exact Nat.add_le_add_right remaining_le _

theorem ahead_le_of_expect (read : parser.expect kind = (token, after)) :
    after.ahead ≤ parser.ahead := by
  unfold expect at read
  split at read
  · exact ahead_le_of_advance read
  · cases read
    exact Nat.le_refl _

@[simp] theorem ahead_raise (parser : Parser) : parser.raise.ahead = parser.ahead := rfl

@[simp] theorem ahead_lower (parser : Parser) : parser.lower.ahead = parser.ahead := rfl

theorem nesting_of_check {pos : Int} {fault : ParseFault}
    (failed : parser.check pos = .error fault) : fault.isNesting = true := by
  unfold check at failed
  repeat' split at failed
  all_goals cases failed
  all_goals rfl

end

section

variable {task : Task} {parser after : Parser} {result : Except ParseFault Tree}
  {track : List Event}

theorem Tracks.depth (tracks : Tracks task parser track result after) :
    after.depth = parser.depth + (barred result).toNat := by
  induction tracks with
  | integer _ advanced => simp [depth_of_advance advanced]
  | unexpected | rest => rfl
  | unopened _ advanced | unread _ advanced =>
      obtain ⟨quiet, depth_eq⟩ := depth_of_advance advanced
      rw [barred_error] at quiet ⊢
      rw [depth_eq, quiet]
      rfl
  | refused _ advanced failed =>
      simp [nesting_of_check failed, raise, (depth_of_advance advanced).2]
  | broken _ advanced _ _ ih =>
      -- What was added behind the parenthesis is taken back, and what was left inside stays.
      have depth_eq := (depth_of_advance advanced).2
      simp only [raise, lower] at ih ⊢
      omega
  | group _ advanced _ _ closed ih =>
      obtain ⟨quiet, last⟩ := depth_of_expect closed
      have depth_eq := (depth_of_advance advanced).2
      simp only [raise, lower, barred_ok, Bool.toNat_false, barred_map] at ih last ⊢
      rw [quiet, last, ih, depth_eq]
      rfl
  | noOperand _ _ ih => exact ih
  | chain _ _ _ first ih => rw [ih, first, barred_ok, Bool.toNat_false, Nat.add_zero]
  | noRight _ advanced _ ih => rw [ih, (depth_of_advance advanced).2]
  | round _ advanced _ _ _ right ih =>
      rw [ih, right, (depth_of_advance advanced).2, barred_ok, Bool.toNat_false, Nat.add_zero]

theorem Tracks.ahead_le (tracks : Tracks task parser track result after) :
    after.ahead ≤ parser.ahead := by
  induction tracks with
  | integer _ advanced | unopened _ advanced | unread _ advanced =>
      exact ahead_le_of_advance advanced
  | refused _ advanced =>
      rw [ahead_raise]
      exact ahead_le_of_advance advanced
  | unexpected | rest => exact Nat.le_refl _
  | broken _ advanced _ _ ih =>
      rw [ahead_raise] at ih
      exact Nat.le_trans ih (ahead_le_of_advance advanced)
  | group _ advanced _ _ closed ih =>
      have last := ahead_le_of_expect closed
      rw [ahead_raise] at ih
      rw [ahead_lower] at last
      exact Nat.le_trans last (Nat.le_trans ih (ahead_le_of_advance advanced))
  | noRight _ advanced _ ih => exact Nat.le_trans ih (ahead_le_of_advance advanced)
  | noOperand _ _ ih => exact ih
  | chain _ _ _ first ih => exact Nat.le_trans ih first
  | round _ advanced _ _ _ right ih =>
      exact Nat.le_trans ih (Nat.le_trans right (ahead_le_of_advance advanced))

def Ends (task : Task) (parser : Parser) : Prop :=
  ∃ track result after, Tracks task parser track result after

theorem at_operator_iff {level : Level} :
    parser.atOperator level.symbols = true ↔
      ∃ op, parser.lookahead.lexeme = .operator op ∧ op.level = level := by
  unfold atOperator
  cases parser.lookahead.lexeme with
  | operator op => cases op <;> cases level <;> simp [Operator.level] <;> decide
  | integer | leftParen | rightParen | endOfInput => simp

theorem ends_factor (below : ∀ task next, next.ahead < parser.ahead → Ends task next) :
    Ends (.phrase .factor) parser := by
  rcases advanced : parser.advance with ⟨token, opened⟩
  cases shape : parser.lookahead.lexeme with
  | integer value => exact ⟨_, _, _, .integer shape advanced⟩
  | leftParen =>
      cases token with
      | error fault => exact ⟨_, _, _, .unopened shape advanced⟩
      | ok token =>
          have fewer := ahead_lt_of_advance advanced (by simp [shape])
          cases checked : opened.raise.check token.pos with
          | error fault => exact ⟨_, _, _, .refused shape advanced checked⟩
          | ok =>
              obtain ⟨track, result, inner, tracks⟩ :=
                below (.phrase .expression) opened.raise fewer
              cases result with
              | error fault => exact ⟨_, _, _, .broken shape advanced checked tracks⟩
              | ok tree =>
                  rcases closed : inner.lower.expect .rightParen with ⟨closing, after⟩
                  exact ⟨_, _, _, .group shape advanced checked tracks closed⟩
  | operator | rightParen | endOfInput =>
      refine ⟨_, _, _, .unexpected ?_ ?_⟩ <;> simp [Token.kind, shape, Lexeme.kind]

theorem ends_rounds (below : ∀ task next, next.ahead < parser.ahead → Ends task next)
    (level : Level) (left : Tree) : Ends (.rounds level left) parser := by
  cases more : parser.atOperator level.symbols with
  | false => exact ⟨_, _, _, .rest more⟩
  | true =>
      obtain ⟨op, shape, -⟩ := at_operator_iff.mp more
      rcases advanced : parser.advance with ⟨fault | token, next⟩
      · exact ⟨_, _, _, .unread more advanced⟩
      · have fewer := ahead_lt_of_advance advanced (by simp [shape])
        obtain ⟨track, result, reached, tracks⟩ := below (.phrase level.operand) next fewer
        cases result with
        | error fault => exact ⟨_, _, _, .noRight more advanced tracks⟩
        | ok right =>
            obtain ⟨rfl, -⟩ := onward_of_advance advanced
            obtain ⟨further, result, after, goes⟩ :=
              below (.rounds level (.bin op left right)) reached
                (Nat.lt_of_le_of_lt tracks.ahead_le fewer)
            exact ⟨_, result, after, .round more advanced shape tracks goes⟩

theorem ends_chain (level : Level) (operand : Ends (.phrase level.operand) parser)
    (rounds : ∀ left next, next.ahead ≤ parser.ahead → Ends (.rounds level left) next) :
    Ends (.phrase level.phrase) parser := by
  obtain ⟨track, result, next, tracks⟩ := operand
  cases result with
  | error fault => exact ⟨_, _, _, .noOperand level tracks⟩
  | ok left =>
      obtain ⟨further, result, after, goes⟩ := rounds left next tracks.ahead_le
      exact ⟨_, result, after, .chain level tracks goes⟩

theorem ends (task : Task) (parser : Parser) : Ends task parser := by
  -- A parenthesis or an operator is used up in front of every phrase that is read on the way.
  induction left : parser.ahead using Nat.strongRecOn generalizing task parser with
  | _ bound ih =>
      subst left
      have below : ∀ task next, next.ahead < parser.ahead → Ends task next :=
        fun task next fewer => ih next.ahead fewer task next rfl
      have rounds : ∀ level left next, next.ahead ≤ parser.ahead →
          Ends (.rounds level left) next := fun level left next within =>
        ends_rounds (fun task further fewer => below task further (Nat.lt_of_lt_of_le fewer within))
          level left
      have factor : Ends (.phrase .factor) parser := ends_factor below
      have term : Ends (.phrase .term) parser := ends_chain .product factor (rounds .product)
      have expression : Ends (.phrase .expression) parser := ends_chain .sum term (rounds .sum)
      match task with
      | .phrase .factor => exact factor
      | .phrase .term => exact term
      | .phrase .expression => exact expression
      | .rounds level left => exact rounds level left parser (Nat.le_refl _)

def Quiet (kind : Phrase) (parser : Parser) : Prop :=
  ∀ op, parser.lookahead.lexeme = .operator op → kind.admits op.level = false

def Task.Settles : Task → Parser → Parser → Prop
  | phrase goal, _, after => Quiet goal after
  | rounds level _, parser, after => Quiet level.operand parser → Quiet level.phrase after

theorem quiet_of_rest {level : Level} (rest : parser.atOperator level.symbols = false)
    (quiet : Quiet level.operand parser) : Quiet level.phrase parser := by
  intro op shape
  have level_ne : op.level ≠ level := by
    intro level_eq
    rw [at_operator_iff.mpr ⟨op, shape, level_eq⟩] at rest
    cases rest
  have below := quiet op shape
  generalize op.level = placed at level_ne below
  cases level <;> cases placed <;> first | rfl | exact absurd rfl level_ne | exact below

theorem Tracks.settles (tracks : Tracks task parser track result after) :
    ∀ tree, result = .ok tree → task.Settles parser after := by
  induction tracks with
  | integer | unexpected | unopened | refused | broken | group => exact fun _ _ _ _ => rfl
  | noOperand | unread | noRight => exact nofun
  | rest more => exact fun _ _ => quiet_of_rest more
  | chain _ _ _ first others => exact fun tree success => others tree success (first _ rfl)
  | round _ _ _ _ _ right others => exact fun tree success _ => others tree success (right _ rfl)

/-- The parser without the open parentheses in its depth. -/
def shallow (parser : Parser) (count : Nat) : Parser :=
  { parser with depth := parser.depth - count }

def resume (goal : Phrase) (next : Tree → Assembly) :
    Except ParseFault Tree → Parser → Except ParseFault Tree × Parser
  | .ok tree, after => after.run goal (next tree)
  | .error fault, after => (.error fault, after)

/-- The state in which a task begins and the one in which it ends, for each tree. -/
inductive Hosts (goal : Phrase) (outer : List Layer) : Task → Assembly → (Tree → Assembly) → Prop
    where
  | factor (here : Layer) :
      Hosts goal outer (.phrase .factor) (operand here outer) (here.complete · outer)
  | term (sum : Option Pending) : (Assembly.phrase goal outer).admits .product = true →
      Hosts goal outer (.phrase .term) (operand ⟨sum, none⟩ outer) (operator sum · outer)
  | products (sum : Option Pending) (left : Tree) :
      (Assembly.phrase goal outer).admits .product = true →
      Hosts goal outer (.rounds .product left) (operator sum left outer) (operator sum · outer)
  | expression : Assembly.phrase goal outer = .expression →
      Hosts goal outer (.phrase .expression) (operand {} outer) (operator none · outer)
  | sums (left : Tree) : Assembly.phrase goal outer = .expression →
      Hosts goal outer (.rounds .sum left) (operator none left outer) (operator none · outer)

end

section

variable {goal : Phrase} {outer : List Layer} {parser after : Parser} {state : Assembly}
  {next : Tree → Assembly} {level : Level} {left : Tree}

theorem Hosts.chain (hosts : Hosts goal outer (.phrase level.phrase) state next) :
    Hosts goal outer (.phrase level.operand) state next ∧
      ∀ left, Hosts goal outer (.rounds level left) (next left) next := by
  cases level with
  | sum =>
      cases hosts with
      | expression phrase_eq =>
          exact ⟨.term none (by rw [phrase_eq]; rfl), fun left => .sums left phrase_eq⟩
  | product =>
      cases hosts with
      | term sum admitted => exact ⟨.factor ⟨sum, none⟩, fun left => .products sum left admitted⟩

theorem run_of_quiet (quiet : Quiet .term parser) (sum : Option Pending) (term : Tree) :
    parser.run goal (operator sum term outer) =
      parser.run goal (operator none (attach sum term) outer) := by
  have moves : (operator sum term outer).move goal parser.lookahead.lexeme =
      (operator none (attach sum term) outer).move goal parser.lookahead.lexeme := by
    cases shape : parser.lookahead.lexeme with
    | operator op =>
        have weak := quiet op shape
        cases placed : op.level with
        | product => rw [placed] at weak; cases weak
        | sum => simp only [move, Layer.extend, placed, attach]
    | integer | leftParen | rightParen | endOfInput => cases outer <;> rfl
  have steps : parser.step goal (operator sum term outer) =
      parser.step goal (operator none (attach sum term) outer) := by
    rw [step, moves, step]
  cases progress : parser.step goal (operator sum term outer) with
  | done => rw [run_of_done progress, run_of_done (steps.symm.trans progress)]
  | more => rw [run_of_more progress, run_of_more (steps.symm.trans progress)]

theorem Hosts.round (hosts : Hosts goal outer (.rounds level left) state next) {op : Operator}
    (placed : op.level = level) :
    ∃ entered through, state.move goal (.operator op) = .take entered ∧
      Hosts goal outer (.phrase level.operand) entered through ∧
        ∀ right, Hosts goal outer (.rounds level (.bin op left right)) (next (.bin op left right))
            next ∧
          ∀ reached, Quiet level.operand reached →
            reached.run goal (through right) = reached.run goal (next (.bin op left right)) := by
  cases hosts with
  | products sum left admitted =>
      refine ⟨operand ⟨sum, some ⟨left, op⟩⟩ outer, _, ?_, .factor _, fun right => ⟨?_, ?_⟩⟩
      · simp only [move, placed, admitted, if_true, Layer.extend]
      · exact .products sum _ admitted
      · exact fun _ _ => rfl
  | sums left phrase_eq =>
      refine ⟨operand ⟨some ⟨left, op⟩, none⟩ outer, _, ?_, .term _ ?_, fun right => ⟨?_, ?_⟩⟩
      · simp only [move, placed, phrase_eq, Phrase.admits, if_true, Layer.extend, attach]
      · rw [phrase_eq]
        rfl
      · exact .sums _ phrase_eq
      · exact fun reached quiet => run_of_quiet quiet _ right

@[simp] theorem lookahead_shallow (parser : Parser) (count : Nat) :
    (parser.shallow count).lookahead = parser.lookahead := rfl

theorem advance_shallow (parser : Parser) (count : Nat) :
    (parser.shallow count).advance = (parser.advance.1, parser.advance.2.shallow count) := by
  simp only [advance, shallow]
  split <;> rfl

theorem raise_shallow (parser : Parser) (count : Nat) :
    parser.raise.shallow (count + 1) = parser.shallow count := by
  simp [raise, shallow]

theorem lower_shallow (parser : Parser) (count : Nat) :
    parser.lower.shallow count = parser.shallow (count + 1) := by
  simp [lower, shallow, Nat.sub_sub, Nat.add_comm]

theorem enter_shallow {entered : Assembly} {count : Nat} (parser : Parser) (pos : Int)
    (nesting : entered.nesting = count + 1) (low : count ≤ parser.depth) :
    (parser.shallow count).enter pos entered = match parser.raise.check pos with
      | .ok _ => .more (parser.shallow count) entered
      | .error fault => .done (.error fault) (parser.raise.shallow count) := by
  have back : parser.depth + 1 - count = parser.depth - count + 1 := by omega
  cases limited : parser.maxNesting with
  | none => simp only [enter, check, shallow, raise, limited, back]
  | some limit =>
      have deep : limit < ↑(parser.depth - count) + ↑entered.nesting ↔
          limit < ↑(parser.depth + 1) := by omega
      by_cases high : limit < ↑(parser.depth + 1)
      · simp only [enter, check, shallow, raise, limited, back, deep.mpr high, high, if_true]
      · simp only [enter, check, shallow, raise, limited, mt deep.mp high, high, if_false]

theorem run_of_take {count : Nat} {token : Token} {entered : Assembly}
    (moved : state.move goal parser.lookahead.lexeme = .take entered)
    (advanced : parser.advance = (.ok token, after)) :
    (parser.shallow count).run goal state = (after.shallow count).run goal entered := by
  have shallow := advance_shallow parser count
  rw [advanced] at shallow
  exact run_of_more (by rw [step, lookahead_shallow, moved, shallow])

theorem run_of_unread {count : Nat} {fault : ParseFault}
    (uses : (state.move goal parser.lookahead.lexeme).Uses)
    (advanced : parser.advance = (.error fault, after)) :
    (parser.shallow count).run goal state = (.error fault, after.shallow count) := by
  have shallow := advance_shallow parser count
  rw [advanced] at shallow
  apply run_of_done
  rw [step, lookahead_shallow]
  generalize state.move goal parser.lookahead.lexeme = moved at uses
  cases moved with
  | take | enter => simp only [shallow]
  | finish | refuse => exact absurd uses id

theorem run_of_refuse {count : Nat} {expected : Expected}
    (moved : state.move goal parser.lookahead.lexeme = .refuse expected) :
    (parser.shallow count).run goal state =
      (.error (parser.unexpected expected), parser.shallow count) :=
  run_of_done (by rw [step, lookahead_shallow, moved]; rfl)

theorem run_of_last {count : Nat} {token : Except ParseFault Token} {tree : Tree}
    (moved : state.move goal parser.lookahead.lexeme = .take (next tree))
    (advanced : parser.advance = (token, after)) :
    (parser.shallow count).run goal state =
      resume goal next (token.map fun _ => tree) (after.shallow count) := by
  cases token with
  | ok token => exact run_of_take moved advanced
  | error fault => exact run_of_unread (moved ▸ trivial) advanced

theorem room_of_enter (here : Layer) {opened : Parser} {token : Token}
    (advanced : parser.advance = (.ok token, opened)) (low : outer.length ≤ parser.depth) :
    (here :: outer).length ≤ opened.raise.depth := by
  have depth_eq := (depth_of_advance advanced).2
  simp only [raise, List.length_cons]
  omega

theorem run_of_enter {here : Layer} {opened : Parser} {token : Token}
    (shape : parser.lookahead.lexeme = .leftParen) (advanced : parser.advance = (.ok token, opened))
    (low : outer.length ≤ parser.depth) :
    (parser.shallow outer.length).run goal (operand here outer) =
      match opened.raise.check token.pos with
      | .ok _ => (opened.raise.shallow (outer.length + 1)).run goal (operand {} (here :: outer))
      | .error fault => (.error fault, opened.raise.shallow outer.length) := by
  have shallow := advance_shallow parser outer.length
  have entered := enter_shallow opened token.pos
    (rfl : (operand {} (here :: outer)).nesting = outer.length + 1)
    ((depth_of_advance advanced).2.symm ▸ low)
  have progress : (parser.shallow outer.length).step goal (operand here outer) =
      (opened.shallow outer.length).enter token.pos (operand {} (here :: outer)) := by
    rw [advanced] at shallow
    rw [step, lookahead_shallow, shape, move, shallow]
  rw [entered] at progress
  cases checked : opened.raise.check token.pos with
  | ok => rw [checked] at progress; rw [run_of_more progress, raise_shallow]
  | error fault => rw [checked] at progress; rw [run_of_done progress]

theorem run_of_close {here : Layer} {count : Nat} {tree : Tree} {closing : Except ParseFault Token}
    (quiet : Quiet .expression parser) (closed : parser.expect .rightParen = (closing, after)) :
    (parser.shallow count).run goal (operator none tree (here :: outer)) =
      resume goal (here.complete · outer) (closing.map fun _ => tree) (after.shallow count) := by
  unfold expect at closed
  split at closed
  · rename_i kind
    refine run_of_last ?_ closed
    cases shape : parser.lookahead.lexeme with
    | rightParen => rfl
    | operator | integer | leftParen | endOfInput =>
        rw [Token.kind, shape] at kind
        cases kind
  · rename_i kind
    cases closed
    apply run_of_refuse
    cases shape : parser.lookahead.lexeme with
    | operator op => cases quiet op shape
    | rightParen => exact absurd (by rw [Token.kind, shape]; rfl) kind
    | integer | leftParen | endOfInput => rfl

/-- While some parentheses are open, a task that a descent goes through takes the assembly to the
state behind it. The descent has counted these parentheses in its depth. -/
theorem run_of_tracks {task : Task} {track : List Event} {result : Except ParseFault Tree}
    (tracks : Tracks task parser track result after) (hosts : Hosts goal outer task state next)
    (low : outer.length ≤ parser.depth) :
    (parser.shallow outer.length).run goal state =
      resume goal next result (after.shallow outer.length) := by
  induction tracks generalizing outer state next with
  | integer shape advanced =>
      cases hosts with
      | factor here => exact run_of_last (by rw [shape]; rfl) advanced
  | @unexpected parser other kind_ne =>
      cases hosts with
      | factor here =>
          apply run_of_refuse
          cases shape : parser.lookahead.lexeme with
          | integer => exact absurd (by rw [Token.kind, shape]; rfl) other
          | leftParen => exact absurd (by rw [Token.kind, shape]; rfl) kind_ne
          | operator | rightParen | endOfInput => rfl
  | unopened shape advanced =>
      cases hosts with
      | factor here => exact run_of_unread (by rw [shape]; trivial) advanced
  | refused shape advanced failed =>
      cases hosts with
      | factor here => rw [run_of_enter shape advanced low, failed]; rfl
  | broken shape advanced passed _ inside =>
      cases hosts with
      | factor here =>
          -- Inside the parenthesis one more layer is open, and the depth counts one more.
          rw [run_of_enter shape advanced low, passed, lower_shallow]
          exact inside (.expression rfl) (room_of_enter here advanced low)
  | group shape advanced passed tracks closed inside =>
      cases hosts with
      | factor here =>
          have read := inside (.expression rfl) (room_of_enter here advanced low)
          rw [run_of_enter shape advanced low, passed]
          refine read.trans ?_
          rw [List.length_cons, ← lower_shallow]
          exact run_of_close (tracks.settles _ rfl) closed
  | noOperand level _ first => exact first hosts.chain.1 low
  | chain level tracks _ first others =>
      have deep := tracks.depth
      refine (first hosts.chain.1 low).trans (others (hosts.chain.2 _) ?_)
      simpa [deep] using low
  | rest => cases hosts <;> rfl
  | unread more advanced =>
      obtain ⟨op, shape, placed⟩ := at_operator_iff.mp more
      obtain ⟨entered, through, moved, -⟩ := hosts.round placed
      exact run_of_unread (by rw [shape, moved]; trivial) advanced
  | noRight more advanced _ first =>
      obtain ⟨op, shape, placed⟩ := at_operator_iff.mp more
      obtain ⟨entered, through, moved, operand, -⟩ := hosts.round placed
      rw [run_of_take (shape ▸ moved) advanced]
      exact (first operand ((depth_of_advance advanced).2.symm ▸ low)).trans rfl
  | @round _ _ reached _ _ _ right _ op _ _ _ more advanced seen tracks _ first others =>
      obtain ⟨rfl, -⟩ := onward_of_advance advanced
      obtain ⟨_, shape, placed⟩ := at_operator_iff.mp more
      obtain rfl : op = _ := Lexeme.operator.inj (seen.symm.trans shape)
      obtain ⟨entered, through, moved, operand, join⟩ := hosts.round placed
      have depth_eq := (depth_of_advance advanced).2
      have depth_tracked := tracks.depth
      have quiet : Quiet _ (reached.shallow outer.length) := tracks.settles _ rfl
      rw [run_of_take (shape ▸ moved) advanced, first operand (depth_eq.symm ▸ low)]
      refine ((join right).2 _ quiet).trans (others (join right).1 ?_)
      simpa [depth_tracked, depth_eq] using low

theorem hosts_start (goal : Phrase) :
    Hosts goal [] (.phrase goal) .start (operator none · []) := by
  cases goal with
  | expression => exact .expression rfl
  | term => exact .term none rfl
  | factor => exact .factor {}

theorem move_of_quiet (quiet : Quiet goal parser) (sum : Option Pending) (term : Tree) :
    (operator sum term []).move goal parser.lookahead.lexeme = .finish (attach sum term) := by
  cases shape : parser.lookahead.lexeme with
  | operator op =>
      have other := quiet op shape
      simp [move, Assembly.phrase, other]
  | integer | leftParen | rightParen | endOfInput => rfl

theorem run_of_complete (quiet : Quiet goal parser) (sum : Option Pending) (term : Tree) :
    parser.run goal (operator sum term []) = (.ok (attach sum term), parser) :=
  run_of_done (by rw [step, move_of_quiet quiet])

theorem Tracks.phrase {track : List Event} {result : Except ParseFault Tree}
    (tracks : Tracks (.phrase goal) parser track result after) :
    parser.phrase goal = (result, after) := by
  have run := run_of_tracks tracks (hosts_start goal) (Nat.zero_le _)
  cases result with
  | error fault => exact run
  | ok tree => exact run.trans (run_of_complete (tracks.settles tree rfl) none tree)

theorem descends_iff {result : Except ParseFault Tree} :
    Descends (.phrase goal) parser result after ↔ parser.phrase goal = (result, after) := by
  constructor
  · rintro ⟨track, tracks⟩
    exact tracks.phrase
  · intro read
    obtain ⟨track, other, reached, tracks⟩ := ends (.phrase goal) parser
    have returned := tracks.phrase
    rw [read] at returned
    cases returned
    exact ⟨track, tracks⟩

end

end Parser
end Reckoner
