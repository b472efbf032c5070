import Reckoner.Proofs.Descent
import Reckoner.Proofs.Stream
import Mathlib

/-!
What a reading uses up. Every reading has a track and comes to an end with it (`ends`), and
the tokens on the track are the first of those that are ahead, each of them once
(`Tracks.consumes`). Each round and each parenthesis leaves fewer tokens ahead (`Tracks.onward`). A
text that is parsed is used up from its first token to the end of input (`consumes_in_order`).
-/

namespace Reckoner.Parser

section

variable {task : Task} {parser reached after : Parser} {result : Except ParseFault Tree}
  {track : List Event}

theorem TracksWhole.parse (tracks : TracksWhole parser track result after) :
    parser.parse = (result, after) := by
  cases tracks with
  | failed inner => rw [Parser.parse, inner.phrase]
  | ended inner closed =>
      rw [Parser.parse, inner.phrase]
      simp only [closed]

theorem exists_tracks_whole (parser : Parser) :
    ∃ track result after, TracksWhole parser track result after := by
  obtain ⟨track, result, reached, tracks⟩ := ends (.phrase .expression) parser
  cases result with
  | error fault => exact ⟨_, _, _, .failed tracks⟩
  | ok tree => exact ⟨_, _, _, .ended tracks rfl⟩

end

@[simp] theorem calls_nil : calls [] = [] := rfl

@[simp] theorem calls_advance (token : Token) (track : List Event) :
    calls (.advance token :: track) = token :: calls track := rfl

@[simp] theorem calls_turn (before behind : Parser) (track : List Event) :
    calls (.turn before behind :: track) = calls track := rfl

@[simp] theorem calls_append (track more : List Event) :
    calls (track ++ more) = calls track ++ calls more :=
  List.filterMap_append

/-- The first tokens ahead are used up, and when nothing fails the others are still ahead. -/
structure Consumes {α : Type} (parser : Parser) (used : List Token) (result : Except ParseFault α)
    (after : Parser) : Prop where
  leads : used <+: parser.pending.tokens
  pending_eq : ∀ value, result = .ok value → parser.pending.tokens = used ++ after.pending.tokens

section

variable {α β : Type} {parser reached after : Parser} {used more : List Token} {kind : Kind}
  {token : Except ParseFault Token}

theorem lookahead_leads (parser : Parser) : [parser.lookahead] <+: parser.pending.tokens := by
  obtain ⟨behind, shape⟩ := pending_tokens parser
  exact ⟨behind, shape.symm⟩

theorem Consumes.nothing (parser : Parser) (value : α) :
    Consumes parser [] (.ok value) parser :=
  ⟨List.nil_prefix, fun _ _ => rfl⟩

theorem Consumes.failed (first : used <+: parser.pending.tokens) (fault : ParseFault)
    (after : Parser) : Consumes parser used (.error fault : Except ParseFault α) after :=
  ⟨first, nofun⟩

theorem Consumes.map {result : Except ParseFault α} (consumes : Consumes parser used result after)
    (f : α → β) : Consumes parser used (result.map f) after := by
  cases result with
  | ok value => exact ⟨consumes.leads, fun _ _ => consumes.pending_eq value rfl⟩
  | error fault => exact .failed consumes.leads fault after

theorem Consumes.trans {value : α} {result : Except ParseFault β}
    (consumes : Consumes parser used (.ok value) reached)
    (further : Consumes reached more result after) :
    Consumes parser (used ++ more) result after := by
  have middle := consumes.pending_eq value rfl
  refine ⟨?_, fun other success => ?_⟩
  · rw [middle, List.prefix_append_right_inj]
    exact further.leads
  · rw [middle, further.pending_eq other success, List.append_assoc]

theorem Consumes.lowered {result : Except ParseFault α}
    (consumes : Consumes parser.raise used result after) :
    Consumes parser used result after.lower :=
  ⟨consumes.leads, consumes.pending_eq⟩

theorem Consumes.raised {result : Except ParseFault α}
    (consumes : Consumes parser used result after) : Consumes parser used result after.raise :=
  ⟨consumes.leads, consumes.pending_eq⟩

theorem consumes_of_advance (advanced : parser.advance = (token, after))
    (inside : parser.lookahead.lexeme ≠ .endOfInput) :
    Consumes parser [parser.lookahead] token after := by
  cases token with
  | error fault => exact .failed (lookahead_leads parser) fault after
  | ok token =>
      have pending_eq := (onward_of_advance advanced).2.pending inside
      exact ⟨lookahead_leads parser, fun _ _ => congrArg Scan.tokens pending_eq⟩

theorem consumes_of_expect (read : parser.expect kind = (token, after))
    (inside : kind ≠ .endOfInput) : Consumes parser [parser.lookahead] token after := by
  unfold expect at read
  split at read
  · rename_i kind_eq
    refine consumes_of_advance read fun ends => inside ?_
    rw [← kind_eq, Token.kind, ends]
    rfl
  · cases read
    exact .failed (lookahead_leads parser) _ _

end

section

variable {task : Task} {parser after : Parser} {result : Except ParseFault Tree}
  {track : List Event}

theorem inside_of_operator {level : Level} (goesOn : parser.atOperator level.symbols = true) :
    parser.lookahead.lexeme ≠ .endOfInput := by
  obtain ⟨op, shape, -⟩ := at_operator_iff.mp goesOn
  simp [shape]

theorem Tracks.consumes (tracks : Tracks task parser track result after) :
    Consumes parser (calls track) result after := by
  induction tracks with
  | integer shape advanced => exact (consumes_of_advance advanced (by simp [shape])).map _
  | unexpected => exact .failed List.nil_prefix _ _
  -- The lookahead has been asked for, whatever fails behind it.
  | unopened | refused | unread => exact .failed (lookahead_leads _) _ _
  | broken shape advanced _ _ ih =>
      have opening := consumes_of_advance advanced (by simp [shape])
      simpa using opening.trans ih.lowered
  | @group _ _ inner after _ tree closing _ shape advanced _ _ closed ih =>
      have opening := consumes_of_advance advanced (by simp [shape])
      have closing : Consumes inner.lower [inner.lookahead] (closing.map fun _ => tree) after :=
        (consumes_of_expect closed (by decide)).map _
      simpa using opening.trans (ih.lowered.trans closing)
  | noOperand _ _ ih => exact .failed ih.leads _ _
  | chain _ _ _ first others =>
      rw [calls_append]
      exact first.trans others
  | rest => exact .nothing _ _
  | noRight more advanced _ ih =>
      have joining := consumes_of_advance advanced (inside_of_operator more)
      simpa using joining.trans ih
  | round more advanced _ _ _ right others =>
      have joining := consumes_of_advance advanced (inside_of_operator more)
      simpa using joining.trans (right.trans others)

def Event.Onward : Event → Prop
  | advance _ => True
  | turn before behind => behind.pending.tokens.length < before.pending.tokens.length

theorem onward_of_consumes {before behind : Parser} {token : Token} {used : List Token} {α : Type}
    {value : α} (consumes : Consumes before (token :: used) (.ok value) behind) :
    Event.Onward (.turn before behind) := by
  have shape := congrArg List.length (consumes.pending_eq value rfl)
  rw [List.length_append, List.length_cons] at shape
  change behind.pending.tokens.length < before.pending.tokens.length
  omega

theorem onward_cons {before behind : Parser} {token : Token} {α : Type} {value : α}
    (consumes : Consumes before [token] (.ok value) behind)
    (onward : ∀ event ∈ track, event.Onward) :
    ∀ event ∈ .advance token :: .turn before behind :: track, event.Onward := by
  have turned := onward_of_consumes consumes
  exact List.forall_mem_cons.mpr ⟨trivial, List.forall_mem_cons.mpr ⟨turned, onward⟩⟩

theorem onward_advance (token : Token) : ∀ event ∈ [Event.advance token], event.Onward := by
  intro event member
  rw [List.mem_singleton.mp member]
  trivial

theorem Tracks.onward (tracks : Tracks task parser track result after) :
    ∀ event ∈ track, event.Onward := by
  induction tracks with
  | unexpected | rest => exact List.forall_mem_nil _
  | integer | unopened | refused | unread => exact onward_advance _
  | broken shape advanced _ _ ih =>
      have opening := consumes_of_advance advanced (by simp [shape])
      exact onward_cons opening.raised ih
  | group shape advanced _ _ _ ih =>
      have opening := consumes_of_advance advanced (by simp [shape])
      exact onward_cons opening.raised (List.forall_mem_append.mpr ⟨ih, onward_advance _⟩)
  | noOperand _ _ ih => exact ih
  | chain _ _ _ first others => exact List.forall_mem_append.mpr ⟨first, others⟩
  | noRight more advanced _ ih =>
      exact onward_cons (consumes_of_advance advanced (inside_of_operator more)) ih
  | round more advanced _ operand _ right others =>
      have joining := consumes_of_advance advanced (inside_of_operator more)
      -- The operator makes the progress of the round, so none is needed of the operand.
      have passed := onward_of_consumes (joining.trans operand.consumes)
      have behind := List.forall_mem_cons.mpr ⟨passed, others⟩
      exact onward_cons joining (List.forall_mem_append.mpr ⟨right, behind⟩)

end

/-- Each token ahead is asked for once at most, in the order of the text, and each turn leaves fewer
tokens ahead. -/
structure Frugal (parser : Parser) (track : List Event) : Prop where
  once : calls track <+: parser.pending.tokens
  onward : ∀ event ∈ track, event.Onward

section

variable {parser after : Parser} {result : Except ParseFault Tree} {track : List Event}

theorem Tracks.frugal {task : Task} (tracks : Tracks task parser track result after) :
    Frugal parser track :=
  ⟨tracks.consumes.leads, tracks.onward⟩

theorem TracksWhole.frugal (tracks : TracksWhole parser track result after) :
    Frugal parser track := by
  cases tracks with
  | failed inner => exact inner.frugal
  | ended inner =>
      have tokens_eq := inner.consumes.pending_eq _ rfl
      refine ⟨?_, List.forall_mem_append.mpr ⟨inner.onward, onward_advance _⟩⟩
      rw [calls_append, tokens_eq, List.prefix_append_right_inj]
      exact lookahead_leads _

theorem ends_of_expect {token : Token} (closed : parser.expect .endOfInput = (.ok token, after)) :
    parser.lookahead.lexeme = .endOfInput := by
  by_contra inside
  have refused := expect_other inside
  rw [closed] at refused
  cases refused

theorem TracksWhole.complete (tracks : TracksWhole parser track result after) {tree : Tree}
    (success : result = .ok tree) : parser.pending.tokens = calls track := by
  cases tracks with
  | failed => cases success
  | @ended reached _ _ closing track inner closed =>
      cases closing with
      | error fault => cases success
      | ok token =>
          calc
            parser.pending.tokens = calls track ++ reached.pending.tokens :=
              inner.consumes.pending_eq _ rfl
            _ = calls track ++ [reached.lookahead] := by rw [pending_of_end (ends_of_expect closed)]
            _ = calls (track ++ [.advance reached.lookahead]) := by simp

theorem Stands.advance_of_end {lexer : Lexer} {index count : Nat}
    (stands : Stands lexer index count parser) (ends : parser.lookahead.lexeme = .endOfInput) :
    parser.advance = (.ok parser.lookahead, parser) := by
  obtain ⟨earlier, rfl⟩ := Nat.exists_eq_add_one_of_ne_zero (Nat.ne_zero_of_lt stands.passed)
  have low : index ≤ earlier := Nat.le_of_lt_succ stands.passed
  have here := Lexer.outcome_of_end stands.lookahead ends (Nat.le_refl index)
  have last := Lexer.outcome_of_end stands.lookahead ends low
  have nothing : parser.lexer.rest = [] := by
    rw [stands.read]
    exact (Lexer.next_end (Prod.ext last rfl) rfl).2
  have place : parser.lookahead = ⟨.endOfInput, parser.lexer.text.length⟩ := by
    rw [stands.read, Lexer.after_text]
    exact Except.ok.inj (stands.lookahead.symm.trans here)
  rw [advance, Lexer.next_of_rest_nil nothing, ← place]

theorem start_of_parse {text : List Char} {maxNesting : Option Int} {tree : Tree}
    (parsed : Reckoner.parse text maxNesting = .ok tree) :
    ∃ first stopped, start text maxNesting = (.ok first, stopped) ∧
      first.parse.1 = .ok tree ∧ Lexer.scan ⟨text, 0⟩ = first.pending := by
  rcases read : Lexer.next ⟨text, 0⟩ with ⟨fault | token, lexer⟩
  · rw [Reckoner.parse, parseUpTo, start, read] at parsed
    cases parsed
  · rw [Reckoner.parse, parseUpTo, start, read] at parsed
    exact ⟨⟨lexer, token, 0, maxNesting⟩, lexer, by rw [start, read], parsed,
      pending_of_next read 0 maxNesting⟩

theorem tokenize_of_parse {text : List Char} {maxNesting : Option Int} {tree : Tree}
    (parsed : Reckoner.parse text maxNesting = .ok tree) :
    ∃ first stopped, start text maxNesting = (.ok first, stopped) ∧
      ∀ track result after, TracksWhole first track result after →
        result = .ok tree ∧ tokenize text = .ok (calls track) := by
  obtain ⟨first, stopped, started, returned, tokens_eq⟩ := start_of_parse parsed
  obtain ⟨_, _, tokens, -⟩ := parse_eq_ok_iff.mp parsed
  have faultless := (tokenize_eq_ok_iff.mp tokens).1
  refine ⟨first, stopped, started, fun track result after tracks => ?_⟩
  have success : result = .ok tree := by rw [← returned, tracks.parse]
  refine ⟨success, tokenize_eq_ok_iff.mpr ⟨faultless, ?_⟩⟩
  rw [tokens_eq, tracks.complete success]

end

/-- From every state of a parser every phrase is read to an end, and so is a whole parse, whatever
it comes to. It asks for the tokens ahead in their order, the end of input being the last, and for
each of them once at most. Each round of a phrase and each parenthesis leaves fewer tokens ahead. In
a session the end of input is handed out without any progress. A text that is parsed has been asked
for its tokens once each, the end of input included. -/
theorem consumes_in_order (text : List Char) (maxNesting : Option Int) :
    (∀ parser : Parser,
      (∀ task,
        (∃ track result after, Tracks task parser track result after) ∧
        ∀ track result after, Tracks task parser track result after → Frugal parser track) ∧
      (∀ goal track result after, Tracks (.phrase goal) parser track result after →
        parser.phrase goal = (result, after)) ∧
      (∃ track result after, TracksWhole parser track result after) ∧
      ∀ track result after, TracksWhole parser track result after →
        parser.parse = (result, after) ∧ Frugal parser track) ∧
    (∀ first stopped, start text maxNesting = (.ok first, stopped) → ∀ requests,
      let current := first.leave requests
      current.lookahead.lexeme = .endOfInput →
        current.advance = (.ok current.lookahead, current)) ∧
    ∀ tree, Reckoner.parse text maxNesting = .ok tree →
      ∃ first stopped, start text maxNesting = (.ok first, stopped) ∧
        ∀ track result after, TracksWhole first track result after →
          result = .ok tree ∧ tokenize text = .ok (calls track) := by
  refine ⟨fun parser => ⟨fun task => ⟨ends task parser, ?_⟩, ?_, ?_, ?_⟩, ?_, ?_⟩
  · exact fun track result after tracks => tracks.frugal
  · exact fun goal track result after tracks => tracks.phrase
  · exact exists_tracks_whole parser
  · exact fun track result after tracks => ⟨tracks.parse, tracks.frugal⟩
  · intro first stopped started requests current ends
    obtain ⟨index, count, stands, -⟩ := stands_of_session started requests
    exact stands.advance_of_end ends
  · exact fun tree parsed => tokenize_of_parse parsed

theorem consumes_in_order_group :
    let text := "2*(30)".toList
    let first : Parser := ⟨⟨text, 1⟩, ⟨.integer 2, 0⟩, 0, some 1⟩
    let tree : Tree := .bin .mul (.num 2) (.num 30)
    start text (some 1) = (.ok first, ⟨text, 1⟩) ∧ Reckoner.parse text (some 1) = .ok tree ∧
      (∃ track after, TracksWhole first track (.ok tree) after ∧ Frugal first track ∧
        calls track = [⟨.integer 2, 0⟩, ⟨.operator .mul, 1⟩, ⟨.leftParen, 2⟩, ⟨.integer 30, 3⟩,
          ⟨.rightParen, 5⟩, ⟨.endOfInput, 6⟩]) ∧
      (first.leave [.parse]).advance = (.ok ⟨.endOfInput, 6⟩, first.leave [.parse]) := by
  intro text first tree
  have started : start "2*(30)".toList (some 1) =
      (.ok ⟨⟨"2*(30)".toList, 1⟩, ⟨.integer 2, 0⟩, 0, some 1⟩, ⟨"2*(30)".toList, 1⟩) := by cbv
  have parsed : Reckoner.parse "2*(30)".toList (some 1) =
      .ok (.bin .mul (.num 2) (.num 30)) := by cbv
  have left : (leave ⟨⟨"2*(30)".toList, 1⟩, ⟨.integer 2, 0⟩, 0, some 1⟩ [.parse]).lookahead =
      ⟨.endOfInput, 6⟩ := by cbv
  have tokens : tokenize "2*(30)".toList = .ok [⟨.integer 2, 0⟩, ⟨.operator .mul, 1⟩,
      ⟨.leftParen, 2⟩, ⟨.integer 30, 3⟩, ⟨.rightParen, 5⟩, ⟨.endOfInput, 6⟩] := by cbv
  obtain ⟨every, ending, tracked⟩ := consumes_in_order "2*(30)".toList (some 1)
  obtain ⟨other, stopped, start_eq, used⟩ := tracked _ parsed
  rw [started] at start_eq
  cases start_eq
  obtain ⟨-, -, ⟨track, result, after, tracks⟩, told⟩ := every first
  obtain ⟨rfl, gathered⟩ := used track result after tracks
  have stays := ending _ _ started [.parse] (by rw [left])
  rw [tokens] at gathered
  rw [left] at stays
  exact ⟨started, parsed, ⟨track, after, tracks, (told _ _ _ tracks).2,
    (Except.ok.inj gathered).symm⟩, stays⟩

end Reckoner.Parser
