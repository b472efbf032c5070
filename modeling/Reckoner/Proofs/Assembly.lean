import Reckoner.Parser.Assembly
import Reckoner.Proofs.Grammar
import Mathlib.Data.List.Induction

/-!
Assemblies and the grammar. Feeding a word to an assembly leaves a complete phrase exactly when the
word derives the phrase, with the tree that was built (`feed_of_derives`, `derives_of_feed`), and
some state exactly when the word can be continued to the phrase (`exists_derives_iff_feed`).
-/

namespace Reckoner

def Move.next? : Move → Option Assembly
  | take next => some next
  | enter next => some next
  | _ => none

/-- What stands between the operators of a sum. A factor has no operators at all. -/
def Phrase.summand : Phrase → Phrase
  | factor => factor
  | _ => term

namespace Assembly

def feed (goal : Phrase) (state : Assembly) (word : List Lexeme) : Option Assembly :=
  word.foldlM (fun state lexeme => (state.move goal lexeme).next?) state

@[simp] theorem feed_nil (goal : Phrase) (state : Assembly) : feed goal state [] = some state := rfl

theorem feed_cons (goal : Phrase) (state : Assembly) (lexeme : Lexeme) (word : List Lexeme) :
    feed goal state (lexeme :: word) = (state.move goal lexeme).next?.bind (feed goal · word) := rfl

theorem feed_append (goal : Phrase) (state : Assembly) (before behind : List Lexeme) :
    feed goal state (before ++ behind) = (feed goal state before).bind (feed goal · behind) :=
  List.foldlM_append

theorem feed_singleton (goal : Phrase) (state : Assembly) (lexeme : Lexeme) :
    feed goal state [lexeme] = (state.move goal lexeme).next? := by
  rw [feed_cons]
  cases (state.move goal lexeme).next? <;> rfl

theorem feed_concat {goal : Phrase} {state reached : Assembly} {word : List Lexeme}
    (fed : feed goal state word = some reached) (lexeme : Lexeme) :
    feed goal state (word ++ [lexeme]) = (reached.move goal lexeme).next? := by
  rw [feed_append, fed, Option.bind_some, feed_singleton]

theorem exists_feed_of_append {goal : Phrase} {state last : Assembly} {before behind : List Lexeme}
    (fed : feed goal state (before ++ behind) = some last) :
    ∃ reached, feed goal state before = some reached := by
  rw [feed_append, Option.bind_eq_some_iff] at fed
  obtain ⟨reached, first, -⟩ := fed
  exact ⟨reached, first⟩

inductive Passes (goal : Phrase) : Assembly → Lexeme → Assembly → Prop where
  | integer (here : Layer) (outer : List Layer) (value : Int) :
      Passes goal (operand here outer) (.integer value) (here.complete (.num value) outer)
  | opening (here : Layer) (outer : List Layer) :
      Passes goal (operand here outer) .leftParen (operand {} (here :: outer))
  | operator (sum : Option Pending) (term : Tree) (outer : List Layer) (op : Operator) :
      (phrase goal outer).admits op.level = true →
        Passes goal (operator sum term outer) (.operator op)
          (operand (Layer.extend sum term op) outer)
  | closing (sum : Option Pending) (term : Tree) (here : Layer) (outer : List Layer) :
      Passes goal (operator sum term (here :: outer)) .rightParen
        (here.complete (attach sum term) outer)

theorem passes_of_next {goal : Phrase} {state after : Assembly} {lexeme : Lexeme}
    (moved : (state.move goal lexeme).next? = some after) : Passes goal state lexeme after := by
  rcases state with ⟨here, outer⟩ | ⟨sum, term, outer⟩
  · cases lexeme with
    | integer value =>
        cases moved
        exact .integer here outer value
    | leftParen =>
        cases moved
        exact .opening here outer
    | operator | rightParen | endOfInput => cases moved
  · cases lexeme with
    | operator op =>
        rw [move] at moved
        split at moved
        · rename_i admitted
          cases moved
          exact .operator sum term outer op admitted
        · cases moved
    | rightParen =>
        cases outer with
        | nil => cases moved
        | cons here outer =>
            cases moved
            exact .closing sum term here outer
    | integer | leftParen | endOfInput => cases outer <;> cases moved

theorem Passes.next {goal : Phrase} {state after : Assembly} {lexeme : Lexeme}
    (passes : Passes goal state lexeme after) : (state.move goal lexeme).next? = some after := by
  cases passes with
  | integer => rfl
  | opening => rfl
  | operator sum term outer op admitted => simp only [move, admitted, if_true, Move.next?]
  | closing => rfl

/-- What has to come next for a state to go on, or to end when it is complete. -/
def expected : Assembly → Expected
  | operand _ _ => .operand
  | operator _ _ (_ :: _) => .kind .rightParen
  | operator _ _ [] => .kind .endOfInput

theorem finish_of_move {goal : Phrase} {state : Assembly} {lexeme : Lexeme} {tree : Tree}
    (moved : state.move goal lexeme = .finish tree) :
    ∃ sum term, state = operator sum term [] ∧ tree = attach sum term := by
  rcases state with ⟨here, outer⟩ | ⟨sum, term, _ | ⟨here, outer⟩⟩
  · cases lexeme <;> cases moved
  · cases lexeme with
    | operator op =>
        rw [move] at moved
        split at moved <;> cases moved
        exact ⟨sum, term, rfl, rfl⟩
    | integer | leftParen | rightParen | endOfInput =>
        cases moved
        exact ⟨sum, term, rfl, rfl⟩
  · cases lexeme with
    | operator op =>
        rw [move, phrase] at moved
        split at moved
        · cases moved
        · rename_i refused
          exact absurd rfl refused
    | integer | leftParen | rightParen | endOfInput => cases moved

theorem refuse_of_move {goal : Phrase} {state : Assembly} {lexeme : Lexeme} {wanted : Expected}
    (moved : state.move goal lexeme = .refuse wanted) :
    wanted = state.expected ∧ ∀ sum term, state ≠ operator sum term [] := by
  rcases state with ⟨here, outer⟩ | ⟨sum, term, _ | ⟨here, outer⟩⟩
  · cases lexeme <;> cases moved <;> exact ⟨rfl, nofun⟩
  · cases lexeme with
    | operator op =>
        rw [move] at moved
        split at moved <;> cases moved
    | integer | leftParen | rightParen | endOfInput => cases moved
  · cases lexeme with
    | operator op =>
        rw [move] at moved
        split at moved <;> cases moved
    | integer | leftParen | endOfInput =>
        cases moved
        exact ⟨rfl, nofun⟩
    | rightParen => cases moved

theorem passes_of_take {goal : Phrase} {state next : Assembly} {lexeme : Lexeme}
    (moved : state.move goal lexeme = .take next) : Passes goal state lexeme next :=
  passes_of_next (by rw [moved]; rfl)

theorem passes_of_enter {goal : Phrase} {state next : Assembly} {lexeme : Lexeme}
    (moved : state.move goal lexeme = .enter next) : Passes goal state lexeme next :=
  passes_of_next (by rw [moved]; rfl)

theorem lexeme_of_take {goal : Phrase} {state next : Assembly} {lexeme : Lexeme}
    (moved : state.move goal lexeme = .take next) : lexeme ≠ .leftParen := by
  intro opening
  subst opening
  cases passes_of_take moved with
  | opening here outer => cases moved

theorem lexeme_of_enter {goal : Phrase} {state next : Assembly} {lexeme : Lexeme}
    (moved : state.move goal lexeme = .enter next) : lexeme = .leftParen := by
  cases passes_of_enter moved with
  | opening => rfl
  | integer | closing => cases moved
  | operator sum term outer op admitted =>
      rw [move, if_pos admitted] at moved
      cases moved

theorem feed_induction {goal : Phrase} {motive : Assembly → List Lexeme → Prop}
    {state last : Assembly} {word : List Lexeme} (start : motive state [])
    (step : ∀ {reached word lexeme after}, motive reached word → Passes goal reached lexeme after →
      motive after (word ++ [lexeme]))
    (fed : feed goal state word = some last) : motive last word := by
  induction word using List.reverseRecOn generalizing last with
  | nil =>
      cases fed
      exact start
  | append_singleton word lexeme ih =>
      obtain ⟨reached, before⟩ := exists_feed_of_append fed
      rw [feed_concat before] at fed
      exact step (ih before) (passes_of_next fed)

/-- What a word does to a state in which the phrase is expected. -/
def Builds (goal : Phrase) (word : List Lexeme) (tree : Tree) : Phrase → Prop
  | .factor => ∀ here outer,
      feed goal (operand here outer) word = some (here.complete tree outer)
  | .term => ∀ sum outer, phrase goal outer ≠ .factor →
      feed goal (operand ⟨sum, none⟩ outer) word = some (operator sum tree outer)
  | .expression => ∀ outer, phrase goal outer = .expression →
      ∃ sum term, feed goal (operand {} outer) word = some (operator sum term outer) ∧
        attach sum term = tree

theorem builds_group {goal : Phrase} {inner : List Lexeme} {tree : Tree}
    (built : Builds goal inner tree .expression) :
    Builds goal (.leftParen :: inner ++ [.rightParen]) tree .factor := by
  intro here outer
  obtain ⟨sum, term, fed, rfl⟩ := built (here :: outer) rfl
  rw [List.cons_append, feed_cons, (Passes.opening here outer).next, Option.bind_some,
    feed_concat fed]
  exact (Passes.closing sum term here outer).next

theorem builds_product {goal : Phrase} {before behind : List Lexeme} {left right : Tree}
    {op : Operator} (level : op.level = .product) (first : Builds goal before left .term)
    (second : Builds goal behind right .factor) :
    Builds goal (before ++ .operator op :: behind) (.bin op left right) .term := by
  intro sum outer divisible
  have admitted : (phrase goal outer).admits op.level = true := by
    rw [level]
    cases kind : phrase goal outer with
    | factor => exact absurd kind divisible
    | expression | term => rfl
  have waiting : Layer.extend sum left op = ⟨sum, some ⟨left, op⟩⟩ := by
    simp only [Layer.extend, level]
  calc
    _ = feed goal (operator sum left outer) (.operator op :: behind) := by
      rw [feed_append, first sum outer divisible, Option.bind_some]
    _ = feed goal (operand ⟨sum, some ⟨left, op⟩⟩ outer) behind := by
      rw [feed_cons, (Passes.operator sum left outer op admitted).next, Option.bind_some, waiting]
    _ = some (operator sum (.bin op left right) outer) := second _ outer

theorem builds_sum {goal : Phrase} {before behind : List Lexeme} {left right : Tree}
    {op : Operator} (level : op.level = .sum) (first : Builds goal before left .expression)
    (second : Builds goal behind right .term) :
    Builds goal (before ++ .operator op :: behind) (.bin op left right) .expression := by
  intro outer phrase_eq
  obtain ⟨sum, term, fed, rfl⟩ := first outer phrase_eq
  have admitted : (phrase goal outer).admits op.level = true := by
    rw [phrase_eq]
    rfl
  have waiting : Layer.extend sum term op = ⟨some ⟨attach sum term, op⟩, none⟩ := by
    simp only [Layer.extend, level]
  refine ⟨some ⟨attach sum term, op⟩, right, ?_, rfl⟩
  calc
    _ = feed goal (operator sum term outer) (.operator op :: behind) := by
      rw [feed_append, fed, Option.bind_some]
    _ = feed goal (operand ⟨some ⟨attach sum term, op⟩, none⟩ outer) behind := by
      rw [feed_cons, (Passes.operator sum term outer op admitted).next, Option.bind_some, waiting]
    _ = some (operator (some ⟨attach sum term, op⟩) right outer) :=
      second _ outer (by rw [phrase_eq]; decide)

theorem builds_of_derives (goal : Phrase) {kind : Phrase} {word : List Lexeme} {tree : Tree}
    (derived : Derives kind word tree) : Builds goal word tree kind := by
  induction derived with
  | integer value =>
      intro here outer
      rw [feed_singleton]
      exact (Passes.integer here outer value).next
  | group _ ih => exact builds_group ih
  | factor _ ih => exact fun sum outer _ => ih ⟨sum, none⟩ outer
  | product level _ _ first second => exact builds_product level first second
  | term _ ih =>
      intro outer phrase_eq
      exact ⟨none, _, ih none outer (by rw [phrase_eq]; decide), rfl⟩
  | sum level _ _ first second => exact builds_sum level first second

theorem feed_of_derives {goal : Phrase} {word : List Lexeme} {tree : Tree}
    (derived : Derives goal word tree) :
    ∃ sum term, feed goal start word = some (operator sum term []) ∧ attach sum term = tree := by
  have built := builds_of_derives goal derived
  cases goal with
  | expression => exact built [] rfl
  | term => exact ⟨none, tree, built none [] (by decide), rfl⟩
  | factor => exact ⟨none, tree, built {} [], rfl⟩

/-- What waits on a level of a phrase, and the word from which it was read. -/
inductive Waits (kind : Phrase) (level : Level) : Option Pending → List Lexeme → Prop where
  | nothing : Waits kind level none []
  | operand {word : List Lexeme} {left : Tree} {op : Operator} :
      op.level = level → kind.admits level = true → Derives level.phrase word left →
        Waits kind level (some ⟨left, op⟩) (word ++ [.operator op])

inductive Opened (goal : Phrase) : List Layer → List Lexeme → Prop where
  | nothing : Opened goal [] []
  | parenthesis {here : Layer} {outer : List Layer} {before sum product : List Lexeme} :
      Opened goal outer before → Waits (phrase goal outer) .sum here.sum sum →
        Waits (phrase goal outer) .product here.product product →
          Opened goal (here :: outer) (before ++ sum ++ product ++ [.leftParen])

/-- The words that lead to a state. -/
inductive Reads (goal : Phrase) : Assembly → List Lexeme → Prop where
  | operand {here : Layer} {outer : List Layer} {before sum product : List Lexeme} :
      Opened goal outer before → Waits (phrase goal outer) .sum here.sum sum →
        Waits (phrase goal outer) .product here.product product →
          Reads goal (operand here outer) (before ++ sum ++ product)
  | operator {pending : Option Pending} {term : Tree} {outer : List Layer}
      {before sum word : List Lexeme} :
      Opened goal outer before → Waits (phrase goal outer) .sum pending sum →
        Derives (phrase goal outer).summand word term →
          Reads goal (operator pending term outer) (before ++ sum ++ word)

theorem derives_of_waits_product {kind : Phrase} {pending : Option Pending} {tree : Tree}
    {before word : List Lexeme} (waits : Waits kind .product pending before)
    (derived : Derives .factor word tree) :
    Derives kind.summand (before ++ word) (attach pending tree) := by
  cases waits with
  | nothing =>
      cases kind with
      | factor => exact derived
      | expression | term => exact .factor derived
  | operand level admitted left =>
      rw [List.append_assoc]
      cases kind with
      | factor => cases admitted
      | expression | term => exact .product level left derived

theorem derives_of_waits_sum {kind : Phrase} {pending : Option Pending} {tree : Tree}
    {before word : List Lexeme} (waits : Waits kind .sum pending before)
    (derived : Derives kind.summand word tree) :
    Derives kind (before ++ word) (attach pending tree) := by
  cases waits with
  | nothing =>
      cases kind with
      | expression => exact .term derived
      | term | factor => exact derived
  | operand level admitted left =>
      rw [List.append_assoc]
      cases kind with
      | expression => exact .sum level left derived
      | term | factor => cases admitted

theorem reads_complete {goal : Phrase} {here : Layer} {outer : List Layer} {factor : Tree}
    {before sum product word : List Lexeme} (opened : Opened goal outer before)
    (sums : Waits (phrase goal outer) .sum here.sum sum)
    (products : Waits (phrase goal outer) .product here.product product)
    (derived : Derives .factor word factor) :
    Reads goal (here.complete factor outer) (before ++ sum ++ product ++ word) := by
  rw [List.append_assoc (before ++ sum)]
  exact .operator opened sums (derives_of_waits_product products derived)

theorem reads_extend {goal : Phrase} {pending : Option Pending} {term : Tree} {outer : List Layer}
    {op : Operator} {before sum word : List Lexeme}
    (admitted : (phrase goal outer).admits op.level = true) (opened : Opened goal outer before)
    (sums : Waits (phrase goal outer) .sum pending sum)
    (derived : Derives (phrase goal outer).summand word term) :
    Reads goal (operand (Layer.extend pending term op) outer)
      (before ++ sum ++ word ++ [.operator op]) := by
  cases level : op.level with
  | product =>
      have waiting : Layer.extend pending term op = ⟨pending, some ⟨term, op⟩⟩ := by
        simp only [Layer.extend, level]
      rw [level] at admitted
      have left : Derives Level.product.phrase word term := by
        cases kind : phrase goal outer with
        | factor => rw [kind] at admitted; cases admitted
        | expression | term => rw [kind] at derived; exact derived
      rw [waiting, List.append_assoc (before ++ sum)]
      exact .operand opened sums (.operand level admitted left)
  | sum =>
      have waiting : Layer.extend pending term op = ⟨some ⟨attach pending term, op⟩, none⟩ := by
        simp only [Layer.extend, level]
      rw [level] at admitted
      have left : Derives Level.sum.phrase (sum ++ word) (attach pending term) := by
        have derivedSum := derives_of_waits_sum sums derived
        cases kind : phrase goal outer with
        | expression => rw [kind] at derivedSum; exact derivedSum
        | term | factor => rw [kind] at admitted; cases admitted
      have shape : before ++ sum ++ word ++ [.operator op] =
          before ++ (sum ++ word ++ [.operator op]) ++ [] := by
        simp
      rw [waiting, shape]
      exact .operand opened (.operand level admitted left) .nothing

theorem reads_step {goal : Phrase} {state after : Assembly} {word : List Lexeme} {lexeme : Lexeme}
    (reads : Reads goal state word) (passes : Passes goal state lexeme after) :
    Reads goal after (word ++ [lexeme]) := by
  cases passes with
  | integer here outer value =>
      cases reads with
      | operand opened sums products => exact reads_complete opened sums products (.integer value)
  | opening here outer =>
      cases reads with
      | operand opened sums products =>
          have inside : Reads goal (operand {} (here :: outer)) _ :=
            .operand (.parenthesis opened sums products) .nothing .nothing
          simpa using inside
  | operator pending term outer op admitted =>
      cases reads with
      | operator opened sums derived => exact reads_extend admitted opened sums derived
  | closing pending term here outer =>
      cases reads with
      | operator opened sums derived =>
          have inner : Derives .expression _ (attach pending term) :=
            derives_of_waits_sum sums derived
          cases opened with
          | parenthesis opened waiting products =>
              have closed := reads_complete opened waiting products (.group inner)
              simpa using closed

theorem reads_of_feed {goal : Phrase} {state : Assembly} {word : List Lexeme}
    (fed : feed goal start word = some state) : Reads goal state word := by
  have nothing : Reads goal start ([] ++ [] ++ []) := .operand .nothing .nothing .nothing
  exact feed_induction nothing reads_step fed

theorem derives_of_feed {goal : Phrase} {word : List Lexeme} {sum : Option Pending} {term : Tree}
    (fed : feed goal start word = some (operator sum term [])) :
    Derives goal word (attach sum term) := by
  have reads := reads_of_feed fed
  cases reads with
  | operator opened sums derived =>
      cases opened
      exact derives_of_waits_sum sums derived

theorem exists_closing (goal : Phrase) (sum : Option Pending) (term : Tree) (outer : List Layer) :
    ∃ rest sum' term',
      feed goal (operator sum term outer) rest = some (operator sum' term' []) := by
  induction outer generalizing sum term with
  | nil => exact ⟨[], sum, term, rfl⟩
  | cons here outer ih =>
      obtain ⟨rest, sum', term', fed⟩ := ih here.sum (attach here.product (attach sum term))
      refine ⟨.rightParen :: rest, sum', term', ?_⟩
      calc
        _ = feed goal (here.complete (attach sum term) outer) rest := by
          rw [feed_cons, (Passes.closing sum term here outer).next, Option.bind_some]
        _ = some (operator sum' term' []) := fed

theorem exists_completion (goal : Phrase) (state : Assembly) :
    ∃ rest sum term, feed goal state rest = some (operator sum term []) := by
  cases state with
  | operator sum term outer => exact exists_closing goal sum term outer
  | operand here outer =>
      obtain ⟨rest, sum, term, fed⟩ :=
        exists_closing goal here.sum (attach here.product (.num 0)) outer
      refine ⟨.integer 0 :: rest, sum, term, ?_⟩
      calc
        _ = feed goal (here.complete (.num 0) outer) rest := by
          rw [feed_cons, (Passes.integer here outer 0).next, Option.bind_some]
        _ = some (operator sum term []) := fed

theorem exists_derives_iff_feed {goal : Phrase} {word : List Lexeme} :
    (∃ rest tree, Derives goal (word ++ rest) tree) ↔
      ∃ state, feed goal start word = some state := by
  constructor
  · intro ⟨rest, tree, derived⟩
    obtain ⟨sum, term, fed, -⟩ := feed_of_derives derived
    exact exists_feed_of_append fed
  · intro ⟨state, fed⟩
    obtain ⟨rest, sum, term, closed⟩ := exists_completion goal state
    refine ⟨rest, attach sum term, derives_of_feed ?_⟩
    calc
      feed goal start (word ++ rest) = feed goal state rest := by
        rw [feed_append, fed, Option.bind_some]
      _ = some (operator sum term []) := closed

theorem viable_iff_feed {word : List Lexeme} :
    Viable word ↔ ∃ state, feed .expression start word = some state :=
  exists_derives_iff_feed

theorem nesting_step {goal : Phrase} {state after : Assembly} {word : List Lexeme} {lexeme : Lexeme}
    (balance : state.nesting + word.count .rightParen = word.count .leftParen)
    (passes : Passes goal state lexeme after) :
    after.nesting + (word ++ [lexeme]).count .rightParen =
      (word ++ [lexeme]).count .leftParen := by
  cases passes <;>
    simp [nesting, outer, Layer.complete, List.count_append] at balance ⊢ <;> omega

theorem nesting_of_feed {goal : Phrase} {state : Assembly} {word : List Lexeme}
    (fed : feed goal start word = some state) :
    state.nesting + word.count .rightParen = word.count .leftParen :=
  feed_induction
    (motive := fun state word => state.nesting + word.count .rightParen = word.count .leftParen)
    rfl nesting_step fed

end Assembly
end Reckoner
