import GrammarArena.Proofs.Construction
import GrammarArena.Proofs.Fronts

/-!
Three ways to take the longest run of accepted characters at the front of an input: all at once,
character by character, and by a repetition of runs, which finds one run and then an empty one.
Where an item is needed they agree as well, as soon as there is a character to take.
-/

namespace GrammarArena

variable {α : Type} {grammar : Grammar α} {accepts : Char → Bool} {inner parser : Parser}

namespace Builder.MadeIn

theorem steady_repetition (made : (repetition inner).MadeIn grammar parser)
    (steady : grammar.Steady inner) : grammar.Steady parser :=
  .repetition made.lookup steady

theorem steady_nonEmptyRepetition (made : (Builder.nonEmptyRepetition inner).MadeIn grammar parser)
    (steady : grammar.Steady inner) : grammar.Steady parser := by
  obtain ⟨items, foundItems, found⟩ := made.nonEmptyRepetition
  exact .map found requireItems_keepsSuffix (.repetition foundItems steady)

end Builder.MadeIn

section Parses

variable {input : Text} {trail later : Trail} {success : Success α}

theorem parse_repetition (made : (Builder.repetition inner).MadeIn grammar parser)
    (steady : grammar.Steady inner)
    (items : Replies grammar .noProgress (.repetition inner [] input) trail (.ok success) later) :
    grammar.parse parser input trail = .ok (.ok success, later) :=
  (Replies.repetition made.lookup items).parse_eq_of_steady (made.steady_repetition steady)

theorem parse_nonEmptyRepetition
    (made : (Builder.nonEmptyRepetition inner).MadeIn grammar parser)
    (steady : grammar.Steady inner)
    (items : Replies grammar .noProgress (.repetition inner [] input) trail (.ok success) later) :
    grammar.parse parser input trail = .ok (Builder.requireItems success, later) := by
  have steadyHere := made.steady_nonEmptyRepetition steady
  obtain ⟨many, foundMany, found⟩ := made.nonEmptyRepetition
  exact (Replies.mapSuccess found (.repetition foundMany items)).parse_eq_of_steady steadyHere

end Parses

/-- A run, a repetition of its characters and a repetition of runs take the same longest front of
accepted characters, whole, one by one and as one item. A run that is cut off by its number of
bytes is cut off between two characters. Where nothing is accepted there are no items, and a
repetition that needs one fails at the cursor. -/
theorem runs_of_accepted {run one ones runs someOnes someRuns : Parser}
    (madeRun : (Builder.filter accepts).MadeIn grammar run)
    (madeOne : (Builder.satisfy accepts).MadeIn grammar one)
    (madeOnes : (Builder.repetition one).MadeIn grammar ones)
    (madeRuns : (Builder.repetition run).MadeIn grammar runs)
    (madeSomeOnes : (Builder.nonEmptyRepetition one).MadeIn grammar someOnes)
    (madeSomeRuns : (Builder.nonEmptyRepetition run).MadeIn grammar someRuns)
    (input : Text) (trail : Trail) :
    ∃ front rest, Text.LongestRun accepts input front rest ∧
      (∀ char ∈ rest.head?, accepts char = false) ∧
      grammar.parse run input trail = .ok (.ok ⟨.text front, rest⟩, trail) ∧
      (Primitive.cutRun? accepts input : Option (Reply α)) = some (.ok ⟨.text front, rest⟩) ∧
      grammar.parse ones input trail = .ok (.ok ⟨.list (front.map .char), rest⟩, trail) ∧
      (front ≠ [] →
        grammar.parse runs input trail =
          .ok (.ok ⟨.list [.text front], rest⟩, trail.stop run 1) ∧
        grammar.parse someOnes input trail = .ok (.ok ⟨.list (front.map .char), rest⟩, trail) ∧
        grammar.parse someRuns input trail =
          .ok (.ok ⟨.list [.text front], rest⟩, trail.stop run 1)) ∧
      (front = [] →
        grammar.parse runs input trail = .ok (.ok ⟨.list [], input⟩, trail.stop run 0) ∧
        grammar.parse someOnes input trail = .ok (.error (.atCursor input), trail) ∧
        grammar.parse someRuns input trail =
          .ok (.error (.atCursor input), trail.stop run 0)) := by
  have longest := Text.LongestRun.takeWhile accepts input
  have steadyRun : grammar.Steady run := .of_leaf madeRun.lookup rfl rfl
  have steadyOne : grammar.Steady one := .of_leaf madeOne.lookup rfl rfl
  have whole : Replies grammar .noProgress (.attempt run input) trail _ trail :=
    .filter madeRun.lookup
  have each : Replies grammar .noProgress (.repetition one [] input) trail _ trail :=
    .run (fun _ _ => .satisfy madeOne.lookup) [] input trail
  rw [List.reverse_nil, List.nil_append] at each
  refine ⟨_, _, longest, longest.refused, whole.parse_eq_of_steady steadyRun,
    Primitive.cutRun?_eq accepts input, parse_repetition madeOnes steadyOne each, ?_, ?_⟩
  · intro notEmpty
    cases input with
    | nil => contradiction
    | cons first rest =>
        have accepted : accepts first = true := by
          by_contra refused
          simp [refused] at notEmpty
        -- The first run leaves nothing to a second one, which ends the repetition and is recorded.
        have items := Replies.runs_taken madeRun.lookup accepted rest trail
        rw [List.takeWhile_cons_of_pos accepted, List.dropWhile_cons_of_pos accepted] at each ⊢
        exact ⟨parse_repetition madeRuns steadyRun items,
          parse_nonEmptyRepetition madeSomeOnes steadyOne each,
          parse_nonEmptyRepetition madeSomeRuns steadyRun items⟩
  · intro empty
    have none : input.dropWhile accepts = input := by
      have split := longest.split
      rwa [empty, List.nil_append, eq_comm] at split
    have items := Replies.runs_end madeRun.lookup none [] trail
    rw [empty, none, List.map_nil] at each
    exact ⟨parse_repetition madeRuns steadyRun items,
      parse_nonEmptyRepetition madeSomeOnes steadyOne each,
      parse_nonEmptyRepetition madeSomeRuns steadyRun items⟩

def isGreek (char : Char) : Bool :=
  'α' ≤ char && char ≤ 'ω'

def greekRuns : Grammar Op :=
  ({} : Grammar Op).build
    [.filter isGreek, .satisfy isGreek, .repetition ⟨1⟩, .repetition ⟨0⟩, .nonEmptyRepetition ⟨1⟩,
      .nonEmptyRepetition ⟨0⟩]

theorem greekRuns_of_accepted :
    (Builder.filter isGreek).MadeIn greekRuns ⟨0⟩ ∧
    (Builder.satisfy isGreek).MadeIn greekRuns ⟨1⟩ ∧
    (Builder.repetition ⟨1⟩).MadeIn greekRuns ⟨2⟩ ∧
    (Builder.repetition ⟨0⟩).MadeIn greekRuns ⟨3⟩ ∧
    (Builder.nonEmptyRepetition ⟨1⟩).MadeIn greekRuns ⟨5⟩ ∧
    (Builder.nonEmptyRepetition ⟨0⟩).MadeIn greekRuns ⟨7⟩ ∧
    greekRuns.parse ⟨0⟩ ['λ', 'μ', 'x'] {} = .ok (.ok ⟨.text ['λ', 'μ'], ['x']⟩, {}) ∧
    greekRuns.parse ⟨2⟩ ['λ', 'μ', 'x'] {} = .ok (.ok ⟨.list [.char 'λ', .char 'μ'], ['x']⟩, {}) ∧
    greekRuns.parse ⟨7⟩ ['λ', 'μ', 'x'] {} =
      .ok (.ok ⟨.list [.text ['λ', 'μ']], ['x']⟩, ⟨0, [⟨⟨0⟩, 1⟩]⟩) ∧
    greekRuns.parse ⟨5⟩ ['x', 'λ'] {} = .ok (.error (.unexpected 'x'), {}) := by
  have run : (Builder.filter isGreek).MadeIn greekRuns ⟨0⟩ := .of_calls 0 rfl
  have one : (Builder.satisfy isGreek).MadeIn greekRuns ⟨1⟩ := .of_calls 1 rfl
  have ones : (Builder.repetition ⟨1⟩).MadeIn greekRuns ⟨2⟩ := .of_calls 2 rfl
  have runs : (Builder.repetition ⟨0⟩).MadeIn greekRuns ⟨3⟩ := .of_calls 3 rfl
  have someOnes : (Builder.nonEmptyRepetition ⟨1⟩).MadeIn greekRuns ⟨5⟩ := .of_calls 4 rfl
  have someRuns : (Builder.nonEmptyRepetition ⟨0⟩).MadeIn greekRuns ⟨7⟩ := .of_calls 5 rfl
  have laws := fun input => runs_of_accepted run one ones runs someOnes someRuns input {}
  obtain ⟨front, rest, longest, _, whole, _, each, some, _⟩ := laws ['λ', 'μ', 'x']
  obtain ⟨rfl, rfl⟩ := longest.eq_takeWhile
  obtain ⟨_, _, items⟩ := some (by decide)
  obtain ⟨front, rest, none, _, _, _, _, _, nothing⟩ := laws ['x', 'λ']
  obtain ⟨rfl, rfl⟩ := none.eq_takeWhile
  obtain ⟨_, refused, _⟩ := nothing (by decide)
  exact ⟨run, one, ones, runs, someOnes, someRuns, whole, each, items, refused⟩

end GrammarArena
