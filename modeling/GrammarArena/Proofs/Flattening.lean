import GrammarArena.Proofs.Likeness
import GrammarArena.Proofs.Outcomes

/-!
A branch among the children of a branch, or a sequence among those of a sequence, may be replaced
by its own children. Of a branch nothing changes then, and of a sequence only how its values are
nested.
-/

namespace GrammarArena

variable {α : Type}

section InTurn

variable {State Made : Type} {step : Parser → State → Made → State → Prop}
  {ends : Parser → State → Prop} {inner : Parser} {front middle back : List Parser}
  {state later : State} {made : List Made}

def InThree (step : Parser → State → Made → State → Prop) (front middle back : List Parser)
    (state : State) (xs ys zs : List Made) (later : State) : Prop :=
  ∃ place next, InTurn step front state xs place ∧ InTurn step middle place ys next ∧
    InTurn step back next zs later

theorem InThree.lengths {xs ys zs : List Made}
    (run : InThree step front middle back state xs ys zs later) :
    xs.length = front.length ∧ ys.length = middle.length ∧ zs.length = back.length := by
  obtain ⟨_, _, first, second, third⟩ := run
  exact ⟨first.length_eq, second.length_eq, third.length_eq⟩

theorem InThree.ne_nil {xs ys zs : List Made}
    (run : InThree step front middle back state xs ys zs later)
    (nonEmpty : middle ≠ [] ∨ back ≠ []) : ys ≠ [] ∨ zs ≠ [] := by
  obtain ⟨_, lengthMiddle, lengthBack⟩ := run.lengths
  simpa only [ne_eq, ← List.length_eq_zero_iff, lengthMiddle, lengthBack] using nonEmpty

theorem inTurn_flat_iff :
    InTurn step (front ++ middle ++ back) state made later ↔
      ∃ xs ys zs, InThree step front middle back state xs ys zs later ∧ made = xs ++ ys ++ zs := by
  simp only [inTurn_append_iff]
  constructor
  · rintro ⟨_, next, zs, rfl, ⟨xs, place, ys, rfl, first, second⟩, third⟩
    exact ⟨xs, ys, zs, ⟨place, next, first, second, third⟩, rfl⟩
  · rintro ⟨xs, ys, zs, ⟨place, next, first, second, third⟩, rfl⟩
    exact ⟨xs ++ ys, next, zs, rfl, ⟨xs, place, ys, rfl, first, second⟩, third⟩

variable {join : List Made → Made}
  (steps : ∀ {state made later}, step inner state made later ↔
    ∃ ys, InTurn step middle state ys later ∧ made = join ys)

include steps

theorem inTurn_nested_iff :
    InTurn step (front ++ [inner] ++ back) state made later ↔
      ∃ xs ys zs, InThree step front middle back state xs ys zs later ∧
        made = xs ++ [join ys] ++ zs := by
  simp only [inTurn_append_iff, inTurn_singleton_iff, steps]
  constructor
  · rintro ⟨_, next, zs, rfl, ⟨xs, place, _, rfl, first, _, rfl, ys, second, rfl⟩, third⟩
    exact ⟨xs, ys, zs, ⟨place, next, first, second, third⟩, rfl⟩
  · rintro ⟨xs, ys, zs, ⟨place, next, first, second, third⟩, rfl⟩
    exact ⟨xs ++ [join ys], next, zs, rfl, ⟨xs, place, [join ys], rfl, first, _, rfl, ys, second,
      rfl⟩, third⟩

theorem endsInTurn_nested_iff
    (stops : ∀ {state}, ends inner state ↔ EndsInTurn step ends middle state) :
    EndsInTurn step ends (front ++ [inner] ++ back) state ↔
      EndsInTurn step ends (front ++ middle ++ back) state := by
  have single : ∀ {state},
      EndsInTurn step ends [inner] state ↔ EndsInTurn step ends middle state := by
    simp [endsInTurn_cons_iff, stops]
  simp only [endsInTurn_append_iff, single, inTurn_append_iff, inTurn_singleton_iff, steps]
  constructor
  · rintro (ended | ⟨_, next, ⟨xs, place, _, rfl, first, _, rfl, ys, second, rfl⟩, ended⟩)
    · exact Or.inl ended
    · exact Or.inr ⟨xs ++ ys, next, ⟨xs, place, ys, rfl, first, second⟩, ended⟩
  · rintro (ended | ⟨_, next, ⟨xs, place, ys, rfl, first, second⟩, ended⟩)
    · exact Or.inl ended
    · exact Or.inr ⟨xs ++ [join ys], next, ⟨xs, place, [join ys], rfl, first, _, rfl, ys, second,
        rfl⟩, ended⟩

end InTurn

/-- The children of the one are those of the other, but that some of them are children of a parser
of the same kind in their place. -/
def Grammar.Flattens (grammar : Grammar α) (node : List Parser → Node α)
    (front middle back : List Parser) (nested flat : Parser) : Prop :=
  ∃ inner, grammar.lookup nested = .ok (node (front ++ [inner] ++ back)) ∧
    grammar.lookup inner = .ok (node middle) ∧
    grammar.lookup flat = .ok (node (front ++ middle ++ back))

/-- Both list what three groups of parsers made, the first with a list of its own for the group in
the middle. -/
def Value.Regroups (front middle back : List Parser) (nested flat : Value α) : Prop :=
  ∃ xs ys zs, xs.length = front.length ∧ ys.length = middle.length ∧ zs.length = back.length ∧
    nested = .list (xs ++ [.list ys] ++ zs) ∧ flat = .list (xs ++ ys ++ zs)

namespace Value.Regroups

variable {front middle back : List Parser} {nested flat other : Value α}

theorem flat_unique (first : Regroups front middle back nested flat)
    (second : Regroups front middle back nested other) : flat = other := by
  obtain ⟨xs, ys, zs, lengthFront, _, _, rfl, rfl⟩ := first
  obtain ⟨xs', ys', zs', lengthFront', _, _, same, rfl⟩ := second
  rw [Value.list.injEq, List.append_assoc, List.append_assoc] at same
  obtain ⟨rfl, tail⟩ := List.append_inj same (lengthFront.trans lengthFront'.symm)
  cases tail
  rfl

theorem nested_unique (first : Regroups front middle back nested flat)
    (second : Regroups front middle back other flat) : nested = other := by
  obtain ⟨xs, ys, zs, lengthFront, lengthMiddle, _, rfl, rfl⟩ := first
  obtain ⟨xs', ys', zs', lengthFront', lengthMiddle', _, rfl, same⟩ := second
  rw [Value.list.injEq, List.append_assoc, List.append_assoc] at same
  obtain ⟨rfl, tail⟩ := List.append_inj same (lengthFront.trans lengthFront'.symm)
  obtain ⟨rfl, rfl⟩ := List.append_inj tail (lengthMiddle.trans lengthMiddle'.symm)
  rfl

end Value.Regroups

theorem getLastD_nested {Item : Type} (xs ys zs : List Item) (default : Item)
    (nonEmpty : ys ≠ [] ∨ zs ≠ []) :
    (xs ++ [ys.getLastD default] ++ zs).getLastD default = (xs ++ ys ++ zs).getLastD default := by
  rcases zs.eq_nil_or_concat with rfl | ⟨zs, last, rfl⟩
  · rcases ys.eq_nil_or_concat with rfl | ⟨ys, last, rfl⟩
    · simp at nonEmpty
    · simp [← List.append_assoc]
  · simp [← List.append_assoc]

namespace Grammar.Flattens

variable {grammar : Grammar α} {guard : Guard} {nested flat : Parser}
  {front middle back : List Parser} {cursor : Text} {trail : Trail} {outcome : Outcome α}

theorem branch_iff (flattens : grammar.Flattens .branch front middle back nested flat)
    (nonEmpty : middle ≠ [] ∨ back ≠ []) :
    grammar.ComesTo guard nested cursor trail outcome ↔
      grammar.ComesTo guard flat cursor trail outcome := by
  obtain ⟨inner, foundNested, foundInner, foundFlat⟩ := flattens
  by_cases fails : outcome.Fails
  · cases outcome with
    | success | fault => exact fails.elim
    | failure reason later =>
        change grammar.FailsAt guard cursor nested trail reason later ↔
          grammar.FailsAt guard cursor flat trail reason later
        simp only [failsAt_branch_iff foundNested, failsAt_branch_iff foundFlat, Misses,
          inTurn_flat_iff, inTurn_nested_iff (failsAt_branch_iff foundInner)]
        constructor
        · rintro ⟨_, ⟨xs, ys, zs, run, rfl⟩, rfl⟩
          exact ⟨_, ⟨xs, ys, zs, run, rfl⟩, getLastD_nested xs ys zs _ (run.ne_nil nonEmpty)⟩
        · rintro ⟨_, ⟨xs, ys, zs, run, rfl⟩, rfl⟩
          exact ⟨_, ⟨xs, ys, zs, run, rfl⟩, (getLastD_nested xs ys zs _ (run.ne_nil nonEmpty)).symm⟩
  · rw [comesTo_branch_iff_hits foundNested fails, comesTo_branch_iff_hits foundFlat fails]
    apply endsInTurn_nested_iff (failsAt_branch_iff foundInner)
    intro before
    rw [comesTo_branch_iff_hits foundInner fails]
    exact and_iff_right fails

theorem sequence_iff_of_not_succeeds
    (flattens : grammar.Flattens .sequence front middle back nested flat)
    (stopped : ¬ outcome.Succeeds) :
    grammar.ComesTo guard nested cursor trail outcome ↔
      grammar.ComesTo guard flat cursor trail outcome := by
  obtain ⟨inner, foundNested, foundInner, foundFlat⟩ := flattens
  rw [comesTo_sequence_iff_breaks foundNested stopped,
    comesTo_sequence_iff_breaks foundFlat stopped]
  apply endsInTurn_nested_iff (succeedsFrom_sequence_iff foundInner)
  intro place
  rw [comesTo_sequence_iff_breaks foundInner stopped]
  exact and_iff_right stopped

section Values

variable (flattens : grammar.Flattens .sequence front middle back nested flat)
  {place next : Text × Trail} {value other : Value α}

include flattens

theorem regroups_of_nested (run : grammar.SucceedsFrom guard nested place value next) :
    ∃ other, Value.Regroups front middle back value other ∧
      grammar.SucceedsFrom guard flat place other next := by
  obtain ⟨inner, foundNested, foundInner, foundFlat⟩ := flattens
  obtain ⟨_, row, rfl⟩ := (succeedsFrom_sequence_iff foundNested).mp run
  obtain ⟨xs, ys, zs, three, rfl⟩ :=
    (inTurn_nested_iff (succeedsFrom_sequence_iff foundInner)).mp row
  obtain ⟨lengthFront, lengthMiddle, lengthBack⟩ := three.lengths
  refine ⟨_, ⟨xs, ys, zs, lengthFront, lengthMiddle, lengthBack, rfl, rfl⟩, ?_⟩
  exact (succeedsFrom_sequence_iff foundFlat).mpr
    ⟨_, inTurn_flat_iff.mpr ⟨xs, ys, zs, three, rfl⟩, rfl⟩

theorem regroups_of_flat (run : grammar.SucceedsFrom guard flat place other next) :
    ∃ value, Value.Regroups front middle back value other ∧
      grammar.SucceedsFrom guard nested place value next := by
  obtain ⟨inner, foundNested, foundInner, foundFlat⟩ := flattens
  obtain ⟨_, row, rfl⟩ := (succeedsFrom_sequence_iff foundFlat).mp run
  obtain ⟨xs, ys, zs, three, rfl⟩ := inTurn_flat_iff.mp row
  obtain ⟨lengthFront, lengthMiddle, lengthBack⟩ := three.lengths
  refine ⟨_, ⟨xs, ys, zs, lengthFront, lengthMiddle, lengthBack, rfl, rfl⟩, ?_⟩
  exact (succeedsFrom_sequence_iff foundNested).mpr
    ⟨_, (inTurn_nested_iff (succeedsFrom_sequence_iff foundInner)).mpr ⟨xs, ys, zs, three, rfl⟩,
      rfl⟩

theorem nested_iff (place next : Text × Trail) (value : Value α) :
    grammar.SucceedsFrom guard nested place value next ↔
      ∃ other, Value.Regroups front middle back value other ∧
        grammar.SucceedsFrom guard flat place other next := by
  constructor
  · exact flattens.regroups_of_nested
  · rintro ⟨other, regroups, run⟩
    obtain ⟨made, again, runNested⟩ := flattens.regroups_of_flat run
    rwa [regroups.nested_unique again]

theorem flat_iff (place next : Text × Trail) (other : Value α) :
    grammar.SucceedsFrom guard flat place other next ↔
      ∃ value, Value.Regroups front middle back value other ∧
        grammar.SucceedsFrom guard nested place value next := by
  constructor
  · exact flattens.regroups_of_flat
  · rintro ⟨value, regroups, run⟩
    obtain ⟨made, again, runFlat⟩ := flattens.regroups_of_nested run
    rwa [regroups.flat_unique again]

end Values

end Grammar.Flattens

/-- A branch within a branch can be flattened unless both it and what follows it are empty: there
is no telling the two apart. A sequence within a sequence can be flattened too, and only the values
of a success are told apart, by how they are nested. -/
theorem nesting_flattens {grammar : Grammar α} {front middle back : List Parser}
    {nested flat : Parser} (input : Text) (trail : Trail) :
    (grammar.Flattens .branch front middle back nested flat → middle ≠ [] ∨ back ≠ [] →
      (∀ outcome, grammar.ComesTo .noProgress nested input trail outcome ↔
        grammar.ComesTo .noProgress flat input trail outcome) ∧
      (∀ made later, grammar.ComesTo .noProgress flat input trail (.success made later) ↔
        grammar.Hits .noProgress (front ++ middle ++ back) input trail (.success made later)) ∧
      ∀ reason later, grammar.ComesTo .noProgress flat input trail (.failure reason later) ↔
        ∃ failures,
          grammar.Misses .noProgress (front ++ middle ++ back) input trail failures later ∧
          failures.getLast? = some reason) ∧
    (grammar.Flattens .sequence front middle back nested flat →
      (∀ value rest later,
        grammar.ComesTo .noProgress nested input trail (.success ⟨value, rest⟩ later) ↔
        ∃ other, Value.Regroups front middle back value other ∧
          grammar.ComesTo .noProgress flat input trail (.success ⟨other, rest⟩ later)) ∧
      (∀ other rest later,
        grammar.ComesTo .noProgress flat input trail (.success ⟨other, rest⟩ later) ↔
        ∃ value, Value.Regroups front middle back value other ∧
          grammar.ComesTo .noProgress nested input trail (.success ⟨value, rest⟩ later)) ∧
      ∀ outcome, ¬ outcome.Succeeds →
        (grammar.ComesTo .noProgress nested input trail outcome ↔
          grammar.ComesTo .noProgress flat input trail outcome)) := by
  constructor
  · intro flattens nonEmpty
    refine ⟨fun _ => flattens.branch_iff nonEmpty, ?_, ?_⟩
    · obtain ⟨_, _, _, foundFlat⟩ := flattens
      intro made later
      exact Grammar.comesTo_branch_iff_hits foundFlat id
    · obtain ⟨_, _, _, foundFlat⟩ := flattens
      intro reason later
      have nonEmptyFlat : front ++ middle ++ back ≠ [] := by
        rcases nonEmpty with nonEmpty | nonEmpty <;> simp [nonEmpty]
      exact Grammar.failsAt_branch_iff_last foundFlat nonEmptyFlat
  · intro flattens
    refine ⟨?_, ?_, fun _ => flattens.sequence_iff_of_not_succeeds⟩
    · intro value rest later
      exact flattens.nested_iff (input, trail) (rest, later) value
    · intro other rest later
      exact flattens.flat_iff (input, trail) (rest, later) other

def pairedDigits : Grammar Nat where
  nodes := #[.satisfy Char.isDigit, .map ⟨0⟩ digitPayload, .char ',', .char ';',
    .branch [⟨2⟩, ⟨1⟩], .branch [⟨1⟩, ⟨4⟩, ⟨3⟩], .branch [⟨1⟩, ⟨2⟩, ⟨1⟩, ⟨3⟩],
    .sequence [⟨2⟩, ⟨1⟩], .sequence [⟨1⟩, ⟨7⟩, ⟨3⟩], .sequence [⟨1⟩, ⟨2⟩, ⟨1⟩, ⟨3⟩]]

theorem pairedDigits_nesting_flattens :
    pairedDigits.Flattens .branch [⟨1⟩] [⟨2⟩, ⟨1⟩] [⟨3⟩] ⟨5⟩ ⟨6⟩ ∧
    (([⟨2⟩, ⟨1⟩] : List Parser) ≠ [] ∨ ([⟨3⟩] : List Parser) ≠ []) ∧
    pairedDigits.ComesTo .noProgress ⟨6⟩ ['x'] {} (.failure (.unexpected 'x') {}) ∧
    pairedDigits.Flattens .sequence [⟨1⟩] [⟨2⟩, ⟨1⟩] [⟨3⟩] ⟨8⟩ ⟨9⟩ ∧
    (∃ value,
      Value.Regroups [⟨1⟩] [⟨2⟩, ⟨1⟩] [⟨3⟩] value
        (.list [.custom 0 52, .char ',', .custom 1 50, .char ';']) ∧
      pairedDigits.ComesTo .noProgress ⟨8⟩ ['4', ',', '2', ';', 'x'] {}
        (.success ⟨value, ['x']⟩ ⟨2, []⟩)) ∧
    ¬ (Outcome.failure .endOfInput ⟨1, []⟩ : Outcome Nat).Succeeds ∧
    pairedDigits.ComesTo .noProgress ⟨9⟩ ['4', ','] {} (.failure .endOfInput ⟨1, []⟩) := by
  have choice : pairedDigits.Flattens .branch [⟨1⟩] [⟨2⟩, ⟨1⟩] [⟨3⟩] ⟨5⟩ ⟨6⟩ :=
    ⟨⟨4⟩, rfl, rfl, rfl⟩
  have row : pairedDigits.Flattens .sequence [⟨1⟩] [⟨2⟩, ⟨1⟩] [⟨3⟩] ⟨8⟩ ⟨9⟩ :=
    ⟨⟨7⟩, rfl, rfl, rfl⟩
  have nonEmpty : ([⟨2⟩, ⟨1⟩] : List Parser) ≠ [] ∨ ([⟨3⟩] : List Parser) ≠ [] := Or.inr (by simp)
  obtain ⟨sameChoice, _⟩ := (nesting_flattens ['x'] {}).1 choice nonEmpty
  obtain ⟨_, nested, _⟩ := (nesting_flattens ['4', ',', '2', ';', 'x'] {}).2 row
  obtain ⟨_, _, sameFailure⟩ := (nesting_flattens ['4', ','] {}).2 row
  exact ⟨choice, nonEmpty, (sameChoice _).mp ⟨8, rfl⟩, row, (nested _ _ _).mp ⟨8, rfl⟩, id,
    (sameFailure _ id).mp ⟨8, rfl⟩⟩

end GrammarArena
