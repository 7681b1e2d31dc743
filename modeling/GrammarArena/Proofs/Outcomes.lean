import GrammarArena.Proofs.Unfolding

/-!
All that can come of a parser: that it succeeds, that it fails, or a fault. A sequence goes
through its children as long as they succeed and a branch as long as they fail, so what comes of
either shows from how far its children get in turn and from the one that ends it.
-/

namespace GrammarArena

variable {α : Type}

section InTurn

variable {State Made : Type}

/-- Each parser of the list makes something and leaves the state that the next one begins in. -/
inductive InTurn (step : Parser → State → Made → State → Prop) :
    List Parser → State → List Made → State → Prop
  | done {state} : InTurn step [] state [] state
  | next {child children state first middle others later} : step child state first middle →
      InTurn step children middle others later →
      InTurn step (child :: children) state (first :: others) later

/-- One of the parsers, begun in the state that those before it left, ends it all. -/
def EndsInTurn (step : Parser → State → Made → State → Prop) (ends : Parser → State → Prop)
    (children : List Parser) (state : State) : Prop :=
  ∃ earlier child others made middle, children = earlier ++ child :: others ∧
    InTurn step earlier state made middle ∧ ends child middle

variable {step : Parser → State → Made → State → Prop} {ends : Parser → State → Prop}
  {child : Parser} {children front back : List Parser} {state later : State} {made : List Made}

theorem InTurn.length_eq (run : InTurn step children state made later) :
    made.length = children.length := by
  induction run with
  | done => rfl
  | next _ _ ih => simp [ih]

@[simp] theorem inTurn_nil_iff : InTurn step [] state made later ↔ made = [] ∧ later = state := by
  constructor
  · rintro ⟨⟩
    exact ⟨rfl, rfl⟩
  · rintro ⟨rfl, rfl⟩
    exact .done

theorem inTurn_cons_iff :
    InTurn step (child :: children) state made later ↔
      ∃ first middle others, made = first :: others ∧ step child state first middle ∧
        InTurn step children middle others later := by
  constructor
  · rintro (_ | ⟨own, run⟩)
    exact ⟨_, _, _, rfl, own, run⟩
  · rintro ⟨first, middle, others, rfl, own, run⟩
    exact .next own run

theorem inTurn_singleton_iff :
    InTurn step [child] state made later ↔
      ∃ first, made = [first] ∧ step child state first later := by
  constructor
  · rintro (_ | ⟨own, _ | _⟩)
    exact ⟨_, rfl, own⟩
  · rintro ⟨first, rfl, own⟩
    exact .next own .done

theorem inTurn_append_iff :
    InTurn step (front ++ back) state made later ↔
      ∃ first middle others, made = first ++ others ∧ InTurn step front state first middle ∧
        InTurn step back middle others later := by
  induction front generalizing state made with
  | nil =>
      simp only [List.nil_append, inTurn_nil_iff]
      constructor
      · intro run
        exact ⟨[], state, made, rfl, ⟨rfl, rfl⟩, run⟩
      · rintro ⟨_, _, others, rfl, ⟨rfl, rfl⟩, run⟩
        exact run
  | cons child front ih =>
      simp only [List.cons_append, inTurn_cons_iff, ih]
      constructor
      · rintro ⟨head, place, _, rfl, own, first, middle, others, rfl, run, runBack⟩
        exact ⟨head :: first, middle, others, rfl, ⟨head, place, first, rfl, own, run⟩, runBack⟩
      · rintro ⟨_, middle, others, rfl, ⟨head, place, first, rfl, own, run⟩, runBack⟩
        exact ⟨head, place, first ++ others, rfl, own, first, middle, others, rfl, run, runBack⟩

@[simp] theorem not_endsInTurn_nil : ¬ EndsInTurn step ends [] state := by
  rintro ⟨earlier, child, others, _, _, same, _⟩
  simp at same

theorem endsInTurn_cons_iff :
    EndsInTurn step ends (child :: children) state ↔
      ends child state ∨
      ∃ first middle, step child state first middle ∧ EndsInTurn step ends children middle := by
  constructor
  · rintro ⟨_ | ⟨head, earlier⟩, last, others, made, middle, same, run, ended⟩
    · cases run
      cases same
      exact Or.inl ended
    · cases same
      obtain ⟨first, place, made, rfl, own, run⟩ := inTurn_cons_iff.mp run
      exact Or.inr ⟨first, place, own, earlier, last, others, made, middle, rfl, run, ended⟩
  · rintro (ended | ⟨first, place, own, earlier, last, others, made, middle, rfl, run, ended⟩)
    · exact ⟨[], child, children, [], state, rfl, .done, ended⟩
    · exact ⟨child :: earlier, last, others, first :: made, middle, rfl, .next own run, ended⟩

theorem endsInTurn_append_iff :
    EndsInTurn step ends (front ++ back) state ↔
      EndsInTurn step ends front state ∨
      ∃ made middle, InTurn step front state made middle ∧ EndsInTurn step ends back middle := by
  induction front generalizing state with
  | nil =>
      constructor
      · exact fun ended => Or.inr ⟨[], state, .done, ended⟩
      · rintro (ended | ⟨_, _, ⟨⟩, ended⟩)
        · exact (not_endsInTurn_nil ended).elim
        · exact ended
  | cons child front ih =>
      simp only [List.cons_append, endsInTurn_cons_iff, ih, inTurn_cons_iff]
      constructor
      · rintro (ended | ⟨first, place, own, ended | ⟨made, middle, run, ended⟩⟩)
        · exact Or.inl (Or.inl ended)
        · exact Or.inl (Or.inr ⟨first, place, own, ended⟩)
        · exact Or.inr ⟨_, middle, ⟨first, place, made, rfl, own, run⟩, ended⟩
      · rintro ((ended | ⟨first, place, own, ended⟩) |
          ⟨_, middle, ⟨first, place, made, rfl, own, run⟩, ended⟩)
        · exact Or.inl ended
        · exact Or.inr ⟨first, place, own, Or.inl ended⟩
        · exact Or.inr ⟨first, place, own, Or.inr ⟨made, middle, run, ended⟩⟩

end InTurn

inductive Outcome (α : Type) where
  | success (made : Success α) (later : Trail)
  | failure (reason : Failure) (later : Trail)
  | fault (reason : Fault)

namespace Outcome

def Succeeds : Outcome α → Prop
  | .success _ _ => True
  | _ => False

def Fails : Outcome α → Prop
  | .failure _ _ => True
  | _ => False

def result : Outcome α → Except Halt (Reply α × Trail)
  | .success made later => .ok (.ok made, later)
  | .failure reason later => .ok (.error reason, later)
  | .fault reason => .error (.fault reason)

theorem result_injective : Function.Injective (result : Outcome α → _) := by
  intro first second same
  cases first <;> cases second <;> simp_all [result]

theorem result_ne_outOfSteps (outcome : Outcome α) : outcome.result ≠ .error .outOfSteps := by
  cases outcome <;> simp [result]

end Outcome

def Task.ComesTo (grammar : Grammar α) (guard : Guard) (task : Task α) (trail : Trail) :
    Outcome α → Prop
  | .success made later => Replies grammar guard task trail (.ok made) later
  | .failure reason later => Replies grammar guard task trail (.error reason) later
  | .fault reason => Faults grammar guard task trail reason

namespace Grammar

variable {grammar : Grammar α} {guard : Guard} {parser : Parser} {input : Text} {trail : Trail}
  {outcome other : Outcome α}

/-- What comes of the parser, given enough steps; nothing does where it never ends. -/
def ComesTo (grammar : Grammar α) (guard : Guard) (parser : Parser) (input : Text) (trail : Trail)
    (outcome : Outcome α) : Prop :=
  ∃ steps, grammar.evaluate guard steps parser input trail = outcome.result

theorem comesTo_iff :
    grammar.ComesTo guard parser input trail outcome ↔
      (Task.attempt parser input).ComesTo grammar guard trail outcome := by
  cases outcome with
  | success | failure => exact ends_iff_replies
  | fault => exact evaluate_fault_iff_faults

theorem ComesTo.unique (run : grammar.ComesTo guard parser input trail outcome)
    (again : grammar.ComesTo guard parser input trail other) : outcome = other := by
  obtain ⟨steps, ended⟩ := run
  obtain ⟨more, endedMore⟩ := again
  have same := evaluate_eq_of_ended (ended ▸ outcome.result_ne_outOfSteps)
    (endedMore ▸ other.result_ne_outOfSteps)
  rw [ended, endedMore] at same
  exact Outcome.result_injective same

def SucceedsFrom (grammar : Grammar α) (guard : Guard) (parser : Parser) (place : Text × Trail)
    (value : Value α) (next : Text × Trail) : Prop :=
  grammar.Ends guard parser place.1 place.2 (.ok ⟨value, next.1⟩) next.2

def FailsAt (grammar : Grammar α) (guard : Guard) (cursor : Text) (parser : Parser)
    (trail : Trail) (reason : Failure) (later : Trail) : Prop :=
  grammar.Ends guard parser cursor trail (.error reason) later

abbrev Row (grammar : Grammar α) (guard : Guard) (children : List Parser) (cursor : Text)
    (trail : Trail) (values : List (Value α)) (rest : Text) (later : Trail) : Prop :=
  InTurn (grammar.SucceedsFrom guard) children (cursor, trail) values (rest, later)

abbrev Breaks (grammar : Grammar α) (guard : Guard) (children : List Parser) (cursor : Text)
    (trail : Trail) (outcome : Outcome α) : Prop :=
  EndsInTurn (grammar.SucceedsFrom guard)
    (fun child place => ¬ outcome.Succeeds ∧ grammar.ComesTo guard child place.1 place.2 outcome)
    children (cursor, trail)

theorem Breaks.not_succeeds {children : List Parser} {cursor : Text}
    (breaks : grammar.Breaks guard children cursor trail outcome) : ¬ outcome.Succeeds := by
  obtain ⟨_, _, _, _, _, _, _, stopped, _⟩ := breaks
  exact stopped

abbrev Misses (grammar : Grammar α) (guard : Guard) (children : List Parser) (cursor : Text)
    (trail : Trail) (failures : List Failure) (later : Trail) : Prop :=
  InTurn (grammar.FailsAt guard cursor) children trail failures later

abbrev Hits (grammar : Grammar α) (guard : Guard) (children : List Parser) (cursor : Text)
    (trail : Trail) (outcome : Outcome α) : Prop :=
  EndsInTurn (grammar.FailsAt guard cursor)
    (fun child before => ¬ outcome.Fails ∧ grammar.ComesTo guard child cursor before outcome)
    children trail

end Grammar

namespace Task

variable {grammar : Grammar α} {guard : Guard} {parser child : Parser} {children : List Parser}
  {cursor : Text} {trail : Trail} {outcome : Outcome α}

theorem comesTo_loop_iff {node : Node α} {task : Task α} (found : grammar.lookup parser = .ok node)
    (loops : node.loop? cursor = some task) :
    (Task.attempt parser cursor).ComesTo grammar guard trail outcome ↔
      task.ComesTo grammar guard trail outcome := by
  cases outcome with
  | success | failure => exact Replies.loop_iff found loops
  | fault =>
      constructor
      · intro run
        cases run with
        | sequence again run | branch again run | repetition again run =>
            cases found.symm.trans again
            cases loops
            exact run
        | missingParser again => cases found.symm.trans again
        | missingSlot again | unboundSlot again | map again | reference again =>
            cases found.symm.trans again
            cases loops
      · intro run
        cases node with
        | sequence =>
            cases loops
            exact Faults.sequence found run
        | branch =>
            cases loops
            exact Faults.branch found run
        | repetition =>
            cases loops
            exact Faults.repetition found run
        | char | string | filter | satisfy | map | reference => cases loops

theorem comesTo_sequence_nil_iff {values : List (Value α)} :
    (Task.sequence values cursor []).ComesTo grammar guard trail outcome ↔
      outcome = .success ⟨.list values.reverse, cursor⟩ trail := by
  cases outcome with
  | success | failure => simp [ComesTo, Replies.sequence_nil_iff]
  | fault =>
      simp only [reduceCtorEq, iff_false]
      rintro ⟨⟩

theorem comesTo_sequence_cons_iff {values : List (Value α)} :
    (Task.sequence values cursor (child :: children)).ComesTo grammar guard trail outcome ↔
      ¬ outcome.Succeeds ∧ grammar.ComesTo guard child cursor trail outcome ∨
      ∃ made middle, grammar.Ends guard child cursor trail (.ok made) middle ∧
        (Task.sequence (made.value :: values) made.rest children).ComesTo grammar guard middle
          outcome := by
  simp only [Grammar.comesTo_iff, ends_iff_replies]
  cases outcome with
  | success => simp [ComesTo, Outcome.Succeeds, Replies.sequence_cons_iff]
  | failure => simp [ComesTo, Outcome.Succeeds, Replies.sequence_cons_iff]
  | fault =>
      constructor
      · intro run
        cases run with
        | sequenceFirst first => exact Or.inl ⟨id, first⟩
        | sequenceNext first next => exact Or.inr ⟨_, _, first, next⟩
      · rintro (⟨_, first⟩ | ⟨_, _, first, next⟩)
        · exact Faults.sequenceFirst first
        · exact Faults.sequenceNext first next

theorem comesTo_branch_nil_iff {last : Failure} :
    (Task.branch last cursor []).ComesTo grammar guard trail outcome ↔
      outcome = .failure last trail := by
  cases outcome with
  | success =>
      simp only [reduceCtorEq, iff_false]
      rintro ⟨⟩
  | failure =>
      constructor
      · rintro ⟨⟩
        rfl
      · rintro ⟨⟩
        exact Replies.branchEnd
  | fault =>
      simp only [reduceCtorEq, iff_false]
      rintro ⟨⟩

theorem comesTo_branch_cons_iff {last : Failure} :
    (Task.branch last cursor (child :: children)).ComesTo grammar guard trail outcome ↔
      ¬ outcome.Fails ∧ grammar.ComesTo guard child cursor trail outcome ∨
      ∃ reason middle, grammar.Ends guard child cursor trail (.error reason) middle ∧
        (Task.branch reason cursor children).ComesTo grammar guard middle outcome := by
  simp only [Grammar.comesTo_iff, ends_iff_replies]
  cases outcome with
  | success => simp [ComesTo, Outcome.Fails, Replies.branch_cons_iff]
  | failure => simp [ComesTo, Outcome.Fails, Replies.branch_cons_iff]
  | fault =>
      constructor
      · intro run
        cases run with
        | branchFirst first => exact Or.inl ⟨id, first⟩
        | branchNext first next => exact Or.inr ⟨_, _, first, next⟩
      · rintro (⟨_, first⟩ | ⟨_, _, first, next⟩)
        · exact Faults.branchFirst first
        · exact Faults.branchNext first next

theorem comesTo_sequence_iff {values : List (Value α)} :
    (Task.sequence values cursor children).ComesTo grammar guard trail outcome ↔
      (∃ made rest later, grammar.Row guard children cursor trail made rest later ∧
        outcome = .success ⟨.list (values.reverse ++ made), rest⟩ later) ∨
      grammar.Breaks guard children cursor trail outcome := by
  -- What was gathered before the first child stays in front, so the values are arbitrary.
  induction children generalizing values cursor trail with
  | nil => simp [comesTo_sequence_nil_iff, and_assoc]
  | cons child children ih =>
      simp only [comesTo_sequence_cons_iff, ih, endsInTurn_cons_iff, inTurn_cons_iff]
      constructor
      · rintro (stopped | ⟨made, middle, first, ⟨others, rest, later, row, rfl⟩ | breaks⟩)
        · exact Or.inr (Or.inl stopped)
        · exact Or.inl ⟨made.value :: others, rest, later,
            ⟨made.value, (made.rest, middle), others, rfl, first, row⟩, by simp⟩
        · exact Or.inr (Or.inr ⟨made.value, (made.rest, middle), first, breaks⟩)
      · rintro (⟨_, rest, later, ⟨value, place, others, rfl, first, row⟩, rfl⟩ |
          stopped | ⟨value, place, first, breaks⟩)
        · exact Or.inr ⟨⟨value, place.1⟩, place.2, first,
            Or.inl ⟨others, rest, later, row, by simp⟩⟩
        · exact Or.inl stopped
        · exact Or.inr ⟨⟨value, place.1⟩, place.2, first, Or.inr breaks⟩

theorem comesTo_branch_iff {last : Failure} :
    (Task.branch last cursor children).ComesTo grammar guard trail outcome ↔
      (∃ failures later, grammar.Misses guard children cursor trail failures later ∧
        outcome = .failure (failures.getLastD last) later) ∨
      grammar.Hits guard children cursor trail outcome := by
  induction children generalizing last trail with
  | nil => simp [comesTo_branch_nil_iff, and_assoc]
  | cons child children ih =>
      simp only [comesTo_branch_cons_iff, ih, endsInTurn_cons_iff, inTurn_cons_iff]
      constructor
      · rintro (stopped | ⟨reason, middle, first, ⟨others, later, misses, rfl⟩ | hits⟩)
        · exact Or.inr (Or.inl stopped)
        · exact Or.inl ⟨reason :: others, later, ⟨reason, middle, others, rfl, first, misses⟩,
            by rw [List.getLastD_cons]⟩
        · exact Or.inr (Or.inr ⟨reason, middle, first, hits⟩)
      · rintro (⟨_, later, ⟨reason, middle, others, rfl, first, misses⟩, rfl⟩ |
          stopped | ⟨reason, middle, first, hits⟩)
        · exact Or.inr ⟨reason, middle, first, Or.inl ⟨others, later, misses,
            by rw [List.getLastD_cons]⟩⟩
        · exact Or.inl stopped
        · exact Or.inr ⟨reason, middle, first, Or.inr hits⟩

end Task

namespace Grammar

variable {grammar : Grammar α} {guard : Guard} {parser : Parser} {children : List Parser}
  {cursor : Text} {trail later : Trail} {outcome : Outcome α}

theorem comesTo_sequence_iff (found : grammar.lookup parser = .ok (.sequence children)) :
    grammar.ComesTo guard parser cursor trail outcome ↔
      (∃ values rest later, grammar.Row guard children cursor trail values rest later ∧
        outcome = .success ⟨.list values, rest⟩ later) ∨
      grammar.Breaks guard children cursor trail outcome := by
  rw [comesTo_iff, Task.comesTo_loop_iff found rfl]
  exact Task.comesTo_sequence_iff

theorem comesTo_branch_iff (found : grammar.lookup parser = .ok (.branch children)) :
    grammar.ComesTo guard parser cursor trail outcome ↔
      (∃ failures later, grammar.Misses guard children cursor trail failures later ∧
        outcome = .failure (failures.getLastD (.atCursor cursor)) later) ∨
      grammar.Hits guard children cursor trail outcome := by
  rw [comesTo_iff, Task.comesTo_loop_iff found rfl]
  exact Task.comesTo_branch_iff

theorem succeedsFrom_sequence_iff (found : grammar.lookup parser = .ok (.sequence children))
    {place next : Text × Trail} {value : Value α} :
    grammar.SucceedsFrom guard parser place value next ↔
      ∃ values, InTurn (grammar.SucceedsFrom guard) children place values next ∧
        value = .list values := by
  change grammar.ComesTo guard parser place.1 place.2 (.success ⟨value, next.1⟩ next.2) ↔ _
  rw [comesTo_sequence_iff found]
  constructor
  · rintro (⟨values, _, _, row, same⟩ | breaks)
    · cases same
      exact ⟨values, row, rfl⟩
    · exact (breaks.not_succeeds trivial).elim
  · rintro ⟨values, row, rfl⟩
    exact Or.inl ⟨values, next.1, next.2, row, rfl⟩

theorem failsAt_branch_iff (found : grammar.lookup parser = .ok (.branch children))
    {failure : Failure} :
    grammar.FailsAt guard cursor parser trail failure later ↔
      ∃ failures, grammar.Misses guard children cursor trail failures later ∧
        failure = failures.getLastD (.atCursor cursor) := by
  change grammar.ComesTo guard parser cursor trail (.failure failure later) ↔ _
  rw [comesTo_branch_iff found]
  constructor
  · rintro (⟨failures, _, misses, same⟩ | ⟨_, _, _, _, _, _, _, stopped, _⟩)
    · cases same
      exact ⟨failures, misses, rfl⟩
    · exact (stopped trivial).elim
  · rintro ⟨failures, misses, rfl⟩
    exact Or.inl ⟨failures, later, misses, rfl⟩

theorem failsAt_branch_iff_last (found : grammar.lookup parser = .ok (.branch children))
    (nonEmpty : children ≠ []) {failure : Failure} :
    grammar.FailsAt guard cursor parser trail failure later ↔
      ∃ failures, grammar.Misses guard children cursor trail failures later ∧
        failures.getLast? = some failure := by
  rw [failsAt_branch_iff found]
  constructor
  · rintro ⟨failures, misses, rfl⟩
    have length := misses.length_eq
    refine ⟨failures, misses, ?_⟩
    cases failures with
    | nil => exact (nonEmpty (List.length_eq_zero_iff.mp length.symm)).elim
    | cons => simp [List.getLast?_cons]
  · rintro ⟨failures, misses, last⟩
    refine ⟨failures, misses, ?_⟩
    rw [List.getLastD_eq_getLast?, last, Option.getD_some]

theorem comesTo_sequence_iff_breaks (found : grammar.lookup parser = .ok (.sequence children))
    (stopped : ¬ outcome.Succeeds) :
    grammar.ComesTo guard parser cursor trail outcome ↔
      grammar.Breaks guard children cursor trail outcome := by
  rw [comesTo_sequence_iff found, or_iff_right]
  rintro ⟨_, _, _, _, rfl⟩
  exact stopped trivial

theorem comesTo_branch_iff_hits (found : grammar.lookup parser = .ok (.branch children))
    (stopped : ¬ outcome.Fails) :
    grammar.ComesTo guard parser cursor trail outcome ↔
      grammar.Hits guard children cursor trail outcome := by
  rw [comesTo_branch_iff found, or_iff_right]
  rintro ⟨_, _, _, rfl⟩
  exact stopped trivial

end Grammar

end GrammarArena
