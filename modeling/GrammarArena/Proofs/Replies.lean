import GrammarArena.Evaluation.Basic

/-!
Evaluations that end, described without counting steps. `Replies` relates a task to the reply it
ends with, `Faults` to the fault that stops it; `ends_iff_replies` and `evaluate_fault_iff_faults`
say that these are the outcomes an evaluation has when it is given enough steps.
-/

namespace GrammarArena

variable {α : Type}

/-- What an evaluation can be in the middle of: a parser that is to be tried, or what is left of
a sequence, a branch or a repetition. -/
inductive Task (α : Type) where
  | attempt (parser : Parser) (cursor : Text)
  | sequence (values : List (Value α)) (cursor : Text) (children : List Parser)
  | branch (last : Failure) (cursor : Text) (children : List Parser)
  | repetition (inner : Parser) (values : List (Value α)) (cursor : Text)

namespace Task

def cursor : Task α → Text
  | .attempt _ cursor => cursor
  | .sequence _ cursor _ => cursor
  | .branch _ cursor _ => cursor
  | .repetition _ _ cursor => cursor

def evaluate (grammar : Grammar α) (guard : Guard) (steps rounds : Nat) :
    Task α → Evaluation (Reply α)
  | .attempt parser cursor => grammar.evaluate guard steps parser cursor
  | .sequence values cursor children =>
      Grammar.sequenceFrom (grammar.evaluate guard steps) values cursor children
  | .branch last cursor children =>
      Grammar.branchFrom (grammar.evaluate guard steps) last cursor children
  | .repetition inner values cursor =>
      Grammar.repeatFrom guard (grammar.evaluate guard steps) inner rounds values cursor

end Task

/-- The task ends with the reply and leaves the second trail in place of the first. -/
inductive Replies (grammar : Grammar α) (guard : Guard) :
    Task α → Trail → Reply α → Trail → Prop
  | char {parser cursor trail expected} :
      grammar.lookup parser = .ok (.char expected) →
      Replies grammar guard (.attempt parser cursor) trail
        (Primitive.matchOne (· = expected) cursor) trail
  | string {parser cursor trail expected} :
      grammar.lookup parser = .ok (.string expected) →
      Replies grammar guard (.attempt parser cursor) trail
        (Primitive.matchText expected cursor) trail
  | filter {parser cursor trail accepts} :
      grammar.lookup parser = .ok (.filter accepts) →
      Replies grammar guard (.attempt parser cursor) trail
        (Primitive.matchRun accepts cursor) trail
  | satisfy {parser cursor trail accepts} :
      grammar.lookup parser = .ok (.satisfy accepts) →
      Replies grammar guard (.attempt parser cursor) trail
        (Primitive.matchOne accepts cursor) trail
  | sequence {parser cursor trail children reply later} :
      grammar.lookup parser = .ok (.sequence children) →
      Replies grammar guard (.sequence [] cursor children) trail reply later →
      Replies grammar guard (.attempt parser cursor) trail reply later
  | branch {parser cursor trail children reply later} :
      grammar.lookup parser = .ok (.branch children) →
      Replies grammar guard (.branch (.atCursor cursor) cursor children) trail reply later →
      Replies grammar guard (.attempt parser cursor) trail reply later
  | repetition {parser cursor trail inner reply later} :
      grammar.lookup parser = .ok (.repetition inner) →
      Replies grammar guard (.repetition inner [] cursor) trail reply later →
      Replies grammar guard (.attempt parser cursor) trail reply later
  | mapFailure {parser cursor trail inner transform failure later} :
      grammar.lookup parser = .ok (.map inner transform) →
      Replies grammar guard (.attempt inner cursor) trail (.error failure) later →
      Replies grammar guard (.attempt parser cursor) trail (.error failure) later
  | mapSuccess {parser cursor trail inner transform success middle} :
      grammar.lookup parser = .ok (.map inner transform) →
      Replies grammar guard (.attempt inner cursor) trail (.ok success) middle →
      Replies grammar guard (.attempt parser cursor) trail (transform success middle.nextSerial).1
        (middle.advance (transform success middle.nextSerial).2)
  | reference {parser cursor trail slot target reply later} :
      grammar.lookup parser = .ok (.reference slot) →
      grammar.resolve slot = .ok (some target) →
      Replies grammar guard (.attempt target cursor) trail reply later →
      Replies grammar guard (.attempt parser cursor) trail reply later
  | sequenceEnd {values cursor trail} :
      Replies grammar guard (.sequence values cursor []) trail
        (.ok ⟨.list values.reverse, cursor⟩) trail
  | sequenceFailure {values cursor child children trail failure later} :
      Replies grammar guard (.attempt child cursor) trail (.error failure) later →
      Replies grammar guard (.sequence values cursor (child :: children)) trail
        (.error failure) later
  | sequenceNext {values cursor child children trail success middle reply later} :
      Replies grammar guard (.attempt child cursor) trail (.ok success) middle →
      Replies grammar guard (.sequence (success.value :: values) success.rest children) middle
        reply later →
      Replies grammar guard (.sequence values cursor (child :: children)) trail reply later
  | branchEnd {last cursor trail} :
      Replies grammar guard (.branch last cursor []) trail (.error last) trail
  | branchSuccess {last cursor child children trail success later} :
      Replies grammar guard (.attempt child cursor) trail (.ok success) later →
      Replies grammar guard (.branch last cursor (child :: children)) trail (.ok success) later
  | branchNext {last cursor child children trail failure middle reply later} :
      Replies grammar guard (.attempt child cursor) trail (.error failure) middle →
      Replies grammar guard (.branch failure cursor children) middle reply later →
      Replies grammar guard (.branch last cursor (child :: children)) trail reply later
  | repeatFailure {inner values cursor trail failure later} :
      Replies grammar guard (.attempt inner cursor) trail (.error failure) later →
      Replies grammar guard (.repetition inner values cursor) trail
        (.ok ⟨.list values.reverse, cursor⟩) later
  | repeatStall {inner values cursor trail success middle} :
      Replies grammar guard (.attempt inner cursor) trail (.ok success) middle →
      guard cursor success.rest = true →
      Replies grammar guard (.repetition inner values cursor) trail
        (.ok ⟨.list values.reverse, cursor⟩) (middle.stop inner values.length)
  | repeatNext {inner values cursor trail success middle reply later} :
      Replies grammar guard (.attempt inner cursor) trail (.ok success) middle →
      guard cursor success.rest = false →
      Replies grammar guard (.repetition inner (success.value :: values) success.rest) middle
        reply later →
      Replies grammar guard (.repetition inner values cursor) trail reply later

inductive Faults (grammar : Grammar α) (guard : Guard) : Task α → Trail → Fault → Prop
  | missingParser {parser cursor trail fault} :
      grammar.lookup parser = .error fault →
      Faults grammar guard (.attempt parser cursor) trail fault
  | missingSlot {parser cursor trail slot fault} :
      grammar.lookup parser = .ok (.reference slot) →
      grammar.resolve slot = .error fault →
      Faults grammar guard (.attempt parser cursor) trail fault
  | unboundSlot {parser cursor trail slot} :
      grammar.lookup parser = .ok (.reference slot) →
      grammar.resolve slot = .ok none →
      Faults grammar guard (.attempt parser cursor) trail (.unboundSlot parser slot)
  | sequence {parser cursor trail children fault} :
      grammar.lookup parser = .ok (.sequence children) →
      Faults grammar guard (.sequence [] cursor children) trail fault →
      Faults grammar guard (.attempt parser cursor) trail fault
  | branch {parser cursor trail children fault} :
      grammar.lookup parser = .ok (.branch children) →
      Faults grammar guard (.branch (.atCursor cursor) cursor children) trail fault →
      Faults grammar guard (.attempt parser cursor) trail fault
  | repetition {parser cursor trail inner fault} :
      grammar.lookup parser = .ok (.repetition inner) →
      Faults grammar guard (.repetition inner [] cursor) trail fault →
      Faults grammar guard (.attempt parser cursor) trail fault
  | map {parser cursor trail inner transform fault} :
      grammar.lookup parser = .ok (.map inner transform) →
      Faults grammar guard (.attempt inner cursor) trail fault →
      Faults grammar guard (.attempt parser cursor) trail fault
  | reference {parser cursor trail slot target fault} :
      grammar.lookup parser = .ok (.reference slot) →
      grammar.resolve slot = .ok (some target) →
      Faults grammar guard (.attempt target cursor) trail fault →
      Faults grammar guard (.attempt parser cursor) trail fault
  | sequenceFirst {values cursor child children trail fault} :
      Faults grammar guard (.attempt child cursor) trail fault →
      Faults grammar guard (.sequence values cursor (child :: children)) trail fault
  | sequenceNext {values cursor child children trail success middle fault} :
      Replies grammar guard (.attempt child cursor) trail (.ok success) middle →
      Faults grammar guard (.sequence (success.value :: values) success.rest children) middle
        fault →
      Faults grammar guard (.sequence values cursor (child :: children)) trail fault
  | branchFirst {last cursor child children trail fault} :
      Faults grammar guard (.attempt child cursor) trail fault →
      Faults grammar guard (.branch last cursor (child :: children)) trail fault
  | branchNext {last cursor child children trail failure middle fault} :
      Replies grammar guard (.attempt child cursor) trail (.error failure) middle →
      Faults grammar guard (.branch failure cursor children) middle fault →
      Faults grammar guard (.branch last cursor (child :: children)) trail fault
  | repeatFirst {inner values cursor trail fault} :
      Faults grammar guard (.attempt inner cursor) trail fault →
      Faults grammar guard (.repetition inner values cursor) trail fault
  | repeatNext {inner values cursor trail success middle fault} :
      Replies grammar guard (.attempt inner cursor) trail (.ok success) middle →
      guard cursor success.rest = false →
      Faults grammar guard (.repetition inner (success.value :: values) success.rest) middle
        fault →
      Faults grammar guard (.repetition inner values cursor) trail fault

namespace Grammar

/-- Given enough steps, the evaluation of the parser ends with the reply and the second trail. -/
def Ends (grammar : Grammar α) (guard : Guard) (parser : Parser) (input : Text) (trail : Trail)
    (reply : Reply α) (later : Trail) : Prop :=
  ∃ steps, grammar.evaluate guard steps parser input trail = .ok (reply, later)

def RunEnds (grammar : Grammar α) (parser : Parser) (input : Text) (trail : Trail)
    (reply : Reply α) (later : Trail) : Prop :=
  ∃ parsed, grammar.Ends .noProgress parser input trail parsed later ∧ reply = requireEnd parsed

end Grammar

/-! An outcome of `evaluate` is one that the relations describe. -/

section Agreement

variable {grammar : Grammar α} {guard : Guard}

def Agrees (grammar : Grammar α) (guard : Guard) (task : Task α) (trail : Trail) :
    Except Halt (Reply α × Trail) → Prop
  | .ok (reply, later) => Replies grammar guard task trail reply later
  | .error (.fault fault) => Faults grammar guard task trail fault
  | .error .outOfSteps => True

theorem Agrees.imp {task next : Task α} {trail middle : Trail}
    {outcome : Except Halt (Reply α × Trail)}
    (replies : ∀ reply later, Replies grammar guard next middle reply later →
      Replies grammar guard task trail reply later)
    (faults : ∀ fault, Faults grammar guard next middle fault →
      Faults grammar guard task trail fault)
    (agrees : Agrees grammar guard next middle outcome) :
    Agrees grammar guard task trail outcome := by
  match outcome, agrees with
  | .ok (reply, later), agrees => exact replies reply later agrees
  | .error (.fault fault), agrees => exact faults fault agrees
  | .error .outOfSteps, _ => trivial

theorem Agrees.bind {task first : Task α} {trail : Trail} {evaluation : Evaluation (Reply α)}
    {next : Reply α → Evaluation (Reply α)}
    (agrees : Agrees grammar guard first trail (evaluation trail))
    (faults : ∀ fault, Faults grammar guard first trail fault →
      Faults grammar guard task trail fault)
    (goesOn : ∀ reply middle, Replies grammar guard first trail reply middle →
      Agrees grammar guard task trail (next reply middle)) :
    Agrees grammar guard task trail ((evaluation >>= next) trail) := by
  rw [Evaluation.bind_apply]
  cases outcome : evaluation trail with
  | ok made =>
      rw [outcome] at agrees
      exact goesOn made.1 made.2 agrees
  | error reason =>
      rw [outcome] at agrees
      cases reason with
      | fault fault => exact faults fault agrees
      | outOfSteps => trivial

variable {apply : Parser → Text → Evaluation (Reply α)}
  (applied : ∀ parser cursor trail,
    Agrees grammar guard (.attempt parser cursor) trail (apply parser cursor trail))

include applied

theorem sequenceFrom_agrees (children : List Parser) (values : List (Value α)) (cursor : Text)
    (trail : Trail) :
    Agrees grammar guard (.sequence values cursor children) trail
      (Grammar.sequenceFrom apply values cursor children trail) := by
  induction children generalizing values cursor trail with
  | nil => exact Replies.sequenceEnd
  | cons child children ih =>
      apply (applied child cursor trail).bind fun _ => Faults.sequenceFirst
      intro reply middle first
      cases reply with
      | error failure => exact Replies.sequenceFailure first
      | ok success =>
          exact (ih (success.value :: values) success.rest middle).imp
            (fun _ _ => Replies.sequenceNext first) (fun _ => Faults.sequenceNext first)

theorem branchFrom_agrees (children : List Parser) (last : Failure) (cursor : Text)
    (trail : Trail) :
    Agrees grammar guard (.branch last cursor children) trail
      (Grammar.branchFrom apply last cursor children trail) := by
  induction children generalizing last trail with
  | nil => exact Replies.branchEnd
  | cons child children ih =>
      apply (applied child cursor trail).bind fun _ => Faults.branchFirst
      intro reply middle first
      cases reply with
      | ok success => exact Replies.branchSuccess first
      | error failure =>
          exact (ih failure middle).imp
            (fun _ _ => Replies.branchNext first) (fun _ => Faults.branchNext first)

theorem repeatFrom_agrees (inner : Parser) (rounds : Nat) (values : List (Value α))
    (cursor : Text) (trail : Trail) :
    Agrees grammar guard (.repetition inner values cursor) trail
      (Grammar.repeatFrom guard apply inner rounds values cursor trail) := by
  induction rounds generalizing values cursor trail with
  | zero => trivial
  | succ rounds ih =>
      apply (applied inner cursor trail).bind fun _ => Faults.repeatFirst
      intro reply middle first
      cases reply with
      | error failure => exact Replies.repeatFailure first
      | ok success =>
          cases stops : guard cursor success.rest with
          | true =>
              simp only [stops, ↓reduceIte]
              exact Replies.repeatStall first stops
          | false =>
              simp only [stops, Bool.false_eq_true, ↓reduceIte]
              exact (ih (success.value :: values) success.rest middle).imp
                (fun _ _ => Replies.repeatNext first stops)
                (fun _ => Faults.repeatNext first stops)

omit applied

theorem evaluate_agrees (grammar : Grammar α) (guard : Guard) (steps : Nat) (parser : Parser)
    (cursor : Text) (trail : Trail) :
    Agrees grammar guard (.attempt parser cursor) trail
      (grammar.evaluate guard steps parser cursor trail) := by
  induction steps generalizing parser cursor trail with
  | zero => trivial
  | succ steps ih =>
      cases found : grammar.lookup parser with
      | error fault =>
          rw [Grammar.evaluate, found, Evaluation.bind_apply]
          exact Faults.missingParser found
      | ok node =>
          rw [Grammar.evaluate_of_lookup found]
          cases node with
          | char expected => exact Replies.char found
          | string expected => exact Replies.string found
          | filter accepts => exact Replies.filter found
          | satisfy accepts => exact Replies.satisfy found
          | sequence children =>
              exact (sequenceFrom_agrees ih children [] cursor trail).imp
                (fun _ _ => Replies.sequence found) (fun _ => Faults.sequence found)
          | branch children =>
              exact (branchFrom_agrees ih children (.atCursor cursor) cursor trail).imp
                (fun _ _ => Replies.branch found) (fun _ => Faults.branch found)
          | repetition inner =>
              exact (repeatFrom_agrees ih inner (steps + 1) [] cursor trail).imp
                (fun _ _ => Replies.repetition found) (fun _ => Faults.repetition found)
          | map inner transform =>
              apply (ih inner cursor trail).bind fun _ => Faults.map found
              intro reply middle first
              cases reply with
              | error failure => exact Replies.mapFailure found first
              | ok success => exact Replies.mapSuccess found first
          | reference slot =>
              rw [Grammar.evaluateNode, Evaluation.bind_apply]
              cases resolved : grammar.resolve slot with
              | error fault => exact Faults.missingSlot found resolved
              | ok target =>
                  cases target with
                  | none => exact Faults.unboundSlot found resolved
                  | some target =>
                      exact (ih target cursor trail).imp
                        (fun _ _ => Replies.reference found resolved)
                        (fun _ => Faults.reference found resolved)

theorem Replies.of_evaluate {steps : Nat} {parser : Parser} {cursor : Text} {trail later : Trail}
    {reply : Reply α}
    (ended : grammar.evaluate guard steps parser cursor trail = .ok (reply, later)) :
    Replies grammar guard (.attempt parser cursor) trail reply later := by
  have agrees := evaluate_agrees grammar guard steps parser cursor trail
  rwa [ended] at agrees

theorem Faults.of_evaluate {steps : Nat} {parser : Parser} {cursor : Text} {trail : Trail}
    {fault : Fault}
    (ended : grammar.evaluate guard steps parser cursor trail = .error (.fault fault)) :
    Faults grammar guard (.attempt parser cursor) trail fault := by
  have agrees := evaluate_agrees grammar guard steps parser cursor trail
  rwa [ended] at agrees

end Agreement

/-! Conversely, what the relations describe is the outcome for all numbers of steps from some
number on. -/

section Completeness

variable {grammar : Grammar α} {guard : Guard}

/-- With at least that many steps and rounds the task has this outcome. -/
def Settles (grammar : Grammar α) (guard : Guard) (task : Task α) (trail : Trail)
    (outcome : Except Halt (Reply α × Trail)) (enough : Nat) : Prop :=
  ∀ steps rounds, enough ≤ steps → enough ≤ rounds →
    task.evaluate grammar guard steps rounds trail = outcome

theorem Settles.of_lookup {parser : Parser} {cursor : Text} {node : Node α} {trail : Trail}
    {outcome : Except Halt (Reply α × Trail)} {enough : Nat}
    (found : grammar.lookup parser = .ok node)
    (settled : ∀ steps rounds, enough ≤ steps → enough ≤ rounds →
      grammar.evaluateNode guard (grammar.evaluate guard steps) rounds parser cursor node trail =
        outcome) :
    Settles grammar guard (.attempt parser cursor) trail outcome (enough + 1) := by
  intro steps rounds enoughSteps _
  cases steps with
  | zero => omega
  | succ steps =>
      rw [Task.evaluate, Grammar.evaluate_of_lookup found]
      exact settled steps (steps + 1) (by omega) (by omega)

theorem Settles.evaluate {parser : Parser} {cursor : Text} {trail : Trail}
    {outcome : Except Halt (Reply α × Trail)} {enough : Nat}
    (settled : Settles grammar guard (.attempt parser cursor) trail outcome enough)
    {steps : Nat} (enoughSteps : enough ≤ steps) :
    grammar.evaluate guard steps parser cursor trail = outcome :=
  settled steps steps enoughSteps enoughSteps

theorem Settles.afterAttempt {task : Task α} {parser : Parser} {cursor : Text} {trail : Trail}
    {first : Reply α × Trail} {outcome : Except Halt (Reply α × Trail)} {enough : Nat}
    (settled : Settles grammar guard (.attempt parser cursor) trail (.ok first) enough)
    (next : Reply α → Nat → Nat → Evaluation (Reply α)) (later : Nat)
    (begins : ∀ steps rounds, task.evaluate grammar guard steps (rounds + 1) trail =
      (grammar.evaluate guard steps parser cursor >>= fun reply => next reply steps rounds) trail)
    (goesOn : ∀ steps rounds, later ≤ steps → later ≤ rounds →
      next first.1 steps rounds first.2 = outcome) :
    Settles grammar guard task trail outcome (max enough later + 1) := by
  intro steps rounds enoughSteps enoughRounds
  cases rounds with
  | zero => omega
  | succ rounds =>
      rw [begins, Evaluation.bind_apply, settled.evaluate (by omega)]
      exact goesOn steps rounds (by omega) (by omega)

theorem Replies.settles {task : Task α} {trail later : Trail} {reply : Reply α}
    (run : Replies grammar guard task trail reply later) :
    ∃ enough, Settles grammar guard task trail (.ok (reply, later)) enough := by
  induction run with
  | char found => exact ⟨1, .of_lookup found fun _ _ _ _ => rfl⟩
  | string found => exact ⟨1, .of_lookup found fun _ _ _ _ => rfl⟩
  | filter found => exact ⟨1, .of_lookup found fun _ _ _ _ => rfl⟩
  | satisfy found => exact ⟨1, .of_lookup found fun _ _ _ _ => rfl⟩
  | sequence found _ ih | branch found _ ih | repetition found _ ih =>
      obtain ⟨enough, settled⟩ := ih
      exact ⟨enough + 1, .of_lookup found settled⟩
  | mapFailure found _ ih | mapSuccess found _ ih =>
      obtain ⟨enough, settled⟩ := ih
      refine ⟨enough + 1, .of_lookup found ?_⟩
      intro steps rounds enoughSteps _
      rw [Grammar.evaluateNode, Evaluation.bind_apply, settled.evaluate enoughSteps]
      rfl
  | reference found resolved _ ih =>
      obtain ⟨enough, settled⟩ := ih
      refine ⟨enough + 1, .of_lookup found ?_⟩
      intro steps rounds enoughSteps _
      rw [Grammar.evaluateNode, Evaluation.bind_apply, resolved]
      exact settled.evaluate enoughSteps
  | sequenceEnd => exact ⟨0, fun _ _ _ _ => rfl⟩
  | sequenceFailure _ ih =>
      obtain ⟨enough, settled⟩ := ih
      exact ⟨_, settled.afterAttempt _ 0 (fun _ _ => rfl) fun _ _ _ _ => rfl⟩
  | sequenceNext _ _ ihFirst ihNext =>
      obtain ⟨first, settledFirst⟩ := ihFirst
      obtain ⟨next, settledNext⟩ := ihNext
      refine ⟨_, settledFirst.afterAttempt _ next (fun _ _ => rfl) ?_⟩
      exact settledNext
  | branchEnd => exact ⟨0, fun _ _ _ _ => rfl⟩
  | branchSuccess _ ih =>
      obtain ⟨enough, settled⟩ := ih
      exact ⟨_, settled.afterAttempt _ 0 (fun _ _ => rfl) fun _ _ _ _ => rfl⟩
  | branchNext _ _ ihFirst ihNext =>
      obtain ⟨first, settledFirst⟩ := ihFirst
      obtain ⟨next, settledNext⟩ := ihNext
      refine ⟨_, settledFirst.afterAttempt _ next (fun _ _ => rfl) ?_⟩
      exact settledNext
  | repeatFailure _ ih =>
      obtain ⟨enough, settled⟩ := ih
      exact ⟨_, settled.afterAttempt _ 0 (fun _ _ => rfl) fun _ _ _ _ => rfl⟩
  | repeatStall _ stops ih =>
      obtain ⟨enough, settled⟩ := ih
      refine ⟨_, settled.afterAttempt _ 0 (fun _ _ => rfl) ?_⟩
      intro steps rounds _ _
      simp only [stops, ↓reduceIte]
      rfl
  | repeatNext _ goesOn _ ihFirst ihNext =>
      obtain ⟨first, settledFirst⟩ := ihFirst
      obtain ⟨next, settledNext⟩ := ihNext
      refine ⟨_, settledFirst.afterAttempt _ next (fun _ _ => rfl) ?_⟩
      intro steps rounds enoughSteps enoughRounds
      simp only [goesOn, Bool.false_eq_true, ↓reduceIte]
      exact settledNext steps rounds enoughSteps enoughRounds

theorem Settles.haltFirst {task : Task α} {parser : Parser} {cursor : Text} {trail : Trail}
    {reason : Halt} {enough : Nat}
    (settled : Settles grammar guard (.attempt parser cursor) trail (.error reason) enough)
    (next : Reply α → Nat → Nat → Evaluation (Reply α))
    (begins : ∀ steps rounds, task.evaluate grammar guard steps (rounds + 1) trail =
      (grammar.evaluate guard steps parser cursor >>= fun reply => next reply steps rounds) trail) :
    Settles grammar guard task trail (.error reason) (enough + 1) := by
  intro steps rounds enoughSteps enoughRounds
  cases rounds with
  | zero => omega
  | succ rounds => rw [begins, Evaluation.bind_apply, settled.evaluate (by omega)]

theorem Faults.settles {task : Task α} {trail : Trail} {fault : Fault}
    (run : Faults grammar guard task trail fault) :
    ∃ enough, Settles grammar guard task trail (.error (.fault fault)) enough := by
  induction run with
  | missingParser missing =>
      refine ⟨1, fun steps rounds enoughSteps _ => ?_⟩
      cases steps with
      | zero => omega
      | succ steps =>
          rw [Task.evaluate, Grammar.evaluate, missing, Evaluation.bind_apply]
          rfl
  | missingSlot found missing =>
      refine ⟨1, .of_lookup found fun _ _ _ _ => ?_⟩
      rw [Grammar.evaluateNode, Evaluation.bind_apply, missing]
      rfl
  | unboundSlot found unbound =>
      refine ⟨1, .of_lookup found fun _ _ _ _ => ?_⟩
      rw [Grammar.evaluateNode, Evaluation.bind_apply, unbound]
      rfl
  | sequence found _ ih | branch found _ ih | repetition found _ ih =>
      obtain ⟨enough, settled⟩ := ih
      exact ⟨enough + 1, .of_lookup found settled⟩
  | map found _ ih =>
      obtain ⟨enough, settled⟩ := ih
      refine ⟨enough + 1, .of_lookup found ?_⟩
      intro steps rounds enoughSteps _
      rw [Grammar.evaluateNode, Evaluation.bind_apply, settled.evaluate enoughSteps]
  | reference found resolved _ ih =>
      obtain ⟨enough, settled⟩ := ih
      refine ⟨enough + 1, .of_lookup found ?_⟩
      intro steps rounds enoughSteps _
      rw [Grammar.evaluateNode, Evaluation.bind_apply, resolved]
      exact settled.evaluate enoughSteps
  | sequenceFirst _ ih | branchFirst _ ih | repeatFirst _ ih =>
      obtain ⟨enough, settled⟩ := ih
      exact ⟨_, settled.haltFirst _ fun _ _ => rfl⟩
  | sequenceNext first _ ihNext | branchNext first _ ihNext =>
      obtain ⟨enough, settledFirst⟩ := first.settles
      obtain ⟨next, settledNext⟩ := ihNext
      refine ⟨_, settledFirst.afterAttempt _ next (fun _ _ => rfl) ?_⟩
      exact settledNext
  | repeatNext first goesOn _ ihNext =>
      obtain ⟨enough, settledFirst⟩ := first.settles
      obtain ⟨next, settledNext⟩ := ihNext
      refine ⟨_, settledFirst.afterAttempt _ next (fun _ _ => rfl) ?_⟩
      intro steps rounds enoughSteps enoughRounds
      simp only [goesOn, Bool.false_eq_true, ↓reduceIte]
      exact settledNext steps rounds enoughSteps enoughRounds

theorem ends_iff_replies {parser : Parser} {input : Text} {trail later : Trail}
    {reply : Reply α} :
    grammar.Ends guard parser input trail reply later ↔
      Replies grammar guard (.attempt parser input) trail reply later := by
  constructor
  · rintro ⟨steps, ended⟩
    exact Replies.of_evaluate ended
  · intro run
    obtain ⟨enough, settled⟩ := run.settles
    exact ⟨enough, settled.evaluate (Nat.le_refl _)⟩

theorem evaluate_fault_iff_faults {parser : Parser} {input : Text} {trail : Trail}
    {fault : Fault} :
    (∃ steps, grammar.evaluate guard steps parser input trail = .error (.fault fault)) ↔
      Faults grammar guard (.attempt parser input) trail fault := by
  constructor
  · rintro ⟨steps, ended⟩
    exact Faults.of_evaluate ended
  · intro run
    obtain ⟨enough, settled⟩ := run.settles
    exact ⟨enough, settled.evaluate (Nat.le_refl _)⟩

theorem Settles.unique {task : Task α} {trail : Trail}
    {first second : Except Halt (Reply α × Trail)} {enough more : Nat}
    (settledFirst : Settles grammar guard task trail first enough)
    (settledSecond : Settles grammar guard task trail second more) : first = second := by
  have left := settledFirst (max enough more) (max enough more) (by omega) (by omega)
  have right := settledSecond (max enough more) (max enough more) (by omega) (by omega)
  exact left.symm.trans right

theorem Replies.unique {task : Task α} {trail later after : Trail} {reply other : Reply α}
    (run : Replies grammar guard task trail reply later)
    (again : Replies grammar guard task trail other after) : reply = other ∧ later = after := by
  obtain ⟨_, settled⟩ := run.settles
  obtain ⟨_, settledAgain⟩ := again.settles
  simpa using settled.unique settledAgain

theorem Grammar.Ends.unique {parser : Parser} {input : Text} {trail later after : Trail}
    {reply other : Reply α} (ended : grammar.Ends guard parser input trail reply later)
    (again : grammar.Ends guard parser input trail other after) : reply = other ∧ later = after :=
  (ends_iff_replies.mp ended).unique (ends_iff_replies.mp again)

theorem evaluate_settles {steps : Nat} {parser : Parser} {cursor : Text} {trail : Trail}
    (ended : grammar.evaluate guard steps parser cursor trail ≠ .error .outOfSteps) :
    ∃ enough, Settles grammar guard (.attempt parser cursor) trail
      (grammar.evaluate guard steps parser cursor trail) enough := by
  have agrees := evaluate_agrees grammar guard steps parser cursor trail
  match grammar.evaluate guard steps parser cursor trail, agrees, ended with
  | .ok (reply, later), agrees, _ => exact Replies.settles agrees
  | .error (.fault fault), agrees, _ => exact Faults.settles agrees
  | .error .outOfSteps, _, ended => exact absurd rfl ended

/-- The number of steps can only cut an evaluation off, not change its outcome. -/
theorem evaluate_eq_of_ended {steps more : Nat} {parser : Parser} {cursor : Text} {trail : Trail}
    (ended : grammar.evaluate guard steps parser cursor trail ≠ .error .outOfSteps)
    (endedMore : grammar.evaluate guard more parser cursor trail ≠ .error .outOfSteps) :
    grammar.evaluate guard steps parser cursor trail =
      grammar.evaluate guard more parser cursor trail := by
  obtain ⟨_, settled⟩ := evaluate_settles ended
  obtain ⟨_, settledMore⟩ := evaluate_settles endedMore
  exact settled.unique settledMore

theorem Replies.parse_eq {parser : Parser} {input : Text} {trail later : Trail} {reply : Reply α}
    (run : Replies grammar .noProgress (.attempt parser input) trail reply later)
    (ended : grammar.parse parser input trail ≠ .error .outOfSteps) :
    grammar.parse parser input trail = .ok (reply, later) := by
  obtain ⟨_, settled⟩ := run.settles
  obtain ⟨_, settledParse⟩ := evaluate_settles ended
  exact settledParse.unique settled

theorem Grammar.run_eq_of_parse {parser : Parser} {input : Text} {trail later : Trail}
    {reply : Reply α} (parsed : grammar.parse parser input trail = .ok (reply, later)) :
    grammar.run parser input trail = .ok (Grammar.requireEnd reply, later) := by
  rw [Grammar.run, Evaluation.bind_apply, parsed]
  rfl

theorem Grammar.success_of_run {parser : Parser} {input : Text} {trail later after : Trail}
    {success made : Success α} (ran : grammar.run parser input trail = .ok (.ok success, later))
    (parsed : grammar.parse parser input trail = .ok (.ok made, after)) : success = made := by
  rw [run_eq_of_parse parsed, requireEnd] at ran
  split at ran
  · cases ran
    rfl
  · cases ran

theorem Grammar.runEnds_of_run {parser : Parser} {input : Text} {trail later : Trail}
    {reply : Reply α} (ran : grammar.run parser input trail = .ok (reply, later)) :
    grammar.RunEnds parser input trail reply later := by
  cases parsed : grammar.parse parser input trail with
  | error reason =>
      rw [Grammar.run, Evaluation.bind_apply, parsed] at ran
      cases ran
  | ok made =>
      rw [Grammar.run_eq_of_parse parsed] at ran
      cases ran
      exact ⟨made.1, ⟨grammar.stepLimit input, parsed⟩, rfl⟩

end Completeness

section Characters

variable {grammar : Grammar α} {parser : Parser} {expected : Char}

theorem Replies.char_taken (found : grammar.lookup parser = .ok (.char expected)) (guard : Guard)
    (rest : Text) (trail : Trail) :
    Replies grammar guard (.attempt parser (expected :: rest)) trail
      (.ok ⟨.char expected, rest⟩) trail := by
  have run : Replies grammar guard (.attempt parser (expected :: rest)) trail _ trail :=
    .char found
  simpa [Primitive.matchOne] using run

theorem Replies.char_refused (found : grammar.lookup parser = .ok (.char expected))
    (guard : Guard) {cursor : Text} (different : ∀ rest, cursor ≠ expected :: rest)
    (trail : Trail) :
    ∃ failure, Replies grammar guard (.attempt parser cursor) trail (.error failure) trail := by
  have run : Replies grammar guard (.attempt parser cursor) trail _ trail := .char found
  cases cursor with
  | nil => exact ⟨.endOfInput, run⟩
  | cons first rest =>
      have unequal : first ≠ expected := fun same => different rest (by rw [same])
      simp only [Primitive.matchOne, unequal, decide_false, Bool.false_eq_true, ↓reduceIte] at run
      exact ⟨.unexpected first, run⟩

end Characters

end GrammarArena
