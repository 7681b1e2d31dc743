import GrammarArena.Proofs.Derivation

/-!
Where an evaluation goes and what its failures name. As long as transforms only shorten the rest,
every parser that is tried on the way is tried at a suffix of the input; and as long as they put
no new characters in, a failure names a character of the input.
-/

namespace GrammarArena

variable {α : Type}

/-- In the course of the task the parser `tried` is tried at `place`. This says nothing about
whether the task ends. -/
inductive Tries (grammar : Grammar α) (guard : Guard) : Task α → Trail → Parser → Text → Prop
  | self {parser cursor trail} : Tries grammar guard (.attempt parser cursor) trail parser cursor
  | sequence {parser cursor trail children tried place} :
      grammar.lookup parser = .ok (.sequence children) →
      Tries grammar guard (.sequence [] cursor children) trail tried place →
      Tries grammar guard (.attempt parser cursor) trail tried place
  | branch {parser cursor trail children tried place} :
      grammar.lookup parser = .ok (.branch children) →
      Tries grammar guard (.branch (.atCursor cursor) cursor children) trail tried place →
      Tries grammar guard (.attempt parser cursor) trail tried place
  | repetition {parser cursor trail inner tried place} :
      grammar.lookup parser = .ok (.repetition inner) →
      Tries grammar guard (.repetition inner [] cursor) trail tried place →
      Tries grammar guard (.attempt parser cursor) trail tried place
  | map {parser cursor trail inner transform tried place} :
      grammar.lookup parser = .ok (.map inner transform) →
      Tries grammar guard (.attempt inner cursor) trail tried place →
      Tries grammar guard (.attempt parser cursor) trail tried place
  | reference {parser cursor trail slot target tried place} :
      grammar.lookup parser = .ok (.reference slot) →
      grammar.resolve slot = .ok (some target) →
      Tries grammar guard (.attempt target cursor) trail tried place →
      Tries grammar guard (.attempt parser cursor) trail tried place
  | sequenceFirst {values cursor child children trail tried place} :
      Tries grammar guard (.attempt child cursor) trail tried place →
      Tries grammar guard (.sequence values cursor (child :: children)) trail tried place
  | sequenceNext {values cursor child children trail success middle tried place} :
      Replies grammar guard (.attempt child cursor) trail (.ok success) middle →
      Tries grammar guard (.sequence (success.value :: values) success.rest children) middle tried
        place →
      Tries grammar guard (.sequence values cursor (child :: children)) trail tried place
  | branchFirst {last cursor child children trail tried place} :
      Tries grammar guard (.attempt child cursor) trail tried place →
      Tries grammar guard (.branch last cursor (child :: children)) trail tried place
  | branchNext {last cursor child children trail failure middle tried place} :
      Replies grammar guard (.attempt child cursor) trail (.error failure) middle →
      Tries grammar guard (.branch failure cursor children) middle tried place →
      Tries grammar guard (.branch last cursor (child :: children)) trail tried place
  | repeatFirst {inner values cursor trail tried place} :
      Tries grammar guard (.attempt inner cursor) trail tried place →
      Tries grammar guard (.repetition inner values cursor) trail tried place
  | repeatNext {inner values cursor trail success middle tried place} :
      Replies grammar guard (.attempt inner cursor) trail (.ok success) middle →
      guard cursor success.rest = false →
      Tries grammar guard (.repetition inner (success.value :: values) success.rest) middle tried
        place →
      Tries grammar guard (.repetition inner values cursor) trail tried place

/-! `Tries` leaves nothing out: what would happen anywhere else makes no difference. -/

section Elsewhere

variable {grammar : Grammar α} {guard : Guard} {allowed : Parser → Text → Bool}

/-- An evaluation that is the grammar's own where it is allowed, and anything elsewhere. -/
def Grammar.evaluateWhere (grammar : Grammar α) (guard : Guard) (allowed : Parser → Text → Bool)
    (elsewhere : Parser → Text → Evaluation (Reply α)) :
    Nat → Parser → Text → Evaluation (Reply α)
  | 0, _, _ => Evaluation.halt .outOfSteps
  | steps + 1, parser, cursor =>
      if allowed parser cursor then do
        let node ← Evaluation.ofFault (grammar.lookup parser)
        grammar.evaluateNode guard (grammar.evaluateWhere guard allowed elsewhere steps) (steps + 1)
          parser cursor node
      else elsewhere parser cursor

def Confined (grammar : Grammar α) (guard : Guard) (allowed : Parser → Text → Bool) (task : Task α)
    (trail : Trail) : Prop :=
  ∀ tried place, Tries grammar guard task trail tried place → allowed tried place = true

section Loops

variable {steps : Nat} {apply : Parser → Text → Evaluation (Reply α)}
  (agrees : ∀ parser cursor trail, Confined grammar guard allowed (.attempt parser cursor) trail →
    apply parser cursor trail = grammar.evaluate guard steps parser cursor trail)

include agrees

theorem sequenceFrom_of_confined {children : List Parser} {values : List (Value α)} {cursor : Text}
    {trail : Trail}
    (confined : Confined grammar guard allowed (.sequence values cursor children) trail) :
    Grammar.sequenceFrom apply values cursor children trail =
      Grammar.sequenceFrom (grammar.evaluate guard steps) values cursor children trail := by
  induction children generalizing values cursor trail with
  | nil => rfl
  | cons child children ih =>
      have first := agrees child cursor trail fun _ _ tries => confined _ _ (.sequenceFirst tries)
      simp only [Grammar.sequenceFrom, Evaluation.bind_apply, first]
      cases outcome : grammar.evaluate guard steps child cursor trail with
      | error reason => rfl
      | ok made =>
          obtain ⟨reply, middle⟩ := made
          have run := Replies.of_evaluate outcome
          cases reply with
          | error failure => rfl
          | ok success => exact ih fun _ _ tries => confined _ _ (.sequenceNext run tries)

theorem branchFrom_of_confined {children : List Parser} {last : Failure} {cursor : Text}
    {trail : Trail}
    (confined : Confined grammar guard allowed (.branch last cursor children) trail) :
    Grammar.branchFrom apply last cursor children trail =
      Grammar.branchFrom (grammar.evaluate guard steps) last cursor children trail := by
  induction children generalizing last trail with
  | nil => rfl
  | cons child children ih =>
      have first := agrees child cursor trail fun _ _ tries => confined _ _ (.branchFirst tries)
      simp only [Grammar.branchFrom, Evaluation.bind_apply, first]
      cases outcome : grammar.evaluate guard steps child cursor trail with
      | error reason => rfl
      | ok made =>
          obtain ⟨reply, middle⟩ := made
          have run := Replies.of_evaluate outcome
          cases reply with
          | ok success => rfl
          | error failure => exact ih fun _ _ tries => confined _ _ (.branchNext run tries)

theorem repeatFrom_of_confined {inner : Parser} {rounds : Nat} {values : List (Value α)}
    {cursor : Text} {trail : Trail}
    (confined : Confined grammar guard allowed (.repetition inner values cursor) trail) :
    Grammar.repeatFrom guard apply inner rounds values cursor trail =
      Grammar.repeatFrom guard (grammar.evaluate guard steps) inner rounds values cursor trail := by
  induction rounds generalizing values cursor trail with
  | zero => rfl
  | succ rounds ih =>
      have first := agrees inner cursor trail fun _ _ tries => confined _ _ (.repeatFirst tries)
      simp only [Grammar.repeatFrom, Evaluation.bind_apply, first]
      cases outcome : grammar.evaluate guard steps inner cursor trail with
      | error reason => rfl
      | ok made =>
          obtain ⟨reply, middle⟩ := made
          have run := Replies.of_evaluate outcome
          cases reply with
          | error failure => rfl
          | ok success =>
              by_cases stops : guard cursor success.rest = true
              · simp only [stops, ↓reduceIte]
              · have goesOn : guard cursor success.rest = false := by simpa using stops
                simp only [goesOn, Bool.false_eq_true, ↓reduceIte]
                exact ih fun _ _ tries => confined _ _ (.repeatNext run goesOn tries)

end Loops

/-- If all that is tried is allowed, then what is done elsewhere does not matter, for any number
of steps. -/
theorem evaluateWhere_of_confined (elsewhere : Parser → Text → Evaluation (Reply α)) (steps : Nat)
    {parser : Parser} {cursor : Text} {trail : Trail}
    (confined : Confined grammar guard allowed (.attempt parser cursor) trail) :
    grammar.evaluateWhere guard allowed elsewhere steps parser cursor trail =
      grammar.evaluate guard steps parser cursor trail := by
  induction steps generalizing parser cursor trail with
  | zero => rfl
  | succ steps ih =>
      have permitted := confined _ _ .self
      simp only [Grammar.evaluateWhere, permitted, ↓reduceIte, Grammar.evaluate,
        Evaluation.bind_apply]
      cases found : grammar.lookup parser with
      | error fault => rfl
      | ok node =>
          have agrees : ∀ parser cursor trail,
              Confined grammar guard allowed (.attempt parser cursor) trail →
              grammar.evaluateWhere guard allowed elsewhere steps parser cursor trail =
                grammar.evaluate guard steps parser cursor trail := fun _ _ _ inside => ih inside
          cases node with
          | char | string | filter | satisfy => rfl
          | sequence children =>
              exact sequenceFrom_of_confined agrees fun _ _ tries =>
                confined _ _ (.sequence found tries)
          | branch children =>
              exact branchFrom_of_confined agrees fun _ _ tries =>
                confined _ _ (.branch found tries)
          | repetition inner =>
              exact repeatFrom_of_confined agrees fun _ _ tries =>
                confined _ _ (.repetition found tries)
          | map inner transform =>
              have same := agrees inner cursor trail fun _ _ tries =>
                confined _ _ (.map found tries)
              simp only [Evaluation.ofFault, Grammar.evaluateNode, Evaluation.bind_apply, same]
          | reference slot =>
              simp only [Evaluation.ofFault, Grammar.evaluateNode, Evaluation.bind_apply]
              cases resolved : grammar.resolve slot with
              | error fault => rfl
              | ok bound =>
                  cases bound with
                  | none => rfl
                  | some target =>
                      exact ih fun _ _ tries => confined _ _ (.reference found resolved tries)

end Elsewhere

theorem Tries.place_suffix {grammar : Grammar α} {guard : Guard} {within : Parser → Prop}
    (closed : grammar.Closed within Transform.KeepsSuffix) {task : Task α} {trail : Trail}
    {tried : Parser} {place : Text} (tries : Tries grammar guard task trail tried place)
    (inside : task.Within within) : place <:+ task.cursor := by
  induction tries with
  | self => exact List.suffix_refl _
  | sequence found _ ih => exact ih fun _ member => closed.leads inside (.sequence found member)
  | branch found _ ih => exact ih fun _ member => closed.leads inside (.branch found member)
  | repetition found _ ih => exact ih (closed.leads inside (.repetition found))
  | map found _ ih => exact ih (closed.leads inside (.map found))
  | reference found resolved _ ih => exact ih (closed.leads inside (.reference found resolved))
  | sequenceFirst _ ih | branchFirst _ ih => exact ih (inside _ List.mem_cons_self)
  | repeatFirst _ ih => exact ih inside
  | sequenceNext first _ ih =>
      have rest := first.rest_suffix closed (inside _ List.mem_cons_self) rfl
      exact (ih fun _ member => inside _ (List.mem_cons_of_mem _ member)).trans rest
  | branchNext _ _ ih => exact ih fun _ member => inside _ (List.mem_cons_of_mem _ member)
  | repeatNext first _ _ ih => exact (ih inside).trans (first.rest_suffix closed inside rfl)

/-! What a reply shows of the text: the characters in its value and its rest, or the one that its
failure names. -/

def Failure.Shows (text : Text) : Failure → Prop
  | .endOfInput => True
  | .unexpected found => found ∈ text

def Reply.Shows (text : Text) : Reply α → Prop
  | .ok success => success.value.flat ⊆ text ∧ success.rest ⊆ text
  | .error failure => failure.Shows text

/-- A transform whose replies show nothing that was not in what it was given. -/
def Transform.Truthful (transform : Transform α) : Prop :=
  ∀ success serial text, Reply.Shows text (.ok success) →
    Reply.Shows text (transform success serial).1

def Task.Shows (text : Text) : Task α → Prop
  | .attempt _ cursor => cursor ⊆ text
  | .sequence values cursor _ => (∀ value ∈ values, value.flat ⊆ text) ∧ cursor ⊆ text
  | .branch last cursor _ => last.Shows text ∧ cursor ⊆ text
  | .repetition _ values cursor => (∀ value ∈ values, value.flat ⊆ text) ∧ cursor ⊆ text

theorem Failure.atCursor_shows {cursor text : Text} (within : cursor ⊆ text) :
    (Failure.atCursor cursor).Shows text := by
  cases cursor with
  | nil => trivial
  | cons found rest => exact within List.mem_cons_self

theorem Value.flatAll_subset {items : List (Value α)} {text : Text}
    (each : ∀ item ∈ items, item.flat ⊆ text) : Value.flatAll items ⊆ text := by
  induction items with
  | nil => exact List.nil_subset text
  | cons item items ih =>
      obtain ⟨first, others⟩ := List.forall_mem_cons.mp each
      exact List.append_subset.mpr ⟨first, ih others⟩

theorem Reply.list_shows {values : List (Value α)} {cursor text : Text}
    (each : ∀ value ∈ values, value.flat ⊆ text) (within : cursor ⊆ text) :
    Reply.Shows text (.ok ⟨.list values.reverse, cursor⟩) := by
  refine ⟨Value.flatAll_subset ?_, within⟩
  intro value member
  exact each value (List.mem_reverse.mp member)

namespace Primitive

theorem matchOne_shows (accepts : Char → Bool) {cursor text : Text} (within : cursor ⊆ text) :
    Reply.Shows text (matchOne accepts cursor : Reply α) := by
  cases cursor with
  | nil => trivial
  | cons found rest =>
      obtain ⟨first, later⟩ := List.cons_subset.mp within
      simp only [matchOne]
      split
      · exact ⟨List.cons_subset.mpr ⟨first, List.nil_subset _⟩, later⟩
      · exact first

theorem mem_of_mismatch {expected cursor : Text} {found : Char}
    (different : mismatch? expected cursor = some found) : found ∈ cursor := by
  induction expected generalizing cursor with
  | nil => simp [mismatch?] at different
  | cons wanted expected ih =>
      cases cursor with
      | nil => simp [mismatch?] at different
      | cons first cursor =>
          simp only [mismatch?] at different
          split at different
          · exact List.mem_cons_of_mem _ (ih different)
          · cases different
            exact List.mem_cons_self

theorem matchText_shows (expected : Text) {cursor text : Text} (within : cursor ⊆ text) :
    Reply.Shows text (matchText expected cursor : Reply α) := by
  cases reply : (matchText expected cursor : Reply α) with
  | ok success =>
      obtain ⟨value, split⟩ := matchText_ok reply
      rw [split] at within
      rw [Reply.Shows, value]
      exact List.append_subset.mp within
  | error failure =>
      simp only [matchText] at reply
      split at reply
      · cases reply
        trivial
      · split at reply
        · rename_i different
          cases reply
          exact within (mem_of_mismatch different)
        · cases reply

theorem matchRun_shows (accepts : Char → Bool) {cursor text : Text} (within : cursor ⊆ text) :
    Reply.Shows text (matchRun accepts cursor : Reply α) := by
  constructor
  · exact List.Subset.trans (List.takeWhile_subset _) within
  · exact List.Subset.trans (List.dropWhile_subset _) within

end Primitive

theorem Value.text_subset_flat (value : Value α) : value.text?.getD [] ⊆ value.flat := by
  cases value with
  | text run => exact List.Subset.refl run
  | char | list | int | custom => exact List.nil_subset _

namespace Builder

theorem requireItems_truthful :
    Transform.Truthful fun success : Success α => pure (requireItems success) := by
  intro success serial text given
  change Reply.Shows text (requireItems success)
  simp only [requireItems]
  split
  · exact Failure.atCursor_shows given.2
  · exact given

theorem readInteger_truthful :
    Transform.Truthful fun success : Success α => pure (readInteger success) := by
  intro success serial text given
  have digits := List.Subset.trans success.value.text_subset_flat given.1
  change Reply.Shows text (readInteger success)
  simp only [readInteger]
  split
  · exact Failure.atCursor_shows given.2
  · split
    · exact ⟨List.nil_subset _, given.2⟩
    · exact Failure.atCursor_shows digits

end Builder

/-- The transforms that the builders bring along: of a repetition that must not be empty and of
integers. -/
def Transform.ReadyMade (transform : Transform α) : Prop :=
  transform = (fun success => pure (Builder.requireItems success)) ∨
    transform = fun success => pure (Builder.readInteger success)

theorem Transform.ReadyMade.keepsSuffix {transform : Transform α} (ready : transform.ReadyMade) :
    transform.KeepsSuffix := by
  rcases ready with rfl | rfl
  · exact Builder.requireItems_keepsSuffix
  · exact Builder.readInteger_keepsSuffix

theorem Transform.ReadyMade.truthful {transform : Transform α} (ready : transform.ReadyMade) :
    transform.Truthful := by
  rcases ready with rfl | rfl
  · exact Builder.requireItems_truthful
  · exact Builder.readInteger_truthful

theorem Replies.shows {grammar : Grammar α} {guard : Guard} {within : Parser → Prop}
    (closed : grammar.Closed within Transform.Truthful) {task : Task α} {trail later : Trail}
    {reply : Reply α} (run : Replies grammar guard task trail reply later)
    (inside : task.Within within) {text : Text} (given : task.Shows text) : reply.Shows text := by
  induction run with
  | char | satisfy => exact Primitive.matchOne_shows _ given
  | string => exact Primitive.matchText_shows _ given
  | filter => exact Primitive.matchRun_shows _ given
  | sequence found _ ih =>
      exact ih (fun _ member => closed.leads inside (.sequence found member)) ⟨by simp, given⟩
  | branch found _ ih =>
      exact ih (fun _ member => closed.leads inside (.branch found member))
        ⟨Failure.atCursor_shows given, given⟩
  | repetition found _ ih => exact ih (closed.leads inside (.repetition found)) ⟨by simp, given⟩
  | mapFailure found _ ih => exact ih (closed.leads inside (.map found)) given
  | mapSuccess found _ ih =>
      exact closed.transforms inside found _ _ _ (ih (closed.leads inside (.map found)) given)
  | reference found resolved _ ih =>
      exact ih (closed.leads inside (.reference found resolved)) given
  | sequenceEnd => exact Reply.list_shows given.1 given.2
  | sequenceFailure _ ih => exact ih (inside _ List.mem_cons_self) given.2
  | sequenceNext _ _ ihFirst ihNext =>
      obtain ⟨value, rest⟩ := ihFirst (inside _ List.mem_cons_self) given.2
      apply ihNext fun _ member => inside _ (List.mem_cons_of_mem _ member)
      exact ⟨List.forall_mem_cons.mpr ⟨value, given.1⟩, rest⟩
  | branchEnd => exact given.1
  | branchSuccess _ ih => exact ih (inside _ List.mem_cons_self) given.2
  | branchNext _ _ ihFirst ihNext =>
      have named := ihFirst (inside _ List.mem_cons_self) given.2
      exact ihNext (fun _ member => inside _ (List.mem_cons_of_mem _ member)) ⟨named, given.2⟩
  | repeatFailure | repeatStall => exact Reply.list_shows given.1 given.2
  | repeatNext _ _ _ ihFirst ihNext =>
      obtain ⟨value, rest⟩ := ihFirst inside given.2
      exact ihNext inside ⟨List.forall_mem_cons.mpr ⟨value, given.1⟩, rest⟩

theorem Grammar.requireEnd_shows {reply : Reply α} {text : Text} (shows_ : reply.Shows text) :
    (Grammar.requireEnd reply).Shows text := by
  cases reply with
  | error failure => exact shows_
  | ok success =>
      simp only [Grammar.requireEnd]
      split
      · exact shows_
      · exact Failure.atCursor_shows shows_.2

/-- If transforms only shorten the rest, then a success leaves a suffix of the input, and whatever
is tried on the way is tried at one. If the only transforms are the ready-made ones, then a
character that a failure names occurs in the input, so that nothing but the end of input can be
wrong with an empty one; this holds of a run over the whole input too. -/
theorem cursors_and_failures_in_input {grammar : Grammar α} {parser : Parser}
    (keeps : grammar.EachTransform parser Transform.KeepsSuffix) (input : Text) (trail : Trail) :
    (∀ value rest later, grammar.Ends .noProgress parser input trail (.ok ⟨value, rest⟩) later →
      rest <:+ input) ∧
    (∀ tried place, Tries grammar .noProgress (.attempt parser input) trail tried place →
      place <:+ input) ∧
    (grammar.EachTransform parser Transform.ReadyMade → ∀ failure later,
      (grammar.Ends .noProgress parser input trail (.error failure) later ∨
        grammar.RunEnds parser input trail (.error failure) later) →
      (∀ found, failure = .unexpected found → found ∈ input) ∧
      (input = [] → failure = .endOfInput)) := by
  have inside := grammar.reaches_self parser
  refine ⟨?_, ?_, ?_⟩
  · intro value rest later ended
    have run := ends_iff_replies.mp ended
    exact run.rest_suffix keeps.closed inside rfl
  · intro tried place tries
    exact tries.place_suffix keeps.closed inside
  · intro ready failure later failed
    have truthful : grammar.EachTransform parser Transform.Truthful :=
      ready.imp fun _ readyMade => readyMade.truthful
    have parsed : ∀ reply, grammar.Ends .noProgress parser input trail reply later →
        reply.Shows input :=
      fun reply ended => (ends_iff_replies.mp ended).shows truthful.closed inside
        (List.Subset.refl input)
    have named : failure.Shows input := by
      rcases failed with ended | ⟨reply, ended, required⟩
      · exact parsed _ ended
      · have whole := Grammar.requireEnd_shows (parsed reply ended)
        rwa [← required] at whole
    constructor
    · rintro found rfl
      exact named
    · rintro rfl
      cases failure with
      | endOfInput => rfl
      | unexpected found => exact absurd named List.not_mem_nil

def arrowedIntegers : Grammar Nat where
  nodes := #[.filter Char.isDigit, .map ⟨0⟩ fun success => pure (Builder.readInteger success),
    .string ['→', ' '], .reference ⟨0⟩, .sequence [⟨1⟩, ⟨2⟩, ⟨3⟩], .branch [⟨4⟩, ⟨1⟩],
    .repetition ⟨5⟩, .map ⟨6⟩ fun success => pure (Builder.requireItems success)]
  slots := #[some ⟨7⟩]

def twentyNines : Text :=
  List.replicate 20 '9'

theorem arrowedIntegers_failures_in_input :
    arrowedIntegers.EachTransform ⟨7⟩ Transform.KeepsSuffix ∧
    arrowedIntegers.EachTransform ⟨7⟩ Transform.ReadyMade ∧
    Tries arrowedIntegers .noProgress (.attempt ⟨7⟩ ('7' :: '→' :: ' ' :: twentyNines)) {} ⟨4⟩
      twentyNines ∧
    twentyNines <:+ '7' :: '→' :: ' ' :: twentyNines ∧
    arrowedIntegers.RunEnds ⟨7⟩ ('7' :: '→' :: ' ' :: twentyNines) {}
      (.error (.unexpected '→')) {} ∧
    '→' ∈ '7' :: '→' :: ' ' :: twentyNines := by
  have ready : arrowedIntegers.EachTransform ⟨7⟩ Transform.ReadyMade := by
    apply Grammar.EachTransform.of_transforms
    constructor
    · exact Or.inr rfl
    · exact Or.inl rfl
  have keeps : arrowedIntegers.EachTransform ⟨7⟩ Transform.KeepsSuffix :=
    ready.imp fun _ readyMade => readyMade.keepsSuffix
  have seven : Replies arrowedIntegers .noProgress
      (.attempt ⟨1⟩ ('7' :: '→' :: ' ' :: twentyNines)) {}
      (.ok ⟨.int 7, '→' :: ' ' :: twentyNines⟩) {} := ends_iff_replies.mp ⟨2, rfl⟩
  have arrow : Replies arrowedIntegers .noProgress (.attempt ⟨2⟩ ('→' :: ' ' :: twentyNines)) {}
      (.ok ⟨.text ['→', ' '], twentyNines⟩) {} := ends_iff_replies.mp ⟨1, rfl⟩
  have tries : Tries arrowedIntegers .noProgress
      (.attempt ⟨7⟩ ('7' :: '→' :: ' ' :: twentyNines)) {} ⟨4⟩ twentyNines := by
    refine .map rfl (.repetition rfl (.repeatFirst (.branch rfl (.branchFirst ?_))))
    refine .sequence rfl (.sequenceNext seven (.sequenceNext arrow (.sequenceFirst ?_)))
    exact .reference rfl rfl
      (.map rfl (.repetition rfl (.repeatFirst (.branch rfl (.branchFirst .self)))))
  have ran : arrowedIntegers.RunEnds ⟨7⟩ ('7' :: '→' :: ' ' :: twentyNines) {}
      (.error (.unexpected '→')) {} :=
    ⟨.ok ⟨.list [.int 7], '→' :: ' ' :: twentyNines⟩, ⟨16, rfl⟩, rfl⟩
  obtain ⟨_, places, failures⟩ :=
    cursors_and_failures_in_input keeps ('7' :: '→' :: ' ' :: twentyNines) {}
  have named := (failures ready (.unexpected '→') {} (Or.inr ran)).1
  exact ⟨keeps, ready, tries, places _ _ tries, ran, named '→' rfl⟩

end GrammarArena
