import GrammarArena.Proofs.Likeness
import GrammarArena.Proofs.Outcomes

/-!
Two alternatives that begin with the same parser, which can be tried once in front of what the
alternatives go on with. The plain form tries that parser again after the first alternative has
failed; since transforms are pure it comes to the same there as before.
-/

namespace GrammarArena

variable {α : Type}

namespace Outcome

def Alike (paired : Pairing) : Outcome α → Outcome α → Prop
  | .success first _, .success second _ =>
      first.value.Alike paired second.value ∧ first.rest = second.rest
  | .failure first _, .failure second _ => first = second
  | .fault first, .fault second => first = second
  | _, _ => False

theorem Alike.succeeds_iff {paired : Pairing} {first second : Outcome α}
    (alike : first.Alike paired second) : first.Succeeds ↔ second.Succeeds := by
  cases first <;> cases second <;> simp_all [Alike, Succeeds]

def mapValue (change : Value α → Value α) : Outcome α → Outcome α
  | .success made later => .success (made.withValue (change made.value)) later
  | .failure reason later => .failure reason later
  | .fault reason => .fault reason

/-- The first lists what the second lists, but that in the second what comes behind the head is in a
list of its own; the rest is the same. Or both are the same failure or the same fault. -/
def Factored : Outcome α → Outcome α → Prop
  | .success first _, .success second _ =>
      ∃ x xs y ys, first.value = .list (x :: xs) ∧ second.value = .list [y, .list ys] ∧
        Value.AlikeAll .all (y :: ys) (x :: xs) ∧ second.rest = first.rest
  | .failure first _, .failure second _ => second = first
  | .fault first, .fault second => second = first
  | _, _ => False

theorem Factored.fails_iff {first second : Outcome α} (same : first.Factored second) :
    first.Fails ↔ second.Fails := by
  cases first <;> cases second <;> simp_all [Factored, Fails]

theorem fails_mapValue_iff (outcome : Outcome α) (change : Value α → Value α) :
    (outcome.mapValue change).Fails ↔ outcome.Fails := by
  cases outcome <;> rfl

theorem Fails.exists_reason {outcome : Outcome α} (fails : outcome.Fails) :
    ∃ reason later, outcome = .failure reason later := by
  cases outcome with
  | failure reason later => exact ⟨reason, later, rfl⟩
  | success | fault => exact fails.elim

theorem mapValue_of_not_succeeds {outcome : Outcome α} (stopped : ¬ outcome.Succeeds)
    (change : Value α → Value α) : outcome.mapValue change = outcome := by
  cases outcome with
  | success => exact (stopped trivial).elim
  | failure | fault => rfl

end Outcome

def Value.prepend (first : Value α) : Value α → Value α
  | .list others => .list (first :: others)
  | other => other

namespace Task

variable {grammar : Grammar α} {guard : Guard} {parser : Parser} {children : List Parser}
  {cursor : Text} {trail : Trail} {outcome : Outcome α}

theorem comesTo_branch_single_iff {last : Failure} :
    (Task.branch last cursor [parser]).ComesTo grammar guard trail outcome ↔
      grammar.ComesTo guard parser cursor trail outcome := by
  simp only [comesTo_branch_cons_iff, comesTo_branch_nil_iff]
  constructor
  · rintro (⟨_, run⟩ | ⟨_, _, run, rfl⟩)
    · exact run
    · exact run
  · intro run
    cases outcome with
    | failure => exact Or.inr ⟨_, _, run, rfl⟩
    | success | fault => exact Or.inl ⟨id, run⟩

theorem comesTo_sequence_single_iff {value : Value α} :
    (Task.sequence [value] cursor [parser]).ComesTo grammar guard trail outcome ↔
      ∃ base, grammar.ComesTo guard parser cursor trail base ∧
        outcome = base.mapValue fun last => .list [value, last] := by
  simp only [comesTo_sequence_cons_iff, comesTo_sequence_nil_iff]
  constructor
  · rintro (⟨stopped, run⟩ | ⟨made, later, run, rfl⟩)
    · exact ⟨outcome, run, (Outcome.mapValue_of_not_succeeds stopped _).symm⟩
    · exact ⟨.success made later, run, rfl⟩
  · rintro ⟨base, run, rfl⟩
    cases base with
    | success made later => exact Or.inr ⟨made, later, run, rfl⟩
    | failure | fault => exact Or.inl ⟨id, run⟩

theorem comesTo_sequence_prepend_iff {value : Value α} :
    (Task.sequence [value] cursor children).ComesTo grammar guard trail outcome ↔
      ∃ base, (Task.sequence [] cursor children).ComesTo grammar guard trail base ∧
        outcome = base.mapValue (Value.prepend value) := by
  simp only [comesTo_sequence_iff]
  constructor
  · rintro (⟨made, rest, later, row, rfl⟩ | breaks)
    · exact ⟨_, Or.inl ⟨made, rest, later, row, rfl⟩, rfl⟩
    · exact ⟨outcome, Or.inr breaks, (Outcome.mapValue_of_not_succeeds breaks.not_succeeds _).symm⟩
  · rintro ⟨_, ⟨made, rest, later, row, rfl⟩ | breaks, rfl⟩
    · exact Or.inl ⟨made, rest, later, row, rfl⟩
    · rw [Outcome.mapValue_of_not_succeeds breaks.not_succeeds]
      exact Or.inr breaks

end Task

namespace Grammar

variable {grammar : Grammar α} {guard : Guard} {parser child next first second rest : Parser}
  {children : List Parser} {cursor : Text} {trail start later : Trail} {known : Nat}
  {outcome : Outcome α}

theorem ComesTo.again (pure : grammar.EachTransform parser (Transform.Pure known))
    (run : grammar.ComesTo guard parser cursor trail outcome) (made : known ≤ trail.nextSerial)
    (madeAgain : known ≤ start.nextSerial) :
    ∃ other, grammar.ComesTo guard parser cursor start other ∧ outcome.Alike .all other := by
  cases outcome with
  | success success later =>
      obtain ⟨value, finish, again, alike⟩ := Ends.success_again pure run made madeAgain
      exact ⟨.success ⟨value, success.rest⟩ finish, again, alike, rfl⟩
  | failure reason later =>
      obtain ⟨finish, again⟩ := Ends.failure_again pure run made madeAgain
      exact ⟨.failure reason finish, again, rfl⟩
  | fault reason =>
      have faulty := comesTo_iff.mp run
      have again := Faults.again pure.closed (grammar.reaches_self parser) faulty made madeAgain
      exact ⟨.fault reason, comesTo_iff.mpr again, rfl⟩

theorem comesTo_pair_iff (found : grammar.lookup parser = .ok (.branch [first, second])) :
    grammar.ComesTo guard parser cursor trail outcome ↔
      ¬ outcome.Fails ∧ grammar.ComesTo guard first cursor trail outcome ∨
      ∃ reason middle, grammar.Ends guard first cursor trail (.error reason) middle ∧
        grammar.ComesTo guard second cursor middle outcome := by
  rw [comesTo_iff, Task.comesTo_loop_iff found rfl, Task.comesTo_branch_cons_iff]
  simp only [Task.comesTo_branch_single_iff]

theorem comesTo_couple_iff (found : grammar.lookup parser = .ok (.sequence [child, next])) :
    grammar.ComesTo guard parser cursor trail outcome ↔
      ¬ outcome.Succeeds ∧ grammar.ComesTo guard child cursor trail outcome ∨
      ∃ made middle, grammar.Ends guard child cursor trail (.ok made) middle ∧
        ∃ base, grammar.ComesTo guard next made.rest middle base ∧
          outcome = base.mapValue fun last => .list [made.value, last] := by
  rw [comesTo_iff, Task.comesTo_loop_iff found rfl, Task.comesTo_sequence_cons_iff]
  simp only [Task.comesTo_sequence_single_iff]

theorem comesTo_cons_iff (found : grammar.lookup parser = .ok (.sequence (child :: children)))
    (foundRest : grammar.lookup rest = .ok (.sequence children)) :
    grammar.ComesTo guard parser cursor trail outcome ↔
      ¬ outcome.Succeeds ∧ grammar.ComesTo guard child cursor trail outcome ∨
      ∃ made middle, grammar.Ends guard child cursor trail (.ok made) middle ∧
        ∃ base, grammar.ComesTo guard rest made.rest middle base ∧
          outcome = base.mapValue (Value.prepend made.value) := by
  rw [comesTo_iff, Task.comesTo_loop_iff found rfl, Task.comesTo_sequence_cons_iff]
  have same : ∀ place middle base,
      grammar.ComesTo guard rest place middle base ↔
        (Task.sequence [] place children).ComesTo grammar guard middle base := by
    intro place middle base
    rw [comesTo_iff, Task.comesTo_loop_iff foundRest rfl]
  simp only [Task.comesTo_sequence_prepend_iff, same]

theorem ComesTo.exists_list (found : grammar.lookup parser = .ok (.sequence children))
    {made : Success α} (run : grammar.ComesTo guard parser cursor trail (.success made later)) :
    ∃ items, made.value = .list items := by
  rcases (comesTo_sequence_iff found).mp run with ⟨items, _, _, _, same⟩ | breaks
  · cases same
    exact ⟨items, rfl⟩
  · exact (breaks.not_succeeds trivial).elim

theorem ComesTo.factored (found : grammar.lookup parser = .ok (.sequence children))
    {base other : Outcome α} (run : grammar.ComesTo guard parser cursor trail base)
    (alike : base.Alike .all other) {first second : Value α}
    (alikeFirst : first.Alike .all second) :
    (other.mapValue (Value.prepend second)).Factored
      (base.mapValue fun last => .list [first, last]) := by
  cases base <;> cases other <;> try exact alike
  case success.success made _ answer _ =>
    obtain ⟨items, same⟩ := run.exists_list found
    obtain ⟨alikeValue, sameRest⟩ := alike
    obtain ⟨value, rest⟩ := answer
    rw [same] at alikeValue
    cases value <;> try contradiction
    case list others =>
      exact ⟨second, others, first, items, rfl, by simp [Success.withValue, same],
        ⟨alikeFirst, alikeValue⟩, sameRest⟩

/-- The alternative tries the shared parser and behind it what the rest tries, and its transforms
are pure. -/
structure Continues (grammar : Grammar α) (known : Nat) (shared alternative rest : Parser) :
    Prop where
  found : ∃ children, grammar.lookup alternative = .ok (.sequence (shared :: children)) ∧
    grammar.lookup rest = .ok (.sequence children)
  pure : grammar.EachTransform alternative (Transform.Pure known)

namespace Continues

variable {shared alternative : Parser} {other : Outcome α}
  (continues : grammar.Continues known shared alternative rest)

include continues

theorem pure_shared : grammar.EachTransform shared (Transform.Pure known) := by
  obtain ⟨children, found, _⟩ := continues.found
  exact continues.pure.child (.sequence found List.mem_cons_self)

theorem pure_rest : grammar.EachTransform rest (Transform.Pure known) := by
  obtain ⟨children, found, foundRest⟩ := continues.found
  refine .of_successors foundRest rfl rfl ?_
  intro child member
  exact continues.pure.child (.sequence found (List.mem_cons_of_mem shared member))

variable (since : known ≤ trail.nextSerial) (sinceStart : known ≤ start.nextSerial)

include since sinceStart

theorem stops (stopped : ¬ other.Succeeds)
    (run : grammar.ComesTo guard shared cursor start other) :
    ∃ outcome, grammar.ComesTo guard alternative cursor trail outcome ∧ outcome.Factored other := by
  obtain ⟨children, found, foundRest⟩ := continues.found
  obtain ⟨outcome, again, alike⟩ := run.again continues.pure_shared sinceStart since
  cases other with
  | success => exact (stopped trivial).elim
  | failure | fault =>
      cases outcome <;> try contradiction
      exact ⟨_, (comesTo_cons_iff found foundRest).mpr (Or.inl ⟨id, again⟩), alike⟩

variable {made : Success α} {middle before : Trail}
  (run : grammar.Ends guard shared cursor start (.ok made) middle)
  (sinceBefore : known ≤ before.nextSerial)

include run sinceBefore

theorem goesOn (runRest : grammar.ComesTo guard rest made.rest before other) :
    ∃ outcome, grammar.ComesTo guard alternative cursor trail outcome ∧
      outcome.Factored (other.mapValue fun last => .list [made.value, last]) := by
  obtain ⟨children, found, foundRest⟩ := continues.found
  obtain ⟨value, after, again, alike⟩ := run.success_again continues.pure_shared sinceStart since
  have sinceAfter := again.known_le continues.pure_shared since
  obtain ⟨base, againRest, alikeRest⟩ := runRest.again continues.pure_rest sinceBefore sinceAfter
  exact ⟨_, (comesTo_cons_iff found foundRest).mpr (Or.inr ⟨_, _, again, base, againRest, rfl⟩),
    runRest.factored foundRest alikeRest alike⟩

theorem exists_rest (runAlternative : grammar.ComesTo guard alternative cursor trail outcome) :
    ∃ other, grammar.ComesTo guard rest made.rest before other := by
  obtain ⟨children, found, foundRest⟩ := continues.found
  obtain ⟨value, after, again, _⟩ := run.success_again continues.pure_shared sinceStart since
  have sinceAfter := again.known_le continues.pure_shared since
  rcases (comesTo_cons_iff found foundRest).mp runAlternative with ⟨stopped, stops⟩ |
    ⟨success, _, taken, base, runRest, _⟩
  · change grammar.ComesTo guard shared cursor trail (.success ⟨value, made.rest⟩ after) at again
    rw [stops.unique again] at stopped
    exact (stopped trivial).elim
  · obtain ⟨same, rfl⟩ := taken.unique again
    cases same
    obtain ⟨other, againRest, _⟩ := runRest.again continues.pure_rest sinceAfter sinceBefore
    exact ⟨other, againRest⟩

end Continues

theorem exists_pair (found : grammar.lookup parser = .ok (.branch [first, second]))
    (runFirst : grammar.ComesTo guard first cursor trail outcome) {goal : Outcome α → Prop}
    (decided : ¬ outcome.Fails → goal outcome)
    (undecided : ∀ reason middle, outcome = .failure reason middle →
      ∃ other, grammar.ComesTo guard second cursor middle other ∧ goal other) :
    ∃ other, grammar.ComesTo guard parser cursor trail other ∧ goal other := by
  by_cases fails : outcome.Fails
  · obtain ⟨reason, middle, rfl⟩ := fails.exists_reason
    obtain ⟨other, runSecond, reached⟩ := undecided reason middle rfl
    have run := (comesTo_pair_iff found).mpr (Or.inr ⟨reason, middle, runFirst, runSecond⟩)
    exact ⟨other, run, reached⟩
  · exact ⟨outcome, (comesTo_pair_iff found).mpr (Or.inl ⟨fails, runFirst⟩), decided fails⟩

/-- Both parsers of the plain branch begin with the shared one, which the factored sequence has in
front of a branch of what they go on with. -/
structure LeftFactors (grammar : Grammar α) (shared : Parser) (firsts seconds : List Parser)
    (plain factored : Parser) : Prop where
  plain : ∃ first second, grammar.lookup plain = .ok (.branch [first, second]) ∧
    grammar.lookup first = .ok (.sequence (shared :: firsts)) ∧
    grammar.lookup second = .ok (.sequence (shared :: seconds))
  factored : ∃ choice left right, grammar.lookup factored = .ok (.sequence [shared, choice]) ∧
    grammar.lookup choice = .ok (.branch [left, right]) ∧
    grammar.lookup left = .ok (.sequence firsts) ∧
    grammar.lookup right = .ok (.sequence seconds)

namespace LeftFactors

variable {shared plain factored : Parser} {firsts seconds : List Parser} {other : Outcome α}
  (factors : grammar.LeftFactors shared firsts seconds plain factored)
  (pure : grammar.EachTransform plain (Transform.Pure known))

include factors pure

theorem continues : ∃ first second choice left right,
    grammar.lookup plain = .ok (.branch [first, second]) ∧
    grammar.lookup factored = .ok (.sequence [shared, choice]) ∧
    grammar.lookup choice = .ok (.branch [left, right]) ∧
    grammar.Continues known shared first left ∧ grammar.Continues known shared second right := by
  obtain ⟨first, second, foundPlain, foundFirst, foundSecond⟩ := factors.plain
  obtain ⟨choice, left, right, foundFactored, foundChoice, foundLeft, foundRight⟩ :=
    factors.factored
  have pureFirst := pure.child (.branch foundPlain List.mem_cons_self)
  have pureSecond := pure.child (.branch foundPlain (List.mem_pair.mpr (Or.inr rfl)))
  exact ⟨first, second, choice, left, right, foundPlain, foundFactored, foundChoice,
    ⟨⟨firsts, foundFirst, foundLeft⟩, pureFirst⟩, ⟨⟨seconds, foundSecond, foundRight⟩, pureSecond⟩⟩

variable (since : known ≤ trail.nextSerial) (sinceStart : known ≤ start.nextSerial)

include since sinceStart

theorem exists_plain (run : grammar.ComesTo guard factored cursor start other) :
    ∃ outcome, grammar.ComesTo guard plain cursor trail outcome ∧ outcome.Factored other := by
  obtain ⟨first, second, choice, left, right, foundPlain, foundFactored, foundChoice,
    continuesFirst, continuesSecond⟩ := factors.continues pure
  rcases (comesTo_couple_iff foundFactored).mp run with ⟨stopped, stops⟩ |
    ⟨made, middle, taken, base, chosen, rfl⟩
  · obtain ⟨outcome, runFirst, same⟩ := continuesFirst.stops since sinceStart stopped stops
    apply exists_pair foundPlain runFirst fun _ => same
    rintro reason failed rfl
    have sinceFailed := Ends.known_le continuesFirst.pure runFirst since
    exact continuesSecond.stops sinceFailed sinceStart stopped stops
  · have sinceMiddle := taken.known_le continuesFirst.pure_shared sinceStart
    rcases (comesTo_pair_iff foundChoice).mp chosen with ⟨decided, runLeft⟩ |
      ⟨reason, between, failedLeft, runRight⟩
    · obtain ⟨outcome, runFirst, same⟩ :=
        continuesFirst.goesOn since sinceStart taken sinceMiddle runLeft
      apply exists_pair foundPlain runFirst fun _ => same
      rintro reason failed rfl
      have fails := (base.fails_mapValue_iff _).mp (same.fails_iff.mp trivial)
      exact (decided fails).elim
    · have runLeft : grammar.ComesTo guard left made.rest middle (.failure reason between) :=
        failedLeft
      have sinceBetween := failedLeft.known_le continuesFirst.pure_rest sinceMiddle
      obtain ⟨outcome, runFirst, same⟩ :=
        continuesFirst.goesOn since sinceStart taken sinceMiddle runLeft
      apply exists_pair foundPlain runFirst
      · exact fun decided => (decided (same.fails_iff.mpr trivial)).elim
      · -- The shared parser is tried once more, after all that the first alternative tried.
        rintro _ failed rfl
        have sinceFailed := Ends.known_le continuesFirst.pure runFirst since
        exact continuesSecond.goesOn sinceFailed sinceStart taken sinceBetween runRight

theorem exists_factored (run : grammar.ComesTo guard plain cursor trail outcome) :
    ∃ other, grammar.ComesTo guard factored cursor start other := by
  obtain ⟨first, second, choice, left, right, foundPlain, foundFactored, foundChoice,
    continuesFirst, continuesSecond⟩ := factors.continues pure
  obtain ⟨answer, runFirst⟩ : ∃ answer, grammar.ComesTo guard first cursor trail answer := by
    rcases (comesTo_pair_iff foundPlain).mp run with ⟨_, runFirst⟩ |
      ⟨reason, middle, failed, _⟩
    · exact ⟨outcome, runFirst⟩
    · exact ⟨.failure reason middle, failed⟩
  obtain ⟨_, foundFirst, foundLeft⟩ := continuesFirst.found
  rcases (comesTo_cons_iff foundFirst foundLeft).mp runFirst with ⟨stopped, stops⟩ |
    ⟨made, _, taken, _⟩
  · obtain ⟨other, again, alike⟩ := stops.again continuesFirst.pure_shared since sinceStart
    rw [alike.succeeds_iff] at stopped
    exact ⟨other, (comesTo_couple_iff foundFactored).mpr (Or.inl ⟨stopped, again⟩)⟩
  · obtain ⟨value, after, again, _⟩ :=
      taken.success_again continuesFirst.pure_shared since sinceStart
    have sinceAfter := again.known_le continuesFirst.pure_shared sinceStart
    obtain ⟨base, runLeft⟩ :=
      continuesFirst.exists_rest since sinceStart again sinceAfter runFirst
    have chosen : ∃ other, grammar.ComesTo guard choice made.rest after other ∧ True := by
      apply exists_pair foundChoice runLeft fun _ => trivial
      rintro reason between rfl
      have sinceBetween := Ends.known_le continuesFirst.pure_rest runLeft sinceAfter
      -- What the first alternative goes on with has failed, so the second one was tried as well.
      obtain ⟨failed, runFailed, same⟩ :=
        continuesFirst.goesOn since sinceStart again sinceAfter runLeft
      rcases (comesTo_pair_iff foundPlain).mp run with ⟨decided, runFirst⟩ |
        ⟨_, before, runFirst, runSecond⟩
      · rw [runFirst.unique runFailed, same.fails_iff] at decided
        exact (decided trivial).elim
      · have sinceBefore := runFirst.known_le continuesFirst.pure since
        obtain ⟨other, runRight⟩ :=
          continuesSecond.exists_rest sinceBefore sinceStart again sinceBetween runSecond
        exact ⟨other, runRight, trivial⟩
    obtain ⟨other, runChoice, _⟩ := chosen
    exact ⟨_, (comesTo_couple_iff foundFactored).mpr (Or.inr ⟨_, _, again, other, runChoice, rfl⟩)⟩

end LeftFactors

end Grammar

/-- Left factoring is safe where transforms are pure: both forms end if one of them does, and they
fail alike and succeed alike, but that the values behind the shared one are in a list of their own.
Each may be begun after any number of payloads were made. -/
theorem left_factoring {grammar : Grammar α} {shared plain factored : Parser}
    {firsts seconds : List Parser} {known : Nat}
    (factors : grammar.LeftFactors shared firsts seconds plain factored)
    (pure : grammar.EachTransform plain (Transform.Pure known)) (input : Text)
    (trail start : Trail) (since : known ≤ trail.nextSerial)
    (sinceStart : known ≤ start.nextSerial) :
    ((∃ outcome, grammar.ComesTo .noProgress plain input trail outcome) ↔
      ∃ other, grammar.ComesTo .noProgress factored input start other) ∧
    ∀ outcome other, grammar.ComesTo .noProgress plain input trail outcome →
      grammar.ComesTo .noProgress factored input start other → outcome.Factored other := by
  refine ⟨⟨?_, ?_⟩, ?_⟩
  · rintro ⟨_, run⟩
    exact factors.exists_factored pure since sinceStart run
  · rintro ⟨_, run⟩
    obtain ⟨outcome, runPlain, _⟩ := factors.exists_plain pure since sinceStart run
    exact ⟨outcome, runPlain⟩
  · intro outcome other run runFactored
    obtain ⟨expected, runPlain, same⟩ := factors.exists_plain pure since sinceStart runFactored
    rwa [run.unique runPlain]

def markedDigit : Grammar Nat where
  nodes := #[.satisfy Char.isDigit, .map ⟨0⟩ digitPayload, .char ',', .char ';',
    .sequence [⟨1⟩, ⟨2⟩], .sequence [⟨1⟩, ⟨3⟩], .branch [⟨4⟩, ⟨5⟩], .sequence [⟨2⟩],
    .sequence [⟨3⟩], .branch [⟨7⟩, ⟨8⟩], .sequence [⟨1⟩, ⟨9⟩]]

theorem markedDigit_left_factoring :
    markedDigit.LeftFactors ⟨1⟩ [⟨2⟩] [⟨3⟩] ⟨6⟩ ⟨10⟩ ∧
    markedDigit.EachTransform ⟨6⟩ (Transform.Pure 0) ∧ 0 ≤ ({} : Trail).nextSerial ∧
    0 ≤ (⟨10, []⟩ : Trail).nextSerial ∧
    markedDigit.ComesTo .noProgress ⟨6⟩ ['7', ';', 'x'] {}
      (.success ⟨.list [.custom 1 55, .char ';'], ['x']⟩ ⟨2, []⟩) ∧
    markedDigit.ComesTo .noProgress ⟨10⟩ ['7', ';', 'x'] ⟨10, []⟩
      (.success ⟨.list [.custom 10 55, .list [.char ';']], ['x']⟩ ⟨11, []⟩) ∧
    (Outcome.success ⟨.list [.custom 1 55, .char ';'], ['x']⟩ ⟨2, []⟩).Factored
      (.success ⟨.list [.custom 10 55, .list [.char ';']], ['x']⟩ ⟨11, []⟩ : Outcome Nat) := by
  have factors : markedDigit.LeftFactors ⟨1⟩ [⟨2⟩] [⟨3⟩] ⟨6⟩ ⟨10⟩ :=
    { plain := ⟨⟨4⟩, ⟨5⟩, rfl, rfl, rfl⟩
      factored := ⟨⟨9⟩, ⟨7⟩, ⟨8⟩, rfl, rfl, rfl, rfl⟩ }
  have pure : markedDigit.EachTransform ⟨6⟩ (Transform.Pure 0) := by
    apply Grammar.EachTransform.of_transforms
    exact digitPayload_pure
  have plain : markedDigit.ComesTo .noProgress ⟨6⟩ ['7', ';', 'x'] {}
      (.success ⟨.list [.custom 1 55, .char ';'], ['x']⟩ ⟨2, []⟩) := ⟨8, rfl⟩
  have factored : markedDigit.ComesTo .noProgress ⟨10⟩ ['7', ';', 'x'] ⟨10, []⟩
      (.success ⟨.list [.custom 10 55, .list [.char ';']], ['x']⟩ ⟨11, []⟩) := ⟨8, rfl⟩
  have same := left_factoring factors pure ['7', ';', 'x'] {} ⟨10, []⟩ (Nat.zero_le _)
    (Nat.zero_le _)
  exact ⟨factors, pure, Nat.zero_le _, Nat.zero_le _, plain, factored, same.2 _ _ plain factored⟩

end GrammarArena
