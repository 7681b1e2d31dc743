import GrammarArena.Proofs.Purity
import GrammarArena.Proofs.RepetitionChain

/-!
Laws of repetitions. They hold because an item that is pure stops again wherever it stopped: where
a repetition has ended, the item takes nothing more, however often it is tried.
-/

namespace GrammarArena

variable {α : Type}

namespace Grammar

variable {grammar : Grammar α} {inner : Parser} {known : Nat} {cursor rest : Text}
  {trail middle later : Trail} {links : List (Success α)}

theorem Ends.repetition_rest {parser : Parser}
    (found : grammar.lookup parser = .ok (.repetition inner))
    (pure : grammar.EachTransform inner (Transform.Pure known))
    (keeps : grammar.EachTransform inner Transform.KeepsSuffix) (made : known ≤ trail.nextSerial)
    {success : Success α} (ended : grammar.Ends .noProgress parser cursor trail (.ok success) later)
    {start : Trail} (madeAgain : known ≤ start.nextSerial) :
    ∃ after, grammar.Ends .noProgress parser success.rest start (.ok ⟨.list [], success.rest⟩)
      after := by
  obtain ⟨links, rest, middle, chain, stops, same⟩ :=
    (ends_repetition_iff found keeps).mp ended
  cases same
  obtain ⟨after, again⟩ := stops.again pure (chain.known_le pure made) madeAgain 0
  exact ⟨after, (ends_repetition_iff found keeps).mpr ⟨[], rest, start, .done, again, rfl⟩⟩

end Grammar

/-- Repeating a repetition gives nothing new: if the repetition ends with some items, then the
nested one ends at the same rest with these items as its only item, or with none if there are
none. -/
theorem nested_repetition {grammar : Grammar α} {nested many inner : Parser} {known : Nat}
    (foundNested : grammar.lookup nested = .ok (.repetition many))
    (foundMany : grammar.lookup many = .ok (.repetition inner))
    (pure : grammar.EachTransform inner (Transform.Pure known))
    (keeps : grammar.EachTransform inner Transform.KeepsSuffix) {input rest : Text}
    {trail later : Trail} (made : known ≤ trail.nextSerial) {items : List (Value α)}
    (ended : grammar.Ends .noProgress many input trail (.ok ⟨.list items, rest⟩) later) :
    ∃ after, grammar.Ends .noProgress nested input trail
        (.ok ⟨.list (if items.isEmpty then [] else [.list items]), rest⟩) after ∧
      ∀ start : Trail, known ≤ start.nextSerial →
        grammar.EndsAlike .noProgress known nested input start
          (.ok ⟨.list (if items.isEmpty then [] else [.list items]), rest⟩) after := by
  have pureMany := Grammar.EachTransform.of_repetition foundMany pure
  have pureNested := Grammar.EachTransform.of_repetition foundNested pureMany
  have keepsMany := Grammar.EachTransform.of_repetition foundMany keeps
  have nestedEnds : ∃ after, grammar.Ends .noProgress nested input trail
      (.ok ⟨.list (if items.isEmpty then [] else [.list items]), rest⟩) after := by
    obtain ⟨links, _, middle, chain, stops, same⟩ :=
      (Grammar.ends_repetition_iff foundMany keeps).mp ended
    cases same
    -- The outer loop goes round once for all the items there are, and then stands still.
    cases chain with
    | done =>
        exact ⟨_, (Grammar.ends_repetition_iff foundNested keepsMany).mpr
          ⟨[], input, trail, .done, .standstill ended, rfl⟩⟩
    | @link _ _ success _ links _ _ _ suffix shorter further =>
        have longer := further.rest_suffix.length_le
        have fewer : rest.length < input.length := by omega
        have once : grammar.Chain many input trail
            [⟨.list ((success :: links).map Success.value), rest⟩] rest later :=
          .link ended (further.rest_suffix.trans suffix) fewer .done
        obtain ⟨after, again⟩ := ended.repetition_rest foundMany pure keeps made
          (ended.known_le pureMany made)
        exact ⟨_, (Grammar.ends_repetition_iff foundNested keepsMany).mpr
          ⟨_, rest, later, once, .standstill again, rfl⟩⟩
  obtain ⟨after, endsNested⟩ := nestedEnds
  exact ⟨after, endsNested, fun start madeAgain => endsNested.endsAlike pureNested made madeAgain⟩

theorem groupedItems_nested_repetition :
    groupedItems.lookup ⟨9⟩ = .ok (.repetition ⟨8⟩) ∧
    groupedItems.lookup ⟨8⟩ = .ok (.repetition ⟨7⟩) ∧
    groupedItems.EachTransform ⟨7⟩ (Transform.Pure 0) ∧
    groupedItems.EachTransform ⟨7⟩ Transform.KeepsSuffix ∧ 0 ≤ ({} : Trail).nextSerial ∧
    groupedItems.Ends .noProgress ⟨8⟩ groupedText {} (.ok ⟨.list groupedValues, ['x']⟩)
      ⟨2, [⟨⟨7⟩, 3⟩, ⟨⟨7⟩, 1⟩]⟩ ∧
    ∃ after, groupedItems.Ends .noProgress ⟨9⟩ groupedText {}
        (.ok ⟨.list [.list groupedValues], ['x']⟩) after ∧
      groupedItems.EndsAlike .noProgress 0 ⟨9⟩ groupedText ⟨10, []⟩
        (.ok ⟨.list [.list groupedValues], ['x']⟩) after := by
  have pure := groupedItems_each digitPayload_pure ⟨7⟩
  have keeps := groupedItems_each digitPayload_keepsSuffix ⟨7⟩
  have foundNested : groupedItems.lookup ⟨9⟩ = .ok (.repetition ⟨8⟩) := rfl
  obtain ⟨after, endsNested, endsAlike⟩ :=
    nested_repetition foundNested rfl pure keeps (Nat.zero_le _) groupedItems_ends
  exact ⟨foundNested, rfl, pure, keeps, Nat.zero_le _, groupedItems_ends, after, endsNested,
    endsAlike ⟨10, []⟩ (Nat.zero_le _)⟩

theorem Builder.lookup_of_nonEmptyRepetition {inner nonEmpty : Parser}
    {initial extended : Grammar α}
    (built : nonEmptyRepetition inner initial = .ok (nonEmpty, extended)) :
    ∃ items, extended.lookup items = .ok (.repetition inner) ∧
      extended.lookup nonEmpty = .ok (.map items fun success => pure (requireItems success)) := by
  cases built
  have found := initial.lookup_register (.repetition inner)
  exact ⟨_, Grammar.lookup_register_of_ok _ found, Grammar.lookup_register _ _⟩

namespace Grammar

section Unrolled

variable {grammar : Grammar α} {inner items nonEmpty many pair : Parser} {cursor : Text}
  {trail later : Trail}

variable (foundItems : grammar.lookup items = .ok (.repetition inner))
  (found : grammar.lookup nonEmpty =
    .ok (.map items fun success => pure (Builder.requireItems success)))
  (foundMany : grammar.lookup many = .ok (.repetition inner))
  (foundPair : grammar.lookup pair = .ok (.sequence [inner, many]))
  (keeps : grammar.EachTransform inner Transform.KeepsSuffix)

include foundItems found keeps

theorem ends_nonEmpty_iff {reply : Reply α} :
    grammar.Ends .noProgress nonEmpty cursor trail reply later ↔
      ∃ links rest middle, grammar.Chain inner cursor trail links rest middle ∧
        grammar.Stops inner links.length rest middle later ∧
        reply = Builder.requireItems ⟨.list (links.map Success.value), rest⟩ := by
  rw [ends_iff_replies, Replies.map_iff found]
  simp only [← ends_iff_replies, ends_repetition_iff foundItems keeps]
  constructor
  · rintro (⟨_, ⟨_, _, _, _, _, same⟩, _⟩ |
      ⟨_, _, ⟨links, rest, middle, chain, stops, same⟩, rfl, rfl⟩)
    · cases same
    · cases same
      exact ⟨links, rest, middle, chain, stops, rfl⟩
  · rintro ⟨links, rest, middle, chain, stops, rfl⟩
    exact Or.inr ⟨_, later, ⟨links, rest, middle, chain, stops, rfl⟩, rfl, rfl⟩

theorem ends_nonEmpty_of_stops (stops : grammar.Stops inner 0 cursor trail later) :
    grammar.Ends .noProgress nonEmpty cursor trail (.error (.atCursor cursor)) later :=
  (ends_nonEmpty_iff foundItems found keeps).mpr ⟨[], cursor, trail, .done, stops, rfl⟩

theorem Ends.not_advances_of_nonEmpty {failure : Failure}
    (ended : grammar.Ends .noProgress nonEmpty cursor trail (.error failure) later) :
    ¬ grammar.Advances inner cursor trail ∧ failure = .atCursor cursor := by
  obtain ⟨links, rest, middle, chain, stops, same⟩ :=
    (ends_nonEmpty_iff foundItems found keeps).mp ended
  cases chain with
  | done =>
      cases same
      exact ⟨stops.not_advances, rfl⟩
  | link => cases same

include foundMany foundPair

theorem Ends.pair_of_nonEmpty {success : Success α}
    (ended : grammar.Ends .noProgress nonEmpty cursor trail (.ok success) later) :
    grammar.Advances inner cursor trail ∧ ∃ first others after,
      success.value = .list (first :: others) ∧
      grammar.Ends .noProgress pair cursor trail (.ok ⟨.list [first, .list others], success.rest⟩)
        after := by
  obtain ⟨links, rest, middle, chain, stops, same⟩ :=
    (ends_nonEmpty_iff foundItems found keeps).mp ended
  cases chain with
  | done => cases same
  | @link _ _ head _ links _ _ first suffix shorter further =>
      cases same
      obtain ⟨after, stopsThere⟩ := stops.recount links.length
      have rounds := (ends_repetition_iff foundMany keeps).mpr
        ⟨links, rest, middle, further, stopsThere, rfl⟩
      have run : Replies grammar .noProgress (.sequence [] cursor [inner, many]) trail _ after :=
        .sequenceNext (ends_iff_replies.mp first)
          (.sequenceNext (ends_iff_replies.mp rounds) .sequenceEnd)
      exact ⟨⟨head, _, first, shorter⟩, head.value, links.map Success.value, after, rfl,
        ends_iff_replies.mpr (.sequence foundPair run)⟩

theorem Advances.ends_nonEmpty (advances : grammar.Advances inner cursor trail) {reply : Reply α}
    (ended : grammar.Ends .noProgress pair cursor trail reply later) :
    ∃ success after, grammar.Ends .noProgress nonEmpty cursor trail (.ok success) after := by
  obtain ⟨head, middle, first, shorter⟩ := advances
  have run := (Replies.loop_iff foundPair rfl).mp (ends_iff_replies.mp ended)
  rcases Replies.sequence_cons_iff.mp run with ⟨_, failed, _⟩ | ⟨_, _, again, next⟩
  · cases ((ends_iff_replies.mpr failed).unique first).1
  · obtain ⟨same, rfl⟩ := first.unique (ends_iff_replies.mpr again)
    cases same
    have rounds : ∃ answer finish,
        grammar.Ends .noProgress many head.rest middle answer finish := by
      rcases Replies.sequence_cons_iff.mp next with ⟨_, failed, _⟩ | ⟨_, _, items, _⟩
      · exact ⟨_, _, ends_iff_replies.mpr failed⟩
      · exact ⟨_, _, ends_iff_replies.mpr items⟩
    obtain ⟨_, _, rounds⟩ := rounds
    obtain ⟨links, rest, last, further, stops, _⟩ := (ends_repetition_iff foundMany keeps).mp rounds
    obtain ⟨after, stopsThere⟩ := stops.recount (head :: links).length
    exact ⟨_, after, (ends_nonEmpty_iff foundItems found keeps).mpr ⟨head :: links, rest, last,
      .link first (first.rest_suffix keeps) shorter further, stopsThere, rfl⟩⟩

end Unrolled

theorem advances_iff {grammar : Grammar α} {inner : Parser} {known : Nat}
    (pure : grammar.EachTransform inner (Transform.Pure known)) {cursor : Text}
    {trail start : Trail} (made : known ≤ trail.nextSerial) (madeThere : known ≤ start.nextSerial) :
    grammar.Advances inner cursor start ↔ grammar.Advances inner cursor trail := by
  constructor
  · intro advances
    exact advances.again pure madeThere made
  · intro advances
    exact advances.again pure made madeThere

end Grammar

/-- A repetition that needs at least one item, beside the item and its repetition in sequence. The
former succeeds exactly if the item takes something at the cursor; then the two have the same items
and the same rest, the one in a single list and the other in two. If the item fails there, with
whatever failure, or takes nothing, then the repetition fails at its cursor. -/
theorem nonEmptyRepetition_versus_sequence {grammar initial extended : Grammar α}
    {inner nonEmpty many pair : Parser} {known : Nat}
    (built : Builder.nonEmptyRepetition inner initial = .ok (nonEmpty, extended))
    (grows : extended.Grows grammar)
    (foundMany : grammar.lookup many = .ok (.repetition inner))
    (foundPair : grammar.lookup pair = .ok (.sequence [inner, many]))
    (pure : grammar.EachTransform inner (Transform.Pure known))
    (keeps : grammar.EachTransform inner Transform.KeepsSuffix) (input : Text)
    (trail start : Trail) (made : known ≤ trail.nextSerial) (madeThere : known ≤ start.nextSerial) :
    (∀ reply later, grammar.Ends .noProgress nonEmpty input trail reply later →
      ((∃ success, reply = .ok success) ↔ grammar.Advances inner input start) ∧
      (∀ value rest, reply = .ok ⟨value, rest⟩ → ∃ first others after,
        value = .list (first :: others) ∧
        grammar.Ends .noProgress pair input trail (.ok ⟨.list [first, .list others], rest⟩) after ∧
        grammar.EndsAlike .noProgress known pair input start
          (.ok ⟨.list [first, .list others], rest⟩) after) ∧
      ∀ failure, reply = .error failure → failure = .atCursor input) ∧
    (∀ reply later, grammar.Ends .noProgress pair input trail reply later →
      grammar.Advances inner input start →
      ∃ success after, grammar.Ends .noProgress nonEmpty input trail (.ok success) after) ∧
    (∀ reply later, grammar.Ends .noProgress inner input start reply later →
      ¬ grammar.Advances inner input start →
      ∃ after, grammar.Ends .noProgress nonEmpty input trail (.error (.atCursor input)) after) ∧
    Failure.atCursor input = input.head?.elim .endOfInput .unexpected := by
  obtain ⟨items, foundItems, found⟩ := Builder.lookup_of_nonEmptyRepetition built
  have foundItems := grows.lookup foundItems
  have found := grows.lookup found
  have pureBoth : ∀ child ∈ [inner, many], grammar.EachTransform child (Transform.Pure known) := by
    simpa using ⟨pure, Grammar.EachTransform.of_repetition foundMany pure⟩
  have purePair := Grammar.EachTransform.of_successors foundPair rfl rfl pureBoth
  refine ⟨?_, ?_, ?_, by cases input <;> rfl⟩
  · intro reply later ended
    rw [Grammar.advances_iff pure made madeThere]
    cases reply with
    | error failure =>
        obtain ⟨idle, same⟩ := ended.not_advances_of_nonEmpty foundItems found keeps
        simp [idle, same]
    | ok success =>
        obtain ⟨advances, first, others, after, values, endsPair⟩ :=
          ended.pair_of_nonEmpty foundItems found foundMany foundPair keeps
        refine ⟨⟨fun _ => advances, fun _ => ⟨success, rfl⟩⟩, ?_, ?_⟩
        · rintro _ rest ⟨⟩
          exact ⟨first, others, after, values, endsPair,
            endsPair.endsAlike purePair made madeThere⟩
        · rintro failure ⟨⟩
  · intro reply later ended advances
    rw [Grammar.advances_iff pure made madeThere] at advances
    exact advances.ends_nonEmpty foundItems found foundMany foundPair keeps ended
  · intro reply later ended idle
    obtain ⟨_, stops⟩ := ended.exists_stops keeps idle 0
    obtain ⟨after, stopsHere⟩ := stops.again pure madeThere made 0
    exact ⟨after, Grammar.ends_nonEmpty_of_stops foundItems found keeps stopsHere⟩

def groupedItemsOrFailure : Grammar Nat :=
  (Builder.nonEmptyRepetition ⟨7⟩).leaves groupedItems

theorem groupedItemsOrFailure_each {property : Transform Nat → Prop}
    (digit : property digitPayload)
    (require : property fun success => pure (Builder.requireItems success)) (parser : Parser) :
    groupedItemsOrFailure.EachTransform parser property := by
  apply Grammar.EachTransform.of_transforms
  constructor
  · exact digit
  · exact require

theorem groupedItemsOrFailure_versus_sequence :
    Builder.nonEmptyRepetition ⟨7⟩ groupedItems = .ok (⟨12⟩, groupedItemsOrFailure) ∧
    groupedItemsOrFailure.Grows groupedItemsOrFailure ∧
    groupedItemsOrFailure.lookup ⟨8⟩ = .ok (.repetition ⟨7⟩) ∧
    groupedItemsOrFailure.lookup ⟨10⟩ = .ok (.sequence [⟨7⟩, ⟨8⟩]) ∧
    groupedItemsOrFailure.EachTransform ⟨7⟩ (Transform.Pure 0) ∧
    groupedItemsOrFailure.EachTransform ⟨7⟩ Transform.KeepsSuffix ∧
    0 ≤ ({} : Trail).nextSerial ∧ 0 ≤ (⟨10, []⟩ : Trail).nextSerial ∧
    groupedItemsOrFailure.Advances ⟨7⟩ groupedText ⟨10, []⟩ ∧
    (∃ first others after, Value.list groupedValues = .list (first :: others) ∧
      groupedItemsOrFailure.Ends .noProgress ⟨10⟩ groupedText {}
        (.ok ⟨.list [first, .list others], ['x']⟩) after) ∧
    ¬ groupedItemsOrFailure.Advances ⟨7⟩ ['x', 'λ'] ⟨10, []⟩ ∧
    ∃ after, groupedItemsOrFailure.Ends .noProgress ⟨12⟩ ['x', 'λ'] {}
      (.error (.unexpected 'x')) after := by
  have built : Builder.nonEmptyRepetition ⟨7⟩ groupedItems = .ok (⟨12⟩, groupedItemsOrFailure) :=
    rfl
  have pure := groupedItemsOrFailure_each digitPayload_pure (Builder.requireItems_pure 0) ⟨7⟩
  have keeps := groupedItemsOrFailure_each digitPayload_keepsSuffix
    Builder.requireItems_keepsSuffix ⟨7⟩
  have grows := Grammar.Grows.refl groupedItemsOrFailure
  have foundMany : groupedItemsOrFailure.lookup ⟨8⟩ = .ok (.repetition ⟨7⟩) := rfl
  have foundPair : groupedItemsOrFailure.lookup ⟨10⟩ = .ok (.sequence [⟨7⟩, ⟨8⟩]) := rfl
  have laws := fun input => nonEmptyRepetition_versus_sequence built grows foundMany foundPair pure
    keeps input {} ⟨10, []⟩ (Nat.zero_le _) (Nat.zero_le _)
  have ended : groupedItemsOrFailure.Ends .noProgress ⟨12⟩ groupedText {}
      (.ok ⟨.list groupedValues, ['x']⟩) ⟨2, [⟨⟨7⟩, 3⟩, ⟨⟨7⟩, 1⟩]⟩ := ⟨13, rfl⟩
  obtain ⟨succeeds, pairs, _⟩ := (laws groupedText).1 _ _ ended
  obtain ⟨first, others, after, values, endsPair, _⟩ := pairs _ _ rfl
  have still : groupedItemsOrFailure.Ends .noProgress ⟨7⟩ ['x', 'λ'] ⟨10, []⟩
      (.ok ⟨.text [], ['x', 'λ']⟩) ⟨10, []⟩ := ⟨9, rfl⟩
  have idle := (Grammar.Stops.standstill still : groupedItemsOrFailure.Stops _ 0 _ _ _).not_advances
  exact ⟨built, grows, foundMany, foundPair, pure, keeps, Nat.zero_le _, Nat.zero_le _,
    succeeds.mp ⟨_, rfl⟩, ⟨first, others, after, values, endsPair⟩, idle,
    (laws ['x', 'λ']).2.2.1 _ _ still idle⟩

end GrammarArena
