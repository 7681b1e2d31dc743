import GrammarArena.Proofs.Nullability
import GrammarArena.Proofs.Renaming
import GrammarArena.Proofs.RepetitionChain

/-!
A repetition against the rule that does the same by recursion: an item and then the rule again
through its slot, or else nothing. As long as the item takes something wherever it succeeds, the
two try the same items at the same cursors, and differ only in how they put the values together.
-/

namespace GrammarArena

variable {α : Type}

namespace Value

def nested : List (Value α) → Value α
  | [] => .text []
  | first :: others => .list [first, nested others]

theorem nested_injective : Function.Injective (nested : List (Value α) → Value α) := by
  intro firsts
  induction firsts with
  | nil =>
      intro seconds same
      cases seconds with
      | nil => rfl
      | cons => simp [nested] at same
  | cons first firsts ih =>
      intro seconds same
      cases seconds with
      | nil => simp [nested] at same
      | cons second seconds =>
          simp only [nested, Value.list.injEq, List.cons.injEq, and_true] at same
          rw [same.1, ih same.2]

theorem nested_alike {paired : Pairing} {firsts seconds : List (Value α)}
    (alike : AlikeAll paired firsts seconds) :
    Alike paired (nested firsts) (nested seconds) := by
  rw [alikeAll_iff] at alike
  induction alike with
  | nil => rfl
  | cons head _ ih => exact ⟨head, ih, trivial⟩

end Value

namespace Grammar

/-- The rule tries the item and then itself, by way of the slot it is bound to, or else takes
nothing. -/
structure RightRecursive (grammar : Grammar α) (slot : Slot) (rule inner : Parser) : Prop where
  bound : grammar.resolve slot = .ok (some rule)
  choice : ∃ step again stop, grammar.lookup rule = .ok (.branch [step, stop]) ∧
    grammar.lookup step = .ok (.sequence [inner, again]) ∧
    grammar.lookup again = .ok (.reference slot) ∧ grammar.lookup stop = .ok (.string [])

def AlwaysTakes (grammar : Grammar α) (known : Nat) (parser : Parser) (input : Text) : Prop :=
  ∀ cursor, cursor <:+ input → ∀ trail : Trail, known ≤ trail.nextSerial → ∀ value later,
    ¬ grammar.Ends .noProgress parser cursor trail (.ok ⟨value, cursor⟩) later

variable {grammar : Grammar α} {slot : Slot} {rule inner : Parser} {cursor : Text}
  {trail later : Trail} {reply : Reply α}

theorem AlwaysTakes.of_trail {known : Nat} {input : Text}
    (pure : grammar.EachTransform inner (Transform.Pure known)) (made : known ≤ trail.nextSerial)
    (takes : ∀ cursor, cursor <:+ input → ∀ value later,
      ¬ grammar.Ends .noProgress inner cursor trail (.ok ⟨value, cursor⟩) later) :
    grammar.AlwaysTakes known inner input := by
  intro cursor suffix start madeAgain value later ended
  obtain ⟨other, after, again, _⟩ := ended.success_again pure madeAgain made
  exact takes cursor suffix other after again

theorem AlwaysTakes.of_suffix {known : Nat} {input : Text}
    (takes : grammar.AlwaysTakes known inner input) (suffix : cursor <:+ input) :
    grammar.AlwaysTakes known inner cursor := by
  intro place below
  exact takes place (below.trans suffix)

theorem AlwaysTakes.length_lt {known : Nat} (takes : grammar.AlwaysTakes known inner cursor)
    (keeps : grammar.EachTransform inner Transform.KeepsSuffix) (made : known ≤ trail.nextSerial)
    {success : Success α}
    (ended : grammar.Ends .noProgress inner cursor trail (.ok success) later) :
    success.rest.length < cursor.length := by
  obtain ⟨value, rest⟩ := success
  rcases ended.rest_eq_or_shorter keeps with rfl | shorter
  · exact (takes rest (List.suffix_refl rest) trail made value later ended).elim
  · exact shorter

theorem AlwaysTakes.ends_repetition_iff {known : Nat} {repeated : Parser}
    (takes : grammar.AlwaysTakes known inner cursor)
    (found : grammar.lookup repeated = .ok (.repetition inner))
    (pure : grammar.EachTransform inner (Transform.Pure known))
    (keeps : grammar.EachTransform inner Transform.KeepsSuffix) (made : known ≤ trail.nextSerial) :
    grammar.Ends .noProgress repeated cursor trail reply later ↔
      ∃ links rest middle failure, grammar.Chain inner cursor trail links rest middle ∧
        grammar.Ends .noProgress inner rest middle (.error failure) later ∧
        reply = .ok ⟨.list (links.map Success.value), rest⟩ := by
  rw [Grammar.ends_repetition_iff found keeps]
  constructor
  · rintro ⟨links, rest, middle, chain, stops, same⟩
    cases stops with
    | failure failed => exact ⟨links, rest, middle, _, chain, failed, same⟩
    | standstill still =>
        have madeThere := chain.known_le pure made
        exact (takes rest chain.rest_suffix middle madeThere _ _ still).elim
  · rintro ⟨links, rest, middle, _, chain, failed, same⟩
    exact ⟨links, rest, middle, chain, .failure failed, same⟩

section Unrolled

variable {step again stop : Parser}

theorem replies_stop_iff (foundStop : grammar.lookup stop = .ok (.string [])) {last : Failure} :
    Replies grammar .noProgress (.branch last cursor [stop]) trail reply later ↔
      reply = .ok ⟨.text [], cursor⟩ ∧ later = trail := by
  constructor
  · intro run
    rcases Replies.branch_cons_iff.mp run with ⟨_, stopped, same⟩ | ⟨_, _, failed, _⟩
    · obtain ⟨own, rfl⟩ := (Replies.own_iff foundStop rfl).mp stopped
      exact ⟨same.trans own, rfl⟩
    · cases ((Replies.own_iff foundStop rfl).mp failed).1
  · rintro ⟨rfl, rfl⟩
    exact .branchSuccess ((Replies.own_iff foundStop rfl).mpr ⟨rfl, rfl⟩)

variable (bound : grammar.resolve slot = .ok (some rule))
  (foundAgain : grammar.lookup again = .ok (.reference slot))
  (foundStep : grammar.lookup step = .ok (.sequence [inner, again]))

include bound foundAgain foundStep

theorem replies_step_failure_iff {failure : Failure} :
    Replies grammar .noProgress (.attempt step cursor) trail (.error failure) later ↔
      Replies grammar .noProgress (.attempt inner cursor) trail (.error failure) later ∨
      ∃ first middle, Replies grammar .noProgress (.attempt inner cursor) trail (.ok first) middle ∧
        Replies grammar .noProgress (.attempt rule first.rest) middle (.error failure) later := by
  simp [Replies.loop_iff foundStep rfl, Replies.sequence_cons_iff, Replies.sequence_nil_iff,
    Replies.reference_iff foundAgain bound]

theorem replies_step_success_iff {success : Success α} :
    Replies grammar .noProgress (.attempt step cursor) trail (.ok success) later ↔
      ∃ first middle others,
        Replies grammar .noProgress (.attempt inner cursor) trail (.ok first) middle ∧
        Replies grammar .noProgress (.attempt rule first.rest) middle (.ok others) later ∧
        success = ⟨.list [first.value, others.value], others.rest⟩ := by
  simp [Replies.loop_iff foundStep rfl, Replies.sequence_cons_iff, Replies.sequence_nil_iff,
    Replies.reference_iff foundAgain bound]

end Unrolled

namespace RightRecursive

variable (recurs : grammar.RightRecursive slot rule inner)

include recurs

theorem succeeds (ended : grammar.Ends .noProgress rule cursor trail reply later) :
    ∃ success, reply = .ok success := by
  obtain ⟨step, again, stop, foundRule, _, _, foundStop⟩ := recurs.choice
  have run := (Replies.loop_iff foundRule rfl).mp (ends_iff_replies.mp ended)
  rcases Replies.branch_cons_iff.mp run with ⟨success, _, same⟩ | ⟨_, _, _, stopped⟩
  · exact ⟨success, same⟩
  · exact ⟨_, ((replies_stop_iff foundStop).mp stopped).1⟩

/-- The rule unrolled once. What comes after an item is the rule itself, which does not fail, so
an item that succeeds is never given up for nothing. -/
theorem ends_iff :
    grammar.Ends .noProgress rule cursor trail reply later ↔
      (∃ failure, grammar.Ends .noProgress inner cursor trail (.error failure) later ∧
        reply = .ok ⟨.text [], cursor⟩) ∨
      ∃ first middle others, grammar.Ends .noProgress inner cursor trail (.ok first) middle ∧
        grammar.Ends .noProgress rule first.rest middle (.ok others) later ∧
        reply = .ok ⟨.list [first.value, others.value], others.rest⟩ := by
  obtain ⟨step, again, stop, foundRule, foundStep, foundAgain, foundStop⟩ := recurs.choice
  rw [ends_iff_replies, Replies.loop_iff foundRule rfl, Replies.branch_cons_iff]
  simp only [ends_iff_replies, replies_stop_iff foundStop,
    replies_step_failure_iff recurs.bound foundAgain foundStep,
    replies_step_success_iff recurs.bound foundAgain foundStep]
  constructor
  · rintro (⟨_, ⟨first, middle, others, item, next, rfl⟩, rfl⟩ |
      ⟨failure, _, failed | ⟨_, _, _, failed⟩, rfl, rfl⟩)
    · exact Or.inr ⟨first, middle, others, item, next, rfl⟩
    · exact Or.inl ⟨failure, failed, rfl⟩
    · -- An item succeeded and the rule failed behind it, which it never does.
      obtain ⟨_, same⟩ := recurs.succeeds (ends_iff_replies.mpr failed)
      cases same
  · rintro (⟨failure, failed, rfl⟩ | ⟨first, middle, others, item, next, rfl⟩)
    · exact Or.inr ⟨failure, later, Or.inl failed, rfl, rfl⟩
    · exact Or.inl ⟨_, ⟨first, middle, others, item, next, rfl⟩, rfl⟩

theorem ends_of_chain {links : List (Success α)} {rest : Text} {middle : Trail}
    (chain : grammar.Chain inner cursor trail links rest middle) {failure : Failure}
    (failed : grammar.Ends .noProgress inner rest middle (.error failure) later) :
    grammar.Ends .noProgress rule cursor trail
      (.ok ⟨.nested (links.map Success.value), rest⟩) later := by
  induction chain with
  | done => exact recurs.ends_iff.mpr (Or.inl ⟨failure, failed, rfl⟩)
  | link first _ _ _ ih =>
      exact recurs.ends_iff.mpr (Or.inr ⟨_, _, _, first, ih failed, rfl⟩)

theorem exists_chain (keeps : grammar.EachTransform inner Transform.KeepsSuffix) {known : Nat}
    (pure : grammar.EachTransform inner (Transform.Pure known))
    (takes : grammar.AlwaysTakes known inner cursor) (made : known ≤ trail.nextSerial)
    (ended : grammar.Ends .noProgress rule cursor trail reply later) :
    ∃ links rest middle failure, grammar.Chain inner cursor trail links rest middle ∧
      grammar.Ends .noProgress inner rest middle (.error failure) later ∧
      reply = .ok ⟨.nested (links.map Success.value), rest⟩ := by
  generalize bound : cursor.length = length
  -- The rule calls itself at the rest of an item, which is shorter since the item took something.
  induction length using Nat.strongRecOn generalizing cursor trail reply with
  | ind length ih =>
      rcases recurs.ends_iff.mp ended with ⟨failure, failed, rfl⟩ |
        ⟨first, middle, others, item, next, rfl⟩
      · exact ⟨[], cursor, trail, failure, .done, failed, rfl⟩
      · have suffix := item.rest_suffix keeps
        have shorter := takes.length_lt keeps made item
        obtain ⟨links, rest, last, failure, chain, failed, same⟩ :=
          ih first.rest.length (by omega) (takes.of_suffix suffix) (item.known_le pure made) next
            rfl
        cases same
        exact ⟨first :: links, rest, last, failure, .link item suffix shorter chain, failed, rfl⟩

theorem list_iff_nested {known : Nat} {repeated : Parser}
    (found : grammar.lookup repeated = .ok (.repetition inner))
    (pure : grammar.EachTransform inner (Transform.Pure known))
    (keeps : grammar.EachTransform inner Transform.KeepsSuffix)
    (takes : grammar.AlwaysTakes known inner cursor) (made : known ≤ trail.nextSerial)
    (values : List (Value α)) (rest : Text) :
    grammar.Ends .noProgress repeated cursor trail (.ok ⟨.list values, rest⟩) later ↔
      grammar.Ends .noProgress rule cursor trail (.ok ⟨.nested values, rest⟩) later := by
  rw [takes.ends_repetition_iff found pure keeps made]
  constructor
  · rintro ⟨links, _, middle, failure, chain, failed, same⟩
    cases same
    exact recurs.ends_of_chain chain failed
  · intro ended
    obtain ⟨links, _, middle, failure, chain, failed, same⟩ :=
      recurs.exists_chain keeps pure takes made ended
    simp only [Except.ok.injEq, Success.mk.injEq, Value.nested_injective.eq_iff] at same
    obtain ⟨rfl, rfl⟩ := same
    exact ⟨links, rest, middle, failure, chain, failed, rfl⟩

end RightRecursive

end Grammar

/-- If the item takes something wherever in the input it succeeds, then the repetition and the rule
that recurs through its slot end alike: with the same items, the one in a list and the other nested
in each other, and at the same rest. Neither of them ever fails. -/
theorem repetition_versus_recursion {grammar : Grammar α} {slot : Slot}
    {rule repeated inner : Parser} {known : Nat}
    (recurs : grammar.RightRecursive slot rule inner)
    (found : grammar.lookup repeated = .ok (.repetition inner))
    (pure : grammar.EachTransform inner (Transform.Pure known))
    (keeps : grammar.EachTransform inner Transform.KeepsSuffix) (input : Text) (trail : Trail)
    (made : known ≤ trail.nextSerial)
    (takes : ∀ cursor, cursor <:+ input → ∀ value later,
      ¬ grammar.Ends .noProgress inner cursor trail (.ok ⟨value, cursor⟩) later) :
    (∀ values rest later,
      grammar.Ends .noProgress repeated input trail (.ok ⟨.list values, rest⟩) later ↔
        grammar.Ends .noProgress rule input trail (.ok ⟨.nested values, rest⟩) later) ∧
    (∀ reply later, grammar.Ends .noProgress repeated input trail reply later →
      ∃ values rest, reply = .ok ⟨.list values, rest⟩) ∧
    (∀ reply later, grammar.Ends .noProgress rule input trail reply later →
      ∃ values rest, reply = .ok ⟨.nested values, rest⟩) ∧
    ∀ values rest later,
      grammar.Ends .noProgress repeated input trail (.ok ⟨.list values, rest⟩) later →
      ∀ start : Trail, known ≤ start.nextSerial →
        grammar.EndsAlike .noProgress known repeated input start (.ok ⟨.list values, rest⟩) later ∧
        grammar.EndsAlike .noProgress known rule input start (.ok ⟨.nested values, rest⟩)
          later := by
  have always := Grammar.AlwaysTakes.of_trail pure made takes
  have pureRepeated := Grammar.EachTransform.of_repetition found pure
  refine ⟨?_, ?_, ?_, ?_⟩
  · intro values rest later
    exact recurs.list_iff_nested found pure keeps always made values rest
  · intro reply later ended
    obtain ⟨links, rest, _, _, _, _, same⟩ :=
      (always.ends_repetition_iff found pure keeps made).mp ended
    exact ⟨links.map Success.value, rest, same⟩
  · intro reply later ended
    obtain ⟨links, rest, _, _, _, _, same⟩ := recurs.exists_chain keeps pure always made ended
    exact ⟨links.map Success.value, rest, same⟩
  · intro values rest later ended start madeAgain
    have alike := ended.endsAlike pureRepeated made madeAgain
    refine ⟨alike, ?_⟩
    obtain ⟨paired, answer, finish, again, fits, sameReply⟩ := alike
    obtain ⟨links, goal, _, _, _, _, rfl⟩ :=
      (always.ends_repetition_iff found pure keeps madeAgain).mp again
    have nested := (recurs.list_iff_nested found pure keeps always madeAgain _ goal).mp again
    exact ⟨paired, _, finish, nested, fits, Value.nested_alike sameReply.1, sameReply.2⟩

def recurringItems : Grammar Nat where
  nodes := #[.satisfy Char.isDigit, .map ⟨0⟩ digitPayload, .char '(', .reference ⟨0⟩, .char ')',
    .sequence [⟨2⟩, ⟨3⟩, ⟨4⟩], .branch [⟨5⟩, ⟨1⟩], .sequence [⟨6⟩, ⟨3⟩], .string [],
    .branch [⟨7⟩, ⟨8⟩], .repetition ⟨6⟩]
  slots := #[some ⟨9⟩]

theorem recurringItems_rightRecursive : recurringItems.RightRecursive ⟨0⟩ ⟨9⟩ ⟨6⟩ where
  bound := rfl
  choice := ⟨⟨7⟩, ⟨3⟩, ⟨8⟩, rfl, rfl, rfl, rfl⟩

theorem recurringItems_each {property : Transform Nat → Prop} (holds : property digitPayload)
    (parser : Parser) : recurringItems.EachTransform parser property := by
  apply Grammar.EachTransform.of_transforms
  exact holds

theorem recurringItems_not_nullable : ¬ recurringItems.Nullable ⟨6⟩ := by
  have foundItem : recurringItems.lookup ⟨6⟩ = .ok (.branch [⟨5⟩, ⟨1⟩]) := rfl
  have foundGroup : recurringItems.lookup ⟨5⟩ = .ok (.sequence [⟨2⟩, ⟨3⟩, ⟨4⟩]) := rfl
  have foundOpening : recurringItems.lookup ⟨2⟩ = .ok (.char '(') := rfl
  have foundPayload : recurringItems.lookup ⟨1⟩ = .ok (.map ⟨0⟩ digitPayload) := rfl
  have foundDigit : recurringItems.lookup ⟨0⟩ = .ok (.satisfy Char.isDigit) := rfl
  simp [Grammar.nullable_iff foundItem, Grammar.nullable_iff foundGroup,
    Grammar.nullable_iff foundOpening, Grammar.nullable_iff foundPayload,
    Grammar.nullable_iff foundDigit, Grammar.NullableNode]

theorem recurringItems_versus_recursion :
    recurringItems.RightRecursive ⟨0⟩ ⟨9⟩ ⟨6⟩ ∧
    recurringItems.lookup ⟨10⟩ = .ok (.repetition ⟨6⟩) ∧
    recurringItems.EachTransform ⟨6⟩ (Transform.Pure 0) ∧
    recurringItems.EachTransform ⟨6⟩ Transform.KeepsSuffix ∧ 0 ≤ ({} : Trail).nextSerial ∧
    (∀ cursor, cursor <:+ ['(', '7', ')', '4', 'x'] → ∀ value later,
      ¬ recurringItems.Ends .noProgress ⟨6⟩ cursor {} (.ok ⟨value, cursor⟩) later) ∧
    recurringItems.Ends .noProgress ⟨9⟩ ['(', '7', ')', '4', 'x'] {}
      (.ok ⟨.nested [.list [.char '(', .nested [.custom 0 55], .char ')'], .custom 1 52], ['x']⟩)
      ⟨2, []⟩ := by
  have pure := recurringItems_each digitPayload_pure ⟨6⟩
  have keeps := recurringItems_each digitPayload_keepsSuffix ⟨6⟩
  have found : recurringItems.lookup ⟨10⟩ = .ok (.repetition ⟨6⟩) := rfl
  have takes : ∀ cursor, cursor <:+ ['(', '7', ')', '4', 'x'] → ∀ value later,
      ¬ recurringItems.Ends .noProgress ⟨6⟩ cursor {} (.ok ⟨value, cursor⟩) later :=
    fun _ _ _ _ ended => recurringItems_not_nullable (ended.nullable keeps)
  have repeated : recurringItems.Ends .noProgress ⟨10⟩ ['(', '7', ')', '4', 'x'] {}
      (.ok ⟨.list [.list [.char '(', .nested [.custom 0 55], .char ')'], .custom 1 52], ['x']⟩)
      ⟨2, []⟩ := ⟨16, rfl⟩
  obtain ⟨same, _⟩ := repetition_versus_recursion recurringItems_rightRecursive found pure keeps
    ['(', '7', ')', '4', 'x'] {} (Nat.zero_le _) takes
  exact ⟨recurringItems_rightRecursive, found, pure, keeps, Nat.zero_le _, takes,
    (same _ _ _).mp repeated⟩

end GrammarArena
