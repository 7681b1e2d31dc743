import GrammarArena.Proofs.DisplayedValues
import GrammarArena.Proofs.PayloadStore

/-!
Equality of values. Values are equal if they are the same but for what their payloads hold, and this
is all that can be seen of a value without looking into its payloads. Those are each in its place in
the store, so that what equal values hold is equal as well.
-/

namespace GrammarArena

variable {α : Type}

namespace Value

mutual

def bare : Value α → Value Unit
  | .char value => .char value
  | .text value => .text value
  | .list items => .list (bareAll items)
  | .int value => .int value
  | .custom serial _ => .custom serial ()

def bareAll : List (Value α) → List (Value Unit)
  | [] => []
  | item :: items => bare item :: bareAll items

end

mutual

def copy : Value α → Value α
  | .char value => .char value
  | .text value => .text value
  | .list items => .list (copyAll items)
  | .int value => .int value
  | .custom serial content => .custom serial content

def copyAll : List (Value α) → List (Value α)
  | [] => []
  | item :: items => copy item :: copyAll items

end

mutual

theorem copy_eq : ∀ value : Value α, value.copy = value
  | .char _ | .text _ | .int _ | .custom _ _ => rfl
  | .list items => congrArg list (copyAll_eq items)

theorem copyAll_eq : ∀ items : List (Value α), copyAll items = items
  | [] => rfl
  | item :: items => congrArg₂ List.cons (copy_eq item) (copyAll_eq items)

end

mutual

theorem same_iff_bare : ∀ first second : Value α,
    first.same second = true ↔ first.bare = second.bare
  | .char _, second | .text _, second | .int _, second | .custom _ _, second => by
      cases second <;> simp [same, bare]
  | .list items, second => by
      cases second with
      | list others => simp [same, bare, sameAll_iff_bareAll items others]
      | _ => simp [same, bare]

theorem sameAll_iff_bareAll : ∀ firsts seconds : List (Value α),
    sameAll firsts seconds = true ↔ bareAll firsts = bareAll seconds
  | [], seconds => by cases seconds <;> simp [sameAll, bareAll]
  | first :: firsts, seconds => by
      cases seconds with
      | nil => simp [sameAll, bareAll]
      | cons second seconds =>
          simp [sameAll, bareAll, same_iff_bare first second, sameAll_iff_bareAll firsts seconds]

end

section Texts

variable [Text.Unprintables]

mutual

theorem display_bare : ∀ value : Value α, value.bare.display = value.display
  | .char _ | .text _ | .int _ | .custom _ _ => rfl
  | .list items => by
      rw [bare, display_list, display_list, ← displayAll_eq_map, ← displayAll_eq_map,
        displayAll_bareAll items]

theorem displayAll_bareAll : ∀ items : List (Value α), displayAll (bareAll items) = displayAll items
  | [] => rfl
  | item :: items => congrArg₂ List.cons (display_bare item) (displayAll_bareAll items)

end

mutual

theorem outline_bare : ∀ value : Value α, value.bare.outline = value.outline
  | .char _ | .text _ | .int _ | .custom _ _ => rfl
  | .list items => by simp only [bare, outline, outlineAll_bareAll items]

theorem outlineAll_bareAll : ∀ items : List (Value α), outlineAll (bareAll items) = outlineAll items
  | [] => rfl
  | item :: items => congrArg₂ List.cons (outline_bare item) (outlineAll_bareAll items)

end

end Texts

theorem same_equivalence : Equivalence fun first second : Value α => first.same second = true := by
  simp only [same_iff_bare]
  exact eq_equivalence.comap bare

mutual

theorem eq_of_same {store : List α} : ∀ {first second : Value α}, first.StoredIn store →
    second.StoredIn store → first.same second = true → first = second
  | .char _, second, _, _, same | .text _, second, _, _, same | .int _, second, _, _, same => by
      cases second <;> simp_all [Value.same]
  | .list items, second, stored, storedSecond, same => by
      cases second with
      | list others => exact congrArg list (eq_of_sameAll stored storedSecond same)
      | _ => simp [Value.same] at same
  | .custom serial content, second, stored, storedSecond, same => by
      cases second with
      | custom other held =>
          obtain rfl : serial = other := by simpa [Value.same] using same
          exact congrArg (custom serial) (Option.some.inj (stored.symm.trans storedSecond))
      | _ => simp [Value.same] at same

theorem eq_of_sameAll {store : List α} : ∀ {firsts seconds : List (Value α)},
    AllStoredIn store firsts → AllStoredIn store seconds → sameAll firsts seconds = true →
    firsts = seconds
  | [], seconds, _, _, same => by
      cases seconds with
      | nil => rfl
      | cons => simp [sameAll] at same
  | first :: firsts, seconds, stored, storedSeconds, same => by
      cases seconds with
      | nil => simp [sameAll] at same
      | cons second seconds =>
          rw [sameAll, Bool.and_eq_true] at same
          exact congrArg₂ List.cons (eq_of_same stored.1 storedSeconds.1 same.1)
            (eq_of_sameAll stored.2 storedSeconds.2 same.2)

end

theorem forall₂_of_sameAll : ∀ {firsts seconds : List (Value α)}, sameAll firsts seconds = true →
    List.Forall₂ (fun first second => first.same second = true) firsts seconds
  | [], [], _ => .nil
  | _ :: _, _ :: _, same => by
      rw [sameAll, Bool.and_eq_true] at same
      exact .cons same.1 (forall₂_of_sameAll same.2)

/-- Whoever asks either value for its text, its description or its parts gets the same answer, and
the items of lists are the same one by one. -/
structure LooksLike [Text.Unprintables] (first second : Value α) : Prop where
  display : first.display = second.display
  outline : first.outline = second.outline
  char : first.char? = second.char?
  text : first.text? = second.text?
  int : first.int? = second.int?
  list : Option.Rel (List.Forall₂ fun item other => item.same other = true)
    first.list? second.list?

theorem looksLike_of_same [Text.Unprintables] {first second : Value α}
    (same : first.same second = true) : first.LooksLike second := by
  have sameBare := (same_iff_bare first second).mp same
  have display : first.display = second.display := by
    rw [← display_bare, sameBare, display_bare]
  have outline : first.outline = second.outline := by
    rw [← outline_bare, sameBare, outline_bare]
  -- What is left to compare are the parts, and values of different kinds are not equal.
  cases first <;> cases second <;> try contradiction
  case list.list items others =>
    exact ⟨display, outline, rfl, rfl, rfl, .some (forall₂_of_sameAll same)⟩
  case custom.custom => exact ⟨display, outline, rfl, rfl, rfl, .none⟩
  all_goals
    cases sameBare
    exact ⟨rfl, rfl, rfl, rfl, rfl, .none⟩

end Value

namespace Reply

def bare : Reply α → Reply Unit
  | .ok success => .ok ⟨success.value.bare, success.rest⟩
  | .error failure => .error failure

def copy : Reply α → Reply α
  | .ok success => .ok ⟨success.value.copy, success.rest⟩
  | .error failure => .error failure

theorem same_iff_bare (first second : Reply α) :
    first.same second = true ↔ first.bare = second.bare := by
  cases first <;> cases second <;> simp [same, Success.same, bare, Value.same_iff_bare]

theorem copy_eq (reply : Reply α) : reply.copy = reply := by
  cases reply with
  | ok success => rw [copy, Value.copy_eq]
  | error => rfl

theorem same_equivalence : Equivalence fun first second : Reply α => first.same second = true := by
  simp only [same_iff_bare]
  exact eq_equivalence.comap bare

end Reply

/-- Equality is an equivalence, under which a value can be replaced whatever is asked of it. What a
payload holds is the same as well, as all values there are at a time are in one store: there new
payloads go, and what parsers reply is there once they were run. -/
theorem equality_respects_observers [Text.Unprintables] (α : Type) :
    (Equivalence fun first second : Value α => first.same second = true) ∧
    (∀ value : Value α, value.same value.copy = true) ∧
    (∀ first second : Value α, first.same second = true → first.LooksLike second) ∧
    (∀ (store : List α) (first second : Value α), first.StoredIn store → second.StoredIn store →
      first.same second = true → first.content? = second.content?) ∧
    (∀ (store : List α) (content : α),
      (Value.fresh content store.length).1.StoredIn (store ++ [content]) ∧
        (Value.fresh content store.length).2 = (store ++ [content]).length) ∧
    (∀ (grammar : Grammar α) (parser : Parser) (known store : List α) (input : Text)
        (trail later : Trail) (reply : Reply α),
      grammar.EachTransform parser (Transform.Stores known) → known <+: store →
      trail.nextSerial = store.length → grammar.run parser input trail = .ok (reply, later) →
      ∃ after, store <+: after ∧ later.nextSerial = after.length ∧ reply.StoredIn after ∧
        ∀ value : Value α, value.StoredIn store → value.StoredIn after) ∧
    (Equivalence fun first second : Reply α => first.same second = true) ∧
    ∀ reply : Reply α, reply.same reply.copy = true := by
  refine ⟨Value.same_equivalence, ?_, fun _ _ => Value.looksLike_of_same, ?_,
    Value.fresh_storedIn, ?_, Reply.same_equivalence, ?_⟩
  · intro value
    rw [value.copy_eq, value.same_refl]
  · intro store first second stored storedSecond same
    rw [Value.eq_of_same stored storedSecond same]
  · intro grammar parser known store input trail later reply stores extended next ran
    obtain ⟨after, grows, nextAfter, stored⟩ :=
      (Grammar.runEnds_of_run ran).madeFrom stores extended next
    exact ⟨after, grows, nextAfter, stored, fun _ old => old.mono grows⟩
  · intro reply
    rw [reply.copy_eq]
    exact Reply.same_equivalence.refl reply

def markedPlus : Grammar Op :=
  ({} : Grammar Op).build
    [.char '+', .map ⟨0⟩ (Brainfuck.instruction .plus), .nonEmptyRepetition ⟨1⟩]

theorem markedPlus_equality_respects_observers :
    markedPlus.EachTransform ⟨3⟩ (Transform.Stores []) ∧
    markedPlus.run ⟨3⟩ ['+', '+'] {} =
      .ok (.ok ⟨.list [.custom 0 .plus, .custom 1 .plus], []⟩, ⟨2, []⟩) ∧
    (∃ store : List Op, store.length = 2 ∧
      Value.StoredIn store (.list [.custom 0 .plus, .custom 1 .plus])) ∧
    (.custom 0 .plus : Value Op).same (.custom 1 .plus) = false ∧
    (.list [.custom 0 .plus] : Value Op).same (Value.copy (.list [.custom 0 .plus])) = true := by
  obtain ⟨_, copies, _, _, _, runs, _⟩ := equality_respects_observers Op
  have stores : markedPlus.EachTransform ⟨3⟩ (Transform.Stores []) := by
    apply Grammar.EachTransform.of_transforms
    exact ⟨Transform.stores_of_fresh [] fun _ => Op.plus,
      Transform.stores_of_kept [] fun _ => Reply.requireItems_storedIn⟩
  have ran : markedPlus.run ⟨3⟩ ['+', '+'] {} =
      .ok (.ok ⟨.list [.custom 0 .plus, .custom 1 .plus], []⟩, ⟨2, []⟩) := rfl
  obtain ⟨store, _, next, stored, _⟩ := runs _ _ _ _ _ _ _ _ stores (List.prefix_refl []) rfl ran
  exact ⟨stores, ran, ⟨store, next.symm, stored⟩, by simp [Value.same], copies _⟩

end GrammarArena
