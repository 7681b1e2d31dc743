import GrammarArena.Grammar.Builder
import GrammarArena.Proofs.Payloads

/-!
What payloads hold, by their serial numbers. Payloads are made one after the other, so that all that
were ever made fit in one store, a list in which each stands at its number; and whatever a parser
replies is a copy of what is in the store by then.
-/

namespace GrammarArena

variable {α : Type}

namespace Value

mutual

/-- Each payload in the value holds what the store has under its serial number. -/
def StoredIn (store : List α) : Value α → Prop
  | .list items => AllStoredIn store items
  | .custom serial content => store[serial]? = some content
  | _ => True

def AllStoredIn (store : List α) : List (Value α) → Prop
  | [] => True
  | item :: items => StoredIn store item ∧ AllStoredIn store items

end

variable {store later : List α}

theorem allStoredIn_iff {items : List (Value α)} :
    AllStoredIn store items ↔ ∀ item ∈ items, item.StoredIn store := by
  induction items with
  | nil => simp [AllStoredIn]
  | cons item items ih => simp [AllStoredIn, ih]

mutual

theorem StoredIn.mono (extended : store <+: later) :
    ∀ {value : Value α}, value.StoredIn store → value.StoredIn later
  | .char _, _ | .text _, _ | .int _, _ => trivial
  | .list _, stored => AllStoredIn.mono extended stored
  | .custom _ _, stored => by
      obtain ⟨inBounds, _⟩ := List.getElem?_eq_some_iff.mp stored
      obtain ⟨more, rfl⟩ := extended
      exact (List.getElem?_append_left inBounds).trans stored

theorem AllStoredIn.mono (extended : store <+: later) :
    ∀ {items : List (Value α)}, AllStoredIn store items → AllStoredIn later items
  | [], _ => trivial
  | _ :: _, stored => ⟨StoredIn.mono extended stored.1, AllStoredIn.mono extended stored.2⟩

end

mutual

theorem storedIn_of_serials (store : List α) :
    ∀ {value : Value α}, value.serials = [] → value.StoredIn store
  | .char _, _ | .text _, _ | .int _, _ => trivial
  | .list _, nothing => allStoredIn_of_serials store nothing
  | .custom _ _, nothing => by cases nothing

theorem allStoredIn_of_serials (store : List α) :
    ∀ {items : List (Value α)}, serialsAll items = [] → AllStoredIn store items
  | [], _ => trivial
  | _ :: _, nothing =>
      have each := List.append_eq_nil_iff.mp nothing
      ⟨storedIn_of_serials store each.1, allStoredIn_of_serials store each.2⟩

end

theorem fresh_storedIn (store : List α) (content : α) :
    (fresh content store.length).1.StoredIn (store ++ [content]) ∧
      (fresh content store.length).2 = (store ++ [content]).length := by
  refine ⟨List.getElem?_concat_length, ?_⟩
  rw [List.length_append]
  rfl

end Value

namespace Reply

def StoredIn (store : List α) : Reply α → Prop
  | .ok success => success.value.StoredIn store
  | .error _ => True

theorem storedIn_of_serials (store : List α) {reply : Reply α} (nothing : reply.serials = []) :
    reply.StoredIn store := by
  cases reply with
  | error => trivial
  | ok success => exact Value.storedIn_of_serials store nothing

theorem storedIn_list {store : List α} {values : List (Value α)}
    (gathered : Value.AllStoredIn store values) (cursor : Text) :
    Reply.StoredIn store (.ok ⟨.list values.reverse, cursor⟩) := by
  refine Value.allStoredIn_iff.mpr ?_
  intro item member
  exact Value.allStoredIn_iff.mp gathered item (List.mem_reverse.mp member)

theorem requireItems_storedIn {store : List α} {success : Success α}
    (stored : success.value.StoredIn store) : StoredIn store (Builder.requireItems success) := by
  rw [Builder.requireItems]
  split
  · trivial
  · exact stored

end Reply

def Reply.MadeFrom (store : List α) (nextSerial : Nat) (reply : Reply α) : Prop :=
  ∃ later, store <+: later ∧ nextSerial = later.length ∧ reply.StoredIn later

namespace Reply.MadeFrom

variable {store middle : List α} {nextSerial : Nat} {reply : Reply α}

theorem of_stored (next : nextSerial = store.length) (stored : reply.StoredIn store) :
    reply.MadeFrom store nextSerial :=
  ⟨store, List.prefix_refl _, next, stored⟩

theorem after (made : reply.MadeFrom middle nextSerial) (grows : store <+: middle) :
    reply.MadeFrom store nextSerial := by
  obtain ⟨later, growsOn, next, stored⟩ := made
  exact ⟨later, grows.trans growsOn, next, stored⟩

end Reply.MadeFrom

/-- The transform may know payloads from before. What it makes besides it adds to the store. -/
def Transform.Stores (known : List α) (transform : Transform α) : Prop :=
  ∀ {store success}, known <+: store → success.value.StoredIn store →
    Reply.MadeFrom store (transform success store.length).2 (transform success store.length).1

theorem Transform.stores_of_fresh (known : List α) (content : Success α → α) :
    Transform.Stores known fun success => do
      let payload ← Value.fresh (content success)
      return .ok (success.withValue payload) := by
  intro store success _ _
  obtain ⟨stored, next⟩ := Value.fresh_storedIn store (content success)
  exact ⟨_, List.prefix_append _ _, next, stored⟩

theorem Transform.stores_of_kept (known : List α) {change : Success α → Reply α}
    (kept : ∀ {store success}, known <+: store → success.value.StoredIn store →
      (change success).StoredIn store) :
    Transform.Stores known fun success => pure (change success) := by
  intro store success extended stored
  exact .of_stored rfl (kept extended stored)

def Task.values : Task α → List (Value α)
  | .sequence values _ _ | .repetition _ values _ => values
  | .attempt _ _ | .branch _ _ _ => []

section Runs

variable {grammar : Grammar α} {guard : Guard} {within : Parser → Prop} {known : List α}

theorem Replies.madeFrom (stores : grammar.Closed within (Transform.Stores known)) {task : Task α}
    {trail later : Trail} {reply : Reply α} (run : Replies grammar guard task trail reply later)
    (inside : task.Within within) {store : List α} (extended : known <+: store)
    (next : trail.nextSerial = store.length) (gathered : Value.AllStoredIn store task.values) :
    reply.MadeFrom store later.nextSerial := by
  -- What was gathered before stays in the store while the rest of the run makes it grow.
  induction run generalizing store with
  | char | satisfy =>
      exact .of_stored next (Reply.storedIn_of_serials _ (Primitive.serials_matchOne _ _))
  | string =>
      exact .of_stored next (Reply.storedIn_of_serials _ (Primitive.serials_matchText _ _))
  | filter | branchEnd => exact .of_stored next trivial
  | sequence found _ ih =>
      exact ih (fun _ member => stores.leads inside (.sequence found member)) extended next trivial
  | branch found _ ih =>
      exact ih (fun _ member => stores.leads inside (.branch found member)) extended next trivial
  | repetition found _ ih =>
      exact ih (stores.leads inside (.repetition found)) extended next trivial
  | reference found resolved _ ih =>
      exact ih (stores.leads inside (.reference found resolved)) extended next trivial
  | mapFailure found _ ih =>
      exact ih (stores.leads inside (.map found)) extended next trivial
  | mapSuccess found _ ih =>
      obtain ⟨middle, grows, nextMiddle, stored⟩ :=
        ih (stores.leads inside (.map found)) extended next trivial
      have made := stores.transforms inside found (extended.trans grows) stored
      rw [← nextMiddle] at made
      exact made.after grows
  | sequenceEnd => exact .of_stored next (Reply.storedIn_list gathered _)
  | sequenceFailure _ ih | branchSuccess _ ih =>
      exact ih (inside _ List.mem_cons_self) extended next trivial
  | sequenceNext _ _ ihFirst ihNext =>
      obtain ⟨middle, grows, nextMiddle, stored⟩ :=
        ihFirst (inside _ List.mem_cons_self) extended next trivial
      have insideOthers := fun child member => inside child (List.mem_cons_of_mem _ member)
      exact (ihNext insideOthers (extended.trans grows) nextMiddle
        ⟨stored, gathered.mono grows⟩).after grows
  | branchNext _ _ ihFirst ihNext =>
      obtain ⟨middle, grows, nextMiddle, _⟩ :=
        ihFirst (inside _ List.mem_cons_self) extended next trivial
      have insideOthers := fun child member => inside child (List.mem_cons_of_mem _ member)
      exact (ihNext insideOthers (extended.trans grows) nextMiddle trivial).after grows
  | repeatFailure _ ih | repeatStall _ _ ih =>
      obtain ⟨middle, grows, nextMiddle, _⟩ := ih inside extended next trivial
      exact ⟨middle, grows, nextMiddle, Reply.storedIn_list (gathered.mono grows) _⟩
  | repeatNext _ _ _ ihFirst ihNext =>
      obtain ⟨middle, grows, nextMiddle, stored⟩ := ihFirst inside extended next trivial
      exact (ihNext inside (extended.trans grows) nextMiddle
        ⟨stored, gathered.mono grows⟩).after grows

end Runs

namespace Grammar

variable {grammar : Grammar α} {guard : Guard} {parser : Parser} {known store : List α}
  {input : Text} {trail later : Trail} {reply : Reply α}

theorem Ends.madeFrom (stores : grammar.EachTransform parser (Transform.Stores known))
    (ended : grammar.Ends guard parser input trail reply later) (extended : known <+: store)
    (next : trail.nextSerial = store.length) : reply.MadeFrom store later.nextSerial :=
  (ends_iff_replies.mp ended).madeFrom stores.closed (grammar.reaches_self parser) extended next
    trivial

theorem requireEnd_storedIn (stored : reply.StoredIn store) :
    (requireEnd reply).StoredIn store := by
  cases reply with
  | error => trivial
  | ok success =>
      rw [requireEnd]
      split
      · exact stored
      · trivial

theorem RunEnds.madeFrom (stores : grammar.EachTransform parser (Transform.Stores known))
    (ended : grammar.RunEnds parser input trail reply later) (extended : known <+: store)
    (next : trail.nextSerial = store.length) : reply.MadeFrom store later.nextSerial := by
  obtain ⟨parsed, ended, rfl⟩ := ended
  obtain ⟨after, grows, nextAfter, stored⟩ := ended.madeFrom stores extended next
  exact ⟨after, grows, nextAfter, requireEnd_storedIn stored⟩

end Grammar

end GrammarArena
