import GrammarArena.Proofs.Renaming

/-!
Which payloads are in a value, by their serial numbers. Values that are alike are the same if their
payloads are; and the payloads of a reply are as recent as the run that made it, where transforms
keep nothing from before.
-/

namespace GrammarArena

variable {α : Type}

namespace Value

mutual

def serials : Value α → List Nat
  | .list items => serialsAll items
  | .custom serial _ => [serial]
  | _ => []

def serialsAll : List (Value α) → List Nat
  | [] => []
  | item :: items => serials item ++ serialsAll items

end

theorem serialsAll_eq_flatMap (items : List (Value α)) :
    serialsAll items = items.flatMap serials := by
  induction items with
  | nil => rfl
  | cons item items ih => simp [serialsAll, ih]

mutual

theorem serials_eq_nil_iff : ∀ value : Value α, value.serials = [] ↔ value.contents = []
  | .char _ | .text _ | .int _ | .custom _ _ => by simp [serials, contents]
  | .list items => serialsAll_eq_nil_iff items

theorem serialsAll_eq_nil_iff : ∀ items : List (Value α),
    serialsAll items = [] ↔ contentsAll items = []
  | [] => by simp [serialsAll, contentsAll]
  | item :: items => by
      simp [serialsAll, contentsAll, serials_eq_nil_iff item, serialsAll_eq_nil_iff items]

end

mutual

theorem Alike.serials {paired : Pairing} : ∀ {first second : Value α}, Alike paired first second →
    List.Forall₂ paired first.serials second.serials
  | .char _, .char _, _ | .text _, .text _, _ | .int _, .int _, _ => .nil
  | .list _, .list _, alike => AlikeAll.serials alike
  | .custom _ _, .custom _ _, alike => .cons alike.1 .nil

theorem AlikeAll.serials {paired : Pairing} : ∀ {firsts seconds : List (Value α)},
    AlikeAll paired firsts seconds → List.Forall₂ paired (serialsAll firsts) (serialsAll seconds)
  | [], [], _ => .nil
  | _ :: _, _ :: _, alike => List.rel_append (Alike.serials alike.1) (AlikeAll.serials alike.2)

end

mutual

theorem Alike.same_iff {paired : Pairing} : ∀ {first second : Value α}, Alike paired first second →
    (first.same second = true ↔ first.serials = second.serials)
  | .char _, .char _, alike => by simp_all [Alike, same, Value.serials]
  | .text _, .text _, alike => by simp_all [Alike, same, Value.serials]
  | .int _, .int _, alike => by simp_all [Alike, same, Value.serials]
  | .list _, .list _, alike => AlikeAll.same_iff alike
  | .custom _ _, .custom _ _, _ => by simp [same, Value.serials]

theorem AlikeAll.same_iff {paired : Pairing} : ∀ {firsts seconds : List (Value α)},
    AlikeAll paired firsts seconds →
    (sameAll firsts seconds = true ↔ serialsAll firsts = serialsAll seconds)
  | [], [], _ => by simp [sameAll]
  | first :: firsts, second :: seconds, alike => by
      have length := (Alike.serials alike.1).length_eq
      rw [sameAll, Bool.and_eq_true, Alike.same_iff alike.1, AlikeAll.same_iff alike.2, serialsAll,
        serialsAll]
      constructor
      · rintro ⟨same, sameOthers⟩
        rw [same, sameOthers]
      · intro same
        exact List.append_inj same length

end

end Value

namespace Reply

def serials : Reply α → List Nat
  | .ok success => success.value.serials
  | .error _ => []

theorem Alike.serials {paired : Pairing} {first second : Reply α}
    (alike : first.Alike paired second) :
    List.Forall₂ paired first.serials second.serials := by
  cases first <;> cases second
  case ok.ok => exact Value.Alike.serials alike.1
  case error.error => exact .nil
  all_goals contradiction

theorem Alike.same_iff {paired : Pairing} {first second : Reply α}
    (alike : first.Alike paired second) :
    first.same second = true ↔ first.serials = second.serials := by
  cases first <;> cases second
  case ok.ok =>
    have sameRest := alike.2
    simp [same, Success.same, sameRest, Value.Alike.same_iff alike.1, Reply.serials]
  case error.error =>
    have sameFailure : _ = _ := alike
    simp [same, sameFailure, Reply.serials]
  all_goals contradiction

theorem serials_eq_nil_iff (reply : Reply α) :
    reply.serials = [] ↔ ∀ success, reply = .ok success → success.value.contents = [] := by
  cases reply with
  | error => simp [Reply.serials]
  | ok success => simp [Reply.serials, Value.serials_eq_nil_iff]

theorem Alike.same_iff_of_disjoint {paired : Pairing} {first second : Reply α}
    (alike : first.Alike paired second) (disjoint : first.serials.Disjoint second.serials) :
    first.same second = true ↔ first.serials = [] := by
  rw [alike.same_iff]
  constructor
  · intro same
    rw [← same] at disjoint
    exact List.eq_nil_iff_forall_not_mem.mpr fun _ member => disjoint member member
  · intro nothing
    have pairs := alike.serials
    rw [nothing, List.forall₂_nil_left_iff] at pairs
    rw [nothing, pairs]

end Reply

/-- A payload of the result came in with what the transform was given, or it is new. -/
def Transform.KeepsOrMakes (transform : Transform α) : Prop :=
  ∀ success next, ∀ serial ∈ (transform success next).1.serials,
    serial ∈ success.value.serials ∨ next ≤ serial

theorem Transform.keepsOrMakes_of_fresh (content : Success α → α) :
    Transform.KeepsOrMakes fun success => do
      let payload ← Value.fresh (content success)
      return .ok (success.withValue payload) := by
  intro success next serial member
  obtain rfl : serial = next := List.mem_singleton.mp member
  exact Or.inr (Nat.le_refl _)

namespace Primitive

theorem serials_matchOne (accepts : Char → Bool) (cursor : Text) :
    (matchOne accepts cursor : Reply α).serials = [] := by
  cases cursor with
  | nil => rfl
  | cons found rest =>
      simp only [matchOne]
      split <;> rfl

theorem serials_matchText (expected cursor : Text) :
    (matchText expected cursor : Reply α).serials = [] := by
  simp only [matchText]
  split
  · rfl
  · split <;> rfl

end Primitive

def Task.serials : Task α → List Nat
  | .sequence values _ _ | .repetition _ values _ => Value.serialsAll values
  | .attempt _ _ | .branch _ _ _ => []

section Recent

variable {grammar : Grammar α} {guard : Guard} {within : Parser → Prop} {first : Nat}

theorem Replies.first_le_serials (pure : grammar.Closed within (Transform.Pure first))
    (keeps : grammar.Closed within Transform.KeepsOrMakes) {task : Task α} {trail later : Trail}
    {reply : Reply α} (run : Replies grammar guard task trail reply later)
    (inside : task.Within within) (made : first ≤ trail.nextSerial)
    (gathered : ∀ serial ∈ task.serials, first ≤ serial) :
    ∀ serial ∈ reply.serials, first ≤ serial := by
  induction run with
  | char | satisfy => simp [Primitive.serials_matchOne]
  | string => simp [Primitive.serials_matchText]
  | filter => simp [Primitive.matchRun, Reply.serials, Value.serials]
  | sequence found _ ih =>
      exact ih (fun _ member => pure.leads inside (.sequence found member)) made
        (by simp [Task.serials, Value.serialsAll])
  | branch found _ ih =>
      exact ih (fun _ member => pure.leads inside (.branch found member)) made
        (by simp [Task.serials])
  | repetition found _ ih =>
      exact ih (pure.leads inside (.repetition found)) made
        (by simp [Task.serials, Value.serialsAll])
  | mapFailure | sequenceFailure | branchEnd => simp [Reply.serials]
  | mapSuccess found run ih =>
      intro serial member
      have insideInner := pure.leads inside (.map found)
      rcases keeps.transforms inside found _ _ serial member with old | new
      · exact ih insideInner made (by simp [Task.serials]) serial old
      · have madeLater := run.known_le pure insideInner made
        omega
  | reference found resolved _ ih =>
      exact ih (pure.leads inside (.reference found resolved)) made (by simp [Task.serials])
  | sequenceEnd | repeatFailure | repeatStall =>
      simpa [Task.serials, Reply.serials, Value.serials, Value.serialsAll_eq_flatMap] using gathered
  | sequenceNext run _ ihFirst ihNext =>
      have insideFirst := inside _ List.mem_cons_self
      have recent := ihFirst insideFirst made (by simp [Task.serials])
      apply ihNext (fun _ member => inside _ (List.mem_cons_of_mem _ member))
        (run.known_le pure insideFirst made)
      intro serial member
      rcases List.mem_append.mp member with new | old
      · exact recent serial new
      · exact gathered serial old
  | branchSuccess _ ih =>
      exact ih (inside _ List.mem_cons_self) made (by simp [Task.serials])
  | branchNext run _ _ ihNext =>
      exact ihNext (fun _ member => inside _ (List.mem_cons_of_mem _ member))
        (run.known_le pure (inside _ List.mem_cons_self) made) (by simp [Task.serials])
  | repeatNext run _ _ ihFirst ihNext =>
      have recent := ihFirst inside made (by simp [Task.serials])
      apply ihNext inside (run.known_le pure inside made)
      intro serial member
      rcases List.mem_append.mp member with new | old
      · exact recent serial new
      · exact gathered serial old

end Recent

namespace Grammar

variable {grammar : Grammar α} {guard : Guard} {parser : Parser} {known : Nat} {input : Text}
  {trail later : Trail} {reply : Reply α}

theorem Ends.first_le_serials (pure : grammar.EachTransform parser (Transform.Pure known))
    (keeps : grammar.EachTransform parser Transform.KeepsOrMakes)
    (ended : grammar.Ends guard parser input trail reply later) (made : known ≤ trail.nextSerial) :
    ∀ serial ∈ reply.serials, trail.nextSerial ≤ serial := by
  have pureSince := pure.imp fun _ own => own.mono made
  exact (ends_iff_replies.mp ended).first_le_serials pureSince.closed keeps.closed
    (grammar.reaches_self parser) (Nat.le_refl _) (by simp [Task.serials])

theorem Ends.serials_lt (pure : grammar.EachTransform parser (Transform.Pure known))
    (ended : grammar.Ends guard parser input trail reply later) (made : known ≤ trail.nextSerial) :
    ∀ serial ∈ reply.serials, serial < later.nextSerial := by
  obtain ⟨paired, answer, finish, _, fits, alike⟩ := ended.endsAlike pure made made
  have below := alike.serials.imp fun _ _ pair => And.intro (fits.bounded pair).1 pair
  exact ((List.forall₂_and_left _ _).mp below).1

end Grammar

end GrammarArena
