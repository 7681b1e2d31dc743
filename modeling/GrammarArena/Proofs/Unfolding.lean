import GrammarArena.Proofs.Replies

/-!
What a reply is made of, one node at a time: an evaluation that ends can be taken apart again
into those of the children, in the order in which they were tried.
-/

namespace GrammarArena

variable {α : Type}

def Node.loop? (cursor : Text) : Node α → Option (Task α)
  | .sequence children => some (.sequence [] cursor children)
  | .branch children => some (.branch (.atCursor cursor) cursor children)
  | .repetition inner => some (.repetition inner [] cursor)
  | _ => none

def Node.ownReply? (cursor : Text) : Node α → Option (Reply α)
  | .char expected => some (Primitive.matchOne (· = expected) cursor)
  | .string expected => some (Primitive.matchText expected cursor)
  | .filter accepts => some (Primitive.matchRun accepts cursor)
  | .satisfy accepts => some (Primitive.matchOne accepts cursor)
  | _ => none

namespace Replies

variable {grammar : Grammar α} {guard : Guard} {parser : Parser} {cursor : Text}
  {trail later : Trail} {reply : Reply α}

theorem loop_iff {node : Node α} {task : Task α} (found : grammar.lookup parser = .ok node)
    (loops : node.loop? cursor = some task) :
    Replies grammar guard (.attempt parser cursor) trail reply later ↔
      Replies grammar guard task trail reply later := by
  constructor
  · intro run
    cases run with
    | sequence again run | branch again run | repetition again run =>
        cases found.symm.trans again
        cases loops
        exact run
    | char again | string again | filter again | satisfy again | mapFailure again
    | mapSuccess again | reference again =>
        cases found.symm.trans again
        cases loops
  · intro run
    cases node with
    | sequence =>
        cases loops
        exact .sequence found run
    | branch =>
        cases loops
        exact .branch found run
    | repetition =>
        cases loops
        exact .repetition found run
    | char | string | filter | satisfy | map | reference => cases loops

theorem own_iff {node : Node α} {own : Reply α} (found : grammar.lookup parser = .ok node)
    (replies : node.ownReply? cursor = some own) :
    Replies grammar guard (.attempt parser cursor) trail reply later ↔
      reply = own ∧ later = trail := by
  constructor
  · intro run
    cases run with
    | char again | string again | filter again | satisfy again =>
        cases found.symm.trans again
        cases replies
        exact ⟨rfl, rfl⟩
    | sequence again | branch again | repetition again | mapFailure again | mapSuccess again
    | reference again =>
        cases found.symm.trans again
        cases replies
  · rintro ⟨rfl, rfl⟩
    cases node with
    | char =>
        cases replies
        exact .char found
    | string =>
        cases replies
        exact .string found
    | filter =>
        cases replies
        exact .filter found
    | satisfy =>
        cases replies
        exact .satisfy found
    | sequence | branch | repetition | map | reference => cases replies

theorem map_iff {inner : Parser} {transform : Transform α}
    (found : grammar.lookup parser = .ok (.map inner transform)) :
    Replies grammar guard (.attempt parser cursor) trail reply later ↔
      (∃ failure, Replies grammar guard (.attempt inner cursor) trail (.error failure) later ∧
        reply = .error failure) ∨
      ∃ success middle, Replies grammar guard (.attempt inner cursor) trail (.ok success) middle ∧
        reply = (transform success middle.nextSerial).1 ∧
        later = middle.advance (transform success middle.nextSerial).2 := by
  constructor
  · intro run
    cases run with
    | mapFailure again run =>
        cases found.symm.trans again
        exact Or.inl ⟨_, run, rfl⟩
    | mapSuccess again run =>
        cases found.symm.trans again
        exact Or.inr ⟨_, _, run, rfl, rfl⟩
    | char again | string again | filter again | satisfy again | sequence again
    | branch again | repetition again | reference again =>
        cases found.symm.trans again
  · rintro (⟨failure, run, rfl⟩ | ⟨success, middle, run, rfl, rfl⟩)
    · exact .mapFailure found run
    · exact .mapSuccess found run

theorem reference_iff {slot : Slot} {target : Parser}
    (found : grammar.lookup parser = .ok (.reference slot))
    (bound : grammar.resolve slot = .ok (some target)) :
    Replies grammar guard (.attempt parser cursor) trail reply later ↔
      Replies grammar guard (.attempt target cursor) trail reply later := by
  constructor
  · intro run
    cases run with
    | reference again resolved run =>
        cases found.symm.trans again
        cases bound.symm.trans resolved
        exact run
    | char again | string again | filter again | satisfy again | sequence again
    | branch again | repetition again | mapFailure again | mapSuccess again =>
        cases found.symm.trans again
  · exact .reference found bound

theorem sequence_nil_iff {values : List (Value α)} :
    Replies grammar guard (.sequence values cursor []) trail reply later ↔
      reply = .ok ⟨.list values.reverse, cursor⟩ ∧ later = trail := by
  constructor
  · intro run
    cases run
    exact ⟨rfl, rfl⟩
  · rintro ⟨rfl, rfl⟩
    exact .sequenceEnd

theorem sequence_cons_iff {values : List (Value α)} {child : Parser} {children : List Parser} :
    Replies grammar guard (.sequence values cursor (child :: children)) trail reply later ↔
      (∃ failure, Replies grammar guard (.attempt child cursor) trail (.error failure) later ∧
        reply = .error failure) ∨
      ∃ success middle, Replies grammar guard (.attempt child cursor) trail (.ok success) middle ∧
        Replies grammar guard (.sequence (success.value :: values) success.rest children) middle
          reply later := by
  constructor
  · intro run
    cases run with
    | sequenceFailure first => exact Or.inl ⟨_, first, rfl⟩
    | sequenceNext first next => exact Or.inr ⟨_, _, first, next⟩
  · rintro (⟨failure, first, rfl⟩ | ⟨success, middle, first, next⟩)
    · exact .sequenceFailure first
    · exact .sequenceNext first next

theorem branch_cons_iff {last : Failure} {child : Parser} {children : List Parser} :
    Replies grammar guard (.branch last cursor (child :: children)) trail reply later ↔
      (∃ success, Replies grammar guard (.attempt child cursor) trail (.ok success) later ∧
        reply = .ok success) ∨
      ∃ failure middle,
        Replies grammar guard (.attempt child cursor) trail (.error failure) middle ∧
        Replies grammar guard (.branch failure cursor children) middle reply later := by
  constructor
  · intro run
    cases run with
    | branchSuccess first => exact Or.inl ⟨_, first, rfl⟩
    | branchNext first next => exact Or.inr ⟨_, _, first, next⟩
  · rintro (⟨success, first, rfl⟩ | ⟨failure, middle, first, next⟩)
    · exact .branchSuccess first
    · exact .branchNext first next

end Replies

end GrammarArena
