import GrammarArena.Proofs.Growth

/-!
Transforms that are pure. One that makes no payloads is pure if it treats values alike that differ
only in the serial numbers of their payloads; the transforms of the builders and of the grammars
that come with the library look at nothing else of what they are given.
-/

namespace GrammarArena

variable {α : Type}

namespace Value

variable {paired : Pairing} {first second : Value α}

theorem Alike.text? (alike : Alike paired first second) : first.text? = second.text? := by
  cases first <;> cases second <;> simp_all [Alike, Value.text?]

theorem Alike.content? (alike : Alike paired first second) : first.content? = second.content? := by
  cases first <;> cases second <;> simp_all [Alike, Value.content?]

theorem AlikeAll.getElem? {firsts seconds : List (Value α)} (alike : AlikeAll paired firsts seconds)
    (position : Nat) : Option.Rel (Alike paired) firsts[position]? seconds[position]? := by
  rw [alikeAll_iff] at alike
  induction alike generalizing position with
  | nil => exact .none
  | cons head _ ih =>
      cases position with
      | zero => exact .some head
      | succ position => exact ih position

theorem Alike.descend (alike : Alike paired first second) (path : List Nat) :
    Option.Rel (Alike paired) (first.descend path) (second.descend path) := by
  induction path generalizing first second with
  | nil => exact .some alike
  | cons position path ih =>
      cases first <;> cases second <;> try contradiction
      case list.list firsts seconds =>
        have item := AlikeAll.getElem? alike position
        simp only [Value.descend]
        generalize firsts[position]? = left, seconds[position]? = right at item
        cases item with
        | none => exact .none
        | some item => exact ih item
      all_goals exact .none

end Value

theorem Transform.Pure.of_reply {answer : Success α → Reply α}
    (respects : ∀ (paired : Pairing) (first second : Success α),
      Reply.Alike paired (.ok first) (.ok second) →
      Reply.Alike paired (answer first) (answer second)) (known : Nat) :
    Transform.Pure known fun success => pure (answer success) := by
  intro paired first second next other fits alike
  exact ⟨paired, fun _ _ pair => pair, fits, respects paired first second alike⟩

theorem Builder.requireItems_pure (known : Nat) :
    Transform.Pure known fun success : Success α => pure (Builder.requireItems success) := by
  apply Transform.Pure.of_reply
  rintro paired ⟨first, rest⟩ ⟨second, _⟩ ⟨alike, rfl⟩
  have same := alike
  cases first <;> cases second <;> try contradiction
  case list.list firsts seconds =>
    cases firsts <;> cases seconds <;> try contradiction
    · rfl
    · exact ⟨same, rfl⟩
  all_goals exact ⟨same, rfl⟩

theorem Builder.readInteger_pure (known : Nat) :
    Transform.Pure known fun success : Success α => pure (Builder.readInteger success) := by
  apply Transform.Pure.of_reply
  rintro paired ⟨first, rest⟩ ⟨second, _⟩ ⟨alike, rfl⟩
  simp only [readInteger, Value.Alike.text? alike]
  split
  · rfl
  · split
    · exact ⟨rfl, rfl⟩
    · rfl

theorem IntegerList.select_pure (position known : Nat) :
    Transform.Pure known (IntegerList.select position : Transform α) := by
  apply Transform.Pure.of_reply
  rintro paired ⟨first, rest⟩ ⟨second, _⟩ ⟨alike, rfl⟩
  have item := Value.Alike.descend alike [position]
  refine ⟨?_, rfl⟩
  simp only [Success.withValue]
  generalize first.descend [position] = left, second.descend [position] = right at item
  cases item with
  | none => trivial
  | some item => exact item

namespace Brainfuck

variable [Carries α Op]

theorem instruction?_of_alike {paired : Pairing} {first second : Value α}
    (alike : first.Alike paired second) : instruction? first = instruction? second := by
  rw [instruction?, instruction?, alike.content?]

theorem program_of_alike {paired : Pairing} {first second : Value α}
    (alike : first.Alike paired second) : program first = program second := by
  cases first <;> cases second <;> try contradiction
  case list.list firsts seconds =>
    have items := Value.alikeAll_iff.mp alike
    simp only [program, Value.list?, Option.getD_some]
    induction items with
    | nil => rfl
    | cons head _ ih =>
        rw [List.filterMap_cons, List.filterMap_cons, instruction?_of_alike head, ih alike.2]
  all_goals rfl

theorem loopOf_pure (known : Nat) : Transform.Pure known (loopOf : Transform α) := by
  intro paired first second next other fits alike
  have body : (first.value.descend [1]).map program = (second.value.descend [1]).map program := by
    have item := Value.Alike.descend alike.1 [1]
    generalize first.value.descend [1] = left, second.value.descend [1] = right at item
    cases item with
    | none => rfl
    | some item => exact congrArg some (program_of_alike item)
  rw [loopOf, loopOf, body]
  exact instruction_pure _ known paired first second next other fits alike

end Brainfuck

end GrammarArena
