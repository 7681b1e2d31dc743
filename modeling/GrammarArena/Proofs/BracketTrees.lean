import GrammarArena.Proofs.BracketGrammar
import GrammarArena.Proofs.Derivation

/-!
The values of the grammar of square brackets. They are trees of texts and bracketed bodies, and
the text of a tree determines the tree: where a text ends and which bracket closes a body can be
read off what follows.
-/

namespace GrammarArena.Brackets

variable {α : Type}

/-- The items of a body: texts, which are not empty, hold no bracket and do not stand next to one
another, and bodies between brackets. -/
inductive Trees : List (Value α) → Prop
  | nil : Trees []
  | text {run items} : run ≠ [] → (∀ found ∈ run, found ≠ '[' ∧ found ≠ ']') → Trees items →
      (∀ next more, items ≠ .list [.text next] :: more) → Trees (.list [.text run] :: items)
  | group {inner items} : Trees inner → Trees items →
      Trees (.list [.char '[', .list inner, .char ']'] :: items)

def IsTree (value : Value α) : Prop :=
  ∃ items, value = .list items ∧ Trees items

theorem isText_iff {found : Char} : isText found = true ↔ found ≠ '[' ∧ found ≠ ']' := by
  simp [isText]

mutual

theorem flat_value : ∀ item : Item, (item.value : Value α).flat = item.written
  | .text run => by simp [Item.value, Item.written, Value.flat, Value.flatAll]
  | .group body => by
      simp [Item.value, Item.written, Value.flat, Value.flatAll, flatAll_valueAll body]

theorem flatAll_valueAll : ∀ items : List Item,
    Value.flatAll (valueAll items : List (Value α)) = writtenAll items
  | [] => rfl
  | item :: items => by
      rw [valueAll, Value.flatAll, writtenAll, flat_value item, flatAll_valueAll items]

end

theorem Body.trees {items : List Item} (body : Body items) :
    Trees (valueAll items : List (Value α)) := by
  induction body with
  | nil => exact .nil
  | @text run items notEmpty plain _ apart ih =>
      refine .text notEmpty (fun found member => isText_iff.mp (plain found member)) ih ?_
      intro next more same
      cases items with
      | nil => contradiction
      | cons item items =>
          cases item with
          | text other => exact apart other items rfl
          | group inner => simp [valueAll, Item.value] at same
  | group _ _ ihInner ihItems => exact .group ihInner ihItems

theorem Trees.exists_body {values : List (Value α)} (trees : Trees values) :
    ∃ items, Body items ∧ values = valueAll items := by
  induction trees with
  | nil => exact ⟨[], .nil, rfl⟩
  | @text run _ notEmpty plain _ apart ih =>
      obtain ⟨items, body, rfl⟩ := ih
      refine ⟨.text run :: items, .text notEmpty ?_ body ?_, rfl⟩
      · exact fun found member => isText_iff.mpr (plain found member)
      · rintro next more rfl
        exact apart next (valueAll more) rfl
  | group _ _ ihInner ihItems =>
      obtain ⟨inner, bodyInner, rfl⟩ := ihInner
      obtain ⟨items, body, rfl⟩ := ihItems
      exact ⟨.group inner :: items, .group bodyInner body, rfl⟩

theorem takeWhile_written {items : List Item} (noText : ∀ next more, items ≠ .text next :: more) :
    (writtenAll items).takeWhile isText = [] := by
  cases items with
  | nil => rfl
  | cons item items =>
      cases item with
      | text run => exact absurd rfl (noText run items)
      | group inner => rfl

theorem takeWhile_text_written {run : Text} {items : List Item}
    (plain : ∀ found ∈ run, isText found = true)
    (noText : ∀ next more, items ≠ .text next :: more) :
    (run ++ writtenAll items).takeWhile isText = run := by
  rw [List.takeWhile_append_of_pos plain, takeWhile_written noText, List.append_nil]

theorem run_ne_opening {run : Text} (notEmpty : run ≠ [])
    (plain : ∀ found ∈ run, isText found = true) (rest tail : Text) :
    run ++ rest ≠ '[' :: tail := by
  cases run with
  | nil => contradiction
  | cons found run =>
      rintro ⟨⟩
      exact absurd (plain '[' List.mem_cons_self) (by decide)

theorem Body.written_injective {items others : List Item} (body : Body items)
    (otherBody : Body others) (same : writtenAll items = writtenAll others) : items = others := by
  induction body generalizing others with
  | nil =>
      cases otherBody with
      | nil => rfl
      | text notEmpty _ _ _ => exact absurd (List.append_eq_nil_iff.mp same.symm).1 notEmpty
      | group _ _ => cases same
  | @text run items notEmpty plain _ apart ih =>
      have front := takeWhile_text_written plain apart
      rw [writtenAll, Item.written] at same
      cases otherBody with
      | nil => exact absurd (List.append_eq_nil_iff.mp same).1 notEmpty
      | text _ otherPlain otherItems otherApart =>
          rw [same, writtenAll, Item.written, takeWhile_text_written otherPlain otherApart] at front
          subst front
          rw [writtenAll, Item.written] at same
          rw [ih otherItems (List.append_cancel_left same)]
      | group _ _ => exact absurd same (run_ne_opening notEmpty plain _ _)
  | @group inner items bodyInner _ ihInner ihItems =>
      cases otherBody with
      | nil => cases same
      | text notEmpty plain _ _ => exact absurd same.symm (run_ne_opening notEmpty plain _ _)
      | group otherInner otherItems =>
          simp only [writtenAll, Item.written, List.cons_append, List.append_assoc,
            List.nil_append, List.cons.injEq, true_and] at same
          obtain ⟨sameInner, sameItems⟩ := bodyInner.balanced.split_unique otherInner.balanced same
          rw [ihInner otherInner sameInner, ihItems otherItems sameItems]

theorem Body.parse_written {items : List Item} (body : Body items) {grammar : Grammar α}
    {base : Nat} {slot : Slot} (laid : Laid grammar base slot) (trail : Trail) :
    ∃ later, grammar.parse ⟨base + 8⟩ (writtenAll items) trail =
      .ok (.ok ⟨.list (valueAll items), []⟩, later) := by
  obtain ⟨others, rest, later, split, otherBody, stuck, parsed⟩ :=
    laid.parse_body (writtenAll items) trail
  have whole := body.balanced
  rw [split] at whole
  obtain rfl := stuck.eq_nil_of_balanced otherBody.balanced whole
  rw [List.append_nil] at split
  obtain rfl := body.written_injective otherBody split
  exact ⟨later, parsed⟩

theorem Body.isTree {items : List Item} (body : Body items) :
    IsTree (.list (valueAll items) : Value α) :=
  ⟨valueAll items, rfl, body.trees⟩

theorem IsTree.exists_body {tree : Value α} (isTree : IsTree tree) :
    ∃ items, Body items ∧ tree = .list (valueAll items) ∧ tree.flat = writtenAll items := by
  obtain ⟨values, rfl, trees⟩ := isTree
  obtain ⟨items, body, rfl⟩ := trees.exists_body
  exact ⟨items, body, rfl, flatAll_valueAll items⟩

/-- Accepted texts and bracket trees are two forms of one thing. What is accepted has for its value
a tree whose text it is, and the text of any tree is accepted with that tree for its value; so the
balanced texts are those that are the text of one tree and no other. -/
theorem texts_of_trees (initial : Grammar α) :
    ∃ body built, grammar initial = .ok (.ok body, built) ∧
      (∀ input trail success later,
        built.run body input trail = .ok (.ok success, later) →
        IsTree success.value ∧ success.value.flat = input) ∧
      (∀ tree : Value α, IsTree tree → ∀ trail, ∃ later,
        built.run body tree.flat trail = .ok (.ok ⟨tree, []⟩, later)) ∧
      ∀ input, Balanced (fun _ => true) input ↔
        ∃! tree : Value α, IsTree tree ∧ tree.flat = input := by
  have laid := laid_extend initial
  refine ⟨_, _, grammar_eq_extend initial, ?_, ?_, ?_⟩
  · intro input trail success later ran
    obtain ⟨items, rest, finish, split, body, _, parsed⟩ := laid.parse_body input trail
    rw [Grammar.run_eq_of_parse parsed] at ran
    cases rest with
    | cons found tail => cases ran
    | nil =>
        cases ran
        rw [List.append_nil] at split
        exact ⟨body.isTree, (flatAll_valueAll items).trans split.symm⟩
  · intro tree isTree trail
    obtain ⟨items, body, rfl, written⟩ := isTree.exists_body
    obtain ⟨later, parsed⟩ := body.parse_written laid trail
    rw [written]
    exact ⟨later, Grammar.run_eq_of_parse parsed⟩
  · intro input
    constructor
    · intro balanced
      obtain ⟨items, rest, _, rfl, body, stuck, _⟩ := laid.parse_body input {}
      obtain rfl := stuck.eq_nil_of_balanced body.balanced balanced
      rw [List.append_nil]
      refine ⟨.list (valueAll items), ⟨body.isTree, flatAll_valueAll items⟩, ?_⟩
      rintro other ⟨isTree, flat⟩
      obtain ⟨others, otherBody, rfl, written⟩ := isTree.exists_body
      rw [otherBody.written_injective body (written.symm.trans flat)]
    · rintro ⟨tree, ⟨isTree, rfl⟩, _⟩
      obtain ⟨items, body, _, written⟩ := isTree.exists_body
      rw [written]
      exact body.balanced

end GrammarArena.Brackets
