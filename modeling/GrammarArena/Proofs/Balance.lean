import GrammarArena.Text.Basic

/-!
Balanced text: every opening square bracket has a closing one that matches it, and the other way
round. Where a balanced front of a text ends is settled by the brackets alone, so what follows a
balanced front is balanced if the whole is, and the longest balanced front is the one that is
followed by a text with none of its own.
-/

namespace GrammarArena

/-- Brackets match, and the other characters are allowed ones. -/
inductive Balanced (allowed : Char → Bool) : Text → Prop
  | nil : Balanced allowed []
  | other {found rest} : found ≠ '[' → found ≠ ']' → allowed found = true →
      Balanced allowed rest → Balanced allowed (found :: rest)
  | group {inner rest} : Balanced allowed inner → Balanced allowed rest →
      Balanced allowed ('[' :: (inner ++ ']' :: rest))

/-- The front is balanced, and no balanced text that the input begins with is longer. -/
structure LongestBalanced (allowed : Char → Bool) (front input : Text) : Prop where
  begins : front <+: input
  balanced : Balanced allowed front
  longest : ∀ other, other <+: input → Balanced allowed other → other.length ≤ front.length

def Stuck (allowed : Char → Bool) (text : Text) : Prop :=
  ∀ front, front <+: text → Balanced allowed front → front = []

/-- The text begins with a character that no balanced text can get past: a closing bracket, an
opening one that is never closed, or a character that is not allowed. -/
inductive Obstructed (allowed : Char → Bool) : Text → Prop
  | closing {tail} : Obstructed allowed (']' :: tail)
  | unclosed {tail} :
      (∀ inner after, tail = inner ++ ']' :: after → ¬ Balanced allowed inner) →
      Obstructed allowed ('[' :: tail)
  | forbidden {found tail} : found ≠ '[' → found ≠ ']' → allowed found = false →
      Obstructed allowed (found :: tail)

variable {allowed : Char → Bool}

namespace Balanced

theorem append {first second : Text} (balanced : Balanced allowed first)
    (next : Balanced allowed second) : Balanced allowed (first ++ second) := by
  induction balanced with
  | nil => exact next
  | other notOpening notClosing accepted _ ih => exact .other notOpening notClosing accepted ih
  | group inner _ _ ihRest =>
      rw [List.cons_append, List.append_assoc, List.cons_append]
      exact .group inner ihRest

theorem of_all {run : Text}
    (plain : ∀ found ∈ run, found ≠ '[' ∧ found ≠ ']' ∧ allowed found = true) :
    Balanced allowed run := by
  induction run with
  | nil => exact .nil
  | cons found run ih =>
      obtain ⟨notOpening, notClosing, accepted⟩ := plain found List.mem_cons_self
      exact .other notOpening notClosing accepted
        (ih fun later member => plain later (List.mem_cons_of_mem _ member))

theorem not_closing {rest : Text} : ¬ Balanced allowed (']' :: rest) := by
  intro balanced
  cases balanced with
  | other _ notClosing _ _ => exact notClosing rfl

theorem exists_group {rest : Text} (balanced : Balanced allowed ('[' :: rest)) :
    ∃ inner after, rest = inner ++ ']' :: after ∧ Balanced allowed inner ∧
      Balanced allowed after := by
  cases balanced with
  | other notOpening _ _ _ => exact absurd rfl notOpening
  | group inner after => exact ⟨_, _, rfl, inner, after⟩

theorem split_unique {inner other after rest : Text} (balanced : Balanced allowed inner)
    (otherBalanced : Balanced allowed other)
    (same : inner ++ ']' :: after = other ++ ']' :: rest) : inner = other ∧ after = rest := by
  induction balanced generalizing other after rest with
  | nil =>
      cases otherBalanced with
      | nil =>
          cases same
          exact ⟨rfl, rfl⟩
      | other _ notClosing _ _ =>
          cases same
          exact absurd rfl notClosing
      | group _ _ => cases same
  | other notOpening notClosing _ _ ih =>
      cases otherBalanced with
      | nil =>
          cases same
          exact absurd rfl notClosing
      | other _ _ _ otherRest =>
          obtain ⟨rfl, sameRest⟩ := List.cons.inj same
          obtain ⟨rfl, rfl⟩ := ih otherRest sameRest
          exact ⟨rfl, rfl⟩
      | group _ _ => exact absurd (List.cons.inj same).1 notOpening
  | group _ _ ihInner ihRest =>
      cases otherBalanced with
      | nil => cases same
      | other notOpening _ _ _ => exact absurd (List.cons.inj same).1.symm notOpening
      | group otherInner otherRest =>
          simp only [List.cons_append, List.append_assoc, List.cons.injEq, true_and] at same
          obtain ⟨rfl, sameRest⟩ := ihInner otherInner same
          obtain ⟨rfl, rfl⟩ := ihRest otherRest sameRest
          exact ⟨rfl, rfl⟩

theorem cancel {front rest : Text} (balanced : Balanced allowed front)
    (whole : Balanced allowed (front ++ rest)) : Balanced allowed rest := by
  induction balanced with
  | nil => exact whole
  | other notOpening _ _ _ ih =>
      generalize textEq : _ :: _ ++ rest = text at whole
      cases whole with
      | nil => cases textEq
      | other _ _ _ wholeRest =>
          obtain ⟨_, rfl⟩ := List.cons.inj textEq
          exact ih wholeRest
      | group _ _ => exact absurd (List.cons.inj textEq).1 notOpening
  | group inner _ _ ihRest =>
      rw [List.cons_append, List.append_assoc, List.cons_append] at whole
      obtain ⟨otherInner, after, split, otherBalanced, afterBalanced⟩ := exists_group whole
      obtain ⟨_, rfl⟩ := inner.split_unique otherBalanced split
      exact ihRest afterBalanced

end Balanced

namespace Stuck

theorem nil : Stuck allowed [] := by
  intro front begins _
  exact List.prefix_nil.mp begins

theorem closing (rest : Text) : Stuck allowed (']' :: rest) := by
  intro front begins balanced
  cases front with
  | nil => rfl
  | cons found front =>
      obtain ⟨rfl, _⟩ := List.cons_prefix_cons.mp begins
      exact absurd balanced Balanced.not_closing

theorem opening {front rest : Text} (longest : LongestBalanced allowed front (front ++ rest))
    (unclosed : ∀ after, rest ≠ ']' :: after) : Stuck allowed ('[' :: (front ++ rest)) := by
  intro taken begins balanced
  cases taken with
  | nil => rfl
  | cons found taken =>
      obtain ⟨rfl, beginsTail⟩ := List.cons_prefix_cons.mp begins
      obtain ⟨inner, after, rfl, innerBalanced, _⟩ := balanced.exists_group
      have beginsInner := (List.prefix_append inner (']' :: after)).trans beginsTail
      have shorter := longest.longest inner beginsInner innerBalanced
      obtain ⟨more, rfl⟩ :=
        List.prefix_of_prefix_length_le beginsInner longest.begins shorter
      have moreBalanced := innerBalanced.cancel longest.balanced
      rw [List.append_assoc, List.prefix_append_right_inj] at beginsTail
      -- The closing bracket stands either at the front of the rest or in what is balanced.
      cases more with
      | nil =>
          obtain ⟨tail, rfl⟩ := beginsTail
          exact absurd rfl (unclosed (after ++ tail))
      | cons found more =>
          obtain ⟨rfl, _⟩ := List.cons_prefix_cons.mp beginsTail
          exact absurd moreBalanced Balanced.not_closing

theorem forbidden {found : Char} (notOpening : found ≠ '[') (refused : allowed found = false)
    (rest : Text) : Stuck allowed (found :: rest) := by
  intro front begins balanced
  cases balanced with
  | nil => rfl
  | other _ _ accepted _ =>
      obtain ⟨rfl, _⟩ := List.cons_prefix_cons.mp begins
      rw [refused] at accepted
      contradiction
  | group _ _ =>
      obtain ⟨rfl, _⟩ := List.cons_prefix_cons.mp begins
      contradiction

theorem eq_nil_of_balanced {front rest : Text} (stuck : Stuck allowed rest)
    (balanced : Balanced allowed front) (whole : Balanced allowed (front ++ rest)) : rest = [] :=
  stuck rest (List.prefix_refl _) (balanced.cancel whole)

theorem eq_nil_or_obstructed {rest : Text} (stuck : Stuck allowed rest) :
    rest = [] ∨ Obstructed allowed rest := by
  cases rest with
  | nil => exact Or.inl rfl
  | cons found tail =>
      right
      by_cases closing : found = ']'
      · subst closing
        exact .closing
      · by_cases opening : found = '['
        · subst opening
          apply Obstructed.unclosed
          rintro inner after rfl balanced
          have nothing := stuck ('[' :: (inner ++ [']'])) ⟨after, by simp⟩ (.group balanced .nil)
          contradiction
        · cases accepted : allowed found with
          | false => exact .forbidden opening closing accepted
          | true =>
              have nothing := stuck [found] ⟨tail, rfl⟩ (.other opening closing accepted .nil)
              contradiction

end Stuck

theorem LongestBalanced.of_stuck {front rest : Text} (balanced : Balanced allowed front)
    (stuck : Stuck allowed rest) : LongestBalanced allowed front (front ++ rest) where
  begins := List.prefix_append _ _
  balanced := balanced
  longest := by
    intro other begins otherBalanced
    rcases List.prefix_or_prefix_of_prefix begins (List.prefix_append front rest) with short | long
    · exact short.length_le
    · obtain ⟨more, rfl⟩ := long
      have nothing := stuck more ((List.prefix_append_right_inj front).mp begins)
        (balanced.cancel otherBalanced)
      simp [nothing]

end GrammarArena
