import GrammarArena.Proofs.Construction
import GrammarArena.Proofs.Fronts

/-!
A literal text beside the sequence of its characters. Both take the text where the input begins
with it. Otherwise they report the same difference if the input is long enough; in an input that
is too short the literal text does not look for a difference, and the sequence reports one if there
is one.
-/

namespace GrammarArena

variable {α : Type} {grammar : Grammar α} {expected : Text} {children : List Parser}

namespace Primitive

theorem matchEach_same (values : List (Value α)) (char : Char) (expected cursor : Text) :
    matchEach values (char :: expected) (char :: cursor) =
      matchEach (.char char :: values) expected cursor := by
  simp [matchEach, mismatch?]

theorem matchEach_append (values : List (Value α)) (expected rest : Text) :
    matchEach values expected (expected ++ rest) =
      .ok ⟨.list (values.reverse ++ expected.map .char), rest⟩ := by
  simp [matchEach, mismatch?_append]

theorem matchEach_of_difference (values : List (Value α)) {cursor : Text} {found : Char}
    (differs : Text.FirstDifference expected cursor found) :
    matchEach values expected cursor = .error (.unexpected found) := by
  rw [matchEach, mismatch?_eq_some_iff.mpr differs]

theorem matchEach_of_short (values : List (Value α)) {cursor : Text}
    (short : cursor.length < expected.length)
    (alike : ∀ found, ¬ Text.FirstDifference expected cursor found) :
    matchEach values expected cursor = .error .endOfInput := by
  cases differs : mismatch? expected cursor with
  | some found => exact absurd (mismatch?_eq_some_iff.mp differs) (alike found)
  | none => simp [matchEach, differs, short]

theorem exists_firstDifference {cursor : Text} (enough : expected.length ≤ cursor.length)
    (other : ¬ expected <+: cursor) : ∃ found, Text.FirstDifference expected cursor found := by
  cases differs : mismatch? expected cursor with
  | some found => exact ⟨found, mismatch?_eq_some_iff.mp differs⟩
  | none => exact absurd ((mismatch?_eq_none_iff enough).mp differs) other

end Primitive

theorem Replies.spelled {guard : Guard}
    (spells : List.Forall₂ (fun char child => grammar.lookup child = .ok (.char char)) expected
      children) (values : List (Value α)) (cursor : Text) (trail : Trail) :
    Replies grammar guard (.sequence values cursor children) trail
      (Primitive.matchEach values expected cursor) trail := by
  induction spells generalizing values cursor with
  | nil =>
      have ends := Primitive.matchEach_append values [] cursor
      rw [List.map_nil, List.append_nil, List.nil_append] at ends
      rw [ends]
      exact .sequenceEnd
  | @cons char child expected children found _ ih =>
      have first : Replies grammar guard (.attempt child cursor) trail _ trail := .char found
      cases cursor with
      | nil => exact .sequenceFailure first
      | cons next rest =>
          by_cases same : next = char
          · -- What is left has to match the characters that are left, after one more value.
            subst same
            rw [Primitive.matchOne_accepted (by simp)] at first
            rw [Primitive.matchEach_same]
            exact .sequenceNext first (ih _ _)
          · have differs : Text.FirstDifference (char :: expected) (next :: rest) next :=
              ⟨[], char, expected, rest, rfl, rfl, same⟩
            rw [Primitive.matchEach_of_difference values differs]
            simp only [Primitive.matchOne, same, decide_false, Bool.false_eq_true,
              ↓reduceIte] at first
            exact .sequenceFailure first

theorem Grammar.Steady.of_spells
    (spells : List.Forall₂ (fun char child => grammar.lookup child = .ok (.char char)) expected
      children) : ∀ child ∈ children, grammar.Steady child := by
  induction spells with
  | nil => simp
  | cons found _ ih =>
      rw [List.forall_mem_cons]
      exact ⟨.of_leaf found rfl rfl, ih⟩

theorem parse_literal {literal : Parser} (made : (Builder.string expected).MadeIn grammar literal)
    (input : Text) (trail : Trail) :
    grammar.parse literal input trail = .ok (Primitive.matchText expected input, trail) :=
  (Replies.string made.lookup).parse_eq_of_steady (.of_leaf made.lookup rfl rfl)

theorem parse_spelled {spelled : Parser}
    (madeEach : List.Forall₂ (fun char child => (Builder.char char).MadeIn grammar child) expected
      children)
    (made : (Builder.sequence children).MadeIn grammar spelled) (input : Text) (trail : Trail) :
    grammar.parse spelled input trail = .ok (Primitive.matchEach [] expected input, trail) := by
  have spells : List.Forall₂ (fun char child => grammar.lookup child = .ok (.char char)) expected
      children := madeEach.imp fun _ _ madeChar => madeChar.lookup
  have steady := Grammar.Steady.sequence made.lookup (.of_spells spells)
  have run : Replies grammar .noProgress (.attempt spelled input) trail _ trail :=
    .sequence made.lookup (.spelled spells [] input trail)
  exact run.parse_eq_of_steady steady

/-- A literal text and the sequence of its characters take the same inputs, those that begin with
the text, and leave the same rest. In an input that is long enough but begins otherwise both fail
on the first difference. In one that is too short the literal text always fails at the end, and the
sequence only if nothing differs before. Where the literal text is cut off by its number of bytes,
the cut is between two characters. -/
theorem literal_versus_characters {literal spelled : Parser}
    (madeLiteral : (Builder.string expected).MadeIn grammar literal)
    (madeEach : List.Forall₂ (fun char child => (Builder.char char).MadeIn grammar child) expected
      children)
    (madeSpelled : (Builder.sequence children).MadeIn grammar spelled) (input : Text)
    (trail : Trail) :
    (∀ rest, input = expected ++ rest →
      grammar.parse literal input trail = .ok (.ok ⟨.text expected, rest⟩, trail) ∧
      grammar.parse spelled input trail = .ok (.ok ⟨.list (expected.map .char), rest⟩, trail) ∧
      input.splitAtByte? expected.byteLength = some (expected, rest)) ∧
    (¬ expected <+: input → expected.length ≤ input.length →
      ∃ found, Text.FirstDifference expected input found ∧
        grammar.parse literal input trail = .ok (.error (.unexpected found), trail) ∧
        grammar.parse spelled input trail = .ok (.error (.unexpected found), trail)) ∧
    (input.length < expected.length →
      grammar.parse literal input trail = .ok (.error .endOfInput, trail) ∧
      (∀ found, Text.FirstDifference expected input found →
        grammar.parse spelled input trail = .ok (.error (.unexpected found), trail)) ∧
      ((∀ found, ¬ Text.FirstDifference expected input found) →
        grammar.parse spelled input trail = .ok (.error .endOfInput, trail))) ∧
    (Primitive.cutText? expected input : Option (Reply α)) =
      some (Primitive.matchText expected input) := by
  rw [parse_literal madeLiteral, parse_spelled madeEach madeSpelled]
  refine ⟨?_, ?_, ?_, Primitive.cutText?_eq expected input⟩
  · rintro rest rfl
    refine ⟨?_, ?_, Text.splitAtByte?_eq_some_iff.mpr ⟨rfl, rfl⟩⟩
    · rw [Primitive.matchText_append]
    · rw [Primitive.matchEach_append, List.reverse_nil, List.nil_append]
  · intro other enough
    obtain ⟨found, differs⟩ := Primitive.exists_firstDifference enough other
    refine ⟨found, differs, ?_, ?_⟩
    · rw [Primitive.matchText_of_difference enough differs]
    · rw [Primitive.matchEach_of_difference [] differs]
  · intro short
    refine ⟨?_, ?_, ?_⟩
    · rw [Primitive.matchText_of_short short]
    · intro found differs
      rw [Primitive.matchEach_of_difference [] differs]
    · intro alike
      rw [Primitive.matchEach_of_short [] short alike]

def accentedWord : Grammar Op :=
  ({} : Grammar Op).build
    [.string ['a', 'λ', '€'], .char '€', .char 'λ', .char 'a', .sequence [⟨3⟩, ⟨2⟩, ⟨1⟩]]

theorem accentedWord_literal_versus_characters :
    (Builder.string ['a', 'λ', '€']).MadeIn accentedWord ⟨0⟩ ∧
    List.Forall₂ (fun char child => (Builder.char char).MadeIn accentedWord child)
      ['a', 'λ', '€'] [⟨3⟩, ⟨2⟩, ⟨1⟩] ∧
    (Builder.sequence [⟨3⟩, ⟨2⟩, ⟨1⟩]).MadeIn accentedWord ⟨4⟩ ∧
    accentedWord.parse ⟨0⟩ ['a', 'λ', '€', 'μ'] {} = .ok (.ok ⟨.text ['a', 'λ', '€'], ['μ']⟩, {}) ∧
    accentedWord.parse ⟨4⟩ ['a', 'λ', '€', 'μ'] {} =
      .ok (.ok ⟨.list [.char 'a', .char 'λ', .char '€'], ['μ']⟩, {}) ∧
    accentedWord.parse ⟨0⟩ ['a', 'μ'] {} = .ok (.error .endOfInput, {}) ∧
    accentedWord.parse ⟨4⟩ ['a', 'μ'] {} = .ok (.error (.unexpected 'μ'), {}) := by
  have whole : (Builder.string ['a', 'λ', '€']).MadeIn accentedWord ⟨0⟩ := .of_calls 0 rfl
  have third : (Builder.char '€').MadeIn accentedWord ⟨1⟩ := .of_calls 1 rfl
  have second : (Builder.char 'λ').MadeIn accentedWord ⟨2⟩ := .of_calls 2 rfl
  have first : (Builder.char 'a').MadeIn accentedWord ⟨3⟩ := .of_calls 3 rfl
  have spelled : (Builder.sequence [⟨3⟩, ⟨2⟩, ⟨1⟩]).MadeIn accentedWord ⟨4⟩ := .of_calls 4 rfl
  have each : List.Forall₂ (fun char child => (Builder.char char).MadeIn accentedWord child)
      ['a', 'λ', '€'] [⟨3⟩, ⟨2⟩, ⟨1⟩] := .cons first (.cons second (.cons third .nil))
  have laws := fun input => literal_versus_characters whole each spelled input {}
  have differs : Text.FirstDifference ['a', 'λ', '€'] ['a', 'μ'] 'μ' :=
    ⟨['a'], 'λ', ['€'], [], rfl, rfl, by decide⟩
  obtain ⟨taken, takenSpelled, _⟩ := (laws ['a', 'λ', '€', 'μ']).1 ['μ'] rfl
  obtain ⟨ends, differsSpelled, _⟩ := (laws ['a', 'μ']).2.2.1 (by decide)
  exact ⟨whole, each, spelled, taken, takenSpelled, ends, differsSpelled 'μ' differs⟩

end GrammarArena
