import GrammarArena.Proofs.Suffix
import Mathlib.Data.List.DropRight
import Mathlib.Data.List.Forall2

/-!
Pieces that grammars are often made of, and how an evaluation goes through them: a choice of
characters, runs of characters that are taken one by one or all at once, and a body between square
brackets.
-/

namespace GrammarArena

variable {α : Type} {grammar : Grammar α}

namespace Primitive

theorem matchOne_accepted {accepts : Char → Bool} {found : Char} (accepted : accepts found = true)
    (rest : Text) : (matchOne accepts (found :: rest) : Reply α) = .ok ⟨.char found, rest⟩ := by
  simp [matchOne, accepted]

theorem matchOne_refused {accepts : Char → Bool} {cursor : Text}
    (refused : ∀ found rest, cursor = found :: rest → accepts found = false) :
    (matchOne accepts cursor : Reply α) = .error (.atCursor cursor) := by
  cases cursor with
  | nil => rfl
  | cons found rest => simp [matchOne, refused found rest rfl, Failure.atCursor]

end Primitive

theorem Replies.choice {guard : Guard} {chars : List Char} {children : List Parser}
    (each : List.Forall₂ (fun char child => grammar.lookup child = .ok (.char char)) chars children)
    (cursor : Text) (trail : Trail) :
    Replies grammar guard (.branch (.atCursor cursor) cursor children) trail
      (Primitive.matchOne (· ∈ chars) cursor) trail := by
  induction each with
  | nil =>
      rw [Primitive.matchOne_refused (by simp)]
      exact .branchEnd
  | @cons char child chars children found _ ih =>
      have first : Replies grammar guard (.attempt child cursor) trail _ trail := .char found
      by_cases taken : ∃ rest, cursor = char :: rest
      · obtain ⟨rest, rfl⟩ := taken
        rw [Primitive.matchOne_accepted (by simp)] at first ⊢
        exact .branchSuccess first
      · have other : ∀ next rest, cursor = next :: rest → next ≠ char := by
          rintro next rest rfl rfl
          exact taken ⟨rest, rfl⟩
        have sameOthers : (Primitive.matchOne (· ∈ char :: chars) cursor : Reply α) =
            Primitive.matchOne (· ∈ chars) cursor := by
          cases cursor with
          | nil => rfl
          | cons next rest => simp [Primitive.matchOne, other next rest rfl]
        rw [Primitive.matchOne_refused fun next rest same => by simp [other next rest same]]
          at first
        rw [sameOthers]
        exact .branchNext first ih

theorem Replies.run {inner : Parser} {accepts : Char → Bool}
    (one : ∀ cursor trail, Replies grammar .noProgress (.attempt inner cursor) trail
      (Primitive.matchOne accepts cursor) trail)
    (values : List (Value α)) (cursor : Text) (trail : Trail) :
    Replies grammar .noProgress (.repetition inner values cursor) trail
      (.ok ⟨.list (values.reverse ++ (cursor.takeWhile accepts).map .char),
        cursor.dropWhile accepts⟩) trail := by
  induction cursor generalizing values with
  | nil =>
      rw [List.takeWhile_nil, List.map_nil, List.append_nil]
      exact .repeatFailure (one [] trail)
  | cons found rest ih =>
      have first := one (found :: rest) trail
      cases accepted : accepts found with
      | true =>
          rw [Primitive.matchOne_accepted accepted] at first
          have progress : Guard.noProgress (found :: rest) rest = false :=
            Guard.progress_of_length_lt (List.suffix_cons found rest) (Nat.lt_succ_self _)
          have next := ih (.char found :: values)
          rw [List.reverse_cons, List.append_assoc] at next
          rw [List.takeWhile_cons_of_pos accepted, List.dropWhile_cons_of_pos accepted]
          exact .repeatNext first progress next
      | false =>
          have refused : ∀ next tail, found :: rest = next :: tail → accepts next = false := by
            rintro next tail ⟨⟩
            exact accepted
          rw [Primitive.matchOne_refused refused] at first
          rw [List.takeWhile_cons_of_neg (by simp [accepted]),
            List.dropWhile_cons_of_neg (by simp [accepted]), List.map_nil, List.append_nil]
          exact .repeatFailure first

section Runs

variable {run runs : Parser} {accepts : Char → Bool}

theorem length_after_run_lt (accepts : Char → Bool) (found : Char) (rest : Text) :
    (rest.dropWhile accepts).length < (found :: rest).length := by
  have suffix : rest.dropWhile accepts <:+ rest := List.dropWhile_suffix accepts
  have bound := suffix.length_le
  rw [List.length_cons]
  omega

theorem progress_of_run (accepts : Char → Bool) (found : Char) (rest : Text) :
    Guard.noProgress (found :: rest) (rest.dropWhile accepts) = false := by
  have suffix : rest.dropWhile accepts <:+ rest := List.dropWhile_suffix accepts
  exact Guard.progress_of_length_lt (suffix.trans (List.suffix_cons found rest))
    (length_after_run_lt accepts found rest)

theorem Replies.runs_end (found : grammar.lookup run = .ok (.filter accepts)) {cursor : Text}
    (none : cursor.dropWhile accepts = cursor) (values : List (Value α)) (trail : Trail) :
    Replies grammar .noProgress (.repetition run values cursor) trail
      (.ok ⟨.list values.reverse, cursor⟩) (trail.stop run values.length) := by
  apply Replies.repeatStall (.filter found)
  simp only [none]
  exact (Guard.noProgress_iff (List.suffix_refl cursor)).mpr rfl

theorem Replies.runs_taken (found : grammar.lookup run = .ok (.filter accepts)) {first : Char}
    (accepted : accepts first = true) (rest : Text) (trail : Trail) :
    Replies grammar .noProgress (.repetition run [] (first :: rest)) trail
      (.ok ⟨.list [.text (first :: rest.takeWhile accepts)], rest.dropWhile accepts⟩)
      (trail.stop run 1) := by
  have taken : Replies grammar .noProgress (.attempt run (first :: rest)) trail _ trail :=
    .filter found
  rw [Primitive.matchRun, List.takeWhile_cons_of_pos accepted,
    List.dropWhile_cons_of_pos accepted] at taken
  have more := runs_end found (List.dropWhile_idempotent accepts rest)
    [.text (first :: rest.takeWhile accepts)] trail
  exact .repeatNext taken (progress_of_run accepts first rest) more

end Runs

/-- The group is a sequence of an opening bracket, a reference to the body and a closing
bracket. -/
def Grammar.Encloses (grammar : Grammar α) (group body : Parser) : Prop :=
  ∃ opening inner closing slot, grammar.lookup group = .ok (.sequence [opening, inner, closing]) ∧
    grammar.lookup opening = .ok (.char '[') ∧ grammar.lookup inner = .ok (.reference slot) ∧
    grammar.lookup closing = .ok (.char ']') ∧ grammar.resolve slot = .ok (some body)

namespace Grammar.Encloses

variable {group body : Parser} {guard : Guard} {value : Value α} {trail later : Trail}

theorem taken (encloses : grammar.Encloses group body) {tail after : Text}
    (run : Replies grammar guard (.attempt body tail) trail (.ok ⟨value, ']' :: after⟩) later) :
    Replies grammar guard (.attempt group ('[' :: tail)) trail
      (.ok ⟨.list [.char '[', value, .char ']'], after⟩) later := by
  obtain ⟨_, _, _, _, sequence, opening, reference, closing, bound⟩ := encloses
  have first := Replies.char_taken opening guard tail trail
  have inner := Replies.reference reference bound run
  have last := Replies.char_taken closing guard after later
  apply Replies.sequence sequence
  exact .sequenceNext first (.sequenceNext inner (.sequenceNext last .sequenceEnd))

theorem unopened (encloses : grammar.Encloses group body) {cursor : Text}
    (different : ∀ tail, cursor ≠ '[' :: tail) (guard : Guard) (trail : Trail) :
    ∃ failure, Replies grammar guard (.attempt group cursor) trail (.error failure) trail := by
  obtain ⟨_, _, _, _, sequence, opening, _⟩ := encloses
  obtain ⟨failure, first⟩ := Replies.char_refused opening guard different trail
  exact ⟨failure, .sequence sequence (.sequenceFailure first)⟩

theorem unclosed (encloses : grammar.Encloses group body) {tail rest : Text}
    (run : Replies grammar guard (.attempt body tail) trail (.ok ⟨value, rest⟩) later)
    (different : ∀ after, rest ≠ ']' :: after) :
    ∃ failure, Replies grammar guard (.attempt group ('[' :: tail)) trail (.error failure)
      later := by
  obtain ⟨_, _, _, _, sequence, opening, reference, closing, bound⟩ := encloses
  have first := Replies.char_taken opening guard tail trail
  have inner := Replies.reference reference bound run
  obtain ⟨failure, last⟩ := Replies.char_refused closing guard different later
  refine ⟨failure, .sequence sequence ?_⟩
  exact .sequenceNext first (.sequenceNext inner (.sequenceFailure last))

end Grammar.Encloses

end GrammarArena
