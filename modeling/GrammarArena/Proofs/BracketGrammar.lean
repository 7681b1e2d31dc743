import GrammarArena.Brackets
import GrammarArena.Proofs.Balance
import GrammarArena.Proofs.Idioms
import GrammarArena.Proofs.Layout

/-!
The grammar of square brackets takes the longest balanced text at the front of its input,
whatever the grammar it is added to already holds.
-/

namespace GrammarArena.Brackets

variable {α : Type}

def nodes (base : Nat) (slot : Slot) : List (Node α) :=
  [.filter isText, .repetition ⟨base⟩,
    .map ⟨base + 1⟩ fun success => pure (Builder.requireItems success),
    .char '[', .reference slot, .char ']', .sequence [⟨base + 3⟩, ⟨base + 4⟩, ⟨base + 5⟩],
    .branch [⟨base + 2⟩, ⟨base + 6⟩], .repetition ⟨base + 7⟩]

structure Laid (grammar : Grammar α) (base : Nat) (slot : Slot) : Prop where
  lookup : ∀ (offset : Nat) {node}, (nodes base slot)[offset]? = some node →
    grammar.lookup ⟨base + offset⟩ = .ok node
  bound : grammar.resolve slot = .ok (some ⟨base + 8⟩)

theorem grammar_eq_extend (initial : Grammar α) :
    grammar initial = .ok (.ok ⟨initial.size + 8⟩,
      initial.extend (nodes initial.size ⟨initial.slots.size⟩) [some ⟨initial.size + 8⟩]) := by
  have begins : grammar initial = grammar (initial.extend [] []) := by rw [Grammar.extend_nil]
  have free : ([none] : List (Option Parser))[0]? = some none := rfl
  rw [begins]
  simp only [grammar, Builder.filter, Builder.nonEmptyRepetition, Builder.repetition, Builder.map,
    Builder.char, Builder.reference, Builder.sequence, Builder.branch, bind_assoc,
    Builder.newSlot_bind, Builder.register_bind, List.nil_append, List.length_nil,
    Builder.bindSlot_bind initial _ _ free]
  rfl

theorem laid_extend (initial : Grammar α) :
    Laid (initial.extend (nodes initial.size ⟨initial.slots.size⟩) [some ⟨initial.size + 8⟩])
      initial.size ⟨initial.slots.size⟩ where
  lookup := fun _ _ listed => Grammar.lookup_extend listed _
  bound := by
    have listed : [some (Parser.mk (initial.size + 8))][0]? = some (some ⟨initial.size + 8⟩) := rfl
    exact Grammar.resolve_extend listed _

namespace Laid

variable {grammar : Grammar α} {base : Nat} {slot : Slot}

theorem descends : Grammar.Descends base 0 (nodes (α := α) base slot) := by
  simp [nodes, Grammar.Descends, Node.children, Grammar.Among]

theorem fragment (laid : Laid grammar base slot) : grammar.Fragment base (nodes base slot) := by
  apply Grammar.Fragment.of_descends laid.lookup descends
  intro other member
  simp only [nodes, List.mem_cons, reduceCtorEq, Node.reference.injEq, List.not_mem_nil, false_or,
    or_false] at member
  rw [member]
  exact ⟨_, laid.bound, by simp [nodes, Grammar.Among]⟩

theorem encloses (laid : Laid grammar base slot) : grammar.Encloses ⟨base + 6⟩ ⟨base + 8⟩ :=
  ⟨_, _, _, _, laid.lookup 6 rfl, laid.lookup 3 rfl, laid.lookup 4 rfl, laid.lookup 5 rfl,
    laid.bound⟩

theorem closed (laid : Laid grammar base slot) :
    grammar.Closed (Grammar.Among base 9) Transform.KeepsSuffix := by
  apply laid.fragment.closed
  intro inner transform member
  simp only [nodes, List.mem_cons, reduceCtorEq, false_or, or_false, List.not_mem_nil,
    Node.map.injEq] at member
  rw [member.2]
  exact Builder.requireItems_keepsSuffix

theorem ranked (laid : Laid grammar base slot) :
    grammar.Ranked (Grammar.Among base 9) fun parser =>
      Grammar.lateRank 9 4 (parser.index - base) := by
  -- The body is tried at the cursor of the reference to it, but the reference only behind a
  -- bracket.
  have opening := Grammar.not_nullable_of_char (laid.lookup 3 rfl)
  apply laid.fragment.ranked_of_descends descends
  · simp [nodes]
  · rintro other ⟨⟩
    rw [laid.bound]
    simp
  · simp [nodes, Node.children, opening]

end Laid

inductive Item where
  | text (run : Text)
  | group (body : List Item)

mutual

def Item.written : Item → Text
  | .text run => run
  | .group body => '[' :: (writtenAll body ++ [']'])

def writtenAll : List Item → Text
  | [] => []
  | item :: items => item.written ++ writtenAll items

end

mutual

def Item.value : Item → Value α
  | .text run => .list [.text run]
  | .group body => .list [.char '[', .list (valueAll body), .char ']']

def valueAll : List Item → List (Value α)
  | [] => []
  | item :: items => item.value :: valueAll items

end

/-- Texts are not empty and hold no bracket, and no text stands next to another. -/
inductive Body : List Item → Prop
  | nil : Body []
  | text {run items} : run ≠ [] → (∀ found ∈ run, isText found = true) → Body items →
      (∀ next more, items ≠ .text next :: more) → Body (.text run :: items)
  | group {inner items} : Body inner → Body items → Body (.group inner :: items)

theorem Body.balanced {items : List Item} (body : Body items) :
    Balanced (fun _ => true) (writtenAll items) := by
  induction body with
  | nil => exact .nil
  | text _ plain _ _ ih =>
      apply Balanced.append (Balanced.of_all _) ih
      intro found member
      have notBracket := plain found member
      simp only [isText, Bool.and_eq_true, decide_eq_true_eq] at notBracket
      exact ⟨notBracket.1, notBracket.2, rfl⟩
  | group _ _ ihInner ihItems =>
      simp only [writtenAll, Item.written, List.cons_append, List.append_assoc, List.nil_append]
      exact .group ihInner ihItems

theorem Body.no_text_after_run {items : List Item} (body : Body items) {cursor rest : Text}
    (after : cursor.dropWhile isText = writtenAll items ++ rest) (next : Text)
    (more : List Item) : items ≠ .text next :: more := by
  rintro rfl
  cases body with
  | text notEmpty plain _ _ =>
      cases next with
      | nil => exact notEmpty rfl
      | cons found next =>
          have head := List.head?_dropWhile_not isText cursor
          rw [after] at head
          have accepted := plain found List.mem_cons_self
          simp [writtenAll, Item.written, accepted] at head

namespace Laid

variable {grammar : Grammar α} {base : Nat} {slot : Slot}

theorem text_taken (laid : Laid grammar base slot) {found : Char} (plain : isText found = true)
    (rest : Text) (trail : Trail) :
    Replies grammar .noProgress (.attempt ⟨base + 2⟩ (found :: rest)) trail
      (.ok ⟨.list [.text (found :: rest.takeWhile isText)], rest.dropWhile isText⟩)
      (trail.stop ⟨base⟩ 1) := by
  have items := Replies.repetition (laid.lookup 1 rfl)
    (.runs_taken (laid.lookup 0 rfl) plain rest trail)
  exact Replies.mapSuccess (laid.lookup 2 rfl) items

theorem text_refused (laid : Laid grammar base slot) {cursor : Text}
    (none : cursor.dropWhile isText = cursor) (trail : Trail) :
    Replies grammar .noProgress (.attempt ⟨base + 2⟩ cursor) trail (.error (.atCursor cursor))
      (trail.stop ⟨base⟩ 0) := by
  have items := Replies.repetition (laid.lookup 1 rfl)
    (.runs_end (laid.lookup 0 rfl) none [] trail)
  exact Replies.mapSuccess (laid.lookup 2 rfl) items

theorem item_refused (laid : Laid grammar base slot) {cursor : Text}
    (none : cursor.dropWhile isText = cursor) {failure : Failure} {trail later : Trail}
    (group : Replies grammar .noProgress (.attempt ⟨base + 6⟩ cursor) (trail.stop ⟨base⟩ 0)
      (.error failure) later) :
    Replies grammar .noProgress (.attempt ⟨base + 7⟩ cursor) trail (.error failure) later := by
  apply Replies.branch (laid.lookup 7 rfl)
  exact .branchNext (laid.text_refused none trail) (.branchNext group .branchEnd)

end Laid

/-- The items of a body, after the values so far, are taken up to where nothing balanced
follows. -/
def Takes (grammar : Grammar α) (base : Nat) (values : List (Value α)) (cursor : Text)
    (trail : Trail) : Prop :=
  ∃ items rest later, cursor = writtenAll items ++ rest ∧ Body items ∧
    Stuck (fun _ => true) rest ∧
    Replies grammar .noProgress (.repetition ⟨base + 7⟩ values cursor) trail
      (.ok ⟨.list (values.reverse ++ valueAll items), rest⟩) later

namespace Laid

variable {grammar : Grammar α} {base : Nat} {slot : Slot}

theorem takes_nothing {values : List (Value α)} {cursor : Text} {failure : Failure}
    {trail later : Trail} (stuck : Stuck (fun _ => true) cursor)
    (refused : Replies grammar .noProgress (.attempt ⟨base + 7⟩ cursor) trail (.error failure)
      later) : Takes grammar base values cursor trail := by
  refine ⟨[], cursor, later, rfl, .nil, stuck, ?_⟩
  rw [valueAll, List.append_nil]
  exact .repeatFailure refused

theorem takes_text (laid : Laid grammar base slot) {found : Char} (plain : isText found = true)
    {rest : Text} {values : List (Value α)} {trail : Trail}
    (next : Takes grammar base (.list [.text (found :: rest.takeWhile isText)] :: values)
      (rest.dropWhile isText) (trail.stop ⟨base⟩ 1)) :
    Takes grammar base values (found :: rest) trail := by
  obtain ⟨items, left, later, split, body, stuck, run⟩ := next
  refine ⟨.text (found :: rest.takeWhile isText) :: items, left, later, ?_, ?_, stuck, ?_⟩
  · rw [writtenAll, Item.written, List.append_assoc, ← split, List.cons_append,
      List.takeWhile_append_dropWhile]
  · refine .text (List.cons_ne_nil _ _) ?_ body (body.no_text_after_run split)
    intro other member
    rcases List.mem_cons.mp member with rfl | later
    · exact plain
    · exact List.mem_takeWhile_imp later
  · have item := Replies.branch (laid.lookup 7 rfl)
      (Replies.branchSuccess (laid.text_taken plain rest trail))
    rw [List.reverse_cons, List.append_assoc] at run
    exact .repeatNext item (progress_of_run isText found rest) run

theorem takes_group (laid : Laid grammar base slot) {inner : List Item} (body : Body inner)
    {after : Text} {values : List (Value α)} {trail middle : Trail}
    (bodyRun : Replies grammar .noProgress (.attempt ⟨base + 8⟩ (writtenAll inner ++ ']' :: after))
      (trail.stop ⟨base⟩ 0) (.ok ⟨.list (valueAll inner), ']' :: after⟩) middle)
    (next : Takes grammar base (.list [.char '[', .list (valueAll inner), .char ']'] :: values)
      after middle) :
    Takes grammar base values ('[' :: (writtenAll inner ++ ']' :: after)) trail := by
  obtain ⟨items, left, later, split, rest, stuck, run⟩ := next
  refine ⟨.group inner :: items, left, later, ?_, .group body rest, stuck, ?_⟩
  · simp [writtenAll, Item.written, split]
  · have group := laid.encloses.taken bodyRun
    have item := Replies.branch (laid.lookup 7 rfl)
      (Replies.branchNext (laid.text_refused rfl trail) (.branchSuccess group))
    have suffix : after <:+ '[' :: (writtenAll inner ++ ']' :: after) :=
      ⟨'[' :: (writtenAll inner ++ [']']), by simp⟩
    have progress := Guard.progress_of_length_lt suffix (by simp; omega)
    rw [List.reverse_cons, List.append_assoc] at run
    exact .repeatNext item progress run

theorem takes (laid : Laid grammar base slot) (values : List (Value α)) (cursor : Text)
    (trail : Trail) : Takes grammar base values cursor trail := by
  induction size : cursor.length using Nat.strong_induction_on generalizing values cursor trail with
  | _ size ih =>
      subst size
      cases cursor with
      | nil =>
          have unopened : ∀ tail, ([] : Text) ≠ '[' :: tail := by simp
          obtain ⟨failure, group⟩ :=
            laid.encloses.unopened unopened .noProgress (trail.stop ⟨base⟩ 0)
          exact takes_nothing .nil (laid.item_refused rfl group)
      | cons found rest =>
          by_cases plain : isText found = true
          · exact laid.takes_text plain (ih _ (length_after_run_lt isText found rest) _ _ _ rfl)
          · have bracket : found = '[' ∨ found = ']' := by
              simp only [isText, Bool.and_eq_true, decide_eq_true_eq] at plain
              by_contra neither
              exact plain (not_or.mp neither)
            rcases bracket with rfl | rfl
            · obtain ⟨inner, left, middle, split, body, stuck, run⟩ :=
                ih _ (Nat.lt_succ_self rest.length) [] rest (trail.stop ⟨base⟩ 0) rfl
              subst split
              have bodyRun := Replies.repetition (laid.lookup 8 rfl) run
              by_cases closed : ∃ after, left = ']' :: after
              · obtain ⟨after, rfl⟩ := closed
                exact laid.takes_group body bodyRun (ih after.length (by simp; omega) _ _ _ rfl)
              · have unclosed := not_exists.mp closed
                have longest := LongestBalanced.of_stuck body.balanced stuck
                obtain ⟨failure, group⟩ := laid.encloses.unclosed bodyRun unclosed
                exact takes_nothing (.opening longest unclosed) (laid.item_refused rfl group)
            · have unopened : ∀ tail, ']' :: rest ≠ '[' :: tail := by simp
              obtain ⟨failure, group⟩ :=
                laid.encloses.unopened unopened .noProgress (trail.stop ⟨base⟩ 0)
              exact takes_nothing (.closing rest) (laid.item_refused rfl group)

theorem parse_body (laid : Laid grammar base slot) (input : Text) (trail : Trail) :
    ∃ items rest later, input = writtenAll items ++ rest ∧ Body items ∧
      Stuck (fun _ => true) rest ∧
      grammar.parse ⟨base + 8⟩ input trail = .ok (.ok ⟨.list (valueAll items), rest⟩, later) := by
  obtain ⟨items, rest, later, split, body, stuck, run⟩ := laid.takes [] input trail
  have inside : Grammar.Among base 9 ⟨base + 8⟩ := ⟨Nat.le_add_right _ _, Nat.lt_succ_self _⟩
  have ended := Grammar.Ranked.parse_ne_outOfSteps laid.closed laid.ranked inside input trail
  have bodyRun := Replies.repetition (laid.lookup 8 rfl) run
  exact ⟨items, rest, later, split, body, stuck, bodyRun.parse_eq ended⟩

end Laid

theorem cases_of_stuck {rest : Text} (stuck : Stuck (fun _ => true) rest) :
    rest = [] ∨ (∃ tail, rest = ']' :: tail) ∨
      ∃ tail, rest = '[' :: tail ∧
        ∀ inner after, tail = inner ++ ']' :: after → ¬ Balanced (fun _ => true) inner := by
  rcases stuck.eq_nil_or_obstructed with rfl | obstructed
  · exact Or.inl rfl
  · cases obstructed with
    | closing => exact Or.inr (Or.inl ⟨_, rfl⟩)
    | unclosed unclosed => exact Or.inr (Or.inr ⟨_, rfl, unclosed⟩)
    | forbidden _ _ refused => contradiction

/-- Added to any grammar, the brackets take the longest balanced front of every input. They
accept the whole input exactly if it is balanced; otherwise the failure names the character
behind that front, which is a closing bracket without an opening one or an opening bracket that
is never closed. -/
theorem brackets_decide_balance (initial : Grammar α) :
    ∃ body built, grammar initial = .ok (.ok body, built) ∧ ∀ input trail,
      ∃ value front rest later, input = front ++ rest ∧
        LongestBalanced (fun _ => true) front input ∧
        built.parse body input trail = .ok (.ok ⟨value, rest⟩, later) ∧
        (Balanced (fun _ => true) input →
          built.run body input trail = .ok (.ok ⟨value, []⟩, later)) ∧
        (¬ Balanced (fun _ => true) input → ∃ found tail, rest = found :: tail ∧
          built.run body input trail = .ok (.error (.unexpected found), later) ∧
          (found = ']' ∨ found = '[' ∧
            ∀ inner after, tail = inner ++ ']' :: after → ¬ Balanced (fun _ => true) inner)) := by
  refine ⟨_, _, grammar_eq_extend initial, ?_⟩
  intro input trail
  obtain ⟨items, rest, later, rfl, body, stuck, parsed⟩ :=
    (laid_extend initial).parse_body input trail
  have ran := Grammar.run_eq_of_parse parsed
  have longest := LongestBalanced.of_stuck body.balanced stuck
  refine ⟨.list (valueAll items), writtenAll items, rest, later, rfl, longest, parsed, ?_, ?_⟩
  · intro balanced
    have whole := longest.longest _ (List.prefix_refl _) balanced
    rw [List.length_append] at whole
    have nothing : rest = [] := List.eq_nil_of_length_eq_zero (by omega)
    subst nothing
    exact ran
  · intro unbalanced
    rcases cases_of_stuck stuck with rfl | ⟨tail, rfl⟩ | ⟨tail, rfl, unclosed⟩
    · rw [List.append_nil] at unbalanced
      exact absurd body.balanced unbalanced
    · exact ⟨']', tail, rfl, ran, Or.inl rfl⟩
    · exact ⟨'[', tail, rfl, ran, Or.inr ⟨rfl, unclosed⟩⟩

end GrammarArena.Brackets
