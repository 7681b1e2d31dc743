import GrammarArena.Proofs.BracketTrees

/-!
How often the text filter of the grammar of square brackets stops. Each attempt at an item stops it
once, behind the text that it takes or where there is none. An item that fails ends the body that it
was tried for, fails the groups around it and is not tried again, so that there are no more stops
than cursors.
-/

namespace GrammarArena

/-- The repetition of `run` stopped that often after one item and that often after none. -/
def Trail.Stops (run : Parser) (trail later : Trail) (texts empties : Nat) : Prop :=
  ∃ stalls, later.stalls = stalls ++ trail.stalls ∧
    stalls.Perm (List.replicate texts ⟨run, 1⟩ ++ List.replicate empties ⟨run, 0⟩)

namespace Trail.Stops

variable {run : Parser} {trail middle later : Trail}
  {texts empties more others allTexts allEmpties : Nat}

theorem refl (run : Parser) (trail : Trail) : Stops run trail trail 0 0 :=
  ⟨[], rfl, .nil⟩

theorem text (run : Parser) (trail : Trail) : Stops run trail (trail.stop run 1) 1 0 :=
  ⟨[⟨run, 1⟩], rfl, .refl _⟩

theorem empty (run : Parser) (trail : Trail) : Stops run trail (trail.stop run 0) 0 1 :=
  ⟨[⟨run, 0⟩], rfl, .refl _⟩

theorem trans (first : Stops run trail middle texts empties)
    (next : Stops run middle later more others) (sumTexts : allTexts = texts + more)
    (sumEmpties : allEmpties = empties + others) : Stops run trail later allTexts allEmpties := by
  obtain ⟨stalls, earlier, counted⟩ := first
  obtain ⟨newer, since, countedNewer⟩ := next
  refine ⟨newer ++ stalls, by rw [since, earlier, List.append_assoc], ?_⟩
  refine (countedNewer.append counted).trans (List.perm_iff_count.mpr ?_)
  intro stall
  simp only [List.count_append, List.count_replicate]
  split <;> split <;> omega

end Trail.Stops

namespace Brackets

variable {α : Type}

/-- The longest runs of characters that are no brackets. -/
def runs (text : Text) : List Text :=
  (text.splitOnP fun found => !isText found).filter (· ≠ [])

theorem runs_append_cons (front rest : Text) {bracket : Char} (noText : isText bracket = false) :
    runs (front ++ bracket :: rest) = runs front ++ runs rest := by
  rw [runs, List.splitOnP_append_cons _ _ (by rw [noText]; rfl), List.filter_append]
  rfl

theorem runs_of_text {run : Text} (notEmpty : run ≠ [])
    (plain : ∀ found ∈ run, isText found = true) : runs run = [run] := by
  rw [runs, List.splitOnP_eq_singleton fun found member => by rw [plain found member]; rfl]
  exact List.filter_cons_of_pos (decide_eq_true notEmpty)

theorem runs_opening (rest : Text) : runs ('[' :: rest) = runs rest :=
  runs_append_cons [] rest rfl

theorem runs_group (inner rest : Text) :
    runs ('[' :: (inner ++ ']' :: rest)) = runs inner ++ runs rest := by
  rw [runs_opening, runs_append_cons inner rest rfl]

theorem writtenAll_group (inner items : List Item) :
    writtenAll (.group inner :: items) =
      '[' :: (writtenAll inner ++ ']' :: writtenAll items) := by
  simp [writtenAll, Item.written]

theorem runs_text_written {run : Text} {items : List Item} (notEmpty : run ≠ [])
    (plain : ∀ found ∈ run, isText found = true)
    (apart : ∀ next more, items ≠ .text next :: more) :
    runs (run ++ writtenAll items) = run :: runs (writtenAll items) := by
  cases items with
  | nil => rw [writtenAll, List.append_nil, runs_of_text notEmpty plain]; rfl
  | cons item items =>
      cases item with
      | text next => exact absurd rfl (apart next items)
      | group inner =>
          rw [writtenAll_group, runs_append_cons run _ rfl, runs_of_text notEmpty plain,
            runs_opening]
          rfl

theorem count_opening_of_text {run : Text} (plain : ∀ found ∈ run, isText found = true) :
    run.count '[' = 0 := by
  refine List.count_eq_zero.mpr fun member => ?_
  exact absurd (plain '[' member) (by decide)

theorem Body.stops_le {items : List Item} (body : Body items) :
    (runs (writtenAll items)).length + 2 * (writtenAll items).count '[' ≤
      (writtenAll items).length := by
  induction body with
  | nil => exact Nat.le_refl 0
  | @text run items notEmpty plain _ apart ih =>
      have some := List.length_pos_of_ne_nil notEmpty
      rw [writtenAll, Item.written, runs_text_written notEmpty plain apart, List.count_append,
        count_opening_of_text plain, List.length_append, List.length_cons]
      omega
  | group _ _ ihInner ihItems =>
      rw [writtenAll_group, runs_group]
      simp only [List.count_cons, List.count_append, List.length_cons, List.length_append,
        beq_self_eq_true, Char.reduceBEq, Bool.false_eq_true, ↓reduceIte]
      omega

theorem dropWhile_written {items : List Item} (noText : ∀ next more, items ≠ .text next :: more)
    {rest : Text} (stands : rest.dropWhile isText = rest) :
    (writtenAll items ++ rest).dropWhile isText = writtenAll items ++ rest := by
  cases items with
  | nil => exact stands
  | cons item items =>
      cases item with
      | text run => exact absurd rfl (noText run items)
      | group inner => rfl

theorem dropWhile_stuck {rest : Text} (stuck : Stuck (fun _ => true) rest) :
    rest.dropWhile isText = rest := by
  rcases cases_of_stuck stuck with rfl | ⟨tail, rfl⟩ | ⟨tail, rfl, _⟩ <;> rfl

namespace Laid

variable {grammar : Grammar α} {base : Nat} {slot : Slot}

theorem item_unopened (laid : Laid grammar base slot) (rest : Text)
    (stands : rest.dropWhile isText = rest) (unopened : ∀ tail, rest ≠ '[' :: tail)
    (trail : Trail) :
    ∃ failure, Replies grammar .noProgress (.attempt ⟨base + 7⟩ rest) trail (.error failure)
      (trail.stop ⟨base⟩ 0) := by
  obtain ⟨failure, group⟩ :=
    laid.encloses.unopened unopened .noProgress (trail.stop ⟨base⟩ 0)
  exact ⟨failure, laid.item_refused stands group⟩

theorem item_text (laid : Laid grammar base slot) {run after : Text} (notEmpty : run ≠ [])
    (plain : ∀ found ∈ run, isText found = true) (stands : after.dropWhile isText = after)
    (trail : Trail) :
    Replies grammar .noProgress (.attempt ⟨base + 7⟩ (run ++ after)) trail
      (.ok ⟨.list [.text run], after⟩) (trail.stop ⟨base⟩ 1) := by
  have nothing : after.takeWhile isText = [] := by
    have whole := List.takeWhile_append_dropWhile (p := isText) (l := after)
    rwa [stands, List.append_left_eq_self] at whole
  cases run with
  | nil => contradiction
  | cons found run =>
      have later : ∀ next ∈ run, isText next = true :=
        fun next member => plain next (List.mem_cons_of_mem _ member)
      have taken := laid.text_taken (plain found List.mem_cons_self) (run ++ after) trail
      rw [List.takeWhile_append_of_pos later, List.dropWhile_append_of_pos later, nothing, stands,
        List.append_nil] at taken
      exact .branch (laid.lookup 7 rfl) (.branchSuccess taken)

end Laid

/-- With the items of a body behind it, the repetition goes on where they end, after so many
stops. -/
def Passes (grammar : Grammar α) (base : Nat) (values : List (Value α)) (items : List Item)
    (rest : Text) (trail : Trail) : Prop :=
  ∃ middle, Trail.Stops ⟨base⟩ trail middle (runs (writtenAll items)).length
      (2 * (writtenAll items).count '[') ∧
    ∀ reply later,
      Replies grammar .noProgress (.repetition ⟨base + 7⟩ ((valueAll items).reverse ++ values) rest)
        middle reply later →
      Replies grammar .noProgress (.repetition ⟨base + 7⟩ values (writtenAll items ++ rest)) trail
        reply later

namespace Laid

variable {grammar : Grammar α} {base : Nat} {slot : Slot}

theorem passes_text (laid : Laid grammar base slot) {run : Text} {items : List Item}
    (notEmpty : run ≠ []) (plain : ∀ found ∈ run, isText found = true)
    (apart : ∀ next more, items ≠ .text next :: more) {rest : Text}
    (stands : rest.dropWhile isText = rest) {values : List (Value α)} {trail : Trail}
    (next : Passes grammar base (.list [.text run] :: values) items rest (trail.stop ⟨base⟩ 1)) :
    Passes grammar base values (.text run :: items) rest trail := by
  obtain ⟨middle, stops, goesOn⟩ := next
  refine ⟨middle, (Trail.Stops.text ⟨base⟩ trail).trans stops ?_ ?_, ?_⟩
  · rw [writtenAll, Item.written, runs_text_written notEmpty plain apart, List.length_cons,
      Nat.add_comm]
  · rw [writtenAll, Item.written, List.count_append, count_opening_of_text plain]
    omega
  · intro reply later after
    have item := laid.item_text notEmpty plain (dropWhile_written apart stands) trail
    have progress : Guard.noProgress (run ++ (writtenAll items ++ rest))
        (writtenAll items ++ rest) = false := by
      apply Guard.progress_of_length_lt (List.suffix_append _ _)
      have some := List.length_pos_of_ne_nil notEmpty
      simp only [List.length_append]
      omega
    rw [valueAll, List.reverse_cons, List.append_assoc] at after
    rw [writtenAll, Item.written, List.append_assoc]
    exact .repeatNext item progress (goesOn reply later after)

theorem passes_group (laid : Laid grammar base slot) {inner items : List Item} {rest : Text}
    {values : List (Value α)} {trail : Trail}
    (body : Passes grammar base [] inner (']' :: (writtenAll items ++ rest)) (trail.stop ⟨base⟩ 0))
    (next : ∀ ending, Passes grammar base
      (.list [.char '[', .list (valueAll inner), .char ']'] :: values) items rest ending) :
    Passes grammar base values (.group inner :: items) rest trail := by
  -- Before the group is tried there is no text, and none where its body ends.
  obtain ⟨ending, stopsInner, closes⟩ := body
  obtain ⟨middle, stops, goesOn⟩ := next (ending.stop ⟨base⟩ 0)
  have opened := (Trail.Stops.empty ⟨base⟩ trail).trans stopsInner rfl rfl
  have closed := opened.trans (.empty ⟨base⟩ ending) rfl rfl
  refine ⟨middle, closed.trans stops ?_ ?_, ?_⟩
  · rw [writtenAll_group, runs_group, List.length_append]
    omega
  · rw [writtenAll_group]
    simp only [List.count_cons, List.count_append, beq_self_eq_true, Char.reduceBEq,
      Bool.false_eq_true, ↓reduceIte]
    omega
  · intro reply later after
    obtain ⟨failure, refused⟩ := laid.item_unopened (']' :: _) rfl (by simp) ending
    have bodyRun := Replies.repetition (laid.lookup 8 rfl) (closes _ _ (.repeatFailure refused))
    rw [List.append_nil, List.reverse_reverse] at bodyRun
    have group := laid.encloses.taken bodyRun
    have item := Replies.branch (laid.lookup 7 rfl)
      (Replies.branchNext (laid.text_refused rfl trail) (.branchSuccess group))
    have suffix : writtenAll items ++ rest <:+
        '[' :: (writtenAll inner ++ ']' :: (writtenAll items ++ rest)) :=
      ⟨'[' :: (writtenAll inner ++ [']']), by simp⟩
    have progress := Guard.progress_of_length_lt suffix (by
      simp only [List.length_cons, List.length_append]
      omega)
    rw [valueAll, List.reverse_cons, List.append_assoc] at after
    rw [writtenAll_group, List.cons_append, List.append_assoc, List.cons_append]
    exact .repeatNext item progress (goesOn reply later after)

theorem passes (laid : Laid grammar base slot) {items : List Item} (body : Body items)
    {rest : Text} (stands : rest.dropWhile isText = rest) (values : List (Value α))
    (trail : Trail) : Passes grammar base values items rest trail := by
  induction body generalizing rest values trail with
  | nil => exact ⟨trail, .refl _ _, fun _ _ run => run⟩
  | text notEmpty plain _ apart ih =>
      exact laid.passes_text notEmpty plain apart stands (ih stands _ _)
  | group _ _ ihInner ihItems =>
      exact laid.passes_group (ihInner rfl [] _) fun ending => ihItems stands _ ending

theorem item_stuck (laid : Laid grammar base slot) {rest : Text}
    (stuck : Stuck (fun _ => true) rest) (trail : Trail) :
    ∃ failure later texts empties,
      Replies grammar .noProgress (.attempt ⟨base + 7⟩ rest) trail (.error failure) later ∧
      Trail.Stops ⟨base⟩ trail later texts empties ∧ texts + empties ≤ rest.length + 1 := by
  induction size : rest.length using Nat.strong_induction_on generalizing rest trail with
  | _ size ih =>
      subst size
      rcases cases_of_stuck stuck with rfl | ⟨tail, rfl⟩ | ⟨tail, rfl, unclosed⟩
      · obtain ⟨failure, refused⟩ := laid.item_unopened [] rfl (by simp) trail
        exact ⟨failure, _, 0, 1, refused, .empty _ _, Nat.le_refl 1⟩
      · obtain ⟨failure, refused⟩ := laid.item_unopened (']' :: tail) rfl (by simp) trail
        exact ⟨failure, _, 0, 1, refused, .empty _ _, by simp⟩
      · -- The body behind the bracket ends where an item fails in turn, with less text left.
        obtain ⟨items, left, _, rfl, body, stuckLeft, _⟩ := laid.parse_body tail trail
        have different : ∀ after, left ≠ ']' :: after := by
          rintro after rfl
          exact unclosed _ _ rfl body.balanced
        obtain ⟨middle, stops, goesOn⟩ :=
          laid.passes body (dropWhile_stuck stuckLeft) [] (trail.stop ⟨base⟩ 0)
        have shorter : left.length < ('[' :: (writtenAll items ++ left)).length := by
          rw [List.length_cons, List.length_append]
          omega
        obtain ⟨_, later, texts, empties, refused, stopsLeft, few⟩ :=
          ih left.length shorter stuckLeft middle rfl
        have bodyRun := Replies.repetition (laid.lookup 8 rfl) (goesOn _ _ (.repeatFailure refused))
        obtain ⟨failure, group⟩ := laid.encloses.unclosed bodyRun different
        have opened := (Trail.Stops.empty ⟨base⟩ trail).trans stops rfl rfl
        refine ⟨failure, later, _, _, laid.item_refused rfl group,
          opened.trans stopsLeft rfl rfl, ?_⟩
        have fewItems := body.stops_le
        simp only [List.length_cons, List.length_append]
        omega

/-- On balanced text the filter stops behind each run of text, before each group and where a body
ends. -/
theorem body_stops (laid : Laid grammar base slot) (input : Text) (trail : Trail) :
    ∃ reply later texts empties,
      grammar.parse ⟨base + 8⟩ input trail = .ok (reply, later) ∧
      Trail.Stops ⟨base⟩ trail later texts empties ∧ texts + empties ≤ input.length + 1 ∧
      (Balanced (fun _ => true) input →
        texts = (runs input).length ∧ empties = 2 * input.count '[' + 1) := by
  obtain ⟨items, rest, _, rfl, body, stuck, parsed⟩ := laid.parse_body input trail
  obtain ⟨middle, stops, goesOn⟩ := laid.passes body (dropWhile_stuck stuck) [] trail
  have fewItems := body.stops_le
  have parse {failure : Failure} {later : Trail} (refused : Replies grammar .noProgress
      (.attempt ⟨base + 7⟩ rest) middle (.error failure) later) :=
    (Replies.repetition (laid.lookup 8 rfl) (goesOn _ _ (.repeatFailure refused))).parse_eq
      (by rw [parsed]; simp)
  -- Only where something is left can the last attempt be more than one stop.
  by_cases whole : rest = []
  · subst whole
    obtain ⟨failure, refused⟩ := laid.item_unopened [] rfl (by simp) middle
    refine ⟨_, _, _, _, parse refused, stops.trans (.empty _ _) rfl rfl, ?_, ?_⟩
    · rw [List.append_nil]
      omega
    · intro _
      rw [List.append_nil]
      exact ⟨rfl, rfl⟩
  · obtain ⟨failure, later, texts, empties, refused, stopsLeft, few⟩ := laid.item_stuck stuck middle
    refine ⟨_, _, _, _, parse refused, stops.trans stopsLeft rfl rfl, ?_, ?_⟩
    · rw [List.length_append]
      omega
    · intro balanced
      exact absurd (stuck.eq_nil_of_balanced body.balanced balanced) whole

end Laid

/-- However the input is bracketed, the text filter stops no more often than there are cursors, and
after one text or after none. On balanced input that is once behind each run of text, twice for each
group and once at the end. -/
theorem stalls_of_text (initial : Grammar α) :
    ∃ body run built, grammar initial = .ok (.ok body, built) ∧
      built.lookup run = .ok (.filter isText) ∧
      ∀ input trail, ∃ reply later stalls, built.run body input trail = .ok (reply, later) ∧
        later.stalls = stalls ++ trail.stalls ∧ stalls.length ≤ input.length + 1 ∧
        (∀ stall ∈ stalls, stall = ⟨run, 0⟩ ∨ stall = ⟨run, 1⟩) ∧
        (Balanced (fun _ => true) input →
          stalls.count ⟨run, 1⟩ =
            ((input.splitOnP fun found => !isText found).filter (· ≠ [])).length ∧
          stalls.count ⟨run, 0⟩ = 2 * input.count '[' + 1) := by
  have laid := laid_extend initial
  refine ⟨_, _, _, grammar_eq_extend initial, laid.lookup 0 rfl, ?_⟩
  intro input trail
  obtain ⟨reply, later, texts, empties, parsed, ⟨stalls, since, counted⟩, few, onBalanced⟩ :=
    laid.body_stops input trail
  have ran := Grammar.run_eq_of_parse parsed
  refine ⟨_, later, stalls, ran, since, ?_, ?_, ?_⟩
  · rw [counted.length_eq]
    simpa using few
  · intro stall member
    rw [counted.mem_iff, List.mem_append, List.mem_replicate, List.mem_replicate] at member
    exact member.symm.imp And.right And.right
  · intro balanced
    obtain ⟨rfl, rfl⟩ := onBalanced balanced
    rw [counted.count_eq, counted.count_eq]
    simp [List.count_replicate, runs]

end Brackets

end GrammarArena
