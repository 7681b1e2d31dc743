import GrammarArena.Proofs.ProgressGuard
import GrammarArena.Proofs.Unfolding

/-!
What a repetition comes to, said without its loop. The item is tried where it stopped before, for
as long as it succeeds and takes something; the successes make a chain, and there is only one that
cannot go on. If the item ends wherever it is tried, then so does the repetition.
-/

namespace GrammarArena

variable {α : Type}

namespace Grammar

/-- Successes of the parser one behind the other, which lead from a cursor and a trail to a rest
and a trail. Each begins where the one before it stopped, and takes something. -/
inductive Chain (grammar : Grammar α) (inner : Parser) :
    Text → Trail → List (Success α) → Text → Trail → Prop
  | done {cursor trail} : Chain grammar inner cursor trail [] cursor trail
  | link {cursor trail success middle links rest later} :
      grammar.Ends .noProgress inner cursor trail (.ok success) middle →
      success.rest <:+ cursor → success.rest.length < cursor.length →
      Chain grammar inner success.rest middle links rest later →
      Chain grammar inner cursor trail (success :: links) rest later

/-- What ends a chain of so many links: at the cursor the parser fails, or it succeeds without
taking anything, and then the trail tells of it. -/
inductive Stops (grammar : Grammar α) (inner : Parser) (count : Nat) :
    Text → Trail → Trail → Prop
  | failure {cursor trail failure later} :
      grammar.Ends .noProgress inner cursor trail (.error failure) later →
      Stops grammar inner count cursor trail later
  | standstill {cursor trail value later} :
      grammar.Ends .noProgress inner cursor trail (.ok ⟨value, cursor⟩) later →
      Stops grammar inner count cursor trail (later.stop inner count)

def Advances (grammar : Grammar α) (parser : Parser) (cursor : Text) (trail : Trail) : Prop :=
  ∃ success later, grammar.Ends .noProgress parser cursor trail (.ok success) later ∧
    success.rest.length < cursor.length

variable {grammar : Grammar α} {inner : Parser} {known : Nat} {cursor rest : Text}
  {trail middle later : Trail} {links : List (Success α)}

theorem Chain.rest_suffix (chain : grammar.Chain inner cursor trail links rest middle) :
    rest <:+ cursor := by
  induction chain with
  | done => exact List.suffix_refl _
  | link _ suffix _ _ ih => exact ih.trans suffix

theorem Chain.length_le (chain : grammar.Chain inner cursor trail links rest middle) :
    links.length ≤ cursor.length := by
  induction chain with
  | done => exact Nat.zero_le _
  | link _ _ shorter _ ih =>
      rw [List.length_cons]
      omega

theorem Stops.not_advances {count : Nat} (stops : grammar.Stops inner count cursor trail later) :
    ¬ grammar.Advances inner cursor trail := by
  rintro ⟨success, middle, ended, shorter⟩
  cases stops with
  | failure failed => cases (failed.unique ended).1
  | standstill still =>
      cases (still.unique ended).1
      exact Nat.lt_irrefl _ shorter

theorem Ends.rest_eq_or_shorter (keeps : grammar.EachTransform inner Transform.KeepsSuffix)
    {success : Success α}
    (ended : grammar.Ends .noProgress inner cursor trail (.ok success) later) :
    success.rest = cursor ∨ success.rest.length < cursor.length := by
  have suffix := ended.rest_suffix keeps
  rcases Nat.lt_or_ge success.rest.length cursor.length with shorter | long
  · exact Or.inr shorter
  · exact Or.inl (suffix.eq_of_length_le long)

theorem Ends.exists_stops (keeps : grammar.EachTransform inner Transform.KeepsSuffix)
    {reply : Reply α} (ended : grammar.Ends .noProgress inner cursor trail reply middle)
    (idle : ¬ grammar.Advances inner cursor trail) (count : Nat) :
    ∃ later, grammar.Stops inner count cursor trail later := by
  cases reply with
  | error failure => exact ⟨_, .failure ended⟩
  | ok success =>
      obtain ⟨value, rest⟩ := success
      rcases ended.rest_eq_or_shorter keeps with rfl | shorter
      · exact ⟨_, .standstill ended⟩
      · exact (idle ⟨_, middle, ended, shorter⟩).elim

theorem Chain.unique {count number : Nat} {others : List (Success α)} {goal : Text}
    {between after : Trail} (chain : grammar.Chain inner cursor trail links rest middle)
    (stops : grammar.Stops inner count rest middle later)
    (other : grammar.Chain inner cursor trail others goal between)
    (stopsThere : grammar.Stops inner number goal between after) :
    others = links ∧ goal = rest := by
  induction chain generalizing others with
  | done =>
      cases other with
      | done => exact ⟨rfl, rfl⟩
      | link ended _ shorter _ => exact (stops.not_advances ⟨_, _, ended, shorter⟩).elim
  | link ended _ shorter _ ih =>
      cases other with
      | done => exact (stopsThere.not_advances ⟨_, _, ended, shorter⟩).elim
      | link again _ _ further =>
          obtain ⟨same, rfl⟩ := again.unique ended
          cases same
          obtain ⟨rfl, rfl⟩ := ih stops further
          exact ⟨rfl, rfl⟩

theorem Stops.recount {count : Nat} (stops : grammar.Stops inner count cursor trail later)
    (number : Nat) : ∃ after, grammar.Stops inner number cursor trail after := by
  cases stops with
  | failure failed => exact ⟨_, .failure failed⟩
  | standstill still => exact ⟨_, .standstill still⟩

theorem Chain.known_le (chain : grammar.Chain inner cursor trail links rest middle)
    (pure : grammar.EachTransform inner (Transform.Pure known)) (made : known ≤ trail.nextSerial) :
    known ≤ middle.nextSerial := by
  induction chain with
  | done => exact made
  | link ended _ _ _ ih => exact ih (ended.known_le pure made)

theorem Stops.again {count : Nat} (stops : grammar.Stops inner count cursor trail later)
    (pure : grammar.EachTransform inner (Transform.Pure known)) (made : known ≤ trail.nextSerial)
    {start : Trail} (madeAgain : known ≤ start.nextSerial) (number : Nat) :
    ∃ after, grammar.Stops inner number cursor start after := by
  cases stops with
  | failure failed =>
      obtain ⟨after, again⟩ := failed.failure_again pure made madeAgain
      exact ⟨after, .failure again⟩
  | standstill still =>
      obtain ⟨value, after, again, _⟩ := still.success_again pure made madeAgain
      exact ⟨_, .standstill again⟩

theorem Advances.again (advances : grammar.Advances inner cursor trail)
    (pure : grammar.EachTransform inner (Transform.Pure known)) (made : known ≤ trail.nextSerial)
    {start : Trail} (madeAgain : known ≤ start.nextSerial) :
    grammar.Advances inner cursor start := by
  obtain ⟨success, later, ended, shorter⟩ := advances
  obtain ⟨value, after, again, _⟩ := ended.success_again pure made madeAgain
  exact ⟨_, after, again, shorter⟩

end Grammar

section Loop

variable {grammar : Grammar α} {inner : Parser} {cursor rest : Text} {trail middle later : Trail}
  {links : List (Success α)}

theorem Replies.of_chain (chain : grammar.Chain inner cursor trail links rest middle)
    (values : List (Value α))
    (stops : grammar.Stops inner (values.length + links.length) rest middle later) :
    Replies grammar .noProgress (.repetition inner values cursor) trail
      (.ok ⟨.list (values.reverse ++ links.map Success.value), rest⟩) later := by
  induction chain generalizing values with
  | @done cursor _ =>
      rw [List.map_nil, List.append_nil]
      cases stops with
      | failure failed => exact .repeatFailure (ends_iff_replies.mp failed)
      | standstill still =>
          have stands := (Guard.noProgress_iff (List.suffix_refl cursor)).mpr rfl
          exact .repeatStall (ends_iff_replies.mp still) stands
  | @link _ _ success _ links _ _ ended suffix shorter _ ih =>
      have count : values.length + (success :: links).length =
          (success.value :: values).length + links.length := by
        simp only [List.length_cons]
        omega
      rw [count] at stops
      have next := ih (success.value :: values) stops
      rw [List.reverse_cons, List.append_assoc, List.singleton_append] at next
      rw [List.map_cons]
      exact .repeatNext (ends_iff_replies.mp ended)
        (Guard.progress_of_length_lt suffix shorter) next

theorem Replies.exists_chain (keeps : grammar.EachTransform inner Transform.KeepsSuffix)
    {values : List (Value α)} {reply : Reply α}
    (run : Replies grammar .noProgress (.repetition inner values cursor) trail reply later) :
    ∃ links rest middle, grammar.Chain inner cursor trail links rest middle ∧
      grammar.Stops inner (values.length + links.length) rest middle later ∧
      reply = .ok ⟨.list (values.reverse ++ links.map Success.value), rest⟩ := by
  generalize taskEq : Task.repetition inner values cursor = task at run
  induction run generalizing values cursor with
  | @repeatFailure _ _ place _ _ _ failed =>
      cases taskEq
      exact ⟨[], place, _, .done, .failure (ends_iff_replies.mpr failed), by simp⟩
  | @repeatStall _ _ place _ success _ first stands =>
      cases taskEq
      have ended := ends_iff_replies.mpr first
      have same : success.rest = place := (Guard.noProgress_iff (ended.rest_suffix keeps)).mp stands
      obtain ⟨value, _⟩ := success
      subst same
      exact ⟨[], _, _, .done, .standstill ended, by simp⟩
  | @repeatNext _ _ _ _ success _ _ _ first goesOn _ _ ih =>
      cases taskEq
      have ended := ends_iff_replies.mpr first
      have suffix := ended.rest_suffix keeps
      have shorter := Guard.length_lt_of_progress suffix goesOn
      obtain ⟨links, rest, middle, chain, stops, rfl⟩ := ih rfl
      refine ⟨success :: links, rest, middle, .link ended suffix shorter chain, ?_, ?_⟩
      · rw [List.length_cons] at stops ⊢
        rwa [Nat.add_right_comm] at stops
      · rw [List.reverse_cons, List.append_assoc, List.singleton_append, List.map_cons]
  | _ => cases taskEq

theorem Grammar.ends_repetition_iff {parser : Parser}
    (found : grammar.lookup parser = .ok (.repetition inner))
    (keeps : grammar.EachTransform inner Transform.KeepsSuffix) {reply : Reply α} :
    grammar.Ends .noProgress parser cursor trail reply later ↔
      ∃ links rest middle, grammar.Chain inner cursor trail links rest middle ∧
        grammar.Stops inner links.length rest middle later ∧
        reply = .ok ⟨.list (links.map Success.value), rest⟩ := by
  rw [ends_iff_replies, Replies.loop_iff found rfl]
  constructor
  · intro run
    simpa using run.exists_chain keeps
  · rintro ⟨links, rest, middle, chain, stops, rfl⟩
    rw [← Nat.zero_add links.length] at stops
    exact Replies.of_chain chain [] stops

theorem Grammar.exists_chain (keeps : grammar.EachTransform inner Transform.KeepsSuffix)
    (ends : ∀ place, place <:+ cursor → ∀ start, ∃ reply after,
      grammar.Ends .noProgress inner place start reply after) (trail : Trail) (count : Nat) :
    ∃ links rest middle later, grammar.Chain inner cursor trail links rest middle ∧
      grammar.Stops inner (count + links.length) rest middle later := by
  generalize bound : cursor.length = length
  induction length using Nat.strongRecOn generalizing cursor trail count with
  | ind length ih =>
      by_cases advances : grammar.Advances inner cursor trail
      · obtain ⟨success, middle, ended, shorter⟩ := advances
        have suffix := ended.rest_suffix keeps
        have endsThere : ∀ place, place <:+ success.rest → ∀ start, ∃ reply after,
            grammar.Ends .noProgress inner place start reply after :=
          fun place below => ends place (below.trans suffix)
        obtain ⟨links, rest, last, later, chain, stops⟩ :=
          ih success.rest.length (by omega) endsThere middle (count + 1) rfl
        refine ⟨success :: links, rest, last, later, .link ended suffix shorter chain, ?_⟩
        rwa [List.length_cons, ← Nat.add_assoc, Nat.add_right_comm]
      · obtain ⟨reply, middle, ended⟩ := ends cursor (List.suffix_refl cursor) trail
        obtain ⟨later, stops⟩ := ended.exists_stops keeps advances count
        exact ⟨[], cursor, trail, later, .done, stops⟩

end Loop

/-- If the item ends with a reply wherever in the input it is tried, then the repetition ends, never
with a failure, and its reply is the one chain of successes that cannot go on. -/
theorem repetition_is_chain {grammar : Grammar α} {parser inner : Parser}
    (found : grammar.lookup parser = .ok (.repetition inner))
    (keeps : grammar.EachTransform inner Transform.KeepsSuffix) {input : Text}
    (ends : ∀ cursor, cursor <:+ input → ∀ start, ∃ reply after,
      grammar.Ends .noProgress inner cursor start reply after) (trail : Trail) :
    ∃ links rest middle later,
      grammar.Chain inner input trail links rest middle ∧
      grammar.Stops inner links.length rest middle later ∧
      (∀ others goal between after, grammar.Chain inner input trail others goal between →
        grammar.Stops inner others.length goal between after → others = links ∧ goal = rest) ∧
      links.length ≤ input.length ∧
      grammar.Ends .noProgress parser input trail
        (.ok ⟨.list (links.map Success.value), rest⟩) later ∧
      ∀ reply after, grammar.Ends .noProgress parser input trail reply after →
        reply = .ok ⟨.list (links.map Success.value), rest⟩ := by
  obtain ⟨links, rest, middle, later, chain, stops⟩ :=
    Grammar.exists_chain keeps ends trail 0
  rw [Nat.zero_add] at stops
  have ended := (Grammar.ends_repetition_iff found keeps).mpr
    ⟨links, rest, middle, chain, stops, rfl⟩
  refine ⟨links, rest, middle, later, chain, stops, ?_, chain.length_le, ended, ?_⟩
  · intro others goal between after other stopsThere
    exact chain.unique stops other stopsThere
  · intro reply after again
    exact (again.unique ended).1

def groupedItems : Grammar Nat where
  nodes := #[.satisfy Char.isDigit, .map ⟨0⟩ digitPayload, .filter (· = 'λ'), .char '(',
    .reference ⟨0⟩, .char ')', .sequence [⟨3⟩, ⟨4⟩, ⟨5⟩], .branch [⟨6⟩, ⟨1⟩, ⟨2⟩], .repetition ⟨7⟩,
    .repetition ⟨8⟩, .sequence [⟨7⟩, ⟨8⟩]]
  slots := #[some ⟨8⟩]

def groupedText : Text :=
  ['λ', '(', '7', ')', '4', 'x']

def groupedValues : List (Value Nat) :=
  [.text ['λ'], .list [.char '(', .list [.custom 0 55], .char ')'], .custom 1 52]

theorem groupedItems_each {property : Transform Nat → Prop} (holds : property digitPayload)
    (parser : Parser) : groupedItems.EachTransform parser property := by
  apply Grammar.EachTransform.of_transforms
  exact holds

theorem groupedItems_ends : groupedItems.Ends .noProgress ⟨8⟩ groupedText {}
    (.ok ⟨.list groupedValues, ['x']⟩) ⟨2, [⟨⟨7⟩, 3⟩, ⟨⟨7⟩, 1⟩]⟩ :=
  ⟨12, rfl⟩

theorem groupedItems_is_chain :
    groupedItems.lookup ⟨8⟩ = .ok (.repetition ⟨7⟩) ∧
    groupedItems.EachTransform ⟨7⟩ Transform.KeepsSuffix ∧
    (∀ cursor, cursor <:+ groupedText → ∀ start, ∃ reply after,
      groupedItems.Ends .noProgress ⟨7⟩ cursor start reply after) ∧
    ∃ links middle later, groupedItems.Chain ⟨7⟩ groupedText {} links ['x'] middle ∧
      groupedItems.Stops ⟨7⟩ links.length ['x'] middle later ∧
      links.map Success.value = groupedValues ∧ links.length ≤ groupedText.length := by
  have keeps := groupedItems_each digitPayload_keepsSuffix ⟨7⟩
  have ends : ∀ cursor, cursor <:+ groupedText → ∀ start, ∃ reply after,
      groupedItems.Ends .noProgress ⟨7⟩ cursor start reply after := by
    intro cursor suffix start
    simp only [groupedText, List.suffix_cons_iff, List.suffix_nil] at suffix
    rcases suffix with rfl | rfl | rfl | rfl | rfl | rfl | rfl
    all_goals exact ⟨_, _, 9, rfl⟩
  have found : groupedItems.lookup ⟨8⟩ = .ok (.repetition ⟨7⟩) := rfl
  obtain ⟨links, rest, middle, later, chain, stops, _, count, _, reply⟩ :=
    repetition_is_chain found keeps ends {}
  have same := reply _ _ groupedItems_ends
  simp only [Except.ok.injEq, Success.mk.injEq, Value.list.injEq] at same
  obtain ⟨values, rfl⟩ := same
  exact ⟨found, keeps, ends, links, middle, later, chain, stops, values.symm, count⟩

end GrammarArena
