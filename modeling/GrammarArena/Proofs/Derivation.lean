import GrammarArena.Proofs.Suffix
import Mathlib.Data.List.Forall2
import Mathlib.Data.List.TakeWhile

/-!
Values as derivation trees. When transforms hand on what they are given, a success accounts for
all that was taken: its value is a tree in the shape of the nodes that were tried, and the
characters and texts in it, in order, are the input up to the rest.
-/

namespace GrammarArena

variable {α : Type}

namespace Value

mutual

def flat : Value α → Text
  | .char value => [value]
  | .text value => value
  | .list items => flatAll items
  | .int _ => []
  | .custom _ _ => []

def flatAll : List (Value α) → Text
  | [] => []
  | item :: items => flat item ++ flatAll items

end

end Value

namespace Grammar

/-- The value is a derivation tree of the parser: it has the shape of the parser's node, and its
parts are derivation trees of the parsers that the node names. -/
inductive Derives (grammar : Grammar α) : Parser → Value α → Prop
  | char {parser expected} : grammar.lookup parser = .ok (.char expected) →
      Derives grammar parser (.char expected)
  | string {parser expected} : grammar.lookup parser = .ok (.string expected) →
      Derives grammar parser (.text expected)
  | filter {parser accepts run} : grammar.lookup parser = .ok (.filter accepts) →
      (∀ found ∈ run, accepts found = true) → Derives grammar parser (.text run)
  | satisfy {parser accepts found} : grammar.lookup parser = .ok (.satisfy accepts) →
      accepts found = true → Derives grammar parser (.char found)
  | sequence {parser children items} : grammar.lookup parser = .ok (.sequence children) →
      List.Forall₂ (Derives grammar) children items → Derives grammar parser (.list items)
  | branch {parser children child value} : grammar.lookup parser = .ok (.branch children) →
      child ∈ children → Derives grammar child value → Derives grammar parser value
  | repetition {parser inner items} : grammar.lookup parser = .ok (.repetition inner) →
      (∀ item ∈ items, Derives grammar inner item) → (∀ item ∈ items, item.flat ≠ []) →
      Derives grammar parser (.list items)
  | map {parser inner transform value} : grammar.lookup parser = .ok (.map inner transform) →
      Derives grammar inner value → Derives grammar parser value
  | reference {parser slot target value} : grammar.lookup parser = .ok (.reference slot) →
      grammar.resolve slot = .ok (some target) → Derives grammar target value →
      Derives grammar parser value

end Grammar

/-- The success accounts for what the task took: of a loop, for what it took since the values
it began with. -/
def Task.Explains (grammar : Grammar α) : Task α → Success α → Prop
  | .attempt parser cursor, success =>
      grammar.Derives parser success.value ∧ cursor = success.value.flat ++ success.rest
  | .sequence values cursor children, success =>
      ∃ items, success.value = .list (values.reverse ++ items) ∧
        List.Forall₂ grammar.Derives children items ∧
        cursor = Value.flatAll items ++ success.rest
  | .branch _ cursor children, success =>
      ∃ child ∈ children, grammar.Derives child success.value ∧
        cursor = success.value.flat ++ success.rest
  | .repetition inner values cursor, success =>
      ∃ items, success.value = .list (values.reverse ++ items) ∧
        (∀ item ∈ items, grammar.Derives inner item) ∧ (∀ item ∈ items, item.flat ≠ []) ∧
        cursor = Value.flatAll items ++ success.rest

theorem Guard.flat_ne_nil_of_progress {value : Value α} {cursor rest : Text}
    (taken : cursor = value.flat ++ rest) (goesOn : noProgress cursor rest = false) :
    value.flat ≠ [] := by
  intro nothing
  rw [nothing, List.nil_append] at taken
  subst taken
  rw [(noProgress_iff (List.suffix_refl cursor)).mpr rfl] at goesOn
  contradiction

theorem Replies.explains {grammar : Grammar α} {within : Parser → Prop}
    (closed : grammar.Closed within Transform.Faithful) {task : Task α} {trail later : Trail}
    {reply : Reply α} (run : Replies grammar .noProgress task trail reply later)
    (inside : task.Within within) {success : Success α} (succeeded : reply = .ok success) :
    task.Explains grammar success := by
  induction run generalizing success with
  | char found =>
      obtain ⟨first, accepted, value, split⟩ := Primitive.matchOne_ok succeeded
      obtain rfl := of_decide_eq_true accepted
      rw [Task.Explains, value]
      exact ⟨.char found, split⟩
  | string found =>
      obtain ⟨value, split⟩ := Primitive.matchText_ok succeeded
      rw [Task.Explains, value]
      exact ⟨.string found, split⟩
  | filter found =>
      cases succeeded
      exact ⟨.filter found fun _ => List.mem_takeWhile_imp, List.takeWhile_append_dropWhile.symm⟩
  | satisfy found =>
      obtain ⟨first, accepted, value, split⟩ := Primitive.matchOne_ok succeeded
      rw [Task.Explains, value]
      exact ⟨.satisfy found accepted, split⟩
  | sequence found _ ih =>
      obtain ⟨items, value, trees, split⟩ :=
        ih (fun _ member => closed.leads inside (.sequence found member)) succeeded
      rw [Task.Explains, value]
      exact ⟨.sequence found trees, split⟩
  | branch found _ ih =>
      obtain ⟨child, member, tree, split⟩ :=
        ih (fun _ member => closed.leads inside (.branch found member)) succeeded
      exact ⟨.branch found member tree, split⟩
  | repetition found _ ih =>
      obtain ⟨items, value, trees, notEmpty, split⟩ :=
        ih (closed.leads inside (.repetition found)) succeeded
      rw [Task.Explains, value]
      exact ⟨.repetition found trees notEmpty, split⟩
  | mapSuccess found _ ih =>
      obtain ⟨tree, split⟩ := ih (closed.leads inside (.map found)) rfl
      obtain rfl := closed.transforms inside found _ _ _ succeeded
      exact ⟨.map found tree, split⟩
  | reference found resolved _ ih =>
      obtain ⟨tree, split⟩ := ih (closed.leads inside (.reference found resolved)) succeeded
      exact ⟨.reference found resolved tree, split⟩
  | sequenceEnd =>
      cases succeeded
      exact ⟨[], by rw [List.append_nil], .nil, rfl⟩
  | sequenceNext _ _ ihFirst ihNext =>
      obtain ⟨tree, split⟩ := ihFirst (inside _ List.mem_cons_self) rfl
      obtain ⟨items, value, trees, splitNext⟩ :=
        ihNext (fun _ member => inside _ (List.mem_cons_of_mem _ member)) succeeded
      refine ⟨_ :: items, ?_, .cons tree trees, ?_⟩
      · rw [value, List.reverse_cons, List.append_assoc, List.singleton_append]
      · rw [split, splitNext, Value.flatAll, List.append_assoc]
  | branchSuccess _ ih =>
      obtain ⟨tree, split⟩ := ih (inside _ List.mem_cons_self) succeeded
      exact ⟨_, List.mem_cons_self, tree, split⟩
  | branchNext _ _ _ ihNext =>
      obtain ⟨child, member, tree, split⟩ :=
        ihNext (fun _ member => inside _ (List.mem_cons_of_mem _ member)) succeeded
      exact ⟨child, List.mem_cons_of_mem _ member, tree, split⟩
  | repeatFailure | repeatStall =>
      -- The last attempt is dropped with what it took: the reply is at the cursor before it.
      cases succeeded
      exact ⟨[], by rw [List.append_nil], by simp, by simp, rfl⟩
  | repeatNext _ goesOn _ ihFirst ihNext =>
      obtain ⟨tree, split⟩ := ihFirst inside rfl
      obtain ⟨items, value, trees, notEmpty, splitNext⟩ := ihNext inside succeeded
      have taken := Guard.flat_ne_nil_of_progress split goesOn
      refine ⟨_ :: items, ?_, List.forall_mem_cons.mpr ⟨tree, trees⟩,
        List.forall_mem_cons.mpr ⟨taken, notEmpty⟩, ?_⟩
      · rw [value, List.reverse_cons, List.append_assoc, List.singleton_append]
      · rw [split, splitNext, Value.flatAll, List.append_assoc]
  | mapFailure | sequenceFailure | branchEnd => contradiction

/-- If no transform that the parser can reach changes a success, then the value of a success is a
derivation tree of the parser, and what is written in it, followed by the rest, is the input. -/
theorem derivation_of_success {grammar : Grammar α} {parser : Parser}
    (faithful : grammar.EachTransform parser Transform.Faithful) {input rest : Text}
    {trail later : Trail} {value : Value α}
    (ended : grammar.Ends .noProgress parser input trail (.ok ⟨value, rest⟩) later) :
    input = value.flat ++ rest ∧ grammar.Derives parser value := by
  have run := ends_iff_replies.mp ended
  obtain ⟨tree, split⟩ := run.explains faithful.closed (grammar.reaches_self parser) rfl
  exact ⟨split, tree⟩

def arrowedWords : Grammar Nat where
  nodes := #[.satisfy Char.isAlpha, .repetition ⟨0⟩,
    .map ⟨1⟩ fun success => pure (Builder.requireItems success), .string ['→', '('],
    .reference ⟨0⟩, .char ')', .filter Char.isDigit, .sequence [⟨3⟩, ⟨4⟩, ⟨5⟩, ⟨6⟩],
    .branch [⟨7⟩, ⟨2⟩], .repetition ⟨8⟩]
  slots := #[some ⟨9⟩]

def arrowedValue : Value Nat :=
  .list [.list [.char 'a'],
    .list [.text ['→', '('],
      .list [.list [.char 'b'], .list [.text ['→', '('], .list [], .char ')', .text ['7']]],
      .char ')', .text []],
    .list [.char 'x']]

theorem arrowedWords_derivation :
    arrowedWords.EachTransform ⟨9⟩ Transform.Faithful ∧
    arrowedWords.Ends .noProgress ⟨9⟩ ['a', '→', '(', 'b', '→', '(', ')', '7', ')', 'x', '?'] {}
      (.ok ⟨arrowedValue, ['?']⟩) ⟨0, []⟩ ∧
    ['a', '→', '(', 'b', '→', '(', ')', '7', ')', 'x', '?'] = arrowedValue.flat ++ ['?'] ∧
    arrowedWords.Derives ⟨9⟩ arrowedValue := by
  have faithful : arrowedWords.EachTransform ⟨9⟩ Transform.Faithful := by
    apply Grammar.EachTransform.of_nodes
    intro inner transform member
    simp only [arrowedWords, Array.mem_def, List.mem_cons, reduceCtorEq, false_or, or_false,
      List.not_mem_nil, Node.map.injEq] at member
    rw [member.2]
    exact Builder.requireItems_faithful
  have ended : arrowedWords.Ends .noProgress ⟨9⟩
      ['a', '→', '(', 'b', '→', '(', ')', '7', ')', 'x', '?'] {} (.ok ⟨arrowedValue, ['?']⟩)
      ⟨0, []⟩ := ⟨16, rfl⟩
  exact ⟨faithful, ended, derivation_of_success faithful ended⟩

end GrammarArena
