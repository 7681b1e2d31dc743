import GrammarArena.Proofs.Suffix

/-!
Parsers that can succeed without taking anything, and which parsers are tried at the very cursor
another one is tried at.
-/

namespace GrammarArena

variable {α : Type}

namespace Grammar

/-- The parser can succeed on nothing, as far as the shape of its node tells. -/
inductive Nullable (grammar : Grammar α) : Parser → Prop
  | string {parser} : grammar.lookup parser = .ok (.string []) → Nullable grammar parser
  | filter {parser accepts} : grammar.lookup parser = .ok (.filter accepts) →
      Nullable grammar parser
  | sequence {parser children} : grammar.lookup parser = .ok (.sequence children) →
      (∀ child ∈ children, Nullable grammar child) → Nullable grammar parser
  | branch {parser children child} : grammar.lookup parser = .ok (.branch children) →
      child ∈ children → Nullable grammar child → Nullable grammar parser
  | repetition {parser inner} : grammar.lookup parser = .ok (.repetition inner) →
      Nullable grammar parser
  | map {parser inner transform} : grammar.lookup parser = .ok (.map inner transform) →
      Nullable grammar inner → Nullable grammar parser
  | reference {parser slot target} : grammar.lookup parser = .ok (.reference slot) →
      grammar.resolve slot = .ok (some target) → Nullable grammar target →
      Nullable grammar parser

/-- The second parser may be tried at the cursor the first one is tried at. -/
inductive LeftChild (grammar : Grammar α) : Parser → Parser → Prop
  | sequence {parser before child after} :
      grammar.lookup parser = .ok (.sequence (before ++ child :: after)) →
      (∀ skipped ∈ before, grammar.Nullable skipped) → LeftChild grammar parser child
  | branch {parser children child} : grammar.lookup parser = .ok (.branch children) →
      child ∈ children → LeftChild grammar parser child
  | repetition {parser inner} : grammar.lookup parser = .ok (.repetition inner) →
      LeftChild grammar parser inner
  | map {parser inner transform} : grammar.lookup parser = .ok (.map inner transform) →
      LeftChild grammar parser inner
  | reference {parser slot target} : grammar.lookup parser = .ok (.reference slot) →
      grammar.resolve slot = .ok (some target) → LeftChild grammar parser target

def NullableNode (grammar : Grammar α) : Node α → Prop
  | .char _ | .satisfy _ => False
  | .string expected => expected = []
  | .filter _ | .repetition _ => True
  | .sequence children => ∀ child ∈ children, grammar.Nullable child
  | .branch children => ∃ child ∈ children, grammar.Nullable child
  | .map inner _ => grammar.Nullable inner
  | .reference slot =>
      ∃ target, grammar.resolve slot = .ok (some target) ∧ grammar.Nullable target

theorem nullable_iff {grammar : Grammar α} {parser : Parser} {node : Node α}
    (found : grammar.lookup parser = .ok node) :
    grammar.Nullable parser ↔ grammar.NullableNode node := by
  constructor
  · intro nullable
    cases nullable with
    | string again | filter again | repetition again =>
        cases found.symm.trans again
        simp [NullableNode]
    | sequence again nullable | map again nullable =>
        cases found.symm.trans again
        exact nullable
    | branch again member nullable =>
        cases found.symm.trans again
        exact ⟨_, member, nullable⟩
    | reference again resolved nullable =>
        cases found.symm.trans again
        exact ⟨_, resolved, nullable⟩
  · intro shape
    cases node with
    | char | satisfy => contradiction
    | string => exact .string (by rw [found, shape])
    | filter => exact .filter found
    | repetition => exact .repetition found
    | sequence => exact .sequence found shape
    | branch =>
        obtain ⟨child, member, nullable⟩ := shape
        exact .branch found member nullable
    | map => exact .map found shape
    | reference =>
        obtain ⟨target, resolved, nullable⟩ := shape
        exact .reference found resolved nullable

def LeftOfNode (grammar : Grammar α) (child : Parser) : Node α → Prop
  | .char _ | .string _ | .filter _ | .satisfy _ => False
  | .sequence children => ∃ before after, children = before ++ child :: after ∧
      ∀ skipped ∈ before, grammar.Nullable skipped
  | .branch children => child ∈ children
  | .repetition inner | .map inner _ => child = inner
  | .reference slot => grammar.resolve slot = .ok (some child)

theorem leftChild_iff {grammar : Grammar α} {parser child : Parser} {node : Node α}
    (found : grammar.lookup parser = .ok node) :
    grammar.LeftChild parser child ↔ grammar.LeftOfNode child node := by
  constructor
  · intro left
    cases left with
    | sequence again skippable =>
        cases found.symm.trans again
        exact ⟨_, _, rfl, skippable⟩
    | branch again member =>
        cases found.symm.trans again
        exact member
    | repetition again | map again =>
        cases found.symm.trans again
        rfl
    | reference again resolved =>
        cases found.symm.trans again
        exact resolved
  · intro shape
    cases node with
    | char | string | filter | satisfy => contradiction
    | sequence =>
        obtain ⟨before, after, rfl, skippable⟩ := shape
        exact .sequence found skippable
    | branch => exact .branch found shape
    | repetition =>
        subst shape
        exact .repetition found
    | map =>
        subst shape
        exact .map found
    | reference => exact .reference found shape

theorem not_nullable_of_char {grammar : Grammar α} {parser : Parser} {expected : Char}
    (found : grammar.lookup parser = .ok (.char expected)) : ¬ grammar.Nullable parser :=
  fun nullable => (nullable_iff found).mp nullable

theorem LeftOfNode.eq_first {grammar : Grammar α} {first child : Parser} {children : List Parser}
    (left : grammar.LeftOfNode child (.sequence (first :: children)))
    (solid : ¬ grammar.Nullable first) : child = first := by
  obtain ⟨before, after, split, skippable⟩ := left
  cases before with
  | nil => exact (List.cons.inj split).1.symm
  | cons skipped before =>
      obtain ⟨rfl, _⟩ := List.cons.inj split
      exact absurd (skippable _ List.mem_cons_self) solid

theorem LeftChild.leads {grammar : Grammar α} {parser child : Parser}
    (left : grammar.LeftChild parser child) : grammar.Leads parser child := by
  cases left with
  | sequence found _ => exact .sequence found (by simp)
  | branch found member => exact .branch found member
  | repetition found => exact .repetition found
  | map found => exact .map found
  | reference found resolved => exact .reference found resolved

theorem LeftChild.exists_node {grammar : Grammar α} {parser child : Parser}
    (left : grammar.LeftChild parser child) : ∃ node, grammar.lookup parser = .ok node := by
  cases left with
  | sequence found _ => exact ⟨_, found⟩
  | branch found _ => exact ⟨_, found⟩
  | repetition found => exact ⟨_, found⟩
  | map found => exact ⟨_, found⟩
  | reference found _ => exact ⟨_, found⟩

end Grammar

def Task.Nullable (grammar : Grammar α) : Task α → Prop
  | .attempt parser _ => grammar.Nullable parser
  | .sequence _ _ children => ∀ child ∈ children, grammar.Nullable child
  | .branch _ _ children => ∃ child ∈ children, grammar.Nullable child
  | .repetition _ _ _ => True

namespace Primitive

theorem matchOne_rest_ne {accepts : Char → Bool} {cursor : Text} {success : Success α}
    (matched : matchOne accepts cursor = .ok success) : success.rest ≠ cursor := by
  obtain ⟨found, _, _, split⟩ := matchOne_ok matched
  rw [split]
  exact (List.cons_ne_self found _).symm

theorem matchText_rest_eq {expected cursor : Text} {success : Success α}
    (matched : matchText expected cursor = .ok success) (same : success.rest = cursor) :
    expected = [] := by
  have split := (matchText_ok matched).2
  rw [same] at split
  exact List.self_eq_append_left.mp split

end Primitive

theorem Text.eq_of_suffixes {rest middle cursor : Text} (lower : rest <:+ middle)
    (upper : middle <:+ cursor) (same : rest = cursor) : middle = cursor := by
  subst same
  exact upper.eq_of_length_le lower.length_le

theorem Replies.nullable {grammar : Grammar α} {guard : Guard} {within : Parser → Prop}
    (closed : grammar.Closed within Transform.KeepsSuffix) {task : Task α} {trail later : Trail}
    {reply : Reply α} (run : Replies grammar guard task trail reply later)
    (inside : task.Within within) {success : Success α} (succeeded : reply = .ok success)
    (still : success.rest = task.cursor) : task.Nullable grammar := by
  induction run generalizing success with
  | char | satisfy => exact absurd still (Primitive.matchOne_rest_ne succeeded)
  | string found =>
      have empty := Primitive.matchText_rest_eq succeeded still
      subst empty
      exact .string found
  | filter found => exact .filter found
  | sequence found _ ih =>
      exact .sequence found
        (ih (fun _ member => closed.leads inside (.sequence found member)) succeeded still)
  | branch found _ ih =>
      obtain ⟨child, member, nullable⟩ :=
        ih (fun _ member => closed.leads inside (.branch found member)) succeeded still
      exact .branch found member nullable
  | repetition found => exact .repetition found
  | mapSuccess found first ih =>
      have insideInner := closed.leads inside (.map found)
      have shortened := closed.transforms inside found _ _ _ succeeded
      have suffix := first.rest_suffix closed insideInner rfl
      exact .map found (ih insideInner rfl (Text.eq_of_suffixes shortened suffix still))
  | reference found resolved _ ih =>
      have insideTarget := closed.leads inside (.reference found resolved)
      exact .reference found resolved (ih insideTarget succeeded still)
  | sequenceEnd => exact fun _ member => absurd member List.not_mem_nil
  | sequenceNext first next ihFirst ihNext =>
      have insideFirst := inside _ List.mem_cons_self
      have insideNext := fun child member => inside child (List.mem_cons_of_mem _ member)
      have suffix := first.rest_suffix closed insideFirst rfl
      have stillFirst :=
        Text.eq_of_suffixes (next.rest_suffix closed insideNext succeeded) suffix still
      have nullableFirst := ihFirst insideFirst rfl stillFirst
      have nullableNext := ihNext insideNext succeeded (still.trans stillFirst.symm)
      intro child member
      rcases List.mem_cons.mp member with rfl | listed
      · exact nullableFirst
      · exact nullableNext child listed
  | branchSuccess _ ih =>
      exact ⟨_, List.mem_cons_self, ih (inside _ List.mem_cons_self) succeeded still⟩
  | branchNext _ _ _ ihNext =>
      obtain ⟨child, member, nullable⟩ :=
        ihNext (fun _ member => inside _ (List.mem_cons_of_mem _ member)) succeeded still
      exact ⟨child, List.mem_cons_of_mem _ member, nullable⟩
  | repeatFailure | repeatStall | repeatNext => trivial
  | mapFailure | sequenceFailure | branchEnd => contradiction

theorem Grammar.Ends.nullable {grammar : Grammar α} {guard : Guard} {parser : Parser}
    (keeps : grammar.EachTransform parser Transform.KeepsSuffix) {cursor : Text}
    {trail later : Trail} {value : Value α}
    (ended : grammar.Ends guard parser cursor trail (.ok ⟨value, cursor⟩) later) :
    grammar.Nullable parser :=
  (ends_iff_replies.mp ended).nullable keeps.closed (grammar.reaches_self parser) rfl rfl

end GrammarArena
