import GrammarArena.Proofs.Likeness
import GrammarArena.Proofs.Suffix

/-!
The guard of repetitions is conservative. Without it a repetition whose item takes nothing never
ends, because the item takes nothing at that cursor ever after; so an evaluation that ends without
the guard never comes to use it, and one that does not use it needs none.
-/

namespace GrammarArena

variable {α : Type} {grammar : Grammar α} {within : Parser → Prop} {known : Nat}

theorem Replies.stalls_suffix {guard : Guard} {task : Task α} {trail later : Trail}
    {reply : Reply α} (run : Replies grammar guard task trail reply later) :
    trail.stalls <:+ later.stalls := by
  induction run with
  | char | string | filter | satisfy | sequenceEnd | branchEnd => exact List.suffix_refl _
  | sequence _ _ ih | branch _ _ ih | repetition _ _ ih | mapFailure _ _ ih | mapSuccess _ _ ih
  | reference _ _ _ ih => exact ih
  | sequenceFailure _ ih | branchSuccess _ ih | repeatFailure _ ih => exact ih
  | sequenceNext _ _ ihFirst ihNext | branchNext _ _ ihFirst ihNext
  | repeatNext _ _ _ ihFirst ihNext => exact ihFirst.trans ihNext
  | repeatStall _ _ ih => exact ih.trans (List.suffix_cons _ _)

theorem Replies.stalls_between {guard : Guard} {first next : Task α} {trail middle later : Trail}
    {reply answer : Reply α} (run : Replies grammar guard first trail reply middle)
    (runNext : Replies grammar guard next middle answer later)
    (same : later.stalls = trail.stalls) :
    middle.stalls = trail.stalls ∧ later.stalls = middle.stalls := by
  have before := run.stalls_suffix
  have after := runNext.stalls_suffix
  have enough : middle.stalls.length ≤ trail.stalls.length := by
    have bound := after.length_le
    rwa [same] at bound
  have equal : trail.stalls = middle.stalls := before.eq_of_length_le enough
  exact ⟨equal.symm, same.trans equal⟩

theorem not_replies_of_standstill (closed : grammar.Closed within (Transform.Pure known))
    {inner : Parser} (inside : within inner) {cursor : Text} {trail middle : Trail}
    {success : Success α} (made : known ≤ trail.nextSerial)
    (item : Replies grammar .never (.attempt inner cursor) trail (.ok success) middle)
    (still : success.rest = cursor) {values : List (Value α)} {start later : Trail}
    {reply : Reply α} (madeAgain : known ≤ start.nextSerial) :
    ¬ Replies grammar .never (.repetition inner values cursor) start reply later := by
  intro run
  generalize taskEq : Task.repetition inner values cursor = task at run
  -- Every round is like the item given, so each ends at the same cursor and none is the last.
  induction run generalizing values with
  | repeatFailure attempt =>
      cases taskEq
      obtain ⟨_, _, _, _, again, _⟩ := (item.again closed inside made madeAgain).success
      have same := (attempt.unique again).1
      contradiction
  | repeatStall _ stops =>
      cases taskEq
      contradiction
  | repeatNext attempt _ _ _ ih =>
      cases taskEq
      obtain ⟨_, value, finish, _, again, fits, _⟩ :=
        (item.again closed inside made madeAgain).success
      obtain ⟨same, rfl⟩ := attempt.unique again
      cases same
      exact ih fits.known_le.2 (by rw [still])
  | _ => cases taskEq

theorem Replies.guarded (pure : grammar.Closed within (Transform.Pure known))
    (keeps : grammar.Closed within Transform.KeepsSuffix) {task : Task α} {trail later : Trail}
    {reply : Reply α} (run : Replies grammar .never task trail reply later)
    (inside : task.Within within) (made : known ≤ trail.nextSerial) :
    Replies grammar .noProgress task trail reply later ∧ later.stalls = trail.stalls := by
  induction run with
  | char found => exact ⟨.char found, rfl⟩
  | string found => exact ⟨.string found, rfl⟩
  | filter found => exact ⟨.filter found, rfl⟩
  | satisfy found => exact ⟨.satisfy found, rfl⟩
  | sequence found _ ih =>
      obtain ⟨run, same⟩ := ih (fun _ member => pure.leads inside (.sequence found member)) made
      exact ⟨.sequence found run, same⟩
  | branch found _ ih =>
      obtain ⟨run, same⟩ := ih (fun _ member => pure.leads inside (.branch found member)) made
      exact ⟨.branch found run, same⟩
  | repetition found _ ih =>
      obtain ⟨run, same⟩ := ih (pure.leads inside (.repetition found)) made
      exact ⟨.repetition found run, same⟩
  | mapFailure found _ ih =>
      obtain ⟨run, same⟩ := ih (pure.leads inside (.map found)) made
      exact ⟨.mapFailure found run, same⟩
  | mapSuccess found _ ih =>
      obtain ⟨run, same⟩ := ih (pure.leads inside (.map found)) made
      exact ⟨.mapSuccess found run, same⟩
  | reference found resolved _ ih =>
      obtain ⟨run, same⟩ := ih (pure.leads inside (.reference found resolved)) made
      exact ⟨.reference found resolved run, same⟩
  | sequenceEnd => exact ⟨.sequenceEnd, rfl⟩
  | sequenceFailure _ ih =>
      obtain ⟨run, same⟩ := ih (inside _ List.mem_cons_self) made
      exact ⟨.sequenceFailure run, same⟩
  | sequenceNext first _ ihFirst ihNext =>
      have insideFirst := inside _ List.mem_cons_self
      obtain ⟨run, same⟩ := ihFirst insideFirst made
      obtain ⟨runNext, sameNext⟩ := ihNext
        (fun _ member => inside _ (List.mem_cons_of_mem _ member))
        (first.known_le pure insideFirst made)
      exact ⟨.sequenceNext run runNext, sameNext.trans same⟩
  | branchEnd => exact ⟨.branchEnd, rfl⟩
  | branchSuccess _ ih =>
      obtain ⟨run, same⟩ := ih (inside _ List.mem_cons_self) made
      exact ⟨.branchSuccess run, same⟩
  | branchNext first _ ihFirst ihNext =>
      have insideFirst := inside _ List.mem_cons_self
      obtain ⟨run, same⟩ := ihFirst insideFirst made
      obtain ⟨runNext, sameNext⟩ := ihNext
        (fun _ member => inside _ (List.mem_cons_of_mem _ member))
        (first.known_le pure insideFirst made)
      exact ⟨.branchNext run runNext, sameNext.trans same⟩
  | repeatFailure _ ih =>
      obtain ⟨run, same⟩ := ih inside made
      exact ⟨.repeatFailure run, same⟩
  | repeatStall _ stops => contradiction
  | repeatNext first _ next ihFirst ihNext =>
      have madeLater := first.known_le pure inside made
      obtain ⟨run, same⟩ := ihFirst inside made
      obtain ⟨runNext, sameNext⟩ := ihNext inside madeLater
      have suffix := first.rest_suffix keeps inside rfl
      rw [Task.cursor] at suffix
      refine ⟨.repeatNext run ?_ runNext, sameNext.trans same⟩
      -- The guard cannot stop here: the item would have taken nothing, and yet the rest ended.
      by_contra stops
      have still := (Guard.noProgress_iff suffix).mp (by simpa using stops)
      rw [still] at next
      exact not_replies_of_standstill pure inside made first still madeLater next

theorem Replies.unguarded {task : Task α} {trail later : Trail} {reply : Reply α}
    (run : Replies grammar .noProgress task trail reply later)
    (same : later.stalls = trail.stalls) : Replies grammar .never task trail reply later := by
  induction run with
  | char found => exact .char found
  | string found => exact .string found
  | filter found => exact .filter found
  | satisfy found => exact .satisfy found
  | sequence found _ ih => exact .sequence found (ih same)
  | branch found _ ih => exact .branch found (ih same)
  | repetition found _ ih => exact .repetition found (ih same)
  | mapFailure found _ ih => exact .mapFailure found (ih same)
  | mapSuccess found _ ih => exact .mapSuccess found (ih same)
  | reference found resolved _ ih => exact .reference found resolved (ih same)
  | sequenceEnd => exact .sequenceEnd
  | sequenceFailure _ ih => exact .sequenceFailure (ih same)
  | sequenceNext first next ihFirst ihNext =>
      obtain ⟨before, after⟩ := first.stalls_between next same
      exact .sequenceNext (ihFirst before) (ihNext after)
  | branchEnd => exact .branchEnd
  | branchSuccess _ ih => exact .branchSuccess (ih same)
  | branchNext first next ihFirst ihNext =>
      obtain ⟨before, after⟩ := first.stalls_between next same
      exact .branchNext (ihFirst before) (ihNext after)
  | repeatFailure _ ih => exact .repeatFailure (ih same)
  | repeatStall first _ _ =>
      have longer := first.stalls_suffix.length_le
      have equal := congrArg List.length same
      simp only [Trail.stop, List.length_cons] at equal
      omega
  | repeatNext first _ next ihFirst ihNext =>
      obtain ⟨before, after⟩ := first.stalls_between next same
      exact .repeatNext (ihFirst before) rfl (ihNext after)

/-- An evaluation without the guard ends with a reply exactly if the evaluation with it does so
and no repetition in it stalls. -/
theorem ends_never_iff {parser : Parser}
    (pure : grammar.EachTransform parser (Transform.Pure known))
    (keeps : grammar.EachTransform parser Transform.KeepsSuffix) (input : Text) (trail : Trail)
    (made : known ≤ trail.nextSerial) (reply : Reply α) (later : Trail) :
    grammar.Ends .never parser input trail reply later ↔
      grammar.Ends .noProgress parser input trail reply later ∧ later.stalls = trail.stalls := by
  rw [ends_iff_replies, ends_iff_replies]
  constructor
  · intro run
    exact run.guarded pure.closed keeps.closed (grammar.reaches_self parser) made
  · rintro ⟨run, same⟩
    exact run.unguarded same

def nestedDigits : Grammar Nat where
  nodes := #[.satisfy Char.isDigit, .map ⟨0⟩ digitPayload, .repetition ⟨1⟩, .char '(',
    .reference ⟨0⟩, .char ')', .sequence [⟨3⟩, ⟨4⟩, ⟨5⟩], .branch [⟨6⟩, ⟨2⟩]]
  slots := #[some ⟨7⟩]

theorem digitPayload_keepsSuffix : digitPayload.KeepsSuffix := by
  rintro success serial result ⟨⟩
  exact List.suffix_refl _

theorem nestedDigits_each {property : Transform Nat → Prop} (holds : property digitPayload) :
    nestedDigits.EachTransform ⟨7⟩ property := by
  apply Grammar.EachTransform.of_nodes
  intro inner transform member
  simp only [nestedDigits, Array.mem_def, List.mem_cons, reduceCtorEq, false_or, or_false,
    List.not_mem_nil, Node.map.injEq] at member
  rwa [member.2]

theorem nestedDigits_ends_never :
    nestedDigits.EachTransform ⟨7⟩ (Transform.Pure 0) ∧
    nestedDigits.EachTransform ⟨7⟩ Transform.KeepsSuffix ∧ 0 ≤ ({} : Trail).nextSerial ∧
    nestedDigits.Ends .never ⟨7⟩ ['(', '(', '4', '2', ')', ')', 'x'] {}
      (.ok ⟨.list [.char '(', .list [.char '(', .list [.custom 0 52, .custom 1 50], .char ')'],
        .char ')'], ['x']⟩) ⟨2, []⟩ := by
  have pure := nestedDigits_each digitPayload_pure
  have keeps := nestedDigits_each digitPayload_keepsSuffix
  have guarded := (ends_never_iff pure keeps ['(', '(', '4', '2', ')', ')', 'x'] {}
    (Nat.zero_le _) _ ⟨2, []⟩).mpr ⟨⟨12, rfl⟩, rfl⟩
  exact ⟨pure, keeps, Nat.zero_le _, guarded⟩

end GrammarArena
