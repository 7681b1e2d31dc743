import GrammarArena.Grammar.Builder
import GrammarArena.Proofs.Reachability

/-!
The rest of a success is a suffix of the cursor, as long as transforms only shorten the rest they
are given, as those do that leave a success as it is. For suffixes, being as long in bytes is being
the same, so the guard of repetitions stops exactly at items that took nothing.
-/

namespace GrammarArena

variable {α : Type}

def Transform.KeepsSuffix (transform : Transform α) : Prop :=
  ∀ success serial result, (transform success serial).1 = .ok result →
    result.rest <:+ success.rest

/-- A transform that may refuse a success but does not change it. -/
def Transform.Faithful (transform : Transform α) : Prop :=
  ∀ success serial result, (transform success serial).1 = .ok result → result = success

theorem Transform.Faithful.keepsSuffix {transform : Transform α} (faithful : transform.Faithful) :
    transform.KeepsSuffix := by
  intro success serial result succeeded
  obtain rfl := faithful success serial result succeeded
  exact List.suffix_refl result.rest

namespace Text

theorem eq_of_suffix_of_byteLength {rest cursor : Text} (suffix : rest <:+ cursor)
    (same : rest.byteLength = cursor.byteLength) : rest = cursor := by
  obtain ⟨taken, rfl⟩ := suffix
  rw [byteLength_append] at same
  have nothing : taken = [] := byteLength_eq_zero_iff.mp (by omega)
  rw [nothing, List.nil_append]

end Text

namespace Guard

theorem noProgress_iff {cursor rest : Text} (suffix : rest <:+ cursor) :
    noProgress cursor rest = true ↔ rest = cursor := by
  simp only [noProgress, decide_eq_true_eq]
  constructor
  · exact Text.eq_of_suffix_of_byteLength suffix
  · rintro rfl
    rfl

theorem length_lt_of_progress {cursor rest : Text} (suffix : rest <:+ cursor)
    (goesOn : noProgress cursor rest = false) : rest.length < cursor.length := by
  have different : rest ≠ cursor := by
    intro same
    rw [(noProgress_iff suffix).mpr same] at goesOn
    contradiction
  have shorter := suffix.length_le
  have unequal : rest.length ≠ cursor.length := fun same => different (suffix.eq_of_length same)
  omega

theorem progress_of_length_lt {cursor rest : Text} (suffix : rest <:+ cursor)
    (shorter : rest.length < cursor.length) : noProgress cursor rest = false := by
  cases stops : noProgress cursor rest with
  | false => rfl
  | true =>
      have same := (noProgress_iff suffix).mp stops
      rw [same] at shorter
      omega

end Guard

namespace Primitive

theorem matchOne_ok {accepts : Char → Bool} {cursor : Text} {success : Success α}
    (matched : matchOne accepts cursor = .ok success) :
    ∃ found, accepts found = true ∧ success.value = .char found ∧
      cursor = found :: success.rest := by
  cases cursor with
  | nil => simp [matchOne] at matched
  | cons found rest =>
      simp only [matchOne] at matched
      split at matched
      · rename_i accepted
        cases matched
        exact ⟨found, accepted, rfl, rfl⟩
      · contradiction

theorem matchText_ok {expected cursor : Text} {success : Success α}
    (matched : matchText expected cursor = .ok success) :
    success.value = .text expected ∧ cursor = expected ++ success.rest := by
  simp only [matchText] at matched
  split at matched
  · contradiction
  · rename_i enough
    split at matched
    · contradiction
    · rename_i same
      have long : expected.length ≤ cursor.length := by
        rw [List.length_take] at enough
        omega
      have begins := (mismatch?_eq_none_iff long).mp same
      cases matched
      exact ⟨rfl, (List.prefix_iff_eq_append.mp begins).symm⟩

theorem matchOne_suffix {accepts : Char → Bool} {cursor : Text} {success : Success α}
    (matched : matchOne accepts cursor = .ok success) : success.rest <:+ cursor := by
  obtain ⟨found, _, _, split⟩ := matchOne_ok matched
  rw [split]
  exact List.suffix_cons found _

theorem matchText_suffix {expected cursor : Text} {success : Success α}
    (matched : matchText expected cursor = .ok success) : success.rest <:+ cursor := by
  rw [(matchText_ok matched).2]
  exact List.suffix_append _ _

theorem matchRun_suffix {accepts : Char → Bool} {cursor : Text} {success : Success α}
    (matched : matchRun accepts cursor = .ok success) : success.rest <:+ cursor := by
  cases matched
  exact List.dropWhile_suffix _

end Primitive

theorem Builder.requireItems_faithful :
    Transform.Faithful fun success : Success α => pure (Builder.requireItems success) := by
  intro success serial result succeeded
  change Builder.requireItems success = .ok result at succeeded
  simp only [Builder.requireItems] at succeeded
  split at succeeded
  · contradiction
  · cases succeeded
    rfl

theorem Builder.requireItems_keepsSuffix :
    Transform.KeepsSuffix fun success : Success α => pure (Builder.requireItems success) :=
  Builder.requireItems_faithful.keepsSuffix

theorem Builder.readInteger_keepsSuffix :
    Transform.KeepsSuffix fun success : Success α => pure (Builder.readInteger success) := by
  intro success serial result succeeded
  change Builder.readInteger success = .ok result at succeeded
  simp only [Builder.readInteger] at succeeded
  split at succeeded
  · contradiction
  · split at succeeded
    · cases succeeded
      exact List.suffix_refl _
    · contradiction

theorem Replies.rest_suffix {grammar : Grammar α} {guard : Guard} {within : Parser → Prop}
    (closed : grammar.Closed within Transform.KeepsSuffix) {task : Task α} {trail later : Trail}
    {reply : Reply α} (run : Replies grammar guard task trail reply later)
    (inside : task.Within within) {success : Success α} (succeeded : reply = .ok success) :
    success.rest <:+ task.cursor := by
  induction run generalizing success with
  | char | satisfy => exact Primitive.matchOne_suffix succeeded
  | string => exact Primitive.matchText_suffix succeeded
  | filter => exact Primitive.matchRun_suffix succeeded
  | sequence found _ ih =>
      exact ih (fun _ member => closed.leads inside (.sequence found member)) succeeded
  | branch found _ ih =>
      exact ih (fun _ member => closed.leads inside (.branch found member)) succeeded
  | repetition found _ ih => exact ih (closed.leads inside (.repetition found)) succeeded
  | mapSuccess found _ ih =>
      have shortened := closed.transforms inside found _ _ _ succeeded
      exact shortened.trans (ih (closed.leads inside (.map found)) rfl)
  | reference found resolved _ ih =>
      exact ih (closed.leads inside (.reference found resolved)) succeeded
  | sequenceEnd | repeatFailure | repeatStall =>
      cases succeeded
      exact List.suffix_refl _
  | sequenceNext _ _ ihFirst ihNext =>
      have next := ihNext (fun _ member => inside _ (List.mem_cons_of_mem _ member)) succeeded
      exact next.trans (ihFirst (inside _ List.mem_cons_self) rfl)
  | branchSuccess _ ih => exact ih (inside _ List.mem_cons_self) succeeded
  | branchNext _ _ _ ihNext =>
      exact ihNext (fun _ member => inside _ (List.mem_cons_of_mem _ member)) succeeded
  | repeatNext _ _ _ ihFirst ihNext =>
      exact (ihNext inside succeeded).trans (ihFirst inside rfl)
  | mapFailure | sequenceFailure | branchEnd => contradiction

theorem Grammar.Ends.rest_suffix {grammar : Grammar α} {guard : Guard} {parser : Parser}
    (keeps : grammar.EachTransform parser Transform.KeepsSuffix) {input : Text}
    {trail later : Trail} {success : Success α}
    (ended : grammar.Ends guard parser input trail (.ok success) later) : success.rest <:+ input :=
  (ends_iff_replies.mp ended).rest_suffix keeps.closed (grammar.reaches_self parser) rfl

end GrammarArena
