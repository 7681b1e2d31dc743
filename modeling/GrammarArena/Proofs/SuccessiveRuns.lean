import GrammarArena.Proofs.Payloads
import GrammarArena.Proofs.ProgramListing
import GrammarArena.Proofs.Purity

/-!
Two runs of one parser, the second after the first. Payloads are made anew each time, so the
replies hold the same and yet no payload of the one is a payload of the other: they are equal only
where there are no payloads.
-/

namespace GrammarArena

variable {α : Type}

namespace Grammar

variable {grammar : Grammar α} {guard : Guard} {parser : Parser} {known : Nat} {input : Text}
  {trail later : Trail} {reply : Reply α}

/-- The run ends whenever it is started later, with a reply that holds the same; what is in the
two replies was made in different runs. -/
theorem Ends.successive (pure : grammar.EachTransform parser (Transform.Pure known))
    (keeps : grammar.EachTransform parser Transform.KeepsOrMakes)
    (ended : grammar.Ends guard parser input trail reply later) (made : known ≤ trail.nextSerial)
    {start after : Trail} (since : later.nextSerial ≤ start.nextSerial) {answer : Reply α}
    (again : grammar.Ends guard parser input start answer after) :
    reply.Alike .all answer ∧ reply.serials.Disjoint answer.serials := by
  have madeLater := ended.known_le pure made
  have madeAgain : known ≤ start.nextSerial := by omega
  constructor
  · obtain ⟨paired, _, _, expected, _, alike⟩ := ended.endsAlike pure made madeAgain
    obtain ⟨rfl, _⟩ := expected.unique again
    exact alike.mono fun _ _ _ => trivial
  · intro serial member memberAgain
    have old := ended.serials_lt pure made serial member
    have new := again.first_le_serials pure keeps madeAgain serial memberAgain
    omega

theorem requireEnd_alike {paired : Pairing} {first second : Reply α}
    (alike : first.Alike paired second) :
    (requireEnd first).Alike paired (requireEnd second) := by
  cases first <;> cases second
  case ok.ok first second =>
    obtain ⟨value, rest⟩ := first
    obtain ⟨other, _⟩ := second
    obtain ⟨alikeValue, rfl⟩ := alike
    simp only [requireEnd]
    split
    · exact ⟨alikeValue, rfl⟩
    · rfl
  case error.error => exact alike
  all_goals contradiction

theorem serials_requireEnd_subset (reply : Reply α) :
    (requireEnd reply).serials ⊆ reply.serials := by
  cases reply with
  | error => exact List.Subset.refl _
  | ok success =>
      simp only [requireEnd]
      split
      · exact List.Subset.refl _
      · exact List.nil_subset _

theorem RunEnds.successive (pure : grammar.EachTransform parser (Transform.Pure known))
    (keeps : grammar.EachTransform parser Transform.KeepsOrMakes)
    (ended : grammar.RunEnds parser input trail reply later) (made : known ≤ trail.nextSerial)
    {start after : Trail} (since : later.nextSerial ≤ start.nextSerial) {answer : Reply α}
    (again : grammar.RunEnds parser input start answer after) :
    reply.Alike .all answer ∧ reply.serials.Disjoint answer.serials := by
  obtain ⟨parsed, ended, rfl⟩ := ended
  obtain ⟨parsedAgain, again, rfl⟩ := again
  obtain ⟨alike, disjoint⟩ := ended.successive pure keeps made since again
  refine ⟨requireEnd_alike alike, ?_⟩
  intro serial member memberAgain
  exact disjoint (serials_requireEnd_subset _ member) (serials_requireEnd_subset _ memberAgain)

theorem RunEnds.again (pure : grammar.EachTransform parser (Transform.Pure known))
    (ended : grammar.RunEnds parser input trail reply later) (made : known ≤ trail.nextSerial)
    {start : Trail} (since : later.nextSerial ≤ start.nextSerial) :
    ∃ answer after, grammar.RunEnds parser input start answer after := by
  obtain ⟨parsed, ended, rfl⟩ := ended
  have madeLater := ended.known_le pure made
  obtain ⟨_, answer, after, again, _⟩ := ended.endsAlike pure made (madeLater.trans since)
  exact ⟨requireEnd answer, after, answer, again, rfl⟩

end Grammar

namespace Brainfuck

variable [Carries α Op]

theorem instruction_keepsOrMakes (op : Op) :
    Transform.KeepsOrMakes (instruction op : Transform α) :=
  Transform.keepsOrMakes_of_fresh fun _ => Carries.embed op

theorem loopOf_keepsOrMakes : Transform.KeepsOrMakes (loopOf : Transform α) :=
  fun success => instruction_keepsOrMakes (.loop _) success

theorem contents_ne_nil {value : Value α} {op : Op} (carries : instruction? value = some op) :
    value.contents ≠ [] := by
  cases value <;> simp_all [instruction?, Value.content?, Value.contents]

theorem contents_eq_nil_iff {payloads : List (Value α)} {ops : List Op}
    (carried : payloads.map instruction? = ops.map some) :
    (Value.list payloads).contents = [] ↔ ops = [] := by
  cases payloads with
  | nil =>
      cases ops with
      | nil => simp [Value.contents, Value.contentsAll]
      | cons => contradiction
  | cons payload payloads =>
      cases ops with
      | nil => contradiction
      | cons op ops =>
          have some := contents_ne_nil (List.cons.inj carried).1
          simp [Value.contents, Value.contentsAll, some]

namespace Laid

variable {grammar : Grammar α} {base : Nat} {slot : Slot}

theorem eachTransform (laid : Laid grammar base slot) {property : Transform α → Prop}
    (one : ∀ op, property (instruction op)) (loop : property loopOf) :
    grammar.EachTransform ⟨base + 19⟩ property := by
  have inside : Grammar.Among base 20 ⟨base + 19⟩ := ⟨Nat.le_add_right _ _, Nat.lt_succ_self _⟩
  have closed := laid.fragment.closed fun _ _ => each_transform one loop
  exact closed.eachTransform inside

theorem successive (laid : Laid grammar base slot) {input : Text} {trail later : Trail}
    {success : Success α} (ran : grammar.run ⟨base + 19⟩ input trail = .ok (.ok success, later))
    {start : Trail} (since : later.nextSerial ≤ start.nextSerial) :
    ∃ again after, grammar.run ⟨base + 19⟩ input start = .ok (.ok again, after) ∧
      program again.value = program success.value ∧ (success.same again = true ↔ input = []) := by
  have pure := laid.eachTransform (fun op => instruction_pure op 0) (loopOf_pure 0)
  have keeps := laid.eachTransform instruction_keepsOrMakes loopOf_keepsOrMakes
  obtain ⟨_, _, _, after, _, _, _, parsedAgain⟩ := laid.parse_instructions input start
  have ranAgain := Grammar.run_eq_of_parse parsedAgain
  obtain ⟨alike, disjoint⟩ := (Grammar.runEnds_of_run ran).successive pure keeps (Nat.zero_le _)
    since (Grammar.runEnds_of_run ranAgain)
  generalize Grammar.requireEnd _ = answer at alike disjoint ranAgain
  cases answer with
  | error => exact alike.elim
  | ok again =>
      refine ⟨again, after, ranAgain, (program_of_alike alike.1).symm, ?_⟩
      have same := alike.same_iff_of_disjoint disjoint
      obtain ⟨ops, payloads, rest, _, _, _, carried, parsed⟩ := laid.parse_instructions input trail
      have written := laid.sourceAll_of_run ran
      obtain rfl := Grammar.success_of_run ran parsed
      rw [program_of_carried carried] at written
      rw [← written, Op.sourceAll_eq_nil_iff, ← contents_eq_nil_iff carried,
        ← Value.serials_eq_nil_iff]
      exact same

end Laid

end Brainfuck

/-- A run that is repeated later gives the same failure, or the same rest and a value that holds the
same; and the two replies are equal exactly if there are no payloads in them. In particular
instructions are read into the same program again, but into a value that is never the same. -/
theorem successive_runs :
    (∀ (α : Type) (grammar : Grammar α) (parser : Parser) (known : Nat),
      grammar.EachTransform parser (Transform.Pure known) →
      grammar.EachTransform parser Transform.KeepsOrMakes →
      ∀ input trail reply later, known ≤ trail.nextSerial →
      grammar.RunEnds parser input trail reply later →
      ∀ start : Trail, later.nextSerial ≤ start.nextSerial →
        (∃ answer after, grammar.RunEnds parser input start answer after) ∧
        ∀ answer after, grammar.RunEnds parser input start answer after →
          reply.Alike .all answer ∧
          (reply.same answer = true ↔
            ∀ success, reply = .ok success → success.value.contents = [])) ∧
    ∀ (α : Type) [Carries α Op] (initial : Grammar α), ∃ instructions built,
      Brainfuck.grammar initial = .ok (.ok instructions, built) ∧
      ∀ input trail success later,
        built.run instructions input trail = .ok (.ok success, later) →
        ∀ start : Trail, later.nextSerial ≤ start.nextSerial →
          ∃ again after, built.run instructions input start = .ok (.ok again, after) ∧
            Brainfuck.program again.value = Brainfuck.program success.value ∧
            (success.same again = true ↔ input = []) := by
  constructor
  · intro α grammar parser known pure keeps input trail reply later made ended start since
    refine ⟨ended.again pure made since, ?_⟩
    intro answer after again
    obtain ⟨alike, disjoint⟩ := ended.successive pure keeps made since again
    rw [← Reply.serials_eq_nil_iff]
    exact ⟨alike, alike.same_iff_of_disjoint disjoint⟩
  · intro α _ initial
    refine ⟨_, _, Brainfuck.grammar_eq_extend initial, ?_⟩
    intro input trail success later ran start since
    exact (Brainfuck.laid_extend initial).successive ran since

def twoDigits (first second : Nat) : Reply Nat :=
  .ok ⟨.list [.custom first 52, .char ',', .custom second 50], []⟩

theorem digitPayload_keepsOrMakes : digitPayload.KeepsOrMakes :=
  Transform.keepsOrMakes_of_fresh fun success => success.value.char?.elim 0 Char.toNat

theorem commaDigits_successive_runs :
    commaDigits.EachTransform ⟨7⟩ (Transform.Pure 0) ∧
    commaDigits.EachTransform ⟨7⟩ Transform.KeepsOrMakes ∧ 0 ≤ ({} : Trail).nextSerial ∧
    commaDigits.RunEnds ⟨7⟩ ['4', ',', '2'] {} (twoDigits 0 2) ⟨3, []⟩ ∧
    (⟨3, []⟩ : Trail).nextSerial ≤ (⟨3, []⟩ : Trail).nextSerial ∧
    commaDigits.RunEnds ⟨7⟩ ['4', ',', '2'] ⟨3, []⟩ (twoDigits 3 5) ⟨6, []⟩ ∧
    (twoDigits 0 2).Alike .all (twoDigits 3 5) ∧ (twoDigits 0 2).same (twoDigits 3 5) = false ∧
    ∃ instructions built success later again after,
      Brainfuck.grammar ({} : Grammar Op) = .ok (.ok instructions, built) ∧
      built.run instructions ['[', '+', ']'] {} = .ok (.ok success, later) ∧
      built.run instructions ['[', '+', ']'] later = .ok (.ok again, after) ∧
      Brainfuck.program again.value = Brainfuck.program success.value ∧
      success.same again = false := by
  have pure : commaDigits.EachTransform ⟨7⟩ (Transform.Pure 0) := by
    apply Grammar.EachTransform.of_transforms
    exact ⟨digitPayload_pure, digitPayload_pure⟩
  have keeps : commaDigits.EachTransform ⟨7⟩ Transform.KeepsOrMakes := by
    apply Grammar.EachTransform.of_transforms
    exact ⟨digitPayload_keepsOrMakes, digitPayload_keepsOrMakes⟩
  have ended : commaDigits.RunEnds ⟨7⟩ ['4', ',', '2'] {} (twoDigits 0 2) ⟨3, []⟩ :=
    ⟨_, ⟨12, rfl⟩, rfl⟩
  have again : commaDigits.RunEnds ⟨7⟩ ['4', ',', '2'] ⟨3, []⟩ (twoDigits 3 5) ⟨6, []⟩ :=
    ⟨_, ⟨12, rfl⟩, rfl⟩
  obtain ⟨_, replies⟩ := successive_runs.1 Nat commaDigits ⟨7⟩ 0 pure keeps _ _ _ _ (Nat.zero_le _)
    ended ⟨3, []⟩ (Nat.le_refl _)
  obtain ⟨alike, same⟩ := replies _ _ again
  have different : (twoDigits 0 2).same (twoDigits 3 5) = false := by
    rw [← Bool.not_eq_true, same]
    intro empty
    have nothing := empty _ rfl
    simp [Value.contents, Value.contentsAll] at nothing
  refine ⟨pure, keeps, Nat.zero_le _, ended, Nat.le_refl _, again, alike, different, ?_⟩
  have built : Brainfuck.grammar ({} : Grammar Op) =
      .ok (.ok ⟨19⟩, Brainfuck.grammar.leaves {}) := rfl
  obtain ⟨_, _, builtAgain, runs⟩ := successive_runs.2 Op {}
  cases built.symm.trans builtAgain
  obtain ⟨success, later, ran⟩ : ∃ success later,
      (Brainfuck.grammar.leaves ({} : Grammar Op)).run ⟨19⟩ ['[', '+', ']'] {} =
        .ok (.ok success, later) := ⟨_, _, rfl⟩
  obtain ⟨second, after, ranAgain, program, sameIff⟩ := runs _ _ _ _ ran later (Nat.le_refl _)
  refine ⟨⟨19⟩, _, success, later, second, after, built, ran, ranAgain, program, ?_⟩
  simpa using sameIff

end GrammarArena
