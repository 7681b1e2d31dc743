import GrammarArena.Brainfuck.Grammar
import GrammarArena.Proofs.Idioms
import GrammarArena.Proofs.InstructionText
import GrammarArena.Proofs.Layout

/-!
The grammar of brainfuck programs takes the longest balanced front of its input that is made of
instruction characters, and its value carries the program whose source text that front is.
-/

namespace GrammarArena.Brainfuck

open Op

variable {α : Type} [Carries α Op]

def nodes (base : Nat) (slot : Slot) : List (Node α) :=
  [.char '+', .map ⟨base⟩ (instruction .plus), .char '-', .map ⟨base + 2⟩ (instruction .minus),
    .char '<', .map ⟨base + 4⟩ (instruction .left), .char '>',
    .map ⟨base + 6⟩ (instruction .right), .char '.', .map ⟨base + 8⟩ (instruction .put),
    .char ',', .map ⟨base + 10⟩ (instruction .get),
    .branch [⟨base + 1⟩, ⟨base + 3⟩, ⟨base + 5⟩, ⟨base + 7⟩, ⟨base + 9⟩, ⟨base + 11⟩],
    .char '[', .reference slot, .char ']', .sequence [⟨base + 13⟩, ⟨base + 14⟩, ⟨base + 15⟩],
    .map ⟨base + 16⟩ loopOf, .branch [⟨base + 12⟩, ⟨base + 17⟩], .repetition ⟨base + 18⟩]

structure Laid (grammar : Grammar α) (base : Nat) (slot : Slot) : Prop where
  lookup : ∀ (offset : Nat) {node}, (nodes base slot)[offset]? = some node →
    grammar.lookup ⟨base + offset⟩ = .ok node
  bound : grammar.resolve slot = .ok (some ⟨base + 19⟩)

theorem grammar_eq_extend (initial : Grammar α) :
    grammar initial = .ok (.ok ⟨initial.size + 19⟩,
      initial.extend (nodes initial.size ⟨initial.slots.size⟩) [some ⟨initial.size + 19⟩]) := by
  have begins : grammar initial = grammar (initial.extend [] []) := by rw [Grammar.extend_nil]
  have free : ([none] : List (Option Parser))[0]? = some none := rfl
  rw [begins]
  simp only [grammar, simple, Builder.repetition, Builder.map, Builder.char, Builder.reference,
    Builder.sequence, Builder.branch, bind_assoc, Builder.newSlot_bind, Builder.register_bind,
    List.nil_append, List.length_nil, List.cons_append, List.length_cons, Nat.add_zero,
    Nat.zero_add, Nat.reduceAdd]
  exact Builder.bindSlot_bind initial _ _ free _ _

theorem laid_extend (initial : Grammar α) :
    Laid (initial.extend (nodes initial.size ⟨initial.slots.size⟩) [some ⟨initial.size + 19⟩])
      initial.size ⟨initial.slots.size⟩ where
  lookup := fun _ _ listed => Grammar.lookup_extend listed _
  bound := by
    have listed : [some (Parser.mk (initial.size + 19))][0]? = some (some ⟨initial.size + 19⟩) :=
      rfl
    exact Grammar.resolve_extend listed _

theorem instruction_keepsSuffix (op : Op) :
    Transform.KeepsSuffix (instruction op : Transform α) := by
  rintro success serial result ⟨⟩
  exact List.suffix_refl _

theorem loopOf_keepsSuffix : Transform.KeepsSuffix (loopOf : Transform α) :=
  fun success => instruction_keepsSuffix _ success

theorem each_transform {property : Transform α → Prop} (one : ∀ op, property (instruction op))
    (loop : property loopOf) {base : Nat} {slot : Slot} {inner : Parser} {transform : Transform α}
    (member : Node.map inner transform ∈ nodes base slot) : property transform := by
  simp only [nodes, List.mem_cons, reduceCtorEq, false_or, or_false, List.not_mem_nil,
    Node.map.injEq] at member
  rcases member with ⟨_, rfl⟩ | ⟨_, rfl⟩ | ⟨_, rfl⟩ | ⟨_, rfl⟩ | ⟨_, rfl⟩ | ⟨_, rfl⟩ | ⟨_, rfl⟩
  case inr.inr.inr.inr.inr.inr => exact loop
  all_goals exact one _

namespace Laid

variable {grammar : Grammar α} {base : Nat} {slot : Slot}

theorem descends : Grammar.Descends base 0 (nodes (α := α) base slot) := by
  simp [nodes, Grammar.Descends, Node.children, Grammar.Among]

theorem fragment (laid : Laid grammar base slot) : grammar.Fragment base (nodes base slot) := by
  apply Grammar.Fragment.of_descends laid.lookup descends
  intro other member
  simp only [nodes, List.mem_cons, reduceCtorEq, Node.reference.injEq, List.not_mem_nil, false_or,
    or_false] at member
  rw [member]
  exact ⟨_, laid.bound, by simp [nodes, Grammar.Among]⟩

theorem encloses (laid : Laid grammar base slot) : grammar.Encloses ⟨base + 16⟩ ⟨base + 19⟩ :=
  ⟨_, _, _, _, laid.lookup 16 rfl, laid.lookup 13 rfl, laid.lookup 14 rfl, laid.lookup 15 rfl,
    laid.bound⟩

theorem closed (laid : Laid grammar base slot) :
    grammar.Closed (Grammar.Among base 20) Transform.KeepsSuffix :=
  laid.fragment.closed fun _ _ => each_transform instruction_keepsSuffix loopOf_keepsSuffix

theorem ranked (laid : Laid grammar base slot) :
    grammar.Ranked (Grammar.Among base 20) fun parser =>
      Grammar.lateRank 20 14 (parser.index - base) := by
  -- The list is tried at the cursor of the reference to it, but the reference only behind a
  -- bracket.
  have opening := Grammar.not_nullable_of_char (laid.lookup 13 rfl)
  apply laid.fragment.ranked_of_descends descends
  · simp [nodes]
  · rintro other ⟨⟩
    rw [laid.bound]
    simp
  · simp [nodes, Node.children, opening]

end Laid

section Values

variable {grammar : Grammar α} {entries : List (Char × Op)} {children : List Parser}

def MakesEach (grammar : Grammar α) : List (Char × Op) → List Parser → Prop :=
  List.Forall₂ fun entry child => ∃ char,
    grammar.lookup child = .ok (.map char (instruction entry.2)) ∧
    grammar.lookup char = .ok (.char entry.1)

theorem MakesEach.taken (each : MakesEach grammar entries children) {found : Char} {op : Op}
    (listed : entries.lookup found = some op) (guard : Guard) (last : Failure) (rest : Text)
    (trail : Trail) :
    Replies grammar guard (.branch last (found :: rest) children) trail
      (.ok ⟨.custom trail.nextSerial (Carries.embed op), rest⟩)
      (trail.advance (trail.nextSerial + 1)) := by
  induction each generalizing last with
  | nil => contradiction
  | @cons entry child entries children makes _ ih =>
      obtain ⟨char, map, expects⟩ := makes
      rw [List.lookup_cons] at listed
      by_cases same : found = entry.1
      · subst same
        simp only [BEq.rfl] at listed
        cases listed
        exact .branchSuccess (.mapSuccess map (Replies.char_taken expects guard rest trail))
      · have different : ∀ tail, found :: rest ≠ entry.1 :: tail := by simp [same]
        simp only [beq_eq_false_iff_ne.mpr same] at listed
        obtain ⟨failure, refused⟩ := Replies.char_refused expects guard different trail
        exact .branchNext (.mapFailure map refused) (ih listed failure)

theorem MakesEach.refused (each : MakesEach grammar entries children) {cursor : Text}
    (unlisted : ∀ found rest, cursor = found :: rest → entries.lookup found = none)
    (guard : Guard) (last : Failure) (trail : Trail) :
    ∃ failure, Replies grammar guard (.branch last cursor children) trail (.error failure)
      trail := by
  induction each generalizing last with
  | nil => exact ⟨last, .branchEnd⟩
  | @cons entry child entries children makes _ ih =>
      obtain ⟨char, map, expects⟩ := makes
      have different : ∀ tail, cursor ≠ entry.1 :: tail := by
        rintro tail rfl
        have found := unlisted entry.1 tail rfl
        simp at found
      have unlistedRest : ∀ found rest, cursor = found :: rest → entries.lookup found = none := by
        rintro found rest rfl
        have none := unlisted found rest rfl
        rw [List.lookup_cons] at none
        split at none
        · contradiction
        · exact none
      obtain ⟨failure, refused⟩ := Replies.char_refused expects guard different trail
      obtain ⟨final, others⟩ := ih unlistedRest failure
      exact ⟨final, .branchNext (.mapFailure map refused) others⟩

theorem program_of_carried {values : List (Value α)} {ops : List Op}
    (carried : values.map instruction? = ops.map some) : program (.list values) = ops := by
  have filtered := congrArg (List.filterMap id) carried
  simpa [List.filterMap_map, program, Value.list?] using filtered

end Values

namespace Laid

variable {grammar : Grammar α} {base : Nat} {slot : Slot}

theorem makesEach (laid : Laid grammar base slot) :
    MakesEach grammar opcodes
      [⟨base + 1⟩, ⟨base + 3⟩, ⟨base + 5⟩, ⟨base + 7⟩, ⟨base + 9⟩, ⟨base + 11⟩] := by
  refine .cons ⟨_, laid.lookup 1 rfl, laid.lookup 0 rfl⟩ ?_
  refine .cons ⟨_, laid.lookup 3 rfl, laid.lookup 2 rfl⟩ ?_
  refine .cons ⟨_, laid.lookup 5 rfl, laid.lookup 4 rfl⟩ ?_
  refine .cons ⟨_, laid.lookup 7 rfl, laid.lookup 6 rfl⟩ ?_
  refine .cons ⟨_, laid.lookup 9 rfl, laid.lookup 8 rfl⟩ ?_
  exact .cons ⟨_, laid.lookup 11 rfl, laid.lookup 10 rfl⟩ .nil

theorem simple_taken (laid : Laid grammar base slot) {found : Char} {op : Op}
    (listed : opcodes.lookup found = some op) (rest : Text) (trail : Trail) :
    Replies grammar .noProgress (.attempt ⟨base + 18⟩ (found :: rest)) trail
      (.ok ⟨.custom trail.nextSerial (Carries.embed op), rest⟩)
      (trail.advance (trail.nextSerial + 1)) := by
  have simple := laid.makesEach.taken listed .noProgress (.atCursor (found :: rest)) rest trail
  apply Replies.branch (laid.lookup 18 rfl)
  exact .branchSuccess (.branch (laid.lookup 12 rfl) simple)

theorem simple_refused (laid : Laid grammar base slot) {cursor : Text}
    (unlisted : ∀ found rest, cursor = found :: rest → isSimple found = false) (trail : Trail) :
    ∃ failure, Replies grammar .noProgress (.attempt ⟨base + 12⟩ cursor) trail (.error failure)
      trail := by
  have absent : ∀ found rest, cursor = found :: rest → opcodes.lookup found = none := by
    intro found rest same
    rw [← Option.not_isSome_iff_eq_none, Option.isSome_iff_exists, ← isSimple_iff]
    simp [unlisted found rest same]
  obtain ⟨failure, refused⟩ := laid.makesEach.refused absent .noProgress (.atCursor cursor) trail
  exact ⟨failure, .branch (laid.lookup 12 rfl) refused⟩

theorem loop_taken (laid : Laid grammar base slot) {tail after : Text} {payloads : List (Value α)}
    {ops : List Op} (carried : payloads.map instruction? = ops.map some) {trail later : Trail}
    (body : Replies grammar .noProgress (.attempt ⟨base + 19⟩ tail) trail
      (.ok ⟨.list payloads, ']' :: after⟩) later) :
    Replies grammar .noProgress (.attempt ⟨base + 18⟩ ('[' :: tail)) trail
      (.ok ⟨.custom later.nextSerial (Carries.embed (Op.loop ops)), after⟩)
      (later.advance (later.nextSerial + 1)) := by
  have unlisted : ∀ found rest, '[' :: tail = found :: rest → isSimple found = false := by
    rintro found rest ⟨⟩
    rfl
  obtain ⟨failure, refused⟩ := laid.simple_refused unlisted trail
  have group := laid.encloses.taken body
  have loop := Replies.mapSuccess (laid.lookup 17 rfl) group
  have made : loopOf ⟨.list [.char '[', .list payloads, .char ']'], after⟩ later.nextSerial =
      (.ok ⟨.custom later.nextSerial (Carries.embed (Op.loop ops)), after⟩,
        later.nextSerial + 1) := by
    rw [← program_of_carried carried]
    rfl
  rw [made] at loop
  apply Replies.branch (laid.lookup 18 rfl)
  exact .branchNext refused (.branchSuccess loop)

theorem loop_refused (laid : Laid grammar base slot) {cursor : Text}
    (unlisted : ∀ found rest, cursor = found :: rest → isSimple found = false)
    {failure : Failure} {trail later : Trail}
    (group : Replies grammar .noProgress (.attempt ⟨base + 16⟩ cursor) trail (.error failure)
      later) :
    Replies grammar .noProgress (.attempt ⟨base + 18⟩ cursor) trail (.error failure) later := by
  obtain ⟨first, refused⟩ := laid.simple_refused unlisted trail
  apply Replies.branch (laid.lookup 18 rfl)
  exact .branchNext refused (.branchNext (.mapFailure (laid.lookup 17 rfl) group) .branchEnd)

end Laid

/-- The instructions at the cursor, after the values so far, are taken up to where nothing
balanced follows. -/
def Takes (grammar : Grammar α) (base : Nat) (values : List (Value α)) (cursor : Text)
    (trail : Trail) : Prop :=
  ∃ ops payloads rest later, cursor = sourceAll ops ++ rest ∧ Stuck isSimple rest ∧
    payloads.map instruction? = ops.map some ∧
    Replies grammar .noProgress (.repetition ⟨base + 18⟩ values cursor) trail
      (.ok ⟨.list (values.reverse ++ payloads), rest⟩) later

theorem Takes.nothing {grammar : Grammar α} {base : Nat} {values : List (Value α)} {cursor : Text}
    {failure : Failure} {trail later : Trail} (stuck : Stuck isSimple cursor)
    (refused : Replies grammar .noProgress (.attempt ⟨base + 18⟩ cursor) trail (.error failure)
      later) : Takes grammar base values cursor trail := by
  refine ⟨[], [], cursor, later, rfl, stuck, rfl, ?_⟩
  rw [List.append_nil]
  exact .repeatFailure refused

theorem Takes.cons {grammar : Grammar α} {base : Nat} {values : List (Value α)} {after : Text}
    {op : Op} {serial : Nat} {trail middle : Trail}
    (first : Replies grammar .noProgress (.attempt ⟨base + 18⟩ (source op ++ after)) trail
      (.ok ⟨.custom serial (Carries.embed op), after⟩) middle)
    (next : Takes grammar base (.custom serial (Carries.embed op) :: values) after middle) :
    Takes grammar base values (source op ++ after) trail := by
  obtain ⟨ops, payloads, rest, later, split, stuck, carried, run⟩ := next
  refine ⟨op :: ops, .custom serial (Carries.embed op) :: payloads, rest, later, ?_, stuck, ?_, ?_⟩
  · rw [sourceAll, List.append_assoc, split]
  · simp [instruction?, Value.content?, Carries.extract?_embed, carried]
  · have progress : Guard.noProgress (source op ++ after) after = false := by
      apply Guard.progress_of_length_lt (List.suffix_append _ _)
      have notEmpty := List.length_pos_of_ne_nil (source_ne_nil op)
      rw [List.length_append]
      omega
    rw [List.reverse_cons, List.append_assoc] at run
    exact .repeatNext first progress run

namespace Laid

variable {grammar : Grammar α} {base : Nat} {slot : Slot}

theorem takes_nothing (laid : Laid grammar base slot) {cursor : Text}
    (unlisted : ∀ found rest, cursor = found :: rest → isSimple found = false)
    (unopened : ∀ tail, cursor ≠ '[' :: tail) (stuck : Stuck isSimple cursor)
    (values : List (Value α)) (trail : Trail) : Takes grammar base values cursor trail := by
  obtain ⟨failure, group⟩ := laid.encloses.unopened unopened .noProgress trail
  exact .nothing stuck (laid.loop_refused unlisted group)

theorem takes_simple (laid : Laid grammar base slot) {found : Char}
    (simple : isSimple found = true) {rest : Text}
    (next : ∀ values trail, Takes grammar base values rest trail) (values : List (Value α))
    (trail : Trail) : Takes grammar base values (found :: rest) trail := by
  obtain ⟨op, listed⟩ := isSimple_iff.mp simple
  have written := source_of_lookup listed
  have first := laid.simple_taken listed rest trail
  rw [← List.singleton_append, ← written] at first ⊢
  exact .cons first (next _ _)

theorem takes_opening (laid : Laid grammar base slot) {tail : Text} {trail : Trail}
    (body : Takes grammar base [] tail trail)
    (next : ∀ after values trail, after.length < tail.length →
      Takes grammar base values after trail)
    (values : List (Value α)) : Takes grammar base values ('[' :: tail) trail := by
  obtain ⟨ops, payloads, left, middle, split, stuck, carried, run⟩ := body
  subst split
  have list := Replies.repetition (laid.lookup 19 rfl) run
  by_cases closed : ∃ after, left = ']' :: after
  · obtain ⟨after, rfl⟩ := closed
    have first := laid.loop_taken carried list
    have written : '[' :: (sourceAll ops ++ ']' :: after) = source (.loop ops) ++ after := by
      simp [source]
    rw [written] at first ⊢
    exact .cons first (next after _ _ (by simp; omega))
  · have unclosed := not_exists.mp closed
    have unlisted : ∀ found rest, '[' :: (sourceAll ops ++ left) = found :: rest →
        isSimple found = false := by
      rintro found rest ⟨⟩
      rfl
    have longest := LongestBalanced.of_stuck (sourceAll_balanced ops) stuck
    obtain ⟨failure, group⟩ := laid.encloses.unclosed list unclosed
    exact .nothing (.opening longest unclosed) (laid.loop_refused unlisted group)

theorem takes (laid : Laid grammar base slot) (values : List (Value α)) (cursor : Text)
    (trail : Trail) : Takes grammar base values cursor trail := by
  -- On the length: behind a bracket the body is read to the end of what follows it, and the list
  -- goes on behind the bracket that closes it, wherever that is.
  induction size : cursor.length using Nat.strong_induction_on generalizing values cursor trail with
  | _ size ih =>
      subst size
      cases cursor with
      | nil => exact laid.takes_nothing (by simp) (by simp) .nil values trail
      | cons found rest =>
          have shorter : rest.length < (found :: rest).length := Nat.lt_succ_self _
          cases simple : isSimple found with
          | true =>
              exact laid.takes_simple simple (fun _ _ => ih _ shorter _ _ _ rfl) values trail
          | false =>
              by_cases opening : found = '['
              · subst opening
                exact laid.takes_opening (ih _ shorter _ _ _ rfl)
                  (fun after _ _ less => ih _ (less.trans shorter) _ after _ rfl) values
              · have unlisted : ∀ next tail, found :: rest = next :: tail →
                    isSimple next = false := by
                  rintro next tail ⟨⟩
                  exact simple
                exact laid.takes_nothing unlisted (by simp [opening])
                  (.forbidden opening simple rest) values trail

theorem parse_instructions (laid : Laid grammar base slot) (input : Text) (trail : Trail) :
    ∃ ops payloads rest later, input = sourceAll ops ++ rest ∧ Stuck isSimple rest ∧
      payloads.map instruction? = ops.map some ∧
      grammar.parse ⟨base + 19⟩ input trail = .ok (.ok ⟨.list payloads, rest⟩, later) := by
  obtain ⟨ops, payloads, rest, later, split, stuck, carried, run⟩ := laid.takes [] input trail
  have inside : Grammar.Among base 20 ⟨base + 19⟩ := ⟨Nat.le_add_right _ _, Nat.lt_succ_self _⟩
  have ended := Grammar.Ranked.parse_ne_outOfSteps laid.closed laid.ranked inside input trail
  have list := Replies.repetition (laid.lookup 19 rfl) run
  exact ⟨ops, payloads, rest, later, split, stuck, carried, list.parse_eq ended⟩

theorem sourceAll_of_run (laid : Laid grammar base slot) {input : Text} {trail later : Trail}
    {success : Success α}
    (ran : grammar.run ⟨base + 19⟩ input trail = .ok (.ok success, later)) :
    sourceAll (program success.value) = input := by
  obtain ⟨ops, payloads, rest, finish, split, _, carried, parsed⟩ :=
    laid.parse_instructions input trail
  rw [Grammar.run_eq_of_parse parsed] at ran
  cases rest with
  | nil =>
      cases ran
      rw [program_of_carried carried, split, List.append_nil]
  | cons found tail => cases ran

end Laid

/-- Reading a program and writing it are inverse. The source text of any instructions is read
back as these; what is read, if all of the input is, is written as the input. No value is passed
over on the way: whatever the input, each value of a list that the parser gives, and the body of a
loop is such a list too, is an instruction of the program of that list. -/
theorem source_program_inverse (initial : Grammar α) :
    ∃ instructions built, grammar initial = .ok (.ok instructions, built) ∧
      (∀ ops trail, ∃ value later,
        built.run instructions (sourceAll ops) trail = .ok (.ok ⟨value, []⟩, later) ∧
        program value = ops) ∧
      (∀ input trail success later,
        built.run instructions input trail = .ok (.ok success, later) →
        sourceAll (program success.value) = input) ∧
      ∀ input trail success later,
        built.parse instructions input trail = .ok (.ok success, later) →
        ∃ values, success.value = .list values ∧
          values.map instruction? = (program success.value).map some := by
  refine ⟨_, _, grammar_eq_extend initial, ?_, ?_, ?_⟩
  · intro ops trail
    obtain ⟨others, payloads, rest, later, split, stuck, carried, parsed⟩ :=
      (laid_extend initial).parse_instructions (sourceAll ops) trail
    have whole := sourceAll_balanced ops
    rw [split] at whole
    obtain rfl := stuck.eq_nil_of_balanced (sourceAll_balanced others) whole
    rw [List.append_nil] at split
    refine ⟨.list payloads, later, Grammar.run_eq_of_parse parsed, ?_⟩
    rw [program_of_carried carried, sourceAll_injective _ _ split]
  · intro input trail success later ran
    exact (laid_extend initial).sourceAll_of_run ran
  · intro input trail success later parsedSuccess
    obtain ⟨ops, payloads, rest, finish, _, _, carried, parsed⟩ :=
      (laid_extend initial).parse_instructions input trail
    cases parsed.symm.trans parsedSuccess
    exact ⟨payloads, rfl, by rw [program_of_carried carried, carried]⟩

/-- Added to any grammar, the instructions take the longest front of every input that is balanced
and made of instruction characters. They accept the whole input exactly if it is such a text;
otherwise the failure names the character behind that front, which is not an instruction, or a
closing bracket without an opening one, or an opening bracket that is never closed. -/
theorem longest_program_taken (initial : Grammar α) :
    ∃ instructions built, grammar initial = .ok (.ok instructions, built) ∧ ∀ input trail,
      ∃ value front rest later, input = front ++ rest ∧ LongestBalanced isSimple front input ∧
        built.parse instructions input trail = .ok (.ok ⟨value, rest⟩, later) ∧
        (Balanced isSimple input →
          built.run instructions input trail = .ok (.ok ⟨value, []⟩, later)) ∧
        (¬ Balanced isSimple input → ∃ found tail, rest = found :: tail ∧
          built.run instructions input trail = .ok (.error (.unexpected found), later) ∧
          Obstructed isSimple (found :: tail)) := by
  refine ⟨_, _, grammar_eq_extend initial, ?_⟩
  intro input trail
  obtain ⟨ops, payloads, rest, later, rfl, stuck, _, parsed⟩ :=
    (laid_extend initial).parse_instructions input trail
  have ran := Grammar.run_eq_of_parse parsed
  have balancedFront := sourceAll_balanced ops
  have longest := LongestBalanced.of_stuck balancedFront stuck
  refine ⟨.list payloads, sourceAll ops, rest, later, rfl, longest, parsed, ?_, ?_⟩
  · intro whole
    obtain rfl := stuck.eq_nil_of_balanced balancedFront whole
    exact ran
  · intro unbalanced
    rcases stuck.eq_nil_or_obstructed with rfl | obstructed
    · rw [List.append_nil] at unbalanced
      exact absurd balancedFront unbalanced
    · cases rest with
      | nil => cases obstructed
      | cons found tail => exact ⟨found, tail, rfl, ran, obstructed⟩

end GrammarArena.Brainfuck
