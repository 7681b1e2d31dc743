import GrammarArena.Proofs.Purity

/-!
Grammars that are built on top of others. The grammars that come with the library add nodes that
name only one another, so what is there already, and what is built later, has no part in what
they do: each does what it does when it is built alone.
-/

namespace GrammarArena

variable {α : Type}

def Parser.shift (base : Nat) (parser : Parser) : Parser :=
  ⟨base + parser.index⟩

def Slot.shift (base : Nat) (slot : Slot) : Slot :=
  ⟨base + slot.index⟩

theorem Parser.shift_zero (parser : Parser) : parser.shift 0 = parser := by
  simp [Parser.shift]

theorem Slot.shift_zero (slot : Slot) : slot.shift 0 = slot := by
  simp [Slot.shift]

theorem Node.shift_zero (node : Node α) : node.rename (Parser.shift 0) (Slot.shift 0) = node := by
  rw [funext Parser.shift_zero, funext Slot.shift_zero]
  exact node.rename_id

/-- What a builder adds to a grammar, with positions counted from where that begins. Its slots are
bound. -/
structure Blueprint (α : Type) where
  nodes : List (Node α)
  slots : List Parser
  entry : Parser

namespace Blueprint

variable {blueprint : Blueprint α} {grammar later : Grammar α} {base slotBase : Nat}

def nodesAt (blueprint : Blueprint α) (base slotBase : Nat) : List (Node α) :=
  blueprint.nodes.map (Node.rename (Parser.shift base) (Slot.shift slotBase))

def slotsAt (blueprint : Blueprint α) (base : Nat) : List (Option Parser) :=
  blueprint.slots.map fun target => some (target.shift base)

def alone (blueprint : Blueprint α) : Grammar α where
  nodes := blueprint.nodes.toArray
  slots := (blueprint.slots.map some).toArray

structure LiesIn (blueprint : Blueprint α) (grammar : Grammar α) (base slotBase : Nat) : Prop where
  lookup : ∀ (offset : Nat) {node}, (blueprint.nodesAt base slotBase)[offset]? = some node →
    grammar.lookup ⟨base + offset⟩ = .ok node
  resolve : ∀ (offset : Nat) {target}, (blueprint.slotsAt base)[offset]? = some (some target) →
    grammar.resolve ⟨slotBase + offset⟩ = .ok (some target)

/-- The builder adds what the blueprint says behind what is there, and gives the entry. -/
def Describes (blueprint : Blueprint α) (builder : Builder α (Except SlotError Parser)) : Prop :=
  ∀ initial, builder initial = .ok (.ok (blueprint.entry.shift initial.size),
    initial.extend (blueprint.nodesAt initial.size initial.slots.size)
      (blueprint.slotsAt initial.size))

theorem extend_empty (blueprint : Blueprint α) :
    ({} : Grammar α).extend (blueprint.nodesAt 0 0) (blueprint.slotsAt 0) = blueprint.alone := by
  have nodes : blueprint.nodesAt 0 0 = blueprint.nodes := List.map_id'' Node.shift_zero _
  have slots : blueprint.slotsAt 0 = blueprint.slots.map some :=
    List.map_congr_left fun target _ => congrArg some target.shift_zero
  rw [nodes, slots]
  simp [Grammar.extend, alone]

theorem Describes.alone {builder : Builder α (Except SlotError Parser)}
    (describes : blueprint.Describes builder) :
    builder {} = .ok (.ok blueprint.entry, blueprint.alone) := by
  rw [← blueprint.extend_empty, ← blueprint.entry.shift_zero]
  exact describes {}

theorem liesIn_extend (blueprint : Blueprint α) (initial : Grammar α) :
    blueprint.LiesIn (initial.extend (blueprint.nodesAt initial.size initial.slots.size)
      (blueprint.slotsAt initial.size)) initial.size initial.slots.size where
  lookup := fun _ _ listed => Grammar.lookup_extend listed _
  resolve := fun _ _ listed => Grammar.resolve_extend listed _

theorem liesIn_alone (blueprint : Blueprint α) : blueprint.LiesIn blueprint.alone 0 0 := by
  have lies := blueprint.liesIn_extend {}
  rwa [← blueprint.extend_empty]

theorem LiesIn.of_grows (lies : blueprint.LiesIn grammar base slotBase)
    (grows : grammar.Grows later) : blueprint.LiesIn later base slotBase where
  lookup := fun offset _ listed => grows.lookup (lies.lookup offset listed)
  resolve := fun offset _ listed => grows.resolve (lies.resolve offset listed)

theorem LiesIn.renames (lies : blueprint.LiesIn grammar base slotBase) (parser : Parser) :
    blueprint.alone.Renames grammar (Parser.shift base) (Slot.shift slotBase) parser where
  lookup := by
    intro reached node _ found
    apply lies.lookup reached.index
    rw [Grammar.lookup_ok_iff, alone, List.getElem?_toArray] at found
    rw [nodesAt, List.getElem?_map, found]
    rfl
  resolve := by
    intro _ slot target _ _ bound
    apply lies.resolve slot.index
    rw [Grammar.resolve_ok_iff, alone, List.getElem?_toArray, List.getElem?_map] at bound
    obtain ⟨listed, found, same⟩ := Option.map_eq_some_iff.mp bound
    cases same
    rw [slotsAt, List.getElem?_map, found]
    rfl

end Blueprint

theorem Grammar.Fragment.sealed {grammar : Grammar α} {base : Nat} {nodes : List (Node α)}
    (fragment : grammar.Fragment base nodes) : grammar.Sealed (Among base nodes.length) where
  found := by
    intro parser among
    obtain ⟨_, node, rfl, _, found⟩ := fragment.exists_node among
    exact ⟨node, found⟩
  bound := by
    intro parser slot among found
    obtain ⟨offset, node, rfl, listed, foundNode⟩ := fragment.exists_node among
    cases found.symm.trans foundNode
    obtain ⟨children, successors, _⟩ := fragment.leads listed
    obtain ⟨target, _, resolved⟩ := Grammar.exists_target_of_successors successors
    exact ⟨target, resolved⟩
  leads := fragment.among_of_leads

namespace Blueprint

/-- Wherever it lies, what the blueprint says is a whole of its own, in which every evaluation
ends; its transforms look at no payloads. -/
structure SelfContained (blueprint : Blueprint α) : Prop where
  entry : blueprint.entry.index < blueprint.nodes.length
  pure : ∀ inner transform, Node.map inner transform ∈ blueprint.nodes → transform.Pure 0
  fragment : ∀ {grammar base slotBase}, blueprint.LiesIn grammar base slotBase →
    grammar.Fragment base (blueprint.nodesAt base slotBase)
  closed : ∀ {grammar base slotBase}, blueprint.LiesIn grammar base slotBase →
    grammar.Closed (Grammar.Among base blueprint.nodes.length) Transform.KeepsSuffix
  ranked : ∀ {grammar base slotBase}, blueprint.LiesIn grammar base slotBase →
    ∃ rank, grammar.Ranked (Grammar.Among base blueprint.nodes.length) rank

namespace SelfContained

variable {blueprint : Blueprint α} {grammar : Grammar α} {base slotBase : Nat}

theorem among (contained : blueprint.SelfContained) (base : Nat) :
    Grammar.Among base blueprint.nodes.length (blueprint.entry.shift base) :=
  ⟨Nat.le_add_right _ _, Nat.add_lt_add_left contained.entry base⟩

theorem sealed (contained : blueprint.SelfContained)
    (lies : blueprint.LiesIn grammar base slotBase) :
    grammar.Sealed (Grammar.Among base blueprint.nodes.length) := by
  have fenced := (contained.fragment lies).sealed
  rwa [nodesAt, List.length_map] at fenced

theorem check_passes (contained : blueprint.SelfContained)
    (lies : blueprint.LiesIn grammar base slotBase) :
    grammar.check (blueprint.entry.shift base) = .ok (.ok ()) :=
  (contained.sealed lies).check_passes (contained.among base)

theorem parse_ne_outOfSteps (contained : blueprint.SelfContained)
    (lies : blueprint.LiesIn grammar base slotBase) (input : Text) (trail : Trail) :
    grammar.parse (blueprint.entry.shift base) input trail ≠ .error .outOfSteps := by
  obtain ⟨rank, ranked⟩ := contained.ranked lies
  exact ranked.parse_ne_outOfSteps (contained.closed lies) (contained.among base) input trail

theorem parse_replies (contained : blueprint.SelfContained)
    (lies : blueprint.LiesIn grammar base slotBase) (input : Text) (trail : Trail) :
    ∃ reply later, grammar.parse (blueprint.entry.shift base) input trail = .ok (reply, later) := by
  match outcome : grammar.parse (blueprint.entry.shift base) input trail with
  | .ok (reply, later) => exact ⟨reply, later, rfl⟩
  | .error (.fault fault) =>
      exact absurd (contained.among base)
        ((Faults.of_evaluate outcome).not_within (contained.sealed lies))
  | .error .outOfSteps => exact absurd outcome (contained.parse_ne_outOfSteps lies input trail)

theorem each_pure (contained : blueprint.SelfContained) (parser : Parser) :
    blueprint.alone.EachTransform parser (Transform.Pure 0) := by
  apply Grammar.EachTransform.of_nodes
  intro inner transform member
  exact contained.pure inner transform (List.mem_toArray.mp member)

theorem parse_alike (contained : blueprint.SelfContained)
    (lies : blueprint.LiesIn grammar base slotBase) (input : Text) (trail start : Trail) :
    ∃ reply later answer finish, ∃ paired : Pairing,
      blueprint.alone.parse blueprint.entry input trail = .ok (reply, later) ∧
      grammar.parse (blueprint.entry.shift base) input start = .ok (answer, finish) ∧
      paired.Fits 0 later.nextSerial finish.nextSerial ∧ reply.Alike paired answer := by
  obtain ⟨reply, later, parsed⟩ := contained.parse_replies blueprint.liesIn_alone input trail
  rw [blueprint.entry.shift_zero] at parsed
  have mirrored : Mirrored grammar .noProgress 0 _ reply later _ start :=
    (Replies.of_evaluate parsed).renamed (lies.renames blueprint.entry) (contained.each_pure _)
      (Nat.zero_le _) (Nat.zero_le _)
  obtain ⟨paired, answer, finish, _, run, fits, alike⟩ := mirrored
  have ended := contained.parse_ne_outOfSteps lies input start
  exact ⟨reply, later, answer, finish, paired, parsed, run.parse_eq ended, fits, alike⟩

end SelfContained

end Blueprint

theorem Grammar.resolve_extend_of_ok {grammar : Grammar α} {slot : Slot} {target : Option Parser}
    (resolved : grammar.resolve slot = .ok target) (nodes : List (Node α))
    (slots : List (Option Parser)) : (grammar.extend nodes slots).resolve slot = .ok target := by
  rw [resolve_ok_iff] at resolved ⊢
  obtain ⟨inBounds, _⟩ := Array.getElem?_eq_some_iff.mp resolved
  rw [extend, Array.getElem?_append_left inBounds, resolved]

namespace Brackets

def blueprint : Blueprint α where
  nodes := nodes 0 ⟨0⟩
  slots := [⟨8⟩]
  entry := ⟨8⟩

theorem blueprint_describes : (blueprint : Blueprint α).Describes grammar :=
  grammar_eq_extend

theorem laid_of_liesIn {grammar : Grammar α} {base slotBase : Nat}
    (lies : blueprint.LiesIn grammar base slotBase) : Laid grammar base ⟨slotBase⟩ where
  lookup := lies.lookup
  bound := lies.resolve 0 rfl

theorem blueprint_selfContained : (blueprint : Blueprint α).SelfContained where
  entry := Nat.lt_succ_self _
  pure := by
    intro inner transform member
    simp only [blueprint, nodes, List.mem_cons, reduceCtorEq, false_or, or_false, List.not_mem_nil,
      Node.map.injEq] at member
    rw [member.2]
    exact Builder.requireItems_pure 0
  fragment := fun lies => (laid_of_liesIn lies).fragment
  closed := fun lies => (laid_of_liesIn lies).closed
  ranked := fun lies => ⟨_, (laid_of_liesIn lies).ranked⟩

end Brackets

namespace IntegerList

def blueprint : Blueprint α where
  nodes := nodes 0
  slots := []
  entry := ⟨11⟩

theorem blueprint_describes : (blueprint : Blueprint α).Describes grammar :=
  grammar_eq_extend

theorem laid_of_liesIn {grammar : Grammar α} {base slotBase : Nat}
    (lies : blueprint.LiesIn grammar base slotBase) : Laid grammar base :=
  lies.lookup

theorem blueprint_selfContained : (blueprint : Blueprint α).SelfContained where
  entry := Nat.lt_succ_self _
  pure := by
    intro inner transform member
    simp only [blueprint, nodes, List.mem_cons, reduceCtorEq, false_or, or_false, List.not_mem_nil,
      Node.map.injEq] at member
    rcases member with ⟨_, rfl⟩ | ⟨_, rfl⟩ | ⟨_, rfl⟩
    · exact Builder.readInteger_pure 0
    · exact select_pure 0 0
    · exact select_pure 1 0
  fragment := fun lies => (laid_of_liesIn lies).fragment
  closed := fun lies => (laid_of_liesIn lies).closed
  ranked := fun lies => ⟨_, (laid_of_liesIn lies).ranked⟩

end IntegerList

variable [Carries α Op]

namespace Brainfuck

def blueprint : Blueprint α where
  nodes := nodes 0 ⟨0⟩
  slots := [⟨19⟩]
  entry := ⟨19⟩

theorem blueprint_describes : (blueprint : Blueprint α).Describes grammar :=
  grammar_eq_extend

theorem laid_of_liesIn {grammar : Grammar α} {base slotBase : Nat}
    (lies : blueprint.LiesIn grammar base slotBase) : Laid grammar base ⟨slotBase⟩ where
  lookup := lies.lookup
  bound := lies.resolve 0 rfl

theorem blueprint_selfContained : (blueprint : Blueprint α).SelfContained where
  entry := Nat.lt_succ_self _
  pure := fun _ _ => each_transform (fun op => instruction_pure op 0) (loopOf_pure 0)
  fragment := fun lies => (laid_of_liesIn lies).fragment
  closed := fun lies => (laid_of_liesIn lies).closed
  ranked := fun lies => ⟨_, (laid_of_liesIn lies).ranked⟩

end Brainfuck

/-- Called on any grammar, the builder succeeds and leaves all that is there as it is. What it
gives passes the check, then and whatever is called later, and its replies are like those of what
it gives when it is called on the empty grammar. -/
def Builder.Composes (builder : Builder α (Except SlotError Parser)) : Prop :=
  ∀ initial, ∃ parser built, builder initial = .ok (.ok parser, built) ∧
    (∀ earlier node, initial.lookup earlier = .ok node → built.lookup earlier = .ok node) ∧
    (∀ slot target, initial.resolve slot = .ok target → built.resolve slot = .ok target) ∧
    ∃ first alone, builder {} = .ok (.ok first, alone) ∧
      ∀ calls, (built.build calls).check parser = .ok (.ok ()) ∧
        ∀ input trail start, ∃ reply later answer finish, ∃ paired : Pairing,
          alone.parse first input trail = .ok (reply, later) ∧
          (built.build calls).parse parser input start = .ok (answer, finish) ∧
          paired.Fits 0 later.nextSerial finish.nextSerial ∧ reply.Alike paired answer

theorem Blueprint.SelfContained.composes {blueprint : Blueprint α}
    (contained : blueprint.SelfContained) {builder : Builder α (Except SlotError Parser)}
    (describes : blueprint.Describes builder) : builder.Composes := by
  intro initial
  have lies := blueprint.liesIn_extend initial
  refine ⟨_, _, describes initial, ?_, ?_, _, _, describes.alone, ?_⟩
  · exact fun _ _ found => (initial.grows_extend _ _).lookup found
  · exact fun _ _ resolved => Grammar.resolve_extend_of_ok resolved _ _
  · intro calls
    have liesLater := lies.of_grows (Grammar.grows_build _ calls)
    exact ⟨contained.check_passes liesLater, contained.parse_alike liesLater⟩

/-- The grammars that come with the library can be added to any grammar, and anything to them. -/
theorem grammars_compose :
    (Brackets.grammar : Builder α (Except SlotError Parser)).Composes ∧
    (IntegerList.grammar : Builder α (Except SlotError Parser)).Composes ∧
    (Brainfuck.grammar : Builder α (Except SlotError Parser)).Composes :=
  ⟨Brackets.blueprint_selfContained.composes Brackets.blueprint_describes,
    IntegerList.blueprint_selfContained.composes IntegerList.blueprint_describes,
    Brainfuck.blueprint_selfContained.composes Brainfuck.blueprint_describes⟩

end GrammarArena
