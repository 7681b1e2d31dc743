import GrammarArena.Grammar.Builder
import GrammarArena.Proofs.Termination

/-!
Where the nodes of a grammar lie that was built on top of another one. Builders put their nodes
and slots after those that are there; a stretch of nodes that lead only to one another can be
reasoned about as if it were alone.
-/

namespace GrammarArena

variable {α β : Type}

def Node.children : Node α → List Parser
  | .sequence children | .branch children => children
  | .repetition inner | .map inner _ => [inner]
  | .char _ | .string _ | .filter _ | .satisfy _ | .reference _ => []

namespace Grammar

theorem LeftOfNode.mem_children {grammar : Grammar α} {node : Node α} {child : Parser}
    (left : grammar.LeftOfNode child node) (plain : ∀ slot, node ≠ .reference slot) :
    child ∈ node.children := by
  cases node with
  | char | string | filter | satisfy => contradiction
  | sequence =>
      obtain ⟨before, after, rfl, _⟩ := left
      exact List.mem_append_right _ List.mem_cons_self
  | branch => exact left
  | repetition | map => exact List.mem_singleton.mpr left
  | reference slot => exact absurd rfl (plain slot)

def extend (grammar : Grammar α) (nodes : List (Node α)) (slots : List (Option Parser)) :
    Grammar α where
  nodes := grammar.nodes ++ nodes.toArray
  slots := grammar.slots ++ slots.toArray

theorem extend_nil (grammar : Grammar α) : grammar.extend [] [] = grammar := by
  simp [extend]

theorem lookup_extend {grammar : Grammar α} {nodes : List (Node α)} {offset : Nat} {node : Node α}
    (listed : nodes[offset]? = some node) (slots : List (Option Parser)) :
    (grammar.extend nodes slots).lookup ⟨grammar.size + offset⟩ = .ok node := by
  rw [lookup_ok_iff, extend, size, Array.getElem?_append_right (Nat.le_add_right _ _)]
  simpa using listed

theorem resolve_extend {grammar : Grammar α} {slots : List (Option Parser)} {offset : Nat}
    {target : Option Parser} (listed : slots[offset]? = some target) (nodes : List (Node α)) :
    (grammar.extend nodes slots).resolve ⟨grammar.slots.size + offset⟩ = .ok target := by
  rw [resolve_ok_iff, extend, Array.getElem?_append_right (Nat.le_add_right _ _)]
  simpa using listed

end Grammar

namespace Builder

variable (initial : Grammar α) (nodes : List (Node α)) (slots : List (Option Parser))

theorem register_bind (node : Node α) (next : Parser → Builder α β) :
    (register node >>= next) (initial.extend nodes slots) =
      next ⟨initial.size + nodes.length⟩ (initial.extend (nodes ++ [node]) slots) := by
  have size : (initial.extend nodes slots).nodes.size = initial.size + nodes.length := by
    simp [Grammar.extend, Grammar.size]
  have pushed : { initial.extend nodes slots with
      nodes := (initial.extend nodes slots).nodes.push node } =
      initial.extend (nodes ++ [node]) slots := by
    simp [Grammar.extend]
  change next ⟨_⟩ _ = _
  rw [size, pushed]

theorem newSlot_bind (next : Slot → Builder α β) :
    (newSlot >>= next) (initial.extend nodes slots) =
      next ⟨initial.slots.size + slots.length⟩ (initial.extend nodes (slots ++ [none])) := by
  have size : (initial.extend nodes slots).slots.size = initial.slots.size + slots.length := by
    simp [Grammar.extend]
  have pushed : { initial.extend nodes slots with
      slots := (initial.extend nodes slots).slots.push none } =
      initial.extend nodes (slots ++ [none]) := by
    simp [Grammar.extend]
  change next ⟨_⟩ _ = _
  rw [size, pushed]

theorem bindSlot_bind {offset : Nat} (free : slots[offset]? = some none) (target : Parser)
    (next : Except SlotError Unit → Builder α β) :
    (bindSlot ⟨initial.slots.size + offset⟩ target >>= next) (initial.extend nodes slots) =
      next (.ok ()) (initial.extend nodes (slots.set offset (some target))) := by
  have bound : (initial.extend nodes slots).bindSlot ⟨initial.slots.size + offset⟩ target =
      .ok (.ok (initial.extend nodes (slots.set offset (some target)))) := by
    rw [Grammar.bindSlot, Grammar.resolve_extend free]
    simp [Grammar.extend]
  change (bindSlot _ target (initial.extend nodes slots) >>= _) = _
  rw [bindSlot, bound]
  rfl

end Builder

namespace Grammar

def Among (base count : Nat) (parser : Parser) : Prop :=
  base ≤ parser.index ∧ parser.index < base + count

/-- From the position on the grammar has these nodes, and they lead only to one another. -/
structure Fragment (grammar : Grammar α) (base : Nat) (nodes : List (Node α)) : Prop where
  lookup : ∀ (offset : Nat) {node}, nodes[offset]? = some node →
    grammar.lookup ⟨base + offset⟩ = .ok node
  leads : ∀ {offset : Nat} {node}, nodes[offset]? = some node →
    ∃ children, grammar.successors node = .ok (.ok children) ∧
      ∀ child ∈ children, Among base nodes.length child

variable {grammar : Grammar α} {base : Nat} {nodes : List (Node α)}

theorem Fragment.exists_node (fragment : grammar.Fragment base nodes) {parser : Parser}
    (among : Among base nodes.length parser) :
    ∃ offset node, parser = ⟨base + offset⟩ ∧ nodes[offset]? = some node ∧
      grammar.lookup parser = .ok node := by
  obtain ⟨index⟩ := parser
  obtain ⟨offset, rfl⟩ := Nat.exists_eq_add_of_le among.1
  have inBounds : offset < nodes.length := Nat.add_lt_add_iff_left.mp among.2
  have listed := List.getElem?_eq_getElem inBounds
  exact ⟨offset, nodes[offset], rfl, listed, fragment.lookup offset listed⟩

theorem Fragment.length_le_size (fragment : grammar.Fragment base nodes) :
    nodes.length ≤ grammar.size := by
  by_cases empty : nodes.length = 0
  · omega
  · have last : nodes.length - 1 < nodes.length := by omega
    have found := fragment.lookup _ (List.getElem?_eq_getElem last)
    have inBounds : base + (nodes.length - 1) < grammar.size := index_lt_size_of_lookup found
    omega

theorem Fragment.among_of_leads (fragment : grammar.Fragment base nodes) {parser next : Parser}
    (among : Among base nodes.length parser) (leads : grammar.Leads parser next) :
    Among base nodes.length next := by
  obtain ⟨offset, node, rfl, listed, found⟩ := fragment.exists_node among
  obtain ⟨children, successors, inside⟩ := fragment.leads listed
  exact inside next (leads.mem_successors found successors)

theorem Fragment.closed (fragment : grammar.Fragment base nodes) {property : Transform α → Prop}
    (each : ∀ inner transform, Node.map inner transform ∈ nodes → property transform) :
    grammar.Closed (Among base nodes.length) property where
  leads := fragment.among_of_leads
  transforms := by
    intro parser inner transform among found
    obtain ⟨offset, node, rfl, listed, foundNode⟩ := fragment.exists_node among
    cases found.symm.trans foundNode
    exact each inner transform (List.mem_of_getElem? listed)

def Descends (base : Nat) : Nat → List (Node α) → Prop
  | _, [] => True
  | offset, node :: nodes =>
      (∀ child ∈ node.children, Among base offset child) ∧ Descends base (offset + 1) nodes

theorem Descends.among {start offset : Nat} {node : Node α} (descends : Descends base start nodes)
    (listed : nodes[offset]? = some node) {child : Parser} (member : child ∈ node.children) :
    Among base (start + offset) child := by
  induction nodes generalizing start offset with
  | nil => contradiction
  | cons first nodes ih =>
      obtain ⟨among, later⟩ := descends
      cases offset with
      | zero =>
          cases listed
          exact among child member
      | succ offset =>
          have amongLater := ih later listed
          rwa [Nat.add_right_comm] at amongLater

theorem Fragment.of_descends
    (lookup : ∀ (offset : Nat) {node}, nodes[offset]? = some node →
      grammar.lookup ⟨base + offset⟩ = .ok node)
    (descends : Descends base 0 nodes)
    (bound : ∀ slot, .reference slot ∈ nodes →
      ∃ target, grammar.resolve slot = .ok (some target) ∧ Among base nodes.length target) :
    grammar.Fragment base nodes where
  lookup := lookup
  leads := by
    intro offset node listed
    obtain ⟨inBounds, _⟩ := List.getElem?_eq_some_iff.mp listed
    have inside : ∀ child ∈ node.children, Among base nodes.length child := by
      intro child member
      obtain ⟨lower, upper⟩ := descends.among listed member
      exact ⟨lower, by omega⟩
    cases node with
    | reference slot =>
        obtain ⟨target, resolved, amongTarget⟩ := bound slot (List.mem_of_getElem? listed)
        refine ⟨[target], by rw [successors, resolved], ?_⟩
        rintro child member
        rwa [List.mem_singleton.mp member]
    | char | string | filter | satisfy => exact ⟨[], rfl, inside⟩
    | sequence children | branch children => exact ⟨children, rfl, inside⟩
    | repetition inner | map inner _ => exact ⟨[inner], rfl, inside⟩

theorem Fragment.ranked (fragment : grammar.Fragment base nodes) {rank : Nat → Nat}
    (bounded : ∀ offset, offset < nodes.length → rank offset ≤ nodes.length)
    (falls : ∀ (offset : Nat) node child, nodes[offset]? = some node →
      grammar.LeftOfNode child node → rank (child.index - base) < rank offset) :
    grammar.Ranked (Among base nodes.length) fun parser => rank (parser.index - base) where
  bounded := by
    intro parser among
    obtain ⟨lower, upper⟩ := among
    have offset : parser.index - base < nodes.length := by omega
    exact (bounded _ offset).trans fragment.length_le_size
  falls := by
    intro parser child among left
    obtain ⟨offset, node, rfl, listed, found⟩ := fragment.exists_node among
    have less := falls offset node child listed ((leftChild_iff found).mp left)
    simpa using less

def lateRank (count late offset : Nat) : Nat :=
  if offset = late then count else offset

/-- Nodes that name only earlier ones are ranked by their order, but a reference behind them all:
it leads on to any of them. No node may try the reference at its own cursor, so what names it is
a sequence that begins with a parser that takes something. -/
theorem Fragment.ranked_of_descends (fragment : grammar.Fragment base nodes)
    (descends : Descends base 0 nodes) {late : Nat}
    (plain : ∀ node ∈ nodes.eraseIdx late, ∀ slot, node ≠ .reference slot)
    (leaves : ∀ slot, nodes[late]? = some (.reference slot) →
      grammar.resolve slot ≠ .ok (some ⟨base + late⟩))
    (guarded : ∀ node ∈ nodes, ⟨base + late⟩ ∈ node.children →
      ∃ first others, node = .sequence (first :: others) ∧ first ≠ ⟨base + late⟩ ∧
        ¬ grammar.Nullable first) :
    grammar.Ranked (Among base nodes.length) fun parser =>
      lateRank nodes.length late (parser.index - base) := by
  apply fragment.ranked
  · intro offset inBounds
    simp only [lateRank]
    split <;> omega
  · intro offset node child listed left
    obtain ⟨inBounds, _⟩ := List.getElem?_eq_some_iff.mp listed
    have member := List.mem_of_getElem? listed
    by_cases refers : ∃ slot, node = .reference slot
    · obtain ⟨slot, rfl⟩ := refers
      have atLate : offset = late := by
        by_contra early
        exact plain _ (List.mem_eraseIdx_iff_getElem?.mpr ⟨offset, early, listed⟩) slot rfl
      subst atLate
      have leads := ((leftChild_iff (fragment.lookup offset listed)).mpr left).leads
      have among : Among base nodes.length ⟨base + offset⟩ :=
        ⟨Nat.le_add_right _ _, Nat.add_lt_add_left inBounds base⟩
      obtain ⟨lower, upper⟩ := fragment.among_of_leads among leads
      have elsewhere : child.index - base ≠ offset := by
        rintro rfl
        apply leaves slot listed
        rwa [Nat.add_sub_cancel' lower]
      simp only [lateRank, elsewhere, ↓reduceIte]
      omega
    · have named := left.mem_children (not_exists.mp refers)
      obtain ⟨lower, before⟩ := descends.among listed named
      have elsewhere : child.index - base ≠ late := by
        rintro rfl
        rw [Nat.add_sub_cancel' lower] at guarded
        obtain ⟨first, others, rfl, different, solid⟩ := guarded node member named
        exact different (left.eq_first solid).symm
      simp only [lateRank, elsewhere, ↓reduceIte]
      split <;> omega

end Grammar

end GrammarArena
