import GrammarArena.Reply

/-!
A grammar owns its parsers: each is a node in a table that only grows, and is named by its
position there. Nodes refer to one another by position, so a rule may be shared, and a slot,
filled in once after its users are built, lets a rule refer to itself. Positions are not
checked when a node is built; a missing one is a fault when it is used.
-/

namespace GrammarArena

structure Parser where
  index : Nat
  deriving DecidableEq

structure Slot where
  index : Nat
  deriving DecidableEq

/-- What becomes of a success before it is handed on; new payloads come from the supply. -/
abbrev Transform (α : Type) := Success α → Supply (Reply α)

inductive Node (α : Type) where
  | char (expected : Char)
  | string (expected : Text)
  | filter (accepts : Char → Bool)
  | satisfy (accepts : Char → Bool)
  | sequence (children : List Parser)
  | branch (children : List Parser)
  | repetition (inner : Parser)
  | map (inner : Parser) (transform : Transform α)
  | reference (slot : Slot)

structure Grammar (α : Type) where
  nodes : Array (Node α) := #[]
  slots : Array (Option Parser) := #[]

inductive Fault where
  | unboundSlot (parser : Parser) (slot : Slot)
  | missingParser (count : Nat) (parser : Parser)
  | missingSlot (count : Nat) (slot : Slot)
  deriving DecidableEq

inductive SlotError where
  | unbound (slot : Slot)
  | alreadyBound (slot : Slot)
  deriving DecidableEq

namespace Fault

def outOfBounds (count index : Nat) : Text :=
  "index out of bounds: the len is " ++ Text.decimal count ++ " but the index is "
    ++ Text.decimal index

def message : Fault → Text
  | .unboundSlot parser slot =>
      "parser " ++ Text.decimal parser.index ++ " refers to unbound slot "
        ++ Text.decimal slot.index
  | .missingParser count parser => outOfBounds count parser.index
  | .missingSlot count slot => outOfBounds count slot.index

end Fault

namespace SlotError

def message : SlotError → Text
  | .unbound slot => "slot " ++ Text.decimal slot.index ++ " is referenced but never bound"
  | .alreadyBound slot => "slot " ++ Text.decimal slot.index ++ " is already bound"

end SlotError

namespace Grammar

variable {α : Type}

instance : Inhabited (Grammar α) := ⟨{}⟩

def size (grammar : Grammar α) : Nat :=
  grammar.nodes.size

def lookup (grammar : Grammar α) (parser : Parser) : Except Fault (Node α) :=
  match grammar.nodes[parser.index]? with
  | some node => .ok node
  | none => .error (.missingParser grammar.nodes.size parser)

def resolve (grammar : Grammar α) (slot : Slot) : Except Fault (Option Parser) :=
  match grammar.slots[slot.index]? with
  | some target => .ok target
  | none => .error (.missingSlot grammar.slots.size slot)

def register (grammar : Grammar α) (node : Node α) : Parser × Grammar α :=
  (⟨grammar.nodes.size⟩, { grammar with nodes := grammar.nodes.push node })

def reserve (grammar : Grammar α) : Slot × Grammar α :=
  (⟨grammar.slots.size⟩, { grammar with slots := grammar.slots.push none })

def bindSlot (grammar : Grammar α) (slot : Slot) (parser : Parser) :
    Except Fault (Except SlotError (Grammar α)) :=
  match grammar.resolve slot with
  | .error fault => .error fault
  | .ok (some _) => .ok (.error (.alreadyBound slot))
  | .ok none =>
      .ok (.ok { grammar with slots := grammar.slots.setIfInBounds slot.index (some parser) })

theorem lookup_ok_iff {grammar : Grammar α} {parser : Parser} {node : Node α} :
    grammar.lookup parser = .ok node ↔ grammar.nodes[parser.index]? = some node := by
  unfold lookup
  cases grammar.nodes[parser.index]? with
  | none => simp
  | some found => simp

theorem resolve_ok_iff {grammar : Grammar α} {slot : Slot} {target : Option Parser} :
    grammar.resolve slot = .ok target ↔ grammar.slots[slot.index]? = some target := by
  unfold resolve
  cases grammar.slots[slot.index]? with
  | none => simp
  | some found => simp

theorem index_lt_size_of_lookup {grammar : Grammar α} {parser : Parser} {node : Node α}
    (found : grammar.lookup parser = .ok node) : parser.index < grammar.size := by
  obtain ⟨inBounds, _⟩ := Array.getElem?_eq_some_iff.mp (lookup_ok_iff.mp found)
  exact inBounds

theorem lookup_register (grammar : Grammar α) (node : Node α) :
    (grammar.register node).2.lookup (grammar.register node).1 = .ok node := by
  simp [register, lookup]

theorem lookup_register_of_ok {grammar : Grammar α} {parser : Parser} {node : Node α}
    (added : Node α) (found : grammar.lookup parser = .ok node) :
    (grammar.register added).2.lookup parser = .ok node := by
  rw [lookup_ok_iff] at found ⊢
  obtain ⟨bound, _⟩ := Array.getElem?_eq_some_iff.mp found
  rw [register, Array.getElem?_push_lt bound, ← found, Array.getElem?_eq_getElem bound]

end Grammar

end GrammarArena
