import GrammarArena.Grammar.Basic
import GrammarArena.Evaluation.Primitive

/-!
Trying a parser at a cursor. A grammar may be recursive in ways that never end, so an evaluation
is given a number of steps it may nest; `parse` and `run` give one that suits the grammar and
the input. An evaluation that ends leaves a trail: which payloads it made, and where a
repetition stopped because an item took nothing. What counts as taking nothing is left to a
guard; `parse` and `run` use the one that compares lengths.
-/

namespace GrammarArena

/-- A repetition of `parser` that stopped after that many items on one that took nothing. -/
structure Stall where
  parser : Parser
  iterations : Nat
  deriving DecidableEq

structure Trail where
  nextSerial : Nat := 0
  stalls : List Stall := []

namespace Trail

def advance (trail : Trail) (next : Nat) : Trail :=
  { trail with nextSerial := next }

def stop (trail : Trail) (inner : Parser) (iterations : Nat) : Trail :=
  { trail with stalls := ⟨inner, iterations⟩ :: trail.stalls }

end Trail

inductive Halt where
  | fault (fault : Fault)
  | outOfSteps
  deriving DecidableEq

/-- Tells from a cursor, and from the rest that an item left when tried there, whether a
repetition stops although the item succeeded. -/
abbrev Guard := Text → Text → Bool

namespace Guard

def noProgress : Guard :=
  fun cursor rest => rest.byteLength = cursor.byteLength

def never : Guard :=
  fun _ _ => false

end Guard

abbrev Evaluation (α : Type) := StateT Trail (Except Halt) α

namespace Evaluation

variable {α : Type}

def halt (reason : Halt) : Evaluation α :=
  fun _ => .error reason

def ofFault : Except Fault α → Evaluation α
  | .ok result, trail => .ok (result, trail)
  | .error fault, _ => .error (.fault fault)

def ofSupply (computation : Supply α) : Evaluation α :=
  fun trail =>
    let made := computation trail.nextSerial
    .ok (made.1, trail.advance made.2)

def stall (parser : Parser) (iterations : Nat) : Evaluation Unit :=
  fun trail => .ok ((), trail.stop parser iterations)

theorem bind_apply {β : Type} (evaluation : Evaluation α) (next : α → Evaluation β)
    (trail : Trail) :
    (evaluation >>= next) trail =
      match evaluation trail with
      | .error reason => .error reason
      | .ok (result, later) => next result later := by
  simp only [bind, StateT.bind, Except.bind]
  split <;> simp_all

theorem pure_apply (result : α) (trail : Trail) :
    (pure result : Evaluation α) trail = .ok (result, trail) := rfl

end Evaluation

namespace Grammar

variable {α : Type}

def sequenceFrom (apply : Parser → Text → Evaluation (Reply α)) (values : List (Value α))
    (cursor : Text) : List Parser → Evaluation (Reply α)
  | [] => pure (.ok ⟨.list values.reverse, cursor⟩)
  | child :: children => do
      match ← apply child cursor with
      | .error failure => pure (.error failure)
      | .ok success => sequenceFrom apply (success.value :: values) success.rest children

def branchFrom (apply : Parser → Text → Evaluation (Reply α)) (last : Failure)
    (cursor : Text) : List Parser → Evaluation (Reply α)
  | [] => pure (.error last)
  | child :: children => do
      match ← apply child cursor with
      | .ok success => pure (.ok success)
      | .error failure => branchFrom apply failure cursor children

/-- Items one after the other until a failure or until a success that the guard stops at; either
is dropped. The values so far are in reverse. -/
def repeatFrom (guard : Guard) (apply : Parser → Text → Evaluation (Reply α)) (inner : Parser) :
    Nat → List (Value α) → Text → Evaluation (Reply α)
  | 0, _, _ => Evaluation.halt .outOfSteps
  | rounds + 1, values, cursor => do
      match ← apply inner cursor with
      | .error _ => pure (.ok ⟨.list values.reverse, cursor⟩)
      | .ok success =>
          if guard cursor success.rest then
            Evaluation.stall inner values.length
            pure (.ok ⟨.list values.reverse, cursor⟩)
          else repeatFrom guard apply inner rounds (success.value :: values) success.rest

def evaluateNode (grammar : Grammar α) (guard : Guard)
    (apply : Parser → Text → Evaluation (Reply α)) (rounds : Nat) (parser : Parser)
    (cursor : Text) : Node α → Evaluation (Reply α)
  | .char expected => pure (Primitive.matchOne (· = expected) cursor)
  | .string expected => pure (Primitive.matchText expected cursor)
  | .filter accepts => pure (Primitive.matchRun accepts cursor)
  | .satisfy accepts => pure (Primitive.matchOne accepts cursor)
  | .sequence children => sequenceFrom apply [] cursor children
  | .branch children => branchFrom apply (.atCursor cursor) cursor children
  | .repetition inner => repeatFrom guard apply inner rounds [] cursor
  | .map inner transform => do
      match ← apply inner cursor with
      | .error failure => pure (.error failure)
      | .ok success => Evaluation.ofSupply (transform success)
  | .reference slot => do
      match ← Evaluation.ofFault (grammar.resolve slot) with
      | none => Evaluation.halt (.fault (.unboundSlot parser slot))
      | some target => apply target cursor

def evaluate (grammar : Grammar α) (guard : Guard) :
    Nat → Parser → Text → Evaluation (Reply α)
  | 0, _, _ => Evaluation.halt .outOfSteps
  | steps + 1, parser, cursor => do
      let node ← Evaluation.ofFault (grammar.lookup parser)
      grammar.evaluateNode guard (grammar.evaluate guard steps) (steps + 1) parser cursor node

/-- Steps that suffice for a grammar without left recursion whose transforms only shorten the
rest, where no parser is tried twice at one cursor within itself; and a reserve for others. -/
def stepLimit (grammar : Grammar α) (input : Text) : Nat :=
  1000000 + (grammar.size + 1) * (input.length + 1)

def parse (grammar : Grammar α) (parser : Parser) (input : Text) : Evaluation (Reply α) :=
  grammar.evaluate .noProgress (grammar.stepLimit input) parser input

def requireEnd : Reply α → Reply α
  | .error failure => .error failure
  | .ok success =>
      if success.rest.isEmpty then .ok success else .error (.atCursor success.rest)

def run (grammar : Grammar α) (parser : Parser) (input : Text) : Evaluation (Reply α) := do
  let reply ← grammar.parse parser input
  pure (requireEnd reply)

theorem evaluate_of_lookup {grammar : Grammar α} {parser : Parser} {node : Node α}
    (found : grammar.lookup parser = .ok node) (guard : Guard) (steps : Nat) (cursor : Text) :
    grammar.evaluate guard (steps + 1) parser cursor =
      grammar.evaluateNode guard (grammar.evaluate guard steps) (steps + 1) parser cursor node := by
  funext trail
  rw [evaluate, found, Evaluation.bind_apply]
  rfl

end Grammar

end GrammarArena
