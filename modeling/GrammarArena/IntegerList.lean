import GrammarArena.Grammar.Builder

/-!
The grammar of integers separated by blanks.
-/

namespace GrammarArena.IntegerList

variable {α : Type}

def element (position : Nat) (success : Success α) : Reply α :=
  .ok (success.withValue ((success.value.descend [position]).getD (.list [])))

def select (position : Nat) : Transform α :=
  fun success => pure (element position success)

def grammar : Builder α (Except SlotError Parser) := do
  let space ← Builder.anySpace
  let gap ← Builder.repetition space
  let integer ← Builder.integer
  let spaced ← Builder.sequence [integer, gap]
  let item ← Builder.map spaced (select 0)
  let items ← Builder.repetition item
  let list ← Builder.sequence [gap, items]
  let integers ← Builder.map list (select 1)
  return .ok integers

end GrammarArena.IntegerList
