import GrammarArena.Grammar.Builder

/-!
The grammar of balanced square brackets with any other text between them.
-/

namespace GrammarArena.Brackets

variable {α : Type}

def isText (char : Char) : Bool :=
  char ≠ '[' && char ≠ ']'

def grammar : Builder α (Except SlotError Parser) := do
  let slot ← Builder.newSlot
  let run ← Builder.filter isText
  let text ← Builder.nonEmptyRepetition run
  let opening ← Builder.char '['
  let inner ← Builder.reference slot
  let closing ← Builder.char ']'
  let group ← Builder.sequence [opening, inner, closing]
  let item ← Builder.branch [text, group]
  let body ← Builder.repetition item
  match ← Builder.bindSlot slot body with
  | .error refusal => return .error refusal
  | .ok () => return .ok body

end GrammarArena.Brackets
