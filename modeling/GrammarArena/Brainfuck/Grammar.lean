import GrammarArena.Brainfuck.Op
import GrammarArena.Grammar.Builder

/-!
The grammar of brainfuck programs. An instruction becomes a payload; the payloads may be of any
type that instructions can be put into and taken out of again. Only the eight instruction
characters are accepted.
-/

namespace GrammarArena

/-- Payloads of type `carrier` can hold a `content`. -/
class Carries (carrier content : Type) where
  embed : content → carrier
  extract? : carrier → Option content
  extract?_embed : ∀ item, extract? (embed item) = some item

instance {α : Type} : Carries α α where
  embed := id
  extract? := some
  extract?_embed := fun _ => rfl

namespace Brainfuck

variable {α : Type} [Carries α Op]

def instruction? (value : Value α) : Option Op :=
  value.content?.bind Carries.extract?

/-- The instructions in a list of values; values that are none are left out. -/
def program (value : Value α) : List Op :=
  (value.list?.getD []).filterMap instruction?

def instruction (op : Op) (success : Success α) : Supply (Reply α) := do
  let payload ← Value.fresh (Carries.embed op)
  return .ok (success.withValue payload)

def loopOf (success : Success α) : Supply (Reply α) :=
  instruction (.loop (((success.value.descend [1]).map program).getD [])) success

def simple (char : Char) (op : Op) : Builder α Parser := do
  let char ← Builder.char char
  Builder.map char (instruction op)

def grammar : Builder α (Except SlotError Parser) := do
  let slot ← Builder.newSlot
  let plus ← simple '+' .plus
  let minus ← simple '-' .minus
  let left ← simple '<' .left
  let right ← simple '>' .right
  let put ← simple '.' .put
  let get ← simple ',' .get
  let simple ← Builder.branch [plus, minus, left, right, put, get]
  let opening ← Builder.char '['
  let body ← Builder.reference slot
  let closing ← Builder.char ']'
  let bracketed ← Builder.sequence [opening, body, closing]
  let loop ← Builder.map bracketed loopOf
  let one ← Builder.branch [simple, loop]
  let many ← Builder.repetition one
  match ← Builder.bindSlot slot many with
  | .error refusal => return .error refusal
  | .ok () => return .ok many

end Brainfuck

end GrammarArena
