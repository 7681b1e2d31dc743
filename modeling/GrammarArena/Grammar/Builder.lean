import GrammarArena.Grammar.Basic

/-!
Building grammars step by step. Every builder registers its nodes in order and gives back the
last one; a step that faults leaves the grammar as it was.
-/

namespace GrammarArena

abbrev Builder (α β : Type) := StateT (Grammar α) (Except Fault) β

namespace Builder

variable {α : Type}

def register (node : Node α) : Builder α Parser :=
  fun grammar => .ok (grammar.register node)

def newSlot : Builder α Slot :=
  fun grammar => .ok grammar.reserve

def bindSlot (slot : Slot) (parser : Parser) : Builder α (Except SlotError Unit) :=
  fun grammar =>
    match grammar.bindSlot slot parser with
    | .error fault => .error fault
    | .ok (.error refusal) => .ok (.error refusal, grammar)
    | .ok (.ok bound) => .ok (.ok (), bound)

def resolve (slot : Slot) : Builder α (Option Parser) :=
  fun grammar => (grammar.resolve slot).map (·, grammar)

def teardown : Builder α Nat :=
  fun grammar => .ok (grammar.size, {})

def char (expected : Char) : Builder α Parser :=
  register (.char expected)

def string (expected : Text) : Builder α Parser :=
  register (.string expected)

def filter (accepts : Char → Bool) : Builder α Parser :=
  register (.filter accepts)

def satisfy (accepts : Char → Bool) : Builder α Parser :=
  register (.satisfy accepts)

def sequence (children : List Parser) : Builder α Parser :=
  register (.sequence children)

def branch (children : List Parser) : Builder α Parser :=
  register (.branch children)

def repetition (inner : Parser) : Builder α Parser :=
  register (.repetition inner)

def map (inner : Parser) (transform : Transform α) : Builder α Parser :=
  register (.map inner transform)

def reference (slot : Slot) : Builder α Parser :=
  register (.reference slot)

def requireItems (success : Success α) : Reply α :=
  match success.value with
  | .list [] => .error (.atCursor success.rest)
  | _ => .ok success

def nonEmptyRepetition (inner : Parser) : Builder α Parser := do
  let items ← repetition inner
  map items fun success => pure (requireItems success)

def newLine : Builder α Parser :=
  char '\n'

def tab : Builder α Parser :=
  char '\t'

def space : Builder α Parser :=
  char ' '

def anySpace : Builder α Parser := do
  let tab ← tab
  let space ← space
  let newLine ← newLine
  branch [tab, space, newLine]

def manySpaces : Builder α Parser := do
  let one ← anySpace
  nonEmptyRepetition one

def greatestInteger : Nat := 9223372036854775807

/-- The number a run of digits denotes. No digits at all fail at the cursor, and a number that
is too great fails on its first digit. -/
def readInteger (success : Success α) : Reply α :=
  let digits := success.value.text?.getD []
  let number := Nat.ofDigitChars 10 digits 0
  if digits.isEmpty then .error (.atCursor success.rest)
  else if number ≤ greatestInteger then .ok (success.withValue (.int (Int64.ofNat number)))
  else .error (.atCursor digits)

def integer : Builder α Parser := do
  let digits ← filter Char.isDigit
  map digits fun success => pure (readInteger success)

end Builder

end GrammarArena
