import GrammarArena.Text.Basic

/-!
What a terminal would show of a text: control characters and the sequences that an escape
begins are left out, only tab, line feed, form feed and carriage return stay. A sequence that is
not finished takes all that follows it.
-/

namespace GrammarArena.Text

def isControlBlank (char : Char) : Bool :=
  char = '\t' || char = '\n' || char = '\x0c' || char = '\r'

def isShown (char : Char) : Bool :=
  isControlBlank char || (0x20 ≤ char.toNat && char.toNat ≠ 0x7f)

inductive Sequence.Head where
  | start
  | parameters
  | marks
  deriving DecidableEq

/-- Where a text stands: outside of sequences, right after an escape or after the marks that may
follow one, in a control sequence, in the head of a device control string, in its body or another
string that only its end closes, or in a title, which only a bell closes. -/
inductive Sequence where
  | outside
  | escape
  | marks
  | control
  | head (part : Sequence.Head)
  | string
  | title
  deriving DecidableEq

namespace Sequence

def endOfString : UInt8 :=
  0x9c

def afterHead (code : Nat) : Head → Sequence
  | .start =>
      if 0x40 ≤ code then .string else if code < 0x30 then .head .marks else .head .parameters
  | .parameters =>
      if 0x3c ≤ code then .string else if code < 0x30 then .head .marks else .head .parameters
  | .marks => if 0x30 ≤ code then .string else .head .marks

def afterPrintable (code : Nat) : Sequence → Sequence
  | .outside => .outside
  | .escape =>
      if code < 0x30 then .marks
      else if code = '['.toNat then .control
      else if code = ']'.toNat then .title
      else if code = 'P'.toNat then .head .start
      else if code = 'X'.toNat ∨ code = '^'.toNat ∨ code = '_'.toNat then .string
      else .outside
  | .marks => if code < 0x30 then .marks else .outside
  | .control => if code < 0x40 then .control else .outside
  | .head part => afterHead code part
  | .string => .string
  | .title => .title

def next (sequence : Sequence) (char : Char) : Sequence :=
  if char = '\x1b' then .escape
  else if char = '\x18' ∨ char = '\x1a' then .outside
  else if char.toNat < 0x20 then
    if char = '\x07' ∧ sequence = .title then .outside else sequence
  else if char.toNat < 0x7f then sequence.afterPrintable char.toNat
  else if sequence = .string ∧ (String.utf8EncodeChar char).contains endOfString then .outside
  else sequence

def showsBlanks : Sequence → Bool
  | .escape | .marks | .control => true
  | _ => false

/-- Where the text stands after a character that is shown: a blank within a sequence does not
finish it, so that the sequence goes on where what is shown ends. -/
def kept (sequence : Sequence) (char : Char) : Sequence :=
  if char.toNat < 0x80 then sequence else .outside

/-- The characters shown of what is left of a text. Once one is `showing`, so are those after
it, up to the next that is hidden everywhere. -/
def shown (sequence : Sequence) (showing : Bool) : Text → Text
  | [] => []
  | char :: rest =>
      if (isShown char && (showing || sequence = .outside))
          || (isControlBlank char && sequence.showsBlanks) then
        char :: shown (sequence.kept char) true rest
      else shown (sequence.next char) false rest

end Sequence

def visible (text : Text) : Text :=
  Sequence.shown .outside false text

end GrammarArena.Text
