import GrammarArena.Evaluation.Basic
import GrammarArena.Grammar.Outline

/-!
What is logged while a grammar is built and run, and how an event is written: as a line of text
or as a line that holds one JSON object.
-/

namespace GrammarArena.Log

inductive Level where
  | error
  | warn
  | info
  | debug
  | trace
  deriving DecidableEq

def Level.rank : Level → Nat
  | .error => 1
  | .warn => 2
  | .info => 3
  | .debug => 4
  | .trace => 5

def Level.word : Level → Text
  | .error => "ERROR"
  | .warn => "WARN"
  | .info => "INFO"
  | .debug => "DEBUG"
  | .trace => "TRACE"

inductive Content where
  | name (text : Text)
  | number (value : Nat)
  | truth (value : Bool)
  | outline (content : Outline)

structure Field where
  label : Text
  content : Content

structure Event where
  level : Level
  target : Text
  message : Text
  fields : List Field

namespace Content

def truthWord (value : Bool) : Text :=
  if value then "true" else "false"

def plain [Text.Unprintables] : Content → Text
  | .name text => Text.quoted text
  | .number value => Text.decimal value
  | .truth value => truthWord value
  | .outline content => content.compact

end Content

def jsonChar (char : Char) : Text :=
  if char = '"' ∨ char = '\\' then ['\\', char]
  else if char = '\n' then "\\n"
  else if char = '\r' then "\\r"
  else if char = '\t' then "\\t"
  else if char = '\x08' then "\\b"
  else if char = '\x0c' then "\\f"
  else if char.toNat < 0x20 then
    let digits := Nat.toDigits 16 char.toNat
    "\\u" ++ List.replicate (4 - digits.length) '0' ++ digits
  else [char]

def jsonString (text : Text) : Text :=
  '"' :: text.flatMap jsonChar ++ ['"']

def jsonMember (member : Text × Text) : Text :=
  jsonString member.1 ++ ":" ++ member.2

def jsonObject (members : List (Text × Text)) : Text :=
  "\x7b" ++ Text.join "," (members.map jsonMember) ++ "\x7d"

def Content.json : Content → Text
  | .name text => jsonString text
  | .number value => Text.decimal value
  | .truth value => truthWord value
  | .outline content => jsonString content.compact

def Field.plain [Text.Unprintables] (field : Field) : Text :=
  field.label ++ "=" ++ field.content.plain

namespace Event

variable {α : Type}

def labels (event : Event) : List Text :=
  "message" :: event.fields.map Field.label

def plain [Text.Unprintables] (event : Event) : Text :=
  event.level.word ++ " " ++ event.target ++ ": "
    ++ Text.join " " (event.message :: event.fields.map Field.plain)

def json (event : Event) : Text :=
  let fields := event.fields.map fun field => (field.label, field.content.json)
  jsonObject
    [("level", jsonString event.level.word),
      ("fields", jsonObject (("message", jsonString event.message) :: fields)),
      ("target", jsonString event.target)]

def registered (index : Nat) (node : Node α) : Event where
  level := .trace
  target := "parcomb::context"
  message := "registered parser"
  fields :=
    [⟨"parser", .outline (Parser.mk index).outline⟩, ⟨"kind", .name node.kind⟩]

def started (parser : Parser) (input : Text) : Event where
  level := .debug
  target := "parcomb::driver"
  message := "run"
  fields := [⟨"parser", .outline parser.outline⟩, ⟨"len", .number input.byteLength⟩]

def stalled (stall : Stall) : Event where
  level := .trace
  target := "parcomb::combinators"
  message := "repeat stopped without progress"
  fields :=
    [⟨"parser", .outline stall.parser.outline⟩, ⟨"iterations", .number stall.iterations⟩]

def finished [Text.Unprintables] (reply : Reply α) : Event where
  level := .debug
  target := "parcomb::driver"
  message := "run finished"
  fields :=
    [⟨"ok", .truth reply.failure?.isNone⟩,
      ⟨"failure", .outline (Outline.optional Failure.outline reply.failure?)⟩]

def tornDown (grammar : Grammar α) : Event where
  level := .debug
  target := "parcomb::context"
  message := "context torn down"
  fields :=
    [⟨"parsers", .number grammar.nodes.size⟩, ⟨"slots", .number grammar.slots.size⟩]

end Event

end GrammarArena.Log
