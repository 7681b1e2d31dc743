import GrammarArena.Log.Event
import GrammarArena.Log.FieldValue
import GrammarArena.Text.Alphanumeric
import GrammarArena.Text.Blank

/-!
A directive says how fine the events may be that it concerns. It is written as a level, as a
target, which lets everything through, or as a target and a level with an equals sign between
them. A scope in brackets may follow the target or stand in its place: it names a span, or in
braces a field that the events must have, or both.
-/

namespace GrammarArena.Log

structure FieldMatch where
  name : Text
  value : Option Text
  deriving DecidableEq

/-- Lets the events that it concerns through up to a rank: 0 lets none through, 5 all of them. -/
structure Directive where
  target : Text := []
  span : Option Text := none
  field : Option FieldMatch := none
  rank : Nat := Level.trace.rank
  deriving DecidableEq

inductive DirectiveError where
  | malformed
  | level
  | value (fault : PatternFault)
  deriving DecidableEq

def DirectiveError.message : DirectiveError → Text
  | .malformed => "invalid filter directive"
  | .level =>
      "error parsing level filter: expected one of \"off\", \"error\", \"warn\", \"info\", "
        ++ "\"debug\", \"trace\", or a number 0-5"
  | .value fault => ("invalid field filter: " : Text) ++ fault.message

def numericRank? (word : Text) : Option Nat :=
  let digits := if word.head? = some '+' then word.tail else word
  if digits ≠ [] && digits.all Char.isDigit then
    let number := Nat.ofDigitChars 10 digits 0
    if number ≤ Level.trace.rank then some number else none
  else none

def rank? (word : Text) : Option Nat :=
  let names : List (Text × Nat) :=
    [("off", 0), ("error", 1), ("warn", 2), ("info", 3), ("debug", 4), ("trace", 5)]
  (numericRank? word).or (names.lookup (Text.lowered word))

namespace Directive

/-- Events lie in no span, so that a directive for a span, or for a value that a field of a span
must have, concerns none of them. The message of an event is one of its fields. -/
def concerns (directive : Directive) (event : Event) : Bool :=
  directive.target.isPrefixOf event.target && directive.span.isNone &&
    match directive.field with
    | none => true
    | some field => field.value.isNone && event.labels.contains field.name

def label (directive : Directive) : Text :=
  match directive.field with
  | none => []
  | some field => field.name

/-- Whether a directive decides before another: a longer target counts first, then that a field is
asked for, then the order of the names of the fields. -/
def outranks (first second : Directive) : Bool :=
  if first.target.byteLength = second.target.byteLength then second.label < first.label
  else second.target.byteLength < first.target.byteLength

/-- A directive is divided into parts with the blanks around it set aside. The parts are then cut
out of the text with its blanks, at the places that they have in the text without. -/
def cut (whole : Text) (place : Nat) (part : Text) : Text :=
  whole.between place (place + part.byteLength)

def readRank (whole : Text) (place : Nat) : Except DirectiveError Nat :=
  match whole.between place whole.byteLength with
  | [] => .ok Level.trace.rank
  | word =>
      match rank? word with
      | some rank => .ok rank
      | none => .error .level

def readEnd (whole : Text) (place : Nat) (rest : Text) (directive : Directive) :
    Except DirectiveError Directive :=
  match rest with
  | [] => .ok directive
  | '=' :: _ => (readRank whole (place + 1)).map fun rank => { directive with rank }
  | _ => .error .malformed

def readField (text : Text) : Except DirectiveError FieldMatch :=
  if text.isEmpty then .error .malformed
  else
    match text.breakAt (· = '=') with
    | (name, []) => .ok ⟨name, none⟩
    | (name, _ :: following) =>
        let value := following.takeWhile (· ≠ '=')
        match FieldValue.fault? value with
        | none => .ok ⟨name, some value⟩
        | some fault => .error (.value fault)

def readScope (whole : Text) (place : Nat) (rest : Text) (target : Text) :
    Except DirectiveError Directive :=
  let (name, after) := rest.breakAt fun char => char = ']' || char = '\x7b'
  let span := cut whole place name
  let next := place + name.byteLength + 1
  match after with
  | ']' :: rest => readEnd whole next rest { target, span := some span }
  | '\x7b' :: inner =>
      match Text.breakAt (· = '\x7d') inner with
      | (content, _ :: closing) => do
          let field ← readField (cut whole next content)
          match closing with
          | ']' :: rest =>
              let span := if span.isEmpty then none else some span
              readEnd whole (next + content.byteLength + 2) rest { target, span, field }
          | _ => .error .malformed
      | _ => .error .malformed
  | _ => .error .malformed

def canBegin (char : Char) : Bool :=
  char = '-' || char = ':' || char = '_' || Text.isAlphanumeric char

def read (whole : Text) : Except DirectiveError Directive :=
  match whole.trim with
  | [] => .error .malformed
  | '[' :: rest => readScope whole 1 rest []
  | first :: others =>
      if !canBegin first then .error .malformed
      else
        let (head, rest) := Text.breakAt (fun char => char = '=' || char = '[') (first :: others)
        let target := cut whole 0 head
        match rest with
        | '[' :: scope => readScope whole (head.byteLength + 1) scope target
        | '=' :: _ => readEnd whole head.byteLength rest { target }
        | _ =>
            match rank? whole with
            | some rank => .ok { rank }
            | none => .ok { target := whole }

end Directive

end GrammarArena.Log
