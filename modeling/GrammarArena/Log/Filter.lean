import GrammarArena.Log.Directive

/-!
Which events are let through, and how they are written. A filter is a list of directives, of
which the most specific one that concerns an event decides about it. Its text is a list separated
by commas; what of it cannot be read is reported and left out.
-/

namespace GrammarArena.Log

abbrev Filter := List Directive

structure Ignored where
  text : Text
  error : DirectiveError
  deriving DecidableEq

def Ignored.message (ignored : Ignored) : Text :=
  "ignoring `" ++ ignored.text ++ "`: " ++ ignored.error.message

namespace Filter

def parts (text : Text) : List Text :=
  (text.splitOn ',').filter (· ≠ [])

def read (text : Text) : Filter :=
  match (parts text).filterMap fun part => (Directive.read part).toOption with
  | [] => [{ rank := Level.error.rank }]
  | directives => directives

def ignored (text : Text) : List Ignored :=
  (parts text).filterMap fun part =>
    match Directive.read part with
    | .ok _ => none
    | .error error => some ⟨part, error⟩

/-- The directive that decides about an event; of two that are equally specific the later one. -/
def deciding? (filter : Filter) (event : Event) : Option Directive :=
  let better (best : Option Directive) (directive : Directive) : Option Directive :=
    match best with
    | none => some directive
    | some found => if found.outranks directive then best else some directive
  (filter.filter (·.concerns event)).foldl better none

def allows (filter : Filter) (event : Event) : Bool :=
  match filter.deciding? event with
  | none => false
  | some directive => event.level.rank ≤ directive.rank

end Filter

inductive Format where
  | plain
  | json
  deriving DecidableEq

def Format.read (text : Text) : Format :=
  if Text.lowered text = "json".toList then .json else .plain

structure Settings where
  filter : Filter
  format : Format
  ignored : List Ignored

namespace Settings

/-- Logging is off unless one of two variables is set to a filter; the first of them wins. -/
def ofEnvironment? (environment : Text → Option Text) : Option Settings :=
  match (environment "PARCOMB_LOG").or (environment "RUST_LOG") with
  | none => none
  | some text =>
      let format := Format.read ((environment "PARCOMB_LOG_FORMAT").getD [])
      some ⟨Filter.read text, format, Filter.ignored text⟩

def line [Text.Unprintables] (settings : Settings) (event : Event) : Text :=
  match settings.format with
  | .plain => event.plain
  | .json => event.json

def warnings (settings : Option Settings) : Text :=
  match settings with
  | none => []
  | some settings => settings.ignored.flatMap fun ignored => ignored.message ++ ['\n']

def lines [Text.Unprintables] (settings : Option Settings) (events : List Event) : List Text :=
  match settings with
  | none => []
  | some settings => (events.filter settings.filter.allows).map settings.line

end Settings

end GrammarArena.Log
