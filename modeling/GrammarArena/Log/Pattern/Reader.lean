import GrammarArena.Log.Pattern.Token

/-!
A pattern from its tokens. The groups that are still open form a stack.
-/

namespace GrammarArena.Log

/-- What has been read of a group: its finished branches, and the items of the last branch, both
last first. -/
structure OpenGroup where
  verbose : Bool := false
  branches : List Pattern := []
  items : List Pattern := []

namespace OpenGroup

def add (group : OpenGroup) (item : Pattern) : OpenGroup :=
  { group with items := item :: group.items }

def finished (group : OpenGroup) : List Pattern :=
  .sequence group.items.reverse :: group.branches

def bar (group : OpenGroup) : OpenGroup :=
  { group with branches := group.finished, items := [] }

def close (group : OpenGroup) : Pattern :=
  .choice group.finished.reverse

def repeat? (group : OpenGroup) : Option OpenGroup :=
  match group.items with
  | [] | .change _ :: _ => none
  | item :: items => some { group with items := .repeated item :: items }

def withOptions (group : OpenGroup) (options : Options) : OpenGroup :=
  { group with verbose := options.verbose.getD group.verbose }

end OpenGroup

structure Reading where
  current : OpenGroup := {}
  outer : List (OpenGroup × Options) := []
  names : List Text := []

namespace Reading

def add (reading : Reading) (item : Pattern) : Reading :=
  match item with
  | .change options => { reading with current := (reading.current.add item).withOptions options }
  | _ => { reading with current := reading.current.add item }

def begin? (reading : Reading) (options : Options) (name : Option Text) : Option Reading :=
  if name.any reading.names.contains then none
  else some
    { current := OpenGroup.withOptions { verbose := reading.current.verbose } options
      outer := (reading.current, options) :: reading.outer
      names := name.toList ++ reading.names }

def close? (reading : Reading) : Option Reading :=
  match reading.outer with
  | [] => none
  | (group, options) :: outer =>
      some { reading with current := group.add (.group options reading.current.close), outer }

def take? (reading : Reading) : Token → Option Reading
  | .item item => some (reading.add item)
  | .opening options name => reading.begin? options name
  | .closing => reading.close?
  | .bar => some { reading with current := reading.current.bar }
  | .repetition => reading.current.repeat?.map fun group => { reading with current := group }

def result? (reading : Reading) : Option Pattern :=
  if reading.outer.isEmpty then some reading.current.close else none

def finish? (reading : Reading) (text : Text) : Option Pattern :=
  match _skipped : Lexeme.skip reading.current.verbose text with
  | [] => reading.result?
  | char :: rest =>
      match _found : Token.read reading.current.verbose (char :: rest) with
      | none => none
      | some (token, after) =>
          match reading.take? token with
          | none => none
          | some next => finish? next after
termination_by text.length
decreasing_by
  have bound := Lexeme.skip_length_le reading.current.verbose text
  grind [→ Token.read_length_lt]

end Reading

def Pattern.read? (text : Text) : Option Pattern :=
  Reading.finish? {} text

end GrammarArena.Log
