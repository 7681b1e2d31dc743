import GrammarArena.Text.Basic

/-!
Outlines describe data by its shape, and are written on one line or over several. Over several
lines every item stands on its own line, four spaces deeper than what it belongs to, and is
followed by a comma.
-/

namespace GrammarArena

inductive Outline where
  | word (text : Text)
  | field (label : Text) (content : Outline)
  | tuple (name : Text) (items : List Outline)
  | record (name : Text) (fields : List Outline)
  | list (items : List Outline)

namespace Outline

mutual

def compact : Outline → Text
  | .word text => text
  | .field label content => label ++ ": " ++ compact content
  | .tuple name items => name ++ "(" ++ Text.join ", " (compactAll items) ++ ")"
  | .record name fields => name ++ " \x7b " ++ Text.join ", " (compactAll fields) ++ " \x7d"
  | .list items => "[" ++ Text.join ", " (compactAll items) ++ "]"

def compactAll : List Outline → List Text
  | [] => []
  | item :: items => compact item :: compactAll items

end

def indentation (depth : Nat) : Text :=
  List.replicate (4 * depth) ' '

def line (depth : Nat) (item : Text) : Text :=
  indentation depth ++ item ++ ",\n"

def block (depth : Nat) (items : List Text) : Text :=
  if items.isEmpty then []
  else "\n" ++ items.flatMap (line (depth + 1)) ++ indentation depth

mutual

def pretty (depth : Nat) : Outline → Text
  | .word text => text
  | .field label content => label ++ ": " ++ pretty depth content
  | .tuple name items => name ++ "(" ++ block depth (prettyAll (depth + 1) items) ++ ")"
  | .record name fields =>
      name ++ " \x7b" ++ block depth (prettyAll (depth + 1) fields) ++ "\x7d"
  | .list items => "[" ++ block depth (prettyAll (depth + 1) items) ++ "]"

def prettyAll (depth : Nat) : List Outline → List Text
  | [] => []
  | item :: items => pretty depth item :: prettyAll depth items

end

def optional {α : Type} (describe : α → Outline) : Option α → Outline
  | none => .word "None"
  | some content => .tuple "Some" [describe content]

end Outline

end GrammarArena
