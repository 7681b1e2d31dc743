import GrammarArena.Text.Quoted
import GrammarArena.Text.Outline

/-!
Values that parsers produce. Besides characters, texts, lists and 64-bit integers a value may be
a custom payload of a type the client chooses. A payload is made once and then only copied: its
serial number says which one it is, and two payloads are the same value exactly when they have
the same serial number, whatever they hold.
-/

namespace GrammarArena

inductive Value (α : Type) where
  | char (value : Char)
  | text (value : Text)
  | list (items : List (Value α))
  | int (value : Int64)
  | custom (serial : Nat) (content : α)

abbrev Supply := StateM Nat

namespace Value

variable {α : Type}

instance : Inhabited (Value α) := ⟨.list []⟩

/-- A payload that equals no other made from the same supply. -/
def fresh (content : α) : Supply (Value α) :=
  fun nextSerial => (.custom nextSerial content, nextSerial + 1)

def char? : Value α → Option Char
  | .char value => some value
  | _ => none

def text? : Value α → Option Text
  | .text value => some value
  | _ => none

def list? : Value α → Option (List (Value α))
  | .list items => some items
  | _ => none

def int? : Value α → Option Int64
  | .int value => some value
  | _ => none

def content? : Value α → Option α
  | .custom _ content => some content
  | _ => none

def descend (value : Value α) : List Nat → Option (Value α)
  | [] => some value
  | position :: path =>
      match value with
      | .list items =>
          match items[position]? with
          | some item => item.descend path
          | none => none
      | _ => none

mutual

/-- Equality by content, but of payloads by serial number. -/
def same : Value α → Value α → Bool
  | .char first, .char second => first = second
  | .text first, .text second => first = second
  | .list first, .list second => sameAll first second
  | .int first, .int second => first = second
  | .custom first _, .custom second _ => first = second
  | _, _ => false

def sameAll : List (Value α) → List (Value α) → Bool
  | [], [] => true
  | first :: firsts, second :: seconds => same first second && sameAll firsts seconds
  | _, _ => false

end

instance : BEq (Value α) := ⟨same⟩

mutual

def contents : Value α → List α
  | .list items => contentsAll items
  | .custom _ content => [content]
  | _ => []

def contentsAll : List (Value α) → List α
  | [] => []
  | item :: items => contents item ++ contentsAll items

end

theorem contentsAll_eq_flatMap (items : List (Value α)) :
    contentsAll items = items.flatMap contents := by
  induction items with
  | nil => rfl
  | cons item items ih => simp [contentsAll, ih]

variable [Text.Unprintables]

mutual

def display : Value α → Text
  | .char value => Text.quotedChar value
  | .text value => Text.quoted value
  | .list items => "[" ++ Text.join ", " (displayAll items) ++ "]"
  | .int value => Text.signedDecimal value.toInt
  | .custom _ _ => "<custom>"

def displayAll : List (Value α) → List Text
  | [] => []
  | item :: items => display item :: displayAll items

end

mutual

def outline : Value α → Outline
  | .char value => .tuple "Char" [.word (Text.quotedChar value)]
  | .text value => .tuple "Str" [.word (Text.quoted value)]
  | .list items => .tuple "List" [.list (outlineAll items)]
  | .int value => .tuple "Int" [.word (Text.signedDecimal value.toInt)]
  | .custom _ _ => .tuple "Custom" [.word "Any \x7b .. \x7d"]

def outlineAll : List (Value α) → List Outline
  | [] => []
  | item :: items => outline item :: outlineAll items

end

theorem displayAll_eq_map (items : List (Value α)) : displayAll items = items.map display := by
  induction items with
  | nil => rfl
  | cons item items ih => simp [displayAll, ih]

theorem display_char (value : Char) : (char value : Value α).display = Text.quotedChar value := rfl

theorem display_text (value : Text) : (text value : Value α).display = Text.quoted value := rfl

theorem display_list (items : List (Value α)) :
    (list items).display = '[' :: (Text.join [',', ' '] (items.map display) ++ [']']) := by
  rw [← displayAll_eq_map]
  rfl

end Value

end GrammarArena
