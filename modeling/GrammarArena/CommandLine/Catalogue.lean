import GrammarArena.Brackets
import GrammarArena.IntegerList
import GrammarArena.Brainfuck.Grammar

/-!
The grammars that can be chosen by name, and how the value of each is shown.
-/

namespace GrammarArena.CommandLine

structure Entry where
  name : Text
  about : Text
  build : Builder Op (Except SlotError Parser)
  render : Value Op → Text

variable [Text.Unprintables]

namespace Entry

def brainfuck : Entry where
  name := "bf"
  about := "brainfuck program, printed as an indented instruction listing"
  build := Brainfuck.grammar
  render := fun value => Op.listing (Brainfuck.program value)

def brackets : Entry where
  name := "brackets"
  about := "balanced [ ] with any other text in between"
  build := Brackets.grammar
  render := Value.display

def integers : Entry where
  name := "integers"
  about := "whitespace-separated integers"
  build := IntegerList.grammar
  render := Value.display

def line (entry : Entry) : Text :=
  "  " ++ entry.name ++ List.replicate (10 - entry.name.length) ' ' ++ entry.about

end Entry

def catalogue : List Entry :=
  [Entry.brainfuck, Entry.brackets, Entry.integers]

def entry? (name : Text) : Option Entry :=
  catalogue.find? (·.name = name)

end GrammarArena.CommandLine
