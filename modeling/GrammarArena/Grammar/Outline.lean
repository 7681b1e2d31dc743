import GrammarArena.Grammar.Basic

/-!
Grammars described for a reader: the nodes in order and what each slot is bound to. Predicates
and transforms cannot be shown.
-/

namespace GrammarArena

def Parser.outline (parser : Parser) : Outline :=
  .word (Text.decimal parser.index)

def Slot.outline (slot : Slot) : Outline :=
  .word (Text.decimal slot.index)

namespace Node

variable {α : Type}

def kind : Node α → Text
  | .char _ => "char"
  | .string _ => "string"
  | .filter _ => "filter"
  | .satisfy _ => "satisfy"
  | .sequence _ => "sequence"
  | .branch _ => "branch"
  | .repetition _ => "repeat"
  | .map _ _ => "map"
  | .reference _ => "ptr"

def outline [Text.Unprintables] : Node α → Outline
  | .char expected => .tuple "Char" [.word (Text.quotedChar expected)]
  | .string expected => .tuple "Str" [.word (Text.quoted expected)]
  | .filter accepts => .word (kind (.filter accepts : Node α))
  | .satisfy accepts => .word (kind (.satisfy accepts : Node α))
  | .sequence children => .tuple "Sequence" [.list (children.map Parser.outline)]
  | .branch children => .tuple "Branch" [.list (children.map Parser.outline)]
  | .repetition inner => .tuple "Repeat" [inner.outline]
  | .map inner _ => .tuple "Map" [inner.outline]
  | .reference slot => .tuple "Ptr" [slot.outline]

end Node

def Grammar.outline [Text.Unprintables] {α : Type} (grammar : Grammar α) : Outline :=
  .record "Context"
    [.field "nodes" (.list (grammar.nodes.toList.map Node.outline)),
      .field "slots" (.list (grammar.slots.toList.map (Outline.optional Parser.outline)))]

end GrammarArena
