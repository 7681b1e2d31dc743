import GrammarArena.Grammar.Basic

/-!
A check that every slot a parser can reach is bound. The walk keeps the parsers it has still
to look at on a stack and looks at each one once.
-/

namespace GrammarArena.Grammar

variable {α : Type}

def successors (grammar : Grammar α) : Node α → Except Fault (Except SlotError (List Parser))
  | .sequence children | .branch children => .ok (.ok children)
  | .repetition inner | .map inner _ => .ok (.ok [inner])
  | .reference slot =>
      match grammar.resolve slot with
      | .error fault => .error fault
      | .ok none => .ok (.error (.unbound slot))
      | .ok (some target) => .ok (.ok [target])
  | .char _ | .string _ | .filter _ | .satisfy _ => .ok (.ok [])

/-- Looks at the parsers on the stack and at all they lead to. `unseen` lists the parsers of the
grammar that were not looked at yet. -/
def checkFrom (grammar : Grammar α) (unseen stack : List Parser) :
    Except Fault (Except SlotError Unit) :=
  match stack with
  | [] => .ok (.ok ())
  | parser :: below =>
      match grammar.lookup parser with
      | .error fault => .error fault
      | .ok node =>
          if _ : parser ∈ unseen then
            match grammar.successors node with
            | .error fault => .error fault
            | .ok (.error unbound) => .ok (.error unbound)
            | .ok (.ok children) =>
                checkFrom grammar (unseen.erase parser) (children.reverse ++ below)
          else checkFrom grammar unseen below
termination_by (unseen.length, stack.length)
decreasing_by
  · apply Prod.Lex.left
    rename_i listed
    have shorter := List.length_erase_of_mem listed
    have positive := List.length_pos_of_mem listed
    omega
  · apply Prod.Lex.right
    simp

def parsers (grammar : Grammar α) : List Parser :=
  (List.range grammar.size).map Parser.mk

/-- Succeeds when every slot that the parser can reach is bound, and otherwise names the first
one met that is not. -/
def check (grammar : Grammar α) (parser : Parser) : Except Fault (Except SlotError Unit) :=
  grammar.checkFrom grammar.parsers [parser]

end GrammarArena.Grammar
