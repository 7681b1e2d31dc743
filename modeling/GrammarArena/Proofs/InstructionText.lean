import GrammarArena.Brainfuck.Op
import GrammarArena.Proofs.Balance

/-!
The source text of instructions. It is balanced over the six characters of the instructions that
are not loops, and the instructions can be told from it: where one ends and the next begins is
settled by its first character and by the bracket that closes it.
-/

namespace GrammarArena.Op

def opcodes : List (Char × Op) :=
  [('+', .plus), ('-', .minus), ('<', .left), ('>', .right), ('.', .put), (',', .get)]

def isSimple (char : Char) : Bool :=
  char ∈ ['+', '-', '<', '>', '.', ',']

theorem isSimple_iff {char : Char} :
    isSimple char = true ↔ ∃ op, opcodes.lookup char = some op := by
  rw [← Option.isSome_iff_exists, List.lookup_isSome_iff]
  simp [isSimple, opcodes]

theorem source_of_lookup {char : Char} {op : Op} (listed : opcodes.lookup char = some op) :
    source op = [char] := by
  obtain ⟨before, after, split, _⟩ := List.lookup_eq_some_iff.mp listed
  have member : (char, op) ∈ opcodes := by simp [split]
  simp only [opcodes, List.mem_cons, Prod.mk.injEq, List.not_mem_nil, or_false] at member
  rcases member with ⟨rfl, rfl⟩ | ⟨rfl, rfl⟩ | ⟨rfl, rfl⟩ | ⟨rfl, rfl⟩ | ⟨rfl, rfl⟩ | ⟨rfl, rfl⟩ <;>
    rfl

theorem source_ne_nil (op : Op) : source op ≠ [] := by
  cases op <;> simp [source]

theorem balanced_of_isSimple {char : Char} (simple : isSimple char = true) :
    Balanced isSimple [char] := by
  have opening : char ≠ '[' := by
    rintro rfl
    contradiction
  have closing : char ≠ ']' := by
    rintro rfl
    contradiction
  exact .other opening closing simple .nil

mutual

theorem source_balanced : ∀ op, Balanced isSimple (source op)
  | .plus => balanced_of_isSimple rfl
  | .minus => balanced_of_isSimple rfl
  | .left => balanced_of_isSimple rfl
  | .right => balanced_of_isSimple rfl
  | .put => balanced_of_isSimple rfl
  | .get => balanced_of_isSimple rfl
  | .loop body => .group (sourceAll_balanced body) .nil

theorem sourceAll_balanced : ∀ ops, Balanced isSimple (sourceAll ops)
  | [] => .nil
  | op :: ops => (source_balanced op).append (sourceAll_balanced ops)

end

mutual

theorem source_cancel : ∀ (op other : Op) {rest after : Text},
    source op ++ rest = source other ++ after → op = other ∧ rest = after
  | .loop body, other, rest, after, same => by
      cases other with
      | loop inner =>
          simp only [source, List.cons_append, List.append_assoc, List.cons.injEq, true_and,
            List.nil_append] at same
          obtain ⟨sameBody, sameRest⟩ :=
            (sourceAll_balanced body).split_unique (sourceAll_balanced inner) same
          rw [sourceAll_injective body inner sameBody]
          exact ⟨rfl, sameRest⟩
      | _ => simp [source] at same
  | .plus, other, _, _, same | .minus, other, _, _, same | .left, other, _, _, same
  | .right, other, _, _, same | .put, other, _, _, same | .get, other, _, _, same => by
      cases other <;> simp_all [source]

theorem sourceAll_injective : ∀ (ops others : List Op), sourceAll ops = sourceAll others →
    ops = others
  | [], [], _ => rfl
  | [], other :: others, same => by
      have nothing := (List.append_eq_nil_iff.mp same.symm).1
      exact absurd nothing (source_ne_nil other)
  | op :: ops, [], same => by
      have nothing := (List.append_eq_nil_iff.mp same).1
      exact absurd nothing (source_ne_nil op)
  | op :: ops, other :: others, same => by
      obtain ⟨sameFirst, sameRest⟩ := source_cancel op other same
      rw [sameFirst, sourceAll_injective ops others sameRest]

end

theorem sourceAll_eq_nil_iff {ops : List Op} : sourceAll ops = [] ↔ ops = [] := by
  constructor
  · exact sourceAll_injective ops []
  · rintro rfl
    rfl

end GrammarArena.Op
