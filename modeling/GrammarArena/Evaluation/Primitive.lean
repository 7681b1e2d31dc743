import GrammarArena.Reply

/-!
Matching of single characters, literal texts and runs at a cursor.
-/

namespace GrammarArena.Primitive

variable {α : Type}

def matchOne (accepts : Char → Bool) : Text → Reply α
  | [] => .error .endOfInput
  | found :: rest =>
      if accepts found then .ok ⟨.char found, rest⟩ else .error (.unexpected found)

def mismatch? : Text → Text → Option Char
  | [], _ => none
  | _, [] => none
  | wanted :: expected, found :: cursor =>
      if found = wanted then mismatch? expected cursor else some found

/-- A literal text. Too little input is the end of input even where it differs; otherwise the
first difference is reported. -/
def matchText (expected cursor : Text) : Reply α :=
  if (cursor.take expected.length).length < expected.length then .error .endOfInput
  else match mismatch? expected cursor with
    | some found => .error (.unexpected found)
    | none => .ok ⟨.text expected, cursor.drop expected.length⟩

def matchRun (accepts : Char → Bool) (cursor : Text) : Reply α :=
  .ok ⟨.text (cursor.takeWhile accepts), cursor.dropWhile accepts⟩

theorem mismatch?_eq_none_iff {expected cursor : Text} (enough : expected.length ≤ cursor.length) :
    mismatch? expected cursor = none ↔ expected <+: cursor := by
  induction expected generalizing cursor with
  | nil => simp [mismatch?]
  | cons wanted expected ih =>
      cases cursor with
      | nil => simp at enough
      | cons found cursor =>
          simp only [List.length_cons, Nat.add_le_add_iff_right] at enough
          by_cases same : found = wanted
          · subst same
            simp [mismatch?, ih enough]
          · simp [mismatch?, same, List.cons_prefix_cons, Ne.symm same]

end GrammarArena.Primitive
