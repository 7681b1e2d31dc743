import GrammarArena.Evaluation.Primitive
import Mathlib.Data.List.TakeWhile

/-!
Fronts of a text: where a text may be cut by a number of bytes, where it first differs from
another, and the longest run of accepted characters it begins with. Literals and runs that are cut
off by their number of bytes are the same as those that are taken character by character: the cut
never falls into a character.
-/

namespace GrammarArena

namespace Text

/-- The text cut behind that many bytes, unless it is shorter or the cut would go through a
character. -/
def splitAtByte? : Nat → Text → Option (Text × Text)
  | 0, text => some ([], text)
  | _ + 1, [] => none
  | bytes + 1, char :: rest =>
      if char.utf8Size ≤ bytes + 1 then
        (splitAtByte? (bytes + 1 - char.utf8Size) rest).map fun (front, rest) =>
          (char :: front, rest)
      else none

theorem splitAtByte?_append (front rest : Text) :
    splitAtByte? front.byteLength (front ++ rest) = some (front, rest) := by
  induction front with
  | nil => cases rest <;> rfl
  | cons char front ih =>
      have positive := char.utf8Size_pos
      obtain ⟨bytes, long⟩ : ∃ bytes, char.utf8Size + byteLength front = bytes + 1 :=
        Nat.exists_eq_succ_of_ne_zero (by omega)
      have left : bytes + 1 - char.utf8Size = byteLength front := by omega
      have fits : char.utf8Size ≤ bytes + 1 := by omega
      simp [byteLength, long, splitAtByte?, fits, left, ih]

theorem splitAtByte?_eq_some_iff {bytes : Nat} {text front rest : Text} :
    splitAtByte? bytes text = some (front, rest) ↔
      text = front ++ rest ∧ front.byteLength = bytes := by
  constructor
  · intro cut
    fun_induction splitAtByte? bytes text generalizing front rest with
    | case1 =>
        cases cut
        exact ⟨rfl, rfl⟩
    | case2 => contradiction
    | case3 bytes char text fits ih =>
        simp only [Option.map_eq_some_iff, Prod.exists, Prod.mk.injEq] at cut
        obtain ⟨front, rest, cut, rfl, rfl⟩ := cut
        obtain ⟨rfl, long⟩ := ih cut
        refine ⟨rfl, ?_⟩
        rw [byteLength]
        omega
    | case4 => contradiction
  · rintro ⟨rfl, rfl⟩
    exact splitAtByte?_append front rest

def byteOffset? (stop : Char → Bool) : Text → Option Nat
  | [] => none
  | char :: rest =>
      if stop char then some 0 else (byteOffset? stop rest).map fun bytes => char.utf8Size + bytes

theorem byteOffset?_getD (accepts : Char → Bool) (text : Text) :
    (byteOffset? (fun char => !accepts char) text).getD text.byteLength =
      byteLength (text.takeWhile accepts) := by
  induction text with
  | nil => rfl
  | cons char rest ih =>
      cases accepted : accepts char with
      | false => simp [byteOffset?, accepted, byteLength]
      | true =>
          simp only [byteOffset?, accepted, Bool.not_true, Bool.false_eq_true, ↓reduceIte,
            List.takeWhile_cons, byteLength, ← ih]
          cases byteOffset? (fun char => !accepts char) rest <;> rfl

/-- The texts go on alike up to a place where the second has this character and the first has
another one. -/
def FirstDifference (expected text : Text) (found : Char) : Prop :=
  ∃ front wanted after rest, expected = front ++ wanted :: after ∧
    text = front ++ found :: rest ∧ found ≠ wanted

structure LongestRun (accepts : Char → Bool) (text front rest : Text) : Prop where
  split : text = front ++ rest
  accepted : ∀ char ∈ front, accepts char = true
  longest : ∀ other, other <+: text → (∀ char ∈ other, accepts char = true) → other <+: front

namespace LongestRun

variable {accepts : Char → Bool} {text front rest : Text}

theorem of_refused (accepted : ∀ char ∈ front, accepts char = true)
    (refused : ∀ char ∈ rest.head?, accepts char = false) :
    LongestRun accepts (front ++ rest) front rest where
  split := rfl
  accepted := accepted
  longest := by
    intro other begins acceptedOther
    -- One of the two is a front of the other, and what is longer takes in the rest's first.
    rcases List.prefix_or_prefix_of_prefix begins (List.prefix_append front rest) with
      shorter | ⟨more, rfl⟩
    · exact shorter
    · cases more with
      | nil => simp
      | cons char more =>
          rw [List.prefix_append_right_inj] at begins
          obtain ⟨after, rfl⟩ := begins
          have taken := acceptedOther char (by simp)
          have left := refused char (by simp)
          rw [taken] at left
          contradiction

theorem refused (run : LongestRun accepts text front rest) :
    ∀ char ∈ rest.head?, accepts char = false := by
  intro char first
  obtain ⟨after, rfl⟩ := List.head?_eq_some_iff.mp first
  by_contra taken
  rw [Bool.not_eq_false] at taken
  have begins : front ++ [char] <+: text := ⟨after, by simp [run.split]⟩
  have acceptedMore : ∀ other ∈ front ++ [char], accepts other = true := by
    simpa [or_imp, forall_and, taken] using run.accepted
  have fits := (run.longest _ begins acceptedMore).length_le
  rw [List.length_append, List.length_singleton] at fits
  omega

theorem takeWhile (accepts : Char → Bool) (text : Text) :
    LongestRun accepts text (text.takeWhile accepts) (text.dropWhile accepts) := by
  have accepted : ∀ char ∈ text.takeWhile accepts, accepts char = true :=
    fun _ => List.mem_takeWhile_imp
  have refused : ∀ char ∈ (text.dropWhile accepts).head?, accepts char = false := by
    intro char first
    have stops := List.head?_dropWhile_not accepts text
    rw [Option.mem_def.mp first] at stops
    simpa using stops
  have run := of_refused accepted refused
  rwa [List.takeWhile_append_dropWhile] at run

theorem eq_takeWhile (run : LongestRun accepts text front rest) :
    front = text.takeWhile accepts ∧ rest = text.dropWhile accepts := by
  have refused := run.refused
  rw [run.split, List.takeWhile_append_of_pos run.accepted,
    List.dropWhile_append_of_pos run.accepted]
  cases rest with
  | nil => simp
  | cons char rest =>
      have stops := refused char rfl
      simp [stops]

theorem unique {other after : Text} (run : LongestRun accepts text front rest)
    (again : LongestRun accepts text other after) : front = other ∧ rest = after := by
  obtain ⟨rfl, rfl⟩ := run.eq_takeWhile
  obtain ⟨rfl, rfl⟩ := again.eq_takeWhile
  exact ⟨rfl, rfl⟩

end LongestRun

end Text

namespace Primitive

variable {α : Type} {expected cursor : Text} {found : Char}

theorem mismatch?_append (expected rest : Text) : mismatch? expected (expected ++ rest) = none := by
  rw [mismatch?_eq_none_iff (by simp)]
  exact List.prefix_append expected rest

theorem mismatch?_eq_some_iff :
    mismatch? expected cursor = some found ↔ Text.FirstDifference expected cursor found := by
  constructor
  · intro differs
    fun_induction mismatch? expected cursor with
    | case1 => contradiction
    | case2 => contradiction
    | case3 expected wanted cursor ih =>
        obtain ⟨front, other, after, rest, rfl, rfl, unequal⟩ := ih differs
        exact ⟨wanted :: front, other, after, rest, rfl, rfl, unequal⟩
    | case4 wanted expected first cursor unequal =>
        cases differs
        exact ⟨[], wanted, expected, cursor, rfl, rfl, unequal⟩
  · rintro ⟨front, wanted, after, rest, rfl, rfl, unequal⟩
    induction front with
    | nil => simp [mismatch?, unequal]
    | cons char front ih => simpa [mismatch?] using ih

theorem matchText_append (expected rest : Text) :
    (matchText expected (expected ++ rest) : Reply α) = .ok ⟨.text expected, rest⟩ := by
  simp [matchText, mismatch?_append]

theorem matchText_of_short (short : cursor.length < expected.length) :
    (matchText expected cursor : Reply α) = .error .endOfInput := by
  have cut : (cursor.take expected.length).length < expected.length := by
    rw [List.length_take]
    omega
  rw [matchText, if_pos cut]

theorem matchText_of_difference (enough : expected.length ≤ cursor.length)
    (differs : Text.FirstDifference expected cursor found) :
    (matchText expected cursor : Reply α) = .error (.unexpected found) := by
  simp [matchText, enough, mismatch?_eq_some_iff.mpr differs]

/-- The characters of a text matched one after the other, after the values so far: the first
difference is reported even where the input is too short. -/
def matchEach (values : List (Value α)) (expected cursor : Text) : Reply α :=
  match mismatch? expected cursor with
  | some found => .error (.unexpected found)
  | none =>
      if cursor.length < expected.length then .error .endOfInput
      else .ok ⟨.list (values.reverse ++ expected.map .char), cursor.drop expected.length⟩

def cutText? (expected cursor : Text) : Option (Reply α) :=
  if (cursor.take expected.length).length < expected.length then some (.error .endOfInput)
  else match mismatch? expected cursor with
    | some found => some (.error (.unexpected found))
    | none => (cursor.splitAtByte? expected.byteLength).map fun (front, rest) =>
        .ok ⟨.text front, rest⟩

theorem cutText?_eq (expected cursor : Text) :
    (cutText? expected cursor : Option (Reply α)) = some (matchText expected cursor) := by
  by_cases short : (cursor.take expected.length).length < expected.length
  · simp only [cutText?, matchText, short, ↓reduceIte]
  · cases differs : mismatch? expected cursor with
    | some found => simp only [cutText?, matchText, short, ↓reduceIte, differs]
    | none =>
        have enough : expected.length ≤ cursor.length := by
          rw [List.length_take] at short
          omega
        obtain ⟨rest, rfl⟩ := (mismatch?_eq_none_iff enough).mp differs
        simp [cutText?, matchText_append, differs, Text.splitAtByte?_append]

def cutRun? (accepts : Char → Bool) (cursor : Text) : Option (Reply α) :=
  let stop := (cursor.byteOffset? fun char => !accepts char).getD cursor.byteLength
  (cursor.splitAtByte? stop).map fun (run, rest) => .ok ⟨.text run, rest⟩

theorem cutRun?_eq (accepts : Char → Bool) (cursor : Text) :
    (cutRun? accepts cursor : Option (Reply α)) = some (matchRun accepts cursor) := by
  have cut := Text.splitAtByte?_append (cursor.takeWhile accepts) (cursor.dropWhile accepts)
  rw [List.takeWhile_append_dropWhile] at cut
  simp [cutRun?, matchRun, Text.byteOffset?_getD, cut]

end Primitive

end GrammarArena
