import GrammarArena.Grammar.Builder
import Mathlib.Data.List.TakeDrop
import Mathlib.Data.List.TakeWhile

/-!
Runs of digits in a text, told by their positions: where a run starts and what it denotes, and how
far the text can be read as integers with blanks between and around them. Where a text is parted
without cutting a run in two, its positions are those of the parts.
-/

namespace GrammarArena.IntegerList

def isSeparator (char : Char) : Bool :=
  char ∈ ['\t', ' ', '\n']

def startsRun (input : Text) (position : Nat) : Bool :=
  input[position]?.any Char.isDigit &&
    (position = 0 || !input[position - 1]?.any Char.isDigit)

def numberAt (input : Text) (position : Nat) : Nat :=
  Nat.ofDigitChars 10 ((input.drop position).takeWhile Char.isDigit) 0

/-- Integers cannot be read past the position: what stands there is no digit and no blank, or a
run that starts there denotes too great a number. -/
def blocks (input : Text) (position : Nat) : Bool :=
  input[position]?.any (fun found => !found.isDigit && !isSeparator found) ||
    startsRun input position && 9223372036854775807 < numberAt input position

/-- The first position that integers cannot be read past, or the end. -/
def extent (input : Text) : Nat :=
  ((List.range input.length).find? (blocks input)).getD input.length

def numbersBefore (input : Text) (stop : Nat) : List Nat :=
  ((List.range stop).filter (startsRun input)).map (numberAt input)

def reading (input : Text) : List Nat × Text :=
  (numbersBefore input (extent input), input.drop (extent input))

theorem blocks_of_lt_extent {input : Text} {position : Nat} (before : position < extent input) :
    blocks input position = false := by
  cases found : (List.range input.length).find? (blocks input) with
  | none =>
      rw [extent, found] at before
      simpa using List.find?_range_eq_none.mp found position before
  | some stop =>
      rw [extent, found] at before
      simpa using (List.find?_range_eq_some.mp found).2.2 position before

theorem extent_le_length (input : Text) : extent input ≤ input.length := by
  cases found : (List.range input.length).find? (blocks input) with
  | none => simp [extent, found]
  | some stop =>
      have inside := List.mem_range.mp (List.mem_of_find?_eq_some found)
      simp only [extent, found, Option.getD_some]
      omega

theorem numbersBefore_le {input : Text} {number : Nat}
    (listed : number ∈ numbersBefore input (extent input)) : number ≤ 9223372036854775807 := by
  simp only [numbersBefore, List.mem_map, List.mem_filter, List.mem_range] at listed
  obtain ⟨position, ⟨before, starts⟩, rfl⟩ := listed
  have passed := blocks_of_lt_extent before
  simp only [blocks, starts, Bool.true_and, Bool.or_eq_false_iff, decide_eq_false_iff_not] at passed
  omega

theorem extent_eq_zero {input : Text} (blocked : blocks input 0 = true) : extent input = 0 := by
  by_contra later
  have passed := blocks_of_lt_extent (Nat.pos_of_ne_zero later)
  rw [passed] at blocked
  contradiction

theorem reading_of_blocked {input : Text} (blocked : blocks input 0 = true) :
    reading input = ([], input) := by
  rw [reading, extent_eq_zero blocked]
  rfl

section Append

variable {front rest : Text}

theorem numberAt_append (position : Nat) :
    numberAt (front ++ rest) (front.length + position) = numberAt rest position := by
  rw [numberAt, numberAt, List.drop_length_add_append]

def Parted (front rest : Text) : Prop :=
  (∀ last ∈ front.getLast?, last.isDigit = false) ∨ ∀ first ∈ rest.head?, first.isDigit = false

theorem startsRun_append (parted : Parted front rest) (position : Nat) :
    startsRun (front ++ rest) (front.length + position) = startsRun rest position := by
  have here : (front ++ rest)[front.length + position]? = rest[position]? := by
    rw [List.getElem?_append_right (Nat.le_add_right _ _), Nat.add_sub_cancel_left]
  cases position with
  | succ position =>
      have before : (front ++ rest)[front.length + position]? = rest[position]? := by
        rw [List.getElem?_append_right (Nat.le_add_right _ _), Nat.add_sub_cancel_left]
      simp [startsRun, here, before]
  | zero =>
      -- Only at the first position of the rest does the character before it stand in the front.
      rcases parted with clearBefore | clearAfter
      · cases empty : front.length with
        | zero =>
            have nothing : front = [] := List.eq_nil_of_length_eq_zero empty
            rw [nothing, List.nil_append]
        | succ before =>
            have last : (front ++ rest)[before]?.any Char.isDigit = false := by
              rw [List.getElem?_append_left (by omega), Option.any_eq_false]
              intro found listed
              rw [← Nat.add_sub_cancel before 1, ← empty, ← List.getLast?_eq_getElem?] at listed
              simp [clearBefore found listed]
            simp only [empty, Nat.add_zero] at here
            simp [startsRun, here, last]
      · have first : rest[0]?.any Char.isDigit = false := by
          rw [← List.head?_eq_getElem?, Option.any_eq_false]
          intro found listed
          simp [clearAfter found listed]
        rw [startsRun, startsRun, here, first, Bool.false_and, Bool.false_and]

theorem blocks_append (parted : Parted front rest) (position : Nat) :
    blocks (front ++ rest) (front.length + position) = blocks rest position := by
  rw [blocks, blocks, startsRun_append parted, numberAt_append,
    List.getElem?_append_right (Nat.le_add_right _ _), Nat.add_sub_cancel_left]

theorem extent_append (parted : Parted front rest)
    (passed : ∀ position < front.length, blocks (front ++ rest) position = false) :
    extent (front ++ rest) = front.length + extent rest := by
  have none : (List.range front.length).find? (blocks (front ++ rest)) = none := by
    rw [List.find?_range_eq_none]
    intro position inside
    rw [passed position inside, Bool.not_false]
  have shifted : blocks (front ++ rest) ∘ (front.length + ·) = blocks rest :=
    funext (blocks_append parted)
  rw [extent, List.length_append, List.range_add, List.find?_append, none, Option.none_or,
    List.find?_map, shifted, extent]
  cases (List.range rest.length).find? (blocks rest) <;> rfl

theorem numbersBefore_append (parted : Parted front rest) (stop : Nat) :
    numbersBefore (front ++ rest) (front.length + stop) =
      numbersBefore (front ++ rest) front.length ++ numbersBefore rest stop := by
  have starts : startsRun (front ++ rest) ∘ (front.length + ·) = startsRun rest :=
    funext (startsRun_append parted)
  have numbers : numberAt (front ++ rest) ∘ (front.length + ·) = numberAt rest :=
    funext numberAt_append
  rw [numbersBefore, List.range_add, List.filter_append, List.map_append, List.filter_map, starts,
    List.map_map, numbers]
  rfl

theorem reading_append (parted : Parted front rest)
    (passed : ∀ position < front.length, blocks (front ++ rest) position = false) :
    reading (front ++ rest) =
      (numbersBefore (front ++ rest) front.length ++ (reading rest).1, (reading rest).2) := by
  rw [reading, extent_append parted passed, numbersBefore_append parted,
    List.drop_length_add_append]
  rfl

theorem isDigit_of_isSeparator {found : Char} (blank : isSeparator found = true) :
    found.isDigit = false := by
  simp only [isSeparator, List.mem_cons, List.not_mem_nil, or_false, decide_eq_true_eq] at blank
  rcases blank with rfl | rfl | rfl <;> rfl

theorem reading_separators (blank : ∀ found ∈ front, isSeparator found = true) :
    reading (front ++ rest) = reading rest := by
  have starts : ∀ position < front.length, startsRun (front ++ rest) position = false := by
    intro position inside
    have notDigit := isDigit_of_isSeparator (blank _ (List.getElem_mem inside))
    simp [startsRun, List.getElem?_append_left inside, List.getElem?_eq_getElem inside, notDigit]
  have passed : ∀ position < front.length, blocks (front ++ rest) position = false := by
    intro position inside
    have blankHere := blank _ (List.getElem_mem inside)
    simp [blocks, starts position inside, List.getElem?_append_left inside,
      List.getElem?_eq_getElem inside, blankHere]
  have parted : Parted front rest := by
    left
    intro last listed
    exact isDigit_of_isSeparator (blank last (List.mem_of_getLast? listed))
  have nothing : numbersBefore (front ++ rest) front.length = [] := by
    rw [numbersBefore, List.map_eq_nil_iff, List.filter_eq_nil_iff]
    intro position listed
    simp [starts position (List.mem_range.mp listed)]
  rw [reading_append parted passed, nothing, List.nil_append]

theorem reading_run (digits : ∀ found ∈ front, found.isDigit = true) (notEmpty : front ≠ [])
    (ends : ∀ first ∈ rest.head?, first.isDigit = false)
    (fits : numberAt (front ++ rest) 0 ≤ 9223372036854775807) :
    reading (front ++ rest) =
      (numberAt (front ++ rest) 0 :: (reading rest).1, (reading rest).2) := by
  have digitAt : ∀ position < front.length,
      (front ++ rest)[position]?.any Char.isDigit = true := by
    intro position inside
    simp [List.getElem?_append_left inside, List.getElem?_eq_getElem inside,
      digits _ (List.getElem_mem inside)]
  have starts : ∀ position < front.length,
      startsRun (front ++ rest) position = decide (position = 0) := by
    intro position inside
    simp [startsRun, digitAt position inside, digitAt (position - 1) (by omega)]
  have passed : ∀ position < front.length, blocks (front ++ rest) position = false := by
    intro position inside
    have notOther : (front ++ rest)[position]?.any
        (fun found => !found.isDigit && !isSeparator found) = false := by
      simp [List.getElem?_append_left inside, List.getElem?_eq_getElem inside,
        digits _ (List.getElem_mem inside)]
    rw [blocks, notOther, starts position inside, Bool.false_or]
    by_cases first : position = 0
    · subst first
      simp [Nat.not_lt.mpr fits]
    · simp [first]
  have only : numbersBefore (front ++ rest) front.length = [numberAt (front ++ rest) 0] := by
    have same : (List.range front.length).filter (startsRun (front ++ rest)) =
        (List.range front.length).filter (· = 0) :=
      List.filter_congr fun position listed => starts position (List.mem_range.mp listed)
    obtain ⟨others, long⟩ := Nat.exists_eq_succ_of_ne_zero
      (mt List.eq_nil_of_length_eq_zero notEmpty)
    rw [numbersBefore, same, long, List.range_succ_eq_map]
    simp
  rw [reading_append (Or.inr ends) passed, only, List.singleton_append]

end Append

theorem reading_dropWhile (input : Text) :
    reading (input.dropWhile isSeparator) = reading input := by
  have skipped :
      reading (input.takeWhile isSeparator ++ input.dropWhile isSeparator) = _ :=
    reading_separators fun _ => List.mem_takeWhile_imp
  rw [List.takeWhile_append_dropWhile] at skipped
  exact skipped.symm

end GrammarArena.IntegerList
