import GrammarArena.Proofs.Construction
import GrammarArena.Proofs.Fronts
import GrammarArena.Proofs.IntegerGrammar
import Mathlib.Tactic.IntervalCases
import Mathlib.Tactic.Ring

/-!
Integers are exact up to the greatest number of 64 bits. What a run of digits denotes is given by
the places of its digits, without a bound; a reader that goes through the digits in 64 bits and
checks every step for overflow finds that number exactly if it fits.
-/

namespace GrammarArena

namespace Text

def decimalDigits : Text :=
  ['0', '1', '2', '3', '4', '5', '6', '7', '8', '9']

def isDecimalDigit (char : Char) : Bool :=
  char ∈ decimalDigits

def digitValue (char : Char) : Nat :=
  decimalDigits.idxOf char

/-- The number that digits denote, each worth as much as its place says. -/
def placeValue : Text → Nat
  | [] => 0
  | digit :: digits => digitValue digit * 10 ^ digits.length + placeValue digits

theorem isDecimalDigit_iff {char : Char} :
    isDecimalDigit char = true ↔ ∃ value < 10, Nat.digitChar value = char := by
  have listed : decimalDigits = (List.range 10).map Nat.digitChar := rfl
  simp [isDecimalDigit, listed]

theorem isDecimalDigit_eq_isDigit : isDecimalDigit = Char.isDigit := by
  funext char
  rw [Bool.eq_iff_iff, isDecimalDigit_iff, Char.isDigit_iff_toNat]
  constructor
  · rintro ⟨value, small, rfl⟩
    interval_cases value <;> decide
  · rintro ⟨low, high⟩
    refine ⟨char.toNat - 48, ?_, ?_⟩
    · have bound : char.toNat ≤ 57 := high
      omega
    · rw [← Char.toNat_inj]
      change 48 ≤ char.toNat at low
      change char.toNat ≤ 57 at high
      generalize char.toNat = code at low high ⊢
      interval_cases code <;> rfl

theorem isDecimalDigit_of_mem_decimal {number : Nat} {char : Char}
    (member : char ∈ decimal number) : isDecimalDigit char = true := by
  rw [isDecimalDigit_eq_isDigit]
  exact Nat.isDigit_of_mem_toDigits (by decide) (by decide) member

theorem digitValue_eq_sub {char : Char} (digit : isDecimalDigit char = true) :
    digitValue char = char.toNat - '0'.toNat := by
  obtain ⟨value, small, rfl⟩ := isDecimalDigit_iff.mp digit
  interval_cases value <;> rfl

theorem placeValue_eq_ofDigitChars {digits : Text}
    (each : ∀ char ∈ digits, isDecimalDigit char = true) :
    placeValue digits = Nat.ofDigitChars 10 digits 0 := by
  induction digits with
  | nil => rfl
  | cons digit digits ih =>
      rw [List.forall_mem_cons] at each
      have shifted := @Nat.ofDigitChars_eq_ofDigitChars_zero digits (digit.toNat - '0'.toNat)
      rw [placeValue, ih each.2, digitValue_eq_sub each.1, Nat.ofDigitChars_cons, Nat.mul_zero,
        Nat.zero_add, shifted, Nat.mul_comm]

end Text

/-! Arithmetic of 64 bits in which a result that does not fit is nothing. -/

namespace Checked

def ofInt? (number : Int) : Option Int64 :=
  if -9223372036854775808 ≤ number ∧ number ≤ 9223372036854775807 then some (.ofInt number)
  else none

theorem ofInt?_eq_some_iff {number : Int} {word : Int64} :
    ofInt? number = some word ↔ word.toInt = number := by
  by_cases fits : -9223372036854775808 ≤ number ∧ number ≤ 9223372036854775807
  · have exact : (Int64.ofInt number).toInt = number :=
      Int64.toInt_ofInt_of_le (by omega) (by omega)
    rw [ofInt?, if_pos fits, Option.some.injEq, ← Int64.toInt_inj, exact, eq_comm]
  · have least := word.le_toInt
    have greatest := word.toInt_lt
    rw [ofInt?, if_neg fits]
    simp only [reduceCtorEq, false_iff]
    omega

theorem ofInt?_eq_none_iff {number : Int} :
    ofInt? number = none ↔ number < -9223372036854775808 ∨ 9223372036854775807 < number := by
  rw [ofInt?, ite_eq_right_iff]
  simp only [reduceCtorEq, imp_false]
  omega

def multiply? (first second : Int64) : Option Int64 :=
  ofInt? (first.toInt * second.toInt)

def add? (first second : Int64) : Option Int64 :=
  ofInt? (first.toInt + second.toInt)

def subtract? (first second : Int64) : Option Int64 :=
  ofInt? (first.toInt - second.toInt)

end Checked

namespace Text

def digit? (char : Char) : Option Int64 :=
  if isDecimalDigit char then some (.ofNat (digitValue char)) else none

def appendDigit? (negative : Bool) (number : Int64) (char : Char) : Option Int64 := do
  let shifted ← Checked.multiply? number 10
  let digit ← digit? char
  if negative then Checked.subtract? shifted digit else Checked.add? shifted digit

def readDigits? (negative : Bool) (digits : Text) : Option Int64 :=
  if digits.isEmpty then none else digits.foldlM (appendDigit? negative) 0

/-- The number that a text denotes, digits behind a sign or without one, if every step on the way
to it fits. -/
def readInt64? : Text → Option Int64
  | '-' :: digits => readDigits? true digits
  | '+' :: digits => readDigits? false digits
  | digits => readDigits? false digits

def signed (negative : Bool) (magnitude : Nat) : Int :=
  if negative then -magnitude else magnitude

theorem ofInt?_signed_of_le {negative : Bool} {small large : Nat} (le : small ≤ large)
    (exceeds : Checked.ofInt? (signed negative small) = none) :
    Checked.ofInt? (signed negative large) = none := by
  rw [Checked.ofInt?_eq_none_iff] at exceeds ⊢
  cases negative <;> simp only [signed, Bool.false_eq_true, ↓reduceIte] at exceeds ⊢ <;> omega

theorem digit?_eq {char : Char} (digit : isDecimalDigit char = true) :
    ∃ word, digit? char = some word ∧ word.toInt = digitValue char := by
  refine ⟨.ofNat (digitValue char), by simp [digit?, digit], Int64.toInt_ofNat_of_lt ?_⟩
  have listed : digitValue char < 10 :=
    List.idxOf_lt_length_of_mem (by simpa [isDecimalDigit] using digit)
  omega

theorem appendDigit?_eq {negative : Bool} {number : Int64} {magnitude : Nat}
    (value : number.toInt = signed negative magnitude) {char : Char}
    (digit : isDecimalDigit char = true) :
    appendDigit? negative number char =
      Checked.ofInt? (signed negative (magnitude * 10 + digitValue char)) := by
  obtain ⟨word, read, worth⟩ := digit?_eq digit
  have ten : number.toInt * (10 : Int64).toInt = signed negative (magnitude * 10) := by
    have exact : (10 : Int64).toInt = 10 := rfl
    rw [exact, value]
    cases negative <;> simp [signed]
  rw [appendDigit?, Checked.multiply?, ten, read]
  cases shifted : Checked.ofInt? (signed negative (magnitude * 10)) with
  | none =>
      rw [ofInt?_signed_of_le (Nat.le_add_right _ _) shifted]
      rfl
  | some tens =>
      have worthTens := Checked.ofInt?_eq_some_iff.mp shifted
      cases negative with
      | false =>
          have sum : tens.toInt + word.toInt = signed false (magnitude * 10 + digitValue char) := by
            simp [worthTens, worth, signed]
          rw [← sum]
          rfl
      | true =>
          have difference :
              tens.toInt - word.toInt = signed true (magnitude * 10 + digitValue char) := by
            simp only [worthTens, worth, signed, ↓reduceIte]
            omega
          rw [← difference]
          rfl

/-- Checked step by step or at the end, it is the same numbers that fit. -/
theorem foldlM_appendDigit? {negative : Bool} {digits : Text}
    (each : ∀ char ∈ digits, isDecimalDigit char = true) {number : Int64} {magnitude : Nat}
    (value : number.toInt = signed negative magnitude) :
    digits.foldlM (appendDigit? negative) number =
      Checked.ofInt? (signed negative (magnitude * 10 ^ digits.length + placeValue digits)) := by
  induction digits generalizing number magnitude with
  | nil =>
      simp only [List.foldlM_nil, List.length_nil, pow_zero, Nat.mul_one, placeValue, Nat.add_zero]
      exact (Checked.ofInt?_eq_some_iff.mpr value).symm
  | cons digit digits ih =>
      rw [List.forall_mem_cons] at each
      have total : magnitude * 10 ^ (digits.length + 1) + placeValue (digit :: digits) =
          (magnitude * 10 + digitValue digit) * 10 ^ digits.length + placeValue digits := by
        rw [placeValue]
        ring
      rw [List.foldlM_cons, appendDigit?_eq value each.1, List.length_cons, total]
      cases next : Checked.ofInt? (signed negative (magnitude * 10 + digitValue digit)) with
      | none =>
          -- Further digits make the number no smaller, so the whole does not fit either.
          have shifted : magnitude * 10 + digitValue digit ≤
              (magnitude * 10 + digitValue digit) * 10 ^ digits.length :=
            Nat.le_mul_of_pos_right _ (Nat.pow_pos (by decide))
          rw [ofInt?_signed_of_le (shifted.trans (Nat.le_add_right _ _)) next]
          rfl
      | some word => exact ih each.2 (Checked.ofInt?_eq_some_iff.mp next)

theorem readDigits?_eq (negative : Bool) {digits : Text} (notEmpty : digits ≠ [])
    (each : ∀ char ∈ digits, isDecimalDigit char = true) :
    readDigits? negative digits = Checked.ofInt? (signed negative (placeValue digits)) := by
  have zero : (0 : Int64).toInt = signed negative 0 := by cases negative <;> rfl
  have folded := foldlM_appendDigit? each zero
  rw [Nat.zero_mul, Nat.zero_add] at folded
  rw [readDigits?, List.isEmpty_eq_false_iff.mpr notEmpty, folded]
  rfl

theorem readInt64?_eq {digits : Text} (notEmpty : digits ≠ [])
    (each : ∀ char ∈ digits, isDecimalDigit char = true) :
    readInt64? digits = Checked.ofInt? (placeValue digits) := by
  have unsigned : readInt64? digits = readDigits? false digits := by
    rw [readInt64?.eq_def]
    split
    · exact absurd (each '-' List.mem_cons_self) (by decide)
    · exact absurd (each '+' List.mem_cons_self) (by decide)
    · rfl
  rw [unsigned, readDigits?_eq false notEmpty each]
  rfl

end Text

variable {α : Type} {grammar : Grammar α} {integer : Parser}

theorem parse_integer (made : Builder.integer.MadeIn grammar integer) {input front rest : Text}
    (run : Text.LongestRun Text.isDecimalDigit input front rest) (trail : Trail) :
    grammar.parse integer input trail =
      .ok (Builder.readInteger ⟨.text front, rest⟩, trail) := by
  obtain ⟨digits, foundDigits, found⟩ := made.integer
  have steady : grammar.Steady integer :=
    .map found Builder.readInteger_keepsSuffix (.of_leaf foundDigits rfl rfl)
  rw [Text.isDecimalDigit_eq_isDigit] at run
  obtain ⟨rfl, rfl⟩ := run.eq_takeWhile
  exact (Replies.mapSuccess found (.filter foundDigits)).parse_eq_of_steady steady

theorem parse_integer_fits (made : Builder.integer.MadeIn grammar integer) {input front rest : Text}
    (run : Text.LongestRun Text.isDecimalDigit input front rest) (notEmpty : front ≠ [])
    (fits : Text.placeValue front ≤ 9223372036854775807) (trail : Trail) :
    ∃ word : Int64, word.toInt = Text.placeValue front ∧ Text.readInt64? front = some word ∧
      grammar.parse integer input trail = .ok (.ok ⟨.int word, rest⟩, trail) := by
  have value := Text.placeValue_eq_ofDigitChars run.accepted
  have exact : (Int64.ofNat (Text.placeValue front)).toInt = Text.placeValue front :=
    Int64.toInt_ofNat_of_lt (by omega)
  refine ⟨_, exact, ?_, ?_⟩
  · rw [Text.readInt64?_eq notEmpty run.accepted]
    exact Checked.ofInt?_eq_some_iff.mpr exact
  · rw [parse_integer made run, value, Builder.readInteger_fits notEmpty (value ▸ fits)]

theorem parse_integer_overflows (made : Builder.integer.MadeIn grammar integer)
    {input front rest : Text} (run : Text.LongestRun Text.isDecimalDigit input front rest)
    (exceeds : 9223372036854775807 < Text.placeValue front) (trail : Trail) :
    ∃ first others, front = first :: others ∧ Text.readInt64? front = none ∧
      grammar.parse integer input trail = .ok (.error (.unexpected first), trail) := by
  have value := Text.placeValue_eq_ofDigitChars run.accepted
  cases front with
  | nil => contradiction
  | cons first others =>
      refine ⟨first, others, rfl, ?_, ?_⟩
      · rw [Text.readInt64?_eq (List.cons_ne_nil _ _) run.accepted, Checked.ofInt?_eq_none_iff]
        omega
      · rw [parse_integer made run, Builder.readInteger_overflows (value ▸ exceeds)]

/-- The longest run of digits decides. Without a digit there is a failure at the cursor. A number
of at most 63 bits is read exactly, be there zeros in front of it or not, as a reader finds it that
checks each step for overflow. A greater one, which that reader refuses, is a failure on its first
digit. -/
theorem integer_exact_to_limit (made : Builder.integer.MadeIn grammar integer) (input : Text)
    (trail : Trail) :
    (∃ front rest, Text.LongestRun Text.isDecimalDigit input front rest ∧
      (∀ char ∈ rest.head?, Text.isDecimalDigit char = false) ∧
      (front = [] → grammar.parse integer input trail = .ok (.error (.atCursor input), trail)) ∧
      (front ≠ [] → Text.placeValue front ≤ 9223372036854775807 → ∃ word : Int64,
        word.toInt = Text.placeValue front ∧ Text.readInt64? front = some word ∧
        grammar.parse integer input trail = .ok (.ok ⟨.int word, rest⟩, trail)) ∧
      (9223372036854775807 < Text.placeValue front → ∃ first others, front = first :: others ∧
        Text.readInt64? front = none ∧
        grammar.parse integer input trail = .ok (.error (.unexpected first), trail))) ∧
    ∀ number zeros rest, number ≤ 9223372036854775807 →
      (∀ char ∈ rest.head?, Text.isDecimalDigit char = false) →
      input = List.replicate zeros '0' ++ Text.decimal number ++ rest → ∃ word : Int64,
        word.toInt = number ∧
        grammar.parse integer input trail = .ok (.ok ⟨.int word, rest⟩, trail) := by
  constructor
  · have run := Text.LongestRun.takeWhile Text.isDecimalDigit input
    refine ⟨_, _, run, run.refused, ?_, fun notEmpty fits =>
      parse_integer_fits made run notEmpty fits trail, ?_⟩
    · intro empty
      have all := run.split
      rw [empty, List.nil_append] at all
      rw [parse_integer made run, empty, ← all]
      rfl
    · intro exceeds
      exact parse_integer_overflows made run exceeds trail
  · rintro number zeros rest fits refused rfl
    have each : ∀ char ∈ List.replicate zeros '0' ++ Text.decimal number,
        Text.isDecimalDigit char = true := by
      intro char member
      rcases List.mem_append.mp member with zero | digit
      · rw [List.eq_of_mem_replicate zero]
        rfl
      · exact Text.isDecimalDigit_of_mem_decimal digit
    have value : Text.placeValue (List.replicate zeros '0' ++ Text.decimal number) = number := by
      rw [Text.placeValue_eq_ofDigitChars each, Nat.ofDigitChars_append,
        Nat.ofDigitChars_replicate_zero, Nat.mul_zero, Text.ofDigitChars_decimal]
    have notEmpty : List.replicate zeros '0' ++ Text.decimal number ≠ [] := by
      simp [Text.decimal]
    have run := Text.LongestRun.of_refused each refused
    obtain ⟨word, worth, _, parsed⟩ := parse_integer_fits made run notEmpty (by omega) trail
    exact ⟨word, by omega, parsed⟩

def loneInteger : Grammar Op :=
  ({} : Grammar Op).build [.integer]

def tooGreat : Text :=
  ['9', '2', '2', '3', '3', '7', '2', '0', '3', '6', '8', '5', '4', '7', '7', '5', '8', '0', '8']

theorem loneInteger_exact_to_limit :
    Builder.integer.MadeIn loneInteger ⟨1⟩ ∧
    loneInteger.parse ⟨1⟩ ['0', '0', '7', 'λ'] {} = .ok (.ok ⟨.int 7, ['λ']⟩, {}) ∧
    loneInteger.parse ⟨1⟩ tooGreat {} = .ok (.error (.unexpected '9'), {}) ∧
    loneInteger.parse ⟨1⟩ ['-', '1'] {} = .ok (.error (.unexpected '-'), {}) := by
  have made : Builder.integer.MadeIn loneInteger ⟨1⟩ := .of_calls 0 rfl
  have laws := fun input => integer_exact_to_limit made input {}
  have stops : ∀ char ∈ ['λ'].head?, Text.isDecimalDigit char = false := by rintro _ ⟨⟩; rfl
  obtain ⟨word, worth, seven⟩ :=
    (laws ['0', '0', '7', 'λ']).2 7 2 ['λ'] (by omega) stops rfl
  obtain rfl : word = 7 := Int64.toInt_inj.mp worth
  obtain ⟨front, rest, run, _, _, _, exceeds⟩ := (laws tooGreat).1
  obtain ⟨rfl, rfl⟩ := run.eq_takeWhile
  obtain ⟨first, others, begins, _, refused⟩ := exceeds (by decide)
  cases begins
  obtain ⟨front, rest, runBehindSign, _, none, _⟩ := (laws ['-', '1']).1
  obtain ⟨rfl, rfl⟩ := runBehindSign.eq_takeWhile
  exact ⟨made, seven, refused, none rfl⟩

end GrammarArena
