import GrammarArena.Proofs.Fronts
import GrammarArena.Text.Quoted

/-!
Quoted text can be read back: which character an escape stands for and where it ends shows from the
escape itself, whichever characters are taken to be unprintable, and no escape begins with the
quote that ends the text.
-/

namespace GrammarArena.Text

section Digits

variable {base : Nat}

theorem toDigits_eq_append (large : 1 < base) (number : Nat) :
    Nat.toDigits base number =
      (if number < base then [] else Nat.toDigits base (number / base)) ++
        [Nat.digitChar (number % base)] := by
  by_cases single : number < base
  · rw [if_pos single, Nat.toDigits_of_lt_base single, Nat.mod_eq_of_lt single, List.nil_append]
  · rw [if_neg single, Nat.toDigits_of_base_le large (Nat.le_of_not_lt single)]

theorem eq_of_digitChar_eq : ∀ digit < 16, ∀ other < 16,
    Nat.digitChar digit = Nat.digitChar other → digit = other := by
  decide

theorem toDigits_injective (large : 1 < base) (small : base ≤ 16) {number other : Nat}
    (same : Nat.toDigits base number = Nat.toDigits base other) : number = other := by
  -- Both end with the same digit, and without it they are the digits of the quotients.
  induction number using Nat.strong_induction_on generalizing other with
  | _ number ih =>
      rw [toDigits_eq_append large number, toDigits_eq_append large other] at same
      obtain ⟨fronts, lasts⟩ := List.append_inj' same rfl
      have below := Nat.mod_lt number (Nat.zero_lt_of_lt large)
      have belowOther := Nat.mod_lt other (Nat.zero_lt_of_lt large)
      have last : number % base = other % base :=
        eq_of_digitChar_eq _ (by omega) _ (by omega) (List.cons.inj lasts).1
      by_cases single : number < base
      · by_cases singleOther : other < base
        · rwa [Nat.mod_eq_of_lt single, Nat.mod_eq_of_lt singleOther] at last
        · rw [if_pos single, if_neg singleOther] at fronts
          exact absurd fronts.symm Nat.toDigits_ne_nil
      · by_cases singleOther : other < base
        · rw [if_neg single, if_pos singleOther] at fronts
          exact absurd fronts Nat.toDigits_ne_nil
        · rw [if_neg single, if_neg singleOther] at fronts
          have quotients := ih _ (Nat.div_lt_self (by omega) large) fronts
          rw [← Nat.div_add_mod number base, quotients, last, Nat.div_add_mod]

theorem exists_digit_of_mem (large : 1 < base) {number : Nat} {char : Char}
    (member : char ∈ Nat.toDigits base number) : ∃ digit, char = Nat.digitChar digit := by
  induction number using Nat.strong_induction_on with
  | _ number ih =>
      rw [toDigits_eq_append large, List.mem_append, List.mem_singleton] at member
      rcases member with front | last
      · by_cases single : number < base
        · simp [single] at front
        · rw [if_neg single] at front
          exact ih _ (Nat.div_lt_self (by omega) large) front
      · exact ⟨_, last⟩

theorem hexadecimal_cancel {number other : Nat} {rest after : Text}
    (same : Nat.toDigits 16 number ++ '}' :: rest = Nat.toDigits 16 other ++ '}' :: after) :
    number = other ∧ rest = after := by
  have noBrace : ∀ number, ∀ char ∈ Nat.toDigits 16 number, (char != '}') = true := by
    intro number char member
    obtain ⟨digit, rfl⟩ := exists_digit_of_mem (by decide) member
    simp
  have ends : ∀ rest : Text, ∀ char ∈ ('}' :: rest).head?, (char != '}') = false := by simp
  have run := LongestRun.of_refused (noBrace number) (ends rest)
  rw [same] at run
  obtain ⟨digits, rests⟩ := run.unique (LongestRun.of_refused (noBrace other) (ends after))
  exact ⟨toDigits_injective (by decide) (by decide) digits, (List.cons.inj rests).2⟩

end Digits

inductive Escape (quote : Char) : Char → Text → Prop
  | letter {char letter} : escapeLetter? quote char = some letter →
      Escape quote char ['\\', letter]
  | codePoint {char} :
      Escape quote char ('\\' :: 'u' :: '{' :: (Nat.toDigits 16 char.toNat ++ ['}']))
  | plain {char} : char ≠ '\\' → char ≠ quote → Escape quote char [char]

theorem escape_escapeChar [Unprintables] (quote char : Char) : Escape quote char (escapeChar quote char) := by
  rw [escapeChar]
  split
  · rename_i letter escaped
    exact .letter escaped
  · rename_i unescaped
    split
    · exact .codePoint
    · simp only [escapeLetter?] at unescaped
      split_ifs at unescaped with _ _ _ _ special
      exact .plain (not_or.mp special).1 (not_or.mp special).2

section Quote

variable {quote : Char} (isQuote : quote = '\'' ∨ quote = '"')

def unescapeLetter (letter : Char) : Char :=
  if letter = '0' then '\x00'
  else if letter = 't' then '\t'
  else if letter = 'n' then '\n'
  else if letter = 'r' then '\r'
  else letter

include isQuote

theorem unescapeLetter_of_escapeLetter? {char letter : Char}
    (escaped : escapeLetter? quote char = some letter) :
    unescapeLetter letter = char ∧ letter ≠ 'u' := by
  simp only [escapeLetter?] at escaped
  split_ifs at escaped with zero tab newLine carriageReturn special
  all_goals cases escaped
  · simp [unescapeLetter, zero]
  · simp [unescapeLetter, tab]
  · simp [unescapeLetter, newLine]
  · simp [unescapeLetter, carriageReturn]
  · rcases special with rfl | rfl
    · decide
    · rcases isQuote with rfl | rfl <;> decide

/-- An escape tells its character and its own end. -/
theorem Escape.cancel {char other : Char} {text written rest after : Text}
    (escape : Escape quote char text) (again : Escape quote other written)
    (same : text ++ rest = written ++ after) : char = other ∧ rest = after := by
  cases escape with
  | letter escaped =>
      obtain ⟨stands, notCode⟩ := unescapeLetter_of_escapeLetter? isQuote escaped
      cases again with
      | letter escapedOther =>
          obtain ⟨standsOther, _⟩ := unescapeLetter_of_escapeLetter? isQuote escapedOther
          obtain ⟨rfl, rfl⟩ : _ = _ ∧ rest = after := by simpa using same
          exact ⟨stands.symm.trans standsOther, rfl⟩
      | codePoint => simp [notCode] at same
      | plain notBackslash => simp [Ne.symm notBackslash] at same
  | codePoint =>
      cases again with
      | letter escapedOther =>
          obtain ⟨_, notCode⟩ := unescapeLetter_of_escapeLetter? isQuote escapedOther
          simp [Ne.symm notCode] at same
      | codePoint =>
          simp only [List.cons_append, List.append_assoc, List.cons.injEq, true_and,
            List.nil_append] at same
          obtain ⟨sameCode, sameRest⟩ := hexadecimal_cancel same
          exact ⟨Char.toNat_inj.mp sameCode, sameRest⟩
      | plain notBackslash => simp [Ne.symm notBackslash] at same
  | plain notBackslash =>
      cases again with
      | letter | codePoint => simp [notBackslash] at same
      | plain => simpa using same

theorem Escape.ne_quote {char : Char} {text : Text} (escape : Escape quote char text)
    (rest after : Text) : text ++ rest ≠ quote :: after := by
  have notBackslash : '\\' ≠ quote := by rcases isQuote with rfl | rfl <;> decide
  cases escape with
  | letter | codePoint => simp [notBackslash]
  | plain _ notQuote => simp [notQuote]

theorem escaped_cancel [Unprintables] {text other rest after : Text}
    (same : text.flatMap (escapeChar quote) ++ quote :: rest =
      other.flatMap (escapeChar quote) ++ quote :: after) : text = other ∧ rest = after := by
  induction text generalizing other with
  | nil =>
      cases other with
      | nil => simpa using same
      | cons char other =>
          rw [List.flatMap_cons, List.append_assoc] at same
          exact absurd same.symm ((escape_escapeChar quote char).ne_quote isQuote _ _)
  | cons char text ih =>
      rw [List.flatMap_cons, List.append_assoc] at same
      cases other with
      | nil => exact absurd same ((escape_escapeChar quote char).ne_quote isQuote _ _)
      | cons first other =>
          rw [List.flatMap_cons, List.append_assoc] at same
          obtain ⟨rfl, sameText⟩ :=
            (escape_escapeChar quote char).cancel isQuote (escape_escapeChar quote first) same
          obtain ⟨rfl, sameRest⟩ := ih sameText
          exact ⟨rfl, sameRest⟩

theorem quoteWith_cancel [Unprintables] {text other rest after : Text}
    (same : quoteWith quote text ++ rest = quoteWith quote other ++ after) :
    text = other ∧ rest = after := by
  simp only [quoteWith, List.cons_append, List.append_assoc, List.cons.injEq, true_and,
    List.nil_append] at same
  exact escaped_cancel isQuote same

end Quote

end GrammarArena.Text
