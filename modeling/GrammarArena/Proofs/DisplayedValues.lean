import GrammarArena.Proofs.IntegerLimit
import GrammarArena.Proofs.ProgramAnswer
import GrammarArena.Proofs.QuotedText

/-!
The text that shows a value determines it, if the value holds no payloads. A shown value tells where
it ends as long as no digit follows it: quotes and brackets close what they open, and what follows
an item of a list is a comma or the closing bracket.
-/

namespace GrammarArena

namespace Text

def StartsAfresh (text : Text) : Prop :=
  ∀ char ∈ text.head?, isDecimalDigit char = false

variable {rest after : Text}

theorem startsAfresh_cons {char : Char} (noDigit : isDecimalDigit char = false) (text : Text) :
    StartsAfresh (char :: text) := by
  rintro first ⟨⟩
  exact noDigit

theorem decimal_cancel {number other : Nat} (fresh : rest.StartsAfresh)
    (freshOther : after.StartsAfresh)
    (same : decimal number ++ rest = decimal other ++ after) : number = other ∧ rest = after := by
  have digits : ∀ number, ∀ char ∈ decimal number, isDecimalDigit char = true :=
    fun _ _ => isDecimalDigit_of_mem_decimal
  have run := LongestRun.of_refused (digits number) fresh
  rw [same] at run
  obtain ⟨sameDigits, sameRest⟩ := run.unique (.of_refused (digits other) freshOther)
  refine ⟨?_, sameRest⟩
  rw [← ofDigitChars_decimal number, sameDigits, ofDigitChars_decimal]

theorem decimal_ne_cons {char : Char} (noDigit : isDecimalDigit char = false) (number : Nat) :
    decimal number ++ rest ≠ char :: after := by
  intro same
  cases digits : decimal number with
  | nil => exact Nat.toDigits_ne_nil digits
  | cons first others =>
      rw [digits, List.cons_append] at same
      have digit : isDecimalDigit first = true :=
        isDecimalDigit_of_mem_decimal (by rw [digits]; exact List.mem_cons_self)
      rw [(List.cons.inj same).1, noDigit] at digit
      contradiction

theorem signedDecimal_ne_cons {char : Char} (noDigit : isDecimalDigit char = false)
    (noSign : char ≠ '-') (number : Int) : signedDecimal number ++ rest ≠ char :: after := by
  rw [signedDecimal]
  split
  · simp [noSign.symm]
  · exact decimal_ne_cons noDigit _

theorem signedDecimal_cancel {number other : Int} (fresh : rest.StartsAfresh)
    (freshOther : after.StartsAfresh)
    (same : signedDecimal number ++ rest = signedDecimal other ++ after) :
    number = other ∧ rest = after := by
  have noSign : isDecimalDigit '-' = false := rfl
  by_cases negative : number < 0 <;> by_cases negativeOther : other < 0
  all_goals simp only [signedDecimal, negative, negativeOther, ↓reduceIte] at same
  · obtain ⟨magnitude, sameRest⟩ := decimal_cancel fresh freshOther (List.cons.inj same).2
    exact ⟨by omega, sameRest⟩
  · exact absurd same.symm (decimal_ne_cons noSign _)
  · exact absurd same (decimal_ne_cons noSign _)
  · obtain ⟨magnitude, sameRest⟩ := decimal_cancel fresh freshOther same
    exact ⟨by omega, sameRest⟩

theorem join_cons (separator piece : Text) (pieces : List Text) :
    join separator (piece :: pieces) = piece ++ pieces.flatMap (separator ++ ·) := by
  induction pieces generalizing piece with
  | nil => simp [join]
  | cons next pieces ih => simp [join, ih]

end Text

namespace Value

variable {α : Type}

mutual

theorem same_refl : ∀ value : Value α, value.same value = true
  | .char _ | .text _ | .int _ | .custom _ _ => by simp [same]
  | .list items => sameAll_refl items

theorem sameAll_refl : ∀ items : List (Value α), sameAll items items = true
  | [] => rfl
  | item :: items => by rw [sameAll, same_refl item, sameAll_refl items, Bool.and_self]

end

section Texts

variable [Text.Unprintables]

def displayOthers (items : List (Value α)) (rest : Text) : Text :=
  items.flatMap (fun item => ',' :: ' ' :: item.display) ++ ']' :: rest

theorem displayOthers_cons (item : Value α) (items : List (Value α)) (rest : Text) :
    displayOthers (item :: items) rest =
      ',' :: ' ' :: (item.display ++ displayOthers items rest) := by
  simp [displayOthers]

theorem display_nil_append (rest : Text) :
    display (.list [] : Value α) ++ rest = '[' :: ']' :: rest := by
  simp [display_list, Text.join]

theorem display_cons_append (item : Value α) (items : List (Value α)) (rest : Text) :
    display (.list (item :: items)) ++ rest =
      '[' :: (item.display ++ displayOthers items rest) := by
  simp [display_list, Text.join_cons, List.flatMap_map, displayOthers]

theorem displayOthers_startsAfresh (items : List (Value α)) (rest : Text) :
    (displayOthers items rest).StartsAfresh := by
  cases items with
  | nil => exact Text.startsAfresh_cons rfl _
  | cons item items => exact Text.startsAfresh_cons rfl _

theorem display_ne_closing {value : Value α} (plain : value.contents = []) (rest after : Text) :
    value.display ++ rest ≠ ']' :: after := by
  cases value with
  | int number => exact Text.signedDecimal_ne_cons rfl (by decide) _
  | char => simp [display_char, Text.quotedChar, Text.quoteWith]
  | text => simp [display_text, Text.quoted, Text.quoteWith]
  | list => simp [display_list]
  | custom => simp [contents] at plain

theorem displayOthers_of_display {items others : List (Value α)} {rest after : Text}
    (plain : contentsAll items = []) (plainOthers : contentsAll others = [])
    (same : display (.list items) ++ rest = display (.list others) ++ after) :
    displayOthers items rest = displayOthers others after := by
  cases items with
  | nil =>
      cases others with
      | nil => simpa [display_nil_append, displayOthers] using same
      | cons other others =>
          rw [contentsAll, List.append_eq_nil_iff] at plainOthers
          rw [display_nil_append, display_cons_append] at same
          exact absurd (List.cons.inj same).2.symm (display_ne_closing plainOthers.1 _ _)
  | cons item items =>
      rw [contentsAll, List.append_eq_nil_iff] at plain
      cases others with
      | nil =>
          rw [display_nil_append, display_cons_append] at same
          exact absurd (List.cons.inj same).2 (display_ne_closing plain.1 _ _)
      | cons other others =>
          rw [display_cons_append, display_cons_append] at same
          rw [displayOthers_cons, displayOthers_cons, (List.cons.inj same).2]

mutual

/-- Shown values that are not followed by a digit are told apart by their first characters and end
where they end, whatever comes then. -/
theorem display_cancel : ∀ (value other : Value α) {rest after : Text}, value.contents = [] →
    other.contents = [] → rest.StartsAfresh → after.StartsAfresh →
    value.display ++ rest = other.display ++ after → value = other ∧ rest = after
  | .char value, other, rest, after, _, plainOther, _, _, same => by
      cases other with
      | char => simpa using Text.quoteWith_cancel (Or.inl rfl) same
      | int => exact absurd same.symm (Text.signedDecimal_ne_cons rfl (by decide) _)
      | text | list => simp [display_char, display_text, display_list, Text.quotedChar,
          Text.quoted, Text.quoteWith] at same
      | custom => simp [contents] at plainOther
  | .text value, other, rest, after, _, plainOther, _, _, same => by
      cases other with
      | text => simpa using Text.quoteWith_cancel (Or.inr rfl) same
      | int => exact absurd same.symm (Text.signedDecimal_ne_cons rfl (by decide) _)
      | char | list => simp [display_char, display_text, display_list, Text.quotedChar,
          Text.quoted, Text.quoteWith] at same
      | custom => simp [contents] at plainOther
  | .int value, other, rest, after, _, plainOther, fresh, freshOther, same => by
      cases other with
      | int =>
          obtain ⟨number, sameRest⟩ := Text.signedDecimal_cancel fresh freshOther same
          exact ⟨congrArg int (Int64.toInt_inj.mp number), sameRest⟩
      | char | text => exact absurd same (Text.signedDecimal_ne_cons rfl (by decide) _)
      | list items =>
          rw [display_list] at same
          exact absurd same (Text.signedDecimal_ne_cons rfl (by decide) _)
      | custom => simp [contents] at plainOther
  | .list items, other, rest, after, plain, plainOther, _, _, same => by
      cases other with
      | list others =>
          obtain ⟨sameItems, sameRest⟩ := displayOthers_cancel items others plain plainOther
            (displayOthers_of_display plain plainOther same)
          exact ⟨congrArg list sameItems, sameRest⟩
      | int =>
          rw [display_list] at same
          exact absurd same.symm (Text.signedDecimal_ne_cons rfl (by decide) _)
      | char | text => simp [display_char, display_text, display_list, Text.quotedChar,
          Text.quoted, Text.quoteWith] at same
      | custom => simp [contents] at plainOther

theorem displayOthers_cancel : ∀ (items others : List (Value α)) {rest after : Text},
    contentsAll items = [] → contentsAll others = [] →
    displayOthers items rest = displayOthers others after → items = others ∧ rest = after
  | [], [], _, _, _, _, same => by simpa [displayOthers] using same
  | [], _ :: _, _, _, _, _, same => by simp [displayOthers] at same
  | _ :: _, [], _, _, _, _, same => by simp [displayOthers] at same
  | item :: items, other :: others, rest, after, plain, plainOther, same => by
      rw [contentsAll, List.append_eq_nil_iff] at plain plainOther
      rw [displayOthers_cons, displayOthers_cons] at same
      obtain ⟨sameItem, sameOthers⟩ := display_cancel item other plain.1 plainOther.1
        (displayOthers_startsAfresh items rest) (displayOthers_startsAfresh others after)
        (List.cons.inj (List.cons.inj same).2).2
      obtain ⟨sameItems, sameRest⟩ :=
        displayOthers_cancel items others plain.2 plainOther.2 sameOthers
      exact ⟨congrArg₂ List.cons sameItem sameItems, sameRest⟩

end

theorem eq_of_display {value other : Value α} (plain : value.contents = [])
    (plainOther : other.contents = []) (same : value.display = other.display) : value = other := by
  have fresh : Text.StartsAfresh [] := by simp [Text.StartsAfresh]
  have shown : value.display ++ [] = other.display ++ [] := by rw [same]
  exact (display_cancel value other plain plainOther fresh fresh shown).1

end Texts

end Value

namespace Brackets

variable {α : Type}

mutual

theorem contents_value : ∀ item : Item, (item.value : Value α).contents = []
  | .text _ => rfl
  | .group body => by
      simp [Item.value, Value.contents, Value.contentsAll, contentsAll_valueAll body]

theorem contentsAll_valueAll : ∀ items : List Item,
    Value.contentsAll (valueAll items : List (Value α)) = []
  | [] => rfl
  | item :: items => by
      rw [valueAll, Value.contentsAll, contents_value item, contentsAll_valueAll items,
        List.append_nil]

end

end Brackets

namespace CommandLine

variable [Text.Unprintables]

structure Entry.ShowsPlain (entry : Entry) (parser : Parser) (grammar : Grammar Op) : Prop where
  built : entry.build {} = .ok (.ok parser, grammar)
  shows : entry.render = Value.display
  plain : ∀ {input : Text} {success : Success Op} {later : Trail},
    grammar.run parser input {} = .ok (.ok success, later) → success.value.contents = []

theorem Entry.ShowsPlain.eq_of_output {entry : Entry} {parser : Parser} {grammar : Grammar Op}
    (showsPlain : entry.ShowsPlain parser grammar) {input other : Text}
    {success result : Success Op} {later after : Trail}
    (ran : grammar.run parser input {} = .ok (.ok success, later))
    (ranOther : grammar.run parser other {} = .ok (.ok result, after))
    (same : (entry.run input).output = (entry.run other).output) :
    success.value = result.value := by
  rw [run_eq_response showsPlain.built ran, run_eq_response showsPlain.built ranOther] at same
  simp only [response, showsPlain.shows, List.append_cancel_right_eq] at same
  exact Value.eq_of_display (showsPlain.plain ran) (showsPlain.plain ranOther) same

theorem Entry.brackets_showsPlain : ∃ parser grammar, brackets.ShowsPlain parser grammar := by
  refine ⟨_, _, Brackets.grammar_eq_extend {}, rfl, ?_⟩
  intro input success later ran
  obtain ⟨items, rest, _, _, _, _, parsed⟩ := (Brackets.laid_extend {}).parse_body input {}
  rw [Grammar.success_of_run ran parsed]
  exact Brackets.contentsAll_valueAll items

theorem Entry.integers_showsPlain : ∃ parser grammar, integers.ShowsPlain parser grammar := by
  refine ⟨_, _, IntegerList.grammar_eq_extend {}, rfl, ?_⟩
  intro input success later ran
  rw [Grammar.success_of_run ran ((IntegerList.laid_extend {}).parse_list input {}), Value.contents,
    Value.contentsAll_eq_flatMap]
  simp [Value.contents]

end CommandLine

/-- Values without payloads that are shown alike are the same, of whatever shape they are and
whichever characters are unprintable. So what the program prints of a text of brackets or integers
determines the value of that text. -/
theorem display_determines_value [Text.Unprintables] :
    (∀ (α : Type) (first second : Value α), first.contents = [] → second.contents = [] →
      first.display = second.display → first.same second = true ∧ first = second) ∧
    ∀ entry ∈ [CommandLine.Entry.brackets, CommandLine.Entry.integers], ∃ parser grammar,
      entry.build {} = .ok (.ok parser, grammar) ∧
      ∀ (input other : Text) (success result : Success Op) (later after : Trail),
        grammar.run parser input {} = .ok (.ok success, later) →
        grammar.run parser other {} = .ok (.ok result, after) →
        (entry.run input).output = (entry.run other).output →
        success.value.same result.value = true := by
  constructor
  · intro α first second plain plainSecond same
    obtain rfl := Value.eq_of_display plain plainSecond same
    exact ⟨first.same_refl, rfl⟩
  · intro entry listed
    have showsPlain : ∃ parser grammar, entry.ShowsPlain parser grammar := by
      rcases List.mem_pair.mp listed with rfl | rfl
      · exact CommandLine.Entry.brackets_showsPlain
      · exact CommandLine.Entry.integers_showsPlain
    obtain ⟨parser, grammar, showsPlain⟩ := showsPlain
    refine ⟨parser, grammar, showsPlain.built, ?_⟩
    intro input other success result later after ran ranOther same
    rw [showsPlain.eq_of_output ran ranOther same]
    exact result.value.same_refl

end GrammarArena
