import GrammarArena.Proofs.CharacterRuns
import GrammarArena.Proofs.Literals

/-!
A choice of single characters is one character that is among them, in whatever order and however
often they are listed. White space is such a choice, and many spaces are its longest run, which may
not be empty.
-/

namespace GrammarArena

variable {α : Type} {grammar : Grammar α} {parser : Parser} {chars : List Char}
  {children : List Parser}

namespace Builder

def spaces : List Char :=
  ['\t', ' ', '\n']

theorem requireItems_of_ne_nil {items : List (Value α)} (notEmpty : items ≠ []) (rest : Text) :
    requireItems ⟨.list items, rest⟩ = .ok ⟨.list items, rest⟩ := by
  cases items with
  | nil => contradiction
  | cons => rfl

namespace MadeIn

theorem anySpace (made : Builder.anySpace.MadeIn grammar parser) :
    ∃ children, List.Forall₂ (fun char child => (Builder.char char).MadeIn grammar child) spaces
        children ∧
      (branch children).MadeIn grammar parser := by
  have branchGrows : ∀ children, (branch children : Builder α Parser).Grows :=
    fun _ => register_grows _
  obtain ⟨tab, madeTab, made⟩ := made.of_bind fun _ =>
    (register_grows _).bind fun _ => (register_grows _).bind fun _ => branchGrows _
  obtain ⟨space, madeSpace, made⟩ := made.of_bind fun _ =>
    (register_grows _).bind fun _ => branchGrows _
  obtain ⟨newLine, madeNewLine, made⟩ := made.of_bind fun _ => branchGrows _
  exact ⟨_, .cons madeTab (.cons madeSpace (.cons madeNewLine .nil)), made⟩

theorem manySpaces (made : Builder.manySpaces.MadeIn grammar parser) :
    ∃ one, Builder.anySpace.MadeIn grammar one ∧
      (Builder.nonEmptyRepetition one).MadeIn grammar parser :=
  made.of_bind nonEmptyRepetition_grows

end MadeIn

end Builder

section Choice

variable
  (madeEach : List.Forall₂ (fun char child => (Builder.char char).MadeIn grammar child) chars
    children)
  (made : (Builder.branch children).MadeIn grammar parser)

include madeEach

theorem spells_of_made :
    List.Forall₂ (fun char child => grammar.lookup child = .ok (.char char)) chars children :=
  madeEach.imp fun _ _ madeChar => madeChar.lookup

include made

theorem steady_choice : grammar.Steady parser :=
  .branch made.lookup (.of_spells (spells_of_made madeEach))

theorem replies_choice (input : Text) (trail : Trail) :
    Replies grammar .noProgress (.attempt parser input) trail
      (Primitive.matchOne (· ∈ chars) input) trail :=
  .branch made.lookup (.choice (spells_of_made madeEach) input trail)

theorem parse_choice (input : Text) (trail : Trail) :
    grammar.parse parser input trail = .ok (Primitive.matchOne (· ∈ chars) input, trail) :=
  (replies_choice madeEach made input trail).parse_eq_of_steady (steady_choice madeEach made)

end Choice

theorem parse_satisfy {accepts : Char → Bool}
    (made : (Builder.satisfy accepts).MadeIn grammar parser) (input : Text) (trail : Trail) :
    grammar.parse parser input trail = .ok (Primitive.matchOne accepts input, trail) :=
  (Replies.satisfy made.lookup).parse_eq_of_steady (.of_leaf made.lookup rfl rfl)

theorem parse_someChoices {one some : Parser}
    (madeEach : List.Forall₂ (fun char child => (Builder.char char).MadeIn grammar child) chars
      children)
    (madeOne : (Builder.branch children).MadeIn grammar one)
    (madeSome : (Builder.nonEmptyRepetition one).MadeIn grammar some) {input front rest : Text}
    (run : Text.LongestRun (· ∈ chars) input front rest) (trail : Trail) :
    grammar.parse some input trail =
      .ok (Builder.requireItems ⟨.list (front.map .char), rest⟩, trail) := by
  have items : Replies grammar .noProgress (.repetition one [] input) trail _ trail :=
    .run (replies_choice madeEach madeOne) [] input trail
  obtain ⟨rfl, rfl⟩ := run.eq_takeWhile
  rw [List.reverse_nil, List.nil_append] at items
  exact parse_nonEmptyRepetition madeSome (steady_choice madeEach madeOne) items

/-- At every input a choice of characters and one character that is among them have the same reply:
the first character of the input, if it is listed, and otherwise a failure at the cursor. So it is
with any space; and many spaces take the longest run of spaces, character by character, if the input
begins with one, and otherwise fail at the cursor. -/
theorem choice_is_membership (grammar : Grammar α) :
    (∀ chars children choice member,
      List.Forall₂ (fun char child => (Builder.char char).MadeIn grammar child) chars children →
      (Builder.branch children).MadeIn grammar choice →
      (Builder.satisfy (· ∈ chars)).MadeIn grammar member →
      ∀ input trail, ∃ reply, grammar.parse choice input trail = .ok (reply, trail) ∧
        grammar.parse member input trail = .ok (reply, trail) ∧
        (∀ found rest, input = found :: rest → found ∈ chars →
          reply = .ok ⟨.char found, rest⟩) ∧
        ((∀ found rest, input = found :: rest → found ∉ chars) →
          reply = .error (.atCursor input))) ∧
    (∀ any member, Builder.anySpace.MadeIn grammar any →
      (Builder.satisfy (· ∈ Builder.spaces)).MadeIn grammar member →
      ∀ input trail, ∃ reply, grammar.parse any input trail = .ok (reply, trail) ∧
        grammar.parse member input trail = .ok (reply, trail)) ∧
    ∀ many, Builder.manySpaces.MadeIn grammar many →
      ∀ input trail, ∃ front rest, Text.LongestRun (· ∈ Builder.spaces) input front rest ∧
        (front ≠ [] ↔ ∃ found after, input = found :: after ∧ found ∈ Builder.spaces) ∧
        (front ≠ [] →
          grammar.parse many input trail = .ok (.ok ⟨.list (front.map .char), rest⟩, trail)) ∧
        (front = [] → grammar.parse many input trail = .ok (.error (.atCursor input), trail)) := by
  refine ⟨?_, ?_, ?_⟩
  · intro chars children choice member madeEach madeChoice madeMember input trail
    refine ⟨_, parse_choice madeEach madeChoice input trail, parse_satisfy madeMember input trail,
      ?_, ?_⟩
    · rintro found rest rfl listed
      exact Primitive.matchOne_accepted (by simpa using listed) rest
    · intro unlisted
      apply Primitive.matchOne_refused
      intro found rest split
      simpa using unlisted found rest split
  · intro any member madeAny madeMember input trail
    obtain ⟨children, madeEach, madeBranch⟩ := madeAny.anySpace
    exact ⟨_, parse_choice madeEach madeBranch input trail, parse_satisfy madeMember input trail⟩
  · intro many madeMany input trail
    obtain ⟨one, madeOne, madeSome⟩ := madeMany.manySpaces
    obtain ⟨children, madeEach, madeBranch⟩ := madeOne.anySpace
    have run := Text.LongestRun.takeWhile (· ∈ Builder.spaces) input
    have parsed := parse_someChoices madeEach madeBranch madeSome run trail
    refine ⟨_, _, run, ?_, ?_, ?_⟩
    · cases input with
      | nil => simp
      | cons found after => simp [List.takeWhile_cons]
    · intro notEmpty
      rw [parsed, Builder.requireItems_of_ne_nil (by simpa using notEmpty)]
    · intro empty
      have split := run.split
      rw [empty, List.nil_append] at split
      rw [parsed, empty, ← split]
      rfl

def vowelsAndSpaces : Grammar Op :=
  ({} : Grammar Op).build
    [.char 'a', .char 'e', .branch [⟨0⟩, ⟨1⟩, ⟨0⟩], .satisfy (· ∈ ['a', 'e', 'a']), .anySpace,
      .satisfy (· ∈ Builder.spaces), .manySpaces]

theorem vowelsAndSpaces_choice_is_membership :
    List.Forall₂ (fun char child => (Builder.char char).MadeIn vowelsAndSpaces child)
      ['a', 'e', 'a'] [⟨0⟩, ⟨1⟩, ⟨0⟩] ∧
    (Builder.branch [⟨0⟩, ⟨1⟩, ⟨0⟩]).MadeIn vowelsAndSpaces ⟨2⟩ ∧
    (Builder.satisfy (· ∈ ['a', 'e', 'a'])).MadeIn vowelsAndSpaces ⟨3⟩ ∧
    Builder.anySpace.MadeIn vowelsAndSpaces ⟨7⟩ ∧
    (Builder.satisfy (· ∈ Builder.spaces)).MadeIn vowelsAndSpaces ⟨8⟩ ∧
    Builder.manySpaces.MadeIn vowelsAndSpaces ⟨14⟩ ∧
    vowelsAndSpaces.parse ⟨2⟩ ['e', 'λ'] {} = .ok (.ok ⟨.char 'e', ['λ']⟩, {}) ∧
    vowelsAndSpaces.parse ⟨3⟩ ['e', 'λ'] {} = .ok (.ok ⟨.char 'e', ['λ']⟩, {}) ∧
    vowelsAndSpaces.parse ⟨2⟩ ['λ'] {} = .ok (.error (.unexpected 'λ'), {}) ∧
    vowelsAndSpaces.parse ⟨7⟩ [' ', 'a'] {} = vowelsAndSpaces.parse ⟨8⟩ [' ', 'a'] {} ∧
    vowelsAndSpaces.parse ⟨14⟩ ['\n', '\t', 'a'] {} =
      .ok (.ok ⟨.list [.char '\n', .char '\t'], ['a']⟩, {}) ∧
    vowelsAndSpaces.parse ⟨14⟩ ['a', ' '] {} = .ok (.error (.unexpected 'a'), {}) := by
  have first : (Builder.char 'a').MadeIn vowelsAndSpaces ⟨0⟩ := .of_calls 0 rfl
  have second : (Builder.char 'e').MadeIn vowelsAndSpaces ⟨1⟩ := .of_calls 1 rfl
  have each : List.Forall₂ (fun char child => (Builder.char char).MadeIn vowelsAndSpaces child)
      ['a', 'e', 'a'] [⟨0⟩, ⟨1⟩, ⟨0⟩] := .cons first (.cons second (.cons first .nil))
  have choice : (Builder.branch [⟨0⟩, ⟨1⟩, ⟨0⟩]).MadeIn vowelsAndSpaces ⟨2⟩ := .of_calls 2 rfl
  have member : (Builder.satisfy (· ∈ ['a', 'e', 'a'])).MadeIn vowelsAndSpaces ⟨3⟩ :=
    .of_calls 3 rfl
  have any : Builder.anySpace.MadeIn vowelsAndSpaces ⟨7⟩ := .of_calls 4 rfl
  have space : (Builder.satisfy (· ∈ Builder.spaces)).MadeIn vowelsAndSpaces ⟨8⟩ := .of_calls 5 rfl
  have many : Builder.manySpaces.MadeIn vowelsAndSpaces ⟨14⟩ := .of_calls 6 rfl
  obtain ⟨choices, spaces, runs⟩ := choice_is_membership vowelsAndSpaces
  have replies := fun input => choices _ _ _ _ each choice member input {}
  obtain ⟨taken, chosen, amongThem, accepted, _⟩ := replies ['e', 'λ']
  obtain rfl := accepted 'e' ['λ'] rfl (by decide)
  obtain ⟨left, passed, _, _, refused⟩ := replies ['λ']
  obtain rfl := refused (by rintro _ _ ⟨⟩; decide)
  obtain ⟨_, parsedAny, parsedSpace⟩ := spaces _ _ any space [' ', 'a'] {}
  obtain ⟨front, rest, run, _, some, _⟩ := runs _ many ['\n', '\t', 'a'] {}
  obtain ⟨rfl, rfl⟩ := run.eq_takeWhile
  obtain ⟨front, rest, runNone, _, _, none⟩ := runs _ many ['a', ' '] {}
  obtain ⟨rfl, rfl⟩ := runNone.eq_takeWhile
  exact ⟨each, choice, member, any, space, many, chosen, amongThem, passed,
    parsedAny.trans parsedSpace.symm, some (by decide), none (by decide)⟩

end GrammarArena
