import GrammarArena.IntegerList
import GrammarArena.Proofs.DigitRuns
import GrammarArena.Proofs.Idioms
import GrammarArena.Proofs.Layout

/-!
The grammar of integers reads its input up to the first position that no integers can be read
past, and its value lists what the runs of digits up to there denote.
-/

namespace GrammarArena

variable {α : Type}

namespace Builder

theorem readInteger_fits {digits rest : Text} (notEmpty : digits ≠ [])
    (fits : Nat.ofDigitChars 10 digits 0 ≤ 9223372036854775807) :
    readInteger (⟨.text digits, rest⟩ : Success α) =
      .ok ⟨.int (Int64.ofNat (Nat.ofDigitChars 10 digits 0)), rest⟩ := by
  simp [readInteger, greatestInteger, Value.text?, notEmpty, fits, Success.withValue]

theorem readInteger_overflows {first : Char} {others : Text}
    (exceeds : 9223372036854775807 < Nat.ofDigitChars 10 (first :: others) 0) (rest : Text) :
    readInteger (⟨.text (first :: others), rest⟩ : Success α) = .error (.unexpected first) := by
  simp [readInteger, greatestInteger, Value.text?, Nat.not_le.mpr exceeds, Failure.atCursor]

theorem readInteger_refused {digits : Text}
    (refused : digits = [] ∨ 9223372036854775807 < Nat.ofDigitChars 10 digits 0) (rest : Text) :
    ∃ failure, readInteger (⟨.text digits, rest⟩ : Success α) = .error failure := by
  cases digits with
  | nil => exact ⟨.atCursor rest, rfl⟩
  | cons first others =>
      rcases refused with nothing | exceeds
      · contradiction
      · exact ⟨_, readInteger_overflows exceeds rest⟩

end Builder

namespace IntegerList

def nodes (base : Nat) : List (Node α) :=
  [.char '\t', .char ' ', .char '\n', .branch [⟨base⟩, ⟨base + 1⟩, ⟨base + 2⟩],
    .repetition ⟨base + 3⟩, .filter Char.isDigit,
    .map ⟨base + 5⟩ fun success => pure (Builder.readInteger success),
    .sequence [⟨base + 6⟩, ⟨base + 4⟩], .map ⟨base + 7⟩ (select 0), .repetition ⟨base + 8⟩,
    .sequence [⟨base + 4⟩, ⟨base + 9⟩], .map ⟨base + 10⟩ (select 1)]

def Laid (grammar : Grammar α) (base : Nat) : Prop :=
  ∀ (offset : Nat) {node}, (nodes base)[offset]? = some node →
    grammar.lookup ⟨base + offset⟩ = .ok node

theorem grammar_eq_extend (initial : Grammar α) :
    grammar initial =
      .ok (.ok ⟨initial.size + 11⟩, initial.extend (nodes initial.size) []) := by
  have begins : grammar initial = grammar (initial.extend [] []) := by rw [Grammar.extend_nil]
  rw [begins]
  simp only [grammar, Builder.anySpace, Builder.tab, Builder.space, Builder.newLine,
    Builder.integer, Builder.filter, Builder.repetition, Builder.map, Builder.char,
    Builder.sequence, Builder.branch, bind_assoc, Builder.register_bind, List.nil_append,
    List.length_nil, List.cons_append, List.length_cons, Nat.add_zero, Nat.zero_add, Nat.reduceAdd]
  rfl

theorem laid_extend (initial : Grammar α) :
    Laid (initial.extend (nodes initial.size) []) initial.size :=
  fun _ _ listed => Grammar.lookup_extend listed _

theorem select_keepsSuffix (position : Nat) :
    Transform.KeepsSuffix (select position : Transform α) := by
  rintro success serial result ⟨⟩
  exact List.suffix_refl _

namespace Laid

variable {grammar : Grammar α} {base : Nat}

theorem descends : Grammar.Descends base 0 (nodes (α := α) base) := by
  simp [nodes, Grammar.Descends, Node.children, Grammar.Among]

theorem fragment (laid : Laid grammar base) : grammar.Fragment base (nodes base) := by
  apply Grammar.Fragment.of_descends laid descends
  intro slot member
  simp [nodes] at member

theorem closed (laid : Laid grammar base) :
    grammar.Closed (Grammar.Among base 12) Transform.KeepsSuffix := by
  apply laid.fragment.closed
  intro inner transform member
  simp only [nodes, List.mem_cons, reduceCtorEq, false_or, or_false, List.not_mem_nil,
    Node.map.injEq] at member
  rcases member with ⟨_, rfl⟩ | ⟨_, rfl⟩ | ⟨_, rfl⟩
  · exact Builder.readInteger_keepsSuffix
  · exact select_keepsSuffix 0
  · exact select_keepsSuffix 1

theorem ranked (laid : Laid grammar base) :
    grammar.Ranked (Grammar.Among base 12) fun parser =>
      Grammar.lateRank 12 12 (parser.index - base) := by
  apply laid.fragment.ranked_of_descends descends
  · simp [nodes]
  · simp [nodes]
  · simp [nodes, Node.children]

theorem gap_taken (laid : Laid grammar base) (cursor : Text) (trail : Trail) :
    Replies grammar .noProgress (.attempt ⟨base + 4⟩ cursor) trail
      (.ok ⟨.list ((cursor.takeWhile isSeparator).map .char), cursor.dropWhile isSeparator⟩)
      trail := by
  have chars : List.Forall₂ (fun char child => grammar.lookup child = .ok (.char char))
      ['\t', ' ', '\n'] [⟨base⟩, ⟨base + 1⟩, ⟨base + 2⟩] :=
    .cons (laid 0 rfl) (.cons (laid 1 rfl) (.cons (laid 2 rfl) .nil))
  have one : ∀ cursor trail, Replies grammar .noProgress (.attempt ⟨base + 3⟩ cursor) trail
      (Primitive.matchOne isSeparator cursor) trail :=
    fun cursor trail => .branch (laid 3 rfl) (.choice chars cursor trail)
  exact .repetition (laid 4 rfl) (.run one [] cursor trail)

theorem integer_tried (laid : Laid grammar base) (cursor : Text) (trail : Trail) :
    Replies grammar .noProgress (.attempt ⟨base + 6⟩ cursor) trail
      (Builder.readInteger
        ⟨.text (cursor.takeWhile Char.isDigit), cursor.dropWhile Char.isDigit⟩) trail :=
  .mapSuccess (laid 6 rfl) (.filter (laid 5 rfl))

theorem item_taken (laid : Laid grammar base) {cursor : Text}
    (digits : cursor.takeWhile Char.isDigit ≠ [])
    (fits : numberAt cursor 0 ≤ 9223372036854775807) (trail : Trail) :
    Replies grammar .noProgress (.attempt ⟨base + 8⟩ cursor) trail
      (.ok ⟨.int (Int64.ofNat (numberAt cursor 0)),
        (cursor.dropWhile Char.isDigit).dropWhile isSeparator⟩) trail := by
  have integer := laid.integer_tried cursor trail
  rw [Builder.readInteger_fits digits fits] at integer
  have gap := laid.gap_taken (cursor.dropWhile Char.isDigit) trail
  have spaced := Replies.sequence (laid 7 rfl)
    (.sequenceNext integer (.sequenceNext gap .sequenceEnd))
  exact .mapSuccess (laid 8 rfl) spaced

theorem item_refused (laid : Laid grammar base) {cursor : Text}
    (refused : cursor.takeWhile Char.isDigit = [] ∨
      9223372036854775807 < numberAt cursor 0) (trail : Trail) :
    ∃ failure, Replies grammar .noProgress (.attempt ⟨base + 8⟩ cursor) trail (.error failure)
      trail := by
  have integer := laid.integer_tried cursor trail
  obtain ⟨failure, read⟩ :=
    Builder.readInteger_refused refused (cursor.dropWhile Char.isDigit)
  rw [read] at integer
  exact ⟨failure, .mapFailure (laid 8 rfl) (.sequence (laid 7 rfl) (.sequenceFailure integer))⟩

end Laid

theorem reading_of_refused {cursor : Text} (clear : cursor.dropWhile isSeparator = cursor)
    (refused : cursor.takeWhile Char.isDigit = [] ∨
      9223372036854775807 < numberAt cursor 0) : reading cursor = ([], cursor) := by
  cases cursor with
  | nil => rfl
  | cons found rest =>
      apply reading_of_blocked
      have notBlank : isSeparator found = false := by
        have head := List.head?_dropWhile_not isSeparator (found :: rest)
        rwa [clear] at head
      cases digit : found.isDigit with
      | false => simp [blocks, digit, notBlank]
      | true =>
          rcases refused with none | great
          · rw [List.takeWhile_cons_of_pos digit] at none
            contradiction
          · simp [blocks, startsRun, digit, great]

theorem reading_of_fits {cursor : Text} (digits : cursor.takeWhile Char.isDigit ≠ [])
    (fits : numberAt cursor 0 ≤ 9223372036854775807) :
    reading cursor = (numberAt cursor 0 ::
      (reading ((cursor.dropWhile Char.isDigit).dropWhile isSeparator)).1,
      (reading ((cursor.dropWhile Char.isDigit).dropWhile isSeparator)).2) := by
  have split : cursor.takeWhile Char.isDigit ++ cursor.dropWhile Char.isDigit = cursor :=
    List.takeWhile_append_dropWhile
  have ends : ∀ first ∈ (cursor.dropWhile Char.isDigit).head?, first.isDigit = false := by
    intro first listed
    have head := List.head?_dropWhile_not Char.isDigit cursor
    rw [listed] at head
    exact head
  have run := reading_run (fun _ => List.mem_takeWhile_imp) digits ends (by rwa [split])
  rwa [split, ← reading_dropWhile (cursor.dropWhile Char.isDigit)] at run

namespace Laid

variable {grammar : Grammar α} {base : Nat}

theorem items_taken (laid : Laid grammar base) (values : List (Value α)) (cursor : Text)
    (clear : cursor.dropWhile isSeparator = cursor) (trail : Trail) :
    Replies grammar .noProgress (.repetition ⟨base + 8⟩ values cursor) trail
      (.ok ⟨.list (values.reverse ++
        (reading cursor).1.map fun number => .int (Int64.ofNat number)), (reading cursor).2⟩)
      trail := by
  -- The blanks behind an item are taken with it, so each round begins where none stands.
  induction size : cursor.length using Nat.strong_induction_on generalizing values cursor with
  | _ size ih =>
      subst size
      by_cases refused : cursor.takeWhile Char.isDigit = [] ∨
          9223372036854775807 < numberAt cursor 0
      · obtain ⟨failure, item⟩ := laid.item_refused refused trail
        rw [reading_of_refused clear refused, List.map_nil, List.append_nil]
        exact .repeatFailure item
      · obtain ⟨digits, notGreat⟩ := not_or.mp refused
        have fits := Nat.le_of_not_lt notGreat
        have item := laid.item_taken digits fits trail
        have suffix : (cursor.dropWhile Char.isDigit).dropWhile isSeparator <:+
            cursor.dropWhile Char.isDigit := List.dropWhile_suffix _
        have shorter : ((cursor.dropWhile Char.isDigit).dropWhile isSeparator).length <
            cursor.length := by
          have split := congrArg List.length (List.takeWhile_append_dropWhile
            (p := Char.isDigit) (l := cursor))
          have positive := List.length_pos_of_ne_nil digits
          have bound := suffix.length_le
          rw [List.length_append] at split
          omega
        have progress := Guard.progress_of_length_lt
          (suffix.trans (List.dropWhile_suffix Char.isDigit)) shorter
        have next := ih _ shorter (.int (Int64.ofNat (numberAt cursor 0)) :: values) _
          (List.dropWhile_idempotent isSeparator _) rfl
        rw [List.reverse_cons, List.append_assoc] at next
        rw [reading_of_fits digits fits]
        exact .repeatNext item progress next

theorem parse_list (laid : Laid grammar base) (input : Text) (trail : Trail) :
    grammar.parse ⟨base + 11⟩ input trail =
      .ok (.ok ⟨.list ((reading input).1.map fun number => .int (Int64.ofNat number)),
        (reading input).2⟩, trail) := by
  have gap := laid.gap_taken input trail
  have items := Replies.repetition (laid 9 rfl)
    (laid.items_taken [] (input.dropWhile isSeparator) (List.dropWhile_idempotent isSeparator _)
      trail)
  rw [reading_dropWhile] at items
  have both := Replies.sequence (laid 10 rfl)
    (.sequenceNext gap (.sequenceNext items .sequenceEnd))
  have inside : Grammar.Among base 12 ⟨base + 11⟩ := ⟨Nat.le_add_right _ _, Nat.lt_succ_self _⟩
  have ended := Grammar.Ranked.parse_ne_outOfSteps laid.closed laid.ranked inside input trail
  exact (Replies.mapSuccess (laid 11 rfl) both).parse_eq ended

end Laid

theorem toInt_ofNat_of_mem {input : Text} {number : Nat}
    (listed : number ∈ numbersBefore input (extent input)) :
    (Int64.ofNat number).toInt = Int.ofNat number := by
  have bound := numbersBefore_le listed
  exact Int64.toInt_ofNat_of_lt (by omega)

/-- Added to any grammar, the list of integers is read up to the first position that integers
cannot be read past, and lists what the runs of digits before it denote. It accepts the whole
input exactly if there is no such position; otherwise the failure names the character there. -/
theorem integers_read_to_extent (initial : Grammar α) :
    ∃ list built, grammar initial = .ok (.ok list, built) ∧ ∀ input trail,
      ∃ integers : List Int64,
        integers.map Int64.toInt = (numbersBefore input (extent input)).map Int.ofNat ∧
        built.parse list input trail =
          .ok (.ok ⟨.list (integers.map .int), input.drop (extent input)⟩, trail) ∧
        (extent input = input.length →
          built.run list input trail = .ok (.ok ⟨.list (integers.map .int), []⟩, trail)) ∧
        (extent input ≠ input.length → ∃ found, input[extent input]? = some found ∧
          built.run list input trail = .ok (.error (.unexpected found), trail)) := by
  refine ⟨_, _, grammar_eq_extend initial, ?_⟩
  intro input trail
  have parsed := (laid_extend initial).parse_list input trail
  have values : (reading input).1.map (fun number => (.int (Int64.ofNat number) : Value α)) =
      ((numbersBefore input (extent input)).map Int64.ofNat).map .int := by
    rw [List.map_map]
    rfl
  rw [values] at parsed
  have ran := Grammar.run_eq_of_parse parsed
  refine ⟨(numbersBefore input (extent input)).map Int64.ofNat, ?_, parsed, ?_, ?_⟩
  · rw [List.map_map]
    exact List.map_congr_left fun number listed => toInt_ofNat_of_mem listed
  · intro whole
    have nothing : (reading input).2 = [] := by
      rw [reading, whole, List.drop_length]
    rw [nothing] at ran
    exact ran
  · intro partly
    have inside : extent input < input.length :=
      Nat.lt_of_le_of_ne (extent_le_length input) partly
    have stops : (reading input).2 = input[extent input] :: input.drop (extent input + 1) :=
      List.drop_eq_getElem_cons inside
    rw [stops] at ran
    exact ⟨input[extent input], List.getElem?_eq_getElem inside, ran⟩

end IntegerList

end GrammarArena
