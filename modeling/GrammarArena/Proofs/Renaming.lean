import GrammarArena.Proofs.Likeness

/-!
What a parser does depends on the nodes it can reach and on how they are tied together, and not on
where they lie. A grammar may hold the same rules in another order, behind others, or with one
parser in place of several that are alike: an evaluation has its like there.
-/

namespace GrammarArena

variable {α : Type}

def Node.rename (parsers : Parser → Parser) (slots : Slot → Slot) : Node α → Node α
  | .char expected => .char expected
  | .string expected => .string expected
  | .filter accepts => .filter accepts
  | .satisfy accepts => .satisfy accepts
  | .sequence children => .sequence (children.map parsers)
  | .branch children => .branch (children.map parsers)
  | .repetition inner => .repetition (parsers inner)
  | .map inner transform => .map (parsers inner) transform
  | .reference slot => .reference (slots slot)

@[simp] theorem Node.rename_id (node : Node α) : node.rename id id = node := by
  cases node <;> simp [Node.rename]

namespace Grammar

/-- What the parser can reach, the other grammar has under these names. Two parsers may go by one
name, and what is missing or unbound here may be anything there. -/
structure Renames (grammar other : Grammar α) (parsers : Parser → Parser) (slots : Slot → Slot)
    (parser : Parser) : Prop where
  lookup : ∀ {reached node}, grammar.Reaches parser reached → grammar.lookup reached = .ok node →
    other.lookup (parsers reached) = .ok (node.rename parsers slots)
  resolve : ∀ {reached slot target}, grammar.Reaches parser reached →
    grammar.lookup reached = .ok (.reference slot) → grammar.resolve slot = .ok (some target) →
    other.resolve (slots slot) = .ok (some (parsers target))

/-- The parser ends with a reply like this one, which left the trail `later`: the payloads of the
two correspond one to one and hold the same, and those below `known` correspond to themselves. -/
def EndsAlike (grammar : Grammar α) (guard : Guard) (known : Nat) (parser : Parser) (input : Text)
    (start : Trail) (reply : Reply α) (later : Trail) : Prop :=
  ∃ (paired : Pairing) (answer : Reply α) (finish : Trail),
    grammar.Ends guard parser input start answer finish ∧
    paired.Fits known later.nextSerial finish.nextSerial ∧ reply.Alike paired answer

variable {grammar other : Grammar α} {parsers : Parser → Parser} {slots : Slot → Slot}
  {parser : Parser}

theorem forall₂_renamed {children : List Parser}
    (reached : ∀ child ∈ children, grammar.Reaches parser child) :
    List.Forall₂ (fun first second => grammar.Reaches parser first ∧ second = parsers first)
      children (children.map parsers) := by
  rw [List.forall₂_map_right_iff, List.forall₂_same]
  intro child member
  exact ⟨reached child member, rfl⟩

theorem Renames.mirrors (renames : grammar.Renames other parsers slots parser) :
    grammar.Mirrors other fun first second =>
      grammar.Reaches parser first ∧ second = parsers first where
  char := by
    rintro first _ expected ⟨reached, rfl⟩ found
    exact renames.lookup reached found
  string := by
    rintro first _ expected ⟨reached, rfl⟩ found
    exact renames.lookup reached found
  filter := by
    rintro first _ accepts ⟨reached, rfl⟩ found
    exact renames.lookup reached found
  satisfy := by
    rintro first _ accepts ⟨reached, rfl⟩ found
    exact renames.lookup reached found
  sequence := by
    rintro first _ children ⟨reached, rfl⟩ found
    refine ⟨children.map parsers, renames.lookup reached found, forall₂_renamed ?_⟩
    intro child member
    exact reached.tail (.sequence found member)
  branch := by
    rintro first _ children ⟨reached, rfl⟩ found
    refine ⟨children.map parsers, renames.lookup reached found, forall₂_renamed ?_⟩
    intro child member
    exact reached.tail (.branch found member)
  repetition := by
    rintro first _ inner ⟨reached, rfl⟩ found
    exact ⟨parsers inner, renames.lookup reached found, reached.tail (.repetition found), rfl⟩
  map := by
    rintro first _ inner transform ⟨reached, rfl⟩ found
    exact ⟨parsers inner, renames.lookup reached found, reached.tail (.map found), rfl⟩
  reference := by
    rintro first _ slot target ⟨reached, rfl⟩ found resolved
    have targetReached := reached.tail (.reference found resolved)
    exact ⟨slots slot, parsers target, renames.lookup reached found,
      renames.resolve reached found resolved, targetReached, rfl⟩

end Grammar

theorem Mirrored.endsAlike {grammar : Grammar α} {guard : Guard} {known : Nat} {paired : Pairing}
    {parser : Parser} {input : Text} {start later : Trail} {reply : Reply α}
    (mirrored : Mirrored grammar guard known paired reply later (.attempt parser input) start) :
    grammar.EndsAlike guard known parser input start reply later := by
  obtain ⟨wider, answer, finish, _, run, fits, alike⟩ := mirrored
  exact ⟨wider, answer, finish, ends_iff_replies.mpr run, fits, alike⟩

theorem Grammar.Ends.endsAlike {grammar : Grammar α} {guard : Guard} {known : Nat} {parser : Parser}
    (pure : grammar.EachTransform parser (Transform.Pure known)) {input : Text}
    {trail later start : Trail} {reply : Reply α}
    (ended : grammar.Ends guard parser input trail reply later) (made : known ≤ trail.nextSerial)
    (madeAgain : known ≤ start.nextSerial) :
    grammar.EndsAlike guard known parser input start reply later :=
  ((ends_iff_replies.mp ended).again pure.closed (grammar.reaches_self parser) made
    madeAgain).endsAlike

theorem Replies.renamed {grammar other : Grammar α} {guard : Guard} {parsers : Parser → Parser}
    {slots : Slot → Slot} {parser : Parser}
    (renames : grammar.Renames other parsers slots parser) {known : Nat}
    (pure : grammar.EachTransform parser (Transform.Pure known)) {input : Text}
    {trail later start : Trail} {reply : Reply α}
    (run : Replies grammar guard (.attempt parser input) trail reply later)
    (made : known ≤ trail.nextSerial) (madeThere : known ≤ start.nextSerial) :
    Mirrored other guard known (.shared known) reply later (.attempt (parsers parser) input)
      start := by
  apply run.mirror renames.mirrors _ (Pairing.shared_fits made madeThere)
    (.attempt ⟨grammar.reaches_self parser, rfl⟩)
  rintro first _ inner transform ⟨reached, rfl⟩ found
  exact pure first inner transform reached found

/-- Order, numbering and sharing do not matter: if what a parser can reach lies in another grammar
under other names, then whenever the parser ends with a reply, it ends there with one like it. -/
theorem reply_of_renamed {grammar other : Grammar α} {parsers : Parser → Parser}
    {slots : Slot → Slot} {parser : Parser}
    (renames : grammar.Renames other parsers slots parser) {known : Nat}
    (pure : grammar.EachTransform parser (Transform.Pure known)) {input : Text}
    {trail later : Trail} {reply : Reply α}
    (ended : grammar.Ends .noProgress parser input trail reply later)
    (made : known ≤ trail.nextSerial) (start : Trail) (madeThere : known ≤ start.nextSerial) :
    other.EndsAlike .noProgress known (parsers parser) input start reply later := by
  have run := ends_iff_replies.mp ended
  have runThere := run.renamed renames pure made madeThere
  exact runThere.endsAlike

def commaDigits : Grammar Nat where
  nodes := #[.satisfy Char.isDigit, .map ⟨0⟩ digitPayload, .char ',', .satisfy Char.isDigit,
    .map ⟨3⟩ digitPayload, .reference ⟨0⟩, .sequence [⟨1⟩, ⟨2⟩, ⟨5⟩], .branch [⟨6⟩, ⟨4⟩]]
  slots := #[some ⟨7⟩]

/-- The same among other rules and from the top down, with one parser of a digit. -/
def sharedCommaDigits : Grammar Nat where
  nodes := #[.char '!', .branch [⟨3⟩, ⟨6⟩], .reference ⟨1⟩, .sequence [⟨6⟩, ⟨4⟩, ⟨2⟩], .char ',',
    .satisfy Char.isDigit, .map ⟨5⟩ digitPayload, .reference ⟨0⟩]
  slots := #[none, some ⟨1⟩]

def sharedName (parser : Parser) : Parser :=
  ⟨[5, 6, 4, 5, 6, 2, 3, 1].getD parser.index 0⟩

theorem commaDigits_renames :
    commaDigits.Renames sharedCommaDigits sharedName (fun slot => ⟨slot.index + 1⟩) ⟨7⟩ where
  lookup := by
    rintro ⟨index⟩ node _ found
    have inBounds : index < 8 := Grammar.index_lt_size_of_lookup found
    rcases index with _ | _ | _ | _ | _ | _ | _ | _ | index
    case succ.succ.succ.succ.succ.succ.succ.succ => omega
    all_goals
      cases found
      rfl
  resolve := by
    rintro _ ⟨index⟩ target _ _ bound
    cases index with
    | zero =>
        cases bound
        rfl
    | succ index => contradiction

theorem commaDigits_reply_of_renamed :
    commaDigits.Renames sharedCommaDigits sharedName (fun slot => ⟨slot.index + 1⟩) ⟨7⟩ ∧
    commaDigits.EachTransform ⟨7⟩ (Transform.Pure 0) ∧
    commaDigits.Ends .noProgress ⟨7⟩ ['4', ',', '2', ';'] {}
      (.ok ⟨.list [.custom 0 52, .char ',', .custom 2 50], [';']⟩) ⟨3, []⟩ ∧
    0 ≤ ({} : Trail).nextSerial ∧ 0 ≤ (⟨10, []⟩ : Trail).nextSerial ∧
    sharedCommaDigits.EndsAlike .noProgress 0 ⟨1⟩ ['4', ',', '2', ';'] ⟨10, []⟩
      (.ok ⟨.list [.custom 0 52, .char ',', .custom 2 50], [';']⟩) ⟨3, []⟩ := by
  have pure : commaDigits.EachTransform ⟨7⟩ (Transform.Pure 0) := by
    apply Grammar.EachTransform.of_transforms
    constructor
    · exact digitPayload_pure
    · exact digitPayload_pure
  have ended : commaDigits.Ends .noProgress ⟨7⟩ ['4', ',', '2', ';'] {}
      (.ok ⟨.list [.custom 0 52, .char ',', .custom 2 50], [';']⟩) ⟨3, []⟩ := ⟨12, rfl⟩
  have renamed := reply_of_renamed commaDigits_renames pure ended (Nat.zero_le _) ⟨10, []⟩
    (Nat.zero_le _)
  exact ⟨commaDigits_renames, pure, ended, Nat.zero_le _, Nat.zero_le _, renamed⟩

end GrammarArena
