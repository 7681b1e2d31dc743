import GrammarArena.Proofs.Reachability
import Mathlib.Data.List.Forall2

/-!
Evaluations that differ only in which serial numbers their payloads have. A pairing says which
payload of the one stands for which payload of the other; a transform is pure when it turns paired
arguments into paired results, so that it can look at what payloads hold and at which of them are
the same, and make new ones, but nothing else. `Replies.mirror` carries an evaluation over to any
grammar that has the same nodes.
-/

namespace GrammarArena

variable {α : Type}

abbrev Pairing := Nat → Nat → Prop

namespace Pairing

/-- Payloads below `known` stand for themselves, all others for at most one of those that were
made so far. -/
structure Fits (paired : Pairing) (known first second : Nat) : Prop where
  keeps : ∀ serial < known, paired serial serial
  bounded : ∀ {left right}, paired left right → left < first ∧ right < second
  injective : ∀ {left right other mate}, paired left right → paired other mate →
    (left = other ↔ right = mate)

def all : Pairing :=
  fun _ _ => True

theorem Fits.weaken {paired : Pairing} {known more first second : Nat}
    (fits : paired.Fits more first second) (le : known ≤ more) :
    paired.Fits known first second where
  keeps := fun serial below => fits.keeps serial (by omega)
  bounded := fits.bounded
  injective := fits.injective

def shared (known : Nat) : Pairing :=
  fun left right => left = right ∧ left < known

theorem shared_fits {known first second : Nat} (knownFirst : known ≤ first)
    (knownSecond : known ≤ second) : (shared known).Fits known first second where
  keeps := fun _ below => ⟨rfl, below⟩
  bounded := by
    rintro left right ⟨rfl, below⟩
    exact ⟨by omega, by omega⟩
  injective := by
    rintro left right other mate ⟨rfl, _⟩ ⟨rfl, _⟩
    rfl

def extend (paired : Pairing) (first second : Nat) : Pairing :=
  fun left right => paired left right ∨ left = first ∧ right = second

theorem Fits.extend {paired : Pairing} {known first second : Nat}
    (fits : paired.Fits known first second) :
    (paired.extend first second).Fits known (first + 1) (second + 1) where
  keeps := fun serial below => Or.inl (fits.keeps serial below)
  bounded := by
    rintro left right (pair | ⟨rfl, rfl⟩)
    · have bound := fits.bounded pair
      exact ⟨by omega, by omega⟩
    · exact ⟨by omega, by omega⟩
  injective := by
    rintro left right other mate (pair | ⟨rfl, rfl⟩) (again | ⟨rfl, rfl⟩)
    · exact fits.injective pair again
    · have bound := fits.bounded pair
      exact ⟨fun same => by omega, fun same => by omega⟩
    · have bound := fits.bounded again
      exact ⟨fun same => by omega, fun same => by omega⟩
    · exact ⟨fun _ => rfl, fun _ => rfl⟩

theorem Fits.known_le {paired : Pairing} {known first second : Nat}
    (fits : paired.Fits known first second) : known ≤ first ∧ known ≤ second := by
  cases known with
  | zero => exact ⟨Nat.zero_le _, Nat.zero_le _⟩
  | succ known => exact fits.bounded (fits.keeps known (Nat.lt_succ_self known))

end Pairing

namespace Value

mutual

/-- The same value, but that paired payloads count as the same. -/
def Alike (paired : Pairing) : Value α → Value α → Prop
  | .char first, .char second => first = second
  | .text first, .text second => first = second
  | .list first, .list second => AlikeAll paired first second
  | .int first, .int second => first = second
  | .custom first content, .custom second other => paired first second ∧ content = other
  | _, _ => False

def AlikeAll (paired : Pairing) : List (Value α) → List (Value α) → Prop
  | [], [] => True
  | first :: firsts, second :: seconds => Alike paired first second ∧ AlikeAll paired firsts seconds
  | _, _ => False

end

theorem alikeAll_iff {paired : Pairing} {firsts seconds : List (Value α)} :
    AlikeAll paired firsts seconds ↔ List.Forall₂ (Alike paired) firsts seconds := by
  induction firsts generalizing seconds with
  | nil => cases seconds <;> simp [AlikeAll]
  | cons first firsts ih => cases seconds <;> simp [AlikeAll, ih]

theorem AlikeAll.nil {paired : Pairing} : AlikeAll paired ([] : List (Value α)) [] :=
  trivial

theorem AlikeAll.cons {paired : Pairing} {first second : Value α} {firsts seconds : List (Value α)}
    (alike : Alike paired first second) (alikeAll : AlikeAll paired firsts seconds) :
    AlikeAll paired (first :: firsts) (second :: seconds) :=
  ⟨alike, alikeAll⟩

theorem AlikeAll.reverse {paired : Pairing} {firsts seconds : List (Value α)}
    (alike : AlikeAll paired firsts seconds) :
    AlikeAll paired firsts.reverse seconds.reverse := by
  rw [alikeAll_iff] at alike ⊢
  exact List.rel_reverse alike

mutual

theorem Alike.mono {paired wider : Pairing}
    (le : ∀ left right, paired left right → wider left right) :
    ∀ {first second : Value α}, Alike paired first second → Alike wider first second
  | .char _, .char _, alike => alike
  | .text _, .text _, alike => alike
  | .list _, .list _, alike => AlikeAll.mono le alike
  | .int _, .int _, alike => alike
  | .custom _ _, .custom _ _, alike => ⟨le _ _ alike.1, alike.2⟩

theorem AlikeAll.mono {paired wider : Pairing}
    (le : ∀ left right, paired left right → wider left right) :
    ∀ {firsts seconds : List (Value α)}, AlikeAll paired firsts seconds →
      AlikeAll wider firsts seconds
  | [], [], _ => trivial
  | _ :: _, _ :: _, alike => ⟨Alike.mono le alike.1, AlikeAll.mono le alike.2⟩

end

theorem Alike.char? {paired : Pairing} {first second : Value α}
    (alike : Alike paired first second) :
    first.char? = second.char? := by
  cases first <;> cases second <;> simp_all [Alike, Value.char?]

end Value

def Reply.Alike (paired : Pairing) : Reply α → Reply α → Prop
  | .ok first, .ok second => first.value.Alike paired second.value ∧ first.rest = second.rest
  | .error first, .error second => first = second
  | _, _ => False

theorem Reply.Alike.mono {paired wider : Pairing}
    (le : ∀ left right, paired left right → wider left right) {first second : Reply α}
    (alike : first.Alike paired second) : first.Alike wider second := by
  cases first <;> cases second
  case ok.ok => exact ⟨alike.1.mono le, alike.2⟩
  case error.error => exact alike
  all_goals contradiction

namespace Primitive

theorem matchOne_alike (paired : Pairing) (accepts : Char → Bool) (cursor : Text) :
    Reply.Alike paired (matchOne accepts cursor : Reply α) (matchOne accepts cursor) := by
  cases cursor with
  | nil => rfl
  | cons found rest =>
      simp only [matchOne]
      split
      · exact ⟨rfl, rfl⟩
      · rfl

theorem matchText_alike (paired : Pairing) (expected cursor : Text) :
    Reply.Alike paired (matchText expected cursor : Reply α) (matchText expected cursor) := by
  simp only [matchText]
  split
  · rfl
  · split
    · rfl
    · exact ⟨rfl, rfl⟩

end Primitive

/-- What the transform gives depends on nothing but what it is given, except that new payloads
may have any new serial numbers. Payloads below `known` are those it may have kept from before. -/
def Transform.Pure (known : Nat) (transform : Transform α) : Prop :=
  ∀ (paired : Pairing) (first second : Success α) (next other : Nat),
    paired.Fits known next other → Reply.Alike paired (.ok first) (.ok second) →
    ∃ wider : Pairing, (∀ left right, paired left right → wider left right) ∧
      wider.Fits known (transform first next).2 (transform second other).2 ∧
      Reply.Alike wider (transform first next).1 (transform second other).1

theorem Transform.Pure.mono {transform : Transform α} {known more : Nat}
    (pure : transform.Pure known) (le : known ≤ more) : transform.Pure more := by
  intro paired first second next other fits alike
  obtain ⟨wider, extends_, fitsLater, alikeLater⟩ :=
    pure paired first second next other (fits.weaken le) alike
  refine ⟨wider, extends_, ?_, alikeLater⟩
  constructor
  · exact fun serial below => extends_ _ _ (fits.keeps serial below)
  · exact fitsLater.bounded
  · exact fitsLater.injective

def digitPayload : Transform Nat := fun success => do
  let payload ← Value.fresh (success.value.char?.elim 0 Char.toNat)
  return .ok (success.withValue payload)

theorem digitPayload_pure : Transform.Pure 0 digitPayload := by
  intro paired first second next other fits alike
  refine ⟨paired.extend next other, fun _ _ pair => Or.inl pair, fits.extend, ?_⟩
  exact ⟨⟨Or.inr ⟨rfl, rfl⟩, by rw [alike.1.char?]⟩, alike.2⟩

/-- Related parsers have the same nodes up to related children. -/
structure Grammar.Mirrors (grammar other : Grammar α) (related : Parser → Parser → Prop) :
    Prop where
  char : ∀ {parser mate expected}, related parser mate →
    grammar.lookup parser = .ok (.char expected) → other.lookup mate = .ok (.char expected)
  string : ∀ {parser mate expected}, related parser mate →
    grammar.lookup parser = .ok (.string expected) → other.lookup mate = .ok (.string expected)
  filter : ∀ {parser mate accepts}, related parser mate →
    grammar.lookup parser = .ok (.filter accepts) → other.lookup mate = .ok (.filter accepts)
  satisfy : ∀ {parser mate accepts}, related parser mate →
    grammar.lookup parser = .ok (.satisfy accepts) → other.lookup mate = .ok (.satisfy accepts)
  sequence : ∀ {parser mate children}, related parser mate →
    grammar.lookup parser = .ok (.sequence children) →
    ∃ mates, other.lookup mate = .ok (.sequence mates) ∧ List.Forall₂ related children mates
  branch : ∀ {parser mate children}, related parser mate →
    grammar.lookup parser = .ok (.branch children) →
    ∃ mates, other.lookup mate = .ok (.branch mates) ∧ List.Forall₂ related children mates
  repetition : ∀ {parser mate inner}, related parser mate →
    grammar.lookup parser = .ok (.repetition inner) →
    ∃ item, other.lookup mate = .ok (.repetition item) ∧ related inner item
  map : ∀ {parser mate inner transform}, related parser mate →
    grammar.lookup parser = .ok (.map inner transform) →
    ∃ item, other.lookup mate = .ok (.map item transform) ∧ related inner item
  reference : ∀ {parser mate slot target}, related parser mate →
    grammar.lookup parser = .ok (.reference slot) → grammar.resolve slot = .ok (some target) →
    ∃ entry goal, other.lookup mate = .ok (.reference entry) ∧
      other.resolve entry = .ok (some goal) ∧ related target goal

inductive Task.Alike (related : Parser → Parser → Prop) (paired : Pairing) :
    Task α → Task α → Prop
  | attempt {parser mate cursor} : related parser mate →
      Task.Alike related paired (.attempt parser cursor) (.attempt mate cursor)
  | sequence {values others cursor children mates} : Value.AlikeAll paired values others →
      List.Forall₂ related children mates →
      Task.Alike related paired (.sequence values cursor children) (.sequence others cursor mates)
  | branch {last cursor children mates} : List.Forall₂ related children mates →
      Task.Alike related paired (.branch last cursor children) (.branch last cursor mates)
  | repetition {inner item values others cursor} : related inner item →
      Value.AlikeAll paired values others →
      Task.Alike related paired (.repetition inner values cursor) (.repetition item others cursor)

def Mirrored (other : Grammar α) (guard : Guard) (known : Nat) (paired : Pairing)
    (reply : Reply α) (later : Trail) (mate : Task α) (start : Trail) : Prop :=
  ∃ (wider : Pairing) (answer : Reply α) (finish : Trail),
    (∀ left right, paired left right → wider left right) ∧
    Replies other guard mate start answer finish ∧
    wider.Fits known later.nextSerial finish.nextSerial ∧ reply.Alike wider answer

theorem Mirrored.imp {other : Grammar α} {guard : Guard} {known : Nat} {paired between : Pairing}
    {reply : Reply α} {later : Trail} {mate next : Task α} {start middle : Trail}
    (le : ∀ left right, paired left right → between left right)
    (replies : ∀ answer finish, Replies other guard next middle answer finish →
      Replies other guard mate start answer finish)
    (mirrored : Mirrored other guard known between reply later next middle) :
    Mirrored other guard known paired reply later mate start := by
  obtain ⟨wider, answer, finish, extends_, run, fits, alike⟩ := mirrored
  exact ⟨wider, answer, finish, fun _ _ pair => extends_ _ _ (le _ _ pair),
    replies _ _ run, fits, alike⟩

theorem Mirrored.failure {other : Grammar α} {guard : Guard} {known : Nat} {paired : Pairing}
    {failure : Failure} {later : Trail} {mate : Task α} {start : Trail}
    (mirrored : Mirrored other guard known paired (.error failure) later mate start) :
    ∃ (wider : Pairing) (finish : Trail), (∀ left right, paired left right → wider left right) ∧
      Replies other guard mate start (.error failure) finish ∧
      wider.Fits known later.nextSerial finish.nextSerial := by
  obtain ⟨wider, answer, finish, extends_, run, fits, alike⟩ := mirrored
  cases answer with
  | ok _ => exact alike.elim
  | error _ =>
      cases alike
      exact ⟨wider, finish, extends_, run, fits⟩

theorem Mirrored.success {other : Grammar α} {guard : Guard} {known : Nat} {paired : Pairing}
    {success : Success α} {later : Trail} {mate : Task α} {start : Trail}
    (mirrored : Mirrored other guard known paired (.ok success) later mate start) :
    ∃ (wider : Pairing) (value : Value α) (finish : Trail),
      (∀ left right, paired left right → wider left right) ∧
      Replies other guard mate start (.ok ⟨value, success.rest⟩) finish ∧
      wider.Fits known later.nextSerial finish.nextSerial ∧ success.value.Alike wider value := by
  obtain ⟨wider, answer, finish, extends_, run, fits, alike⟩ := mirrored
  cases answer with
  | error _ => exact alike.elim
  | ok answer =>
      obtain ⟨value, rest⟩ := answer
      obtain ⟨alikeValue, rfl⟩ := alike
      exact ⟨wider, value, finish, extends_, run, fits, alikeValue⟩

section Mirror

variable {grammar other : Grammar α} {guard : Guard} {related : Parser → Parser → Prop}
  {known : Nat}

/-- An evaluation whose transforms are pure has its like in every grammar that mirrors the
nodes, whatever the next serial number is there. -/
theorem Replies.mirror (mirrors : grammar.Mirrors other related)
    (pure : ∀ {parser mate inner transform}, related parser mate →
      grammar.lookup parser = .ok (.map inner transform) → transform.Pure known)
    {task : Task α} {trail later : Trail} {reply : Reply α}
    (run : Replies grammar guard task trail reply later) {paired : Pairing} {mate : Task α}
    {start : Trail} (fits : paired.Fits known trail.nextSerial start.nextSerial)
    (alike : task.Alike related paired mate) :
    Mirrored other guard known paired reply later mate start := by
  induction run generalizing paired mate start with
  | char found =>
      obtain ⟨same⟩ := alike
      exact ⟨paired, _, start, fun _ _ pair => pair, .char (mirrors.char same found), fits,
        Primitive.matchOne_alike _ _ _⟩
  | string found =>
      obtain ⟨same⟩ := alike
      exact ⟨paired, _, start, fun _ _ pair => pair, .string (mirrors.string same found), fits,
        Primitive.matchText_alike _ _ _⟩
  | filter found =>
      obtain ⟨same⟩ := alike
      exact ⟨paired, _, start, fun _ _ pair => pair, .filter (mirrors.filter same found), fits,
        ⟨rfl, rfl⟩⟩
  | satisfy found =>
      obtain ⟨same⟩ := alike
      exact ⟨paired, _, start, fun _ _ pair => pair, .satisfy (mirrors.satisfy same found), fits,
        Primitive.matchOne_alike _ _ _⟩
  | sequence found _ ih =>
      obtain ⟨same⟩ := alike
      obtain ⟨mates, foundMate, children⟩ := mirrors.sequence same found
      exact (ih fits (.sequence .nil children)).imp (fun _ _ pair => pair)
        fun _ _ => .sequence foundMate
  | branch found _ ih =>
      obtain ⟨same⟩ := alike
      obtain ⟨mates, foundMate, children⟩ := mirrors.branch same found
      exact (ih fits (.branch children)).imp (fun _ _ pair => pair) fun _ _ => .branch foundMate
  | repetition found _ ih =>
      obtain ⟨same⟩ := alike
      obtain ⟨item, foundMate, inner⟩ := mirrors.repetition same found
      exact (ih fits (.repetition inner .nil)).imp (fun _ _ pair => pair)
        fun _ _ => .repetition foundMate
  | mapFailure found _ ih =>
      obtain ⟨same⟩ := alike
      obtain ⟨item, foundMate, inner⟩ := mirrors.map same found
      obtain ⟨wider, finish, extends_, run, fitsLater⟩ := (ih fits (.attempt inner)).failure
      exact ⟨wider, _, finish, extends_, .mapFailure foundMate run, fitsLater, rfl⟩
  | mapSuccess found _ ih =>
      obtain ⟨same⟩ := alike
      obtain ⟨item, foundMate, inner⟩ := mirrors.map same found
      obtain ⟨wider, value, finish, extends_, run, fitsLater, alikeValue⟩ :=
        (ih fits (.attempt inner)).success
      obtain ⟨widest, extendsAgain, fitsMade, alikeMade⟩ :=
        pure same found wider _ ⟨value, _⟩ _ _ fitsLater ⟨alikeValue, rfl⟩
      exact ⟨widest, _, _, fun _ _ pair => extendsAgain _ _ (extends_ _ _ pair),
        .mapSuccess foundMate run, fitsMade, alikeMade⟩
  | reference found resolved _ ih =>
      obtain ⟨same⟩ := alike
      obtain ⟨entry, goal, foundMate, resolvedMate, target⟩ := mirrors.reference same found resolved
      exact (ih fits (.attempt target)).imp (fun _ _ pair => pair)
        fun _ _ => .reference foundMate resolvedMate
  | sequenceEnd =>
      cases alike with
      | sequence values children =>
          cases children
          exact ⟨paired, _, start, fun _ _ pair => pair, .sequenceEnd, fits, values.reverse, rfl⟩
  | sequenceFailure _ ih =>
      cases alike with
      | sequence _ children =>
          obtain _ | ⟨child, _⟩ := children
          obtain ⟨wider, finish, extends_, run, fitsLater⟩ := (ih fits (.attempt child)).failure
          exact ⟨wider, _, finish, extends_, .sequenceFailure run, fitsLater, rfl⟩
  | sequenceNext _ _ ihFirst ihNext =>
      cases alike with
      | sequence values children =>
          obtain _ | ⟨child, children⟩ := children
          obtain ⟨wider, value, finish, extends_, run, fitsLater, alikeValue⟩ :=
            (ihFirst fits (.attempt child)).success
          have next := ihNext fitsLater
            (.sequence (.cons alikeValue (values.mono extends_)) children)
          exact next.imp extends_ fun _ _ => .sequenceNext run
  | branchEnd =>
      cases alike with
      | branch children =>
          cases children
          exact ⟨paired, _, start, fun _ _ pair => pair, .branchEnd, fits, rfl⟩
  | branchSuccess _ ih =>
      cases alike with
      | branch children =>
          obtain _ | ⟨child, _⟩ := children
          obtain ⟨wider, value, finish, extends_, run, fitsLater, alikeValue⟩ :=
            (ih fits (.attempt child)).success
          exact ⟨wider, _, finish, extends_, .branchSuccess run, fitsLater, alikeValue, rfl⟩
  | branchNext _ _ ihFirst ihNext =>
      cases alike with
      | branch children =>
          obtain _ | ⟨child, children⟩ := children
          obtain ⟨wider, finish, extends_, run, fitsLater⟩ :=
            (ihFirst fits (.attempt child)).failure
          exact (ihNext fitsLater (.branch children)).imp extends_ fun _ _ => .branchNext run
  | repeatFailure _ ih =>
      cases alike with
      | repetition inner values =>
          obtain ⟨wider, finish, extends_, run, fitsLater⟩ := (ih fits (.attempt inner)).failure
          exact ⟨wider, _, finish, extends_, .repeatFailure run, fitsLater,
            (values.mono extends_).reverse, rfl⟩
  | repeatStall _ stops ih =>
      cases alike with
      | repetition inner values =>
          obtain ⟨wider, value, finish, extends_, run, fitsLater, _⟩ :=
            (ih fits (.attempt inner)).success
          exact ⟨wider, _, _, extends_, .repeatStall run stops, fitsLater,
            (values.mono extends_).reverse, rfl⟩
  | repeatNext _ goesOn _ ihFirst ihNext =>
      cases alike with
      | repetition inner values =>
          obtain ⟨wider, value, finish, extends_, run, fitsLater, alikeValue⟩ :=
            (ihFirst fits (.attempt inner)).success
          have next := ihNext fitsLater
            (.repetition inner (.cons alikeValue (values.mono extends_)))
          exact next.imp extends_ fun _ _ => .repeatNext run goesOn

end Mirror

section Again

variable {grammar : Grammar α} {guard : Guard} {within : Parser → Prop} {known : Nat}

theorem Grammar.Closed.mirrors {property : Transform α → Prop}
    (closed : grammar.Closed within property) :
    grammar.Mirrors grammar fun parser mate => parser = mate ∧ within parser where
  char := by
    rintro parser _ expected ⟨rfl, _⟩ found
    exact found
  string := by
    rintro parser _ expected ⟨rfl, _⟩ found
    exact found
  filter := by
    rintro parser _ accepts ⟨rfl, _⟩ found
    exact found
  satisfy := by
    rintro parser _ accepts ⟨rfl, _⟩ found
    exact found
  sequence := by
    rintro parser _ children ⟨rfl, inside⟩ found
    refine ⟨children, found, List.forall₂_same.mpr ?_⟩
    exact fun child member => ⟨rfl, closed.leads inside (.sequence found member)⟩
  branch := by
    rintro parser _ children ⟨rfl, inside⟩ found
    refine ⟨children, found, List.forall₂_same.mpr ?_⟩
    exact fun child member => ⟨rfl, closed.leads inside (.branch found member)⟩
  repetition := by
    rintro parser _ inner ⟨rfl, inside⟩ found
    exact ⟨inner, found, rfl, closed.leads inside (.repetition found)⟩
  map := by
    rintro parser _ inner transform ⟨rfl, inside⟩ found
    exact ⟨inner, found, rfl, closed.leads inside (.map found)⟩
  reference := by
    rintro parser _ slot target ⟨rfl, inside⟩ found resolved
    exact ⟨slot, target, found, resolved, rfl, closed.leads inside (.reference found resolved)⟩

theorem Replies.mirror_self (closed : grammar.Closed within (Transform.Pure known))
    {task mate : Task α} {trail later start : Trail} {reply : Reply α}
    (run : Replies grammar guard task trail reply later) {paired : Pairing}
    (fits : paired.Fits known trail.nextSerial start.nextSerial)
    (alike : task.Alike (fun parser mate => parser = mate ∧ within parser) paired mate) :
    Mirrored grammar guard known paired reply later mate start := by
  apply run.mirror closed.mirrors _ fits alike
  rintro parser _ inner transform ⟨rfl, inside⟩ found
  exact closed.transforms inside found

theorem Replies.again (closed : grammar.Closed within (Transform.Pure known)) {parser : Parser}
    (inside : within parser) {cursor : Text} {trail later start : Trail} {reply : Reply α}
    (run : Replies grammar guard (.attempt parser cursor) trail reply later)
    (made : known ≤ trail.nextSerial) (madeAgain : known ≤ start.nextSerial) :
    Mirrored grammar guard known (.shared known) reply later (.attempt parser cursor) start :=
  run.mirror_self closed (Pairing.shared_fits made madeAgain) (.attempt ⟨rfl, inside⟩)

theorem Faults.mirror_self (closed : grammar.Closed within (Transform.Pure known))
    {task mate : Task α} {trail start : Trail} {fault : Fault}
    (faulty : Faults grammar guard task trail fault) {paired : Pairing}
    (fits : paired.Fits known trail.nextSerial start.nextSerial)
    (alike : task.Alike (fun parser mate => parser = mate ∧ within parser) paired mate) :
    Faults grammar guard mate start fault := by
  have mirrors := closed.mirrors
  induction faulty generalizing paired mate start with
  | missingParser missing =>
      obtain ⟨rfl, _⟩ := alike
      exact .missingParser missing
  | missingSlot found missing =>
      obtain ⟨rfl, _⟩ := alike
      exact .missingSlot found missing
  | unboundSlot found unbound =>
      obtain ⟨rfl, _⟩ := alike
      exact .unboundSlot found unbound
  | sequence found _ ih =>
      obtain ⟨same⟩ := alike
      obtain ⟨mates, foundMate, children⟩ := mirrors.sequence same found
      exact .sequence foundMate (ih fits (.sequence .nil children))
  | branch found _ ih =>
      obtain ⟨same⟩ := alike
      obtain ⟨mates, foundMate, children⟩ := mirrors.branch same found
      exact .branch foundMate (ih fits (.branch children))
  | repetition found _ ih =>
      obtain ⟨same⟩ := alike
      obtain ⟨item, foundMate, inner⟩ := mirrors.repetition same found
      exact .repetition foundMate (ih fits (.repetition inner .nil))
  | map found _ ih =>
      obtain ⟨same⟩ := alike
      obtain ⟨item, foundMate, inner⟩ := mirrors.map same found
      exact .map foundMate (ih fits (.attempt inner))
  | reference found resolved _ ih =>
      obtain ⟨same⟩ := alike
      obtain ⟨_, _, foundMate, resolvedMate, target⟩ := mirrors.reference same found resolved
      exact .reference foundMate resolvedMate (ih fits (.attempt target))
  | sequenceFirst _ ih =>
      cases alike with
      | sequence _ children =>
          obtain _ | ⟨child, _⟩ := children
          exact .sequenceFirst (ih fits (.attempt child))
  | sequenceNext first _ ih =>
      cases alike with
      | sequence values children =>
          obtain _ | ⟨child, children⟩ := children
          obtain ⟨_, _, _, extends_, run, fitsLater, alikeValue⟩ :=
            (first.mirror_self closed fits (.attempt child)).success
          exact .sequenceNext run
            (ih fitsLater (.sequence (.cons alikeValue (values.mono extends_)) children))
  | branchFirst _ ih =>
      cases alike with
      | branch children =>
          obtain _ | ⟨child, _⟩ := children
          exact .branchFirst (ih fits (.attempt child))
  | branchNext first _ ih =>
      cases alike with
      | branch children =>
          obtain _ | ⟨child, children⟩ := children
          obtain ⟨_, _, _, run, fitsLater⟩ :=
            (first.mirror_self closed fits (.attempt child)).failure
          exact .branchNext run (ih fitsLater (.branch children))
  | repeatFirst _ ih =>
      cases alike with
      | repetition inner _ => exact .repeatFirst (ih fits (.attempt inner))
  | repeatNext first goesOn _ ih =>
      cases alike with
      | repetition inner values =>
          obtain ⟨_, _, _, extends_, run, fitsLater, alikeValue⟩ :=
            (first.mirror_self closed fits (.attempt inner)).success
          exact .repeatNext run goesOn
            (ih fitsLater (.repetition inner (.cons alikeValue (values.mono extends_))))

theorem Faults.again (closed : grammar.Closed within (Transform.Pure known)) {parser : Parser}
    (inside : within parser) {cursor : Text} {trail start : Trail} {fault : Fault}
    (faulty : Faults grammar guard (.attempt parser cursor) trail fault)
    (made : known ≤ trail.nextSerial) (madeAgain : known ≤ start.nextSerial) :
    Faults grammar guard (.attempt parser cursor) start fault :=
  faulty.mirror_self closed (Pairing.shared_fits made madeAgain) (.attempt ⟨rfl, inside⟩)

theorem Replies.known_le (closed : grammar.Closed within (Transform.Pure known)) {parser : Parser}
    (inside : within parser) {cursor : Text} {trail later : Trail} {reply : Reply α}
    (run : Replies grammar guard (.attempt parser cursor) trail reply later)
    (made : known ≤ trail.nextSerial) : known ≤ later.nextSerial := by
  obtain ⟨_, _, _, _, _, fits, _⟩ := run.again closed inside made made
  exact fits.known_le.1

theorem Grammar.Ends.known_le {parser : Parser}
    (pure : grammar.EachTransform parser (Transform.Pure known)) {input : Text}
    {trail later : Trail} {reply : Reply α}
    (ended : grammar.Ends guard parser input trail reply later) (made : known ≤ trail.nextSerial) :
    known ≤ later.nextSerial :=
  (ends_iff_replies.mp ended).known_le pure.closed (grammar.reaches_self parser) made

theorem Grammar.Ends.success_again {parser : Parser}
    (pure : grammar.EachTransform parser (Transform.Pure known)) {input : Text}
    {trail later start : Trail} {success : Success α}
    (ended : grammar.Ends guard parser input trail (.ok success) later)
    (made : known ≤ trail.nextSerial) (madeAgain : known ≤ start.nextSerial) :
    ∃ value after, grammar.Ends guard parser input start (.ok ⟨value, success.rest⟩) after ∧
      success.value.Alike .all value := by
  have run := ends_iff_replies.mp ended
  obtain ⟨_, value, after, _, again, _, alike⟩ :=
    (run.again pure.closed (grammar.reaches_self parser) made madeAgain).success
  exact ⟨value, after, ends_iff_replies.mpr again, alike.mono fun _ _ _ => trivial⟩

theorem Grammar.Ends.failure_again {parser : Parser}
    (pure : grammar.EachTransform parser (Transform.Pure known)) {input : Text}
    {trail later start : Trail} {failure : Failure}
    (ended : grammar.Ends guard parser input trail (.error failure) later)
    (made : known ≤ trail.nextSerial) (madeAgain : known ≤ start.nextSerial) :
    ∃ after, grammar.Ends guard parser input start (.error failure) after := by
  have run := ends_iff_replies.mp ended
  obtain ⟨_, after, _, again, _⟩ :=
    (run.again pure.closed (grammar.reaches_self parser) made madeAgain).failure
  exact ⟨after, ends_iff_replies.mpr again⟩

end Again

end GrammarArena
