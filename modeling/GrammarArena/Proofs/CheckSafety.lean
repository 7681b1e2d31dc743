import GrammarArena.Proofs.Reachability

/-!
A parser that passes the check never faults. The walk of the check ends with a set of parsers
that exist, whose slots are bound and which lead only to one another; an evaluation that begins
in the set does not leave it.
-/

namespace GrammarArena

variable {α : Type} {grammar : Grammar α}

namespace Grammar

def Seen (grammar : Grammar α) (unseen : List Parser) (parser : Parser) : Prop :=
  (∃ node, grammar.lookup parser = .ok node) ∧ parser ∉ unseen

/-- What the walk keeps: a parser it has looked at has its slot bound, if it refers to one, and
leads to parsers that were looked at or are on the stack. -/
structure Walked (grammar : Grammar α) (unseen stack : List Parser) : Prop where
  nodup : unseen.Nodup
  bound : ∀ {parser node}, grammar.lookup parser = .ok node → parser ∉ unseen →
    ∃ children, grammar.successors node = .ok (.ok children) ∧
      ∀ child ∈ children, child ∈ stack ∨ grammar.Seen unseen child

theorem mem_parsers {parser : Parser} {node : Node α} (found : grammar.lookup parser = .ok node) :
    parser ∈ grammar.parsers := by
  have inBounds := index_lt_size_of_lookup found
  exact List.mem_map.mpr ⟨parser.index, List.mem_range.mpr inBounds, rfl⟩

theorem parsers_nodup (grammar : Grammar α) : grammar.parsers.Nodup := by
  apply List.Pairwise.map _ _ List.nodup_range
  intro first second different same
  exact different (congrArg Parser.index same)

theorem Walked.start (grammar : Grammar α) (stack : List Parser) :
    grammar.Walked grammar.parsers stack where
  nodup := grammar.parsers_nodup
  bound := fun found looked => absurd (mem_parsers found) looked

theorem Walked.skip {unseen below : List Parser} {parser : Parser}
    (walked : grammar.Walked unseen (parser :: below)) (seen : grammar.Seen unseen parser) :
    grammar.Walked unseen below where
  nodup := walked.nodup
  bound := by
    intro other node found looked
    obtain ⟨children, leads, covered⟩ := walked.bound found looked
    refine ⟨children, leads, ?_⟩
    intro child member
    rcases covered child member with listed | seenChild
    · rcases List.mem_cons.mp listed with rfl | listed
      · exact Or.inr seen
      · exact Or.inl listed
    · exact Or.inr seenChild

theorem Seen.erase {unseen : List Parser} {parser : Parser} (seen : grammar.Seen unseen parser)
    (other : Parser) : grammar.Seen (unseen.erase other) parser :=
  ⟨seen.1, fun listed => seen.2 (List.mem_of_mem_erase listed)⟩

theorem Walked.visit {unseen below children : List Parser} {parser : Parser} {node : Node α}
    (walked : grammar.Walked unseen (parser :: below)) (found : grammar.lookup parser = .ok node)
    (leads : grammar.successors node = .ok (.ok children)) :
    grammar.Walked (unseen.erase parser) (children.reverse ++ below) where
  nodup := walked.nodup.erase parser
  bound := by
    intro other otherNode otherFound looked
    by_cases same : other = parser
    · subst same
      cases found.symm.trans otherFound
      refine ⟨children, leads, ?_⟩
      intro child member
      exact Or.inl (List.mem_append_left _ (List.mem_reverse.mpr member))
    · have lookedBefore : other ∉ unseen := fun listed =>
        looked ((List.mem_erase_of_ne same).mpr listed)
      obtain ⟨others, otherLeads, covered⟩ := walked.bound otherFound lookedBefore
      refine ⟨others, otherLeads, ?_⟩
      intro child member
      rcases covered child member with listed | seenChild
      · rcases List.mem_cons.mp listed with rfl | listed
        · exact Or.inr ⟨⟨node, found⟩, walked.nodup.not_mem_erase⟩
        · exact Or.inl (List.mem_append_right _ listed)
      · exact Or.inr (seenChild.erase parser)

theorem Walked.ends {unseen stack : List Parser} (walked : grammar.Walked unseen stack)
    (passed : grammar.checkFrom unseen stack = .ok (.ok ())) :
    ∃ left, left ⊆ unseen ∧ grammar.Walked left [] ∧
      ∀ parser ∈ stack, grammar.Seen left parser := by
  fun_induction checkFrom grammar unseen stack with
  | case1 unseen =>
      exact ⟨unseen, List.Subset.refl _, walked, fun _ member => absurd member List.not_mem_nil⟩
  | case2 | case3 | case4 => cases passed
  | case5 unseen parser below node found listed children leads ih =>
      obtain ⟨left, fewer, ended, covered⟩ := ih (walked.visit found leads) passed
      have erased := List.Subset.trans fewer List.erase_subset
      refine ⟨left, erased, ended, ?_⟩
      intro other member
      rcases List.mem_cons.mp member with rfl | member
      · exact ⟨⟨node, found⟩, fun kept => walked.nodup.not_mem_erase (fewer kept)⟩
      · exact covered other (List.mem_append_right _ member)
  | case6 unseen parser below node found looked ih =>
      have seen : grammar.Seen unseen parser := ⟨⟨node, found⟩, looked⟩
      obtain ⟨left, fewer, ended, covered⟩ := ih (walked.skip seen) passed
      refine ⟨left, fewer, ended, ?_⟩
      intro other member
      rcases List.mem_cons.mp member with rfl | member
      · exact ⟨seen.1, fun kept => looked (fewer kept)⟩
      · exact covered other member

/-- A set of parsers that exist, whose slots are bound, and that lead only to one another. -/
structure Sealed (grammar : Grammar α) (within : Parser → Prop) : Prop where
  found : ∀ {parser}, within parser → ∃ node, grammar.lookup parser = .ok node
  bound : ∀ {parser slot}, within parser → grammar.lookup parser = .ok (.reference slot) →
    ∃ target, grammar.resolve slot = .ok (some target)
  leads : ∀ {parser next}, within parser → grammar.Leads parser next → within next

theorem Walked.sealed {left : List Parser} (walked : grammar.Walked left []) :
    grammar.Sealed (grammar.Seen left) where
  found := fun seen => seen.1
  bound := by
    intro parser slot seen found
    obtain ⟨children, listed, _⟩ := walked.bound found seen.2
    obtain ⟨target, _, resolved⟩ := exists_target_of_successors listed
    exact ⟨target, resolved⟩
  leads := by
    intro parser next seen leads
    obtain ⟨node, found⟩ := seen.1
    obtain ⟨children, listed, covered⟩ := walked.bound found seen.2
    rcases covered next (leads.mem_successors found listed) with pending | seenNext
    · exact absurd pending List.not_mem_nil
    · exact seenNext

theorem check_sealed {parser : Parser} (passed : grammar.check parser = .ok (.ok ())) :
    ∃ within, grammar.Sealed within ∧ within parser := by
  obtain ⟨left, _, walked, covered⟩ := (Walked.start grammar [parser]).ends passed
  exact ⟨grammar.Seen left, walked.sealed, covered parser List.mem_cons_self⟩

theorem Sealed.exists_successors {within : Parser → Prop} (fenced : grammar.Sealed within)
    {parser : Parser} {node : Node α} (inside : within parser)
    (found : grammar.lookup parser = .ok node) :
    ∃ children, grammar.successors node = .ok (.ok children) ∧
      ∀ child ∈ children, within child := by
  cases node with
  | char | string | filter | satisfy => exact ⟨[], rfl, by simp⟩
  | sequence children =>
      exact ⟨children, rfl, fun child member => fenced.leads inside (.sequence found member)⟩
  | branch children =>
      exact ⟨children, rfl, fun child member => fenced.leads inside (.branch found member)⟩
  | repetition inner =>
      exact ⟨[inner], rfl, List.forall_mem_singleton.mpr (fenced.leads inside (.repetition found))⟩
  | map inner transform =>
      exact ⟨[inner], rfl, List.forall_mem_singleton.mpr (fenced.leads inside (.map found))⟩
  | reference slot =>
      obtain ⟨target, resolved⟩ := fenced.bound inside found
      refine ⟨[target], by rw [successors, resolved], List.forall_mem_singleton.mpr ?_⟩
      exact fenced.leads inside (.reference found resolved)

theorem Sealed.checkFrom_passes {within : Parser → Prop} (fenced : grammar.Sealed within)
    {unseen stack : List Parser} (inside : ∀ parser ∈ stack, within parser) :
    grammar.checkFrom unseen stack = .ok (.ok ()) := by
  fun_induction checkFrom grammar unseen stack with
  | case1 => rfl
  | case2 unseen parser below fault missing =>
      obtain ⟨node, found⟩ := fenced.found (inside parser List.mem_cons_self)
      cases found.symm.trans missing
  | case3 unseen parser below node found _ fault missing =>
      obtain ⟨children, leads, _⟩ :=
        fenced.exists_successors (inside parser List.mem_cons_self) found
      cases leads.symm.trans missing
  | case4 unseen parser below node found _ unbound refused =>
      obtain ⟨children, leads, _⟩ :=
        fenced.exists_successors (inside parser List.mem_cons_self) found
      cases leads.symm.trans refused
  | case5 unseen parser below node found _ children leads ih =>
      obtain ⟨others, again, insideOthers⟩ :=
        fenced.exists_successors (inside parser List.mem_cons_self) found
      cases again.symm.trans leads
      apply ih
      intro other member
      rcases List.mem_append.mp member with new | old
      · exact insideOthers other (List.mem_reverse.mp new)
      · exact inside other (List.mem_cons_of_mem _ old)
  | case6 unseen parser below node found _ ih =>
      exact ih fun other member => inside other (List.mem_cons_of_mem _ member)

theorem Sealed.check_passes {within : Parser → Prop} (fenced : grammar.Sealed within)
    {parser : Parser} (inside : within parser) : grammar.check parser = .ok (.ok ()) :=
  fenced.checkFrom_passes (List.forall_mem_singleton.mpr inside)

end Grammar

theorem Faults.not_within {guard : Guard} {within : Parser → Prop} {task : Task α} {trail : Trail}
    {fault : Fault} (run : Faults grammar guard task trail fault)
    (fenced : grammar.Sealed within) : ¬ task.Within within := by
  induction run with
  | missingParser missing =>
      intro inside
      obtain ⟨node, found⟩ := fenced.found inside
      cases found.symm.trans missing
  | missingSlot found missing =>
      intro inside
      obtain ⟨target, resolved⟩ := fenced.bound inside found
      cases resolved.symm.trans missing
  | unboundSlot found unbound =>
      intro inside
      obtain ⟨target, resolved⟩ := fenced.bound inside found
      cases resolved.symm.trans unbound
  | sequence found _ ih =>
      exact fun inside => ih fun _ member => fenced.leads inside (.sequence found member)
  | branch found _ ih =>
      exact fun inside => ih fun _ member => fenced.leads inside (.branch found member)
  | repetition found _ ih => exact fun inside => ih (fenced.leads inside (.repetition found))
  | map found _ ih => exact fun inside => ih (fenced.leads inside (.map found))
  | reference found resolved _ ih =>
      exact fun inside => ih (fenced.leads inside (.reference found resolved))
  | sequenceFirst _ ih | branchFirst _ ih =>
      exact fun inside => ih (inside _ List.mem_cons_self)
  | sequenceNext _ _ ih | branchNext _ _ ih =>
      exact fun inside => ih fun _ member => inside _ (List.mem_cons_of_mem _ member)
  | repeatFirst _ ih | repeatNext _ _ _ ih => exact ih

/-- However long it goes on, an evaluation of a parser that passed the check meets no fault, on
any input; so neither `parse` nor `run` does. -/
theorem check_faultless {parser : Parser} (passed : grammar.check parser = .ok (.ok ()))
    (input : Text) (trail : Trail) (fault : Fault) :
    (∀ guard steps, grammar.evaluate guard steps parser input trail ≠ .error (.fault fault)) ∧
    grammar.parse parser input trail ≠ .error (.fault fault) ∧
    grammar.run parser input trail ≠ .error (.fault fault) := by
  obtain ⟨within, fenced, inside⟩ := Grammar.check_sealed passed
  have safe : ∀ guard steps,
      grammar.evaluate guard steps parser input trail ≠ .error (.fault fault) := by
    intro guard steps faulty
    exact (Faults.of_evaluate faulty).not_within fenced inside
  have parseSafe := safe .noProgress (grammar.stepLimit input)
  refine ⟨safe, parseSafe, ?_⟩
  rw [Grammar.run, Evaluation.bind_apply, Grammar.parse]
  split
  · rename_i reason halted
    rw [halted] at parseSafe
    simpa using parseSafe
  · simp [Evaluation.pure_apply]

/-- A letter in parentheses, and a parser that begins with itself, beside one with a child and
slots that do not exist or are not bound. -/
def selfReferring : Grammar Nat where
  nodes := #[.branch [⟨1⟩, ⟨4⟩], .sequence [⟨2⟩, ⟨3⟩, ⟨5⟩], .char '(', .reference ⟨0⟩, .char 'a',
    .char ')', .branch [⟨7⟩, ⟨4⟩], .reference ⟨1⟩, .sequence [⟨11⟩, ⟨9⟩, ⟨10⟩], .reference ⟨3⟩,
    .reference ⟨2⟩]
  slots := #[some ⟨0⟩, some ⟨6⟩, none]

theorem selfReferring_faultless :
    selfReferring.run ⟨0⟩ ['(', '(', 'a', ')', ')'] {} =
      .ok (.ok ⟨.list [.char '(', .list [.char '(', .char 'a', .char ')'], .char ')'], []⟩, {}) ∧
    selfReferring.run ⟨0⟩ ['(', '(', 'a', ')'] {} = .ok (.error (.unexpected '('), {}) ∧
    ∀ parser ∈ [⟨0⟩, ⟨6⟩], selfReferring.check parser = .ok (.ok ()) ∧ ∀ input fault,
      (∀ guard steps, selfReferring.evaluate guard steps parser input {} ≠ .error (.fault fault)) ∧
      selfReferring.parse parser input {} ≠ .error (.fault fault) ∧
      selfReferring.run parser input {} ≠ .error (.fault fault) := by
  refine ⟨rfl, rfl, ?_⟩
  have passed : ∀ parser ∈ [⟨0⟩, ⟨6⟩], selfReferring.check parser = .ok (.ok ()) := by
    simp [Grammar.check, Grammar.parsers, Grammar.size, Grammar.checkFrom, Grammar.lookup,
      Grammar.successors, Grammar.resolve, selfReferring, List.range, List.range.loop]
  intro parser listed
  exact ⟨passed parser listed, fun input => check_faultless (passed parser listed) input {}⟩

end GrammarArena
