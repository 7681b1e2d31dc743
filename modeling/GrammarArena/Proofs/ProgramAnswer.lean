import GrammarArena.CommandLine.Response
import GrammarArena.Proofs.Composition
import Mathlib.Data.List.DropRight

/-!
The program from a request to its answer: a known grammar is run on the text that the request
selects, less the line breaks at its end, and the answer shows the reply. Where the text comes
from is of no importance, and neither is anything but the name where the grammar is not known.
-/

namespace GrammarArena.CommandLine

def IsLineBreak (char : Char) : Prop :=
  char = '\n' ∨ char = '\r'

instance : DecidablePred IsLineBreak :=
  fun _ => inferInstanceAs (Decidable (_ ∨ _))

theorem trimmed_eq_rdropWhile (text : Text) :
    trimmed text = text.rdropWhile fun char => IsLineBreak char := by
  have same : (fun char => decide (IsLineBreak char)) =
      fun char => decide (char = '\n') || decide (char = '\r') :=
    funext fun _ => Bool.decide_or ..
  rw [same]
  rfl

/-- All that stands in front of the line breaks at the end of the text. -/
structure Kept (text kept : Text) : Prop where
  breaks : ∃ breaks, text = kept ++ breaks ∧ ∀ char ∈ breaks, IsLineBreak char
  last : ∀ char, kept.getLast? = some char → ¬ IsLineBreak char

theorem kept_trimmed (text : Text) : Kept text (trimmed text) := by
  rw [trimmed_eq_rdropWhile]
  constructor
  case breaks =>
    refine ⟨_, List.rdropWhile_append_rtakeWhile.symm, ?_⟩
    intro char member
    simpa only [decide_eq_true_eq] using List.mem_rtakeWhile_imp member
  case last =>
    intro char ends
    obtain ⟨some, rfl⟩ := List.mem_getLast?_eq_getLast ends
    simpa only [decide_eq_true_eq] using List.rdropWhile_last_not _ text some

theorem trimmed_append {breaks : Text} (broken : ∀ char ∈ breaks, IsLineBreak char)
    (text : Text) : trimmed (text ++ breaks) = trimmed text := by
  have dropped : ∀ char ∈ breaks.reverse, decide (IsLineBreak char) = true :=
    fun char member => decide_eq_true (broken char (List.mem_reverse.mp member))
  rw [trimmed_eq_rdropWhile, trimmed_eq_rdropWhile, List.rdropWhile, List.reverse_append,
    List.dropWhile_append_of_pos dropped, List.rdropWhile]

/-- The text that a request asks for: the argument, else the file, else the standard input. -/
inductive Selects (surroundings : Surroundings) : Request → Text → Prop
  | argument {name text : Text} {file : Option Text} :
      Selects surroundings ⟨name, some text, file⟩ text
  | file {name path text : Text} (read : surroundings.file path = .ok text) :
      Selects surroundings ⟨name, none, some path⟩ text
  | standardInput {name text : Text} (read : surroundings.standardInput = .ok text) :
      Selects surroundings ⟨name, none, none⟩ text

theorem Selects.read {surroundings : Surroundings} {request : Request} {text : Text}
    (selects : Selects surroundings request text) :
    request.source.read surroundings = .ok text := by
  cases selects with
  | argument => rfl
  | file read => exact read
  | standardInput read => exact read

variable [Text.Unprintables]

theorem Request.response_of_selects {surroundings : Surroundings} {request : Request} {text : Text}
    {entry : Entry} (known : entry? request.grammar = some entry)
    (selects : Selects surroundings request text) :
    request.response surroundings = entry.run (trimmed text) := by
  rw [response, known]
  simp only [selects.read]

theorem Request.response_of_unknown {request : Request} (unknown : entry? request.grammar = none)
    (surroundings : Surroundings) :
    request.response surroundings =
      .failed (errorReport (unknownGrammar request.grammar) none) := by
  rw [response, unknown]

theorem Request.response_congr {here elsewhere : Surroundings} {request other : Request}
    {text otherText : Text} (selects : Selects here request text)
    (selectsOther : Selects elsewhere other otherText) (sameName : request.grammar = other.grammar)
    (sameText : trimmed text = trimmed otherText) :
    request.response here = other.response elsewhere := by
  match known : entry? request.grammar with
  | some entry =>
      rw [response_of_selects known selects, response_of_selects (sameName ▸ known) selectsOther,
        sameText]
  | none =>
      rw [response_of_unknown known, response_of_unknown (sameName ▸ known), sameName]

structure Unlogged (environment : Text → Option Text) : Prop where
  own : environment "PARCOMB_LOG" = none
  general : environment "RUST_LOG" = none

theorem Response.errorStream_of_unlogged {environment : Text → Option Text}
    (unlogged : Unlogged environment) (response : Response) :
    response.errorStream (Log.Settings.ofEnvironment? environment) = response.messages := by
  rw [Log.Settings.ofEnvironment?, unlogged.own, unlogged.general]
  rfl

namespace Entry

theorem messages_response (entry : Entry) (grammar : Grammar Op) (parser : Parser) (input : Text)
    (reply : Reply Op) (stalls : List Stall) :
    (entry.response grammar parser input reply stalls).messages =
      match reply with
      | .ok _ => []
      | .error failure => entry.name ++ ": " ++ failure.message ++ "\n" := by
  have silent {β : Type} (list : List β) : list.flatMap (fun _ => ([] : Text)) = [] :=
    List.flatMap_eq_nil_iff.mpr fun _ _ => rfl
  cases reply <;>
    simp only [response, Response.messages, notices, List.flatMap_append, List.flatMap_map,
      List.flatMap_singleton, silent, List.nil_append, List.append_nil]

theorem run_eq_response {entry : Entry} {parser : Parser} {grammar : Grammar Op} {input : Text}
    {reply : Reply Op} {later : Trail} (built : entry.build {} = .ok (.ok parser, grammar))
    (ran : grammar.run parser input {} = .ok (reply, later)) :
    entry.run input = entry.response grammar parser input reply later.stalls := by
  rw [run, StateT.run, built]
  simp only [StateT.run, ran]

end Entry

/-- A success is shown on the output and a failure on the error stream, after the name of the
grammar; nothing else is written while logging is off. -/
def Response.Shows (response : Response) (name : Text) (render : Value Op → Text)
    (reply : Reply Op) : Prop :=
  ∀ environment, Unlogged environment →
    let written := response.errorStream (Log.Settings.ofEnvironment? environment)
    match reply with
    | .ok success =>
        response.code = 0 ∧ response.output = render success.value ++ "\n" ∧ written = []
    | .error failure =>
        response.code = 1 ∧ response.output = [] ∧
          written = name ++ ": " ++ failure.message ++ "\n"

theorem Entry.response_shows (entry : Entry) (grammar : Grammar Op) (parser : Parser)
    (input : Text) (reply : Reply Op) (stalls : List Stall) :
    (entry.response grammar parser input reply stalls).Shows entry.name entry.render reply := by
  intro environment unlogged
  simp only [Response.errorStream_of_unlogged unlogged, entry.messages_response]
  cases reply with
  | ok success => exact ⟨rfl, rfl, rfl⟩
  | error failure => exact ⟨rfl, rfl, rfl⟩

/-- Whatever text is selected under that name, what the builder makes of the empty grammar replies
to what is kept of the text, and the answer shows that reply. -/
def Serves (name : Text) (builder : Builder Op (Except SlotError Parser))
    (render : Value Op → Text) : Prop :=
  ∀ surroundings request text, request.grammar = name → Selects surroundings request text →
    ∃ kept parser grammar reply later, Kept text kept ∧
      builder {} = .ok (.ok parser, grammar) ∧
      grammar.run parser kept {} = .ok (reply, later) ∧
      (request.response surroundings).Shows name render reply

theorem Entry.serves {entry : Entry} (known : entry? entry.name = some entry)
    {blueprint : Blueprint Op} (contained : blueprint.SelfContained)
    (describes : blueprint.Describes entry.build) :
    Serves entry.name entry.build entry.render := by
  intro surroundings request text named selects
  obtain ⟨reply, later, parsed⟩ :=
    contained.parse_replies blueprint.liesIn_alone (trimmed text) {}
  rw [blueprint.entry.shift_zero] at parsed
  have ran := Grammar.run_eq_of_parse parsed
  refine ⟨_, _, _, _, _, kept_trimmed text, describes.alone, ran, ?_⟩
  rw [← named] at known
  rw [Request.response_of_selects known selects, run_eq_response describes.alone ran]
  exact entry.response_shows _ _ _ _ _

theorem entry?_eq_none {name : Text} (notInstructions : name ≠ "bf")
    (notBrackets : name ≠ "brackets") (notIntegers : name ≠ "integers") : entry? name = none := by
  apply List.find?_eq_none.mpr
  intro entry listed
  simp only [catalogue, List.mem_cons, List.not_mem_nil, or_false] at listed
  rw [decide_eq_true_eq]
  rcases listed with rfl | rfl | rfl
  · exact notInstructions.symm
  · exact notBrackets.symm
  · exact notIntegers.symm

/-- The program answers with the reply of a known grammar to the text it is given, whichever
characters are unprintable. Line breaks at the end of the text make no difference, and neither does
the way it is given; for other names nothing but the name does. -/
theorem answer_of_selected_text :
    Serves "bf" Brainfuck.grammar (fun value => Op.listing (Brainfuck.program value)) ∧
    Serves "brackets" Brackets.grammar Value.display ∧
    Serves "integers" IntegerList.grammar Value.display ∧
    (∀ here elsewhere, ∀ request other : Request, ∀ text breaks others,
      request.grammar = other.grammar →
      (∀ char ∈ breaks, IsLineBreak char) → (∀ char ∈ others, IsLineBreak char) →
      Selects here request (text ++ breaks) → Selects elsewhere other (text ++ others) →
      request.response here = other.response elsewhere) ∧
    (∀ name : Text, name ≠ "bf" → name ≠ "brackets" → name ≠ "integers" →
      ∃ response : Response, response.code = 1 ∧ response.output = [] ∧
        ∀ surroundings, ∀ request : Request, request.grammar = name →
          request.response surroundings = response) := by
  refine ⟨?_, ?_, ?_, ?_, ?_⟩
  · exact Entry.brainfuck.serves rfl Brainfuck.blueprint_selfContained
      Brainfuck.blueprint_describes
  · exact Entry.brackets.serves rfl Brackets.blueprint_selfContained Brackets.blueprint_describes
  · exact Entry.integers.serves rfl IntegerList.blueprint_selfContained
      IntegerList.blueprint_describes
  · intro here elsewhere request other text breaks others sameName broken brokenOthers selects
      selectsOther
    apply Request.response_congr selects selectsOther sameName
    rw [trimmed_append broken, trimmed_append brokenOthers]
  · intro name notInstructions notBrackets notIntegers
    refine ⟨.failed (errorReport (unknownGrammar name) none), rfl, rfl, ?_⟩
    rintro surroundings request rfl
    have unknown := entry?_eq_none notInstructions notBrackets notIntegers
    exact Request.response_of_unknown unknown surroundings

end GrammarArena.CommandLine
