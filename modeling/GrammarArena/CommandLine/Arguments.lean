import GrammarArena.CommandLine.Usage
import GrammarArena.Text.Similarity

/-!
Reading the arguments: the grammar and possibly a text, or a file with `-f` or `--file`. Options
may stand anywhere before `--`. A value that is not attached to its argument is taken as the
argument's only when the next argument is looked at, so that what is wrong with that one may be
noticed first.
-/

namespace GrammarArena.CommandLine

structure Request where
  grammar : Text
  input : Option Text
  file : Option Text
  deriving DecidableEq

inductive Stop where
  | help
  | version
  | misuse (error : UsageError)

inductive Token where
  | separator
  | long (name : Text) (value : Option Text)
  | short (letter : Char) (attached : Text)
  | plain (text : Text)

def Token.ofText : Text → Token
  | ['-', '-'] => .separator
  | '-' :: '-' :: text =>
      match text.span (· ≠ '=') with
      | (name, []) => .long name none
      | (name, _ :: value) => .long name (some value)
  | '-' :: letter :: attached => .short letter attached
  | text => .plain text

inductive Pending where
  | grammar (text : Text)
  | input (text : Text)
  | file (value : Option Text)

structure Progress where
  grammar : Option Text := none
  input : Option Text := none
  file : Option Text := none
  used : List Argument := []
  pending : Option Pending := none

namespace Progress

def mark (progress : Progress) (argument : Argument) : Progress :=
  { progress with used := progress.used ++ [argument] }

/-- Takes a file; there must be one at most and its name may not be empty. What was used is
known even where it is refused. -/
def takeFile (progress : Progress) (value : Option Text) : Progress × Option UsageError :=
  match value with
  | none => (progress, some .missingFile)
  | some name =>
      if progress.used.contains .file then
        ({ progress with used := progress.used.erase .file }, some .repeatedFile)
      else if name.isEmpty then (progress.mark .file, some .missingFile)
      else ({ progress.mark .file with file := some name }, none)

def settle (progress : Progress) : Progress × Option UsageError :=
  let settled := { progress with pending := none }
  match progress.pending with
  | none => (settled, none)
  | some (.grammar text) => ({ settled.mark .grammar with grammar := some text }, none)
  | some (.input text) => ({ settled.mark .input with input := some text }, none)
  | some (.file value) => settled.takeFile value

def settled (progress : Progress) : Except UsageError Progress :=
  match progress.settle with
  | (next, none) => .ok next
  | (_, some error) => .error error

def positionals (progress : Progress) : Nat :=
  match progress.pending with
  | some (.grammar _) => 1
  | some (.input _) => 2
  | _ => progress.grammar.toList.length + progress.input.toList.length

def awaitsFile (progress : Progress) : Bool :=
  match progress.pending with
  | some (.file none) => true
  | _ => false

def positional (progress : Progress) (text : Text) : Except UsageError Progress :=
  match progress.positionals with
  | 0 => progress.settled.map fun next => { next with pending := some (.grammar text) }
  | 1 => progress.settled.map fun next => { next with pending := some (.input text) }
  | _ => .error (.surplus text)

def optionFile (progress : Progress) (value : Option Text) : Except UsageError Progress := do
  let next ← progress.settled
  match value with
  | none => .ok { next with pending := some (.file none) }
  | some name =>
      match next.takeFile (some name) with
      | (taken, none) => .ok taken
      | (_, some error) => .error error

def likeness : Float := 0.7

def stop (progress : Progress) (reason : Stop) : Except Stop Progress :=
  match progress.settled with
  | .error error => .error (.misuse error)
  | .ok _ => .error reason

def long (progress : Progress) (name : Text) (value : Option Text) : Except Stop Progress :=
  match Argument.longOptions.lookup name, value with
  | some .file, value => (progress.optionFile value).mapError .misuse
  | some option, some value =>
      .error (.misuse (.unexpectedValue option value (!progress.used.isEmpty)))
  | some .version, none => progress.stop .version
  | some _, none => progress.stop .help
  | none, _ =>
      let similar := Text.Similarity.closest? likeness name Argument.longOptions
      .error (.misuse (.unknownLong name similar progress.settle.1.used))

def attachedValue : Text → Option Text
  | [] => none
  | '=' :: value => some value
  | value => some value

def short (progress : Progress) (letter : Char) (attached : Text) : Except Stop Progress :=
  match letter with
  | 'f' => (progress.optionFile (attachedValue attached)).mapError .misuse
  | 'h' => progress.stop .help
  | 'V' => progress.stop .version
  | _ => .error (.misuse (.unknownShort letter))

def plain (progress : Progress) (text : Text) : Except Stop Progress :=
  if progress.awaitsFile then .ok { progress with pending := some (.file (some text)) }
  else (progress.positional text).mapError .misuse

/-- A text and a file exclude each other; the one given first is named first. -/
def finish (progress : Progress) : Except UsageError Request := do
  let last ← progress.settled
  match last.input, last.file, last.grammar with
  | some _, some _, _ =>
      if last.used.idxOf .input < last.used.idxOf .file then .error (.conflict .input .file)
      else .error (.conflict .file .input)
  | _, _, none => .error (.missingGrammar last.used)
  | input, file, some grammar => .ok ⟨grammar, input, file⟩

/-- All that follows a separator is positional, another separator too. -/
def readAll (progress : Progress) : List Text → Except Stop Progress
  | [] => .ok progress
  | text :: rest =>
      match Token.ofText text with
      | .separator => (rest.foldlM positional progress).mapError .misuse
      | .long name value => do
          let next ← progress.long name value
          next.readAll rest
      | .short letter attached => do
          let next ← progress.short letter attached
          next.readAll rest
      | .plain text => do
          let next ← progress.plain text
          next.readAll rest

end Progress

def Request.read (arguments : List Text) : Except Stop Request := do
  let progress ← ({} : Progress).readAll arguments
  progress.finish.mapError .misuse

end GrammarArena.CommandLine
