import GrammarArena.Text.ControlSequence

/-!
The arguments the program takes, and what it says about them: its usage, its help, its version,
and what is wrong with arguments it cannot take. Text of the user is quoted in these messages as
a terminal would show it.
-/

namespace GrammarArena.CommandLine

inductive Argument where
  | grammar
  | input
  | file
  | help
  | version
  deriving DecidableEq

/-- Why the arguments are refused. `used` lists the arguments seen before, in order, and `begun`
says whether there are any whose values were taken. -/
inductive UsageError where
  | missingGrammar (used : List Argument)
  | conflict (first second : Argument)
  | unknownShort (letter : Char)
  | unknownLong (name : Text) (similar : Option Argument) (used : List Argument)
  | surplus (text : Text)
  | missingFile
  | repeatedFile
  | unexpectedValue (option : Argument) (value : Text) (begun : Bool)

namespace Argument

def label (given : Bool) : Argument → Text
  | .grammar => "<GRAMMAR>"
  | .input => if given then "<INPUT>" else "[INPUT]"
  | .file => "--file <FILE>"
  | .help => "--help"
  | .version => "--version"

def isOption : Argument → Bool
  | .grammar | .input => false
  | .file | .help | .version => true

def longOptions : List (Text × Argument) :=
  [("file", .file), ("help", .help), ("version", .version)]

def flag : Argument → Text
  | .file => "--file"
  | other => other.label true

end Argument

namespace Usage

def general : Text :=
  "Usage: parcomb [OPTIONS] <GRAMMAR> [INPUT]"

def line (used : List Argument) : Text :=
  if used.isEmpty then general
  else
    let options := (used.filter Argument.isOption).eraseDups.map (Argument.label true)
    let positionals := [Argument.grammar.label true, Argument.input.label (used.contains .input)]
    "Usage: parcomb " ++ Text.join " " (options ++ positionals)

def choice (option : Argument) : Text :=
  "Usage: parcomb " ++ option.label true ++ " <GRAMMAR|INPUT|--file <FILE>>"

def about : Text :=
  "Composable parser combinators over an arena-owned grammar."

def help : Text :=
  Text.join "\n"
    [about, "", general, "",
      "Arguments:",
      "  <GRAMMAR>  Grammar to parse with",
      "  [INPUT]    Text to parse; read from stdin when neither this nor --file is given",
      "",
      "Options:",
      "  -f, --file <FILE>  Read the text to parse from a file",
      "  -h, --help         Print help",
      "  -V, --version      Print version",
      ""]

def version : Text :=
  "parcomb 0.1.0\n"

def asValueTip (text : Text) : Text :=
  "  tip: to pass '" ++ text.visible ++ "' as a value, use '-- " ++ text.visible ++ "'"

def hint : Text :=
  "For more information, try '--help'.\n"

def unexpected (text : Text) : Text :=
  "unexpected argument '" ++ text.visible ++ "' found"

end Usage

namespace UsageError

def parts : UsageError → List Text
  | .missingGrammar used =>
      ["the following required arguments were not provided:\n  <GRAMMAR>",
        Usage.line (used ++ [.grammar])]
  | .conflict first second =>
      ["the argument '" ++ first.label false ++ "' cannot be used with '" ++ second.label false
          ++ "'",
        Usage.line [.grammar, first]]
  | .unknownShort letter =>
      let text := ['-', letter]
      [Usage.unexpected text, Usage.asValueTip text, Usage.general]
  | .unknownLong name similar used =>
      let text := "--" ++ name
      match similar with
      | none => [Usage.unexpected text, Usage.asValueTip text, Usage.line used]
      | some option =>
          [Usage.unexpected text, "  tip: a similar argument exists: '" ++ option.flag ++ "'",
            Usage.line (used ++ [option])]
  | .surplus text => [Usage.unexpected text, Usage.general]
  | .missingFile => ["a value is required for '--file <FILE>' but none was supplied"]
  | .repeatedFile =>
      ["the argument '--file <FILE>' cannot be used multiple times", Usage.general]
  | .unexpectedValue option value begun =>
      ["unexpected value '" ++ value.visible ++ "' for '" ++ option.flag
          ++ "' found; no more were expected",
        if begun then Usage.choice option else Usage.line [option]]

def message (error : UsageError) : Text :=
  "error: " ++ Text.join "\n\n" (error.parts ++ [Usage.hint])

end UsageError

end GrammarArena.CommandLine
