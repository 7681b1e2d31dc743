import GrammarArena.CommandLine.Arguments
import GrammarArena.CommandLine.Catalogue
import GrammarArena.Log.Filter

/-!
What the program answers: an exit code, the text for its output, and notices for its error
stream, in the order in which they appear there. Nothing is read before the grammar is known,
and nothing is logged before the input is read.
-/

namespace GrammarArena.CommandLine

inductive Source where
  | argument (text : Text)
  | file (path : Text)
  | standardInput
  deriving DecidableEq

inductive ReadError where
  | notFound
  | isDirectory
  | notDirectory
  | nameTooLong
  | permissionDenied
  | notUtf8
  | other (text : Text)
  deriving DecidableEq

def ReadError.message : ReadError → Text
  | .notFound => "No such file or directory (os error 2)"
  | .isDirectory => "Is a directory (os error 21)"
  | .notDirectory => "Not a directory (os error 20)"
  | .nameTooLong => "File name too long (os error 36)"
  | .permissionDenied => "Permission denied (os error 13)"
  | .notUtf8 => "stream did not contain valid UTF-8"
  | .other text => text

def ReadError.decode (bytes : ByteArray) : Except ReadError Text :=
  match String.fromUTF8? bytes with
  | some text => .ok text.toList
  | none => .error .notUtf8

structure Surroundings where
  file : Text → Except ReadError Text
  standardInput : Except ReadError Text

inductive Notice where
  | event (event : Log.Event)
  | message (text : Text)

structure Response where
  code : Nat
  output : Text := []
  notices : List Notice := []

variable [Text.Unprintables]

namespace Response

def failed (message : Text) : Response where
  code := 1
  notices := [.message message]

def messages (response : Response) : Text :=
  response.notices.flatMap fun
    | .message text => text
    | .event _ => []

def events (response : Response) : List Log.Event :=
  response.notices.filterMap fun
    | .message _ => none
    | .event event => some event

/-- The whole error stream: first what is reported about the settings, then messages as they
are, and a line for each event let through. -/
def errorStream (settings : Option Log.Settings) (response : Response) : Text :=
  Log.Settings.warnings settings ++ response.notices.flatMap fun
    | .message text => text
    | .event event => (Log.Settings.lines settings [event]).flatMap fun line => line ++ ['\n']

end Response

def Stop.response : Stop → Response
  | .help => { code := 0, output := Usage.help }
  | .version => { code := 0, output := Usage.version }
  | .misuse error => { code := 2, notices := [.message error.message] }

def errorReport (text : Text) (cause : Option Text) : Text :=
  match cause with
  | none => "Error: " ++ text ++ "\n"
  | some cause => "Error: " ++ text ++ "\n\nCaused by:\n    " ++ cause ++ "\n"

def unknownGrammar (name : Text) : Text :=
  "unknown grammar '" ++ name ++ "', expected one of:\n"
    ++ Text.join "\n" (catalogue.map Entry.line)

namespace Source

def description : Source → Text
  | .argument _ => []
  | .file path => path
  | .standardInput => "stdin"

def read (surroundings : Surroundings) : Source → Except ReadError Text
  | .argument text => .ok text
  | .file path => surroundings.file path
  | .standardInput => surroundings.standardInput

end Source

def trimmed (text : Text) : Text :=
  text.trimEnd fun char => char = '\n' || char = '\r'

namespace Entry

def notices (grammar : Grammar Op) (parser : Parser) (input : Text) (reply : Reply Op)
    (stalls : List Stall) (message : List Notice) : List Notice :=
  let registered := grammar.nodes.toList.zipIdx.map fun (node, index) =>
    Notice.event (.registered index node)
  let stalled := stalls.reverse.map fun stall => Notice.event (.stalled stall)
  registered ++ [.event (.started parser input)] ++ stalled ++ [.event (.finished reply)]
    ++ message ++ [.event (.tornDown grammar)]

def response (entry : Entry) (grammar : Grammar Op) (parser : Parser) (input : Text)
    (reply : Reply Op) (stalls : List Stall) : Response :=
  match reply with
  | .ok success =>
      { code := 0
        output := entry.render success.value ++ ['\n']
        notices := notices grammar parser input reply stalls [] }
  | .error failure =>
      let message := entry.name ++ ": " ++ failure.message ++ "\n"
      { code := 1
        notices := notices grammar parser input reply stalls [.message message] }

def run (entry : Entry) (input : Text) : Response :=
  match entry.build.run {} with
  | .error fault => .failed (errorReport fault.message none)
  | .ok (.error refusal, _) => .failed (errorReport refusal.message none)
  | .ok (.ok parser, grammar) =>
      match (grammar.run parser input).run {} with
      | .error (.fault fault) => .failed (errorReport fault.message none)
      | .error .outOfSteps => .failed (errorReport "out of steps" none)
      | .ok (reply, trail) => entry.response grammar parser input reply trail.stalls

end Entry

namespace Request

def source (request : Request) : Source :=
  match request.input, request.file with
  | some text, _ => .argument text
  | none, some path => .file path
  | none, none => .standardInput

def response (surroundings : Surroundings) (request : Request) : Response :=
  match entry? request.grammar with
  | none => .failed (errorReport (unknownGrammar request.grammar) none)
  | some entry =>
      match request.source.read surroundings with
      | .error error =>
          .failed (errorReport ("failed to read " ++ request.source.description) error.message)
      | .ok text => entry.run (trimmed text)

end Request

def respond (surroundings : Surroundings) (arguments : List Text) : Response :=
  match Request.read arguments with
  | .error stop => stop.response
  | .ok request => request.response surroundings

end GrammarArena.CommandLine
