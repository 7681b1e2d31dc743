import GrammarArena.CommandLine.Response

/-!
The program: it reads its arguments, its variables and the text to parse, and writes what
`respond` answers.
-/

namespace GrammarArena

open CommandLine

/-- The number of an error, which some calls give with the opposite sign. -/
def errorNumber (code : UInt32) : UInt32 :=
  if code < 0x80000000 then code else 0 - code

def readError (error : IO.Error) : ReadError :=
  let other : ReadError := .other (toString error)
  match error with
  | .noFileOrDirectory .. => .notFound
  | .inappropriateType _ code _ => if errorNumber code = 20 then .notDirectory else .isDirectory
  | .invalidArgument _ code _ => if errorNumber code = 36 then .nameTooLong else other
  | .permissionDenied _ code _ => if errorNumber code = 13 then .permissionDenied else other
  | _ => other

def readFile (path : Text) : IO (Except ReadError Text) := do
  try
    return ReadError.decode (← IO.FS.readBinFile (String.ofList path))
  catch error => return .error (readError error)

def readStandardInput : IO (Except ReadError Text) := do
  return ReadError.decode (← (← IO.getStdin).readBinToEnd)

def surroundings (request : Request) : IO Surroundings := do
  let unread : Except ReadError Text := .ok []
  match request.source with
  | .argument _ => return ⟨fun _ => unread, unread⟩
  | .file path =>
      let contents ← readFile path
      return ⟨fun _ => contents, unread⟩
  | .standardInput =>
      let contents ← readStandardInput
      return ⟨fun _ => unread, contents⟩

def answer (request : Request) : IO Response := do
  match entry? request.grammar with
  | none => return request.response ⟨fun _ => .ok [], .ok []⟩
  | some _ => return request.response (← surroundings request)

def logSettings : IO (Option Log.Settings) := do
  let filter ← IO.getEnv "PARCOMB_LOG"
  let fallback ← IO.getEnv "RUST_LOG"
  let format ← IO.getEnv "PARCOMB_LOG_FORMAT"
  let values : List (Text × Option String) :=
    [("PARCOMB_LOG", filter), ("RUST_LOG", fallback), ("PARCOMB_LOG_FORMAT", format)]
  return Log.Settings.ofEnvironment? fun name =>
    ((values.lookup name).join).map String.toList

end GrammarArena

open GrammarArena CommandLine in
def main (arguments : List String) : IO UInt32 := do
  let response ←
    match Request.read (arguments.map String.toList) with
    | .error stop => pure stop.response
    | .ok request => answer request
  let settings ← logSettings
  IO.print (String.ofList response.output)
  IO.eprint (String.ofList (response.errorStream settings))
  return UInt32.ofNat response.code
