import LogLayout.CommandLine.Program
import Std.Time.DateTime.Timestamp

namespace LogLayout.CommandLine

/-!
The program as it is started from a command line.

Everything that a run may need of the machine is gathered first: the variables, the
clock, the input, and the files that settings can lead to.  What happens then is decided
elsewhere; here it is only carried out.
-/

/-- The variables that a run may look at. -/
def variableNames : List String :=
  ["HOME", "XDG_CONFIG_HOME", "XDG_DATA_HOME", "HOSTNAME", "NO_COLOR", "TZ"]

def readVariables : IO (Table String) := do
  let mut bindings := Table.empty
  for name in variableNames do
    if let some value ← IO.getEnv name then
      bindings := bindings.insert name value
  return bindings

/-- The present instant. -/
def readClock : IO Time.Instant := do
  let now ← Std.Time.Timestamp.now
  let nanos := now.toNanosecondsSinceUnixEpoch.val
  return ⟨nanos / 1000000000, (nanos % 1000000000).toNat⟩

def readEntry (path : String) : IO (Option FileEntry) := do
  try
    return some (.file (← IO.FS.readBinFile path).toList)
  catch _ =>
    try
      return if ← (← IO.FS.realPath path).isDir then some .folder else none
    catch _ => return none

def gather (environment : Environment) (folder : Place) (path : String) : IO Environment := do
  let place := FileTree.aimAt folder path
  if (environment.files.entries.lookup place).isSome then return environment
  match ← readEntry place.text with
  | none => return environment
  | some entry =>
      return { environment with files := ⟨(place, entry) :: environment.files.entries⟩ }

/-- Gather a file of settings and the files that it includes. -/
partial def gatherSettings (environment : Environment) (folder : Place) (path : String) :
    IO Environment := do
  let place := FileTree.aimAt folder path
  if (environment.files.entries.lookup place).isSome then return environment
  let mut environment ← gather environment folder path
  if let .ok text := environment.files.textAt place then
    for source in (Config.extractSources text).sources do
      environment ← gatherSettings environment place.dropLast (environment.expandTilde source)
  return environment

/-- All bytes of a stream. -/
partial def readAll (stream : IO.FS.Stream) (read : List UInt8) : IO (List UInt8) := do
  let bytes ← stream.read 65536
  if bytes.isEmpty then return read else readAll stream (read ++ bytes.toList)

/-- Gather what a run with some arguments may need.  Accounts are not looked up, so that only a
variable gives the home folder. -/
def gatherEnvironment (arguments : List String) : IO Environment := do
  let mut environment : Environment := {
    files := ⟨[]⟩
    folder := FileTree.steps (← IO.currentDir).toString
    bindings := ← readVariables
    now := ← readClock
    program := "patternlog"
    outputIsTerminal := ← (← IO.getStdout).isTty
    errorsAreTerminal := ← (← IO.getStderr).isTty }
  environment ← gather environment [] "/etc/hostname"
  let .ok invocation := Invocation.parse arguments | return environment
  if let some path := invocation.config.orElse fun _ => environment.settingsPath? then
    environment ← gatherSettings environment environment.folder path
  match invocation.command with
  | .render _ _ (some "-") =>
      return { environment with input := ← readAll (← IO.getStdin) [] }
  | .render _ _ (some path) => gather environment environment.folder path
  | .shell =>
      if let some path := environment.historyPath? then
        gather environment environment.folder path
      else return environment
  | _ => return environment

def emit (output errors : String) : IO Unit := do
  let out ← IO.getStdout
  out.putStr output
  out.flush
  (← IO.getStderr).putStr errors

/-- The line without the line end that a stream keeps at it. -/
def withoutLineEnd (line : String) : String :=
  String.ofList ((Text.lines line.toList).head?.getD [])

/-- Answer the lines of a session as they come, and tell which lines were entered. -/
partial def converse (environment : Environment) (logger : NoticeLogger) (session : Session)
    (entered : List String) : IO (List String) := do
  let input ← IO.getStdin
  if ← input.isTty then emit "pattern> " ""
  let line ← input.getLine
  if line.isEmpty then return entered
  let line := withoutLineEnd line
  let entered := if Text.allBlank line then entered else entered ++ [line]
  let (next, reply) := session.handle line
  emit reply.output (logger.lines environment reply.notices)
  if reply.goesOn then converse environment logger next entered else return entered

/-- Keep the lines of a session for later ones, where their file can be written. -/
def remember (environment : Environment) (entered : List String) : IO Unit := do
  if let some path := environment.historyPath? then
    try
      let place := FileTree.aimAt environment.folder path
      IO.FS.createDirAll (Place.text place.dropLast)
      let earlier := (environment.files.textAt place).toOption.getD ""
      IO.FS.writeFile place.text
        (earlier ++ String.join (entered.map fun line => line ++ "\n"))
    catch _ => return ()

def runMain (arguments : List String) : IO UInt32 := do
  let environment ← gatherEnvironment arguments
  match start environment arguments with
  | .finished outcome =>
      emit outcome.output outcome.errors
      return UInt32.ofNat outcome.code
  | .session opening =>
      emit opening.output opening.errors
      let entered ← converse environment opening.logger opening.session []
      unless entered.isEmpty do remember environment entered
      emit "" (opening.logger.lines environment
        (closingNotices environment !entered.isEmpty))
      return 0

end LogLayout.CommandLine

/-- The entry point of the program. -/
def main (arguments : List String) : IO UInt32 := LogLayout.CommandLine.runMain arguments
