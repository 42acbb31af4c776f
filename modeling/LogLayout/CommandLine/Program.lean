import LogLayout.CommandLine.Arguments
import LogLayout.CommandLine.Batch
import LogLayout.Diagnostics
import LogLayout.Session

namespace LogLayout.CommandLine

/-!
What the program does with its arguments in an environment.

A run comes to a code, a text on the output and one on the error output.  A session is
handed out before its first line, so that its lines may come one by one.
-/

/-- What a run comes to. -/
structure Outcome where
  code : Nat := 0
  output : String := ""
  errors : String := ""
  deriving DecidableEq, Repr

def failureCode : Nat := 1

/-- The code of arguments that cannot be understood. -/
def usageCode : Nat := 2

/-- What a command comes to before its notices are shown. -/
structure Report where
  code : Nat := 0
  output : String := ""
  notices : List Notice := []

namespace Report

/-- A command that failed with one notice. -/
def failure (scope message : String) : Report where
  code := failureCode
  notices := [.error scope message]

end Report

/-! ## Commands -/

def renderLines (environment : Environment) (formatter : Formatter)
    (bytes : List UInt8) : Report :=
  let batch := Batch.ofLines formatter environment (Text.decodedLines bytes)
  { code := if batch.succeeded then 0 else failureCode
    output := batch.output
    notices := batch.allNotices }

/-- Render the records of a file, or of the input for a hyphen. -/
def renderJson (environment : Environment) (formatter : Formatter) (source : String) :
    Report :=
  if source = "-" then
    let report := renderLines environment formatter environment.input
    { report with
      notices := .debug "RENDER" "Reading records from stdin" :: report.notices }
  else
    match environment.files.locate environment.folder source with
    | .error flaw => .failure "RENDER" s!"Cannot open {source}: {flaw.message}"
    | .ok place =>
        match environment.files.bytesAt place with
        | .error flaw => .failure "RENDER" s!"Error reading input: {flaw.message}"
        | .ok bytes => renderLines environment formatter bytes

/-- Render a record, or the records of a file. -/
def render (environment : Environment) (formatter : Formatter) (request : RecordRequest)
    (json : Option String) : Report :=
  match json with
  | some source => renderJson environment formatter source
  | none =>
      match request.record environment.now environment.thread with
      | .error invalid => .failure "RENDER" invalid.message
      | .ok record => { output := formatter.format record }

def check (registry : Pattern.Registry) (context : Pattern.Context) (pattern : String) :
    Report :=
  let start : Notice := .debug "CHECK" s!"Compiling: {pattern}"
  match registry.compile context pattern with
  | .ok compiled =>
      { output := "ok\n"
        notices := [start, .trace "CHECK" s!"{compiled.units.length} unit(s)"] }
  | .error fault =>
      { code := failureCode, output := fault.message pattern ++ "\n", notices := [start] }

def wordLine (registry : Pattern.Registry) (word : String) : String :=
  let aliases := (registry.aliasPairs.filter fun pair => pair.2 = word).map Prod.fst
  if aliases.isEmpty then word ++ "\n"
  else word ++ " (" ++ String.intercalate ", " aliases ++ ")\n"

def listWords (registry : Pattern.Registry) : Report :=
  { output := String.join (registry.words.map (wordLine registry)) }

/-! ## Sessions -/

/-- A session that is about to start, with the opening that comes before its first
line. -/
structure Opening where
  session : Session
  logger : NoticeLogger
  output : String
  errors : String

def openSession (environment : Environment) (config : Config) (context : Pattern.Context)
    (logger : NoticeLogger) (earlier : List Notice) : Opening :=
  let registry := config.registry
  let remembers : Bool := match environment.historyPath? with
    | some path => (environment.readText path).isOk
    | none => false
  let notices := earlier ++ [.debug "SHELL" "Initializing shell..."] ++ registry.notices ++
    if remembers then [.debug "SHELL" "History loaded"] else []
  { session := ⟨registry.result, context, .sample environment.now environment.thread⟩
    logger
    output := Session.banner
    errors := logger.lines environment notices }

/-- The notices at the end of a session in which lines were entered or not.  Lines are
kept for later sessions where their file can be written. -/
def closingNotices (environment : Environment) (entered : Bool) : List Notice :=
  let lost := entered && match environment.historyPath? with
    | some path => !environment.files.canWrite environment.folder path
    | none => false
  (if lost then [.warn "SHELL" "Could not save history"] else []) ++
    [.info "SHELL" "Shell exited"]

/-- Whether lines hold anything to keep. -/
def anyEntered (lines : List (Option String)) : Bool :=
  (lines.takeWhile Option.isSome).any fun line => line.any fun text => !Text.allBlank text

def Opening.run (opening : Opening) (environment : Environment) : Outcome :=
  let lines := Text.decodedLines environment.input
  let (_, reply) := opening.session.run lines
  { output := opening.output ++ reply.output
    errors := opening.errors ++ opening.logger.lines environment
      (reply.notices ++ closingNotices environment (anyEntered lines)) }

/-! ## Runs -/

/-- What a run has come to when its arguments and settings have been read. -/
inductive Start where
  | finished (outcome : Outcome)
  | session (opening : Opening)

/-- The text that answers a call for help, and follows arguments that cannot be
understood. -/
def usageText : String :=
  "Usage: patternlog [OPTIONS] [COMMAND]

Commands:
  render  Render one record with a pattern
  check   Compile a pattern and report the first error
  words   List conversion words and aliases

Options:
  -c, --config <FILE>  Config file to use instead of the default location
  -h, --help           Print help
  -V, --version        Print version
"

def versionText : String := "patternlog 0.3.0\n"

/-- What arguments come to that ask for no run. -/
def Refusal.outcome : Refusal → Outcome
  | usage => { code := usageCode, errors := usageText }
  | help => { output := usageText }
  | version => { output := versionText }

def carryOut (environment : Environment) (config : Config) (command : Command) : Start :=
  let logger := NoticeLogger.ofConfig environment config
  let opening := Diagnostics.decisionNotices config
  let finish (report : Report) : Start :=
    .finished ⟨report.code, report.output,
      logger.lines environment (opening ++ report.notices)⟩
  match config.patternContext environment with
  | .error bad => finish (.failure "CLI" bad.message)
  | .ok context =>
      let registry := config.registry
      let finish (report : Report) : Start :=
        finish { report with notices := registry.notices ++ report.notices }
      match command with
      | .shell =>
          .session (openSession environment config context logger (opening ++ registry.notices))
      | .render pattern request json =>
          match Formatter.compile registry.result context pattern with
          | .error fault => finish (.failure "CLI" (fault.message pattern))
          | .ok formatter =>
              finish (render environment
                { formatter with includeError := config.formatter.includeError } request json)
      | .check pattern => finish (check registry.result context pattern)
      | .words => finish (listWords registry.result)

/-- Read the arguments and the settings, and carry out the command. -/
def start (environment : Environment) (arguments : List String) : Start :=
  match Invocation.parse arguments with
  | .error refusal => .finished refusal.outcome
  | .ok invocation =>
      let loaded := match invocation.config with
        | some path => Config.loadFrom environment path
        | none => Config.load environment
      match loaded.result with
      | .error error =>
          .finished ⟨failureCode, "", s!"Error loading config: {error.message}\n"⟩
      | .ok config => carryOut environment config invocation.command

def run (environment : Environment) (arguments : List String) : Outcome :=
  match start environment arguments with
  | .finished outcome => outcome
  | .session opening => opening.run environment

end LogLayout.CommandLine
