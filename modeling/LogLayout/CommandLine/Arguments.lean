import LogLayout.Record.Pair

namespace LogLayout.CommandLine

/-!
The arguments of the command line.

Arguments are read from left to right, and the first one that cannot be used ends the
reading.  A command may come after the options of the whole program; the option that
names a file of settings is understood there and behind the command alike, and the one
behind the command counts.
-/

/-- What an option sets. -/
inductive Flag where
  | config
  | level
  | logger
  | thread
  | pair
  | json
  | help
  | version
  deriving DecidableEq, Repr

namespace Flag

/-- The word behind two hyphens. -/
def name : Flag → String
  | config => "config"
  | level => "level"
  | logger => "logger"
  | thread => "thread"
  | pair => "mdc"
  | json => "json"
  | help => "help"
  | version => "version"

/-- The letter behind one hyphen. -/
def letter? : Flag → Option Char
  | config => some 'c'
  | level => some 'l'
  | thread => some 't'
  | help => some 'h'
  | version => some 'V'
  | _ => none

/-- Whether an option ends all reading instead of taking a value. -/
def isQuestion (flag : Flag) : Bool := flag = help || flag = version

end Flag

/-- Why arguments ask for no run. -/
inductive Refusal where
  /-- They cannot be understood. -/
  | usage
  | help
  | version
  deriving DecidableEq, Repr

/-- Something that arguments give. -/
inductive Given where
  | option (flag : Flag) (value : String)
  | operand (text : String)
  deriving DecidableEq, Repr

/-! ## Single arguments -/

/-- What one argument is. -/
inductive Shape where
  | operand
  | separator
  | refused (refusal : Refusal)
  /-- An option whose value is the next argument. -/
  | awaiting (flag : Flag)
  | complete (flag : Flag) (value : String)
  deriving DecidableEq, Repr

/-- The shape of an option that is not known to stand alone. -/
def optionShape (flag : Option Flag) (attached : Option (List Char)) : Shape :=
  match flag, attached with
  | none, _ => .refused .usage
  | some .help, none => .refused .help
  | some .version, none => .refused .version
  | some flag, none => .awaiting flag
  | some flag, some value =>
      if flag.isQuestion then .refused .usage else .complete flag (String.ofList value)

/-- The shape of an argument behind two hyphens. -/
def longShape (flags : List Flag) (text : List Char) : Shape :=
  let cut := cutAtEquals text
  let name := (cut.map Prod.fst).getD text
  optionShape (flags.find? fun flag => flag.name.toList = name) (cut.map Prod.snd)

/-- The shape of an argument behind one hyphen.  A question is answered whatever stands
behind its letter. -/
def shortShape (flags : List Flag) (letter : Char) (behind : List Char) : Shape :=
  match flags.find? fun flag => flag.letter? = some letter with
  | none => .refused .usage
  | some flag =>
      if flag.isQuestion then optionShape (some flag) none
      else
        match behind with
        | [] => .awaiting flag
        | '=' :: value => .complete flag (String.ofList value)
        | value => .complete flag (String.ofList value)

/-- The shape of an argument where some options are understood.  A lone hyphen is an
operand. -/
def shape (flags : List Flag) (argument : String) : Shape :=
  match argument.toList with
  | ['-', '-'] => .separator
  | '-' :: '-' :: text => longShape flags text
  | '-' :: letter :: behind => shortShape flags letter behind
  | _ => .operand

/-- Whether an argument cannot be the value of the option before it. -/
def looksLikeOption (argument : String) : Bool :=
  match argument.toList with
  | '-' :: _ :: _ => true
  | _ => false

/-! ## Lists of arguments -/

/-- How reading arguments ended. -/
inductive Ending where
  | finished
  | refused (refusal : Refusal)
  /-- At an operand, with the arguments behind it. -/
  | stopped (operand : String) (others : List String)
  deriving DecidableEq, Repr

/-- Read arguments, up to the first operand if `stops`. -/
def read (flags : List Flag) (stops : Bool) : List String → List Given × Ending
  | [] => ([], .finished)
  | argument :: others =>
      match shape flags argument with
      | .refused refusal => ([], .refused refusal)
      | .operand =>
          if stops then ([], .stopped argument others)
          else
            let (given, ending) := read flags stops others
            (.operand argument :: given, ending)
      | .separator =>
          if stops && !others.isEmpty then ([], .refused .usage)
          else (others.map .operand, .finished)
      | .complete flag value =>
          let (given, ending) := read flags stops others
          (.option flag value :: given, ending)
      | .awaiting flag =>
          match others with
          | [] => ([], .refused .usage)
          | value :: others =>
              if looksLikeOption value then ([], .refused .usage)
              else
                let (given, ending) := read flags stops others
                (.option flag value :: given, ending)

/-- What arguments have given so far. -/
structure Draft where
  config : Option String := none
  level : Option Level := none
  logger : Option String := none
  thread : Option String := none
  pairs : List String := []
  json : Option String := none
  operands : List String := []

namespace Draft

/-- The levels by the names that the option takes, which are in lower case. -/
def levelNamed? : String → Option Level
  | "trace" => some .trace
  | "debug" => some .debug
  | "info" => some .info
  | "warn" => some .warn
  | "error" => some .error
  | _ => none

/-- Set what must not have been set before. -/
def once {Kind : Type} (present : Option Kind) (draft : Draft) : Except Refusal Draft :=
  if present.isSome then .error .usage else .ok draft

def setOption (draft : Draft) (flag : Flag) (value : String) : Except Refusal Draft :=
  match flag with
  | .config =>
      if value = "" then .error .usage else once draft.config { draft with config := some value }
  | .level =>
      match levelNamed? value with
      | none => .error .usage
      | some level => once draft.level { draft with level := some level }
  | .logger => once draft.logger { draft with logger := some value }
  | .thread => once draft.thread { draft with thread := some value }
  | .pair => .ok { draft with pairs := draft.pairs ++ [value] }
  | .json => once draft.json { draft with json := some value }
  | .help => .error .help
  | .version => .error .version

/-- Take something given into account, with at most so many operands. -/
def give (most : Option Nat) (draft : Draft) : Given → Except Refusal Draft
  | .option flag value => draft.setOption flag value
  | .operand text =>
      if most.any (· ≤ draft.operands.length) then .error .usage
      else .ok { draft with operands := draft.operands ++ [text] }

/-- All that arguments give, unless one of them is refused first. -/
def gather (most : Option Nat) (read : List Given × Ending) : Except Refusal Draft := do
  let draft ← read.1.foldlM (give most) {}
  match read.2 with
  | .refused refusal => throw refusal
  | _ => pure draft

end Draft

/-! ## Commands -/

/-- What the program is to do. -/
inductive Command where
  /-- Render every line that is entered. -/
  | shell
  /-- Render the requested record, or the records of a file. -/
  | render (pattern : String) (request : RecordRequest) (json : Option String)
  | check (pattern : String)
  | words
  deriving DecidableEq, Repr

/-- A command, and the file of settings if one is named. -/
structure Invocation where
  config : Option String
  command : Command
  deriving DecidableEq, Repr

namespace Command

def ofRenderDraft (draft : Draft) : Except Refusal Command :=
  match draft.operands with
  | [] => .error .usage
  | pattern :: message =>
      let default : RecordRequest := {}
      .ok (.render pattern {
        level := draft.level.getD default.level
        logger := draft.logger.getD default.logger
        thread := draft.thread
        pairs := draft.pairs
        words := message } draft.json)

/-- Read the arguments behind a command's name. -/
def readArguments (name : String) (arguments : List String) :
    Except Refusal (Option String × Command) :=
  let draft (flags : List Flag) (most : Option Nat) : Except Refusal Draft :=
    Draft.gather most (read (flags ++ [.config, .help]) false arguments)
  match name with
  | "render" => do
      let draft ← draft [.level, .logger, .thread, .pair, .json] none
      pure (draft.config, ← ofRenderDraft draft)
  | "check" => do
      let draft ← draft [] (some 1)
      match draft.operands with
      | [pattern] => pure (draft.config, .check pattern)
      | _ => throw .usage
  | "words" => do
      let draft ← draft [] (some 0)
      pure (draft.config, .words)
  | "help" =>
      match arguments with
      | [] => throw .help
      | [topic] =>
          if ["render", "check", "words", "help"].contains topic then throw .help
          else throw .usage
      | _ => throw .usage
  | _ => throw .usage

end Command

def Invocation.parse (arguments : List String) : Except Refusal Invocation := do
  let outer := read [.config, .help, .version] true arguments
  let draft ← Draft.gather (some 0) outer
  match outer.2 with
  | .stopped name others =>
      let (config, command) ← Command.readArguments name others
      pure ⟨config.orElse fun _ => draft.config, command⟩
  | _ => pure ⟨draft.config, .shell⟩

end LogLayout.CommandLine
