import LogLayout.Files
import LogLayout.Table
import LogLayout.Text.Blank
import LogLayout.Time.Region

namespace LogLayout

/-!
What the program finds around it: files, variables, input and clock.
-/

/-- The surroundings of one run. -/
structure Environment where
  files : FileTree
  /-- The folder that relative paths start from. -/
  folder : Place := []
  /-- The variables that are set. -/
  bindings : Table String
  /-- The home folder that the accounts of the machine give to whoever runs the program. -/
  accountHome? : Option String := none
  /-- What stands on the standard input. -/
  input : List UInt8 := []
  /-- The present instant.  One stands for a whole run, where a clock would be read again for every
  record that gives no instant of its own. -/
  now : Time.Instant := .epoch
  thread : String := "main"
  /-- The name that the program was started under. -/
  program : String
  outputIsTerminal : Bool := false
  errorsAreTerminal : Bool := false

namespace Environment

/-- The value of a variable that is set and not empty. -/
def filled? (environment : Environment) (name : String) : Option String :=
  (environment.bindings.get? name).filter (· ≠ "")

/-- The home folder: the one that a variable names, or else that of the account. -/
def home? (environment : Environment) : Option String :=
  (environment.filled? "HOME").or environment.accountHome?

/-- A folder that a variable with an absolute path names, or else one below the home
folder. -/
def userFolder? (environment : Environment) (name below : String) : Option String :=
  environment.home?.map fun home =>
    match (environment.bindings.get? name).filter FileTree.isAbsolute with
    | some folder => folder
    | none => joinPath home below

/-- The file of the settings, where no other is asked for. -/
def settingsPath? (environment : Environment) : Option String :=
  (environment.userFolder? "XDG_CONFIG_HOME" ".config").map fun folder =>
    joinPath folder "patternlog/patternlog.toml"

/-- The file that keeps the lines entered in earlier sessions. -/
def historyPath? (environment : Environment) : Option String :=
  (environment.userFolder? "XDG_DATA_HOME" ".local/share").map fun folder =>
    joinPath folder "patternlog/shell_history"

/-- A path with a leading tilde replaced by the home folder. -/
def expandTilde (environment : Environment) (path : String) : String :=
  match path.toList with
  | ['~'] => environment.home?.getD path
  | '~' :: '/' :: rest =>
      match environment.home? with
      | some home => home ++ "/" ++ String.ofList rest
      | none => path
  | _ => path

def readText (environment : Environment) (path : String) : Except FileFlaw String := do
  environment.files.textAt (← environment.files.locate environment.folder path)

def node (environment : Environment) : String :=
  match environment.filled? "HOSTNAME" with
  | some name => name
  | none =>
      match (environment.readText "/etc/hostname").map Text.trim with
      | .ok "" => "localhost"
      | .ok name => name
      | .error _ => "localhost"

/-- The offset of the machine's clock at an instant: that of the region which the
variable `TZ` names, and otherwise universal time. -/
def machineOffset (environment : Environment) : Time.Instant → Int :=
  match (environment.bindings.get? "TZ").bind fun name =>
      Time.Region.ofName? ((name.dropPrefix ":").toString) with
  | some region => region.offsetAt
  | none => fun _ => 0

/-- Whether the environment asks for no colors. -/
def noColor (environment : Environment) : Bool := environment.bindings.contains "NO_COLOR"

end Environment
end LogLayout
