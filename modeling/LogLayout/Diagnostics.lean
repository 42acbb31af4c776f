import LogLayout.Config.Load
import LogLayout.Pattern.Compile

namespace LogLayout

/-!
Showing the program's own notices.

Notices are shown as log lines on the error output, once it has been decided which
levels to show.  That is decided only once; notices from before it are lost.
-/

/-- What shows notices: the least level that is shown, and how. -/
structure NoticeLogger where
  threshold : Level
  compiled : Pattern.Compiled

namespace NoticeLogger

/-- The pattern of every notice; its scope takes the place of a logger's name. -/
def pattern : String := "%time %highlight(%-5level) [%logger] %message"

/-- Show notices from a level on, with colors or without. -/
def create (environment : Environment) (threshold : Level) (colors : ColorMode) :
    NoticeLogger :=
  let context : Pattern.Context := {
    application := environment.program
    node := environment.node
    console := .ofMode colors environment.errorsAreTerminal environment.noColor
    zone := .machine
    machineOffset := environment.machineOffset }
  match Pattern.Registry.builtin.compile context pattern with
  | .ok compiled => ⟨threshold, compiled⟩
  | .error _ => ⟨threshold, .empty⟩

/-- Show notices as settings ask for it. -/
def ofConfig (environment : Environment) (config : Config) : NoticeLogger :=
  create environment config.noticeThreshold config.formatter.colors

/-- The line of a notice, with its end; nothing for a level that is not shown. -/
def line (logger : NoticeLogger) (environment : Environment) (notice : Notice) : String :=
  if notice.level < logger.threshold then ""
  else
    logger.compiled.render {
      logger := notice.scope
      level := notice.level
      message := notice.message
      timestamp := environment.now
      thread := environment.thread } ++ "\n"

/-- The lines of some notices. -/
def lines (logger : NoticeLogger) (environment : Environment) (notices : List Notice) :
    String :=
  String.join (notices.map (logger.line environment))

end NoticeLogger

/-- Whether and how notices are shown so far. -/
structure Diagnostics where
  logger : Option NoticeLogger := none

namespace Diagnostics

/-- The lines that are shown of some notices. -/
def lines (diagnostics : Diagnostics) (environment : Environment) (notices : List Notice) :
    String :=
  match diagnostics.logger with
  | some logger => logger.lines environment notices
  | none => ""

/-- Decide what to show, unless that has been decided; the notices of the decision go
with it. -/
def settle (diagnostics : Diagnostics) (logger : NoticeLogger) (notices : List Notice) :
    Noted Diagnostics :=
  if diagnostics.logger.isSome then ⟨diagnostics, []⟩ else ⟨⟨some logger⟩, notices⟩

def settleByLevel (diagnostics : Diagnostics) (environment : Environment) (level : Level) :
    Noted Diagnostics :=
  diagnostics.settle (.create environment level .auto) []

/-- What is said of settings when they decide. -/
def decisionNotices (config : Config) : List Notice :=
  [.debug "INTERNAL" s!"Internal level: {config.noticeThreshold.name}",
    .debug "INTERNAL" s!"Formatter pattern: {config.formatter.pattern}"]

def settleByConfig (diagnostics : Diagnostics) (environment : Environment)
    (config : Config) : Noted Diagnostics :=
  diagnostics.settle (.ofConfig environment config) (decisionNotices config)

/-- Decide by the settings of the default place, or by the defaults where they cannot
be loaded. -/
def settleByDefault (diagnostics : Diagnostics) (environment : Environment) :
    Noted Diagnostics :=
  let config := match (Config.load environment).result with
    | .ok config => config
    | .error _ => {}
  diagnostics.settle (.ofConfig environment config)
    [.debug "INTERNAL" "Internal logger ready"]

end Diagnostics
end LogLayout
