import LogLayout.Environment
import LogLayout.Notice
import LogLayout.Pattern.Words

namespace LogLayout

/-!
The settings of a program that writes log lines.

Every setting has a default.  Settings for one application override those of the
formatter, and included files add aliases and applications that are not there yet.
-/

/-- The pattern where the settings give none. -/
def defaultPattern : String := "%date %-5level [%thread] %logger{36} - %message"

/-- How lines are formatted. -/
structure FormatterSettings where
  pattern : String := defaultPattern
  colors : ColorMode := .auto
  includeError : Bool := true
  timezone : String := "local"
  deriving DecidableEq, Repr

/-- The names that a pattern can show. -/
structure ContextSettings where
  application : Option String := none
  node : Option String := none
  deriving DecidableEq, Repr

/-- What one application formats differently. -/
structure AppSettings where
  pattern : Option String := none
  colors : Option ColorMode := none
  includeError : Option Bool := none
  timezone : Option String := none
  deriving DecidableEq, Repr

/-- All settings. -/
structure Config where
  formatter : FormatterSettings := {}
  context : ContextSettings := {}
  /-- Further words, each with the word that it stands for. -/
  aliases : Table String := .empty
  /-- The least level of the notices that are shown, by name. -/
  noticeLevel : String := "warn"
  apps : Table AppSettings := .empty

namespace AppSettings

/-- Settings of a formatter with those that an application sets in their place. -/
def override (app : AppSettings) (formatter : FormatterSettings) : FormatterSettings where
  pattern := app.pattern.getD formatter.pattern
  colors := app.colors.getD formatter.colors
  includeError := app.includeError.getD formatter.includeError
  timezone := app.timezone.getD formatter.timezone

end AppSettings

namespace Config

/-- Settings with the aliases and applications of others that are not there yet. -/
def merge (config other : Config) : Config :=
  { config with
    aliases := config.aliases.union other.aliases
    apps := config.apps.union other.apps }

/-- The settings as they apply to one application. -/
def forApp (config : Config) (name : String) : Config :=
  { config with
    context := { config.context with
      application := some (config.context.application.getD name) }
    formatter :=
      match config.apps.get? name with
      | some app => app.override config.formatter
      | none => config.formatter }

/-- The least level of the notices that are shown; a name of no level stands for
warnings. -/
def noticeThreshold (config : Config) : Level :=
  match Level.parse config.noticeLevel with
  | .ok level => level
  | .error _ => .warn

/-- Add an alias to a registry.  An alias of no known word is left out with a
warning. -/
def addSettingAlias (noted : Noted Pattern.Registry) (entry : String × String) :
    Noted Pattern.Registry :=
  let added := noted.result.addAlias entry.1 entry.2
  ⟨added.1, if added.2 then noted.notices
    else noted.notices ++ [.warn "CONFIG"
      s!"Alias '{entry.1}' points at unknown conversion word '{entry.2}'"]⟩

/-- The built-in words with the aliases of the settings, added in rising order. -/
def registry (config : Config) : Noted Pattern.Registry :=
  config.aliases.entries.foldl addSettingAlias ⟨.builtin, []⟩

/-- What patterns show under these settings. -/
def patternContext (config : Config) (environment : Environment) :
    Except Pattern.BadParameter Pattern.Context :=
  match Time.Zone.parse config.formatter.timezone with
  | .error unknown => .error ⟨"date", config.formatter.timezone, .timeZone unknown⟩
  | .ok zone => .ok {
      application := config.context.application.getD environment.program
      node := config.context.node.getD environment.node
      console := .ofMode config.formatter.colors environment.outputIsTerminal
        environment.noColor
      zone
      machineOffset := environment.machineOffset }

end Config
end LogLayout
