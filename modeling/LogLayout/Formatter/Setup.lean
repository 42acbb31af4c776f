import LogLayout.Config.Load
import LogLayout.Formatter

namespace LogLayout

/-!
Formatters from settings.
-/

/-- A pattern that cannot be compiled. -/
structure PatternFailure where
  pattern : String
  fault : Pattern.Fault
  deriving DecidableEq, Repr

/-- The wording of a pattern that cannot be compiled. -/
def PatternFailure.message (failure : PatternFailure) : String :=
  failure.fault.message failure.pattern

/-- Why there is no formatter. -/
inductive SetupError where
  | load (error : Config.LoadError)
  | pattern (failure : PatternFailure)
  deriving DecidableEq, Repr

namespace Formatter

def ofConfig (environment : Environment) (config : Config) (application : String) :
    Noted (Except PatternFailure Formatter) :=
  let start : Notice := .debug "FORMATTER" s!"Initializing formatter for app={application}"
  let config := config.forApp application
  let pattern := config.formatter.pattern
  match config.patternContext environment with
  | .error bad => ⟨.error ⟨pattern, .badParameter bad⟩, [start]⟩
  | .ok context =>
      let registry := config.registry
      match Formatter.compile registry.result context pattern with
      | .error fault =>
          let failure : PatternFailure := ⟨pattern, fault⟩
          ⟨.error failure,
            start :: registry.notices ++ [.error "FORMATTER" failure.message]⟩
      | .ok formatter =>
          ⟨.ok { formatter with includeError := config.formatter.includeError },
            start :: registry.notices ++ [.debug "FORMATTER" s!"Compiled pattern: {pattern}"]⟩

/-- The formatter for an application under the settings of the default place. -/
def ofDefaultConfig (environment : Environment) (application : String) :
    Noted (Except SetupError Formatter) :=
  let start : Notice := .debug "FORMATTER" "Building formatter from config"
  let loaded := Config.load environment
  match loaded.result with
  | .error error => ⟨.error (.load error), start :: loaded.notices⟩
  | .ok config =>
      let built := ofConfig environment config application
      ⟨built.result.mapError .pattern, start :: loaded.notices ++ built.notices⟩

end Formatter
end LogLayout
