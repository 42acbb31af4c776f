import LogLayout.Config
import LogLayout.Config.Sources
import LogLayout.Toml.Document

namespace LogLayout.Config

/-!
Settings written as TOML.

Sections may be tables, or arrays of their settings in order.  Unknown settings are
passed over, and a setting of another type than its own makes the whole text invalid.
-/

/-- The settings of a section by name. -/
abbrev Section := String → Option Toml.Value

/-- A value as a section with the given names.  A date counts as a section without any
of them. -/
def section? (names : List String) : Toml.Value → Option Section
  | .table _ entries => some fun name => entries.lookup name
  | .array items => some fun name => (names.zip items).lookup name
  | .tables members => some fun name =>
      (names.zip (members.map (Toml.Value.table .header))).lookup name
  | .date _ => some fun _ => none
  | _ => none

def setting? {Kind : Type} (settings : Section) (name : String)
    (decode : Toml.Value → Option Kind) : Option (Option Kind) :=
  match settings name with
  | none => some none
  | some value => (decode value).map some

def settingOr {Kind : Type} (settings : Section) (name : String)
    (decode : Toml.Value → Option Kind) (default : Kind) : Option Kind :=
  (setting? settings name decode).map fun found => found.getD default

def text? : Toml.Value → Option String
  | .string text => some text
  | _ => none

def boolean? : Toml.Value → Option Bool
  | .boolean value => some value
  | _ => none

def isEmptyCollection : Toml.Value → Bool
  | .table _ entries => entries.isEmpty
  | .array items => items.isEmpty
  | .tables members => members.isEmpty
  | _ => false

/-- A color mode: its name, or a table with the name as its one key and nothing under
it. -/
def colorMode? : Toml.Value → Option ColorMode
  | .string name => ColorMode.ofName? name
  | .table _ [(name, value)] =>
      if isEmptyCollection value then ColorMode.ofName? name else none
  | _ => none

/-- The one name under which a date counts as a table with its text. -/
def dateName : String := "$__toml_private_datetime"

/-- A table whose values are all of one kind.  A date counts as a table with one text. -/
def table? {Kind : Type} (decode : Toml.Value → Option Kind) :
    Toml.Value → Option (Table Kind)
  | .table _ entries => do
      let decoded ← entries.mapM fun (name, value) => (decode value).map (name, ·)
      pure (Table.ofList decoded)
  | .date written =>
      (decode (.string (Toml.dateText written))).map fun value =>
        Table.ofList [(dateName, value)]
  | _ => none

def formatter? (value : Toml.Value) : Option FormatterSettings := do
  let settings ← section? ["pattern", "colors", "include_error", "timezone"] value
  let default : FormatterSettings := {}
  pure {
    pattern := ← settingOr settings "pattern" text? default.pattern
    colors := ← settingOr settings "colors" colorMode? default.colors
    includeError := ← settingOr settings "include_error" boolean? default.includeError
    timezone := ← settingOr settings "timezone" text? default.timezone }

/-- The names that a pattern can show. -/
def context? (value : Toml.Value) : Option ContextSettings := do
  let settings ← section? ["application", "node"] value
  pure ⟨← setting? settings "application" text?, ← setting? settings "node" text?⟩

def noticeLevel? (value : Toml.Value) : Option String := do
  let settings ← section? ["level"] value
  settingOr settings "level" text? ({} : Config).noticeLevel

/-- What one application formats differently. -/
def app? (value : Toml.Value) : Option AppSettings := do
  let settings ← section? ["pattern", "colors", "include_error", "timezone"] value
  pure {
    pattern := ← setting? settings "pattern" text?
    colors := ← setting? settings "colors" colorMode?
    includeError := ← setting? settings "include_error" boolean?
    timezone := ← setting? settings "timezone" text? }

def ofDocument? (document : Toml.Entries) : Option Config := do
  let settings : Section := fun name => document.lookup name
  pure {
    formatter := ← settingOr settings "formatter" formatter? {}
    context := ← settingOr settings "context" context? {}
    aliases := ← settingOr settings "aliases" (table? text?) .empty
    noticeLevel := ← settingOr settings "internal" noticeLevel? ({} : Config).noticeLevel
    apps := ← settingOr settings "apps" (table? app?) .empty }

/-- The settings that a TOML text holds, if it is one and holds settings. -/
def decode? (text : String) : Option Config :=
  match Toml.parse text with
  | .ok document => ofDocument? document
  | .error _ => none

/-- The settings that the lines of a text hold which include no files. -/
def parse? (text : String) : Option Config :=
  decode? (String.ofList (extractSources text).rest)

end LogLayout.Config
