import LogLayout.Abbreviation
import LogLayout.Pattern.Compile
import LogLayout.Regex.Replacement

namespace LogLayout.Pattern

/-!
The built-in words.

Field words show a field of the record or a name of the context, date words the
timestamp, and decorating words change what the pattern they enclose shows.
-/

/-- The texts `key=value` of a list of pairs, with commas between them. -/
def pairsText (pairs : List (String × String)) : String :=
  String.intercalate ", " (pairs.map fun (key, value) => key ++ "=" ++ value)

/-- Cut a text at its first `:-`. -/
def cutAtFallback : List Char → Option (List Char × List Char)
  | [] => none
  | ':' :: '-' :: rest => some ([], rest)
  | character :: rest =>
      (cutAtFallback rest).map fun (before, behind) => (character :: before, behind)

/-- The key that a parameter names, without blanks around it, and the text to show
where there is no such key. -/
def readKey (parameter : String) : String × String :=
  match cutAtFallback parameter.toList with
  | some (key, fallback) => (String.ofList (Text.trimChars key), String.ofList fallback)
  | none => (Text.trim parameter, "")

namespace Words

/-! ## Fields -/

/-- A word that shows the same function of every record. -/
def field (shown : Renderer) : Builder := .plain fun _ _ => .ok shown

/-- The logger's name, shortened towards the length that the parameter gives. -/
def logger : Builder := .plain fun spec _ => do
  match ← spec.intParameter 0 with
  | none => pure fun record => record.logger
  | some length =>
      if length < 0 then throw ⟨spec.word, toString length, .negativeLength⟩
      else pure fun record => Abbreviation.abbreviate record.logger length.toNat

def level : Builder := field fun record => record.level.name

def coloredLevel : Builder := .plain fun _ context =>
  .ok fun record => context.console.highlight record.level record.level.name

def message : Builder := field Record.formattedMessage

def thread : Builder := field fun record => record.thread

def marker : Builder := field fun record => record.marker.getD ""

/-- All pairs of the diagnostic context, or the value of one key. -/
def pairs : Builder := .plain fun spec _ =>
  match spec.parameter? 0 with
  | none => .ok fun record => pairsText record.pairs.entries
  | some parameter =>
      let key := readKey parameter
      .ok fun record => (record.pairs.get? key.1).getD key.2

def caller (part : Caller → String) : Builder :=
  field fun record => (record.caller.map part).getD ""

def constant (text : Context → String) : Builder := .plain fun _ context =>
  .ok fun _ => text context

/-! ## Dates -/

/-- The format that the parameter gives, or a default if it gives none. -/
def chosenFormat (spec : Spec) (default : String) : String :=
  match spec.parameter? 0 with
  | none => default
  | some parameter =>
      let format := Text.trim parameter
      if format = "" then default else format

/-- The zone that the second parameter gives, or else that of the context. -/
def chosenZone (spec : Spec) (context : Context) : Except BadParameter Time.Zone :=
  match spec.parameter? 1 with
  | none => .ok context.zone
  | some zone =>
      match Time.Zone.parse zone with
      | .ok zone => .ok zone
      | .error unknown => .error ⟨spec.word, zone, .timeZone unknown⟩

def date (default : String) : Builder := .plain fun spec context => do
  let format := chosenFormat spec default
  match Time.DatePattern.parse format with
  | .error flaw => throw ⟨spec.word, format, .dateFormat flaw⟩
  | .ok pattern =>
      let zone ← chosenZone spec context
      pure fun record => pattern.format (zone.localTime context.machineOffset record.timestamp)

/-! ## Decoration -/

def color (chosen : Color) (emphasis : Option Emphasis) : Builder :=
  .transformer fun _ context => .ok (context.console.decorate (some chosen) emphasis)

def emphasis (chosen : Emphasis) : Builder :=
  .transformer fun _ context => .ok (context.console.decorate none (some chosen))

def highlight : Builder :=
  ⟨true, fun spec context =>
    .ok fun record => context.console.highlight record.level (spec.enclosed.render record)⟩

def replace : Builder := .transformer fun spec _ => do
  let expression ← spec.requiredParameter 0
  let replacement ← spec.requiredParameter 1
  match Regex.Matcher.parse expression with
  | .error flaw => throw ⟨spec.word, expression, .expression flaw⟩
  | .ok matcher => pure (matcher.replaceAll replacement)

/-! ## The registry -/

/-- The format of `date` where a directive gives none. -/
def dateFormat : String := "yyyy-MM-dd HH:mm:ss.SSS"

/-- The format of `time` where a directive gives none. -/
def timeFormat : String := "HH:mm:ss.SSS"

/-- The words that show fields, each with its aliases. -/
def fields : List (String × Builder × List String) :=
  [("logger", logger, ["c", "lo"]),
    ("level", level, []),
    ("coloredLevel", coloredLevel, []),
    ("message", message, ["m", "msg"]),
    ("thread", thread, ["t"]),
    ("marker", marker, []),
    ("mdc", pairs, ["X"]),
    ("file", caller Caller.file, ["F"]),
    ("line", caller fun found => toString found.line.toNat, ["L"]),
    ("class", caller Caller.module, ["C"]),
    ("method", caller fun found => found.function.getD "", ["M"]),
    ("application", constant Context.application, []),
    ("node", constant Context.node, []),
    ("applicationNode", constant fun context => context.application ++ "@" ++ context.node,
      []),
    ("n", constant fun _ => "\n", ["newline"])]

/-- The words that show the timestamp, each with its aliases. -/
def dates : List (String × Builder × List String) :=
  [("date", date dateFormat, ["d"]), ("time", date timeFormat, [])]

/-- The words that decorate a pattern. -/
def decorations : List (String × Builder × List String) :=
  (Color.all.flatMap fun chosen =>
    [(chosen.name, color chosen none, []),
      (chosen.boldName, color chosen (some .bold), [])]) ++
    (Emphasis.all.map fun chosen => (chosen.name, emphasis chosen, [])) ++
    [("highlight", highlight, []), ("replace", replace, [])]

end Words

def Registry.builtin : Registry :=
  (Words.fields ++ Words.dates ++ Words.decorations).foldl
    (fun registry (word, builder, aliases) =>
      (registry.register word builder).aliasAll word aliases)
    .empty

end LogLayout.Pattern
