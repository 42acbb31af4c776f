namespace LogLayout

/-!
The severity of a record.

Levels are ordered from the most detailed to the most severe, so that a
threshold is a comparison of ranks.
-/

/-- The severity of a record, from the most detailed to the most severe. -/
inductive Level where
  | trace
  | debug
  | info
  | warn
  | error
  deriving DecidableEq, Repr

namespace Level

/-- The place of a level in the order of severity, counted from zero. -/
def rank : Level → Nat
  | trace => 0
  | debug => 1
  | info => 2
  | warn => 3
  | error => 4

/-- The upper-case name, as a line shows it. -/
def name : Level → String
  | trace => "TRACE"
  | debug => "DEBUG"
  | info => "INFO"
  | warn => "WARN"
  | error => "ERROR"

/-- Every level, in rising order. -/
def all : List Level := [trace, debug, info, warn, error]

instance : LE Level := ⟨fun left right => left.rank ≤ right.rank⟩

instance : LT Level := ⟨fun left right => left.rank < right.rank⟩

instance (left right : Level) : Decidable (left ≤ right) :=
  inferInstanceAs (Decidable (left.rank ≤ right.rank))

instance (left right : Level) : Decidable (left < right) :=
  inferInstanceAs (Decidable (left.rank < right.rank))

/-- A text that names no level. -/
structure UnknownName where
  text : String
  deriving DecidableEq, Repr

def UnknownName.message (unknown : UnknownName) : String :=
  s!"unknown log level: '{unknown.text}'"

/-- The names that are accepted for a level, in lower case.  `warning` and
`err` are second spellings. -/
def ofLowerName? : String → Option Level
  | "trace" => some trace
  | "debug" => some debug
  | "info" => some info
  | "warn" => some warn
  | "warning" => some warn
  | "error" => some error
  | "err" => some error
  | _ => none

/-- Read a level name in any mixture of cases.  Only ASCII letters need folding:
no other character has a lower case made of the letters of these names. -/
def parse (text : String) : Except UnknownName Level :=
  match ofLowerName? (String.ofList (text.toList.map Char.toLower)) with
  | some level => .ok level
  | none => .error ⟨text⟩

end Level
end LogLayout
