import LogLayout.Pattern.Words

namespace LogLayout

/-!
Patterns as formatters of lines.

A compiled pattern adds nothing around its text.  A formatter ends the line, and
puts the messages of the record's error behind it.
-/

/-- A compiled pattern with the text that it was compiled from. -/
structure Formatter where
  pattern : String
  compiled : Pattern.Compiled
  includeError : Bool := true
  registry : Pattern.Registry

namespace Formatter

/-- Compile a pattern into a formatter. -/
def compile (registry : Pattern.Registry) (context : Pattern.Context) (pattern : String) :
    Except Pattern.Fault Formatter :=
  (registry.compile context pattern).map fun compiled =>
    { pattern, compiled, registry }

def errorLines (error : ErrorDetails) : String :=
  error.message ++ "\n" ++
    String.join (error.causes.map fun cause => "Caused by: " ++ cause ++ "\n")

/-- The text of a record, without a line end. -/
def render (formatter : Formatter) (record : Record) : String :=
  formatter.compiled.render record

/-- The line of a record and, unless they are left out, the lines of its error. -/
def format (formatter : Formatter) (record : Record) : String :=
  formatter.render record ++ "\n" ++
    match formatter.includeError, record.error with
    | true, some error => errorLines error
    | _, _ => ""

def words (formatter : Formatter) : List String := formatter.registry.words

end Formatter
end LogLayout
