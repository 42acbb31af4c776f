import LogLayout.Proofs.Json.Grammar
import LogLayout.Proofs.Time.Timestamps
import LogLayout.Record.Json

namespace LogLayout

open Json

/-!
# Texts of records

What texts a record can be written as.  A structure is an object whose members stand in any
order: each field of it at most once, and others as often as one likes, with any value.  A field
may be left out where its value is the default of the structure.  The default timestamp and
thread of a record are those of the moment at which it is read.
-/

/-! ## Values -/

/-- A text writes a string. -/
def StringWritten (string : String) (text : List Char) : Prop := StringText string.toList text

/-- A text is null or writes a value. -/
def OptionWritten {Value : Type} (written : Value → List Char → Prop) :
    Option Value → List Char → Prop
  | none, text => text = ['n', 'u', 'l', 'l']
  | some value, text => written value text

/-- A text writes strings as an array. -/
def StringsWritten (strings : List String) (text : List Char) : Prop :=
  ∃ items, ArrayText items text ∧ List.Forall₂ StringWritten strings items

/-- A text writes pairs as an object, in any order. -/
def PairsWritten (pairs : Table String) (text : List Char) : Prop :=
  ∃ entries members, ObjectText members text ∧ entries.Perm pairs.entries ∧
    List.Forall₂ (fun entry member => member.1 = entry.1 ∧ StringWritten entry.2 member.2)
      entries members

/-- A text writes the number of a line. -/
def LineWritten (line : UInt32) (text : List Char) : Prop :=
  Whole text ∧ Nat.ofDigitChars 10 text 0 = line.toNat

/-- The names of a level, in lower case. -/
def Level.spellings : Level → List String
  | .trace => ["trace"]
  | .debug => ["debug"]
  | .info => ["info"]
  | .warn => ["warn", "warning"]
  | .error => ["error", "err"]

/-- A text writes a level by one of its names, in any mixture of cases. -/
def LevelWritten (level : Level) (text : List Char) : Prop :=
  ∃ name, String.ofList (name.map Char.toLower) ∈ level.spellings ∧ StringText name text

/-- A text writes a string that is a date of some kind. -/
def DateWritten (date : List Char → Prop) (text : List Char) : Prop :=
  ∃ written, date written ∧ StringText written text

/-! ## Structures -/

/-- Members give the fields of a structure: no field twice, every member as it may be written,
and no field is left out that may not be. -/
structure FieldsGiven (fields : List String) (written : String → List Char → Prop)
    (omitted : String → Prop) (members : List (String × List Char)) : Prop where
  once : ((members.map Prod.fst).filter (· ∈ fields)).Nodup
  each : ∀ member ∈ members, written member.1 member.2
  others : ∀ field ∈ fields, field ∉ members.map Prod.fst → omitted field

/-- A text writes a structure as an object. -/
def StructureWritten (fields : List String) (written : String → List Char → Prop)
    (omitted : String → Prop) (text : List Char) : Prop :=
  ∃ members, ObjectText members text ∧ FieldsGiven fields written omitted members

namespace Caller

/-- How the value of a field of a caller may be written; other members may have any value. -/
def FieldWritten (caller : Caller) : String → List Char → Prop
  | "module" => StringWritten caller.module
  | "file" => StringWritten caller.file
  | "line" => LineWritten caller.line
  | "function" => OptionWritten StringWritten caller.function
  | _ => Derives .value

theorem fieldWritten_of_not_mem (caller : Caller) {key : String}
    (unknown : key ∉ RecordDraft.callerFields) : caller.FieldWritten key = Derives .value := by
  unfold FieldWritten
  split
  all_goals first
    | rfl
    | exact absurd (by decide) unknown

/-- Only the function of a caller may be left out. -/
def FieldOmitted (caller : Caller) (field : String) : Prop :=
  field = "function" ∧ caller.function = none

/-- A text writes a caller. -/
def Written (caller : Caller) : List Char → Prop :=
  StructureWritten RecordDraft.callerFields caller.FieldWritten caller.FieldOmitted

end Caller

namespace ErrorDetails

/-- How the value of a field of an error may be written; other members may have any value. -/
def FieldWritten (error : ErrorDetails) : String → List Char → Prop
  | "message" => StringWritten error.message
  | "causes" => StringsWritten error.causes
  | _ => Derives .value

theorem fieldWritten_of_not_mem (error : ErrorDetails) {key : String}
    (unknown : key ∉ RecordDraft.errorFields) : error.FieldWritten key = Derives .value := by
  unfold FieldWritten
  split
  all_goals first
    | rfl
    | exact absurd (by decide) unknown

/-- Either field of an error may be left out if it is empty. -/
def FieldOmitted (error : ErrorDetails) : String → Prop
  | "message" => error.message = ""
  | "causes" => error.causes = []
  | _ => True

/-- A text writes an error. -/
def Written (error : ErrorDetails) : List Char → Prop :=
  StructureWritten RecordDraft.errorFields error.FieldWritten error.FieldOmitted

end ErrorDetails

namespace Record

/-- How the value of a field of a record may be written, with a date of some kind as the
timestamp; other members may have any value. -/
def FieldWritten (date : List Char → Prop) (record : Record) : String → List Char → Prop
  | "logger" => StringWritten record.logger
  | "level" => LevelWritten record.level
  | "timestamp" => DateWritten date
  | "message" => StringWritten record.message
  | "args" => StringsWritten record.arguments
  | "thread" => StringWritten record.thread
  | "marker" => OptionWritten StringWritten record.marker
  | "mdc" => PairsWritten record.pairs
  | "caller" => OptionWritten Caller.Written record.caller
  | "error" => OptionWritten ErrorDetails.Written record.error
  | _ => Derives .value

theorem fieldWritten_of_not_mem {date : List Char → Prop} (record : Record) {key : String}
    (unknown : key ∉ RecordDraft.recordFields) : record.FieldWritten date key = Derives .value := by
  unfold FieldWritten
  split
  all_goals first
    | rfl
    | exact absurd (by decide) unknown

/-- Every field of a record may be left out if it has the value that stands in for it. -/
def FieldOmitted (now : Time.Instant) (thread : String) (record : Record) : String → Prop
  | "logger" => record.logger = ""
  | "level" => record.level = .info
  | "timestamp" => record.timestamp = now
  | "message" => record.message = ""
  | "args" => record.arguments = []
  | "thread" => record.thread = thread
  | "marker" => record.marker = none
  | "mdc" => record.pairs = .empty
  | "caller" => record.caller = none
  | "error" => record.error = none
  | _ => True

/-- A text writes a record, read at some moment in some thread, with a date of some kind as the
timestamp. -/
def WrittenWith (date : List Char → Prop) (now : Time.Instant) (thread : String)
    (record : Record) (text : String) : Prop :=
  ∃ before object behind, Blank before ∧ Blank behind ∧
    StructureWritten RecordDraft.recordFields (record.FieldWritten date)
      (record.FieldOmitted now thread) object ∧
    text.toList = before ++ (object ++ behind)

/-- A text writes a record, read at some moment in some thread. -/
def Written (now : Time.Instant) (thread : String) (record : Record) : String → Prop :=
  record.WrittenWith (Time.Timestamp.Writes record.timestamp) now thread

end Record
end LogLayout
