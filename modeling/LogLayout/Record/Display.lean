import LogLayout.Record
import LogLayout.Text.Decimal
import LogLayout.Text.Printable
import LogLayout.Time.Calendar

namespace LogLayout

/-!
A display of a record with all its fields, one on a line.

Values that hold others open on one line and close on another, with their parts
indented between.  Texts stand in quotes, with escapes for whatever cannot be seen.
-/

/-- A value as it is laid out. -/
inductive Layout where
  | word (text : String)
  /-- Parts between an opening and a closing text, each with what stands before it. -/
  | nest (opening closing : String) (parts : List (String × Layout))

namespace Layout

/-- The blanks in front of a line. -/
def indentation (depth : Nat) : String := String.ofList (List.replicate (4 * depth) ' ')

mutual

def text (depth : Nat) : Layout → String
  | word text => text
  | nest opening closing parts =>
      if parts.isEmpty then opening ++ closing
      else
        opening ++ "\n" ++ partsText (depth + 1) parts ++ indentation depth ++ closing

def partsText (depth : Nat) : List (String × Layout) → String
  | [] => ""
  | (label, part) :: others =>
      indentation depth ++ label ++ part.text depth ++ ",\n" ++ partsText depth others

end

def list (items : List Layout) : Layout := .nest "[" "]" (items.map ("", ·))

/-- A value that may be missing. -/
def optional : Option Layout → Layout
  | none => .word "None"
  | some layout => .nest "Some(" ")" [("", layout)]

def structured (name : String) (fields : List (String × Layout)) : Layout :=
  .nest (name ++ " \x7b") "\x7d" (fields.map fun (field, layout) => (field ++ ": ", layout))

end Layout

namespace Record

def hexText (number : Nat) : String := String.ofList (Nat.toDigits 16 number)

def quotedChar (character : Char) : String :=
  match character with
  | '\t' => "\\t"
  | '\r' => "\\r"
  | '\n' => "\\n"
  | '\x22' => "\\\x22"
  | '\\' => "\\\\"
  | '\x00' => "\\0"
  | _ =>
      if Text.isPrintable character then character.toString
      else "\\u\x7b" ++ hexText character.toNat ++ "\x7d"

def quoted (text : String) : Layout :=
  .word ("\x22" ++ String.join (text.toList.map quotedChar) ++ "\x22")

/-- A year of four digits, or with a sign if it needs more. -/
def yearText (year : Int) : String :=
  if 0 ≤ year && year ≤ 9999 then Text.zeroPadded 4 year.toNat
  else (if year < 0 then "-" else "+") ++ Text.zeroPadded 4 year.natAbs

/-- A fraction of a second in the fewest groups of three digits, with its point. -/
def fractionText (nanos : Nat) : String :=
  if nanos = 0 then ""
  else if nanos % 1000000 = 0 then "." ++ Text.zeroPadded 3 (nanos / 1000000)
  else if nanos % 1000 = 0 then "." ++ Text.zeroPadded 6 (nanos / 1000)
  else "." ++ Text.zeroPadded 9 nanos

def instantText (instant : Time.Instant) : String :=
  let time := Time.LocalTime.ofInstant 0 instant
  yearText time.date.year ++ "-" ++ Text.zeroPadded 2 time.date.month ++ "-" ++
    Text.zeroPadded 2 time.date.day ++ "T" ++ Text.zeroPadded 2 time.hour ++ ":" ++
    Text.zeroPadded 2 time.minute ++ ":" ++ Text.zeroPadded 2 time.second ++
    fractionText time.fraction ++ "Z"

def levelText : Level → String
  | .trace => "Trace"
  | .debug => "Debug"
  | .info => "Info"
  | .warn => "Warn"
  | .error => "Error"

def callerLayout (caller : Caller) : Layout :=
  .structured "CallerLocation"
    [("module", quoted caller.module), ("file", quoted caller.file),
      ("line", .word (toString caller.line.toNat)),
      ("function", .optional (caller.function.map quoted))]

def errorLayout (error : ErrorDetails) : Layout :=
  .structured "ErrorDetails"
    [("message", quoted error.message), ("causes", .list (error.causes.map quoted))]

def layout (record : Record) : Layout :=
  .structured "LogRecord"
    [("logger", quoted record.logger), ("level", .word (levelText record.level)),
      ("timestamp", .word (instantText record.timestamp)),
      ("message", quoted record.message), ("args", .list (record.arguments.map quoted)),
      ("thread", quoted record.thread), ("marker", .optional (record.marker.map quoted)),
      ("mdc", .nest "\x7b" "\x7d" (record.pairs.entries.map fun (key, value) =>
        ((quoted key).text 0 ++ ": ", quoted value))),
      ("caller", .optional (record.caller.map callerLayout)),
      ("error", .optional (record.error.map errorLayout))]

def display (record : Record) : String := record.layout.text 0

end Record
end LogLayout
