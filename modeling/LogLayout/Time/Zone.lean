import LogLayout.Text.Blank
import LogLayout.Text.Decimal
import LogLayout.Time.Region

namespace LogLayout.Time

/-!
Time zones as they are written in patterns and settings.

A zone is the one of the machine, a fixed offset, or a region by name.
-/

/-- A choice of time zone. -/
inductive Zone where
  /-- The zone of the machine. -/
  | machine
  /-- A fixed offset, in seconds east. -/
  | fixed (seconds : Int)
  | region (region : Region)
  deriving DecidableEq, Repr

/-- A text that names no zone. -/
structure UnknownZone where
  text : String
  deriving DecidableEq, Repr

def UnknownZone.message (unknown : UnknownZone) : String :=
  s!"unknown time zone '{unknown.text}', expected local, UTC, an offset like +02:00 " ++
    "or a name like Europe/Oslo"

namespace Zone

def universal : Zone := fixed 0

/-- The names of the zone of the machine and of universal time, in lower case. -/
def ofLowerName? : String → Option Zone
  | "" => some machine
  | "local" => some machine
  | "system" => some machine
  | "utc" => some universal
  | "gmt" => some universal
  | "z" => some universal
  | _ => none

def cutAtColon : List Char → Option (List Char × List Char)
  | [] => none
  | ':' :: rest => some ([], rest)
  | character :: rest =>
      (cutAtColon rest).map fun (before, behind) => (character :: before, behind)

/-- The digits of hours and minutes behind a sign: one or two digits are hours,
four are hours and minutes, and a colon may separate the two. -/
def cutOffset (digits : List Char) : Option (List Char × List Char) :=
  match cutAtColon digits with
  | some (hours, minutes) => some (hours, minutes)
  | none =>
      if digits.length ≤ 2 then some (digits, ['0'])
      else if digits.length = 4 then some (digits.take 2, digits.drop 2)
      else none

def readPart? (digits : List Char) (greatest : Int) : Option Int :=
  match Text.parseInt32Chars digits with
  | .error _ => none
  | .ok value => if value ≤ greatest then some value else none

def readOffsetSize? (digits : List Char) : Option Int :=
  if digits.all fun character => character.isDigit || character == ':' then do
    let (hours, minutes) ← cutOffset digits
    let hours ← readPart? hours 18
    let minutes ← readPart? minutes 59
    pure (hours * 3600 + minutes * 60)
  else none

def readOffset? : List Char → Option Int
  | '+' :: digits => readOffsetSize? digits
  | '-' :: digits => (readOffsetSize? digits).map fun seconds => -seconds
  | _ => none

/-- Take one leading `UTC` or `GMT` off an offset. -/
def dropUniversal : List Char → List Char
  | 'U' :: 'T' :: 'C' :: rest => rest
  | 'G' :: 'M' :: 'T' :: rest => rest
  | text => text

def parse (text : String) : Except UnknownZone Zone :=
  let name := Text.trim text
  match ofLowerName? (String.ofList (name.toList.map Char.toLower)) with
  | some zone => .ok zone
  | none =>
      match readOffset? (dropUniversal name.toList) with
      | some seconds => .ok (fixed seconds)
      | none =>
          match Region.ofName? name with
          | some found => .ok (region found)
          | none => .error ⟨name⟩

/-- The offset of a zone at an instant, on a machine with the given offsets. -/
def offsetAt (zone : Zone) (machineOffset : Instant → Int) (instant : Instant) : Int :=
  match zone with
  | machine => machineOffset instant
  | fixed seconds => seconds
  | region found => found.offsetAt instant

def localTime (zone : Zone) (machineOffset : Instant → Int) (instant : Instant) :
    LocalTime :=
  .ofInstant (zone.offsetAt machineOffset instant) instant

end Zone
end LogLayout.Time
