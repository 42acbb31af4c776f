import LogLayout.Json.Reader
import LogLayout.Record
import LogLayout.Time.Timestamp

namespace LogLayout

/-!
Records written as JSON.

A record, a caller and an error are objects, or arrays of their fields in order.
Fields that have a default may be left out; unknown fields are passed over; a
known field may come only once.  Only a marker, a caller, an error and a caller's
function may be null.
-/

/-- Why a text is not a record. -/
inductive InvalidRecord where
  | malformed
  | unknownLevel (unknown : Level.UnknownName)
  deriving DecidableEq, Repr

/-- What a text says of a record.  Fields that it does not give are missing. -/
structure RecordDraft where
  logger : Option String := none
  level : Option Level := none
  timestamp : Option Time.Instant := none
  message : Option String := none
  arguments : Option (List String) := none
  thread : Option String := none
  marker : Option (Option String) := none
  pairs : Option (Table String) := none
  caller : Option (Option Caller) := none
  error : Option (Option ErrorDetails) := none

/-- The record of a draft; the present instant and the present thread stand in for
a timestamp and a thread that are missing. -/
def RecordDraft.complete (draft : RecordDraft) (now : Time.Instant) (thread : String) :
    Record where
  logger := draft.logger.getD ""
  level := draft.level.getD .info
  timestamp := draft.timestamp.getD now
  message := draft.message.getD ""
  arguments := draft.arguments.getD []
  thread := draft.thread.getD thread
  marker := draft.marker.getD none
  pairs := draft.pairs.getD .empty
  caller := draft.caller.getD none
  error := draft.error.getD none

namespace RecordDraft

abbrev Reader (Value : Type) := Json.Reader InvalidRecord Value

/-- The first flaw of the notation. -/
def fail {Value : Type} : Except InvalidRecord Value := .error .malformed

/-- A step that either succeeds or meets a flaw of the notation. -/
def orFail {Value : Type} : Option Value → Except InvalidRecord Value
  | some value => .ok value
  | none => fail

/-! ## Values -/

def readString : Reader String := fun text =>
  match Json.dropSpace text with
  | '\x22' :: rest => do
      let (characters, behind) ← orFail (Json.readCharacters rest)
      pure (String.ofList characters, behind)
  | _ => fail

/-- Read a whole number of 32 bits without sign. -/
def readLine : Reader UInt32 := fun text => do
  let start := Json.dropSpace text
  let behind ← orFail (Json.skipNumber start)
  let digits := start.take (start.length - behind.length)
  if digits.all Char.isDigit then
    let value := Text.digitsValue digits
    if value < 4294967296 then pure (UInt32.ofNat value, behind) else fail
  else fail

def readOptional {Value : Type} (read : Reader Value) : Reader (Option Value) := fun text =>
  match Json.dropSpace text with
  | 'n' :: rest =>
      match rest with
      | 'u' :: 'l' :: 'l' :: behind => .ok (none, behind)
      | _ => fail
  | others => (read others).map fun (value, behind) => (some value, behind)

/-- Read the items of an array from behind its bracket or a comma, within a number
of turns. -/
def readItems {State : Type} (item : State → Reader State) (state : State) (first : Bool) :
    Nat → Reader State
  | 0 => fun _ => fail
  | turns + 1 => fun text =>
      match Json.dropSpace text with
      | ']' :: rest => if first then .ok (state, rest) else fail
      | others => do
          let (state, behind) ← item state others
          match Json.dropSpace behind with
          | ',' :: rest => readItems item state false turns rest
          | ']' :: rest => pure (state, rest)
          | _ => fail

/-- Read the members of an object from behind its brace or a comma, within a number
of turns. -/
def readMembers {State : Type} (member : State → String → Reader State) (state : State)
    (first : Bool) : Nat → Reader State
  | 0 => fun _ => fail
  | turns + 1 => fun text =>
      match Json.dropSpace text with
      | '\x7d' :: rest => if first then .ok (state, rest) else fail
      | others => do
          let (key, behind) ← readString others
          match Json.dropSpace behind with
          | ':' :: behind =>
              let (state, behind) ← member state key behind
              match Json.dropSpace behind with
              | ',' :: rest => readMembers member state false turns rest
              | '\x7d' :: rest => pure (state, rest)
              | _ => fail
          | _ => fail

def readStrings : Reader (List String) := fun text =>
  match Json.dropSpace text with
  | '[' :: rest =>
      readItems (fun strings text => do
        let (string, behind) ← readString text
        pure (strings ++ [string], behind)) [] true (rest.length + 1) rest
  | _ => fail

/-- Read an object of strings, of which a repeated key keeps the last. -/
def readPairs : Reader (Table String) := fun text =>
  match Json.dropSpace text with
  | '\x7b' :: rest =>
      readMembers (fun (table : Table String) key text => do
        let (value, behind) ← readString text
        pure (table.insert key value, behind)) .empty true (rest.length + 1) rest
  | _ => fail

/-- Read a structure: an object whose members are read by name, or an array whose
items are read in order. -/
def readStructure {State : Type} (member : State → String → Reader State)
    (item : Nat → State → Reader State) (start : State) : Reader State := fun text =>
  match Json.dropSpace text with
  | '\x7b' :: rest => readMembers member start true (rest.length + 1) rest
  | '[' :: rest => do
      let ((_, state), behind) ←
        readItems (fun (index, state) text => do
          let (state, behind) ← item index state text
          pure ((index + 1, state), behind)) (0, start) true (rest.length + 1) rest
      pure (state, behind)
  | _ => fail

/-- Read a field that must not have been given before. -/
def readField {State Value : Type} (present : Option Value) (read : Reader Value)
    (store : Value → State) : Reader State := fun text =>
  if present.isSome then fail
  else do
    let (value, behind) ← read text
    pure (store value, behind)

/-- Pass over the value of an unknown field. -/
def skipField {State : Type} (state : State) : Reader State := fun text => do
  pure (state, ← orFail (Json.skipValue text))

/-! ## Structures -/

/-- What a text says of a caller. -/
structure CallerDraft where
  module : Option String := none
  file : Option String := none
  line : Option UInt32 := none
  function : Option (Option String) := none

/-- The fields of a caller, in order. -/
def callerFields : List String := ["module", "file", "line", "function"]

def readCallerField (draft : CallerDraft) : String → Reader CallerDraft
  | "module" => readField draft.module readString fun value =>
      { draft with module := some value }
  | "file" => readField draft.file readString fun value => { draft with file := some value }
  | "line" => readField draft.line readLine fun value => { draft with line := some value }
  | "function" => readField draft.function (readOptional readString) fun value =>
      { draft with function := some value }
  | _ => skipField draft

/-- Read a caller, which has everything but a function. -/
def readCaller : Reader Caller := fun text => do
  let (draft, behind) ← readStructure readCallerField
    (fun index draft =>
      match callerFields[index]? with
      | some name => readCallerField draft name
      | none => fun _ => fail) {} text
  match draft.module, draft.file, draft.line with
  | some module, some file, some line =>
      pure (⟨module, file, line, draft.function.getD none⟩, behind)
  | _, _, _ => fail

/-- What a text says of an error. -/
structure ErrorDraft where
  message : Option String := none
  causes : Option (List String) := none

/-- The fields of an error, in order. -/
def errorFields : List String := ["message", "causes"]

def readErrorField (draft : ErrorDraft) : String → Reader ErrorDraft
  | "message" => readField draft.message readString fun value =>
      { draft with message := some value }
  | "causes" => readField draft.causes readStrings fun value =>
      { draft with causes := some value }
  | _ => skipField draft

def readError : Reader ErrorDetails := fun text => do
  let (draft, behind) ← readStructure readErrorField
    (fun index draft =>
      match errorFields[index]? with
      | some name => readErrorField draft name
      | none => fun _ => fail) {} text
  pure (⟨draft.message.getD "", draft.causes.getD []⟩, behind)

def readLevel : Reader Level := fun text => do
  let (name, behind) ← readString text
  match Level.parse name with
  | .ok level => pure (level, behind)
  | .error unknown => .error (.unknownLevel unknown)

def readTimestamp : Reader Time.Instant := fun text => do
  let (written, behind) ← readString text
  pure (← orFail (Time.Timestamp.parse? written), behind)

/-- The fields of a record, in order. -/
def recordFields : List String :=
  ["logger", "level", "timestamp", "message", "args", "thread", "marker", "mdc", "caller",
    "error"]

def readRecordField (draft : RecordDraft) : String → Reader RecordDraft
  | "logger" => readField draft.logger readString fun value =>
      { draft with logger := some value }
  | "level" => readField draft.level readLevel fun value => { draft with level := some value }
  | "timestamp" => readField draft.timestamp readTimestamp fun value =>
      { draft with timestamp := some value }
  | "message" => readField draft.message readString fun value =>
      { draft with message := some value }
  | "args" => readField draft.arguments readStrings fun value =>
      { draft with arguments := some value }
  | "thread" => readField draft.thread readString fun value =>
      { draft with thread := some value }
  | "marker" => readField draft.marker (readOptional readString) fun value =>
      { draft with marker := some value }
  | "mdc" => readField draft.pairs readPairs fun value => { draft with pairs := some value }
  | "caller" => readField draft.caller (readOptional readCaller) fun value =>
      { draft with caller := some value }
  | "error" => readField draft.error (readOptional readError) fun value =>
      { draft with error := some value }
  | _ => skipField draft

/-- Read a record that takes up a whole text. -/
def parse (text : String) : Except InvalidRecord RecordDraft := do
  let (draft, behind) ← readStructure readRecordField
    (fun index draft =>
      match recordFields[index]? with
      | some name => readRecordField draft name
      | none => fun _ => fail) {} text.toList
  if (Json.dropSpace behind).isEmpty then pure draft else fail

end RecordDraft
end LogLayout
