import LogLayout.Time.Instant
import LogLayout.Level
import LogLayout.Message
import LogLayout.Table

namespace LogLayout

/-!
The log record, which holds everything that a directive can show.
-/

/-- Where a record was made. -/
structure Caller where
  module : String
  file : String
  line : UInt32
  function : Option String := none
  deriving DecidableEq, Repr

/-- An error that a record carries: its message and the messages of its causes,
outermost first. -/
structure ErrorDetails where
  message : String
  causes : List String := []
  deriving DecidableEq, Repr

/-- One log event. -/
structure Record where
  logger : String
  level : Level
  timestamp : Time.Instant
  /-- The message template, in which `arguments` are filled. -/
  message : String
  arguments : List String := []
  thread : String
  marker : Option String := none
  /-- The pairs of the diagnostic context. -/
  pairs : Table String := .empty
  caller : Option Caller := none
  error : Option ErrorDetails := none

namespace Record

def formattedMessage (record : Record) : String :=
  Message.fill record.message record.arguments

/-- The record with one more pair; a repeated key takes the later value. -/
def withPair (record : Record) (key value : String) : Record :=
  { record with pairs := record.pairs.insert key value }

/-- A made-up record to try patterns on. -/
def sample (timestamp : Time.Instant) (thread : String) : Record where
  logger := "org.example.app.Service"
  level := .info
  timestamp := timestamp
  message := "Hello \x7b\x7d"
  arguments := ["world"]
  thread := thread
  pairs := Table.ofList [("user", "alice"), ("request", "42")]

end Record
end LogLayout
