import LogLayout.Record
import LogLayout.Text.Blank

namespace LogLayout

/-!
Records from words: pairs written `key=value`, and the fields that a command gives.
-/

/-- A text that is no pair. -/
structure InvalidPair where
  entry : String
  deriving DecidableEq, Repr

def InvalidPair.message (invalid : InvalidPair) : String :=
  s!"invalid MDC entry '{invalid.entry}', expected KEY=VALUE"

/-- Cut a text at its first equals sign. -/
def cutAtEquals : List Char → Option (List Char × List Char)
  | [] => none
  | '=' :: rest => some ([], rest)
  | character :: rest =>
      (cutAtEquals rest).map fun (before, behind) => (character :: before, behind)

/-- Read a pair.  Its key is what stands before the first equals sign, without blanks
around it, and must not be empty; its value is all that stands behind the sign. -/
def readPair (entry : String) : Except InvalidPair (String × String) :=
  match cutAtEquals entry.toList with
  | none => .error ⟨entry⟩
  | some (key, value) =>
      let key := Text.trimChars key
      if key.isEmpty then .error ⟨entry⟩ else .ok (String.ofList key, String.ofList value)

/-- What a command says of the record that it asks for. -/
structure RecordRequest where
  level : Level := .info
  logger : String := "patternlog"
  thread : Option String := none
  pairs : List String := []
  words : List String := []
  deriving DecidableEq, Repr

namespace RecordRequest

/-- The pairs of a request, of which a later one replaces an earlier one with the same
key. -/
def readPairs (entries : List String) : Except InvalidPair (Table String) := do
  pure (Table.ofList (← entries.mapM readPair))

def record (request : RecordRequest) (now : Time.Instant) (thread : String) :
    Except InvalidPair Record := do
  let pairs ← readPairs request.pairs
  pure {
    logger := request.logger
    level := request.level
    timestamp := now
    message := String.intercalate " " request.words
    thread := request.thread.getD thread
    pairs }

end RecordRequest
end LogLayout
