import LogLayout.Environment
import LogLayout.Formatter
import LogLayout.Notice
import LogLayout.Record.Json

namespace LogLayout

/-!
Records in lines of JSON.

Blank lines are passed over.  A line that holds no record counts as failed and shows
nothing; a line that encodes no text ends the reading.
-/

/-- The wording of a line that holds no record. -/
def InvalidRecord.message : InvalidRecord → String
  | malformed => "invalid record"
  | unknownLevel unknown => "invalid record: " ++ unknown.message

/-- What has become of the lines of a batch. -/
structure Batch where
  output : String := ""
  rendered : Nat := 0
  failed : Nat := 0
  notices : List Notice := []
  /-- Whether every line could be read. -/
  complete : Bool := true

namespace Batch

def ofLine (formatter : Formatter) (environment : Environment) (line : String) : Batch :=
  if Text.allBlank line then {}
  else
    match RecordDraft.parse line with
    | .ok draft =>
        { output := formatter.format (draft.complete environment.now environment.thread)
          rendered := 1 }
    | .error invalid => { failed := 1, notices := [.error "RENDER" invalid.message] }

/-- What becomes of one batch and then another. -/
def append (first second : Batch) : Batch where
  output := first.output ++ second.output
  rendered := first.rendered + second.rendered
  failed := first.failed + second.failed
  notices := first.notices ++ second.notices
  complete := first.complete && second.complete

instance : Append Batch := ⟨append⟩

/-- What becomes of lines; a missing one encodes no text. -/
def ofLines (formatter : Formatter) (environment : Environment) :
    List (Option String) → Batch
  | [] => {}
  | none :: _ =>
      { complete := false
        notices := [.error "RENDER" s!"Error reading input: {FileFlaw.notText.message}"] }
  | some line :: others =>
      ofLine formatter environment line ++ ofLines formatter environment others

/-- Whether every line could be read and none failed. -/
def succeeded (batch : Batch) : Bool := batch.complete && batch.failed = 0

def allNotices (batch : Batch) : List Notice :=
  if batch.complete then
    batch.notices ++
      [.info "RENDER" s!"Rendered {batch.rendered} record(s), {batch.failed} failed"]
  else batch.notices

end Batch
end LogLayout
