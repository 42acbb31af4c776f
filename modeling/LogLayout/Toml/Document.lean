import LogLayout.Toml.Number

namespace LogLayout.Toml

/-!
TOML documents.

A document is a list of lines, each a header, a key with its value, or nothing but a
comment.  Values nest only so deep.
-/

/-- A text that is no TOML document. -/
structure Malformed where
  deriving DecidableEq, Repr

/-! ## Values -/

def readScalar : Reader Value := fun text =>
  match text with
  | 't' :: 'r' :: 'u' :: 'e' :: rest => some (.boolean true, rest)
  | 'f' :: 'a' :: 'l' :: 's' :: 'e' :: rest => some (.boolean false, rest)
  | '\x22' :: _ => (readString text).map fun (read, rest) => (.string (String.ofList read), rest)
  | '\x27' :: _ => (readString text).map fun (read, rest) => (.string (String.ofList read), rest)
  | _ => (readDate text).orElse fun _ => readNumber text

/-- Read the items of an array from behind its bracket or a comma, within a number of
turns.  Line ends and comments may stand between them, and a comma behind the last. -/
def readItems (item : Reader Value) : Nat → Reader (List Value)
  | 0 => fun _ => none
  | turns + 1 => fun text =>
      match dropLines text.length text with
      | ']' :: rest => some ([], rest)
      | others => do
          let (value, rest) ← item others
          match dropLines rest.length rest with
          | ',' :: rest =>
              let (values, rest) ← readItems item turns rest
              pure (value :: values, rest)
          | ']' :: rest => pure ([value], rest)
          | _ => none

def readEntry (value : Reader Value) : Reader ((List String × String) × Value) := fun text => do
  let (key, rest) ← readKey text
  let (found, rest) ← value (dropSpace (← readMark '=' rest))
  pure ((key, found), rest)

/-- Read the entries of an inline table from behind its brace or a comma, within a
number of turns.  A comma needs an entry behind it. -/
def readInlineEntries (value : Reader Value) (entries : Entries) : Nat → Reader Entries
  | 0 => fun _ => none
  | turns + 1 => fun text => do
      let (((path, key), found), rest) ← readEntry value text
      let entries ← entries.addAt path key found .inline
      match dropSpace rest with
      | ',' :: rest => readInlineEntries value entries turns rest
      | '\x7d' :: rest => pure (entries, rest)
      | _ => none

/-- Read an inline table from behind its brace. -/
def readInline (value : Reader Value) : Reader Entries := fun text =>
  match dropSpace text with
  | '\x7d' :: rest => some ([], rest)
  | others => readInlineEntries value [] (others.length + 1) others

/-- How deep arrays and inline tables may nest. -/
def nestingLimit : Nat := 79

/-- Read a value in which others may nest so deep. -/
def readValue : Nat → Reader Value
  | 0 => readScalar
  | depth + 1 => fun text =>
      match text with
      | '[' :: rest =>
          (readItems (readValue depth) (rest.length + 1) rest).map fun (items, rest) =>
            (.array items, rest)
      | '\x7b' :: rest =>
          (readInline (readValue depth) rest).map fun (entries, rest) =>
            (.table .inline entries, rest)
      | _ => readScalar text

/-! ## Lines -/

/-- What the lines so far have built, and the header above the next one. -/
structure Progress where
  header : List String := []
  entries : Entries := []

namespace Progress

def openTable (progress : Progress) (path : List String) (key : String) : Option Progress := do
  let entries ← progress.entries.changeAt false (fun _ => Entries.openTable key) path .header
  pure ⟨path ++ [key], entries⟩

def openMember (progress : Progress) (path : List String) (key : String) : Option Progress := do
  let entries ← progress.entries.changeAt false (fun _ => Entries.openMember key) path .header
  pure ⟨path ++ [key], entries⟩

def add (progress : Progress) (path : List String) (key : String) (value : Value) :
    Option Progress := do
  let entries ← progress.entries.changeAt false (fun origin entries =>
    entries.addAt path key value origin) progress.header .header
  pure { progress with entries }

/-- Take the line at the front of a text into account. -/
def readLine (progress : Progress) : Reader Progress := fun text =>
  match text with
  | '[' :: '[' :: rest => do
      let ((path, key), rest) ← readKey rest
      let rest ← readMark ']' (← readMark ']' rest)
      pure (← progress.openMember path key, ← endLine rest)
  | '[' :: rest => do
      let ((path, key), rest) ← readKey rest
      pure (← progress.openTable path key, ← endLine (← readMark ']' rest))
  | '#' :: _ => do pure (progress, ← endLine text)
  | '\n' :: _ => do pure (progress, ← endLine text)
  | '\r' :: _ => do pure (progress, ← endLine text)
  | _ => do
      let (((path, key), value), rest) ← readEntry (readValue nestingLimit) text
      pure (← progress.add path key value, ← endLine rest)

/-- Take lines into account up to the end of a text, within a number of turns. -/
def readLines (progress : Progress) : Nat → List Char → Option Progress
  | 0, _ => none
  | turns + 1, text =>
      match dropSpace text with
      | [] => some progress
      | line => do
          let (progress, rest) ← progress.readLine line
          progress.readLines turns rest

end Progress

/-- The text without a byte order mark. -/
def dropMark (text : List Char) : List Char :=
  match text with
  | '\ufeff' :: rest => rest
  | _ => text

def parse (document : String) : Except Malformed Entries :=
  let text := dropMark document.toList
  match ({} : Progress).readLines (text.length + 1) text with
  | some progress => .ok progress.entries
  | none => .error {}

end LogLayout.Toml
