import LogLayout.Text.Lines

namespace LogLayout

/-!
Files in folders.

A tree of files is finite.  Files and folders lie at places, which are lists of names
from the root; a path is the way to a place as it is written, with folders to pass
through and steps back up.
-/

/-- Where a file or a folder lies: the names on the way from the root. -/
abbrev Place := List String

def Place.text (place : Place) : String :=
  if place.isEmpty then "/" else String.join (place.map fun name => "/" ++ name)

/-- What lies at a place. -/
inductive FileEntry where
  | file (bytes : List UInt8)
  | folder
  deriving DecidableEq, Repr

/-- Why a file cannot be read. -/
inductive FileFlaw where
  | missing
  | notFolder
  | isFolder
  | notText
  deriving DecidableEq, Repr

def FileFlaw.message : FileFlaw → String
  | missing => "No such file or directory (os error 2)"
  | notFolder => "Not a directory (os error 20)"
  | isFolder => "Is a directory (os error 21)"
  | notText => "stream did not contain valid UTF-8"

/-- The files and folders of a machine.  A folder exists wherever something lies in it.  There are
no links, so that a place can be reached under one name only: a written path and the place that it
leads to never differ in their folder. -/
structure FileTree where
  entries : List (Place × FileEntry)

namespace FileTree

def entry? (tree : FileTree) (place : Place) : Option FileEntry :=
  match tree.entries.lookup place with
  | some entry => some entry
  | none =>
      if place.isEmpty || tree.entries.any fun (other, _) => place.isPrefixOf other then
        some .folder
      else none

/-- The names in a written path.  Doubled slashes count once; a slash at the end asks
for a folder. -/
def steps (path : String) : List String :=
  let names := (path.toList.splitOn '/').map String.ofList
  let inner := names.filter (· ≠ "")
  if names.getLast? = some "" && !inner.isEmpty then inner ++ ["."] else inner

/-- The place that steps lead to where every folder on the way is there. -/
def aim (place : Place) : List String → Place
  | [] => place
  | step :: steps =>
      if step = "." then aim place steps
      else if step = ".." then aim place.dropLast steps
      else aim (place ++ [step]) steps

def follow (tree : FileTree) (place : Place) : List String → Except FileFlaw Place
  | [] => if (tree.entry? place).isSome then .ok place else .error .missing
  | step :: steps =>
      match tree.entry? place with
      | none => .error .missing
      | some (.file _) => .error .notFolder
      | some .folder =>
          if step = "." then tree.follow place steps
          else if step = ".." then tree.follow place.dropLast steps
          else tree.follow (place ++ [step]) steps

/-- Whether a path starts at the root. -/
def isAbsolute (path : String) : Bool := path.toList.head? = some '/'

def aimAt (folder : Place) (path : String) : Place :=
  aim (if isAbsolute path then [] else folder) (steps path)

/-- The place that a path leads to from a folder. -/
def locate (tree : FileTree) (folder : Place) (path : String) : Except FileFlaw Place :=
  if path = "" then .error .missing
  else tree.follow (if isAbsolute path then [] else folder) (steps path)

theorem aim_of_follow {tree : FileTree} {place found : Place} {steps : List String}
    (followed : tree.follow place steps = .ok found) : found = aim place steps := by
  induction steps generalizing place with
  | nil =>
      unfold follow at followed
      split at followed
      · exact (Except.ok.inj followed).symm
      · cases followed
  | cons step steps inductionHypothesis =>
      unfold follow at followed
      unfold aim
      split at followed
      · cases followed
      · cases followed
      · split at followed
        next here => simpa [here] using inductionHypothesis followed
        next notHere =>
          split at followed
          next up => simpa [notHere, up] using inductionHypothesis followed
          next notUp => simpa [notHere, notUp] using inductionHypothesis followed

theorem aimAt_of_locate {tree : FileTree} {folder found : Place} {path : String}
    (located : tree.locate folder path = .ok found) : found = aimAt folder path := by
  unfold locate at located
  split at located
  · cases located
  · exact aim_of_follow located

def bytesAt (tree : FileTree) (place : Place) : Except FileFlaw (List UInt8) :=
  match tree.entries.lookup place with
  | some (.file bytes) => .ok bytes
  | some .folder => .error .isFolder
  | none => if (tree.entry? place).isSome then .error .isFolder else .error .missing

def textAt (tree : FileTree) (place : Place) : Except FileFlaw String := do
  match Text.decode? (← tree.bytesAt place) with
  | some text => pure text
  | none => throw .notText

/-- Whether a file can be written at the end of a path once the folders on the way have
been made. -/
def canWrite (tree : FileTree) (folder : Place) (path : String) : Bool :=
  let place := (if isAbsolute path then [] else folder) ++ steps path
  let isFile (place : Place) : Bool :=
    match tree.entry? place with
    | some (.file _) => true
    | _ => false
  let onTheWay := (List.range place.length).map fun count => place.take count
  !onTheWay.any isFile && tree.entry? place ≠ some .folder

def places (tree : FileTree) : List Place := tree.entries.map Prod.fst

theorem mem_places_of_bytesAt {tree : FileTree} {place : Place} {bytes : List UInt8}
    (read : tree.bytesAt place = .ok bytes) : place ∈ tree.places := by
  unfold bytesAt at read
  split at read
  next found =>
    obtain ⟨before, behind, same, _⟩ := List.lookup_eq_some_iff.mp found
    simp [places, same]
  · cases read
  · split at read <;> cases read

theorem mem_places_of_textAt {tree : FileTree} {place : Place} {text : String}
    (read : tree.textAt place = .ok text) : place ∈ tree.places := by
  unfold textAt at read
  cases bytes : tree.bytesAt place with
  | error flaw => simp [bytes, bind, Except.bind] at read
  | ok found => exact mem_places_of_bytesAt bytes

end FileTree

/-- A path below a folder, both as they are written. -/
def joinPath (folder name : String) : String :=
  if folder = "" || folder.toList.getLast? = some '/' then folder ++ name
  else folder ++ "/" ++ name

end LogLayout
