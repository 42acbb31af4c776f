import LogLayout.Config.Toml

namespace LogLayout.Config

/-!
Settings from files that include others.

A file is read once at most.  Loading keeps the list of files that it has read: a file
that is to be read again makes it fail, and since the files are finite in number and
every file that is read leaves fewer to read, it comes to an end.
-/

/-- Why settings cannot be loaded. -/
inductive LoadError where
  | unreadable (flaw : FileFlaw)
  /-- A text that holds no settings. -/
  | invalid
  /-- A file that is to be read a second time. -/
  | cyclic (place : Place)
  /-- There is no folder to look for settings in. -/
  | homeless
  deriving DecidableEq, Repr

def LoadError.message : LoadError → String
  | unreadable flaw => "I/O error: " ++ flaw.message
  | invalid => "parse error"
  | cyclic place => "cyclic include: " ++ place.text
  | homeless => "config directory not found"

/-- The result of loading, with the files that have been read by then. -/
structure Loading where
  result : Except LoadError Config
  read : List Place
  notices : List Notice

/-- A step of loading that forgets none of the files read before. -/
abbrev Onward (read : List Place) := { loading : Loading // read ⊆ loading.read }

def unread (places read : List Place) : Nat :=
  (places.filter fun place => place ∉ read).length

theorem unread_le (places : List Place) {earlier later : List Place}
    (kept : earlier ⊆ later) : unread places later ≤ unread places earlier := by
  unfold unread
  induction places with
  | nil => exact Nat.le_refl _
  | cons place others inductionHypothesis =>
      by_cases old : place ∈ earlier
      · simpa [old, kept old] using inductionHypothesis
      · by_cases new : place ∈ later <;> simp [old, new] <;> simp at inductionHypothesis <;> omega

/-- Reading a new one of the places leaves fewer to read. -/
theorem unread_lt {places read : List Place} {place : Place} (member : place ∈ places)
    (new : place ∉ read) : unread places (read ++ [place]) < unread places read := by
  induction places with
  | nil => cases member
  | cons other others inductionHypothesis =>
      have rest := unread_le others (List.subset_append_left read [place])
      unfold unread at rest inductionHypothesis ⊢
      by_cases same : other = place
      · subst same
        simp [new] at rest ⊢
        omega
      · have shorter := inductionHypothesis
          ((List.mem_cons.mp member).resolve_left (Ne.symm same))
        by_cases old : other ∈ read
        · simpa [old] using shorter
        · simp [old, same] at shorter ⊢
          omega

mutual

/-- Load the file at a place, unless it has been read before. -/
def loadPlace (environment : Environment) (place : Place) (read : List Place) :
    Onward read :=
  if new : place ∈ read then
    ⟨⟨.error (.cyclic place), read,
      [.warn "CONFIG" s!"Cyclic include detected: {place.text}"]⟩, fun _ => id⟩
  else
    match found : environment.files.textAt place with
    | .error flaw => ⟨⟨.error (.unreadable flaw), read, []⟩, fun _ => id⟩
    | .ok text =>
        have := unread_lt (FileTree.mem_places_of_textAt found) new
        have kept : read ⊆ read ++ [place] := List.subset_append_left read [place]
        let extract := extractSources text
        match decode? (String.ofList extract.rest) with
        | none => ⟨⟨.error .invalid, read ++ [place], []⟩, kept⟩
        | some config =>
            let loaded := loadSources environment place.dropLast extract.sources config
              (read ++ [place])
            ⟨loaded.1, fun _ member => loaded.2 (kept member)⟩
termination_by (unread environment.files.places read, 0)

/-- Load the files that are included from a folder, and add them to the settings one
after another.  A file that is not there is passed over with a warning. -/
def loadSources (environment : Environment) (folder : Place) (sources : List String)
    (config : Config) (read : List Place) : Onward read :=
  match sources with
  | [] => ⟨⟨.ok config, read, []⟩, fun _ => id⟩
  | source :: others =>
      let start : Notice := .debug "CONFIG" s!"Processing source: {source}"
      match environment.files.locate folder (environment.expandTilde source) with
      | .error _ =>
          let absent : Notice := .warn "CONFIG" s!"Source file not found: {source}"
          let loaded := loadSources environment folder others config read
          ⟨{ loaded.1 with notices := start :: absent :: loaded.1.notices }, loaded.2⟩
      | .ok place =>
          let included := loadPlace environment place read
          match included.1.result with
          | .error failure =>
              ⟨⟨.error failure, included.1.read, start :: included.1.notices⟩, included.2⟩
          | .ok other =>
              have := unread_le environment.files.places included.2
              let loaded := loadSources environment folder others (config.merge other)
                included.1.read
              let notices := start :: included.1.notices ++ loaded.1.notices
              ⟨{ loaded.1 with notices }, fun _ member => loaded.2 (included.2 member)⟩
termination_by (unread environment.files.places read, sources.length + 1)
decreasing_by
  · exact Prod.Lex.right _ (Nat.lt_succ_self _)
  · exact Prod.Lex.right _ (Nat.succ_pos _)
  · exact Prod.Lex.right' _ this (Nat.lt_succ_self _)

end

/-- Load the settings at the end of a path; where no file is there, all defaults
hold. -/
def loadFrom (environment : Environment) (path : String) : Noted (Except LoadError Config) :=
  match environment.files.locate environment.folder path with
  | .error _ => ⟨.ok {}, [.debug "CONFIG" "Config file not found, using defaults"]⟩
  | .ok place =>
      let loaded := loadPlace environment place []
      ⟨loaded.1.result, loaded.1.notices⟩

/-- Load the settings from the place where they are looked for by default. -/
def load (environment : Environment) : Noted (Except LoadError Config) :=
  let start : Notice := .debug "CONFIG" "Loading config from default location"
  match environment.settingsPath? with
  | none => ⟨.error .homeless, [start]⟩
  | some path =>
      let loaded := loadFrom environment path
      let finish : List Notice := match loaded.result with
        | .ok _ => [.info "CONFIG" s!"Config loaded from {path}"]
        | .error _ => []
      ⟨loaded.result, start :: loaded.notices ++ finish⟩

end LogLayout.Config
