import LogLayout.Proofs.Config.Loading
import Mathlib.Algebra.BigOperators.Group.Finset.Basic
import Mathlib.Logic.Function.Iterate

namespace LogLayout.Config

/-!
# Loading step by step

Loading goes one file deeper with every line that includes a file, and nothing about one file
bounds how deep that may lead.  Here it is taken apart into steps, each of which follows one line
or leaves one file.  The files that wait for the innermost one stand on a stack, and a log keeps
every file that has been opened, also one that turns out to be of no use.

A step opens one file at most, and only one that is not in the log.  What is left to do is counted
in steps: one for every line that is still to be followed, one for every file that is still to be
left, and for a file that has not been opened those of all its lines and its own.  Opening a file
only moves its share from one part of the count to another, so the count falls with every step,
whatever includes what.
-/

/-! ## Steps -/

/-- A file that is being loaded, with the lines that are still to be followed and the settings that
it has so far. -/
structure OpenFile where
  folder : Place
  sources : List String
  config : Config

/-- Where loading stands. -/
inductive LoadState where
  | loading (file : OpenFile) (waiting : List OpenFile) (opened : List Place)
  | finished (result : Except LoadError Config) (opened : List Place)

namespace LoadState

/-- The files that have been opened, in order. -/
def opened : LoadState → List Place
  | loading _ _ opened => opened
  | finished _ opened => opened

/-- Open a file while others wait. -/
def openNew (environment : Environment) (place : Place) (waiting : List OpenFile)
    (opened : List Place) : LoadState :=
  match environment.files.textAt place with
  | .error flaw => finished (.error (.unreadable flaw)) (opened ++ [place])
  | .ok text =>
      match parse? text with
      | none => finished (.error .invalid) (opened ++ [place])
      | some config =>
          loading ⟨place.dropLast, (extractSources text).sources, config⟩ waiting
            (opened ++ [place])

/-- Open a file, unless it has been opened before. -/
def enter (environment : Environment) (place : Place) (waiting : List OpenFile)
    (opened : List Place) : LoadState :=
  if opened.contains place then finished (.error (.cyclic place)) opened
  else openNew environment place waiting opened

/-- Leave a file, whose settings are added to those of the file that waits for it. -/
def leave (config : Config) (waiting : List OpenFile) (opened : List Place) : LoadState :=
  match waiting with
  | [] => finished (.ok config) opened
  | outer :: others => loading { outer with config := outer.config.merge config } others opened

/-- Follow the next line of the innermost file, or leave it. -/
def step (environment : Environment) : LoadState → LoadState
  | finished result opened => finished result opened
  | loading ⟨_, [], config⟩ waiting opened => leave config waiting opened
  | loading ⟨folder, source :: others, config⟩ waiting opened =>
      match environment.files.locate folder (environment.expandTilde source) with
      | .error _ => loading ⟨folder, others, config⟩ waiting opened
      | .ok place => enter environment place (⟨folder, others, config⟩ :: waiting) opened

/-- The beginning, with the file at the end of a path if there is one. -/
def start (environment : Environment) (path : String) : LoadState :=
  match environment.files.locate environment.folder path with
  | .error _ => finished (.ok {}) []
  | .ok place => enter environment place [] []

variable {environment : Environment}

section

variable {folder place : Place} {source : String} (others : List String) (config : Config)
  (waiting : List OpenFile) (opened : List Place)

theorem enter_again {opened : List Place} (old : place ∈ opened) :
    enter environment place waiting opened = finished (.error (.cyclic place)) opened :=
  if_pos (List.contains_iff_mem.mpr old)

theorem enter_new {opened : List Place} (new : place ∉ opened) :
    enter environment place waiting opened = openNew environment place waiting opened :=
  if_neg fun old => new (List.contains_iff_mem.mp old)

theorem step_absent {flaw : FileFlaw}
    (absent : environment.files.locate folder (environment.expandTilde source) = .error flaw) :
    step environment (loading ⟨folder, source :: others, config⟩ waiting opened) =
      loading ⟨folder, others, config⟩ waiting opened := by
  rw [step, absent]

/-- The file of another line is entered, and the one with the line waits. -/
theorem step_located
    (located : environment.files.locate folder (environment.expandTilde source) = .ok place) :
    step environment (loading ⟨folder, source :: others, config⟩ waiting opened) =
      enter environment place (⟨folder, others, config⟩ :: waiting) opened := by
  rw [step, located]

end

/-! ## The log -/

theorem opened_openNew (place : Place) (waiting : List OpenFile) (opened : List Place) :
    (openNew environment place waiting opened).opened = opened ++ [place] := by
  unfold openNew
  split
  · rfl
  · split <;> rfl

theorem opened_leave (config : Config) (waiting : List OpenFile) (opened : List Place) :
    (leave config waiting opened).opened = opened := by
  cases waiting <;> rfl

theorem opened_step (state : LoadState) :
    (step environment state).opened = state.opened ∨
      ∃ place ∉ state.opened, (step environment state).opened = state.opened ++ [place] := by
  cases state with
  | finished => exact .inl rfl
  | loading file waiting opened =>
      rcases file with ⟨folder, sources, config⟩
      cases sources with
      | nil => exact .inl (opened_leave config waiting opened)
      | cons source others =>
          cases located : environment.files.locate folder (environment.expandTilde source) with
          | error flaw =>
              rw [step_absent others config waiting opened located]
              exact .inl rfl
          | ok place =>
              rw [step_located others config waiting opened located]
              by_cases old : place ∈ opened
              · rw [enter_again _ old]
                exact .inl rfl
              · rw [enter_new _ old]
                exact .inr ⟨place, old, opened_openNew ..⟩

theorem nodup_opened_step {state : LoadState} (nodup : state.opened.Nodup) :
    (step environment state).opened.Nodup := by
  rcases @opened_step environment state with same | ⟨place, new, more⟩
  · exact same ▸ nodup
  · rw [more, ← List.concat_eq_append]
    exact nodup.concat new

/-- No run opens a file twice. -/
theorem nodup_opened_run {state : LoadState} (nodup : state.opened.Nodup) (count : Nat) :
    ((step environment)^[count] state).opened.Nodup := by
  induction count with
  | zero => exact nodup
  | succ count inductionHypothesis =>
      rw [Function.iterate_succ_apply']
      exact nodup_opened_step inductionHypothesis

/-! ## What is left to do -/

/-- How many lines of a file name others. -/
def lineCount (environment : Environment) (place : Place) : Nat :=
  match environment.files.textAt place with
  | .ok text => (extractSources text).sources.length
  | .error _ => 0

def unopenedSteps (environment : Environment) (opened : List Place) : Nat :=
  ∑ place ∈ environment.files.places.toFinset \ opened.toFinset, (lineCount environment place + 1)

/-- The steps for files that are being loaded. -/
def openSteps : List OpenFile → Nat
  | [] => 0
  | file :: waiting => file.sources.length + 1 + openSteps waiting

/-- A bound on the steps that are left. -/
def remaining (environment : Environment) : LoadState → Nat
  | finished _ _ => 0
  | loading file waiting opened => openSteps (file :: waiting) + unopenedSteps environment opened

/-- The share of a file leaves the count of unopened files when it is opened. -/
theorem unopenedSteps_concat {place : Place} {opened : List Place}
    (member : place ∈ environment.files.places) (new : place ∉ opened) :
    lineCount environment place + 1 + unopenedSteps environment (opened ++ [place]) =
      unopenedSteps environment opened := by
  have among : place ∈ environment.files.places.toFinset \ opened.toFinset :=
    Finset.mem_sdiff.mpr ⟨List.mem_toFinset.mpr member, fun old => new (List.mem_toFinset.mp old)⟩
  have others : environment.files.places.toFinset \ (opened ++ [place]).toFinset =
      (environment.files.places.toFinset \ opened.toFinset).erase place := by
    ext other
    simp only [Finset.mem_sdiff, Finset.mem_erase, List.mem_toFinset, List.mem_append,
      List.mem_singleton, not_or]
    constructor
    · rintro ⟨there, unopened, different⟩
      exact ⟨different, there, unopened⟩
    · rintro ⟨different, there, unopened⟩
      exact ⟨there, unopened, different⟩
  rw [unopenedSteps, others]
  exact Finset.add_sum_erase _ (fun other => lineCount environment other + 1) among

theorem remaining_enter_le (place : Place) (waiting : List OpenFile) (opened : List Place) :
    remaining environment (enter environment place waiting opened) ≤
      openSteps waiting + unopenedSteps environment opened := by
  by_cases old : place ∈ opened
  · rw [enter_again _ old]
    exact Nat.zero_le _
  rw [enter_new _ old, openNew]
  split
  · exact Nat.zero_le _
  next text found =>
    split
    · exact Nat.zero_le _
    next config parsed =>
      have share := unopenedSteps_concat (FileTree.mem_places_of_textAt found) old
      rw [lineCount, found] at share
      rw [remaining, openSteps, ← share]
      dsimp only
      omega

theorem remaining_leave_le (config : Config) (waiting : List OpenFile) (opened : List Place) :
    remaining environment (leave config waiting opened) ≤
      openSteps waiting + unopenedSteps environment opened := by
  cases waiting with
  | nil => exact Nat.zero_le _
  | cons outer others => exact Nat.le_refl _

/-- Every step leaves less to do. -/
theorem remaining_step_lt (file : OpenFile) (waiting : List OpenFile) (opened : List Place) :
    remaining environment (step environment (loading file waiting opened)) <
      remaining environment (loading file waiting opened) := by
  rcases file with ⟨folder, sources, config⟩
  rw [remaining, openSteps]
  cases sources with
  | nil =>
      have left := @remaining_leave_le environment config waiting opened
      rw [step, List.length_nil]
      omega
  | cons source others =>
      rw [List.length_cons]
      cases located : environment.files.locate folder (environment.expandTilde source) with
      | error flaw =>
          rw [step_absent others config waiting opened located, remaining, openSteps]
          dsimp only
          omega
      | ok place =>
          rw [step_located others config waiting opened located]
          have entered := @remaining_enter_le environment place
            (⟨folder, others, config⟩ :: waiting) opened
          rw [openSteps] at entered
          dsimp only at entered
          omega

/-- Loading is at an end after the steps that are left, from wherever it stands. -/
theorem exists_finished (state : LoadState) {count : Nat}
    (enough : remaining environment state ≤ count) :
    ∃ result opened, (step environment)^[count] state = finished result opened := by
  induction count generalizing state with
  | zero =>
      cases state with
      | finished result opened => exact ⟨result, opened, rfl⟩
      | loading file waiting opened =>
          have less := @remaining_step_lt environment file waiting opened
          omega
  | succ count inductionHypothesis =>
      rw [Function.iterate_succ_apply]
      apply inductionHypothesis
      cases state with
      | finished => exact Nat.zero_le _
      | loading file waiting opened =>
          have less := @remaining_step_lt environment file waiting opened
          omega

/-! ## The loader takes these steps -/

/-- Some number of steps leads from one state to another. -/
def Leads (environment : Environment) (first last : LoadState) : Prop :=
  ∃ count, (step environment)^[count] first = last

namespace Leads

variable {first middle last : LoadState}

theorem refl (state : LoadState) : Leads environment state state := ⟨0, rfl⟩

theorem trans (former : Leads environment first middle) (latter : Leads environment middle last) :
    Leads environment first last := by
  obtain ⟨early, reached⟩ := former
  obtain ⟨late, ended⟩ := latter
  refine ⟨late + early, ?_⟩
  rw [Function.iterate_add_apply, reached, ended]

theorem head (former : step environment first = middle) (latter : Leads environment middle last) :
    Leads environment first last :=
  trans ⟨1, former⟩ latter

theorem nodup_opened (leads : Leads environment first last) (nodup : first.opened.Nodup) :
    last.opened.Nodup := by
  obtain ⟨count, ended⟩ := leads
  exact ended ▸ nodup_opened_run nodup count

/-- An end that is reached at all is reached within the steps that are left. -/
theorem within {result : Except LoadError Config} {opened : List Place} {bound : Nat}
    (leads : Leads environment first (finished result opened))
    (enough : remaining environment first ≤ bound) :
    (step environment)^[bound] first = finished result opened := by
  obtain ⟨count, ended⟩ := leads
  obtain ⟨otherResult, otherOpened, otherEnded⟩ := exists_finished first enough
  have same : finished otherResult otherOpened = finished result opened := by
    calc
      finished otherResult otherOpened =
          (step environment)^[count] (finished otherResult otherOpened) :=
        (Function.iterate_fixed rfl count).symm
      _ = (step environment)^[count + bound] first := by
        rw [Function.iterate_add_apply, otherEnded]
      _ = (step environment)^[bound] (finished result opened) := by
        rw [Nat.add_comm, Function.iterate_add_apply, ended]
      _ = finished result opened := Function.iterate_fixed rfl bound
  rw [otherEnded, same]

end Leads

/-- The steps come to what loading comes to: they leave the file with the loaded settings, and the
log tells what has been read, or they finish with the same failure.  A file that could not be read
is in the log only. -/
inductive Arrives (environment : Environment) (state : LoadState) (waiting : List OpenFile)
    (loading : Loading) : Prop
  | loaded (config : Config) (result : loading.result = .ok config)
    (leads : Leads environment state (leave config waiting loading.read))
  | failed (failure : LoadError) (opened : List Place) (result : loading.result = .error failure)
    (kept : loading.read <+: opened)
    (leads : Leads environment state (finished (.error failure) opened))

namespace Arrives

variable {state next : LoadState} {waiting : List OpenFile} {loading : Loading}

theorem with_notices (arrives : Arrives environment state waiting loading)
    (notices : List Notice) :
    Arrives environment state waiting { loading with notices } := by
  cases arrives with
  | loaded config result leads => exact .loaded config result leads
  | failed failure opened result kept leads => exact .failed failure opened result kept leads

theorem head (leads : Leads environment state next)
    (arrives : Arrives environment next waiting loading) :
    Arrives environment state waiting loading := by
  cases arrives with
  | loaded config result further => exact .loaded config result (leads.trans further)
  | failed failure opened result kept further =>
      exact .failed failure opened result kept (leads.trans further)

end Arrives

/-- Whatever files wait, the steps for a file and for its lines arrive where loading them does.
The cases are those of the two functions, which call each other. -/
theorem load_arrives (environment : Environment) :
    (∀ place read waiting, Arrives environment (enter environment place waiting read) waiting
        (loadPlace environment place read).1) ∧
      ∀ folder sources config read waiting,
        Arrives environment (loading ⟨folder, sources, config⟩ waiting read) waiting
          (loadSources environment folder sources config read).1 := by
  refine loadPlace.mutual_induct environment
    (fun place read => ∀ waiting, Arrives environment (enter environment place waiting read)
      waiting (loadPlace environment place read).1)
    (fun folder sources config read => ∀ waiting,
      Arrives environment (loading ⟨folder, sources, config⟩ waiting read) waiting
        (loadSources environment folder sources config read).1)
    ?again ?unreadable ?invalid ?entered ?done ?absent ?failing ?included
  case again =>
    intro place read old waiting
    rw [loadPlace, dif_pos old, enter_again _ old]
    exact .failed (.cyclic place) read rfl (List.prefix_refl read) (.refl _)
  case unreadable =>
    intro place read new flaw found waiting
    rw [loadPlace_unreadable new found, enter_new _ new, openNew, found]
    exact .failed (.unreadable flaw) _ rfl (List.prefix_append read [place]) (.refl _)
  case invalid =>
    intro place read new text found _ _ extract notDecoded waiting
    have invalid : parse? text = none := notDecoded
    rw [loadPlace_invalid new found invalid, enter_new _ new, openNew, found]
    dsimp only
    rw [invalid]
    exact .failed .invalid _ rfl (List.prefix_refl _) (.refl _)
  case entered =>
    intro place read new text found _ _ extract own decoded _ inductionHypothesis waiting
    have parsed : parse? text = some own := decoded
    rw [loadPlace_entered new found parsed, enter_new _ new, openNew, found]
    dsimp only
    rw [parsed]
    exact inductionHypothesis waiting
  case done =>
    intro folder config read waiting
    rw [loadSources]
    exact .loaded config rfl (.head rfl (.refl _))
  case absent =>
    intro folder config read source others flaw absent inductionHypothesis waiting
    obtain ⟨notices, same⟩ := loadSources_absent others config read absent
    have passed := step_absent others config waiting read absent
    rw [same]
    exact ((inductionHypothesis waiting).head (.head passed (.refl _))).with_notices notices
  case failing =>
    intro folder config read source others place located included failure failed
      inductionHypothesis waiting
    obtain ⟨notices, same⟩ := loadSources_failed others config read located failed
    have followed := step_located others config waiting read located
    rw [same]
    cases inductionHypothesis (⟨folder, others, config⟩ :: waiting) with
    | loaded other result leads => cases failed.symm.trans result
    | failed otherFailure opened result kept leads =>
        exact .failed otherFailure opened result kept (.head followed leads)
  case included =>
    intro folder config read source others place located included other loaded _ inside _
      inductionHypothesis waiting
    obtain ⟨notices, same⟩ := loadSources_included others config read located loaded
    have followed := step_located others config waiting read located
    rw [same]
    cases inside (⟨folder, others, config⟩ :: waiting) with
    | failed failure opened result kept leads => cases loaded.symm.trans result
    | loaded otherConfig result leads =>
        obtain rfl : otherConfig = other := Except.ok.inj (result.symm.trans loaded)
        exact ((inductionHypothesis waiting).head (.head followed leads)).with_notices notices

end LoadState

/-! ## From the beginning -/

open LoadState

/-- A step for every line of every file and one more for each file. -/
def allSteps (environment : Environment) : Nat :=
  ∑ place ∈ environment.files.places.toFinset, (lineCount environment place + 1)

/-- When a first file is opened, no more is left than all steps. -/
theorem remaining_enter_le_allSteps (environment : Environment) (place : Place) :
    remaining environment (enter environment place [] []) ≤ allSteps environment := by
  refine (remaining_enter_le place [] []).trans_eq ?_
  simp [openSteps, unopenedSteps, allSteps]

/-- The steps for a first file, for which none waits, finish with the result of loading it, and
what has been read is in the log. -/
theorem enter_finishes (environment : Environment) (place : Place) :
    ∃ opened, (step environment)^[allSteps environment] (enter environment place [] []) =
        finished (loadPlace environment place []).1.result opened ∧
      opened.Nodup ∧ (loadPlace environment place []).1.read <+: opened := by
  have enough := remaining_enter_le_allSteps environment place
  have nodup : (enter environment place [] []).opened.Nodup := by
    rw [enter_new _ List.not_mem_nil, opened_openNew]
    exact List.nodup_singleton place
  cases (load_arrives environment).1 place [] [] with
  | loaded config result leads =>
      rw [result]
      exact ⟨_, leads.within enough, leads.nodup_opened nodup, List.prefix_refl _⟩
  | failed failure opened result kept leads =>
      rw [result]
      exact ⟨opened, leads.within enough, leads.nodup_opened nodup, kept⟩

/-- Whatever includes what, loading finishes within a step for every line and every file that there
is, with settings or a failure, and no file has been opened twice by then.  From a first file on,
the files that the loader takes for read are among those that have been opened, in order. -/
theorem loadFrom_finishes (environment : Environment) :
    (∀ path, ∃ opened,
      (step environment)^[allSteps environment] (start environment path) =
        finished (loadFrom environment path).result opened ∧ opened.Nodup) ∧
      ∀ place, ∃ opened,
        (step environment)^[allSteps environment] (enter environment place [] []) =
          finished (loadPlace environment place []).1.result opened ∧
        opened.Nodup ∧ (loadPlace environment place []).1.read <+: opened := by
  refine ⟨?_, enter_finishes environment⟩
  intro path
  cases located : environment.files.locate environment.folder path with
  | error flaw =>
      rw [start, loadFrom, located]
      exact ⟨[], Function.iterate_fixed rfl _, List.nodup_nil⟩
  | ok place =>
      rw [start, loadFrom, located]
      obtain ⟨opened, finishes, nodup, -⟩ := enter_finishes environment place
      exact ⟨opened, finishes, nodup⟩

end LogLayout.Config
