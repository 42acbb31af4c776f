import LogLayout.Time.Calendar
import LogLayout.Time.EraTable
import LogLayout.Time.LinkTable
import LogLayout.Time.RuleTable

namespace LogLayout.Time

/-!
Regions whose clocks change.

The history of a region is a list of eras.  Within an era standard time is fixed,
and savings follow a set of rules.  This module reads the tables, turns a history
into the list of instants at which the offset changes, and looks the offset of an
instant up in it.  Rules are followed up to the end of the year 2099.
-/

/-! ## Rules and eras -/

/-- The clock on which a time of day is read. -/
inductive ClockFace where
  | wall
  | standard
  | universal
  deriving DecidableEq, Repr

/-- A day of some month, possibly chosen by its weekday. -/
inductive DayChoice where
  | on (day : Nat)
  | onOrAfter (weekday day : Nat)
  | onOrBefore (weekday day : Nat)
  | last (weekday : Nat)
  deriving DecidableEq, Repr

/-- The days from a day of the week to the next day that is a given one. -/
def daysUntil (weekday : Nat) (number : Int) : Nat :=
  (weekday + 7 - Time.weekday number) % 7

/-- The days from the last day that was a given day of the week. -/
def daysSince (weekday : Nat) (number : Int) : Nat :=
  (Time.weekday number + 7 - weekday) % 7

/-- The day number that is chosen in a month of a year. -/
def DayChoice.dayNumber (choice : DayChoice) (year : Int) (month : Nat) : Int :=
  let first := CivilDate.dayNumber ⟨year, month, 1⟩
  match choice with
  | on day => first + day - 1
  | onOrAfter weekday day => first + day - 1 + daysUntil weekday (first + day - 1)
  | onOrBefore weekday day => first + day - 1 - daysSince weekday (first + day - 1)
  | last weekday =>
      let final := first + daysInMonth year month - 1
      final - daysSince weekday final

/-- A time of some year. -/
structure YearTime where
  month : Nat
  day : DayChoice
  seconds : Int
  face : ClockFace
  deriving DecidableEq, Repr

/-- The seconds since 1970 on the face that a time of a year is read on. -/
def YearTime.shownSeconds (time : YearTime) (year : Int) : Int :=
  time.day.dayNumber year time.month * 86400 + time.seconds

/-- The instant of a time of a year, under an offset of standard time and a saving. -/
def YearTime.instant (time : YearTime) (year offset saving : Int) : Int :=
  time.shownSeconds year -
    match time.face with
    | .wall => offset + saving
    | .standard => offset
    | .universal => 0

/-- A yearly change of the saving. -/
structure SavingRule where
  firstYear : Int
  lastYear : Int
  time : YearTime
  saving : Int
  deriving DecidableEq, Repr

/-- How savings come about within an era. -/
inductive SavingPlan where
  | fixed (saving : Int)
  | rules (rules : List SavingRule)
  deriving DecidableEq, Repr

/-- A stretch of a region's history with one standard time. -/
structure Era where
  offset : Int
  plan : SavingPlan
  ends : Option (Int × YearTime)
  deriving DecidableEq, Repr

/-! ## From eras to changes -/

/-- A change of the offset: from the instant `start` on it is `offset`.  The first
entry of a history has no start. -/
structure OffsetChange where
  start : Option Int
  offset : Int
  deriving DecidableEq, Repr

/-- The rules in force in a year, in the order in which they come. -/
def rulesOfYear (rules : List SavingRule) (year : Int) : List SavingRule :=
  (rules.filter fun rule => rule.firstYear ≤ year && year ≤ rule.lastYear).mergeSort
    fun first second => first.time.shownSeconds year ≤ second.time.shownSeconds year

/-- What has been worked out of an era: the saving now in force, whether a change
at or behind the start of the era has been entered, whether the end has been
reached, and the changes so far, latest first. -/
structure EraProgress where
  saving : Int := 0
  opened : Bool := false
  ended : Bool := false
  changes : List OffsetChange := []

/-- Enter the opening change of an era unless one is entered already. -/
def EraProgress.opening (progress : EraProgress) (start : Option Int) (offset : Int) :
    EraProgress :=
  if progress.opened then progress
  else { progress with
    opened := true
    changes := ⟨start, offset + progress.saving⟩ :: progress.changes }

/-- Take one rule of one year into account.  Before the start of the era it only
sets the saving that the era opens with. -/
def EraProgress.follow (era : Era) (start : Option Int) (progress : EraProgress)
    (event : Int × SavingRule) : EraProgress :=
  let year := event.1
  let rule := event.2
  if progress.ended then progress
  else
    let now := rule.time.instant year era.offset progress.saving
    let isOver := match era.ends with
      | none => false
      | some (lastYear, time) => time.instant lastYear era.offset progress.saving ≤ now
    if isOver then { progress with ended := true }
    else if (match start with | none => false | some first => now < first) then
      { progress with saving := rule.saving }
    else
      let opened :=
        if start = some now then { progress with opened := true }
        else progress.opening start era.offset
      { opened with
        saving := rule.saving
        changes := ⟨some now, era.offset + rule.saving⟩ :: opened.changes }

/-- The years in which rules are followed. -/
def ruleYears : List Int := (List.range 300).map fun index : Nat => 1800 + (index : Int)

/-- The changes of an era, latest first, and the saving at its end. -/
def eraChanges (era : Era) (start : Option Int) : List OffsetChange × Int :=
  match era.plan with
  | .fixed saving => ([⟨start, era.offset + saving⟩], saving)
  | .rules rules =>
      let events := ruleYears.flatMap fun year =>
        (rulesOfYear rules year).map fun rule => (year, rule)
      let progress := (events.foldl (EraProgress.follow era start) {}).opening start era.offset
      (progress.changes, progress.saving)

/-- The changes of a history whose first era begins at `start`. -/
def changesFrom (start : Option Int) : List Era → List OffsetChange
  | [] => []
  | era :: later =>
      let (changes, saving) := eraChanges era start
      let next := match era.ends with
        | none => start
        | some (year, time) => some (time.instant year era.offset saving)
      changes.reverse ++ changesFrom next later

/-! ## Reading the tables -/

def readNumber? (word : String) : Option Int := word.toInt?

def readTimeOfDay? (word : String) : Option (Int × ClockFace) :=
  match word.toList.reverse with
  | 'w' :: digits => (readNumber? (String.ofList digits.reverse)).map (·, .wall)
  | 's' :: digits => (readNumber? (String.ofList digits.reverse)).map (·, .standard)
  | 'u' :: digits => (readNumber? (String.ofList digits.reverse)).map (·, .universal)
  | _ => none

def readDay? (word : String) : Option DayChoice :=
  match word.toList with
  | 'l' :: 'a' :: 's' :: 't' :: digit => (String.ofList digit).toNat?.map .last
  | weekday :: '>' :: '=' :: digits =>
      (String.ofList digits).toNat?.map (.onOrAfter (weekday.toNat - 48))
  | weekday :: '<' :: '=' :: digits =>
      (String.ofList digits).toNat?.map (.onOrBefore (weekday.toNat - 48))
  | digits => (String.ofList digits).toNat?.map .on

def readYearTime? (month day time : String) : Option YearTime := do
  let month ← month.toNat?
  let day ← readDay? day
  let (seconds, face) ← readTimeOfDay? time
  pure ⟨month, day, seconds, face⟩

def readRule? : List String → Option SavingRule
  | [first, last, month, day, time, saving] => do
      pure ⟨← readNumber? first, ← readNumber? last, ← readYearTime? month day time,
        ← readNumber? saving⟩
  | _ => none

def words (line : String) : List String :=
  (line.splitOn " ").filter (· ≠ "")

/-- Gather the lines of a table under the names that open its sections. -/
def sections (table : String) : List (String × List (List String)) :=
  ((table.splitOn "\n").foldr
    (fun line (gathered : List (List String) × List (String × List (List String))) =>
      match words line with
      | ["=", name] => ([], (name, gathered.1) :: gathered.2)
      | entries => (entries :: gathered.1, gathered.2))
    ([], [])).2

def ruleSets : List (String × List SavingRule) :=
  (sections ruleTable).map fun (name, lines) => (name, lines.filterMap readRule?)

def readPlan (word : String) : SavingPlan :=
  match readNumber? word with
  | some saving => .fixed saving
  | none => .rules ((ruleSets.lookup word).getD [])

def readEra? : List String → Option Era
  | [offset, plan] => do pure ⟨← readNumber? offset, readPlan plan, none⟩
  | [offset, plan, year, month, day, time] => do
      pure ⟨← readNumber? offset, readPlan plan,
        some (← readNumber? year, ← readYearTime? month day time)⟩
  | _ => none

def zoneLines : List (String × List (List String)) := sections eraTable

/-- The further names, each with the zone that it means. -/
def links : List (String × String) :=
  (linkTable.splitOn "\n").flatMap fun line =>
    match words line with
    | [] => []
    | zone :: names => names.map (·, zone)

/-! ## Regions -/

/-- A region under the name that it was asked for, with the changes of its offset
in rising order. -/
structure Region where
  name : String
  changes : List OffsetChange
  deriving DecidableEq, Repr

namespace Region

/-- The region of a name.  Names are case-sensitive. -/
def ofName? (name : String) : Option Region :=
  (zoneLines.lookup ((links.lookup name).getD name)).map fun lines =>
    ⟨name, changesFrom none (lines.filterMap readEra?)⟩

def names : List String := zoneLines.map Prod.fst ++ links.map Prod.fst

/-- The offset of a region at an instant: that of the last change which has
begun. -/
def offsetAt (region : Region) (instant : Instant) : Int :=
  region.changes.foldl
    (fun offset change =>
      if (match change.start with | none => true | some start => start ≤ instant.seconds)
      then change.offset else offset)
    0

end Region
end LogLayout.Time
