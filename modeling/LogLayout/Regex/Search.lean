import LogLayout.Regex.Program

namespace LogLayout.Regex

/-!
Running a program on a text.

The matcher tries alternatives in order of preference and backs up when one
fails.  A pair of instruction and position that has been tried once is never
tried again: it failed then and would fail now.  So the first match that is found
is the preferred one, and the work is bounded by the number of pairs.
-/

/-- The positions noted so far, two slots for each group. -/
abbrev Slots := Array (Option Nat)

/-- A branch that is still to be tried. -/
structure Branch where
  place : Nat
  position : Nat
  slots : Slots

/-- The branches that one instruction leads to, the preferred one first, or the
slots of a match. -/
def follow (program : Program) (text : Array Char) (branch : Branch) :
    List Branch ⊕ Slots :=
  match program[branch.place]? with
  | none => .inl []
  | some .accept => .inr branch.slots
  | some (.take members next) =>
      match text[branch.position]? with
      | none => .inl []
      | some character =>
          if members.contains character.toNat then
            .inl [{ branch with place := next, position := branch.position + 1 }]
          else .inl []
  | some (.fork first second) =>
      .inl [{ branch with place := first }, { branch with place := second }]
  | some (.note slot next) =>
      .inl [{ branch with
        place := next
        slots := branch.slots.setIfInBounds slot (some branch.position) }]
  | some (.check condition next) =>
      let before := if branch.position = 0 then none else text[branch.position - 1]?
      if condition.holds before text[branch.position]? then
        .inl [{ branch with place := next }]
      else .inl []

/-- Marking a pair as tried leaves fewer untried ones. -/
private theorem untried_decreases {tried : Array Bool} {index : Nat}
    (inBounds : index < tried.size) (untried : tried[index] = false) :
    (tried.set index true).countP (!·) < tried.countP (!·) := by
  have positive : 0 < tried.countP (!·) :=
    Array.countP_pos_iff.mpr ⟨tried[index], Array.getElem_mem inBounds, by simp [untried]⟩
  rw [Array.countP_set, untried]
  show tried.countP (!·) - 1 + 0 < tried.countP (!·)
  omega

/-- Try branches in order until one matches; gives the slots of the match and the
pairs that have been tried. -/
def tryBranches (program : Program) (text : Array Char) (tried : Array Bool) :
    List Branch → Option Slots × Array Bool
  | [] => (none, tried)
  | branch :: rest =>
      let index := branch.place * (text.size + 1) + branch.position
      if inBounds : index < tried.size then
        if untried : tried[index] = false then
          match follow program text branch with
          | .inr slots => (some slots, tried)
          | .inl branches =>
              have := untried_decreases inBounds untried
              tryBranches program text (tried.set index true) (branches ++ rest)
        else tryBranches program text tried rest
      else tryBranches program text tried rest
termination_by branches => (tried.countP (!·), branches.length)

/-- The match that begins first at or behind a position, trying `count` starts. -/
def searchFrom (start : Nat) (program : Program) (slots : Slots) (text : Array Char)
    (tried : Array Bool) (position : Nat) : Nat → Option Slots
  | 0 => none
  | count + 1 =>
      match tryBranches program text tried [⟨start, position, slots⟩] with
      | (some found, _) => some found
      | (none, tried) => searchFrom start program slots text tried (position + 1) count

/-- A regular expression that is ready for searching. -/
structure Matcher where
  start : Nat
  program : Program
  groups : Nat
  names : List (String × Nat)

namespace Matcher

/-- The first match at or behind a position, as the positions of its groups. -/
def search (matcher : Matcher) (text : Array Char) (position : Nat) : Option Slots :=
  let tried := Array.replicate (matcher.program.size * (text.size + 1)) false
  let slots := Array.replicate (2 * matcher.groups) none
  searchFrom matcher.start matcher.program slots text tried position
    (text.size + 1 - position)

def group? (slots : Slots) (index : Nat) : Option (Nat × Nat) :=
  match slots[2 * index]?, slots[2 * index + 1]? with
  | some (some first), some (some last) => some (first, last)
  | _, _ => none

/-- The matches from a position on, left to right and apart from each other.  An
empty match is passed over where the match before it ended. -/
def matchesFrom (matcher : Matcher) (text : Array Char) (position : Nat)
    (lastEnd : Option Nat) : Nat → List Slots
  | 0 => []
  | count + 1 =>
      match matcher.search text position with
      | none => []
      | some slots =>
          match group? slots 0 with
          | none => []
          | some (first, last) =>
              if first = last ∧ some last = lastEnd then
                match matcher.search text (position + 1) with
                | none => []
                | some slots =>
                    match group? slots 0 with
                    | none => []
                    | some (_, last) =>
                        slots :: matcher.matchesFrom text last (some last) count
              else slots :: matcher.matchesFrom text last (some last) count

/-- All matches, left to right. -/
def allMatches (matcher : Matcher) (text : Array Char) : List Slots :=
  matcher.matchesFrom text 0 none (text.size + 2)

end Matcher
end LogLayout.Regex
