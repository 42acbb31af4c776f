import LogLayout.Regex.CaseOrbits
import LogLayout.Regex.Classes

namespace LogLayout.Regex

/-!
Sets of characters, as rising lists of closed ranges of code points.
-/

/-- A set of code points. -/
structure CharSet where
  ranges : List (Nat × Nat)
  deriving DecidableEq, Repr

namespace CharSet

def greatest : Nat := 0x10FFFF

def empty : CharSet := ⟨[]⟩

def contains (set : CharSet) (code : Nat) : Bool :=
  set.ranges.any fun (first, last) => first ≤ code && code ≤ last

/-- Join ranges that meet or overlap in a list sorted by first members. -/
def joinRanges : List (Nat × Nat) → List (Nat × Nat)
  | [] => []
  | range :: rest =>
      match joinRanges rest with
      | [] => [range]
      | next :: others =>
          if next.1 ≤ range.2 + 1 then (range.1, max range.2 next.2) :: others
          else range :: next :: others

def ofRanges (ranges : List (Nat × Nat)) : CharSet :=
  ⟨joinRanges (ranges.mergeSort fun first second => first.1 ≤ second.1)⟩

def ofTable (table : Text.Ranges) : CharSet := ⟨table.toList⟩

/-- The closed range between two code points. -/
def range (first last : Nat) : CharSet := ⟨[(first, last)]⟩

def single (code : Nat) : CharSet := range code code

def union (left right : CharSet) : CharSet := ofRanges (left.ranges ++ right.ranges)

/-- The gaps from `start` to `last` between rising ranges. -/
def gaps (start last : Nat) : List (Nat × Nat) → List (Nat × Nat)
  | [] => if start ≤ last then [(start, last)] else []
  | range :: rest =>
      if start < range.1 then (start, range.1 - 1) :: gaps (range.2 + 1) last rest
      else gaps (max start (range.2 + 1)) last rest

/-- The code points up to `last` that are not in a set. -/
def complementUpTo (last : Nat) (set : CharSet) : CharSet := ⟨gaps 0 last set.ranges⟩

def complement (set : CharSet) : CharSet := set.complementUpTo greatest

def intersection (left right : CharSet) : CharSet :=
  ofRanges (left.ranges.flatMap fun first =>
    right.ranges.filterMap fun second =>
      let low := max first.1 second.1
      let high := min first.2 second.2
      if low ≤ high then some (low, high) else none)

/-- The members of the first set that are not in the second. -/
def difference (left right : CharSet) : CharSet := left.intersection right.complement

/-- The members of exactly one of two sets. -/
def symmetricDifference (left right : CharSet) : CharSet :=
  (left.union right).difference (left.intersection right)

/-- A set with everything that equals a member up to case. -/
def foldCase (set : CharSet) : CharSet :=
  ofRanges (caseOrbits.foldl
    (fun ranges orbit =>
      if orbit.any fun (code, _) => set.contains code then orbit.toList ++ ranges else ranges)
    set.ranges)

/-- A set with the ASCII letters that equal a member up to case. -/
def foldAsciiCase (set : CharSet) : CharSet :=
  ofRanges ((List.range 26).foldl
    (fun ranges index =>
      let upper := 65 + index
      let lower := 97 + index
      if set.contains upper || set.contains lower then
        (upper, upper) :: (lower, lower) :: ranges
      else ranges)
    set.ranges)

def isAscii (set : CharSet) : Bool := set.ranges.all fun (_, last) => last < 128

/-- Word characters. -/
def word : CharSet := ofTable wordRanges

def digit : CharSet := ofTable digitRanges

def blank : CharSet := ofTable blankRanges

def asciiWord : CharSet := ⟨[(48, 57), (65, 90), (95, 95), (97, 122)]⟩

def asciiDigit : CharSet := ⟨[(48, 57)]⟩

def asciiBlank : CharSet := ⟨[(9, 13), (32, 32)]⟩

/-- The classes of ASCII that have a name between `[:` and `:]`. -/
def ofAsciiName? : String → Option CharSet
  | "alnum" => some ⟨[(48, 57), (65, 90), (97, 122)]⟩
  | "alpha" => some ⟨[(65, 90), (97, 122)]⟩
  | "ascii" => some ⟨[(0, 127)]⟩
  | "blank" => some ⟨[(9, 9), (32, 32)]⟩
  | "cntrl" => some ⟨[(0, 31), (127, 127)]⟩
  | "digit" => some asciiDigit
  | "graph" => some ⟨[(33, 126)]⟩
  | "lower" => some ⟨[(97, 122)]⟩
  | "print" => some ⟨[(32, 126)]⟩
  | "punct" => some ⟨[(33, 47), (58, 64), (91, 96), (123, 126)]⟩
  | "space" => some asciiBlank
  | "upper" => some ⟨[(65, 90)]⟩
  | "word" => some asciiWord
  | "xdigit" => some ⟨[(48, 57), (65, 70), (97, 102)]⟩
  | _ => none

end CharSet
end LogLayout.Regex
