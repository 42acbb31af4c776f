import LogLayout.Regex.Search
import LogLayout.Text.Decimal

namespace LogLayout.Regex

/-!
Replacing the matches of an expression.

In a replacement `$1` and `$name` stand for a group, `${...}` for a group whose name
runs to the brace, and `$$` for a dollar sign.  A dollar sign that introduces
nothing stands for itself, and an unknown group for the empty text.
-/

/-- A piece of a replacement. -/
inductive ReplacementPart where
  | literal (character : Char)
  | group (name : String)
  deriving DecidableEq, Repr

/-- Whether a character can belong to an unbraced group name. -/
def isReferenceCharacter (character : Char) : Bool :=
  character.isAlphanum || character = '_'

def readReplacement (text : List Char) : List ReplacementPart :=
  match text with
  | [] => []
  | '$' :: '$' :: rest => .literal '$' :: readReplacement rest
  | '$' :: '\x7b' :: rest =>
      have : (rest.dropWhile (· ≠ '\x7d')).length ≤ rest.length :=
        (List.dropWhile_sublist _).length_le
      match _found : rest.dropWhile (· ≠ '\x7d') with
      | _ :: behind =>
          .group (String.ofList (rest.takeWhile (· ≠ '\x7d'))) :: readReplacement behind
      | [] => .literal '$' :: readReplacement ('\x7b' :: rest)
  | '$' :: rest =>
      have : (rest.dropWhile isReferenceCharacter).length ≤ rest.length :=
        (List.dropWhile_sublist _).length_le
      match rest.takeWhile isReferenceCharacter with
      | [] => .literal '$' :: readReplacement rest
      | name =>
          .group (String.ofList name) :: readReplacement (rest.dropWhile isReferenceCharacter)
  | character :: rest => .literal character :: readReplacement rest
termination_by text.length
decreasing_by all_goals simp_all <;> omega

def groupNumber? (name : String) : Option Nat :=
  let digits := match name.toList with
    | '+' :: rest => rest
    | digits => digits
  if digits.isEmpty || !digits.all Char.isDigit then none
  else
    let value := Text.digitsValue digits
    if value < Nat.pow 2 64 then some value else none

namespace Matcher

def groupText (matcher : Matcher) (text : Array Char) (slots : Slots) (name : String) :
    List Char :=
  let index := match groupNumber? name with
    | some number => some number
    | none => matcher.names.lookup name
  match index.bind (group? slots) with
  | some (first, last) => (text.extract first last).toList
  | none => []

def expand (matcher : Matcher) (text : Array Char) (slots : Slots)
    (parts : List ReplacementPart) : List Char :=
  parts.flatMap fun part =>
    match part with
    | .literal character => [character]
    | .group name => matcher.groupText text slots name

def replaceFrom (matcher : Matcher) (text : Array Char) (parts : List ReplacementPart)
    (position : Nat) : List Slots → List Char
  | [] => (text.extract position text.size).toList
  | slots :: rest =>
      match group? slots 0 with
      | none => matcher.replaceFrom text parts position rest
      | some (first, last) =>
          (text.extract position first).toList ++ matcher.expand text slots parts ++
            matcher.replaceFrom text parts last rest

def replaceAll (matcher : Matcher) (replacement text : String) : String :=
  let characters := text.toList.toArray
  String.ofList (matcher.replaceFrom characters (readReplacement replacement.toList) 0
    (matcher.allMatches characters))

end Matcher
end LogLayout.Regex
