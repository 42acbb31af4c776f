import LogLayout.Regex.CharSet

namespace LogLayout.Regex

/-!
Regular expressions as trees.

A tree has no flags any more: case, line and greediness flags have been worked
into its sets, looks and repetitions when it was read.
-/

/-- A condition on a place between characters. -/
inductive Look where
  | textStart
  | textEnd
  | lineStart
  | lineEnd
  /-- The start of a line that may end in a carriage return. -/
  | lineStartReturn
  /-- The end of a line that may end in a carriage return. -/
  | lineEndReturn
  /-- A place that has a word character on exactly one side. -/
  | wordBoundary (word : CharSet)
  | notWordBoundary (word : CharSet)
  | wordStart (word : CharSet)
  | wordEnd (word : CharSet)
  | wordStartHalf (word : CharSet)
  | wordEndHalf (word : CharSet)
  deriving DecidableEq, Repr

/-- Whether a condition holds between two neighbours, which are missing at the
ends of the text. -/
def Look.holds (look : Look) (before after : Option Char) : Bool :=
  let isWord (word : CharSet) (side : Option Char) : Bool :=
    match side with
    | none => false
    | some character => word.contains character.toNat
  match look with
  | textStart => before.isNone
  | textEnd => after.isNone
  | lineStart => before.isNone || before == some '\n'
  | lineEnd => after.isNone || after == some '\n'
  | lineStartReturn =>
      before.isNone || before == some '\n' || (before == some '\r' && after != some '\n')
  | lineEndReturn =>
      after.isNone || after == some '\r' || (after == some '\n' && before != some '\r')
  | wordBoundary word => isWord word before != isWord word after
  | notWordBoundary word => isWord word before == isWord word after
  | wordStart word => !isWord word before && isWord word after
  | wordEnd word => isWord word before && !isWord word after
  | wordStartHalf word => !isWord word before
  | wordEndHalf word => !isWord word after

/-- A regular expression. -/
inductive Node where
  | empty
  | set (members : CharSet)
  | look (condition : Look)
  | capture (index : Nat) (inside : Node)
  | follow (first second : Node)
  | either (first second : Node)
  | iterate (inside : Node) (least : Nat) (greatest : Option Nat) (greedy : Bool)
  deriving Repr

namespace Node

/-- Whether an expression matches no text but the empty one. -/
def onlyEmpty : Node → Bool
  | empty => true
  | set _ => false
  | look _ => true
  | capture _ inside => inside.onlyEmpty
  | follow first second => first.onlyEmpty && second.onlyEmpty
  | either first second => first.onlyEmpty && second.onlyEmpty
  | iterate inside _ _ _ => inside.onlyEmpty

/-- Whether every match of an expression has at least one character. -/
def isProper : Node → Bool
  | empty => false
  | set _ => true
  | look _ => false
  | capture _ inside => inside.isProper
  | follow first second => first.isProper || second.isProper
  | either first second => first.isProper && second.isProper
  | iterate inside least _ _ => least != 0 && inside.isProper

/-- An iteration in its simplest form: what can only be empty is never iterated
more than once. -/
def ofIteration (inside : Node) (least : Nat) (greatest : Option Nat) (greedy : Bool) :
    Node :=
  let least' := if inside.onlyEmpty then min least 1 else least
  let greatest' :=
    if inside.onlyEmpty then some ((greatest.map (min · 1)).getD 1) else greatest
  if greatest' = some 0 then empty
  else if least' = 1 ∧ greatest' = some 1 then inside
  else iterate inside least' greatest' greedy

/-- Expressions one after the other. -/
def sequence : List Node → Node
  | [] => empty
  | [node] => node
  | node :: rest => follow node (sequence rest)

/-- Alternatives, of which an earlier one is preferred. -/
def choice : List Node → Node
  | [] => empty
  | [node] => node
  | node :: rest => either node (choice rest)

end Node
end LogLayout.Regex
