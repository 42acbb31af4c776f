namespace LogLayout.Toml

/-!
The values of a TOML document, and the rules by which its lines build them up.

A table remembers how it came to be, because that decides who may still add to it:
a header opens a table once, dotted keys only extend tables that dotted keys have
made, and an inline table is finished where it is written.
-/

/-- How a table came to be. -/
inductive Origin where
  /-- A header of its own; also the document itself and the members of an array of
  tables. -/
  | header
  /-- A longer header, which passes through it. -/
  | implied
  /-- A dotted key, which passes through it. -/
  | dotted
  | inline
  deriving DecidableEq, Repr

/-- A value.  Floats and dates are kept as they are written. -/
inductive Value where
  | string (text : String)
  | integer (value : Int)
  | float (text : String)
  | boolean (value : Bool)
  | date (text : String)
  | array (items : List Value)
  | table (origin : Origin) (entries : List (String × Value))
  /-- The members of an array of tables. -/
  | tables (members : List (List (String × Value)))
  deriving Repr

/-- The entries of a table, in the order in which they were added. -/
abbrev Entries := List (String × Value)

namespace Entries

def replace (entries : Entries) (key : String) (value : Value) : Entries :=
  entries.map fun entry => if entry.1 = key then (key, value) else entry

/-- Change the table that a path leads to, making tables on the way where there are
none.  A path leads through the last member of an array of tables.  A dotted path
does not lead through a table with a header of its own, and no path leads through an
inline table or another value. -/
def changeAt (dotted : Bool) (change : Origin → Entries → Option Entries) :
    List String → Origin → Entries → Option Entries
  | [], origin, entries => change origin entries
  | key :: path, _, entries =>
      match entries.lookup key with
      | none => do
          let made : Origin := if dotted then .dotted else .implied
          pure (entries ++ [(key, .table made (← changeAt dotted change path made []))])
      | some (.table .inline _) => none
      | some (.table origin inner) =>
          if dotted && origin = .header then none
          else do
            let inner ← changeAt dotted change path origin inner
            pure (entries.replace key (.table origin inner))
      | some (.tables members) =>
          match members.getLast? with
          | none => none
          | some last => do
              let last ← changeAt dotted change path .header last
              pure (entries.replace key (.tables (members.dropLast ++ [last])))
      | some _ => none

/-- Add an entry with a new key.  Tables that dotted keys have made take entries
from dotted keys alone, and dotted keys add to no others. -/
def add (direct : Bool) (key : String) (value : Value) (origin : Origin)
    (entries : Entries) : Option Entries :=
  if direct = decide (origin = .dotted) || (entries.lookup key).isSome then none
  else some (entries ++ [(key, value)])

def addAt (path : List String) (key : String) (value : Value) (origin : Origin)
    (entries : Entries) : Option Entries :=
  changeAt true (add path.isEmpty key value) path origin entries

/-- Open a table under a header.  Only a table that longer headers have made may be
there already. -/
def openTable (key : String) (entries : Entries) : Option Entries :=
  match entries.lookup key with
  | none => some (entries ++ [(key, .table .header [])])
  | some (.table .implied inner) => some (entries.replace key (.table .header inner))
  | some _ => none

def openMember (key : String) (entries : Entries) : Option Entries :=
  match entries.lookup key with
  | none => some (entries ++ [(key, .tables [[]])])
  | some (.tables members) => some (entries.replace key (.tables (members ++ [[]])))
  | some _ => none

end Entries
end LogLayout.Toml
