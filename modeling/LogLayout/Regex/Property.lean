import LogLayout.Regex.CategoryTable
import LogLayout.Regex.CharSet
import LogLayout.Regex.PropertyTable
import LogLayout.Regex.ScriptTable

namespace LogLayout.Regex

/-!
Sets of characters by their names in the Unicode standard.

A name stands for a property, a general category or a script, and is looked up in
this order.  A name with a value, such as `script` with `greek`, says which of them
is meant.  Names are compared without their case and separators.
-/

/-! ## Names -/

/-- The letters of a name that count: ASCII without blanks, underscores and
hyphens, in lower case. -/
def countedLetters (name : List Char) : List Char :=
  (name.filter fun character =>
    character.toNat < 128 && character != ' ' && character != '_' && character != '-').map
    Char.toLower

/-- A name as the tables write it.  A leading `is` does not count, except that `isc`
is a name of its own. -/
def looseName (name : List Char) : String :=
  match name with
  | first :: second :: rest =>
      if first.toLower = 'i' && second.toLower = 's' then
        let letters := countedLetters rest
        String.ofList (if letters = ['c'] then ['i', 's', 'c'] else letters)
      else String.ofList (countedLetters name)
  | _ => String.ofList (countedLetters name)

namespace CharSet

/-! ## Categories -/

def ofCategoryNames (names : List String) : CharSet :=
  ofRanges (categoryTable.flatMap fun (own, table) =>
    if own.any names.contains then (Text.Ranges.ofText table).toList else [])

def assigned : CharSet :=
  ofRanges (categoryTable.flatMap fun (_, table) => (Text.Ranges.ofText table).toList)

/-- The categories that are made of others: their names and their parts. -/
def categoryUnions : List (List String × List String) := [
  (["l", "letter"], ["lu", "ll", "lt", "lm", "lo"]),
  (["lc", "casedletter"], ["lu", "ll", "lt"]),
  (["m", "mark", "combiningmark"], ["mn", "mc", "me"]),
  (["n", "number"], ["nd", "nl", "no"]),
  (["p", "punctuation", "punct"], ["pc", "pd", "ps", "pe", "pi", "pf", "po"]),
  (["s", "symbol"], ["sm", "sc", "sk", "so"]),
  (["z", "separator"], ["zs", "zl", "zp"])]

def ofCategory? (name : String) : Option CharSet :=
  if name = "any" then some empty.complement
  else if name = "ascii" then some (range 0 127)
  else if name = "assigned" then some assigned
  else if name = "cn" || name = "unassigned" then some assigned.complement
  else if name = "c" || name = "other" then
    some ((ofCategoryNames ["cc", "cf", "co"]).union assigned.complement)
  else
    match categoryUnions.find? fun (names, _) => names.contains name with
    | some (_, parts) => some (ofCategoryNames parts)
    | none =>
        if categoryTable.any fun (names, _) => names.contains name then
          some (ofCategoryNames [name])
        else none

/-! ## Scripts -/

def ofScript? (name : String) : Option CharSet :=
  (scriptTable.find? fun (names, _) => names.contains name).map fun (_, own, _) =>
    ofTable (Text.Ranges.ofText own)

/-- The characters that several scripts share. -/
def sharedByScripts : CharSet :=
  ofRanges (scriptTable.flatMap fun (_, _, shared) => (Text.Ranges.ofText shared).toList)

/-- The characters that are used in a script: its own and those it shares with
others.  The characters that no script owns are those that none shares. -/
def ofScriptExtensions? (name : String) : Option CharSet :=
  (scriptTable.find? fun (names, _) => names.contains name).map fun (names, own, shared) =>
    let own := ofTable (Text.Ranges.ofText own)
    if names.contains "common" || names.contains "inherited" then
      own.difference sharedByScripts
    else own.union (ofTable (Text.Ranges.ofText shared))

/-! ## Properties -/

def ofPropertyRow (row : PropertyRow) : CharSet :=
  ((ofCategoryNames row.categories).difference (ofTable (Text.Ranges.ofText row.removed))).union
    (ofTable (Text.Ranges.ofText row.added))

def ofProperty? (name : String) : Option CharSet :=
  if name = "changeswhencasemapped" || name = "cwcm" then
    some (((propertyTable.filter fun row =>
      row.names.any ["cwl", "cwu", "cwt"].contains).map ofPropertyRow).foldl union empty)
  else (propertyTable.find? fun row => row.names.contains name).map ofPropertyRow

/-! ## Queries -/

/-- The characters of a name that stands alone. -/
def ofName? (name : List Char) : Option CharSet :=
  let name := looseName name
  match ofProperty? name with
  | some members => some members
  | none =>
      match ofCategory? name with
      | some members => some members
      | none => ofScript? name

def ofNamedValue? (name value : List Char) : Option CharSet :=
  let value := looseName value
  match looseName name with
  | "gc" => ofCategory? value
  | "generalcategory" => ofCategory? value
  | "sc" => ofScript? value
  | "script" => ofScript? value
  | "scx" => ofScriptExtensions? value
  | "scriptextensions" => ofScriptExtensions? value
  | _ => none

end CharSet
end LogLayout.Regex
