import LogLayout.Text.Blank
import LogLayout.Text.Lines

namespace LogLayout.Config

/-!
Lines that include further files.

A line such as `source = "extra.toml"` names a file to include.  Such lines are taken
out of a text before the rest of it is read.
-/

/-- The text without a character at either end, however often it stands there. -/
def stripChar (character : Char) (text : List Char) : List Char :=
  ((text.dropWhile (· == character)).reverse.dropWhile (· == character)).reverse

/-- What stands behind the equals sign of a line that includes a file. -/
def sourceValue? (line : List Char) : Option (List Char) :=
  match Text.trimChars line with
  | 's' :: 'o' :: 'u' :: 'r' :: 'c' :: 'e' :: rest =>
      match Text.dropBlanks rest with
      | '=' :: value => some value
      | _ => none
  | _ => none

/-- The path that a value names, without its quotes. -/
def sourcePath (value : List Char) : List Char :=
  stripChar '\x27' (stripChar '\x22' (Text.trimChars value))

/-- The paths of a text's including lines, and the text of the other lines. -/
structure Extract where
  sources : List String
  rest : List Char
  deriving DecidableEq, Repr

/-- Take the including lines out of some lines.  A line that names an empty path goes
too. -/
def extractLines : List (List Char) → Extract
  | [] => ⟨[], []⟩
  | line :: others =>
      let extract := extractLines others
      match sourceValue? line with
      | some value =>
          let path := sourcePath value
          if path.isEmpty then extract
          else { extract with sources := String.ofList path :: extract.sources }
      | none => { extract with rest := line ++ '\n' :: extract.rest }

/-- Take the including lines out of a text. -/
def extractSources (text : String) : Extract := extractLines (Text.lines text.toList)

end LogLayout.Config
