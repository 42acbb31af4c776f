import LogLayout.Console
import LogLayout.Pattern.Item
import LogLayout.Record
import LogLayout.Table

namespace LogLayout.Pattern

/-!
Words, and what they build.

A builder turns what was read of a directive into a function from records to
texts.  A registry keeps the builders under their words, and other names as
aliases that point at words.
-/

/-- A part of a compiled pattern: the text that it shows of a record. -/
abbrev Renderer := Record → String

/-- A compiled pattern, as its parts from left to right. -/
structure Compiled where
  units : List Renderer

namespace Compiled

/-- The pattern without parts. -/
def empty : Compiled := ⟨[]⟩

/-- The text of a record. -/
def render (compiled : Compiled) (record : Record) : String :=
  String.join (compiled.units.map fun part => part record)

end Compiled

/-- What a pattern shows that no record holds, and how it shows it. -/
structure Context where
  application : String
  node : String
  console : Console
  zone : Time.Zone := .machine
  /-- The offset of the machine's clock at each instant. -/
  machineOffset : Time.Instant → Int := fun _ => 0

/-- A directive as its builder sees it. -/
structure Spec where
  head : Head
  parameters : List String := []
  inside : Option Compiled := none

namespace Spec

/-- The word, as it is written in the pattern. -/
def word (spec : Spec) : String := spec.head.word

/-- The parameter at an index, counted from zero. -/
def parameter? (spec : Spec) (index : Nat) : Option String := spec.parameters[index]?

/-- The number that the parameter at an index writes, if there is one; blanks
around it do not count. -/
def intParameter (spec : Spec) (index : Nat) : Except BadParameter (Option Int) :=
  match spec.parameter? index with
  | none => .ok none
  | some parameter =>
      match Text.parseInt32 (Text.trim parameter) with
      | .ok value => .ok (some value)
      | .error flaw => .error ⟨spec.word, parameter, .notInteger flaw⟩

def requiredParameter (spec : Spec) (index : Nat) : Except BadParameter String :=
  match spec.parameter? index with
  | some parameter => .ok parameter
  | none => .error ⟨spec.word, "", .missingParameters (index + 1)⟩

/-- The enclosed pattern; a directive that encloses none shows nothing there. -/
def enclosed (spec : Spec) : Compiled := spec.inside.getD .empty

end Spec

/-- What a word builds, and whether it can enclose a pattern.  A builder interprets the parameters
of its directive and can do no more than refuse one of them, for one of the reasons for which
built-in words refuse theirs. -/
structure Builder where
  encloses : Bool
  build : Spec → Context → Except BadParameter Renderer

namespace Builder

/-- A builder of words that enclose nothing. -/
def plain (build : Spec → Context → Except BadParameter Renderer) : Builder :=
  ⟨false, build⟩

/-- A builder of words that change the text of the pattern they enclose. -/
def transformer (change : Spec → Context → Except BadParameter (String → String)) :
    Builder :=
  ⟨true, fun spec context => do
    let change ← change spec context
    pure fun record => change (spec.enclosed.render record)⟩

/-- What a directive builds.  Its lengths are applied to the finished text. -/
def instantiate (builder : Builder) (spec : Spec) (context : Context) :
    Except BadParameter Renderer := do
  let renderer ← builder.build spec context
  if spec.head.lengths.isUnlimited then pure renderer
  else pure fun record => spec.head.lengths.apply (renderer record)

end Builder

/-- The builders by word, and the words by alias. -/
structure Registry where
  builders : Table Builder
  aliases : Table String

namespace Registry

def empty : Registry := ⟨.empty, .empty⟩

/-- The word that a name stands for. -/
def canonical (registry : Registry) (name : String) : String :=
  (registry.aliases.get? name).getD name

/-- The builder of a word or an alias. -/
def resolve? (registry : Registry) (name : String) : Option Builder :=
  registry.builders.get? (registry.canonical name)

/-- Whether a name is a word or an alias. -/
def contains (registry : Registry) (name : String) : Bool :=
  (registry.resolve? name).isSome

/-- The registry with a builder under a word, which then is no alias any more. -/
def register (registry : Registry) (word : String) (builder : Builder) : Registry :=
  ⟨registry.builders.insert word builder, registry.aliases.erase word⟩

/-- Make a name an alias of a word or of another alias's word; the result says
whether there is such a word.  A word that becomes an alias loses its builder, and
its own aliases follow it.  A word stays what it is when it is made an alias of
itself. -/
def addAlias (registry : Registry) (name target : String) : Registry × Bool :=
  let word := registry.canonical target
  if registry.builders.contains word then
    if name = word then (registry, true)
    else
      let aliases := registry.aliases.map fun other => if other = name then word else other
      (⟨registry.builders.erase name, aliases.insert name word⟩, true)
  else (registry, false)

/-- Make several names aliases of one word. -/
def aliasAll (registry : Registry) (target : String) (names : List String) : Registry :=
  names.foldl (fun registry name => (registry.addAlias name target).1) registry

/-- The words, in rising order. -/
def words (registry : Registry) : List String := registry.builders.keys

/-- The aliases with their words, in rising order of the aliases. -/
def aliasPairs (registry : Registry) : List (String × String) := registry.aliases.entries

/-- What the reader has to know of the words. -/
def vocabulary (registry : Registry) : Vocabulary := fun name =>
  (registry.resolve? name).map Builder.encloses

end Registry
end LogLayout.Pattern
