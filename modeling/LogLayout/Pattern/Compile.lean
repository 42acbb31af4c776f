import LogLayout.Pattern.Registry

namespace LogLayout.Pattern

/-!
Compiling patterns.

A pattern is read into items, and the items are built from left to right.  The
fault that is reported is the first one on that way: a directive is built as soon
as it has been read, and the pattern that it encloses before it.
-/

/-- A fault, and how many characters had been read when it was found. -/
structure Failure where
  fault : Fault
  stopped : Nat
  deriving DecidableEq, Repr

/-- The part that a directive becomes. -/
def Registry.create (registry : Registry) (context : Context) (spec : Spec) :
    Except Fault Renderer :=
  match registry.resolve? spec.word with
  | none => .error (.unknownWord spec.word spec.head.position)
  | some builder => (builder.instantiate spec context).mapError .badParameter

/-- Build a directive that has been read up to `finish`. -/
def buildDirective (registry : Registry) (context : Context) (spec : Spec) (finish : Nat) :
    Except Failure Renderer :=
  (registry.create context spec).mapError fun fault => ⟨fault, finish⟩

mutual

def Item.build (registry : Registry) (context : Context) :
    Item → Except Failure Renderer
  | .literal text => .ok fun _ => text
  | .percent => .ok fun _ => "%"
  | .directive head none parameters finish =>
      buildDirective registry context ⟨head, parameters, none⟩ finish
  | .directive head (some items) parameters finish =>
      match buildAll registry context items with
      | .error failure => .error failure
      | .ok units => buildDirective registry context ⟨head, parameters, some ⟨units⟩⟩ finish

/-- Build items from left to right. -/
def buildAll (registry : Registry) (context : Context) :
    List Item → Except Failure (List Renderer)
  | [] => .ok []
  | item :: rest =>
      match item.build registry context with
      | .error failure => .error failure
      | .ok unit =>
          match buildAll registry context rest with
          | .error failure => .error failure
          | .ok units => .ok (unit :: units)

end

namespace Registry

/-- Compile up to `closing` or the end of the text; the cursor stands where
compiling stopped. -/
def compileUntil (registry : Registry) (context : Context) (closing : Option Char)
    (cursor : Cursor) : Except Failure (Compiled × Cursor) :=
  match readItems registry.vocabulary closing cursor with
  | .complete items behind _ =>
      match buildAll registry context items with
      | .error failure => .error failure
      | .ok units => .ok (⟨units⟩, behind)
  | .broken items fault behind =>
      match buildAll registry context items with
      | .error failure => .error failure
      | .ok _ => .error ⟨fault, behind.position⟩

/-- Compile a whole pattern. -/
def compile (registry : Registry) (context : Context) (pattern : String) :
    Except Fault Compiled :=
  match registry.compileUntil context none (.ofText pattern) with
  | .error failure => .error failure.fault
  | .ok (compiled, _) => .ok compiled

end Registry
end LogLayout.Pattern
