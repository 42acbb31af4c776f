import LogLayout.Level

namespace LogLayout

/-!
Notices about the program's own work.

Whatever the program has to say of itself is a notice with a level and the scope that
it comes from.  Notices are collected in order next to a result; who shows them, and
whether, is decided elsewhere.
-/

/-- Something that the program has to say of its own work. -/
structure Notice where
  level : Level
  scope : String
  message : String
  deriving DecidableEq, Repr

namespace Notice

def trace (scope message : String) : Notice := ⟨.trace, scope, message⟩

def debug (scope message : String) : Notice := ⟨.debug, scope, message⟩

def info (scope message : String) : Notice := ⟨.info, scope, message⟩

def warn (scope message : String) : Notice := ⟨.warn, scope, message⟩

def error (scope message : String) : Notice := ⟨.error, scope, message⟩

end Notice

/-- A result with the notices that were made on the way. -/
structure Noted (Result : Type) where
  result : Result
  notices : List Notice
  deriving Repr

end LogLayout
