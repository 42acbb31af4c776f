import LogLayout.Regex.Reader
import LogLayout.Text.Decimal
import LogLayout.Time.DatePattern
import LogLayout.Time.Zone

namespace LogLayout.Pattern

/-!
What can be wrong with a pattern.

A fault names the directive it is about by its word and by the offset of its
percent sign, in characters.  It does not hold the text of the pattern, which is
added only for the wording.
-/

/-- The greatest length that a directive may ask for. -/
def greatestLength : Nat := 65535

/-- Why a parameter is refused. -/
inductive Reason where
  | lengthOutOfRange
  | negativeLength
  | notInteger (flaw : Text.NumberFlaw)
  | missingParameters (needed : Nat)
  | dateFormat (flaw : Time.DateFlaw)
  | timeZone (unknown : Time.UnknownZone)
  | expression (flaw : Regex.Flaw)
  deriving DecidableEq, Repr

def Reason.message : Reason → String
  | lengthOutOfRange => s!"length must be at most {greatestLength} characters"
  | negativeLength => "length must not be negative"
  | notInteger flaw => "expected an integer: " ++ flaw.message
  | missingParameters needed => s!"expected at least {needed} parameter(s)"
  | dateFormat flaw => flaw.message
  | timeZone unknown => unknown.message
  | expression flaw => flaw.message

/-- A parameter of a directive, or one of its lengths, that cannot be used. -/
structure BadParameter where
  word : String
  parameter : String
  reason : Reason
  deriving DecidableEq, Repr

def BadParameter.message (bad : BadParameter) : String :=
  s!"invalid parameter '{bad.parameter}' for '%{bad.word}': {bad.reason.message}"

/-- What is wrong with a pattern. -/
inductive Fault where
  /-- A word that no builder is registered for; the empty word where a directive
  has none. -/
  | unknownWord (word : String) (position : Nat)
  /-- The pattern ends within a directive. -/
  | unterminated (word : String) (position : Nat)
  | badParameter (bad : BadParameter)
  deriving DecidableEq, Repr

def Fault.message (pattern : String) : Fault → String
  | unknownWord word position =>
      if word = "" then
        s!"missing conversion word after '%' at position {position} in \"{pattern}\""
      else s!"unknown conversion word '%{word}' at position {position} in \"{pattern}\""
  | unterminated word position =>
      s!"end of pattern while reading '%{word}' at position {position} in \"{pattern}\""
  | badParameter bad => bad.message

end LogLayout.Pattern
