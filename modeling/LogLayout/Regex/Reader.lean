import LogLayout.Regex.Property
import LogLayout.Regex.Search
import LogLayout.Text.Alphabetic
import LogLayout.Text.Blank
import LogLayout.Text.Decimal
import LogLayout.Text.Hexadecimal

namespace LogLayout.Regex

/-!
Reading regular expressions.

The notation has groups, alternatives, greedy and lazy repetition, classes with
set operations, flags such as `(?i)`, anchors and word boundaries.  There is no
look-around and there are no back-references, and they are refused.

A reader keeps the groups that are still open on a stack and takes at least one
character in every turn, so that the length of the expression bounds its turns.
-/

/-- Why an expression is refused. -/
inductive Flaw where
  | malformed
  | tooLarge
  deriving DecidableEq, Repr

def Flaw.message : Flaw → String
  | malformed => "regex parse error:"
  | tooLarge => "Compiled regex exceeds size limit of 10485760 bytes."

/-- What flags can switch. -/
structure Flags where
  caseless : Bool := false
  multiLine : Bool := false
  dotTakesNewline : Bool := false
  swapGreed : Bool := false
  unicode : Bool := true
  carriageReturn : Bool := false
  extended : Bool := false
  deriving DecidableEq, Repr

namespace Flags

def set? (flags : Flags) (letter : Char) (value : Bool) : Option Flags :=
  match letter with
  | 'i' => some { flags with caseless := value }
  | 'm' => some { flags with multiLine := value }
  | 's' => some { flags with dotTakesNewline := value }
  | 'U' => some { flags with swapGreed := value }
  | 'u' => some { flags with unicode := value }
  | 'R' => some { flags with carriageReturn := value }
  | 'x' => some { flags with extended := value }
  | _ => none

/-- The word characters that boundaries look at. -/
def word (flags : Flags) : CharSet :=
  if flags.unicode then CharSet.word else CharSet.asciiWord

/-- The complement of a set.  Without Unicode it is taken among bytes. -/
def complement (flags : Flags) (members : CharSet) : CharSet :=
  if flags.unicode then members.complement else members.complementUpTo 255

/-- A set closed under case if the flags ask for it. -/
def fold (flags : Flags) (members : CharSet) : CharSet :=
  if !flags.caseless then members
  else if flags.unicode then members.foldCase
  else members.foldAsciiCase

/-- A set as an expression.  Without Unicode it must not reach beyond ASCII,
because a single byte from there is no character. -/
def permit (flags : Flags) (members : CharSet) : Except Flaw CharSet :=
  if flags.unicode || members.isAscii then .ok members else .error .malformed

end Flags

/-! ## Blanks, comments and numbers -/

/-- In extended mode, skip blanks and comments. -/
def skipComment : List Char → List Char
  | [] => []
  | '\n' :: rest => rest
  | _ :: rest => skipComment rest

/-- Skip what extended mode ignores, within a number of turns. -/
def skipIgnored : Nat → List Char → List Char
  | 0, text => text
  | _ + 1, [] => []
  | turns + 1, character :: rest =>
      if Text.isBlank character then skipIgnored turns rest
      else if character = '#' then skipIgnored turns (skipComment rest)
      else character :: rest

def skip (flags : Flags) (text : List Char) : List Char :=
  if flags.extended then skipIgnored text.length text else text

/-- Read a decimal number of 32 bits, with blanks around it. -/
def readCount (text : List Char) : Option Nat × List Char :=
  let text := Text.dropBlanks text
  let digits := text.takeWhile Char.isDigit
  let value := Text.digitsValue digits
  let behind := Text.dropBlanks (text.dropWhile Char.isDigit)
  (if digits.isEmpty || 4294967295 < value then none else some value, behind)

def codePoint? (digits : List Char) : Option Nat :=
  let value := digits.foldl (fun value digit => value * 16 + (Text.hexValue? digit).getD 0) 0
  if digits.isEmpty then none
  else if value < 0xD800 || (0xE000 ≤ value && value ≤ 0x10FFFF) then some value
  else none

/-- Read a fixed number of hexadecimal digits. -/
def readHexDigits (flags : Flags) :
    Nat → List Char → Except Flaw (List Char × List Char)
  | 0, text => .ok ([], text)
  | count + 1, text =>
      match text with
      | [] => .error .malformed
      | character :: rest =>
          if (Text.hexValue? character).isSome then
            (readHexDigits flags count (skip flags rest)).map fun (digits, behind) =>
              (character :: digits, behind)
          else .error .malformed

/-- Read hexadecimal digits up to a closing brace, within a number of turns. -/
def readHexBrace (flags : Flags) :
    Nat → List Char → Except Flaw (List Char × List Char)
  | 0, _ => .error .malformed
  | turns + 1, text =>
      match skip flags text with
      | [] => .error .malformed
      | '\x7d' :: rest => .ok ([], rest)
      | character :: rest =>
          if (Text.hexValue? character).isSome then
            (readHexBrace flags turns rest).map fun (digits, behind) =>
              (character :: digits, behind)
          else .error .malformed

/-! ## Escapes -/

/-- What stands for one piece of an expression or of a class. -/
inductive Atom where
  /-- A character as it is written. -/
  | verbatim (code : Nat)
  /-- A character by its number, which without Unicode is a byte. -/
  | numbered (code : Nat)
  | members (set : CharSet)
  | look (condition : Look)
  deriving Repr

/-- The characters that mean something on their own, and so can be escaped. -/
def isMeta (character : Char) : Bool :=
  "\\.+*?()|[]\x7b\x7d^$#&-~".toList.contains character

/-- Whether a backslash before a character is allowed and changes nothing. -/
def isEscapable (character : Char) : Bool :=
  isMeta character ||
    (character.toNat < 128 && !character.isAlphanum && character != '<' && character != '>')

/-- The boundary of a name between braces. -/
def namedBoundary? (word : CharSet) : String → Option Look
  | "start" => some (.wordStart word)
  | "end" => some (.wordEnd word)
  | "start-half" => some (.wordStartHalf word)
  | "end-half" => some (.wordEndHalf word)
  | _ => none

/-- Read the name between the braces of a word boundary, within a number of
turns. -/
def readBoundaryName (flags : Flags) : Nat → List Char → List Char × List Char
  | 0, text => ([], text)
  | _ + 1, [] => ([], [])
  | turns + 1, character :: rest =>
      if character.isAlpha || character = '-' then
        let (name, behind) := readBoundaryName flags turns (skip flags rest)
        (character :: name, behind)
      else ([], character :: rest)

/-- Read what follows `\b`: a name in braces, or nothing if the braces hold a
count. -/
def readBoundary (flags : Flags) (text : List Char) : Except Flaw (Look × List Char) :=
  match text with
  | '\x7b' :: rest =>
      match skip flags rest with
      | [] => .error .malformed
      | first :: others =>
          if first.isAlpha || first = '-' then
            let (name, behind) := readBoundaryName flags (others.length + 1) (first :: others)
            match behind, namedBoundary? flags.word (String.ofList name) with
            | '\x7d' :: behind, some condition => .ok (condition, behind)
            | _, _ => .error .malformed
          else .ok (.wordBoundary flags.word, text)
  | _ => .ok (.wordBoundary flags.word, text)

/-- Read a character by its number, from behind `\x`, `\u` or `\U`. -/
def readNumbered (flags : Flags) (count : Nat) (text : List Char) :
    Except Flaw (Atom × List Char) := do
  let (digits, behind) ← match skip flags text with
    | '\x7b' :: rest =>
        (readHexBrace flags (rest.length + 1) rest).map fun (digits, behind) =>
          (digits, skip flags behind)
    | digits => readHexDigits flags count digits
  match codePoint? digits with
  | some code => pure (.numbered code, behind)
  | none => .error .malformed

/-- Read the name of a property up to a closing brace, within a number of turns. -/
def readPropertyName (flags : Flags) :
    Nat → List Char → Except Flaw (List Char × List Char)
  | 0, _ => .error .malformed
  | turns + 1, text =>
      match skip flags text with
      | [] => .error .malformed
      | '\x7d' :: rest => .ok ([], rest)
      | character :: rest =>
          (readPropertyName flags turns rest).map fun (name, behind) => (character :: name, behind)

/-- The text before and the text behind the first place where a mark stands. -/
def splitAtMark? (mark : List Char) : List Char → Option (List Char × List Char)
  | [] => none
  | character :: rest =>
      if mark.isPrefixOf (character :: rest) then
        some ([], (character :: rest).drop mark.length)
      else
        (splitAtMark? mark rest).map fun (before, behind) => (character :: before, behind)

/-- The characters of a name between braces, and whether it asks for all others. -/
def namedMembers? (name : List Char) : Option (CharSet × Bool) :=
  match splitAtMark? ['!', '='] name with
  | some (property, value) =>
      (CharSet.ofNamedValue? property value).map fun members => (members, true)
  | none =>
      match splitAtMark? [':'] name with
      | some (property, value) =>
          (CharSet.ofNamedValue? property value).map fun members => (members, false)
      | none =>
          match splitAtMark? ['='] name with
          | some (property, value) =>
              (CharSet.ofNamedValue? property value).map fun members => (members, false)
          | none => (CharSet.ofName? name).map fun members => (members, false)

/-- Read the name of a property from behind `\p`: one letter, or a text in braces. -/
def readProperty (flags : Flags) (negated : Bool) (text : List Char) :
    Except Flaw (Atom × List Char) := do
  if !flags.unicode then .error .malformed
  let (named, behind) ← match skip flags text with
    | [] => .error .malformed
    | '\\' :: _ => .error .malformed
    | '\x7b' :: rest => do
        let (name, behind) ← readPropertyName flags (rest.length + 1) rest
        pure (namedMembers? name, behind)
    | letter :: rest =>
        pure ((CharSet.ofName? [letter]).map fun members => (members, false), rest)
  match named with
  | none => .error .malformed
  | some (members, others) =>
      let members := flags.fold members
      pure (.members (if negated != others then flags.complement members else members), behind)

/-- Read an escape from behind its backslash. -/
def readEscape (flags : Flags) (text : List Char) : Except Flaw (Atom × List Char) :=
  let digit := if flags.unicode then CharSet.digit else CharSet.asciiDigit
  let blank := if flags.unicode then CharSet.blank else CharSet.asciiBlank
  match text with
  | [] => .error .malformed
  | 'x' :: rest => readNumbered flags 2 rest
  | 'u' :: rest => readNumbered flags 4 rest
  | 'U' :: rest => readNumbered flags 8 rest
  | 'd' :: rest => .ok (.members digit, rest)
  | 'D' :: rest => .ok (.members (flags.complement digit), rest)
  | 's' :: rest => .ok (.members blank, rest)
  | 'S' :: rest => .ok (.members (flags.complement blank), rest)
  | 'w' :: rest => .ok (.members flags.word, rest)
  | 'W' :: rest => .ok (.members (flags.complement flags.word), rest)
  | 'p' :: rest => readProperty flags false rest
  | 'P' :: rest => readProperty flags true rest
  | 'a' :: rest => .ok (.verbatim 7, rest)
  | 'f' :: rest => .ok (.verbatim 12, rest)
  | 't' :: rest => .ok (.verbatim 9, rest)
  | 'n' :: rest => .ok (.verbatim 10, rest)
  | 'r' :: rest => .ok (.verbatim 13, rest)
  | 'v' :: rest => .ok (.verbatim 11, rest)
  | 'A' :: rest => .ok (.look .textStart, rest)
  | 'z' :: rest => .ok (.look .textEnd, rest)
  | 'b' :: rest => (readBoundary flags rest).map fun (condition, behind) =>
      (.look condition, behind)
  | 'B' :: rest => .ok (.look (.notWordBoundary flags.word), rest)
  | '<' :: rest => .ok (.look (.wordStart flags.word), rest)
  | '>' :: rest => .ok (.look (.wordEnd flags.word), rest)
  | character :: rest =>
      if isEscapable character then .ok (.verbatim character.toNat, rest)
      else .error .malformed

/-! ## Classes -/

/-- An operation between the sets of a class. -/
inductive SetOperation where
  | intersection
  | difference
  | symmetricDifference
  deriving DecidableEq, Repr

/-- The result of an operation, on sets closed under case if need be. -/
def SetOperation.apply (operation : SetOperation) (flags : Flags) (left right : CharSet) :
    CharSet :=
  match operation with
  | intersection => (flags.fold left).intersection (flags.fold right)
  | difference => (flags.fold left).difference (flags.fold right)
  | symmetricDifference => (flags.fold left).symmetricDifference (flags.fold right)

/-- A class that is still open: the union read before it, whether it is negated,
and its left operand with the operation behind it. -/
structure OpenClass where
  before : CharSet
  negated : Bool
  pending : Option (CharSet × SetOperation)

/-- Apply the pending operation of a class to the union that stands behind it. -/
def OpenClass.operand (flags : Flags) (frame : OpenClass) (union : CharSet) : CharSet :=
  match frame.pending with
  | none => union
  | some (left, operation) => operation.apply flags left union

def OpenClass.close (flags : Flags) (frame : OpenClass) (union : CharSet) : CharSet :=
  let members := flags.fold (frame.operand flags union)
  if frame.negated then flags.complement members else members

/-- Take leading hyphens of a class as members. -/
def readHyphens (flags : Flags) : Nat → CharSet → List Char → CharSet × List Char
  | 0, union, text => (union, text)
  | turns + 1, union, text =>
      match text with
      | '-' :: rest => readHyphens flags turns (union.union (.single 45)) (skip flags rest)
      | _ => (union, text)

/-- Open a class from behind its bracket: whether it is negated, and the hyphens
or the bracket that it begins with. -/
def openClass (flags : Flags) (before : CharSet) (text : List Char) :
    Except Flaw (OpenClass × CharSet × List Char) :=
  let text := skip flags text
  let (negated, text) := match text with
    | '^' :: rest => (true, skip flags rest)
    | _ => (false, text)
  let (union, text) := readHyphens flags text.length .empty text
  let (union, text) := match text with
    | ']' :: rest =>
        if union = CharSet.empty then (CharSet.single 93, skip flags rest) else (union, text)
    | _ => (union, text)
  if text.isEmpty then .error .malformed else .ok (⟨before, negated, none⟩, union, text)

/-- Read a class such as `[:alpha:]` from behind its first bracket. -/
def readAsciiClass? (flags : Flags) (text : List Char) : Option (CharSet × List Char) :=
  match text with
  | ':' :: rest =>
      let (negated, rest) := match rest with
        | '^' :: others => (true, others)
        | _ => (false, rest)
      let name := rest.takeWhile (· ≠ ':')
      match rest.dropWhile (· ≠ ':'), CharSet.ofAsciiName? (String.ofList name) with
      | ':' :: ']' :: behind, some members =>
          some (if negated then flags.complement members else members, behind)
      | _, _ => none
  | _ => none

def readMember (flags : Flags) (text : List Char) : Except Flaw (Atom × List Char) :=
  match text with
  | [] => .error .malformed
  | '\\' :: rest => readEscape flags rest
  | character :: rest => .ok (.verbatim character.toNat, rest)

def Atom.code (flags : Flags) : Atom → Except Flaw Nat
  | verbatim code => if flags.unicode || code < 128 then .ok code else .error .malformed
  | numbered code => if flags.unicode || code < 256 then .ok code else .error .malformed
  | members _ => .error .malformed
  | look _ => .error .malformed

def Atom.classMembers (flags : Flags) (atom : Atom) : Except Flaw CharSet :=
  match atom with
  | members set => .ok set
  | _ => (atom.code flags).map CharSet.single

def readClassItem (flags : Flags) (text : List Char) : Except Flaw (CharSet × List Char) := do
  let (first, behind) ← readMember flags text
  let behind := skip flags behind
  match behind with
  | [] => .error .malformed
  | '-' :: rest =>
      match skip flags rest with
      | [] => .error .malformed
      | ']' :: _ => pure (← first.classMembers flags, behind)
      | '-' :: _ => pure (← first.classMembers flags, behind)
      | others =>
          let (last, behind) ← readMember flags others
          let first ← first.code flags
          let last ← last.code flags
          if first ≤ last then pure (CharSet.range first last, behind) else .error .malformed
  | _ => pure (← first.classMembers flags, behind)

/-- Read a class whose bracket has been opened, within a number of turns.  Open
classes stand on the stack, the innermost first. -/
def readClass (flags : Flags) (stack : List OpenClass) (union : CharSet) :
    Nat → List Char → Except Flaw (CharSet × List Char)
  | 0, _ => .error .malformed
  | turns + 1, text =>
      match stack, skip flags text with
      | [], _ => .error .malformed
      | _, [] => .error .malformed
      | frame :: outer, '[' :: rest =>
          match readAsciiClass? flags rest with
          | some (members, behind) =>
              readClass flags (frame :: outer) (union.union members) turns behind
          | none => do
              let (inner, members, behind) ← openClass flags union rest
              readClass flags (inner :: frame :: outer) members turns behind
      | frame :: outer, ']' :: rest =>
          let members := frame.close flags union
          match outer with
          | [] => .ok (members, rest)
          | next :: others =>
              readClass flags (next :: others) (frame.before.union members) turns rest
      | frame :: outer, '&' :: '&' :: rest =>
          readClass flags
            ({ frame with pending := some (frame.operand flags union, .intersection) } :: outer)
            .empty turns rest
      | frame :: outer, '-' :: '-' :: rest =>
          readClass flags
            ({ frame with pending := some (frame.operand flags union, .difference) } :: outer)
            .empty turns rest
      | frame :: outer, '~' :: '~' :: rest =>
          readClass flags
            ({ frame with pending := some (frame.operand flags union, .symmetricDifference) }
              :: outer)
            .empty turns rest
      | frame :: outer, others => do
          let (members, behind) ← readClassItem flags others
          readClass flags (frame :: outer) (union.union members) turns behind

/-! ## Groups -/

/-- Whether a character may stand in the name of a group. -/
def isNameCharacter (first : Bool) (character : Char) : Bool :=
  character = '_' || Text.isAlphabetic character ||
    (!first && (character = '.' || character = '[' || character = ']' ||
      CharSet.digit.contains character.toNat))

/-- Read the name of a group up to the closing angle. -/
def readGroupName (text : List Char) : Except Flaw (String × List Char) :=
  let name := text.takeWhile (· ≠ '>')
  match name, text.dropWhile (· ≠ '>') with
  | first :: others, _ :: behind =>
      if isNameCharacter true first && others.all (isNameCharacter false) then
        .ok (String.ofList name, behind)
      else .error .malformed
  | _, _ => .error .malformed

/-- Read flags up to the character that ends them, which is returned too.
`seen` holds the flags so far; a flag and the minus may come once each. -/
def readFlags (flags : Flags) (seen : List Char) (negated : Bool) :
    List Char → Except Flaw (Flags × List Char × List Char)
  | [] => .error .malformed
  | ':' :: rest =>
      if seen.head? = some '-' then .error .malformed else .ok (flags, seen, ':' :: rest)
  | ')' :: rest =>
      if seen.head? = some '-' then .error .malformed else .ok (flags, seen, ')' :: rest)
  | letter :: rest =>
      if seen.contains letter then .error .malformed
      else if letter = '-' then readFlags flags (letter :: seen) true rest
      else
        match flags.set? letter (!negated) with
        | none => .error .malformed
        | some flags => readFlags flags (letter :: seen) negated rest

/-! ## Expressions -/

/-- A piece of a sequence, with how deeply it is nested.  Flags in the middle of
a sequence are a piece that cannot be repeated. -/
structure Piece where
  node : Node
  depth : Nat
  repeatable : Bool := true

/-- The deepest nesting that is read. -/
def depthLimit : Nat := 250

def Piece.sequence (pieces : List Piece) : Piece :=
  match pieces with
  | [] => ⟨.empty, 0, true⟩
  | [piece] => piece
  | _ => ⟨.sequence (pieces.reverse.map Piece.node),
      1 + (pieces.map Piece.depth).foldl max 0, true⟩

/-- Alternatives, the last one first. -/
def Piece.choice (branches : List Piece) : Piece :=
  match branches with
  | [] => ⟨.empty, 0, true⟩
  | [branch] => branch
  | _ => ⟨.choice (branches.reverse.map Piece.node),
      1 + (branches.map Piece.depth).foldl max 0, true⟩

/-- A group that is still open: what stood before it, its number if it captures,
and the flags to return to. -/
structure OpenGroup where
  pieces : List Piece
  branches : List Piece
  capture : Option Nat
  flags : Flags

/-- What has been read of an expression. -/
structure Progress where
  pieces : List Piece := []
  branches : List Piece := []
  groups : List OpenGroup := []
  flags : Flags := {}
  nextGroup : Nat := 1
  names : List (String × Nat) := []

namespace Progress

def add (progress : Progress) (piece : Piece) : Progress :=
  { progress with pieces := piece :: progress.pieces }

/-- The expression between the last opening and here. -/
def inside (progress : Progress) : Piece :=
  .choice (.sequence progress.pieces :: progress.branches)

def openGroup (progress : Progress) (capture : Option Nat) (flags : Flags) : Progress :=
  { progress with
    pieces := []
    branches := []
    groups := ⟨progress.pieces, progress.branches, capture, progress.flags⟩ :: progress.groups
    flags := flags }

def openCapture (progress : Progress) : Progress :=
  { progress.openGroup (some progress.nextGroup) progress.flags with
    nextGroup := progress.nextGroup + 1 }

/-- Open a capturing group with a name, which must be new. -/
def openNamed (progress : Progress) (text : List Char) :
    Except Flaw (Progress × List Char) := do
  let (name, behind) ← readGroupName text
  if (progress.names.lookup name).isSome then .error .malformed
  else pure ({ progress.openCapture with
    names := (name, progress.nextGroup) :: progress.names }, behind)

/-- Read what follows an opening parenthesis. -/
def readGroup (progress : Progress) (text : List Char) :
    Except Flaw (Progress × List Char) :=
  match skip progress.flags text with
  | '?' :: '=' :: _ => .error .malformed
  | '?' :: '!' :: _ => .error .malformed
  | '?' :: '<' :: '=' :: _ => .error .malformed
  | '?' :: '<' :: '!' :: _ => .error .malformed
  | '?' :: 'P' :: '<' :: rest => progress.openNamed rest
  | '?' :: '<' :: rest => progress.openNamed rest
  | '?' :: rest => do
      let (flags, seen, behind) ← readFlags progress.flags [] false rest
      match behind with
      | ')' :: behind =>
          if seen.isEmpty then .error .malformed
          else pure ({ progress with flags := flags }.add ⟨.empty, 0, false⟩, behind)
      | _ :: behind => pure (progress.openGroup none flags, behind)
      | [] => .error .malformed
  | others => pure (progress.openCapture, others)

def closeGroup (progress : Progress) : Except Flaw Progress :=
  match progress.groups with
  | [] => .error .malformed
  | group :: outer =>
      let inside := progress.inside
      let node := match group.capture with
        | some index => Node.capture index inside.node
        | none => inside.node
      .ok { progress with
        pieces := ⟨node, inside.depth + 1, true⟩ :: group.pieces
        branches := group.branches
        groups := outer
        flags := group.flags }

/-- Repeat the last piece.  A question mark behind the operator swaps its greed. -/
def repeatLast (progress : Progress) (least : Nat) (greatest : Option Nat)
    (text : List Char) : Except Flaw (Progress × List Char) :=
  match progress.pieces with
  | [] => .error .malformed
  | piece :: others =>
      if piece.repeatable then
        let (plain, behind) := match text with
          | '?' :: rest => (false, rest)
          | _ => (true, text)
        let greedy := plain != progress.flags.swapGreed
        .ok ({ progress with
          pieces := ⟨.ofIteration piece.node least greatest greedy, piece.depth + 1, true⟩
            :: others }, behind)
      else .error .malformed

/-- Read a count from behind its opening brace and repeat the last piece. -/
def repeatCounted (progress : Progress) (text : List Char) :
    Except Flaw (Progress × List Char) :=
  match readCount (skip progress.flags text) with
  | (some least, '\x7d' :: rest) =>
      progress.repeatLast least (some least) (skip progress.flags rest)
  | (some least, ',' :: rest) =>
      match skip progress.flags rest with
      | '\x7d' :: rest => progress.repeatLast least none (skip progress.flags rest)
      | others =>
          match readCount others with
          | (some greatest, '\x7d' :: rest) =>
              if least ≤ greatest then
                progress.repeatLast least (some greatest) (skip progress.flags rest)
              else .error .malformed
          | _ => .error .malformed
  | _ => .error .malformed

def dotSet (flags : Flags) : CharSet :=
  if flags.dotTakesNewline then flags.complement .empty
  else if flags.carriageReturn then flags.complement ⟨[(10, 10), (13, 13)]⟩
  else flags.complement (.single 10)

def addAtom (progress : Progress) (atom : Atom) : Except Flaw Progress :=
  match atom with
  | .look condition => .ok (progress.add ⟨.look condition, 0, true⟩)
  | .members set => do
      let set ← progress.flags.permit set
      pure (progress.add ⟨.set set, 0, true⟩)
  | _ => do
      let code ← atom.code progress.flags
      let set ← progress.flags.permit (progress.flags.fold (.single code))
      pure (progress.add ⟨.set set, 0, true⟩)

/-- Read an expression, within a number of turns. -/
def read (progress : Progress) : Nat → List Char → Except Flaw Progress
  | 0, _ => .error .malformed
  | turns + 1, text =>
      match skip progress.flags text with
      | [] => .ok progress
      | '(' :: rest => do
          let (progress, behind) ← progress.readGroup rest
          progress.read turns behind
      | ')' :: rest => do
          let progress ← progress.closeGroup
          progress.read turns rest
      | '|' :: rest =>
          { progress with
            pieces := []
            branches := .sequence progress.pieces :: progress.branches }.read turns rest
      | '[' :: rest => do
          let (frame, union, behind) ← openClass progress.flags .empty rest
          let (members, behind) ←
            readClass progress.flags [frame] union (behind.length + 1) behind
          let members ← progress.flags.permit members
          (progress.add ⟨.set members, 1, true⟩).read turns behind
      | '?' :: rest => do
          let (progress, behind) ← progress.repeatLast 0 (some 1) rest
          progress.read turns behind
      | '*' :: rest => do
          let (progress, behind) ← progress.repeatLast 0 none rest
          progress.read turns behind
      | '+' :: rest => do
          let (progress, behind) ← progress.repeatLast 1 none rest
          progress.read turns behind
      | '\x7b' :: rest => do
          let (progress, behind) ← progress.repeatCounted rest
          progress.read turns behind
      | '\\' :: rest => do
          let (atom, behind) ← readEscape progress.flags rest
          let progress ← progress.addAtom atom
          progress.read turns behind
      | '.' :: rest => do
          let progress ← progress.addAtom (.members (dotSet progress.flags))
          progress.read turns rest
      | '^' :: rest => do
          let condition : Look :=
            if !progress.flags.multiLine then .textStart
            else if progress.flags.carriageReturn then .lineStartReturn
            else .lineStart
          let progress ← progress.addAtom (.look condition)
          progress.read turns rest
      | '$' :: rest => do
          let condition : Look :=
            if !progress.flags.multiLine then .textEnd
            else if progress.flags.carriageReturn then .lineEndReturn
            else .lineEnd
          let progress ← progress.addAtom (.look condition)
          progress.read turns rest
      | character :: rest => do
          let progress ← progress.addAtom (.verbatim character.toNat)
          progress.read turns rest

end Progress

/-- The greatest cost of an expression that is still built. -/
def costLimit : Nat := 327680

def Matcher.parse (expression : String) : Except Flaw Matcher := do
  let text := expression.toList
  let progress ← Progress.read {} (text.length + 1) text
  if progress.groups.isEmpty && progress.inside.depth ≤ depthLimit then
    let node := Node.capture 0 progress.inside.node
    if costLimit < node.cost then .error .tooLarge
    else
      let (start, program) := node.program
      pure ⟨start, program, progress.nextGroup, progress.names⟩
  else .error .malformed

end LogLayout.Regex
