import LogLayout.Text.Hexadecimal

namespace LogLayout.Toml

/-!
Blanks, strings and keys of TOML.

A reader takes characters from the front and returns the rest, or nothing where the
text does not follow the grammar.
-/

/-- Takes characters from the front of a text. -/
abbrev Reader (Value : Type) := List Char → Option (Value × List Char)

def consed (character : Char) (read : Option (List Char × List Char)) :
    Option (List Char × List Char) :=
  read.map fun (text, rest) => (character :: text, rest)

/-! ## Blanks and lines -/

/-- Whether a character is a blank within a line. -/
def isSpace (character : Char) : Bool := character == ' ' || character == '\t'

/-- The text without leading blanks. -/
def dropSpace (text : List Char) : List Char := text.dropWhile isSpace

/-- Whether a character is printable or a tab. -/
def isPlain (character : Char) : Bool :=
  character == '\t' || (0x20 ≤ character.toNat && character.toNat ≠ 0x7F)

/-- The text behind a line end, if one stands in front. -/
def dropNewline? : List Char → Option (List Char)
  | '\n' :: rest => some rest
  | '\r' :: '\n' :: rest => some rest
  | _ => none

def dropComment (text : List Char) : List Char :=
  match text with
  | '#' :: rest => rest.dropWhile isPlain
  | _ => text

/-- Finish a line: blanks, a comment, and the end of the line or of the text. -/
def endLine (text : List Char) : Option (List Char) :=
  match dropComment (dropSpace text) with
  | [] => some []
  | rest => dropNewline? rest

/-- The text without leading blanks, comments and line ends, within a number of
turns. -/
def dropLines : Nat → List Char → List Char
  | 0, text => text
  | turns + 1, text =>
      let text := dropSpace text
      match dropNewline? (dropComment text) with
      | some rest => dropLines turns rest
      | none => text

/-! ## Strings on one line -/

/-- The character that a letter behind a backslash stands for. -/
def escaped? : Char → Option Char
  | 'b' => some '\x08'
  | 't' => some '\t'
  | 'n' => some '\n'
  | 'f' => some '\x0c'
  | 'r' => some '\r'
  | '\x22' => some '\x22'
  | '\\' => some '\\'
  | _ => none

def numbered? (digits : List Char) : Option Char :=
  (Text.hexNumber? digits).bind Text.scalar?

/-- Read a string with escapes from behind its quote. -/
def readBasic : List Char → Option (List Char × List Char)
  | [] => none
  | '\x22' :: rest => some ([], rest)
  | '\\' :: 'u' :: a :: b :: c :: d :: rest => do
      consed (← numbered? [a, b, c, d]) (readBasic rest)
  | '\\' :: 'U' :: a :: b :: c :: d :: e :: f :: g :: h :: rest => do
      consed (← numbered? [a, b, c, d, e, f, g, h]) (readBasic rest)
  | '\\' :: letter :: rest => do
      consed (← escaped? letter) (readBasic rest)
  | character :: rest =>
      if isPlain character && character ≠ '\\' then consed character (readBasic rest) else none

/-- Read a string without escapes from behind its quote. -/
def readLiteral : List Char → Option (List Char × List Char)
  | [] => none
  | '\x27' :: rest => some ([], rest)
  | character :: rest =>
      if isPlain character then consed character (readLiteral rest) else none

/-! ## Strings on several lines -/

/-- Up to two further quotes, which belong to a string that ends in front of them. -/
def lastQuotes (quote : Char) (rest : List Char) : List Char × List Char :=
  let quotes := (rest.takeWhile (· == quote)).take 2
  (quotes, rest.drop quotes.length)

/-- The text without a line end in front. -/
def dropFirstNewline (text : List Char) : List Char := (dropNewline? text).getD text

/-- Whether nothing but blanks stand in front of the next line end. -/
def endsLine (text : List Char) : Bool := (dropNewline? (dropSpace text)).isSome

/-- Read a string with escapes from behind its three quotes.  A backslash at the end
of a line folds away the line end and the blanks and lines behind it. -/
def readLongBasic (folding : Bool) : List Char → Option (List Char × List Char)
  | [] => none
  | '\r' :: '\n' :: rest =>
      if folding then readLongBasic true rest else consed '\n' (readLongBasic false rest)
  | '\n' :: rest =>
      if folding then readLongBasic true rest else consed '\n' (readLongBasic false rest)
  | '\x22' :: '\x22' :: '\x22' :: rest => some (lastQuotes '\x22' rest)
  | '\\' :: 'u' :: a :: b :: c :: d :: rest => do
      consed (← numbered? [a, b, c, d]) (readLongBasic false rest)
  | '\\' :: 'U' :: a :: b :: c :: d :: e :: f :: g :: h :: rest => do
      consed (← numbered? [a, b, c, d, e, f, g, h]) (readLongBasic false rest)
  | '\\' :: letter :: rest =>
      match escaped? letter with
      | some character => consed character (readLongBasic false rest)
      | none => if endsLine (letter :: rest) then readLongBasic true (letter :: rest) else none
  | character :: rest =>
      if folding && isSpace character then readLongBasic true rest
      else if isPlain character && character ≠ '\\' then
        consed character (readLongBasic false rest)
      else none

/-- Read a string without escapes from behind its three quotes. -/
def readLongLiteral : List Char → Option (List Char × List Char)
  | [] => none
  | '\r' :: '\n' :: rest => consed '\n' (readLongLiteral rest)
  | '\n' :: rest => consed '\n' (readLongLiteral rest)
  | '\x27' :: '\x27' :: '\x27' :: rest => some (lastQuotes '\x27' rest)
  | character :: rest =>
      if isPlain character then consed character (readLongLiteral rest) else none

def readString (text : List Char) : Option (List Char × List Char) :=
  match text with
  | '\x22' :: '\x22' :: '\x22' :: rest => readLongBasic false (dropFirstNewline rest)
  | '\x22' :: rest => readBasic rest
  | '\x27' :: '\x27' :: '\x27' :: rest => readLongLiteral (dropFirstNewline rest)
  | '\x27' :: rest => readLiteral rest
  | _ => none

/-! ## Keys -/

/-- Whether a character may stand in a key without quotes. -/
def isBareKey (character : Char) : Bool :=
  character.isAlphanum || character == '-' || character == '_'

def readKeyPart : Reader String := fun text =>
  let made (read : Option (List Char × List Char)) : Option (String × List Char) :=
    read.map fun (name, rest) => (String.ofList name, rest)
  match text with
  | '\x22' :: rest => made (readBasic rest)
  | '\x27' :: rest => made (readLiteral rest)
  | _ =>
      let name := text.takeWhile isBareKey
      if name.isEmpty then none else some (String.ofList name, text.dropWhile isBareKey)

/-- The greatest number of parts of a key. -/
def keyLimit : Nat := 79

/-- Read a key of at most so many parts with dots between them, as the parts before
the last one and the last one. -/
def readKeyParts : Nat → Reader (List String × String)
  | 0 => fun _ => none
  | parts + 1 => fun text => do
      let (part, rest) ← readKeyPart (dropSpace text)
      match dropSpace rest with
      | '.' :: rest =>
          let ((path, key), rest) ← readKeyParts parts rest
          pure ((part :: path, key), rest)
      | rest => pure (([], part), rest)

def readKey : Reader (List String × String) := readKeyParts keyLimit

end LogLayout.Toml
