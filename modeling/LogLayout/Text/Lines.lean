namespace LogLayout.Text

/-!
Lines of a text.

A line ends with a line feed, and a carriage return right before the line feed belongs
to the line end.  The last line needs no line end, and no line stands behind the last
line end.  The units may be characters or bytes.
-/

/-- Put a unit in front of the first of some lines. -/
def extendFirst {Unit : Type} (unit : Unit) : List (List Unit) → List (List Unit)
  | [] => [[unit]]
  | line :: others => (unit :: line) :: others

/-- The lines of a text, for what counts as a line feed and as a carriage return. -/
def linesBy {Unit : Type} (isFeed isReturn : Unit → Bool) : List Unit → List (List Unit)
  | [] => []
  | [unit] => if isFeed unit then [[]] else [[unit]]
  | unit :: next :: rest =>
      if isFeed unit then [] :: linesBy isFeed isReturn (next :: rest)
      else if isReturn unit && isFeed next then [] :: linesBy isFeed isReturn rest
      else extendFirst unit (linesBy isFeed isReturn (next :: rest))

/-- The lines of a text. -/
def lines (text : List Char) : List (List Char) := linesBy (· == '\n') (· == '\r') text

def decode? (bytes : List UInt8) : Option String := String.fromUTF8? ⟨bytes.toArray⟩

def encode (text : String) : List UInt8 := text.toUTF8.toList

/-- The lines of encoded text; a line that encodes no text is missing. -/
def decodedLines (bytes : List UInt8) : List (Option String) :=
  (linesBy (· == 10) (· == 13) bytes).map decode?

end LogLayout.Text
