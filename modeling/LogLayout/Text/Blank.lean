namespace LogLayout.Text

/-!
White space, and texts with white space taken off their ends.

A character is blank when it has the Unicode property `White_Space`.  Texts are
lists of characters here, so that every statement about a cut is a statement
about lists; `trim` carries the cut over to strings.
-/

/-- Whether a character has the Unicode property `White_Space`. -/
def isBlank (character : Char) : Bool :=
  let code := character.toNat
  (9 ≤ code && code ≤ 13) || code == 0x20 || code == 0x85 || code == 0xA0 ||
    code == 0x1680 || (0x2000 ≤ code && code ≤ 0x200A) || code == 0x2028 ||
    code == 0x2029 || code == 0x202F || code == 0x205F || code == 0x3000

def dropBlanks (text : List Char) : List Char :=
  text.dropWhile isBlank

def dropFinalBlanks (text : List Char) : List Char :=
  (text.reverse.dropWhile isBlank).reverse

/-- The text without blanks at either end. -/
def trimChars (text : List Char) : List Char :=
  dropFinalBlanks (dropBlanks text)

/-- The text without blanks at either end. -/
def trim (text : String) : String :=
  String.ofList (trimChars text.toList)

/-- Whether a text holds nothing but blanks. -/
def allBlank (text : String) : Bool :=
  text.toList.all isBlank

/-- A text splits into its leading blanks and what `dropBlanks` leaves. -/
theorem takeWhile_append_dropBlanks (text : List Char) :
    text.takeWhile isBlank ++ dropBlanks text = text :=
  List.takeWhile_append_dropWhile

end LogLayout.Text
