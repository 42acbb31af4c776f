import LogLayout.Json.Reader

namespace LogLayout.Json

/-!
# The grammar of JSON

What texts are JSON, as a set of rules that do not say how to read them.  White space may
stand around every token.  A string is written with its characters as they are or escaped, and
`Spells` tells what it means; where the meaning does not matter, as in a value that is passed
over, `Inside` allows escapes that mean no character too.
-/

/-! ## White space -/

/-- A text of white space only. -/
def Blank (text : List Char) : Prop := ∀ character ∈ text, character ∈ [' ', '\n', '\t', '\r']

instance : DecidablePred Blank := fun text => List.decidableBAll _ text

theorem blank_nil : Blank [] := fun _ member => absurd member List.not_mem_nil

/-- What may stand right behind a value: nothing, white space, or what goes on or closes. -/
def Ends (rest : List Char) : Prop :=
  ∀ character ∈ rest.head?, character ∈ [' ', '\n', '\t', '\r', ',', ']', '\x7d']

/-- White space in front of what may follow a value may follow it too. -/
theorem Ends.blank_append {gap rest : List Char} (blank : Blank gap) (ends : Ends rest) :
    Ends (gap ++ rest) := by
  cases gap with
  | nil => exact ends
  | cons first others =>
      intro character begins
      cases begins
      have space := blank first List.mem_cons_self
      simp only [List.mem_cons, List.not_mem_nil, or_false] at space ⊢
      rcases space with rfl | rfl | rfl | rfl <;> simp only [true_or, or_true]

theorem ends_cons {first : Char} (rest : List Char)
    (either : first ∈ [' ', '\n', '\t', '\r', ',', ']', '\x7d']) : Ends (first :: rest) :=
  fun character begins => by cases begins; exact either

/-! ## Numbers -/

/-- A text of digits only, and at least one. -/
def Digits (text : List Char) : Prop := text ≠ [] ∧ ∀ digit ∈ text, digit.isDigit = true

instance : DecidablePred Digits := fun text =>
  @instDecidableAnd _ _ _ (List.decidableBAll _ text)

/-- The whole part of a number has no zero in front of another digit. -/
inductive Whole : List Char → Prop
  | zero : Whole ['0']
  | digits {first : Char} {others : List Char} (nonzero : first ≠ '0')
    (digits : Digits (first :: others)) : Whole (first :: others)

/-- A fraction, or none. -/
inductive Fraction : List Char → Prop
  | none : Fraction []
  | digits {digits : List Char} (written : Digits digits) : Fraction ('.' :: digits)

/-- An exponent, or none. -/
inductive Exponent : List Char → Prop
  | none : Exponent []
  | digits {letter : Char} {sign digits : List Char} (lettered : letter ∈ ['e', 'E'])
    (signed : sign ∈ [[], ['+'], ['-']]) (written : Digits digits) :
    Exponent (letter :: (sign ++ digits))

/-- A number. -/
inductive Number : List Char → Prop
  | parts {sign whole fraction exponent : List Char} (signed : sign ∈ [[], ['-']])
    (wholePart : Whole whole) (fractionPart : Fraction fraction)
    (exponentPart : Exponent exponent) : Number (sign ++ (whole ++ (fraction ++ exponent)))

/-! ## Strings -/

/-- The letters that stand behind a backslash for a character. -/
def shortEscapes : List (Char × Char) :=
  [('\x22', '\x22'), ('\\', '\\'), ('/', '/'), ('b', '\x08'), ('f', '\x0c'), ('n', '\n'),
    ('r', '\r'), ('t', '\t')]

/-- A character that may stand in a string as it is. -/
structure Plain (character : Char) : Prop where
  visible : 0x20 ≤ character.toNat
  noQuote : character ≠ '\x22'
  noBackslash : character ≠ '\\'

instance : DecidablePred Plain := fun character =>
  decidable_of_iff (0x20 ≤ character.toNat ∧ character ≠ '\x22' ∧ character ≠ '\\')
    ⟨fun ⟨visible, noQuote, noBackslash⟩ => ⟨visible, noQuote, noBackslash⟩,
      fun plain => ⟨plain.visible, plain.noQuote, plain.noBackslash⟩⟩

/-- A text of characters that may stand in a string as they are. -/
def PlainText (text : List Char) : Prop := ∀ character ∈ text, Plain character

instance : DecidablePred PlainText := fun text => List.decidableBAll _ text

theorem plainText_cons_iff {first : Char} {rest : List Char} :
    PlainText (first :: rest) ↔ Plain first ∧ PlainText rest :=
  List.forall_mem_cons

theorem plainText_append_iff {first second : List Char} :
    PlainText (first ++ second) ↔ PlainText first ∧ PlainText second :=
  List.forall_mem_append

/-- The first text spells the second between the quotes of a string.  A character stands for
itself, or is written by a letter behind a backslash or by its number in four hexadecimal digits;
one whose number is larger is written by two numbers. -/
inductive Spells : List Char → List Char → Prop
  | nil : Spells [] []
  | plain {character : Char} {written text : List Char} (plain : Plain character)
    (rest : Spells written text) : Spells (character :: written) (character :: text)
  | short {letter character : Char} {written text : List Char}
    (stands : (letter, character) ∈ shortEscapes) (rest : Spells written text) :
    Spells ('\\' :: letter :: written) (character :: text)
  | unit {a b c d character : Char} {written text : List Char}
    (number : Text.hexNumber? [a, b, c, d] = some character.toNat) (rest : Spells written text) :
    Spells ('\\' :: 'u' :: a :: b :: c :: d :: written) (character :: text)
  | pair {a b c d e f g h character : Char} {high low : Nat} {written text : List Char}
    (high_lt : high < 0x400) (low_lt : low < 0x400)
    (first : Text.hexNumber? [a, b, c, d] = some (0xD800 + high))
    (second : Text.hexNumber? [e, f, g, h] = some (0xDC00 + low))
    (means : character.toNat = 0x10000 + high * 0x400 + low) (rest : Spells written text) :
    Spells ('\\' :: 'u' :: a :: b :: c :: d :: '\\' :: 'u' :: e :: f :: g :: h :: written)
      (character :: text)

theorem Spells.of_plain {text : List Char} (plain : PlainText text) : Spells text text := by
  induction text with
  | nil => exact .nil
  | cons character rest inductionHypothesis =>
      obtain ⟨first, others⟩ := plainText_cons_iff.mp plain
      exact .plain first (inductionHypothesis others)

/-- A text may stand between the quotes of a string, whatever it means. -/
inductive Inside : List Char → Prop
  | nil : Inside []
  | plain {character : Char} {written : List Char} (plain : Plain character)
    (rest : Inside written) : Inside (character :: written)
  | short {letter character : Char} {written : List Char}
    (stands : (letter, character) ∈ shortEscapes) (rest : Inside written) :
    Inside ('\\' :: letter :: written)
  | unit {a b c d : Char} {number : Nat} {written : List Char}
    (hexadecimal : Text.hexNumber? [a, b, c, d] = some number) (rest : Inside written) :
    Inside ('\\' :: 'u' :: a :: b :: c :: d :: written)

/-- A text is a string that means a text. -/
def StringText (meant : List Char) (text : List Char) : Prop :=
  ∃ written, Spells written meant ∧ text = '\x22' :: (written ++ ['\x22'])

/-! ## Values -/

/-- What a text can be a text of. -/
inductive Part where
  | value
  /-- The items of an array from behind its bracket, with the closing bracket. -/
  | items
  /-- The members of an object from behind its brace, with the closing brace. -/
  | members
  deriving DecidableEq

/-- A text is one of a part of JSON. -/
inductive Derives : Part → List Char → Prop
  | null : Derives .value ['n', 'u', 'l', 'l']
  | yes : Derives .value ['t', 'r', 'u', 'e']
  | no : Derives .value ['f', 'a', 'l', 's', 'e']
  | number {text : List Char} (number : Number text) : Derives .value text
  | string {inside : List Char} (inside_string : Inside inside) :
    Derives .value ('\x22' :: (inside ++ ['\x22']))
  | emptyArray {gap : List Char} (blank : Blank gap) : Derives .value ('[' :: (gap ++ [']']))
  | array {text : List Char} (items : Derives .items text) : Derives .value ('[' :: text)
  | emptyObject {gap : List Char} (blank : Blank gap) :
    Derives .value ('\x7b' :: (gap ++ ['\x7d']))
  | object {text : List Char} (members : Derives .members text) :
    Derives .value ('\x7b' :: text)
  | lastItem {before value behind : List Char} (beforeBlank : Blank before)
    (item : Derives .value value) (behindBlank : Blank behind) :
    Derives .items (before ++ (value ++ (behind ++ [']'])))
  | item {before value behind rest : List Char} (beforeBlank : Blank before)
    (item : Derives .value value) (behindBlank : Blank behind) (items : Derives .items rest) :
    Derives .items (before ++ (value ++ (behind ++ ',' :: rest)))
  | lastMember {before key middle between value behind : List Char} (beforeBlank : Blank before)
    (inside : Inside key) (middleBlank : Blank middle) (betweenBlank : Blank between)
    (member : Derives .value value) (behindBlank : Blank behind) :
    Derives .members (before ++ '\x22' :: (key ++ '\x22' :: (middle ++ ':' ::
      (between ++ (value ++ (behind ++ ['\x7d']))))))
  | member {before key middle between value behind rest : List Char} (beforeBlank : Blank before)
    (inside : Inside key) (middleBlank : Blank middle) (betweenBlank : Blank between)
    (member : Derives .value value) (behindBlank : Blank behind)
    (members : Derives .members rest) :
    Derives .members (before ++ '\x22' :: (key ++ '\x22' :: (middle ++ ':' ::
      (between ++ (value ++ (behind ++ ',' :: rest))))))

/-! ## Arrays and objects by their parts -/

/-- A text is an array from behind its bracket, with the texts of its items in order. -/
inductive Items : List (List Char) → List Char → Prop
  | last {before item behind : List Char} (beforeBlank : Blank before)
    (behindBlank : Blank behind) : Items [item] (before ++ (item ++ (behind ++ [']'])))
  | more {before item behind rest : List Char} {items : List (List Char)}
    (beforeBlank : Blank before) (behindBlank : Blank behind) (others : Items items rest) :
    Items (item :: items) (before ++ (item ++ (behind ++ ',' :: rest)))

/-- A text is an array with the texts of its items in order. -/
inductive ArrayText : List (List Char) → List Char → Prop
  | empty {gap : List Char} (blank : Blank gap) : ArrayText [] ('[' :: (gap ++ [']']))
  | items {items : List (List Char)} {text : List Char} (written : Items items text) :
    ArrayText items ('[' :: text)

/-- A text is an object from behind its brace, with the keys and the texts of its members in
order. -/
inductive Members : List (String × List Char) → List Char → Prop
  | last {before written middle between value behind : List Char} {key : String}
    (beforeBlank : Blank before) (spells : Spells written key.toList)
    (middleBlank : Blank middle) (betweenBlank : Blank between) (behindBlank : Blank behind) :
    Members [(key, value)] (before ++ '\x22' :: (written ++ '\x22' :: (middle ++ ':' ::
      (between ++ (value ++ (behind ++ ['\x7d']))))))
  | more {before written middle between value behind rest : List Char} {key : String}
    {members : List (String × List Char)} (beforeBlank : Blank before)
    (spells : Spells written key.toList) (middleBlank : Blank middle)
    (betweenBlank : Blank between) (behindBlank : Blank behind) (others : Members members rest) :
    Members ((key, value) :: members) (before ++ '\x22' :: (written ++ '\x22' :: (middle ++ ':' ::
      (between ++ (value ++ (behind ++ ',' :: rest))))))

/-- A text is an object with the keys and the texts of its members in order. -/
inductive ObjectText : List (String × List Char) → List Char → Prop
  | empty {gap : List Char} (blank : Blank gap) : ObjectText [] ('\x7b' :: (gap ++ ['\x7d']))
  | members {members : List (String × List Char)} {text : List Char}
    (written : Members members text) : ObjectText members ('\x7b' :: text)

end LogLayout.Json
