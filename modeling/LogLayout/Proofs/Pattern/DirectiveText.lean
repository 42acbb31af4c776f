import LogLayout.Pattern.Directive
import LogLayout.Proofs.Pattern.Scanning

namespace LogLayout.Pattern

/-!
# Heads as they are written

The head of a directive is written as its lengths and its word.  A length is a sign and
digits, either of which may be missing, and the greatest length has a point in front of
it, with which a head may start.  The structure `HeadText` keeps all that can be chosen.

There are two statements about it.  The text of a head is read as what it writes, as long
as no letter follows.  Conversely, whatever is read as a head is the text of one, so that
no other spelling is accepted.
-/

theorem endsNumber_of_isAlphabetic {letter : Char}
    (alphabetic : Text.isAlphabetic letter = true) : endsNumber letter = true := by
  unfold endsNumber
  have noDigit : letter.isDigit = false := by
    rw [Bool.eq_false_iff]
    intro digit
    have range := Char.isDigit_iff_toNat.mp digit
    have zero : '0'.toNat = 48 := rfl
    have nine : '9'.toNat = 57 := rfl
    rw [Text.isAlphabetic_of_lt (by omega)] at alphabetic
    have either : letter.isUpper = true ∨ letter.isLower = true :=
      (Bool.or_eq_true _ _).mp alphabetic
    rcases either with upper | lower
    · have least : 'A'.toNat ≤ letter.toNat :=
        UInt32.le_iff_toNat_le.mp (of_decide_eq_true upper).1
      have code : 'A'.toNat = 65 := rfl
      omega
    · have least : 'a'.toNat ≤ letter.toNat :=
        UInt32.le_iff_toNat_le.mp (of_decide_eq_true ((Bool.and_eq_true _ _).mp lower).1)
      have code : 'a'.toNat = 97 := rfl
      omega
  have noSign : letter ≠ '-' := fun same => by
    subst same
    exact absurd alphabetic (by decide)
  simp only [noDigit, Bool.not_false, Bool.true_and, bne_iff_ne, ne_eq, noSign,
    not_false_eq_true]

/-- The head of a directive as it is written behind the percent sign. -/
structure HeadText where
  least : NumberText
  greatest : Option NumberText
  word : List Char
  nonempty : word ≠ []
  letters : ∀ letter ∈ word, Text.isAlphabetic letter = true

/-- The greatest length with the point in front of it, if it is written. -/
def greatestChars : Option NumberText → List Char
  | none => []
  | some number => '.' :: number.chars

namespace HeadText

def chars (text : HeadText) : List Char :=
  text.least.chars ++ (greatestChars text.greatest ++ text.word)

def lengths (text : HeadText) : Lengths :=
  ⟨text.least.value?, text.greatest.bind NumberText.value?⟩

def name (text : HeadText) : String := String.ofList text.word

/-- The head that is written, for a percent sign at `position`. -/
def head (text : HeadText) (position : Nat) : Head := ⟨position, text.lengths, text.name⟩

end HeadText

/-- Neither length is greater in magnitude than a directive may ask for. -/
def InRange (lengths : Lengths) : Prop :=
  (∀ value ∈ lengths.least, value.natAbs ≤ greatestLength) ∧
    ∀ value ∈ lengths.greatest, value.natAbs ≤ greatestLength

/-- A number that is written is read as that number if it fits into 32 bits, and is kept as
text otherwise. -/
theorem NumberText.written_of_value {number : NumberText} {value : Int}
    (known : number.value? = some value) :
    number.written = some (if Text.leastInt32 ≤ value ∧ value ≤ Text.greatestInt32
      then .within value else .beyond (String.ofList number.chars)) := by
  rcases number with ⟨signed, digits, decimal⟩
  have nonempty : digits ≠ [] := by
    rintro rfl
    cases known
  have going : digits.isEmpty = false := by
    simpa only [List.isEmpty_eq_false_iff] using nonempty
  cases signed with
  | true =>
      simp only [value?, nonempty, if_false, if_true, Option.some.injEq] at known
      subst known
      simp only [written, chars, sign, going, if_true, Bool.false_eq_true, if_false,
        List.singleton_append, Text.parseInt32Chars_minus nonempty decimal]
      by_cases within : Text.leastInt32 ≤ -(Nat.ofDigitChars 10 digits 0 : Int)
      · have bounded : -(Nat.ofDigitChars 10 digits 0 : Int) ≤ Text.greatestInt32 := by
          simp only [Text.greatestInt32]
          omega
        rw [if_pos within, if_pos ⟨within, bounded⟩]
      · rw [if_neg within, if_neg fun both => within both.1]
  | false =>
      simp only [value?, nonempty, if_false, Bool.false_eq_true, Option.some.injEq] at known
      subst known
      simp only [written, chars, sign, going, Bool.false_eq_true, if_false, List.nil_append,
        Text.parseInt32Chars_digits nonempty decimal]
      by_cases within : (Nat.ofDigitChars 10 digits 0 : Int) ≤ Text.greatestInt32
      · have bounded : Text.leastInt32 ≤ (Nat.ofDigitChars 10 digits 0 : Int) := by
          simp only [Text.leastInt32]
          omega
        rw [if_pos within, if_pos ⟨bounded, within⟩]
      · rw [if_neg within, if_neg fun both => within both.2]

/-- How a length that is refused is shown: as a number if it fits into 32 bits, and as it is
written otherwise. -/
def NumberText.reported (number : NumberText) (value : Int) : String :=
  if Text.leastInt32 ≤ value ∧ value ≤ Text.greatestInt32 then toString value
  else String.ofList number.chars

/-- The check of a length looks at the number that is written and at nothing else. -/
theorem checkLength_written (word : String) (number : NumberText) :
    checkLength word number.written =
      match number.value? with
      | none => .ok none
      | some value =>
          if value.natAbs ≤ greatestLength then .ok (some value)
          else .error (.badParameter ⟨word, number.reported value, .lengthOutOfRange⟩) := by
  cases known : number.value? with
  | none =>
      have empty : number.digits = [] := by
        by_contra nonempty
        rw [NumberText.value?, if_neg nonempty] at known
        split at known <;> cases known
      rw [NumberText.written, empty]
      rfl
  | some value =>
      dsimp only
      rw [number.written_of_value known, NumberText.reported]
      by_cases fits : Text.leastInt32 ≤ value ∧ value ≤ Text.greatestInt32
      · rw [if_pos fits, if_pos fits]
        rfl
      · have large : ¬value.natAbs ≤ greatestLength := by
          simp only [Text.leastInt32, Text.greatestInt32, greatestLength] at fits ⊢
          omega
        simp only [if_neg fits, checkLength, if_neg large]

theorem checkLength_written_iff (word : String) (number : NumberText)
    (length : Option Int) :
    checkLength word number.written = .ok length ↔
      length = number.value? ∧ ∀ value ∈ number.value?, value.natAbs ≤ greatestLength := by
  rw [checkLength_written]
  cases number.value? with
  | none =>
      simp only [Except.ok.injEq, Option.mem_def, reduceCtorEq, false_implies, implies_true,
        and_true]
      exact eq_comm
  | some value =>
      simp only [Option.mem_def, Option.some.injEq, forall_eq']
      split
      next small => simp only [Except.ok.injEq, small, and_true, eq_comm]
      next large => simp only [reduceCtorEq, large, and_false]

/-- Whether a character cannot go on with the lengths in front of it.  A point goes on with
them unless there is a greatest length already. -/
def LengthsEndedBy (least : NumberText) : Option NumberText → Char → Prop
  | none, character => least.EndedBy character ∧ character ≠ '.'
  | some greatest, character => greatest.EndedBy character

/-- Lengths are taken up to a character that ends them. -/
theorem takeLengths_append (least : NumberText) (greatest : Option NumberText)
    {following : List Char}
    (boundary : ∀ character ∈ following.head?, LengthsEndedBy least greatest character)
    (position : Nat) :
    takeLengths ⟨position, least.chars ++ (greatestChars greatest ++ following)⟩ =
      (least.written, greatest.bind NumberText.written,
        ⟨position + (least.chars ++ greatestChars greatest).length, following⟩) := by
  cases greatest with
  | none =>
      have taken := Cursor.takeNumber_append least
        (fun character first => (boundary character first).1) position
      simp only [takeLengths, greatestChars, List.nil_append, taken, List.append_nil]
      split
      next => exact absurd rfl (boundary '.' rfl).2
      next => rfl
  | some number =>
      have first : (⟨position, least.chars ++ '.' :: (number.chars ++ following)⟩ :
          Cursor).takeNumber = (least.written, _) :=
        Cursor.takeNumber_append least (fun character here => by
          cases here
          exact least.endedBy_of_endsNumber (by decide)) position
      have second (start : Nat) := Cursor.takeNumber_append number boundary start
      simp only [takeLengths, greatestChars, List.cons_append, first, Cursor.forward_one, second,
        Option.bind_some, List.length_append, List.length_cons]
      congr 3
      omega

/-- Whatever stands at a cursor, its lengths are numbers as they are written, and as many
characters of them as there are. -/
theorem takeLengths_divides (cursor : Cursor) :
    ∃ least : NumberText, ∃ greatest : Option NumberText, ∃ following,
      cursor.rest = least.chars ++ (greatestChars greatest ++ following) ∧
      takeLengths cursor =
        (least.written, greatest.bind NumberText.written,
          ⟨cursor.position + (least.chars ++ greatestChars greatest).length,
            following⟩) ∧
      ∀ character ∈ following.head?, LengthsEndedBy least greatest character := by
  rcases cursor.takeNumber_divides with ⟨least, following, text, taken, ended⟩
  by_cases pointed : ∃ rest, following = '.' :: rest
  · rcases pointed with ⟨rest, rfl⟩
    rcases Cursor.takeNumber_divides
      ⟨cursor.position + least.chars.length + 1, rest⟩ with
      ⟨greatest, behind, restText, restTaken, restEnded⟩
    refine ⟨least, some greatest, behind, ?_, ?_, restEnded⟩
    · rw [text, greatestChars, List.cons_append, ← restText]
    · simp only [takeLengths, taken, Cursor.forward_one, restTaken, greatestChars,
        Option.bind_some, List.length_append, List.length_cons]
      congr 3
      omega
  · refine ⟨least, none, following, text, ?_, fun character first => ?_⟩
    · simp only [takeLengths, taken, greatestChars, List.append_nil, Option.bind_none]
      split
      next rest => exact absurd ⟨_, rfl⟩ pointed
      next => rfl
    · refine ⟨ended character first, fun point => pointed ?_⟩
      subst point
      exact List.head?_eq_some_iff.mp first

theorem checkLengths_written_iff (text : HeadText) (lengths : Lengths) :
    checkLengths text.name text.least.written (text.greatest.bind NumberText.written) =
        .ok lengths ↔
      lengths = text.lengths ∧ InRange text.lengths := by
  have greatest (length : Option Int) :
      checkLength text.name (text.greatest.bind NumberText.written) = .ok length ↔
        length = text.lengths.greatest ∧
          ∀ value ∈ text.lengths.greatest, value.natAbs ≤ greatestLength := by
    unfold HeadText.lengths
    cases text.greatest with
    | none => simp [checkLength, eq_comm]
    | some number => exact checkLength_written_iff text.name number length
  have least := checkLength_written_iff text.name text.least
  unfold checkLengths
  constructor
  · intro checked
    cases first : checkLength text.name text.least.written with
    | error fault =>
        rw [first] at checked
        cases checked
    | ok leastLength =>
        cases second : checkLength text.name (text.greatest.bind NumberText.written) with
        | error fault =>
            rw [first, second] at checked
            cases checked
        | ok greatestLength =>
            rw [first, second] at checked
            cases checked
            rcases (least leastLength).mp first with ⟨rfl, leastInRange⟩
            rcases (greatest greatestLength).mp second with ⟨rfl, greatestInRange⟩
            exact ⟨rfl, leastInRange, greatestInRange⟩
  · rintro ⟨rfl, leastInRange, greatestInRange⟩
    rw [(least text.lengths.least).mpr ⟨rfl, leastInRange⟩,
      (greatest text.lengths.greatest).mpr ⟨rfl, greatestInRange⟩]
    rfl

theorem lengthsEndedBy_of_isAlphabetic (least : NumberText) (greatest : Option NumberText)
    {letter : Char} (alphabetic : Text.isAlphabetic letter = true) :
    LengthsEndedBy least greatest letter := by
  have ends := endsNumber_of_isAlphabetic alphabetic
  cases greatest with
  | none =>
      refine ⟨least.endedBy_of_endsNumber ends, fun same => ?_⟩
      subst same
      exact absurd alphabetic (by decide)
  | some number => exact number.endedBy_of_endsNumber ends

/-- The word of a head ends its lengths. -/
theorem HeadText.endsLengths (text : HeadText) (following : List Char) :
    ∀ character ∈ (text.word ++ following).head?,
      LengthsEndedBy text.least text.greatest character := by
  intro character first
  cases here : text.word with
  | nil => exact absurd here text.nonempty
  | cons letter rest =>
      rw [here] at first
      have same : letter = character := Option.some.inj first
      subst same
      exact lengthsEndedBy_of_isAlphabetic _ _ (text.letters letter (here ▸ List.mem_cons_self))

/-- No head starts with a percent sign, which would make a doubled one. -/
theorem HeadText.head?_ne_percent (text : HeadText) (following : List Char) :
    (text.chars ++ following).head? ≠ some '%' := by
  rcases text with ⟨⟨signed, digits, decimal⟩, greatest, word, nonempty, letters⟩
  cases signed with
  | true => exact fun first => absurd (Option.some.inj first) (by decide)
  | false =>
      cases digits with
      | cons digit rest =>
          intro first
          have same : digit = '%' := Option.some.inj first
          subst same
          exact absurd (decimal '%' List.mem_cons_self) (by decide)
      | nil =>
          cases greatest with
          | some number => exact fun first => absurd (Option.some.inj first) (by decide)
          | none =>
              cases word with
              | nil => exact absurd rfl nonempty
              | cons letter rest =>
                  intro first
                  have same : letter = '%' := Option.some.inj first
                  subst same
                  exact absurd (letters '%' List.mem_cons_self) (by decide)

def HeadText.checked (text : HeadText) : Except Fault Lengths :=
  checkLengths text.name text.least.written (text.greatest.bind NumberText.written)

/-- Whatever the lengths of a head are, its text is taken up to a character that is no
letter. -/
theorem HeadText.readHead_word (text : HeadText) {following : List Char}
    (boundary : ∀ character ∈ following.head?, Text.isAlphabetic character = false)
    (position start : Nat) :
    readHead position ⟨start, text.chars ++ following⟩ =
      (text.checked.map fun lengths => ⟨position, lengths, text.name⟩,
        ⟨start + text.chars.length, following⟩) := by
  have lengths := takeLengths_append text.least text.greatest (text.endsLengths following) start
  have word := Cursor.takeRun_append text.letters boundary
    (start + (text.least.chars ++ greatestChars text.greatest).length)
  have going : text.word.isEmpty = false := by
    simpa only [List.isEmpty_eq_false_iff] using text.nonempty
  have chars : text.chars ++ following =
      text.least.chars ++ (greatestChars text.greatest ++ (text.word ++ following)) := by
    simp only [HeadText.chars, List.append_assoc]
  have length : start + (text.least.chars ++ greatestChars text.greatest).length +
      text.word.length = start + text.chars.length := by
    simp only [HeadText.chars, List.length_append]
    omega
  unfold readHead
  rw [chars, lengths]
  simp only [Cursor.takeWord, word, going, Bool.false_eq_true, if_false, length]
  rfl

/-- A head is read as it is written, up to a character that is no letter. -/
theorem HeadText.readHead_append (text : HeadText) (inRange : InRange text.lengths)
    {following : List Char}
    (boundary : ∀ character ∈ following.head?, Text.isAlphabetic character = false)
    (position start : Nat) :
    readHead position ⟨start, text.chars ++ following⟩ =
      (.ok (text.head position), ⟨start + text.chars.length, following⟩) := by
  have checked : text.checked = .ok text.lengths :=
    (checkLengths_written_iff text text.lengths).mpr ⟨rfl, inRange⟩
  rw [text.readHead_word boundary, checked]
  rfl

/-- What is wrong with a head without a word depends on whether the text ends there. -/
def wordlessFault (position : Nat) (following : List Char) : Fault :=
  if following.isEmpty then .unterminated "" position else .unknownWord "" position

/-- Lengths are no head without a letter behind them. -/
theorem readHead_wordless (least : NumberText) (greatest : Option NumberText)
    (following : List Char)
    (ended : ∀ character ∈ following.head?, LengthsEndedBy least greatest character)
    (unlettered : ∀ character ∈ following.head?, Text.isAlphabetic character = false)
    (position start : Nat) :
    readHead position ⟨start, least.chars ++ (greatestChars greatest ++ following)⟩ =
      (.error (wordlessFault position following),
        ⟨start + (least.chars ++ greatestChars greatest).length, following⟩) := by
  have word (here : Nat) : (⟨here, following⟩ : Cursor).takeRun Text.isAlphabetic =
      ([], ⟨here, following⟩) :=
    Cursor.takeRun_append (fun _ member => absurd member List.not_mem_nil) unlettered here
  unfold readHead wordlessFault
  rw [takeLengths_append least greatest ended]
  simp only [Cursor.takeWord, word, List.isEmpty_nil, if_true]
  cases following <;> rfl

/-- Whatever is read as a head is written as one, or it is written as lengths without a
word. -/
theorem readHead_cases (position : Nat) (cursor : Cursor) :
    (∃ text : HeadText, ∃ following, cursor.rest = text.chars ++ following ∧
      (∀ character ∈ following.head?, Text.isAlphabetic character = false) ∧
      readHead position cursor =
        (text.checked.map fun lengths => ⟨position, lengths, text.name⟩,
          ⟨cursor.position + text.chars.length, following⟩)) ∨
    ∃ least greatest following,
      cursor.rest = least.chars ++ (greatestChars greatest ++ following) ∧
      (∀ character ∈ following.head?, LengthsEndedBy least greatest character) ∧
      (∀ character ∈ following.head?, Text.isAlphabetic character = false) ∧
      readHead position cursor =
        (.error (wordlessFault position following),
          ⟨cursor.position + (least.chars ++ greatestChars greatest).length, following⟩) := by
  rcases cursor with ⟨start, rest⟩
  rcases takeLengths_divides ⟨start, rest⟩ with ⟨least, greatest, behind, divided, -, ended⟩
  dsimp only at divided
  subst divided
  let word := behind.takeWhile Text.isAlphabetic
  let following := behind.dropWhile Text.isAlphabetic
  have split : behind = word ++ following := List.takeWhile_append_dropWhile.symm
  have maximal : ∀ character ∈ following.head?, Text.isAlphabetic character = false :=
    Cursor.head?_behindRun ⟨start, behind⟩ Text.isAlphabetic
  by_cases empty : word = []
  · right
    rw [empty, List.nil_append] at split
    rw [← split] at maximal
    exact ⟨least, greatest, behind, rfl, ended, maximal,
      readHead_wordless least greatest behind ended maximal position start⟩
  · left
    have letters : ∀ letter ∈ word, Text.isAlphabetic letter = true :=
      fun letter member => List.all_eq_true.mp List.all_takeWhile letter member
    let text : HeadText := ⟨least, greatest, word, empty, letters⟩
    have chars : least.chars ++ (greatestChars greatest ++ behind) =
        text.chars ++ following := by
      rw [split, HeadText.chars, List.append_assoc, List.append_assoc]
    refine ⟨text, following, chars, maximal, ?_⟩
    rw [chars]
    exact text.readHead_word maximal position start

theorem exists_headText_of_readHead {position : Nat} {cursor behind : Cursor} {head : Head}
    (read : readHead position cursor = (.ok head, behind)) :
    ∃ text : HeadText, InRange text.lengths ∧ head = text.head position ∧
      cursor.rest = text.chars ++ behind.rest ∧
      behind.position = cursor.position + text.chars.length ∧
      ∀ character ∈ behind.rest.head?, Text.isAlphabetic character = false := by
  rcases readHead_cases position cursor with
    ⟨text, following, rest, maximal, known⟩ | ⟨least, greatest, following, -, -, -, known⟩
  · rw [known, Prod.mk.injEq] at read
    rcases read with ⟨checked, rfl⟩
    cases lengths : text.checked with
    | error fault =>
        rw [lengths] at checked
        cases checked
    | ok accepted =>
        rw [lengths] at checked
        rcases (checkLengths_written_iff text accepted).mp lengths with ⟨rfl, inRange⟩
        cases checked
        exact ⟨text, inRange, rfl, rest, rfl, maximal⟩
  · rw [known] at read
    cases read

theorem HeadText.exists_bad_of_checked {text : HeadText} {fault : Fault}
    (checked : text.checked = .error fault) : ∃ bad, fault = .badParameter bad := by
  have single {word : String} {written : Option WrittenNumber} {fault : Fault}
      (wrong : checkLength word written = .error fault) : ∃ bad, fault = .badParameter bad := by
    unfold checkLength at wrong
    split at wrong
    next => cases wrong
    next =>
      split at wrong
      next => cases wrong
      next =>
        cases wrong
        exact ⟨_, rfl⟩
    next =>
      cases wrong
      exact ⟨_, rfl⟩
  unfold HeadText.checked checkLengths at checked
  cases least : checkLength text.name text.least.written with
  | error fault' =>
      rw [least] at checked
      cases checked
      exact single least
  | ok leastLength =>
      cases greatest : checkLength text.name (text.greatest.bind NumberText.written) with
      | error fault' =>
          rw [least, greatest] at checked
          cases checked
          exact single greatest
      | ok greatestLength =>
          rw [least, greatest] at checked
          cases checked

end LogLayout.Pattern
