import LogLayout.Pattern.Cursor
import LogLayout.Proofs.Text.Decimal
import LogLayout.Proofs.Text.Runs

namespace LogLayout.Pattern

/-!
# What the steps of a cursor take

A step that takes a run of characters takes exactly the longest one.  So a text is
taken as a whole if the character behind it does not belong to the run, and what
follows that character plays no part.  The statements are given in this form, with
the text that is taken in front of the text that is left, and conversely every
step divides the characters that are left in this way.

A number is a sign and digits, either of which may be missing.  The structure
`NumberText` keeps both as they are written.
-/

namespace Cursor

/-! ## Runs -/

/-- A run is taken up to the first character that does not belong to it. -/
theorem takeRun_append {test : Char → Bool} {text following : List Char}
    (inside : ∀ character ∈ text, test character = true)
    (boundary : ∀ character ∈ following.head?, test character = false) (position : Nat) :
    (⟨position, text ++ following⟩ : Cursor).takeRun test =
      (text, ⟨position + text.length, following⟩) := by
  simp only [takeRun, run, behindRun, Text.takeWhile_append inside boundary,
    Text.dropWhile_append inside boundary]

theorem mem_run {cursor : Cursor} {test : Char → Bool} {character : Char}
    (member : character ∈ cursor.run test) : test character = true :=
  List.all_eq_true.mp List.all_takeWhile character member

theorem head?_behindRun (cursor : Cursor) (test : Char → Bool) :
    ∀ character ∈ (cursor.behindRun test).rest.head?, test character = false := by
  intro character first
  have outside := List.head?_dropWhile_not test cursor.rest
  have here : (cursor.rest.dropWhile test).head? = some character := first
  rw [here] at outside
  exact outside

theorem takeUntil_append {stops text following : List Char}
    (plain : ∀ character ∈ text, character ∉ stops)
    (boundary : ∀ character ∈ following.head?, character ∈ stops) (position : Nat) :
    (⟨position, text ++ following⟩ : Cursor).takeUntil stops =
      (text, ⟨position + text.length, following⟩) := by
  refine takeRun_append (fun character member => ?_) (fun character first => ?_) position
  · simpa only [Bool.not_eq_true', List.contains_eq_mem, decide_eq_false_iff_not] using
      plain character member
  · simpa only [Bool.not_eq_false', List.contains_eq_mem, decide_eq_true_eq] using
      boundary character first

/-- What is taken before some characters holds none of them, and one of them
follows, if anything does. -/
theorem takeUntil_divides (cursor : Cursor) (stops : List Char) :
    ∃ text following, cursor.rest = text ++ following ∧
      cursor.takeUntil stops = (text, ⟨cursor.position + text.length, following⟩) ∧
      (∀ character ∈ text, character ∉ stops) ∧
      ∀ character ∈ following.head?, character ∈ stops := by
  refine ⟨cursor.run _, (cursor.behindRun _).rest, (cursor.run_append_rest _).symm, rfl,
    fun character member => ?_, fun character first => ?_⟩
  · simpa only [Bool.not_eq_true', List.contains_eq_mem, decide_eq_false_iff_not] using
      mem_run member
  · simpa only [Bool.not_eq_false', List.contains_eq_mem, decide_eq_true_eq] using
      cursor.head?_behindRun _ character first

/-- Blanks are skipped up to the first character that is none. -/
theorem skipBlanks_append {blanks following : List Char}
    (blank : ∀ character ∈ blanks, Text.isBlank character = true)
    (boundary : ∀ character ∈ following.head?, Text.isBlank character = false)
    (position : Nat) :
    (⟨position, blanks ++ following⟩ : Cursor).skipBlanks =
      ⟨position + blanks.length, following⟩ :=
  congrArg Prod.snd (takeRun_append blank boundary position)

theorem forward_one (position : Nat) (first : Char) (rest : List Char) :
    (⟨position, first :: rest⟩ : Cursor).forward 1 = ⟨position + 1, rest⟩ := by
  simp only [forward, List.length_cons, List.drop_succ_cons, List.drop_zero,
    Nat.min_eq_left (Nat.le_add_left 1 rest.length)]

end Cursor

/-! ## Numbers -/

/-- A number as it is written: a minus sign or none, and digits. -/
structure NumberText where
  signed : Bool
  digits : List Char
  decimal : ∀ digit ∈ digits, digit.isDigit = true

namespace NumberText

def sign (number : NumberText) : List Char := if number.signed then ['-'] else []

def chars (number : NumberText) : List Char := number.sign ++ number.digits

def value? (number : NumberText) : Option Int :=
  if number.digits = [] then none
  else if number.signed then some (-(Nat.ofDigitChars 10 number.digits 0 : Int))
  else some (Nat.ofDigitChars 10 number.digits 0 : Int)

def written (number : NumberText) : Option WrittenNumber :=
  if number.digits.isEmpty then none
  else
    match Text.parseInt32Chars number.chars with
    | .ok value => some (.within value)
    | .error _ => some (.beyond (String.ofList number.chars))

def absent : NumberText := ⟨false, [], fun _ member => absurd member List.not_mem_nil⟩

end NumberText

/-- A character that ends a number, also one that has no digit yet. -/
def endsNumber (character : Char) : Bool := !character.isDigit && character != '-'

/-- Whether a character cannot go on with a number in front of it.  No digit can end one,
and a minus sign only ends one of which something is written. -/
def NumberText.EndedBy (number : NumberText) (character : Char) : Prop :=
  character.isDigit = false ∧ (number.chars = [] → character ≠ '-')

theorem NumberText.endedBy_of_endsNumber (number : NumberText) {character : Char}
    (ends : endsNumber character = true) : number.EndedBy character := by
  simp only [endsNumber, Bool.and_eq_true, Bool.not_eq_true', bne_iff_ne] at ends
  exact ⟨ends.1, fun _ => ends.2⟩

namespace Cursor

theorem head?_ne_minus {digits following : List Char}
    (decimal : ∀ digit ∈ digits, digit.isDigit = true)
    (boundary : ∀ character ∈ following.head?, digits = [] → character ≠ '-') :
    (digits ++ following).head? ≠ some '-' := by
  intro signed
  cases digits with
  | nil => exact boundary '-' signed rfl rfl
  | cons digit rest =>
      have same : digit = '-' := Option.some.inj signed
      subst same
      exact absurd (decimal '-' List.mem_cons_self) (by decide)

theorem behindSign_append (number : NumberText) {following : List Char}
    (boundary : ∀ character ∈ following.head?, number.EndedBy character)
    (position : Nat) :
    (⟨position, number.chars ++ following⟩ : Cursor).behindSign =
        ⟨position + number.sign.length, number.digits ++ following⟩ ∧
      (⟨position, number.chars ++ following⟩ : Cursor).hasSign = number.signed := by
  rcases number with ⟨signed, digits, decimal⟩
  cases signed with
  | true => exact ⟨forward_one position '-' (digits ++ following), rfl⟩
  | false =>
      have unsigned := head?_ne_minus decimal fun character first =>
        (boundary character first).2
      simp only [NumberText.chars, NumberText.sign, Bool.false_eq_true, if_false,
        List.nil_append, List.length_nil, Nat.add_zero]
      constructor
      · unfold behindSign
        split
        next rest signed =>
          exact absurd (by rw [show digits ++ following = '-' :: rest from signed]; rfl) unsigned
        next => rfl
      · simpa only [hasSign, decide_eq_false_iff_not] using unsigned

theorem takeNumber_append (number : NumberText) {following : List Char}
    (boundary : ∀ character ∈ following.head?, number.EndedBy character)
    (position : Nat) :
    (⟨position, number.chars ++ following⟩ : Cursor).takeNumber =
      (number.written, ⟨position + number.chars.length, following⟩) := by
  rcases behindSign_append number boundary position with ⟨behind, sign⟩
  have outside : ∀ character ∈ following.head?, character.isDigit = false :=
    fun character first => (boundary character first).1
  have taken := takeRun_append number.decimal outside (position + number.sign.length)
  have digits := congrArg Prod.fst taken
  have ended := congrArg Prod.snd taken
  dsimp only [takeRun] at digits ended
  have length : position + number.sign.length + number.digits.length =
      position + number.chars.length := by
    rw [NumberText.chars, List.length_append, Nat.add_assoc]
  have chars : (if number.signed then '-' :: number.digits else number.digits) =
      number.chars := by
    unfold NumberText.chars NumberText.sign
    cases number.signed <;> rfl
  unfold takeNumber NumberText.written
  simp only [behind, sign, digits, ended, length, chars]
  cases number.digits.isEmpty with
  | true => rfl
  | false => cases Text.parseInt32Chars number.chars <;> rfl

/-- The sign that is remembered is what stands in front of the cursor behind it. -/
theorem behindSign_divides (cursor : Cursor) :
    cursor.rest = (if cursor.hasSign then ['-'] else []) ++ cursor.behindSign.rest ∧
      cursor.behindSign.position =
        cursor.position + (if cursor.hasSign then ['-'] else []).length := by
  rcases cursor with ⟨position, rest⟩
  cases rest with
  | nil => exact ⟨rfl, rfl⟩
  | cons first behind =>
      by_cases minus : first = '-'
      · subst minus
        have step : (⟨position, '-' :: behind⟩ : Cursor).behindSign = ⟨position + 1, behind⟩ :=
          forward_one position '-' behind
        rw [step]
        exact ⟨rfl, rfl⟩
      · have unsigned : (⟨position, first :: behind⟩ : Cursor).hasSign = false := by
          simpa only [hasSign, List.head?_cons, Option.some.injEq,
            decide_eq_false_iff_not] using minus
        have step : (⟨position, first :: behind⟩ : Cursor).behindSign =
            ⟨position, first :: behind⟩ := by
          unfold behindSign
          split
          next rest signed => exact absurd (List.cons.inj signed).1 minus
          next => rfl
        rw [step, unsigned]
        exact ⟨rfl, rfl⟩

/-- Every number that is taken is a sign and digits as they are written, and as many of
them as there are. -/
theorem takeNumber_divides (cursor : Cursor) :
    ∃ number : NumberText, ∃ following, cursor.rest = number.chars ++ following ∧
      cursor.takeNumber =
        (number.written, ⟨cursor.position + number.chars.length, following⟩) ∧
      ∀ character ∈ following.head?, number.EndedBy character := by
  rcases cursor.behindSign_divides with ⟨signText, signLength⟩
  let number : NumberText :=
    ⟨cursor.hasSign, cursor.behindSign.run Char.isDigit, fun _ member => mem_run member⟩
  refine ⟨number, (cursor.behindSign.behindRun Char.isDigit).rest, ?_, ?_, ?_⟩
  · rw [NumberText.chars, List.append_assoc]
    change cursor.rest = (if cursor.hasSign then ['-'] else []) ++
      (cursor.behindSign.run Char.isDigit ++ (cursor.behindSign.behindRun Char.isDigit).rest)
    rw [run_append_rest]
    exact signText
  · have length : cursor.behindSign.position +
        (cursor.behindSign.run Char.isDigit).length =
        cursor.position + number.chars.length := by
      rw [signLength, NumberText.chars, List.length_append, Nat.add_assoc]
      rfl
    have behind : cursor.behindSign.behindRun Char.isDigit =
        ⟨cursor.position + number.chars.length,
          (cursor.behindSign.behindRun Char.isDigit).rest⟩ := by
      rw [← length]
      rfl
    have chars : (if cursor.hasSign then '-' :: cursor.behindSign.run Char.isDigit
        else cursor.behindSign.run Char.isDigit) = number.chars := by
      change _ = (if cursor.hasSign then ['-'] else []) ++ cursor.behindSign.run Char.isDigit
      split <;> rfl
    unfold takeNumber NumberText.written
    simp only [chars]
    rw [← behind]
    change _ = ((if (cursor.behindSign.run Char.isDigit).isEmpty then none else _),
      cursor.behindSign.behindRun Char.isDigit)
    cases (cursor.behindSign.run Char.isDigit).isEmpty with
    | true => rfl
    | false => cases Text.parseInt32Chars number.chars <;> rfl
  · intro character first
    refine ⟨cursor.behindSign.head?_behindRun Char.isDigit character first, ?_⟩
    rintro nothing rfl
    rcases List.append_eq_nil_iff.mp nothing with ⟨noSign, noDigits⟩
    have unsigned : cursor.hasSign = false := by
      rw [Bool.eq_false_iff]
      intro signed
      rw [NumberText.sign, if_pos (show number.signed = true from signed)] at noSign
      cases noSign
    have here : cursor.rest = (cursor.behindSign.behindRun Char.isDigit).rest := by
      rw [signText, unsigned, ← run_append_rest cursor.behindSign Char.isDigit]
      exact congrArg (· ++ _) noDigits
    rw [← here] at first
    exact absurd (decide_eq_true first) (Bool.eq_false_iff.mp unsigned)

end Cursor
end LogLayout.Pattern
