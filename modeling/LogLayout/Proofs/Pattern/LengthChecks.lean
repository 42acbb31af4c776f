import LogLayout.Proofs.Pattern.Enclosing
import LogLayout.Proofs.Pattern.Failing

namespace LogLayout.Pattern

/-!
# The check of lengths

A length is a sign and digits, either of which may be missing, and there may be as many digits as
one likes.  It is accepted exactly if the number that they write is in range, and then it is that
number.  Without digits there is no length.

The check comes behind the word of a directive and in front of everything else.  So it is reported
first, whether or not the word is known, and whatever follows it.  Of two lengths that are out of
range the least one is reported.
-/

/-! ## Numbers as they are written -/

theorem NumberText.value?_eq_some_iff (number : NumberText) (value : Int) :
    number.value? = some value ↔ number.digits ≠ [] ∧
      value = (if number.signed then -1 else 1) * (Nat.ofDigitChars 10 number.digits 0 : Int) := by
  unfold NumberText.value?
  by_cases empty : number.digits = []
  · rw [if_pos empty]
    exact iff_of_false nofun fun both => both.1 empty
  · rw [if_neg empty]
    cases number.signed with
    | true =>
        simp only [if_true, Option.some.injEq, ne_eq, empty, not_false_eq_true, true_and,
          Int.neg_mul, Int.one_mul, eq_comm]
    | false =>
        simp only [Bool.false_eq_true, if_false, Option.some.injEq, ne_eq, empty,
          not_false_eq_true, true_and, Int.one_mul, eq_comm]

theorem NumberText.value?_eq_none_iff (number : NumberText) :
    number.value? = none ↔ number.digits = [] := by
  constructor
  · intro none
    by_contra nonempty
    have written := (number.value?_eq_some_iff _).mpr ⟨nonempty, rfl⟩
    rw [none] at written
    cases written
  · intro empty
    exact if_pos empty

/-! ## Heads that are checked -/

namespace HeadText

variable (text : HeadText) {following : List Char}

/-- A head is accepted exactly if its lengths are in range, and then it is what is written. -/
theorem readHead_eq_ok_iff
    (maximal : ∀ character ∈ following.head?, Text.isAlphabetic character = false)
    (position start : Nat) (head : Head) :
    (readHead position ⟨start, text.chars ++ following⟩).1 = .ok head ↔
      InRange text.lengths ∧ head = text.head position := by
  rw [text.readHead_word maximal]
  constructor
  · intro accepted
    cases checked : text.checked with
    | error fault =>
        rw [checked] at accepted
        cases accepted
    | ok lengths =>
        rw [checked] at accepted
        cases accepted
        rcases (checkLengths_written_iff text lengths).mp checked with ⟨rfl, inRange⟩
        exact ⟨inRange, rfl⟩
  · rintro ⟨inRange, rfl⟩
    have checked : text.checked = .ok text.lengths :=
      (checkLengths_written_iff text text.lengths).mpr ⟨rfl, inRange⟩
    rw [checked]
    rfl

theorem checked_of_least {value : Int} (written : text.least.value? = some value)
    (large : greatestLength < value.natAbs) :
    text.checked =
      .error (.badParameter ⟨text.name, text.least.reported value, .lengthOutOfRange⟩) := by
  have refused := checkLength_written text.name text.least
  simp only [written, if_neg (Nat.not_le.mpr large)] at refused
  rw [checked, checkLengths, refused]
  rfl

theorem checked_of_greatest {number : NumberText} {value : Int}
    (given : text.greatest = some number) (written : number.value? = some value)
    (large : greatestLength < value.natAbs)
    (small : ∀ least ∈ text.least.value?, least.natAbs ≤ greatestLength) :
    text.checked =
      .error (.badParameter ⟨text.name, number.reported value, .lengthOutOfRange⟩) := by
  have accepted := (checkLength_written_iff text.name text.least _).mpr ⟨rfl, small⟩
  have refused := checkLength_written text.name number
  simp only [written, if_neg (Nat.not_le.mpr large)] at refused
  rw [checked, checkLengths, accepted, given, Option.bind_some, refused]
  rfl

end HeadText

section Directives

variable {registry : Registry} {context : Context}

theorem OpensAt.compile_of_checked {pattern : String} {opened : List Nat} {position : Nat}
    {text : HeadText} {following : List Char} {bad : BadParameter}
    (opens : OpensAt registry context none (.ofText pattern) opened position
      (text.chars ++ following))
    (maximal : ∀ character ∈ following.head?, Text.isAlphabetic character = false)
    (refused : text.checked = .error (.badParameter bad)) :
    registry.compile context pattern = .error (.badParameter bad) := by
  have fails : FailsAt registry context none (.ofText pattern) opened position text.chars
      following ⟨.badParameter bad, position + 1 + text.chars.length⟩ :=
    ⟨opens, .refused (.lengths refused maximal), rfl⟩
  rw [Registry.compile, (compileUntil_eq_error_iff none _ _).mpr ⟨_, _, _, _, fails⟩]

end Directives

/-- A length writes a number exactly if it has digits, and then the number of the digits, however
many these are, with the sign that is in front of them.

Where a directive with a word is reached, its head is accepted exactly if no number that is written
for a length is out of range.  It then holds just these numbers, and with them the directive is
compiled further.  If one is out of range, the pattern is refused for it in the name of the word,
whether the word is known or not and whatever follows it, and for the least length first. -/
theorem compile_length_check (registry : Registry) (context : Context) (pattern : String)
    (opened : List Nat) (position : Nat) (text : HeadText) (following : List Char)
    (opens : OpensAt registry context none (.ofText pattern) opened position
      (text.chars ++ following))
    (maximal : ∀ character ∈ following.head?, Text.isAlphabetic character = false) :
    (∀ number : NumberText, (number.value? = none ↔ number.digits = []) ∧
      ∀ value, number.value? = some value ↔ number.digits ≠ [] ∧
        value = (if number.signed then -1 else 1) *
          (Nat.ofDigitChars 10 number.digits 0 : Int)) ∧
    (∀ head, (readHead position ⟨position + 1, text.chars ++ following⟩).1 = .ok head ↔
      ((∀ value ∈ text.least.value?, value.natAbs ≤ 65535) ∧
        ∀ value ∈ text.greatest.bind NumberText.value?, value.natAbs ≤ 65535) ∧
      head = ⟨position, ⟨text.least.value?, text.greatest.bind NumberText.value?⟩, text.name⟩) ∧
    ((∀ value ∈ text.least.value?, value.natAbs ≤ 65535) →
      (∀ value ∈ text.greatest.bind NumberText.value?, value.natAbs ≤ 65535) →
      registry.compileDirective context position ⟨position + 1, text.chars ++ following⟩ =
        match registry.resolve? text.name with
        | none => .error ⟨.unknownWord text.name position, position + 1 + text.chars.length⟩
        | some builder =>
            (registry.compileInside context (text.head position) builder
              ⟨position + 1 + text.chars.length, following⟩).bind fun inside =>
                builder.compileTail context (text.head position) inside.1 inside.2) ∧
    (∀ value ∈ text.least.value?, 65535 < value.natAbs →
      registry.compile context pattern =
        .error (.badParameter ⟨text.name, text.least.reported value, .lengthOutOfRange⟩)) ∧
    ((∀ value ∈ text.least.value?, value.natAbs ≤ 65535) →
      ∀ number ∈ text.greatest, ∀ value ∈ number.value?, 65535 < value.natAbs →
        registry.compile context pattern =
          .error (.badParameter ⟨text.name, number.reported value, .lengthOutOfRange⟩)) := by
  refine ⟨fun number => ⟨number.value?_eq_none_iff, number.value?_eq_some_iff⟩,
    text.readHead_eq_ok_iff maximal position (position + 1),
    fun least greatest => compileDirective_of_inRange text ⟨least, greatest⟩ maximal position
      (position + 1), ?_, ?_⟩
  · intro value written large
    exact opens.compile_of_checked maximal (text.checked_of_least written large)
  · intro small number given value written large
    exact opens.compile_of_checked maximal
      (text.checked_of_greatest given written large small)

/-- Within another directive, an unknown word with a list of parameters that is left open is named
for its lengths.  The last head has a greatest length without digits. -/
theorem compile_length_check_nested :
    let context : Context := { application := "shop", node := "east", console := .plain }
    let leastBad := "%red(%-0070000.99999999999nosuch\x7b"
    let greatestBad := "%red(%0065535.-99999999999nosuch\x7b"
    let accepted := "%red(%-00065535.-level)"
    (OpensAt Registry.builtin context none (.ofText leastBad) [0] 5
        "-0070000.99999999999nosuch\x7b".toList ∧
      Registry.builtin.compile context leastBad =
        .error (.badParameter ⟨"nosuch", "-70000", .lengthOutOfRange⟩)) ∧
    (OpensAt Registry.builtin context none (.ofText greatestBad) [0] 5
        "0065535.-99999999999nosuch\x7b".toList ∧
      Registry.builtin.compile context greatestBad =
        .error (.badParameter ⟨"nosuch", "-99999999999", .lengthOutOfRange⟩)) ∧
    OpensAt Registry.builtin context none (.ofText accepted) [0] 5 "-00065535.-level)".toList ∧
      (readHead 5 ⟨6, "-00065535.-level)".toList⟩).1 =
        .ok ⟨5, ⟨some (-65535), none⟩, "level"⟩ := by
  intro context leastBad greatestBad accepted
  let red : HeadText := .bare "red" (by decide) (List.all_eq_true.mp (by decide))
  have redKnown : (Registry.builtin.resolve? red.name).any Builder.encloses = true := by
    decide +kernel
  rcases Option.any_eq_true _ _ |>.mp redKnown with ⟨builder, resolved, encloses⟩
  have opens (pattern : String) (rest : List Char) (single : rest.head? ≠ some '%')
      (text : pattern.toList = '%' :: (red.chars ++ '(' :: '%' :: rest)) :
      OpensAt Registry.builtin context none (.ofText pattern) [0] 5 rest := by
    rw [Cursor.ofText, text]
    exact ⟨⟨some ')', .enter (HeadText.inRange_bare _ _ _) resolved encloses .here⟩, single⟩
  let number (signed : Bool) (digits : String)
      (decimal : digits.toList.all Char.isDigit = true) : NumberText :=
    ⟨signed, digits.toList, List.all_eq_true.mp decimal⟩
  have letters (word : String) (alphabetic : word.toList.all Text.isAlphabetic = true) :
      ∀ letter ∈ word.toList, Text.isAlphabetic letter = true := List.all_eq_true.mp alphabetic
  have firstOpens := opens leastBad "-0070000.99999999999nosuch\x7b".toList (by decide) (by decide)
  have secondOpens := opens greatestBad "0065535.-99999999999nosuch\x7b".toList (by decide)
    (by decide)
  have thirdOpens := opens accepted "-00065535.-level)".toList (by decide) (by decide)
  refine ⟨⟨firstOpens, ?_⟩, ⟨secondOpens, ?_⟩, thirdOpens, ?_⟩
  · let text : HeadText := ⟨number true "0070000" (by decide),
      some (number false "99999999999" (by decide)), "nosuch".toList, by decide,
      letters "nosuch" (by decide)⟩
    have checked := compile_length_check Registry.builtin context leastBad [0] 5 text ['\x7b']
      firstOpens (by rintro _ ⟨⟩; decide)
    exact checked.2.2.2.1 (-70000) rfl (by decide)
  · let text : HeadText := ⟨number false "0065535" (by decide),
      some (number true "99999999999" (by decide)), "nosuch".toList, by decide,
      letters "nosuch" (by decide)⟩
    have checked := compile_length_check Registry.builtin context greatestBad [0] 5 text ['\x7b']
      secondOpens (by rintro _ ⟨⟩; decide)
    have least : ∀ value ∈ text.least.value?, value.natAbs ≤ 65535 := by
      intro value written
      have same : (65535 : Int) = value := Option.some.inj written
      subst same
      decide
    exact checked.2.2.2.2 least _ rfl (-99999999999) rfl (by decide)
  · let text : HeadText := ⟨number true "00065535" (by decide), some (number true "" (by decide)),
      "level".toList, by decide, letters "level" (by decide)⟩
    have checked := compile_length_check Registry.builtin context accepted [0] 5 text [')']
      thirdOpens (by rintro _ ⟨⟩; decide)
    refine (checked.2.1 _).mpr ⟨⟨?_, ?_⟩, rfl⟩
    · intro value written
      have same : (-65535 : Int) = value := Option.some.inj written
      subst same
      decide
    · rintro _ ⟨⟩

end LogLayout.Pattern
