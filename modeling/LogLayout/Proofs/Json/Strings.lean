import LogLayout.Proofs.Json.Grammar

namespace LogLayout.Json

/-!
# Reading strings

The readers of a string take it apart from the left as the grammar puts it together: what is
spelled between the quotes is read, and what may stand there is passed over.
-/

/-! ## Escapes -/

theorem escaped?_of_mem {letter character : Char} (stands : (letter, character) ∈ shortEscapes) :
    escaped? letter = some character := by
  simp only [shortEscapes, List.mem_cons, List.not_mem_nil, or_false, Prod.mk.injEq] at stands
  rcases stands with ⟨rfl, rfl⟩ | ⟨rfl, rfl⟩ | ⟨rfl, rfl⟩ | ⟨rfl, rfl⟩ | ⟨rfl, rfl⟩ | ⟨rfl, rfl⟩ |
    ⟨rfl, rfl⟩ | ⟨rfl, rfl⟩ <;> rfl

theorem ne_of_mem_shortEscapes {letter character : Char}
    (stands : (letter, character) ∈ shortEscapes) : letter ≠ 'u' := by
  rintro rfl
  cases escaped?_of_mem stands

theorem not_half_toNat (character : Char) :
    isLeadingHalf character.toNat = false ∧ isTrailingHalf character.toNat = false := by
  have valid : character.toNat < 0xD800 ∨ 0xDFFF < character.toNat ∧ character.toNat < 0x110000 :=
    character.valid
  constructor
  · simp only [isLeadingHalf, Bool.and_eq_false_iff, decide_eq_false_iff_not]
    omega
  · simp only [isTrailingHalf, Bool.and_eq_false_iff, decide_eq_false_iff_not]
    omega

/-- What is spelled between quotes may stand there. -/
theorem Spells.inside {written text : List Char} (spells : Spells written text) :
    Inside written := by
  induction spells with
  | nil => exact .nil
  | plain plain _ inside => exact .plain plain inside
  | short stands _ inside => exact .short stands inside
  | unit number _ inside => exact .unit number inside
  | pair _ _ first second _ _ inside => exact .unit first (.unit second inside)

/-! ## Reading one character -/

theorem readCharacters_plain {character : Char} (plain : Plain character) (rest : List Char) :
    readCharacters (character :: rest) =
      (readCharacters rest).map fun (text, behind) => (character :: text, behind) := by
  have visible : ¬character.toNat < 0x20 := Nat.not_lt.mpr plain.visible
  rw [readCharacters, if_neg visible]
  · cases readCharacters rest <;> rfl
  all_goals
    intros
    subst_vars
    first
    | exact absurd rfl plain.noQuote
    | exact absurd rfl plain.noBackslash

theorem readCharacters_short {letter character : Char}
    (stands : (letter, character) ∈ shortEscapes) (rest : List Char) :
    readCharacters ('\\' :: letter :: rest) =
      (readCharacters rest).map fun (text, behind) => (character :: text, behind) := by
  have noNumber := ne_of_mem_shortEscapes stands
  rw [readCharacters, escaped?_of_mem stands]
  · cases readCharacters rest <;> rfl
  all_goals
    intros
    subst_vars
    exact absurd rfl noNumber

theorem readCharacters_unit {a b c d character : Char}
    (number : Text.hexNumber? [a, b, c, d] = some character.toNat) (rest : List Char) :
    readCharacters ('\\' :: 'u' :: a :: b :: c :: d :: rest) =
      (readCharacters rest).map fun (text, behind) => (character :: text, behind) := by
  obtain ⟨notLeading, notTrailing⟩ := not_half_toNat character
  have read : unit? a b c d = some character.toNat := number
  by_cases another : ∃ e f g h others, rest = '\\' :: 'u' :: e :: f :: g :: h :: others
  · obtain ⟨e, f, g, h, others, rfl⟩ := another
    rw [readCharacters, read]
    simp only [Option.bind_eq_bind, Option.bind_some, notLeading, notTrailing, Bool.false_eq_true,
      if_false, Char.ofNat_toNat]
    cases readCharacters ('\\' :: 'u' :: e :: f :: g :: h :: others) <;> rfl
  · rw [readCharacters, read]
    · simp only [Option.bind_eq_bind, Option.bind_some, notLeading, notTrailing, Bool.or_self,
        Bool.false_eq_true, if_false, Char.ofNat_toNat]
      cases readCharacters rest <;> rfl
    · intro e f g h others same
      exact another ⟨e, f, g, h, others, same⟩

theorem readCharacters_pair {a b c d e f g h character : Char} {high low : Nat}
    (high_lt : high < 0x400) (low_lt : low < 0x400)
    (first : Text.hexNumber? [a, b, c, d] = some (0xD800 + high))
    (second : Text.hexNumber? [e, f, g, h] = some (0xDC00 + low))
    (means : character.toNat = 0x10000 + high * 0x400 + low) (rest : List Char) :
    readCharacters ('\\' :: 'u' :: a :: b :: c :: d :: '\\' :: 'u' :: e :: f :: g :: h :: rest) =
      (readCharacters rest).map fun (text, behind) => (character :: text, behind) := by
  have firstRead : unit? a b c d = some (0xD800 + high) := first
  have secondRead : unit? e f g h = some (0xDC00 + low) := second
  have leading : isLeadingHalf (0xD800 + high) = true := by
    simp only [isLeadingHalf, Bool.and_eq_true, decide_eq_true_eq]
    omega
  have trailing : isTrailingHalf (0xDC00 + low) = true := by
    simp only [isTrailingHalf, Bool.and_eq_true, decide_eq_true_eq]
    omega
  have together : (0xD800 + high - 0xD800) * 1024 + (0xDC00 + low - 0xDC00) + 0x10000 =
      character.toNat := by
    omega
  rw [readCharacters, firstRead, secondRead]
  simp only [Option.bind_eq_bind, Option.bind_some, leading, trailing, if_true, together,
    Char.ofNat_toNat]
  cases readCharacters rest <;> rfl

/-! ## Reading and passing over the whole -/

theorem Spells.readCharacters_eq {written text : List Char} (spells : Spells written text)
    (rest : List Char) : readCharacters (written ++ '\x22' :: rest) = some (text, rest) := by
  induction spells with
  | nil => rfl
  | plain plain _ read => rw [List.cons_append, readCharacters_plain plain, read, Option.map_some]
  | short stands _ read =>
      rw [List.cons_append, List.cons_append, readCharacters_short stands, read, Option.map_some]
  | unit number _ read =>
      simp only [List.cons_append, readCharacters_unit number, read, Option.map_some]
  | pair high_lt low_lt first second means _ read =>
      simp only [List.cons_append, readCharacters_pair high_lt low_lt first second means, read,
        Option.map_some]

/-- What may stand between quotes is passed over up to the closing one. -/
theorem Inside.skipCharacters_eq {written : List Char} (inside : Inside written)
    (rest : List Char) : skipCharacters (written ++ '\x22' :: rest) = some rest := by
  induction inside with
  | nil => rfl
  | @plain character written plain _ skipped =>
      have visible : ¬character.toNat < 0x20 := Nat.not_lt.mpr plain.visible
      rw [List.cons_append, skipCharacters, if_neg visible, skipped]
      all_goals
        intros
        subst_vars
        first
        | exact absurd rfl plain.noQuote
        | exact absurd rfl plain.noBackslash
  | short stands _ skipped =>
      have noNumber := ne_of_mem_shortEscapes stands
      rw [List.cons_append, List.cons_append, skipCharacters, escaped?_of_mem stands]
      · exact skipped
      all_goals
        intros
        subst_vars
        exact absurd rfl noNumber
  | @unit a b c d number written hexadecimal _ skipped =>
      have read : unit? a b c d = some number := hexadecimal
      simp only [List.cons_append, skipCharacters, read, Option.isSome_some, if_true, skipped]

/-- Half of a pair may stand between quotes though it spells no character. -/
example : skipCharacters "\\ud800\x22,".toList = some [','] ∧
    readCharacters "\\ud800\x22,".toList = none := by
  decide +kernel

end LogLayout.Json
