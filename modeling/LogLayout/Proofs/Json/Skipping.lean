import LogLayout.Proofs.Json.Strings
import LogLayout.Proofs.Text.Runs
import Mathlib.Data.List.TakeWhile

namespace LogLayout.Json

/-!
# Passing over values

A value that is passed over is any JSON, however deep it nests, and is read with a number of
turns that the length of its text bounds.  What is left behind a part of it is passed over with
the turns that are left, in the brackets that were open around it.
-/

/-! ## White space -/

theorem dropSpace_blank_append {gap : List Char} (blank : Blank gap) (text : List Char) :
    dropSpace (gap ++ text) = dropSpace text := by
  refine List.dropWhile_append_of_pos fun character member => ?_
  have space := blank character member
  simp only [List.mem_cons, List.not_mem_nil, or_false] at space
  rcases space with rfl | rfl | rfl | rfl <;> rfl

theorem isSpace_of_isDigit {digit : Char} (decimal : digit.isDigit = true) :
    isSpace digit = false := by
  simp only [isSpace, Bool.or_eq_false_iff, beq_eq_false_iff_ne]
  refine ⟨⟨⟨?_, ?_⟩, ?_⟩, ?_⟩ <;> (rintro rfl; cases decimal)

theorem dropSpace_cons {first : Char} (visible : isSpace first = false) (rest : List Char) :
    dropSpace (first :: rest) = first :: rest :=
  List.dropWhile_cons_of_neg (by rw [visible]; exact Bool.false_ne_true)

/-! ## Numbers -/

/-- The text does not go on with a digit. -/
def NoDigit (rest : List Char) : Prop := ∀ character ∈ rest.head?, character.isDigit = false

theorem Ends.noDigit {rest : List Char} (ends : Ends rest) : NoDigit rest := by
  intro character begins
  have either := ends character begins
  simp only [List.mem_cons, List.not_mem_nil, or_false] at either
  rcases either with rfl | rfl | rfl | rfl | rfl | rfl | rfl <;> rfl

theorem noDigit_cons {first : Char} (noDigit : first.isDigit = false) (rest : List Char) :
    NoDigit (first :: rest) :=
  fun character begins => by cases begins; exact noDigit

theorem skipDigits_append {digits rest : List Char} (written : Digits digits)
    (noDigit : NoDigit rest) : skipDigits (digits ++ rest) = some rest := by
  obtain ⟨nonempty, decimal⟩ := written
  cases digits with
  | nil => exact absurd rfl nonempty
  | cons digit digits =>
      rcases List.forall_mem_cons.mp decimal with ⟨firstDecimal, othersDecimal⟩
      rw [List.cons_append, skipDigits, if_pos firstDecimal,
        Text.dropWhile_append othersDecimal noDigit]

theorem Whole.skipWhole_append {whole rest : List Char} (written : Whole whole)
    (noDigit : NoDigit rest) : skipWhole (whole ++ rest) = some rest := by
  cases written with
  | zero =>
      cases rest with
      | nil => rfl
      | cons character rest =>
          simp only [List.cons_append, List.nil_append, skipWhole, noDigit character rfl,
            Bool.false_eq_true, if_false]
  | @digits first others nonzero digits =>
      have skipped := skipDigits_append digits noDigit
      rw [List.cons_append] at skipped ⊢
      unfold skipWhole
      split
      next same =>
        cases same
        exact absurd rfl nonzero
      next => exact skipped

theorem Fraction.skipFraction_append {fraction rest : List Char} (written : Fraction fraction)
    (noDigit : NoDigit rest) (noPoint : rest.head? ≠ some '.') :
    skipFraction (fraction ++ rest) = some rest := by
  cases written with
  | none =>
      rw [List.nil_append]
      unfold skipFraction
      split
      next => exact absurd rfl noPoint
      next => rfl
  | digits digits => exact skipDigits_append digits noDigit

theorem Exponent.skipExponent_append {exponent rest : List Char} (written : Exponent exponent)
    (ends : Ends rest) : skipExponent (exponent ++ rest) = some rest := by
  cases written with
  | none =>
      rw [List.nil_append]
      unfold skipExponent
      split
      next => exact absurd (ends 'e' rfl) (by decide)
      next => exact absurd (ends 'E' rfl) (by decide)
      next => rfl
  | @digits letter sign digits lettered signed written =>
      have skipped := skipDigits_append written ends.noDigit
      have behind : skipExponentDigits (sign ++ digits ++ rest) = some rest := by
        simp only [List.mem_cons, List.not_mem_nil, or_false] at signed
        rcases signed with rfl | rfl | rfl
        · obtain ⟨nonempty, decimal⟩ := written
          cases digits with
          | nil => exact absurd rfl nonempty
          | cons digit digits =>
              have first := decimal digit List.mem_cons_self
              rw [List.nil_append]
              unfold skipExponentDigits
              split
              next same =>
                cases same
                cases first
              next same =>
                cases same
                cases first
              next => exact skipped
        · exact skipped
        · exact skipped
      simp only [List.mem_cons, List.not_mem_nil, or_false] at lettered
      rcases lettered with rfl | rfl
      · exact behind
      · exact behind

theorem Whole.exists_cons {whole : List Char} (written : Whole whole) :
    ∃ first others, whole = first :: others ∧ first.isDigit = true := by
  cases written with
  | zero => exact ⟨'0', [], rfl, rfl⟩
  | digits _ digits => exact ⟨_, _, rfl, digits.2 _ List.mem_cons_self⟩

theorem Whole.isDigit {whole : List Char} (written : Whole whole) :
    ∀ digit ∈ whole, digit.isDigit = true := by
  cases written with
  | zero => exact fun digit member => List.mem_singleton.mp member ▸ rfl
  | digits _ digits => exact digits.2

/-- A whole part alone is a number. -/
theorem Whole.number {whole : List Char} (written : Whole whole) : Number whole := by
  have parts : Number ([] ++ (whole ++ ([] ++ []))) := .parts (by decide) written .none .none
  rwa [List.append_nil, List.append_nil] at parts

theorem Number.exists_cons {text : List Char} (number : Number text) :
    ∃ first others, text = first :: others ∧ (first = '-' ∨ first.isDigit = true) := by
  cases number with
  | parts signed wholePart =>
      obtain ⟨first, others, rfl, digit⟩ := wholePart.exists_cons
      simp only [List.mem_cons, List.not_mem_nil, or_false] at signed
      rcases signed with rfl | rfl
      · exact ⟨first, _, rfl, .inr digit⟩
      · exact ⟨'-', _, rfl, .inl rfl⟩

theorem Number.skipNumber_append {text rest : List Char} (number : Number text)
    (ends : Ends rest) : skipNumber (text ++ rest) = some rest := by
  cases number with
  | @parts sign whole fraction exponent signed wholePart fractionPart exponentPart =>
      have noLetter : NoDigit (exponent ++ rest) ∧ (exponent ++ rest).head? ≠ some '.' := by
        cases exponentPart with
        | none =>
            exact ⟨ends.noDigit, fun point => absurd (ends '.' point) (by decide)⟩
        | digits lettered =>
            simp only [List.mem_cons, List.not_mem_nil, or_false] at lettered
            rcases lettered with rfl | rfl
            · exact ⟨noDigit_cons rfl _, fun point => by cases point⟩
            · exact ⟨noDigit_cons rfl _, fun point => by cases point⟩
      have noDigit : NoDigit (fraction ++ (exponent ++ rest)) := by
        cases fractionPart with
        | none => exact noLetter.1
        | digits => exact noDigit_cons rfl _
      have wholeSkipped := wholePart.skipWhole_append noDigit
      have fractionSkipped := fractionPart.skipFraction_append noLetter.1 noLetter.2
      have exponentSkipped := exponentPart.skipExponent_append ends
      obtain ⟨first, others, begins, digit⟩ := wholePart.exists_cons
      simp only [List.append_assoc]
      unfold skipNumber
      simp only [List.mem_cons, List.not_mem_nil, or_false] at signed
      rcases signed with rfl | rfl
      · rw [List.nil_append]
        split
        next same =>
          rw [begins] at same
          cases same
          cases digit
        next =>
          simp only [wholeSkipped, Option.bind_eq_bind, Option.bind_some, fractionSkipped,
            exponentSkipped]
      · simp only [List.cons_append, List.nil_append, wholeSkipped, Option.bind_eq_bind,
          Option.bind_some, fractionSkipped, exponentSkipped]

/-! ## Nested values -/

/-- Pass over what is left behind a value: nothing but the rest if no bracket is open. -/
def resume (brackets : List Bool) (turns : Nat) (rest : List Char) : Option (List Char) :=
  if brackets.isEmpty then some rest else skipNested .more brackets turns rest

/-- White space in front of a text changes nothing. -/
theorem skipNested_blank_append {gap : List Char} (blank : Blank gap) (expecting : Expecting)
    (brackets : List Bool) (turns : Nat) (text : List Char) :
    skipNested expecting brackets turns (gap ++ text) =
      skipNested expecting brackets turns text := by
  cases turns with
  | zero => rfl
  | succ turns => simp only [skipNested, dropSpace_blank_append blank]

/-- A text is passed over, where a value or the end of an array may come, as where a value has
to come, if it does not begin with that end. -/
theorem skipNested_valueOrEnd {first : Char} (visible : isSpace first = false)
    (opens : first ≠ ']') (brackets : List Bool) (turns : Nat) (rest : List Char) :
    skipNested .valueOrEnd brackets turns (first :: rest) =
      skipNested .value brackets turns (first :: rest) := by
  cases turns with
  | zero => rfl
  | succ turns =>
      simp only [skipNested, dropSpace_cons visible]
      split <;> simp_all

theorem Number.skipNested_append {text rest : List Char} (number : Number text)
    (ends : Ends rest) (brackets : List Bool) (turns : Nat) :
    skipNested .value brackets (turns + 1) (text ++ rest) = resume brackets turns rest := by
  have skipped := number.skipNumber_append ends
  obtain ⟨first, others, rfl, rfl | digit⟩ := number.exists_cons
  · rw [List.cons_append] at skipped ⊢
    exact (congrArg (Option.bind · _) skipped).trans rfl
  · rw [List.cons_append] at skipped ⊢
    simp only [skipNested, dropSpace_cons (isSpace_of_isDigit digit)]
    split
    all_goals first
      | contradiction
      | (next same _ _ => cases (List.cons.inj same).1; cases digit)
      | (rw [skipped]; rfl)

/-- The text of a value begins with a character that is no white space and closes nothing. -/
theorem Derives.exists_cons {text : List Char} (derives : Derives .value text) :
    ∃ first others, text = first :: others ∧ isSpace first = false ∧ first ≠ ']' := by
  cases derives with
  | null => exact ⟨_, _, rfl, rfl, by decide⟩
  | yes => exact ⟨_, _, rfl, rfl, by decide⟩
  | no => exact ⟨_, _, rfl, rfl, by decide⟩
  | number number =>
      obtain ⟨first, others, rfl, rfl | digit⟩ := number.exists_cons
      · exact ⟨_, _, rfl, rfl, by decide⟩
      · exact ⟨_, _, rfl, isSpace_of_isDigit digit, by rintro rfl; cases digit⟩
  | string => exact ⟨_, _, rfl, rfl, by decide⟩
  | emptyArray => exact ⟨_, _, rfl, rfl, by decide⟩
  | array => exact ⟨_, _, rfl, rfl, by decide⟩
  | emptyObject => exact ⟨_, _, rfl, rfl, by decide⟩
  | object => exact ⟨_, _, rfl, rfl, by decide⟩

/-- A text of a value is passed over in some number of turns, and then what is behind it. -/
def ValueSkipped (used : Nat) (text : List Char) : Prop :=
  ∀ brackets turns rest, Ends rest →
    skipNested .value brackets (turns + used) (text ++ rest) = resume brackets turns rest

/-- An item is passed over with the white space around it. -/
theorem skipNested_item {used : Nat} {value : List Char} (derives : Derives .value value)
    (skipped : ValueSkipped used value) {before behind tail : List Char}
    (beforeBlank : Blank before) (behindBlank : Blank behind) (ends : Ends tail)
    {expecting : Expecting} (either : expecting ∈ [.value, .valueOrEnd]) (brackets : List Bool)
    (turns : Nat) :
    skipNested expecting (false :: brackets) (turns + used)
        (before ++ (value ++ (behind ++ tail))) =
      skipNested .more (false :: brackets) turns tail := by
  have asValue := skipped (false :: brackets) turns (behind ++ tail) (ends.blank_append behindBlank)
  obtain ⟨first, others, rfl, visible, opens⟩ := derives.exists_cons
  have asEither : skipNested expecting (false :: brackets) (turns + used)
      (first :: others ++ (behind ++ tail)) =
        resume (false :: brackets) turns (behind ++ tail) := by
    simp only [List.mem_cons, List.not_mem_nil, or_false] at either
    rcases either with rfl | rfl
    · exact asValue
    · exact (skipNested_valueOrEnd visible opens _ _ _).trans asValue
  rw [skipNested_blank_append beforeBlank, asEither]
  exact skipNested_blank_append behindBlank _ _ _ _

/-- A member is passed over with the white space around it. -/
theorem skipNested_member {used : Nat} {key value : List Char} (inside : Inside key)
    (skipped : ValueSkipped used value) {before middle between behind tail : List Char}
    (beforeBlank : Blank before) (middleBlank : Blank middle) (betweenBlank : Blank between)
    (behindBlank : Blank behind) (ends : Ends tail) (orEnd : Bool) (brackets : List Bool)
    (turns : Nat) :
    skipNested (.key orEnd) (true :: brackets) (turns + used + 1)
        (before ++ '\x22' :: (key ++ '\x22' :: (middle ++ ':' ::
          (between ++ (value ++ (behind ++ tail)))))) =
      skipNested .more (true :: brackets) turns tail := by
  have asValue := skipped (true :: brackets) turns (behind ++ tail) (ends.blank_append behindBlank)
  have colon (rest : List Char) : dropSpace (middle ++ ':' :: rest) = ':' :: rest :=
    dropSpace_blank_append middleBlank _
  have quote (rest : List Char) : dropSpace ('\x22' :: rest) = '\x22' :: rest := rfl
  rw [skipNested_blank_append beforeBlank]
  cases orEnd
  all_goals
    simp only [skipNested, quote, inside.skipCharacters_eq, Option.map_some, colon]
    rw [skipNested_blank_append betweenBlank, asValue]
    exact skipNested_blank_append behindBlank _ _ _ _

/-- A text of a part of JSON is passed over, in no more turns than it is long. -/
def Skipped (text : List Char) : Part → Prop
  | .value => ∃ used ≤ text.length, ValueSkipped used text
  | .items => ∃ used ≤ text.length, ∀ expecting ∈ [.value, .valueOrEnd], ∀ brackets turns rest,
      skipNested expecting (false :: brackets) (turns + used) (text ++ rest) =
        resume brackets turns rest
  | .members => ∃ used ≤ text.length, ∀ orEnd brackets turns rest,
      skipNested (.key orEnd) (true :: brackets) (turns + used) (text ++ rest) =
        resume brackets turns rest

/-- Every part of JSON is passed over. -/
theorem Derives.skipped {part : Part} {text : List Char} (derives : Derives part text) :
    Skipped text part := by
  induction derives with
  | null => exact ⟨1, by decide, fun brackets turns rest _ => rfl⟩
  | yes => exact ⟨1, by decide, fun brackets turns rest _ => rfl⟩
  | no => exact ⟨1, by decide, fun brackets turns rest _ => rfl⟩
  | number number =>
      obtain ⟨first, others, rfl, -⟩ := number.exists_cons
      exact ⟨1, Nat.succ_pos _, fun brackets turns rest ends =>
        number.skipNested_append ends brackets turns⟩
  | @string inside inside_string =>
      refine ⟨1, Nat.succ_pos _, fun brackets turns rest _ => ?_⟩
      change (skipCharacters (inside ++ ['\x22'] ++ rest)).bind _ = _
      rw [List.append_assoc, List.cons_append, inside_string.skipCharacters_eq]
      rfl
  | @emptyArray gap blank =>
      refine ⟨2, by simp, fun brackets turns rest _ => ?_⟩
      change skipNested .valueOrEnd (false :: brackets) (turns + 1) (gap ++ [']'] ++ rest) = _
      rw [List.append_assoc, skipNested_blank_append blank]
      rfl
  | array items skipped =>
      obtain ⟨used, used_le, skipped⟩ := skipped
      exact ⟨used + 1, Nat.succ_le_succ used_le, fun brackets turns rest _ =>
        skipped .valueOrEnd (by decide) brackets turns rest⟩
  | @emptyObject gap blank =>
      refine ⟨2, by simp, fun brackets turns rest _ => ?_⟩
      change skipNested (.key true) (true :: brackets) (turns + 1) (gap ++ ['\x7d'] ++ rest) = _
      rw [List.append_assoc, skipNested_blank_append blank]
      rfl
  | object members skipped =>
      obtain ⟨used, used_le, skipped⟩ := skipped
      exact ⟨used + 1, Nat.succ_le_succ used_le, fun brackets turns rest _ =>
        skipped true brackets turns rest⟩
  | lastItem beforeBlank item behindBlank skipped =>
      obtain ⟨used, used_le, skipped⟩ := skipped
      refine ⟨1 + used, by simp; omega, fun expecting either brackets turns rest => ?_⟩
      have closed : Ends (']' :: rest) := ends_cons rest (by decide)
      have step := skipNested_item item skipped beforeBlank behindBlank closed either brackets
        (turns + 1)
      simp only [List.append_assoc, ← Nat.add_assoc]
      exact step.trans rfl
  | @item _ _ _ items beforeBlank item behindBlank _ skipped skippedItems =>
      obtain ⟨used, used_le, skipped⟩ := skipped
      obtain ⟨usedItems, usedItems_le, skippedItems⟩ := skippedItems
      refine ⟨usedItems + 1 + used, by simp; omega, fun expecting either brackets turns rest => ?_⟩
      have goesOn (rest : List Char) : Ends (',' :: rest) := ends_cons rest (by decide)
      have step := skipNested_item item skipped beforeBlank behindBlank (goesOn (items ++ rest))
        either brackets (turns + usedItems + 1)
      have others := skippedItems .value (by decide) brackets turns rest
      simp only [List.append_assoc, List.cons_append, ← Nat.add_assoc]
      exact step.trans others
  | lastMember beforeBlank inside middleBlank betweenBlank member behindBlank skipped =>
      obtain ⟨used, used_le, skipped⟩ := skipped
      refine ⟨1 + used + 1, by simp; omega, fun orEnd brackets turns rest => ?_⟩
      have closed : Ends ('\x7d' :: rest) := ends_cons rest (by decide)
      have step := skipNested_member inside skipped beforeBlank middleBlank betweenBlank behindBlank
        closed orEnd brackets (turns + 1)
      simp only [List.append_assoc, List.cons_append, ← Nat.add_assoc]
      exact step.trans rfl
  | @member _ _ _ _ _ _ members beforeBlank inside middleBlank betweenBlank _ behindBlank _ skipped
        skippedMembers =>
      obtain ⟨used, used_le, skipped⟩ := skipped
      obtain ⟨usedMembers, usedMembers_le, skippedMembers⟩ := skippedMembers
      refine ⟨usedMembers + 1 + used + 1, by simp; omega, fun orEnd brackets turns rest => ?_⟩
      have goesOn (rest : List Char) : Ends (',' :: rest) := ends_cons rest (by decide)
      have step := skipNested_member inside skipped beforeBlank middleBlank betweenBlank behindBlank
        (goesOn (members ++ rest)) orEnd brackets (turns + usedMembers + 1)
      have others := skippedMembers false brackets turns rest
      simp only [List.append_assoc, List.cons_append, ← Nat.add_assoc]
      exact step.trans others

/-- A value is passed over, however deep it nests. -/
theorem Derives.skipValue_append {text gap rest : List Char} (derives : Derives .value text)
    (blank : Blank gap) (ends : Ends rest) : skipValue (gap ++ (text ++ rest)) = some rest := by
  obtain ⟨used, used_le, skipped⟩ := derives.skipped
  obtain ⟨turns, same⟩ : ∃ turns, (gap ++ (text ++ rest)).length + 1 = turns + used :=
    ⟨(gap ++ (text ++ rest)).length + 1 - used, by simp only [List.length_append]; omega⟩
  rw [skipValue, same, skipNested_blank_append blank]
  exact skipped [] turns rest ends

end LogLayout.Json
