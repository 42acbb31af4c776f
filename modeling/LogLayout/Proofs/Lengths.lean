import LogLayout.Lengths

namespace LogLayout.Lengths

/-!
# Cutting and padding

What the lengths of a directive make of a text.  The text is cut to its first or its last
characters, and what is left of it is shown with spaces on one side.  A text that has been cut and
padded is neither cut nor padded any further, unless it was padded beyond its greatest length.
-/

theorem isUnlimited_iff (lengths : Lengths) :
    lengths.isUnlimited = true ↔ lengths = unlimited := by
  rcases lengths with ⟨_ | least, _ | greatest⟩ <;> simp [isUnlimited, unlimited]

@[simp] theorem apply_unlimited (text : String) : unlimited.apply text = text :=
  String.ofList_toList

/-! ## The cut -/

/-- What a greatest length leaves of a text: all of it if it has no more characters, else just as
many characters, which are the first ones or, for a negative length, the last ones. -/
structure Leaves (greatest : Option Int) (text kept : List Char) : Prop where
  all : (∀ limit ∈ greatest, text.length ≤ limit.natAbs) → kept = text
  length : ∀ limit ∈ greatest, limit.natAbs < text.length → kept.length = limit.natAbs
  first : ∀ limit ∈ greatest, 0 ≤ limit → kept <+: text
  last : ∀ limit ∈ greatest, limit < 0 → kept <:+ text

/-- The characters that a greatest length leaves. -/
def keptChars (greatest : Option Int) (text : List Char) : List Char :=
  greatest.elim text fun limit => cutChars limit text

theorem cutChars_of_le {limit : Int} {text : List Char} (short : text.length ≤ limit.natAbs) :
    cutChars limit text = text := if_pos short

theorem leaves_cutChars (limit : Int) (text : List Char) :
    Leaves (some limit) text (cutChars limit text) where
  all short := cutChars_of_le (short limit rfl)
  length := by
    rintro _ ⟨⟩ long
    rw [length_cutChars, Nat.min_eq_left (Nat.le_of_lt long)]
  first := by
    rintro _ ⟨⟩ forward
    unfold cutChars
    split
    next => exact List.prefix_refl text
    next => exact List.take_prefix _ text
  last := by
    rintro _ ⟨⟩ backward
    unfold cutChars
    split
    next => exact List.suffix_refl text
    next =>
      rw [if_neg (Int.not_le.mpr backward)]
      exact List.drop_suffix _ text

/-- A greatest length leaves just one text. -/
theorem Leaves.unique {greatest : Option Int} {text kept other : List Char}
    (leaves : Leaves greatest text kept) (others : Leaves greatest text other) : kept = other := by
  cases greatest with
  | none => rw [leaves.all nofun, others.all nofun]
  | some limit =>
      by_cases short : text.length ≤ limit.natAbs
      · have whole : ∀ given ∈ some limit, text.length ≤ given.natAbs := by
          rintro _ ⟨⟩
          exact short
        rw [leaves.all whole, others.all whole]
      · have long := Nat.lt_of_not_le short
        have same : kept.length = other.length := by
          rw [leaves.length limit rfl long, others.length limit rfl long]
        by_cases forward : 0 ≤ limit
        · exact (List.prefix_of_prefix_length_le (leaves.first limit rfl forward)
            (others.first limit rfl forward) (Nat.le_of_eq same)).eq_of_length same
        · have backward := Int.not_le.mp forward
          exact (List.suffix_of_suffix_length_le (leaves.last limit rfl backward)
            (others.last limit rfl backward) (Nat.le_of_eq same)).eq_of_length same

theorem leaves_iff (greatest : Option Int) (text kept : List Char) :
    Leaves greatest text kept ↔ kept = keptChars greatest text := by
  have leaves : Leaves greatest text (keptChars greatest text) := by
    cases greatest with
    | none => exact ⟨fun _ => rfl, nofun, nofun, nofun⟩
    | some limit => exact leaves_cutChars limit text
  exact ⟨fun others => others.unique leaves, fun same => same ▸ leaves⟩

theorem keptChars_of_le {greatest : Option Int} {text : List Char}
    (short : ∀ limit ∈ greatest, text.length ≤ limit.natAbs) : keptChars greatest text = text :=
  ((leaves_iff greatest text _).mpr rfl).all short

theorem length_keptChars (greatest : Option Int) (text : List Char) :
    (keptChars greatest text).length =
      greatest.elim text.length fun limit => min text.length limit.natAbs := by
  cases greatest with
  | none => rfl
  | some limit => exact (length_cutChars limit text).trans (Nat.min_comm _ _)

/-! ## The padding -/

/-- How a least length shows what is left of a text: with the spaces that are missing in front of
it or, for a negative length, behind it. -/
structure Fills (least : Option Int) (kept shown : List Char) : Prop where
  bare : least = none → shown = kept
  front : ∀ width ∈ least, 0 ≤ width →
    shown = List.replicate (width.natAbs - kept.length) ' ' ++ kept
  behind : ∀ width ∈ least, width < 0 →
    shown = kept ++ List.replicate (width.natAbs - kept.length) ' '

theorem padChars_of_le {width : Int} {text : List Char} (wide : width.natAbs ≤ text.length) :
    padChars width text = text := by
  simp [padChars, Nat.sub_eq_zero_of_le wide]

theorem fills_padChars (width : Int) (kept : List Char) :
    Fills (some width) kept (padChars width kept) where
  bare := nofun
  front := by
    rintro _ ⟨⟩ left
    exact if_pos left
  behind := by
    rintro _ ⟨⟩ right
    exact if_neg (Int.not_le.mpr right)

/-! ## Both -/

theorem applyChars_eq (lengths : Lengths) (text : List Char) :
    lengths.applyChars text = lengths.least.elim (keptChars lengths.greatest text)
      fun width => padChars width (keptChars lengths.greatest text) := by
  rcases lengths with ⟨_ | least, _ | greatest⟩ <;> rfl

theorem fills_applyChars (lengths : Lengths) (text : List Char) :
    Fills lengths.least (keptChars lengths.greatest text) (lengths.applyChars text) := by
  rw [applyChars_eq]
  cases lengths.least with
  | none => exact ⟨fun _ => rfl, nofun, nofun⟩
  | some width => exact fills_padChars width _

theorem length_applyChars (lengths : Lengths) (text : List Char) :
    (lengths.applyChars text).length =
      max (lengths.least.elim 0 Int.natAbs) (keptChars lengths.greatest text).length := by
  rw [applyChars_eq]
  cases lengths.least with
  | none => exact (Nat.zero_max _).symm
  | some width => exact length_padChars width _

/-- A text is left alone if it is neither too long nor too short. -/
theorem applyChars_of_between {lengths : Lengths} {text : List Char}
    (short : ∀ limit ∈ lengths.greatest, text.length ≤ limit.natAbs)
    (wide : ∀ width ∈ lengths.least, width.natAbs ≤ text.length) :
    lengths.applyChars text = text := by
  rw [applyChars_eq, keptChars_of_le short]
  cases given : lengths.least with
  | none => rfl
  | some width => exact padChars_of_le (wide width given)

/-- What has been cut and padded stays as it is, if it was not padded beyond its greatest length. -/
theorem applyChars_applyChars {lengths : Lengths}
    (ordered : ∀ width ∈ lengths.least, ∀ limit ∈ lengths.greatest, width.natAbs ≤ limit.natAbs)
    (text : List Char) :
    lengths.applyChars (lengths.applyChars text) = lengths.applyChars text := by
  have shown := lengths.length_applyChars text
  have kept := length_keptChars lengths.greatest text
  apply applyChars_of_between
  · intro limit greatest
    have narrow : lengths.least.elim 0 Int.natAbs ≤ limit.natAbs := by
      cases least : lengths.least with
      | none => exact Nat.zero_le _
      | some width => exact ordered width least limit greatest
    rw [shown, kept, Option.mem_def.mp greatest]
    exact Nat.max_le.mpr ⟨narrow, Nat.min_le_right _ _⟩
  · intro width least
    rw [shown, Option.mem_def.mp least]
    exact Nat.le_max_left _ _

/-- A text is cut to its greatest length, which leaves one text only, and this is padded to the
least length.  The result has as many characters as the least length asks for, or as many as are
left of the text if these are more.  Cutting and padding it again changes nothing, unless the least
length is greater than the greatest one. -/
theorem apply_limited (lengths : Lengths) (text : String) :
    (∃ kept, (∀ other, Leaves lengths.greatest text.toList other ↔ other = kept) ∧
      Fills lengths.least kept (lengths.apply text).toList) ∧
    (lengths.apply text).length = max (lengths.least.elim 0 Int.natAbs)
      (lengths.greatest.elim text.length fun limit => min text.length limit.natAbs) ∧
    ((∀ width ∈ lengths.least, ∀ limit ∈ lengths.greatest, width.natAbs ≤ limit.natAbs) →
      lengths.apply (lengths.apply text) = lengths.apply text) := by
  refine ⟨⟨keptChars lengths.greatest text.toList, leaves_iff lengths.greatest text.toList, ?_⟩,
    ?_, fun ordered => ?_⟩
  · rw [apply, String.toList_ofList]
    exact lengths.fills_applyChars text.toList
  · rw [apply, String.length_ofList, length_applyChars, length_keptChars, String.length_toList]
  · rw [apply, apply, String.toList_ofList, applyChars_applyChars ordered]

/-- The least number of 32 bits has a magnitude that is not one of 32 bits with a sign. -/
theorem apply_limited_leastInt32 :
    let lengths : Lengths := ⟨some 4, some (-2147483648)⟩
    (∀ width ∈ lengths.least, ∀ limit ∈ lengths.greatest, width.natAbs ≤ limit.natAbs) ∧
    lengths.apply "æøå" = " æøå" ∧ (lengths.apply "æøå").length = 4 ∧
    lengths.apply (lengths.apply "æøå") = lengths.apply "æøå" := by
  intro lengths
  have ordered : ∀ width ∈ lengths.least, ∀ limit ∈ lengths.greatest,
      width.natAbs ≤ limit.natAbs := by
    rintro _ ⟨⟩ _ ⟨⟩
    decide
  rcases apply_limited lengths "æøå" with ⟨-, length, again⟩
  exact ⟨ordered, by decide, length, again ordered⟩

end LogLayout.Lengths
