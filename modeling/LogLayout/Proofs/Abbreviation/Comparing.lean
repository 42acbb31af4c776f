import LogLayout.Proofs.Abbreviation

namespace LogLayout.Abbreviation

/-!
# Shortened names compared

A name is always shown with some of its leading segments kept from the left and the others cut,
also where it is not shortened at all.  So of two shortened forms of one name the one that keeps
more segments shows at least as much of each of them, and more segments are kept for a greater
length.

A form that keeps a segment fits into the length asked for, and is left alone by a second run.  A
form that does not fit has all its leading segments cut, and there is nothing left to cut.
-/

/-! ## More and fewer segments kept -/

theorem kept_mono {less more : Int} (wider : less ≤ more) (leading : List (List Char)) :
    kept less leading ≤ kept more leading := by
  by_contra fewer
  rcases (lt_kept_iff less leading _).mp (Nat.lt_of_not_le fewer) with ⟨there, covered⟩
  have further := (lt_kept_iff more leading _).mpr ⟨there, by omega⟩
  exact Nat.lt_irrefl _ further

theorem kept_le_length (budget : Int) (leading : List (List Char)) :
    kept budget leading ≤ leading.length := by
  by_contra further
  exact Nat.lt_irrefl _ ((lt_kept_iff budget leading _).mp (Nat.lt_of_not_le further)).1

theorem cutBehind_nil (count : Nat) : cutBehind count [] = [] := by
  rw [cutBehind, List.take_nil, List.drop_nil]
  rfl

theorem cutBehind_length (leading : List (List Char)) :
    cutBehind leading.length leading = leading := by
  rw [cutBehind, List.take_length, List.drop_length, List.map_nil, List.append_nil]

/-- Segments that are cut already stay as they are, however many of them are kept. -/
theorem cutBehind_initials (count : Nat) (leading : List (List Char)) :
    cutBehind count (leading.map (List.take 1)) = leading.map (List.take 1) := by
  have again : (leading.map (List.take 1)).map (List.take 1) = leading.map (List.take 1) := by
    rw [List.map_map]
    exact List.map_congr_left fun segment _ => List.take_take
  calc cutBehind count (leading.map (List.take 1))
      = (leading.map (List.take 1)).take count ++
          ((leading.map (List.take 1)).map (List.take 1)).drop count := by
        rw [cutBehind, List.map_drop]
    _ = leading.map (List.take 1) := by rw [again, List.take_append_drop]

/-- Where more segments are kept, no less is shown of any of them. -/
theorem cutBehind_mono {fewer more : Nat} (le : fewer ≤ more) (leading : List (List Char)) :
    List.Forall₂ (· <+: ·) (cutBehind fewer leading) (cutBehind more leading) := by
  induction leading generalizing fewer more with
  | nil =>
      rw [cutBehind_nil, cutBehind_nil]
      exact .nil
  | cons segment rest inductionHypothesis =>
      cases more with
      | zero =>
          rw [Nat.le_zero.mp le]
          exact List.forall₂_same.mpr fun shown _ => List.prefix_refl shown
      | succ more =>
          rw [cutBehind_succ]
          cases fewer with
          | zero =>
              exact .cons (List.take_prefix 1 segment) (inductionHypothesis (Nat.zero_le more))
          | succ fewer =>
              exact .cons (List.prefix_refl segment)
                (inductionHypothesis (Nat.le_of_succ_le_succ le))

theorem length_dotted_mono {shorter longer : List (List Char)}
    (prefixes : List.Forall₂ (· <+: ·) shorter longer) :
    (dotted shorter).length ≤ (dotted longer).length := by
  induction prefixes with
  | nil => exact Nat.le_refl _
  | cons here others inductionHypothesis =>
      rw [dotted_cons, dotted_cons, List.length_append, List.length_append, List.length_cons,
        List.length_cons]
      have first := here.length_le
      omega

/-! ## Two runs over one name -/

namespace DividedInto

variable {name last : List Char} {leading : List (List Char)}

/-- How many leading segments of a name are kept for a length. -/
def keptFor (length : Nat) (leading : List (List Char)) (last : List Char) : Nat :=
  if (dotted leading).length + last.length ≤ length then leading.length
  else kept (budget length leading last) leading

theorem keptFor_mono {less more : Nat} (le : less ≤ more) (leading : List (List Char))
    (last : List Char) : keptFor less leading last ≤ keptFor more leading last := by
  unfold keptFor
  split
  next fits => exact Nat.le_of_eq (if_pos (Nat.le_trans fits le)).symm
  next =>
    split
    next => exact kept_le_length _ leading
    next => exact kept_mono (by unfold budget; omega) leading

/-- Shortened or not, a name is shown with some of its leading segments kept. -/
theorem abbreviateChars_eq_keptFor (divided : DividedInto name leading last) (length : Nat) :
    abbreviateChars name length =
      dotted (cutBehind (keptFor length leading last) leading) ++ last := by
  unfold keptFor
  rw [← divided.length_eq]
  split
  next fits => rw [abbreviateChars_of_length_le fits, cutBehind_length, ← divided.joined]
  next long => exact divided.abbreviateChars_eq (Nat.lt_of_not_le long)

/-- A name divided at its dots stays divided at the same places with segments cut. -/
theorem cut (divided : DividedInto name leading last) (count : Nat) :
    DividedInto (dotted (cutBehind count leading) ++ last) (cutBehind count leading) last :=
  ⟨rfl, undotted_cutBehind divided.undotted count, divided.undotted_last⟩

theorem segments_abbreviateChars (divided : DividedInto name leading last) (length : Nat) :
    segments (abbreviateChars name length) =
      cutBehind (keptFor length leading last) leading ++ [last] := by
  rw [divided.abbreviateChars_eq_keptFor, (divided.cut _).segments_eq]

/-- What is still too long once it is shortened has all its leading segments cut. -/
theorem keptFor_eq_zero (divided : DividedInto name leading last) {length : Nat}
    (long : length < (abbreviateChars name length).length) : keptFor length leading last = 0 := by
  have whole : length < name.length :=
    Nat.lt_of_lt_of_le long (divided.length_abbreviateChars_le length)
  rw [divided.abbreviateChars_eq whole, List.length_append] at long
  rw [keptFor, ← divided.length_eq, if_neg (Nat.not_le.mpr whole)]
  by_contra some
  have shortened := length_shortened_le (Nat.pos_of_ne_zero some)
  unfold budget at shortened long
  omega

theorem abbreviateChars_abbreviateChars (divided : DividedInto name leading last)
    (length : Nat) :
    abbreviateChars (abbreviateChars name length) length = abbreviateChars name length := by
  by_cases fits : (abbreviateChars name length).length ≤ length
  · exact abbreviateChars_of_length_le fits
  · have none := divided.keptFor_eq_zero (Nat.lt_of_not_le fits)
    rw [divided.abbreviateChars_eq_keptFor, none, (divided.cut 0).abbreviateChars_eq_keptFor,
      cutBehind_zero, cutBehind_initials]

end DividedInto

/-- A shortened name is not changed by shortening it again.  For a greater length no less is shown
of any segment of a name, and the result is not shorter. -/
theorem abbreviate_idem_mono (name : String) :
    (∀ length, abbreviate (abbreviate name length) length = abbreviate name length) ∧
    ∀ less more, less ≤ more →
      List.Forall₂ (· <+: ·) (segments (abbreviate name less).toList)
        (segments (abbreviate name more).toList) ∧
      (abbreviate name less).length ≤ (abbreviate name more).length := by
  rcases exists_dividedInto name.toList with ⟨leading, last, divided⟩
  refine ⟨fun length => ?_, fun less more le => ?_⟩
  · rw [abbreviate, abbreviate, String.toList_ofList, divided.abbreviateChars_abbreviateChars]
  · have segmentwise := cutBehind_mono (DividedInto.keptFor_mono le leading last) leading
    rw [← String.length_toList, ← String.length_toList, abbreviate, abbreviate,
      String.toList_ofList, String.toList_ofList]
    constructor
    · rw [divided.segments_abbreviateChars, divided.segments_abbreviateChars]
      exact List.rel_append segmentwise (.cons (List.prefix_refl last) .nil)
    · rw [divided.abbreviateChars_eq_keptFor, divided.abbreviateChars_eq_keptFor,
        List.length_append, List.length_append]
      exact Nat.add_le_add_right (length_dotted_mono segmentwise) _

/-- A name with an empty segment, for a length that it does not reach even fully shortened and for
one that lets it keep a segment. -/
theorem abbreviate_idem_mono_emptySegment :
    let name := "org..example.Logger"
    (abbreviate name 3 = "o..e.Logger" ∧ abbreviate (abbreviate name 3) 3 = abbreviate name 3) ∧
    abbreviate name 15 = "org..e.Logger" ∧ 3 ≤ 15 ∧
    List.Forall₂ (· <+: ·) (segments (abbreviate name 3).toList)
      (segments (abbreviate name 15).toList) ∧
    (abbreviate name 3).length ≤ (abbreviate name 15).length := by
  intro name
  rcases abbreviate_idem_mono name with ⟨again, more⟩
  have wider : 3 ≤ 15 := by decide
  exact ⟨⟨by decide, again 3⟩, by decide, wider, more 3 15 wider⟩

end LogLayout.Abbreviation
