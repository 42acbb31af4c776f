import LogLayout.Proofs.Abbreviation.Comparing
import Mathlib.Data.List.TakeDrop
import Mathlib.Order.Bounds.Defs

namespace LogLayout.Abbreviation

/-!
# How many segments a shortened name keeps

Two characters are set aside for each leading segment, for its first character and its dot.  They
are not given back for a segment that is kept whole, which pays for all its characters and its dot
once more.  Nor does an empty segment, which has no first character, give one of them back.

So a shortened name can have room for a segment that it does not keep.  A segment is only kept if
the name with it has almost that many characters to spare: one less than are set aside without
need.  The main statement says this exactly, and in which cases no more segments would have fitted.
-/

/-! ## Segments that are shown whole -/

/-- How many segments from the left are shown as they are. -/
def agreeing : List (List Char) → List (List Char) → Nat
  | whole :: rest, shown :: others => if shown = whole then agreeing rest others + 1 else 0
  | _, _ => 0

/-- How many of its leading segments a shortened name shows whole, from the left up to the first
one that is cut. -/
def keptWhole (name : String) (length : Nat) : Nat :=
  agreeing (segments name.toList).dropLast (segments (abbreviate name length).toList).dropLast

theorem le_agreeing_iff {whole shown : List (List Char)} {count : Nat} :
    count ≤ agreeing whole shown ↔
      count ≤ whole.length ∧ ∀ index < count, shown[index]? = whole[index]? := by
  induction whole generalizing shown count with
  | nil =>
      have none : agreeing [] shown = 0 := by rw [agreeing]; simp
      rw [none, List.length_nil]
      refine ⟨fun zero => ⟨zero, fun index before => ?_⟩, And.left⟩
      omega
  | cons segment rest inductionHypothesis =>
      cases count with
      | zero => exact iff_of_true (Nat.zero_le _) ⟨Nat.zero_le _, fun _ => nofun⟩
      | succ count =>
          cases shown with
          | nil =>
              refine iff_of_false (Nat.not_succ_le_zero count) fun both => ?_
              cases both.2 0 (Nat.zero_lt_succ count)
          | cons first others =>
              rw [agreeing]
              by_cases same : first = segment
              · rw [if_pos same, Nat.succ_le_succ_iff, inductionHypothesis, same, List.length_cons,
                  Nat.succ_le_succ_iff, Nat.forall_lt_succ_left]
                simp only [List.getElem?_cons_zero, List.getElem?_cons_succ, true_and]
              · rw [if_neg same]
                refine iff_of_false (Nat.not_succ_le_zero count) fun both => same ?_
                exact Option.some.inj (both.2 0 (Nat.zero_lt_succ count))

/-- Segments that are cut but shown whole, as they are short, may just as well be kept. -/
theorem cutBehind_agreeing (count : Nat) (leading : List (List Char)) :
    cutBehind (agreeing leading (cutBehind count leading)) leading = cutBehind count leading := by
  induction leading generalizing count with
  | nil => rw [cutBehind_nil, cutBehind_nil]
  | cons segment rest inductionHypothesis =>
      cases count with
      | zero =>
          rw [cutBehind_zero, List.map_cons, agreeing]
          split
          next same => rw [cutBehind_succ, ← cutBehind_zero rest, inductionHypothesis, same]
          next => rfl
      | succ count =>
          rw [cutBehind_succ, agreeing, if_pos rfl, cutBehind_succ, inductionHypothesis]

theorem getElem?_cutBehind_eq_iff (count : Nat) (leading : List (List Char)) (index : Nat) :
    (cutBehind count leading)[index]? = leading[index]? ↔
      ∀ segment ∈ leading[index]?, 1 < segment.length → index < count := by
  rw [getElem?_cutBehind]
  split
  next kept => exact iff_of_true rfl fun _ _ _ => kept
  next cut =>
    cases leading[index]? with
    | none => exact iff_of_true rfl nofun
    | some segment =>
        simp only [Option.map_some, Option.some.injEq, List.take_eq_self_iff, Option.mem_def,
          forall_eq', cut, imp_false, Nat.not_lt]

/-! ## What is set aside -/

/-- A name with its first `count` leading segments whole and the others cut. -/
def keepFirst (count : Nat) (name : String) : String :=
  String.ofList (dotted (cutBehind count (segments name.toList).dropLast) ++
    (segments name.toList).getLast?.getD [])

/-- The characters that are set aside without need if the first `count` leading segments are whole:
two for each of them, and one for each empty segment among the others. -/
def unneeded (count : Nat) (name : String) : Nat :=
  2 * count + ((segments name.toList).dropLast.drop count).countP List.isEmpty

/-- So many leading segments are there, and with that many of them whole the name has no more
characters than asked for. -/
def Fits (name : String) (length count : Nat) : Prop :=
  count < (segments name.toList).length ∧ (keepFirst count name).length ≤ length

/-- So many leading segments are there, and those among them that can be cut have almost as many
characters to spare as are set aside without need. -/
def Covered (name : String) (length count : Nat) : Prop :=
  count < (segments name.toList).length ∧
    ∀ index < count, ∀ segment ∈ (segments name.toList)[index]?, 1 < segment.length →
      (keepFirst (index + 1) name).length + unneeded (index + 1) name ≤ length + 1

namespace DividedInto

variable {name : String} {leading : List (List Char)} {last : List Char}

theorem keepFirst_eq (divided : DividedInto name.toList leading last) (count : Nat) :
    keepFirst count name = String.ofList (dotted (cutBehind count leading) ++ last) := by
  rw [keepFirst, divided.segments_eq, List.dropLast_concat, List.getLast?_concat,
    Option.getD_some]

theorem length_keepFirst (divided : DividedInto name.toList leading last) (count : Nat) :
    (keepFirst count name).length = (dotted (cutBehind count leading)).length + last.length := by
  rw [divided.keepFirst_eq, String.length_ofList, List.length_append]

/-- With the characters that are not needed, each leading segment takes two besides those of the
segments that are whole. -/
theorem length_keepFirst_add (divided : DividedInto name.toList leading last) {count : Nat}
    (there : count ≤ leading.length) :
    (keepFirst count name).length + unneeded count name =
      (dotted (leading.take count)).length + 2 * leading.length + last.length := by
  have cut := length_dotted_initials (leading.drop count)
  rw [List.length_drop] at cut
  rw [divided.length_keepFirst, unneeded, divided.segments_eq, List.dropLast_concat, cutBehind,
    dotted_append, List.length_append]
  omega

theorem keptWhole_eq (divided : DividedInto name.toList leading last) (length : Nat) :
    keptWhole name length =
      agreeing leading (cutBehind (keptFor length leading last) leading) := by
  rw [keptWhole, abbreviate, String.toList_ofList, divided.segments_abbreviateChars,
    divided.segments_eq, List.dropLast_concat, List.dropLast_concat]

theorem abbreviate_eq_keepFirst (divided : DividedInto name.toList leading last)
    (length : Nat) : abbreviate name length = keepFirst (keptWhole name length) name := by
  rw [divided.keepFirst_eq, divided.keptWhole_eq, cutBehind_agreeing, abbreviate,
    divided.abbreviateChars_eq_keptFor]

theorem keptWhole_lt (divided : DividedInto name.toList leading last) (length : Nat) :
    keptWhole name length < (segments name.toList).length := by
  have there := (le_agreeing_iff.mp (Nat.le_of_eq (divided.keptWhole_eq length))).1
  rw [divided.segments_eq, List.length_append, List.length_singleton]
  exact Nat.lt_succ_of_le there

theorem keptWhole_of_length_le (divided : DividedInto name.toList leading last) {length : Nat}
    (fits : name.length ≤ length) : keptWhole name length + 1 = (segments name.toList).length := by
  have whole : agreeing leading leading = leading.length := by
    have all : leading.length ≤ agreeing leading leading :=
      le_agreeing_iff.mpr ⟨Nat.le_refl leading.length, fun _ _ => rfl⟩
    exact Nat.le_antisymm (le_agreeing_iff.mp (Nat.le_refl _)).1 all
  rw [← String.length_toList, divided.length_eq] at fits
  rw [divided.keptWhole_eq, keptFor, if_pos fits, cutBehind_length, whole, divided.segments_eq,
    List.length_append, List.length_singleton]

/-- Of a name that is shortened, exactly the segments that are covered are shown whole. -/
theorem le_keptWhole_iff (divided : DividedInto name.toList leading last) {length : Nat}
    (long : length < name.length) (count : Nat) :
    count ≤ keptWhole name length ↔ Covered name length count := by
  have keptFor_eq : keptFor length leading last = kept (budget length leading last) leading := by
    rw [← String.length_toList, divided.length_eq] at long
    rw [keptFor, if_neg (Nat.not_le.mpr long)]
  rw [divided.keptWhole_eq, le_agreeing_iff, keptFor_eq, Covered, divided.segments_eq,
    List.length_append, List.length_singleton, Nat.lt_succ_iff]
  refine and_congr_right fun there => forall₂_congr fun index before => ?_
  have inside : index + 1 ≤ leading.length := Nat.le_trans before there
  have characters := divided.length_keepFirst_add inside
  rw [getElem?_cutBehind_eq_iff, List.getElem?_append_left inside]
  refine forall₂_congr fun segment _ => imp_congr_right fun _ => ?_
  rw [lt_kept_iff, characters, budget]
  constructor
  · intro covered
    omega
  · intro spared
    exact ⟨inside, by omega⟩

/-- With fewer segments whole a name fits all the more. -/
theorem fits_of_le (divided : DividedInto name.toList leading last) {length fewer more : Nat}
    (le : fewer ≤ more) (fits : Fits name length more) : Fits name length fewer := by
  have shorter := length_dotted_mono (cutBehind_mono le leading)
  rcases fits with ⟨there, short⟩
  rw [divided.length_keepFirst] at short
  refine ⟨Nat.lt_of_le_of_lt le there, ?_⟩
  rw [divided.length_keepFirst]
  omega

theorem fits_keptWhole (divided : DividedInto name.toList leading last) {length : Nat}
    (short : (initials name).length ≤ length) : Fits name length (keptWhole name length) := by
  refine ⟨divided.keptWhole_lt length, ?_⟩
  rw [initials, String.length_ofList] at short
  rw [← divided.abbreviate_eq_keepFirst, abbreviate, String.length_ofList]
  exact divided.length_abbreviateChars_le_of_initials short

/-- As many segments are kept as fit, if no further one fits. -/
theorem isGreatest_fits_iff (divided : DividedInto name.toList leading last) {length : Nat}
    (short : (initials name).length ≤ length) :
    IsGreatest {count | Fits name length count} (keptWhole name length) ↔
      ¬Fits name length (keptWhole name length + 1) := by
  constructor
  · intro greatest fits
    exact Nat.not_succ_le_self _ (greatest.2 fits)
  · intro full
    refine ⟨divided.fits_keptWhole short, fun count fits => ?_⟩
    by_contra more
    exact full (divided.fits_of_le (Nat.lt_of_not_le more) fits)

end DividedInto

/-- A shortened name is the name with some of its leading segments whole from the left, and all of
them are if it need not be shortened.  Otherwise as many are whole as are covered, where a segment
is covered if all characters but one that are set aside without need are to spare.

If the fully shortened name fits, so does the shortened one.  Then it keeps as many segments as fit
exactly if the next one does not fit, which may well be false. -/
theorem abbreviate_keeps (name : String) (length : Nat) :
    abbreviate name length = keepFirst (keptWhole name length) name ∧
    (name.length ≤ length → keptWhole name length + 1 = (segments name.toList).length) ∧
    (length < name.length →
      IsGreatest {count | Covered name length count} (keptWhole name length)) ∧
    ((initials name).length ≤ length →
      Fits name length (keptWhole name length) ∧
      (IsGreatest {count | Fits name length count} (keptWhole name length) ↔
        ¬Fits name length (keptWhole name length + 1))) := by
  rcases exists_dividedInto name.toList with ⟨leading, last, divided⟩
  refine ⟨divided.abbreviate_eq_keepFirst length, divided.keptWhole_of_length_le, fun long => ?_,
    fun short => ⟨divided.fits_keptWhole short, divided.isGreatest_fits_iff short⟩⟩
  have exactly := divided.le_keptWhole_iff long
  exact ⟨(exactly _).mp (Nat.le_refl _), fun count covered => (exactly count).mpr covered⟩

/-- The empty segment is shown whole though the budget does not cover it. -/
theorem abbreviate_keeps_emptySegment :
    let name := "org..example.Logger"
    (name.length ≤ 19 ∧ keptWhole name 19 + 1 = (segments name.toList).length) ∧
    (15 < name.length ∧ keptWhole name 15 = 2 ∧ abbreviate name 15 = keepFirst 2 name ∧
      IsGreatest {count | Covered name 15 count} 2) ∧
    (initials name).length ≤ 15 ∧ ¬Fits name 15 3 ∧ IsGreatest {count | Fits name 15 count} 2 := by
  intro name
  have fits : name.length ≤ 19 := by decide
  have long : 15 < name.length := by decide
  have short : (initials name).length ≤ 15 := by decide
  have two : keptWhole name 15 = 2 := by decide
  have full : ¬Fits name 15 3 := fun third => absurd third.2 (by decide)
  rcases abbreviate_keeps name 15 with ⟨shown, -, covered, fitting⟩
  rw [two] at shown covered fitting
  exact ⟨⟨fits, (abbreviate_keeps name 19).2.1 fits⟩, ⟨long, two, shown, covered long⟩, short,
    full, (fitting short).2.mpr full⟩

/-- Twelve characters have room for the first segment, which is cut all the same. -/
theorem keptWhole_not_greatest :
    let name := "org.example.Logger"
    (initials name).length ≤ 12 ∧ abbreviate name 12 = "o.e.Logger" ∧ keptWhole name 12 = 0 ∧
    keepFirst 1 name = "org.e.Logger" ∧ Fits name 12 1 ∧
    ¬IsGreatest {count | Fits name 12 count} (keptWhole name 12) := by
  intro name
  have none : keptWhole name 12 = 0 := by decide
  have first : Fits name 12 1 := ⟨by decide, by decide⟩
  refine ⟨by decide, by decide, none, by decide, first, fun greatest => ?_⟩
  rw [none] at greatest
  exact Nat.not_succ_le_zero 0 (greatest.2 first)

end LogLayout.Abbreviation
