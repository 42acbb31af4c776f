import LogLayout.Proofs.Lengths
import LogLayout.Proofs.Unescaped

namespace LogLayout

/-!
# Lengths of decorated texts

Lengths are applied to a text after it has been decorated, and they count the characters of
its sequences like all others.  So a decorated column is filled with fewer spaces than a plain
one, by as many as its sequences have characters.

A cut takes characters of the sequences first that stand on its side.  Where the end is cut
off, the reset is lost, whatever padding comes behind; where the beginning is cut off, the
sequence that selects is lost.
-/

/-! ## Padding -/

namespace Lengths

/-- The greatest length leaves a text as it is. -/
def Spares (lengths : Lengths) (text : String) : Prop :=
  ∀ limit ∈ lengths.greatest, text.length ≤ limit.natAbs

/-- A width on the same side with some characters less, or none if there are not as many. -/
def narrow (count : Nat) (width : Int) : Int :=
  if 0 ≤ width then max 0 (width - count) else min 0 (width + count)

/-- The padding of some lengths with some characters less, without a cut. -/
def narrowed (lengths : Lengths) (count : Nat) : Lengths := ⟨lengths.least.map (narrow count), none⟩

theorem natAbs_narrow (count : Nat) (width : Int) :
    (narrow count width).natAbs = width.natAbs - count := by
  unfold narrow
  split <;> omega

theorem applyChars_of_spares {lengths : Lengths} {text : String} (spares : lengths.Spares text) :
    lengths.applyChars text.toList = applyChars ⟨lengths.least, none⟩ text.toList := by
  rw [applyChars_eq, applyChars_eq, keptChars_of_le spares]
  rfl

/-- Where nothing is cut, a text is shown with spaces around it. -/
theorem exists_of_spares {lengths : Lengths} {text : String} (spares : lengths.Spares text) :
    ∃ before behind, lengths.apply text = before ++ text ++ behind ∧
      Unescaped behind.toList := by
  rw [apply, applyChars_of_spares spares]
  cases lengths.least with
  | none => exact ⟨"", "", by simp [applyChars], unescaped_nil⟩
  | some width =>
      let spaces := String.ofList (List.replicate (width.natAbs - text.toList.length) ' ')
      have unescaped : Unescaped spaces.toList := by
        rw [String.toList_ofList]
        exact unescaped_replicate _ (by decide)
      by_cases left : 0 ≤ width
      · exact ⟨spaces, "", by simp [applyChars, padChars, left, spaces], unescaped_nil⟩
      · exact ⟨"", spaces, by simp [applyChars, padChars, left, spaces], unescaped⟩

end Lengths

/-! ## Uncut columns -/

namespace Console

open Lengths (padChars narrow)

theorem Decorates.length_le {text shown : List Char} (decorates : Decorates text shown) :
    shown.length ≤ text.length := by
  induction decorates with
  | nil => exact Nat.le_refl _
  | plain ordinary rest inductionHypothesis => exact Nat.succ_le_succ inductionHypothesis
  | sequence numbers rest inductionHypothesis =>
      simp only [List.length_cons, List.length_append]
      omega

/-- The padding of a decorated text is short of the characters of its sequences. -/
theorem Decorates.padChars {text shown : List Char} (decorates : Decorates text shown)
    (width : Int) :
    Decorates (padChars width text)
      (padChars (narrow (text.length - shown.length) width) shown) := by
  have within := decorates.length_le
  have count : (narrow (text.length - shown.length) width).natAbs - shown.length =
      width.natAbs - text.length := by
    rw [Lengths.natAbs_narrow]
    omega
  have spaces : Decorates (List.replicate (width.natAbs - text.length) ' ')
      (List.replicate (width.natAbs - text.length) ' ') :=
    .of_not_mem (unescaped_replicate _ (by decide))
  unfold Lengths.padChars
  rw [count]
  dsimp only
  by_cases left : 0 ≤ width
  · have same : 0 ≤ narrow (text.length - shown.length) width := by
      unfold Lengths.narrow
      omega
    rw [if_pos left, if_pos same]
    exact spaces.append decorates
  · rw [if_neg left]
    split
    next none =>
      have zero : width.natAbs - text.length = 0 := by
        unfold Lengths.narrow at none
        omega
      rw [zero]
      simpa using decorates
    next => exact decorates.append spaces

/-- Uncut, a decorated text shows the text with a narrower padding. -/
theorem Decorates.applyChars {lengths : Lengths} {text : String} {shown : List Char}
    (decorates : Decorates text.toList shown) (spares : lengths.Spares text) :
    Decorates (lengths.applyChars text.toList)
      ((lengths.narrowed (text.length - shown.length)).applyChars shown) := by
  rw [Lengths.applyChars_of_spares spares, Lengths.narrowed]
  cases lengths.least with
  | none => exact decorates
  | some width => exact decorates.padChars width

end Console

namespace Lengths

/-- Narrower padding makes a difference exactly where there is padding. -/
theorem applyChars_narrowed_eq_iff {lengths : Lengths} {text : String}
    (spares : lengths.Spares text) {count : Nat} (positive : 0 < count) :
    (lengths.narrowed count).applyChars text.toList = lengths.applyChars text.toList ↔
      ∀ width ∈ lengths.least, width.natAbs ≤ text.length := by
  rw [applyChars_of_spares spares, narrowed]
  cases lengths.least with
  | none => simp
  | some width =>
      simp only [Option.map_some, Option.mem_def, Option.some.injEq, forall_eq']
      change padChars (narrow count width) text.toList = padChars width text.toList ↔ _
      constructor
      · intro same
        have lengths := congrArg List.length same
        rw [length_padChars, length_padChars, natAbs_narrow, String.length_toList] at lengths
        omega
      · intro wide
        rw [padChars_of_le, padChars_of_le]
        · exact wide
        · rw [natAbs_narrow]
          exact Nat.le_trans (Nat.sub_le _ _) wide

end Lengths

/-! ## Cut columns -/

section Infixes

variable {word text : List Char} {filler : Char}

/-- A word without spaces does not begin in the padding in front of a text. -/
theorem infix_of_infix_replicate_append (absent : filler ∉ word) (nonempty : word ≠ [])
    {count : Nat} (found : word <:+: List.replicate count filler ++ text) : word <:+: text := by
  induction count with
  | zero => simpa using found
  | succ count inductionHypothesis =>
      rw [List.replicate_succ, List.cons_append, List.infix_cons_iff] at found
      rcases found with front | behind
      · cases word with
        | nil => exact absurd rfl nonempty
        | cons first rest =>
            rcases List.cons_prefix_cons.mp front with ⟨same, -⟩
            exact absurd (same ▸ List.mem_cons_self) absent
      · exact inductionHypothesis behind

/-- A word without spaces does not end in the padding behind a text. -/
theorem infix_of_infix_append_replicate (absent : filler ∉ word) (nonempty : word ≠ [])
    {count : Nat} (found : word <:+: text ++ List.replicate count filler) : word <:+: text := by
  have backward : word.reverse <:+: List.replicate count filler ++ text.reverse := by
    simpa using List.reverse_infix.mpr found
  exact List.reverse_infix.mp (infix_of_infix_replicate_append (by simpa using absent)
    (by simpa using nonempty) backward)

/-- A word without spaces that is in a padded text is in the text. -/
theorem infix_of_infix_padChars {width : Int} (absent : ' ' ∉ word) (nonempty : word ≠ [])
    (found : word <:+: Lengths.padChars width text) : word <:+: text := by
  unfold Lengths.padChars at found
  dsimp only at found
  split at found
  · exact infix_of_infix_replicate_append absent nonempty found
  · exact infix_of_infix_append_replicate absent nonempty found

end Infixes

namespace Console

section Cuts

variable {chosen text : List Char}

/-- The characters of a text between a sequence with some parameters and the reset. -/
def decoratedChars (chosen text : List Char) : List Char :=
  '\x1b' :: '[' :: (chosen ++ 'm' :: (text ++ ['\x1b', '[', 'm']))

/-- An escape character of a decorated text begins one of the two sequences. -/
theorem escape_cases (numbers : ∀ character ∈ chosen, isParameter character = true)
    (unescaped : Unescaped text) {before behind : List Char}
    (divided : decoratedChars chosen text = before ++ '\x1b' :: behind) :
    (before = [] ∧ behind = '[' :: (chosen ++ 'm' :: (text ++ ['\x1b', '[', 'm']))) ∨
      behind = ['[', 'm'] := by
  have clean : Unescaped ('[' :: (chosen ++ 'm' :: text)) := by
    have parameters : Unescaped chosen := fun member => absurd (numbers _ member) (by decide)
    simp only [unescaped_cons_iff, unescaped_append_iff]
    exact ⟨by decide, parameters, by decide, unescaped⟩
  cases before with
  | nil => exact .inl ⟨rfl, ((List.cons.inj divided).2).symm⟩
  | cons first before =>
      right
      have later : ('[' :: (chosen ++ 'm' :: text)) ++ ['\x1b', '[', 'm'] =
          before ++ '\x1b' :: behind := by
        rw [decoratedChars, List.cons_append] at divided
        simpa only [List.cons_append, List.append_assoc] using (List.cons.inj divided).2
      rcases List.append_eq_append_iff.mp later with ⟨between, -, same⟩ | ⟨between, same, others⟩
      · cases between with
        | nil => exact ((List.cons.inj same).2).symm
        | cons character rest =>
            have inside : '\x1b' ∈ ['[', 'm'] := by
              rw [(List.cons.inj same).2]
              exact List.mem_append_right _ List.mem_cons_self
            exact absurd inside (by decide)
      · cases between with
        | nil => exact (List.cons.inj others).2
        | cons character rest =>
            refine absurd ?_ clean
            rw [same, (List.cons.inj others).1]
            exact List.mem_append_right _ List.mem_cons_self

theorem cons_ne_append_of_parameters (numbers : ∀ character ∈ chosen, isParameter character = true)
    (nonempty : chosen ≠ []) (rest others : List Char) : 'm' :: rest ≠ chosen ++ others := by
  intro same
  cases chosen with
  | nil => exact nonempty rfl
  | cons first later =>
      have number := numbers first List.mem_cons_self
      rw [← (List.cons.inj same).1] at number
      exact absurd number (by decide)

theorem not_infix_take (numbers : ∀ character ∈ chosen, isParameter character = true)
    (nonempty : chosen ≠ []) (unescaped : Unescaped text) {limit : Nat}
    (cuts : limit < (decoratedChars chosen text).length) :
    ¬['\x1b', '[', 'm'] <:+: (decoratedChars chosen text).take limit := by
  rintro ⟨before, behind, kept⟩
  have whole := List.take_append_drop limit (decoratedChars chosen text)
  rw [← kept, List.append_assoc, List.append_assoc] at whole
  rcases escape_cases numbers unescaped whole.symm with ⟨-, first⟩ | last
  · exact cons_ne_append_of_parameters numbers nonempty _ _ (List.cons.inj first).2
  · have nothing : (decoratedChars chosen text).drop limit = [] := by
      have rest : behind ++ (decoratedChars chosen text).drop limit = [] :=
        (List.cons.inj (List.cons.inj last).2).2
      exact (List.append_eq_nil_iff.mp rest).2
    rw [List.drop_eq_nil_iff] at nothing
    omega

/-- Without its beginning nothing is selected in a decorated text. -/
theorem not_infix_drop (numbers : ∀ character ∈ chosen, isParameter character = true)
    (nonempty : chosen ≠ []) (unescaped : Unescaped text) {count : Nat} (positive : 0 < count) :
    ¬('\x1b' :: '[' :: (chosen ++ ['m'])) <:+: (decoratedChars chosen text).drop count := by
  rintro ⟨before, behind, kept⟩
  have whole := List.take_append_drop count (decoratedChars chosen text)
  rw [← kept, ← List.append_assoc, ← List.append_assoc, List.append_assoc] at whole
  rcases escape_cases numbers unescaped whole.symm with ⟨first, -⟩ | last
  · rw [List.append_eq_nil_iff, List.take_eq_nil_iff] at first
    rcases first.1 with zero | empty
    · omega
    · cases empty
  · refine cons_ne_append_of_parameters numbers nonempty [] ('m' :: behind) ?_
    simpa using ((List.cons.inj last).2).symm

end Cuts

/-! ## Decorated columns -/

/-- What some lengths make of a decorated text. -/
structure DecoratedColumn (lengths : Lengths) (chosen text column : String) : Prop where
  /-- The lengths count the characters of both sequences. -/
  rendered : column = lengths.apply (select chosen ++ text ++ reset)
  /-- Uncut, the column holds whole sequences only, and the last of them is the reset. -/
  whole : lengths.Spares (select chosen ++ text ++ reset) →
    Decorates column.toList (visible column).toList ∧
      ∃ before behind, column = before ++ reset ++ behind ∧ Unescaped behind.toList
  /-- Uncut, the padding is short of the characters of both sequences. -/
  visible_eq : lengths.Spares (select chosen ++ text ++ reset) →
    visible column = (lengths.narrowed ((select chosen).length + reset.length)).apply text
  /-- Uncut, the column is as wide as a plain one exactly if neither needs padding. -/
  visible_eq_iff : lengths.Spares (select chosen ++ text ++ reset) →
    (visible column = lengths.apply text ↔ ∀ width ∈ lengths.least, width.natAbs ≤ text.length)
  /-- Where the end is cut off, there is no reset. -/
  unreset : ∀ limit ∈ lengths.greatest, 0 ≤ limit →
    limit.natAbs < (select chosen ++ text ++ reset).length → ¬reset.toList <:+: column.toList
  /-- Where the beginning is cut off, nothing is selected. -/
  unselected : ∀ limit ∈ lengths.greatest, limit < 0 →
    limit.natAbs < (select chosen ++ text ++ reset).length →
      ¬(select chosen).toList <:+: column.toList

theorem toList_ne_nil_of_parameters {emphasis : Option Emphasis} {color : Option Color}
    {chosen : String} (selected : parameters emphasis color = some chosen) :
    chosen.toList ≠ [] := by
  have listed : ∀ emphasis : Option Emphasis, ∀ color : Option Color,
      ∀ chosen ∈ parameters emphasis color, chosen.toList ≠ [] := by
    rintro (_ | _ | _ | _) (_ | _ | _ | _ | _ | _ | _ | _ | _) _ ⟨⟩ <;> decide
  exact listed emphasis color chosen selected

theorem toList_decorated (chosen text : String) :
    (select chosen ++ text ++ reset).toList = decoratedChars chosen.toList text.toList := by
  simp only [String.toList_append, toList_select, reset, decoratedChars, List.cons_append,
    List.append_assoc]
  rfl

theorem infix_of_infix_applyChars {word text : List Char} {lengths : Lengths} {limit : Int}
    (absent : ' ' ∉ word) (nonempty : word ≠ []) (given : lengths.greatest = some limit)
    (found : word <:+: lengths.applyChars text) : word <:+: Lengths.cutChars limit text := by
  unfold Lengths.applyChars at found
  rw [given] at found
  cases least : lengths.least with
  | none =>
      rw [least] at found
      exact found
  | some width =>
      rw [least] at found
      exact infix_of_infix_padChars absent nonempty found

theorem decoratedColumn (lengths : Lengths) {emphasis : Option Emphasis} {color : Option Color}
    {chosen text : String} (selected : parameters emphasis color = some chosen)
    (unescaped : Unescaped text.toList) :
    DecoratedColumn lengths chosen text (lengths.apply (select chosen ++ text ++ reset)) := by
  have numbers := isParameter_of_parameters selected
  have nonempty := toList_ne_nil_of_parameters selected
  have decorates : Decorates (select chosen ++ text ++ reset).toList text.toList := by
    have decorated := (Decorates.of_not_mem unescaped).decorate ⟨true⟩ color emphasis
    simpa only [decorate, if_true, selected] using decorated
  have overhead : (select chosen ++ text ++ reset).length - text.toList.length =
      (select chosen).length + reset.length := by
    simp only [String.length_append, String.length_toList]
    omega
  have shown (spares : lengths.Spares (select chosen ++ text ++ reset)) :
      Decorates (lengths.apply (select chosen ++ text ++ reset)).toList
        ((lengths.narrowed ((select chosen).length + reset.length)).apply text).toList := by
    have padded := decorates.applyChars spares
    rw [overhead] at padded
    simpa only [Lengths.apply, String.toList_ofList] using padded
  have column (spares : lengths.Spares (select chosen ++ text ++ reset)) :
      visible (lengths.apply (select chosen ++ text ++ reset)) =
        (lengths.narrowed ((select chosen).length + reset.length)).apply text := by
    rw [visible, (shown spares).visibleChars_eq, String.ofList_toList]
  have spaceless : ∀ character ∈ chosen.toList, character ≠ ' ' := by
    rintro character member rfl
    exact absurd (numbers _ member) (by decide)
  constructor
  case rendered => rfl
  case whole =>
    intro spares
    refine ⟨(column spares) ▸ shown spares, ?_⟩
    rcases Lengths.exists_of_spares spares with ⟨before, behind, padded, clean⟩
    refine ⟨before ++ select chosen ++ text, behind, ?_, clean⟩
    rw [padded]
    simp only [String.append_assoc]
  case visible_eq => exact column
  case visible_eq_iff =>
    intro spares
    have shorter : lengths.Spares text := fun limit given => by
      refine Nat.le_trans ?_ (spares limit given)
      simp only [String.length_append]
      omega
    rw [column spares, Lengths.apply, Lengths.apply, String.ofList_inj]
    refine Lengths.applyChars_narrowed_eq_iff shorter ?_
    rw [← String.length_toList, toList_select, List.length_cons]
    omega
  case unreset =>
    intro limit given front cuts found
    rw [Lengths.apply, String.toList_ofList, toList_decorated] at found
    rw [← String.length_toList, toList_decorated] at cuts
    have kept := infix_of_infix_applyChars (by decide) (by decide) given found
    rw [Lengths.cutChars, if_neg (by omega), if_pos front] at kept
    exact not_infix_take numbers nonempty unescaped cuts kept
  case unselected =>
    intro limit given back cuts found
    rw [Lengths.apply, String.toList_ofList, toList_decorated, toList_select] at found
    rw [← String.length_toList, toList_decorated] at cuts
    have kept := infix_of_infix_applyChars (by simpa using fun h => spaceless _ h rfl)
      (List.cons_ne_nil _ _) given found
    rw [Lengths.cutChars, if_neg (by omega), if_neg (by omega)] at kept
    exact not_infix_drop numbers nonempty unescaped (by omega) kept

end Console
end LogLayout
