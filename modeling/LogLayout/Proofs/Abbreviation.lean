import LogLayout.Abbreviation
import Mathlib.Algebra.Group.Int.Defs
import Mathlib.Algebra.Group.Nat.Defs
import Mathlib.Data.List.Forall2

namespace LogLayout.Abbreviation

/-!
# Shortened names

A name is its leading segments, each with a dot behind it, and the last segment.  Shortening keeps
some of the leading segments from the left whole and cuts all others to their first character, and
how many are kept depends on the budget.  What can be said of a shortened name follows from that,
and from what the kept segments may cost.
-/

/-! ## Segments -/

/-- Segments with a dot behind each. -/
def dotted (parts : List (List Char)) : List Char := parts.flatMap (· ++ ['.'])

theorem dotted_cons (part : List Char) (parts : List (List Char)) :
    dotted (part :: parts) = part ++ '.' :: dotted parts := by
  rw [dotted, List.flatMap_cons, List.append_assoc]
  rfl

theorem dotted_append (parts others : List (List Char)) :
    dotted (parts ++ others) = dotted parts ++ dotted others :=
  List.flatMap_append

theorem segments_of_undotted {part : List Char} (undotted : '.' ∉ part) :
    segments part = [part] := by
  induction part with
  | nil => rfl
  | cons character rest inductionHypothesis =>
      rw [segments, inductionHypothesis (List.not_mem_of_not_mem_cons undotted)]
      exact fun same => List.ne_of_not_mem_cons undotted same.symm

theorem segments_append {part : List Char} (undotted : '.' ∉ part) (rest : List Char) :
    segments (part ++ '.' :: rest) = part :: segments rest := by
  induction part with
  | nil => rfl
  | cons character others inductionHypothesis =>
      rw [List.cons_append, segments, inductionHypothesis (List.not_mem_of_not_mem_cons undotted)]
      exact fun same => List.ne_of_not_mem_cons undotted same.symm

/-- A name is divided at every dot into leading segments and a last one. -/
structure DividedInto (name : List Char) (leading : List (List Char)) (last : List Char) :
    Prop where
  joined : name = dotted leading ++ last
  undotted : ∀ part ∈ leading, '.' ∉ part
  undotted_last : '.' ∉ last

namespace DividedInto

variable {name last : List Char} {leading : List (List Char)}

theorem segments_eq (divided : DividedInto name leading last) :
    segments name = leading ++ [last] := by
  rcases divided with ⟨rfl, undotted, undotted_last⟩
  induction leading with
  | nil => exact segments_of_undotted undotted_last
  | cons part rest inductionHypothesis =>
      rcases List.forall_mem_cons.mp undotted with ⟨here, later⟩
      rw [dotted_cons, List.append_assoc, List.cons_append, segments_append here,
        inductionHypothesis later, List.cons_append]

end DividedInto

theorem exists_dividedInto (name : List Char) :
    ∃ leading last, DividedInto name leading last := by
  induction name with
  | nil => exact ⟨[], [], rfl, fun _ member => absurd member List.not_mem_nil, List.not_mem_nil⟩
  | cons character rest inductionHypothesis =>
      rcases inductionHypothesis with ⟨leading, last, rfl, undotted, undotted_last⟩
      by_cases dot : character = '.'
      · subst dot
        exact ⟨[] :: leading, last, by rw [dotted_cons]; rfl,
          List.forall_mem_cons.mpr ⟨List.not_mem_nil, undotted⟩, undotted_last⟩
      · have fresh {part : List Char} (clean : '.' ∉ part) : '.' ∉ character :: part :=
          List.not_mem_cons_of_ne_of_not_mem (Ne.symm dot) clean
        cases leading with
        | nil => exact ⟨[], character :: last, rfl, undotted, fresh undotted_last⟩
        | cons part others =>
            rcases List.forall_mem_cons.mp undotted with ⟨here, later⟩
            refine ⟨(character :: part) :: others, last, ?_,
              List.forall_mem_cons.mpr ⟨fresh here, later⟩, undotted_last⟩
            rw [dotted_cons, dotted_cons]
            rfl

/-! ## Which segments are kept -/

/-- How many leading segments the budget covers from the left. -/
def kept (budget : Int) : List (List Char) → Nat
  | [] => 0
  | segment :: rest =>
      if (segment.length : Int) > budget then 0
      else kept (budget - (segment.length + 1)) rest + 1

/-- Segments of which the first ones are whole, and the others cut to their first character. -/
def cutBehind (count : Nat) (leading : List (List Char)) : List (List Char) :=
  leading.take count ++ (leading.drop count).map (List.take 1)

theorem cutBehind_zero (leading : List (List Char)) :
    cutBehind 0 leading = leading.map (List.take 1) := rfl

theorem cutBehind_succ (count : Nat) (segment : List Char) (rest : List (List Char)) :
    cutBehind (count + 1) (segment :: rest) = segment :: cutBehind count rest := rfl

theorem length_cutBehind (count : Nat) (leading : List (List Char)) :
    (cutBehind count leading).length = leading.length := by
  rw [cutBehind, List.length_append, List.length_map, ← List.length_append,
    List.take_append_drop]

/-- Once nothing of the budget is left every segment is cut: one that is kept then is empty. -/
theorem shorten_of_nonpos {budget : Int} (spent : budget ≤ 0) (leading : List (List Char)) :
    shorten budget leading = dotted (leading.map (List.take 1)) := by
  induction leading generalizing budget with
  | nil => rfl
  | cons segment rest inductionHypothesis =>
      rw [List.map_cons, dotted_cons, shorten]
      split
      next => rw [inductionHypothesis (Int.le_refl 0)]
      next fits =>
        have empty : segment = [] := List.eq_nil_of_length_eq_zero (by omega)
        subst empty
        rw [inductionHypothesis (by omega)]
        rfl

/-- Shortening keeps segments as long as the budget covers them, and cuts all others. -/
theorem shorten_eq (budget : Int) (leading : List (List Char)) :
    shorten budget leading = dotted (cutBehind (kept budget leading) leading) := by
  induction leading generalizing budget with
  | nil => rfl
  | cons segment rest inductionHypothesis =>
      rw [shorten, kept]
      split
      next => rw [shorten_of_nonpos (Int.le_refl 0), cutBehind_zero, List.map_cons, dotted_cons]
      next => rw [cutBehind_succ, dotted_cons, inductionHypothesis]

/-- A leading segment is kept if the budget covers all segments up to it. -/
theorem lt_kept_iff (budget : Int) (leading : List (List Char)) (index : Nat) :
    index < kept budget leading ↔
      index < leading.length ∧
        ((dotted (leading.take (index + 1))).length : Int) ≤ budget + 1 := by
  induction leading generalizing budget index with
  | nil => exact iff_of_false (Nat.not_lt_zero index) fun both => Nat.not_lt_zero index both.1
  | cons segment rest inductionHypothesis =>
      rw [kept, List.take_succ_cons, dotted_cons, List.length_append, List.length_cons,
        List.length_cons]
      split
      next beyond =>
        refine iff_of_false (Nat.not_lt_zero index) fun both => ?_
        omega
      next fits =>
        cases index with
        | zero =>
            rw [List.take_zero]
            refine iff_of_true (Nat.zero_lt_succ _) ⟨Nat.zero_lt_succ _, ?_⟩
            simp only [dotted, List.flatMap_nil, List.length_nil]
            omega
        | succ index =>
            rw [Nat.succ_lt_succ_iff, inductionHypothesis, Nat.succ_lt_succ_iff]
            refine and_congr_right fun _ => ?_
            omega

/-- The segments that are kept cost no more than the budget and the dot of the last of them. -/
theorem length_kept_le {budget : Int} {leading : List (List Char)}
    (some : 0 < kept budget leading) :
    ((dotted (leading.take (kept budget leading))).length : Int) ≤ budget + 1 := by
  have last := ((lt_kept_iff budget leading _).mp (Nat.sub_lt some Nat.one_pos)).2
  rwa [Nat.sub_add_cancel some] at last

/-! ## Shortened names as segments -/

/-- A name with all leading segments cut. -/
def initialChars (name : List Char) : List Char :=
  dotted ((segments name).dropLast.map (List.take 1)) ++ (segments name).getLast?.getD []

/-- A name with all leading segments cut to their first character. -/
def initials (name : String) : String := String.ofList (initialChars name.toList)

namespace DividedInto

variable {name last : List Char} {leading : List (List Char)}

theorem initialChars_eq (divided : DividedInto name leading last) :
    initialChars name = dotted (cutBehind 0 leading) ++ last := by
  rw [initialChars, divided.segments_eq, List.dropLast_concat, List.getLast?_concat]
  rfl

/-- The budget for the leading segments of a name. -/
def budget (length : Nat) (leading : List (List Char)) (last : List Char) : Int :=
  length - last.length - 2 * leading.length

theorem abbreviateChars_eq (divided : DividedInto name leading last) {length : Nat}
    (long : length < name.length) :
    abbreviateChars name length =
      dotted (cutBehind (kept (budget length leading last) leading) leading) ++ last := by
  rw [abbreviateChars, if_neg (Nat.not_le.mpr long), divided.segments_eq]
  simp only [List.dropLast_concat, List.getLast?_concat, Option.getD_some, shorten_eq]
  rfl

end DividedInto

theorem getElem?_cutBehind (count : Nat) (leading : List (List Char)) (index : Nat) :
    (cutBehind count leading)[index]? =
      if index < count then leading[index]? else leading[index]?.map (List.take 1) := by
  induction leading generalizing count index with
  | nil => simp [cutBehind]
  | cons segment rest inductionHypothesis =>
      cases count with
      | zero => rw [cutBehind_zero, List.getElem?_map, if_neg (Nat.not_lt_zero index)]
      | succ count =>
          rw [cutBehind_succ]
          cases index with
          | zero => rw [if_pos (Nat.zero_lt_succ count)]; rfl
          | succ index =>
              simp only [List.getElem?_cons_succ, inductionHypothesis, Nat.succ_lt_succ_iff]

/-- The segments of a name and what a shortened name shows of them: the last one is whole, and each
of the others is whole or cut to its first character.  Behind one that is cut no other but the last
one has more than one character. -/
structure Shortens (before after : List (List Char)) : Prop where
  length_eq : after.length = before.length
  last : after.getLast? = before.getLast?
  leading : List.Forall₂ (fun whole shown => shown = whole ∨ shown = whole.take 1)
    before.dropLast after.dropLast
  behind : ∀ first later : Nat, first < later → later + 1 < after.length →
    after[first]? ≠ before[first]? → ∀ shown ∈ after[later]?, shown.length ≤ 1

theorem shortens_cutBehind (count : Nat) (leading : List (List Char)) (last : List Char) :
    Shortens (leading ++ [last]) (cutBehind count leading ++ [last]) where
  length_eq := by
    rw [List.length_append, List.length_append, length_cutBehind]
  last := by
    rw [List.getLast?_concat, List.getLast?_concat]
  leading := by
    rw [List.dropLast_concat, List.dropLast_concat]
    induction leading generalizing count with
    | nil => rw [cutBehind, List.take_nil, List.drop_nil]; exact .nil
    | cons segment rest inductionHypothesis =>
        cases count with
        | zero => exact .cons (.inr rfl) (inductionHypothesis 0)
        | succ count => exact .cons (.inl rfl) (inductionHypothesis count)
  behind := by
    intro first later before inside changed shown here
    rw [List.length_append, length_cutBehind, List.length_singleton] at inside
    have within (index : Nat) (small : index < leading.length) :
        (cutBehind count leading ++ [last])[index]? = (cutBehind count leading)[index]? :=
      List.getElem?_append_left (by rwa [length_cutBehind])
    rw [within first (by omega), List.getElem?_append_left (by omega),
      getElem?_cutBehind] at changed
    rw [within later (by omega), getElem?_cutBehind] at here
    have cut : count ≤ first := by
      by_contra covered
      exact changed (if_pos (Nat.lt_of_not_le covered))
    rw [if_neg (by omega), Option.mem_def, Option.map_eq_some_iff] at here
    rcases here with ⟨whole, -, rfl⟩
    exact List.length_take_le 1 whole

theorem undotted_cutBehind {leading : List (List Char)} (undotted : ∀ part ∈ leading, '.' ∉ part)
    (count : Nat) : ∀ part ∈ cutBehind count leading, '.' ∉ part := by
  rw [cutBehind, List.forall_mem_append, List.forall_mem_map]
  exact ⟨fun part member => undotted part (List.mem_of_mem_take member),
    fun part member dot => undotted part (List.mem_of_mem_drop member)
      (List.mem_of_mem_take dot)⟩

/-! ## Lengths of shortened names -/

theorem length_dotted_initials_le (parts : List (List Char)) :
    (dotted (parts.map (List.take 1))).length ≤ (dotted parts).length := by
  induction parts with
  | nil => exact Nat.le_refl _
  | cons part rest inductionHypothesis =>
      have shorter := List.length_take_le' 1 part
      simp only [List.map_cons, dotted_cons, List.length_append, List.length_cons]
      omega

/-- A segment that is cut takes two characters with its dot, or only the dot if it is empty. -/
theorem length_dotted_initials (parts : List (List Char)) :
    (dotted (parts.map (List.take 1))).length + parts.countP List.isEmpty = 2 * parts.length := by
  induction parts with
  | nil => rfl
  | cons part rest inductionHypothesis =>
      rw [List.map_cons, dotted_cons, List.length_append, List.length_cons, List.countP_cons,
        List.length_cons]
      cases part with
      | nil =>
          simp only [List.take_nil, List.length_nil, List.isEmpty_nil, if_true]
          omega
      | cons character others =>
          simp only [List.take_succ_cons, List.take_zero, List.length_singleton, List.isEmpty_cons,
            Bool.false_eq_true, if_false]
          omega

theorem length_cutBehind_le (count : Nat) (leading : List (List Char)) :
    (dotted (cutBehind count leading)).length ≤ (dotted leading).length := by
  have cut := length_dotted_initials_le (leading.drop count)
  have whole := congrArg (fun parts => (dotted parts).length) (List.take_append_drop count leading)
  simp only [cutBehind, dotted_append, List.length_append] at whole ⊢
  omega

/-- If segments are kept, then the two characters that are set aside for each of the others suffice
for what is left of it. -/
theorem length_shortened_le {budget : Int} {leading : List (List Char)}
    (some : 0 < kept budget leading) :
    ((dotted (cutBehind (kept budget leading) leading)).length : Int) ≤
      budget + 2 * leading.length := by
  have whole := length_kept_le some
  have cut := length_dotted_initials (leading.drop (kept budget leading))
  have each : (leading.take (kept budget leading)).length +
      (leading.drop (kept budget leading)).length = leading.length := by
    rw [← List.length_append, List.take_append_drop]
  have first : 0 < (leading.take (kept budget leading)).length := by
    cases leading with
    | nil => exact absurd some (Nat.lt_irrefl 0)
    | cons segment rest =>
        rw [List.length_take]
        exact Nat.lt_min.mpr ⟨some, Nat.zero_lt_succ _⟩
  rw [cutBehind, dotted_append, List.length_append]
  omega

/-! ## Numbers of 64 bits -/

/-- A signed number, if 64 bits can hold it. -/
def inWord (value : Int) : Option Int :=
  if -2 ^ 63 ≤ value ∧ value < 2 ^ 63 then some value else none

/-- A count as a signed number of 64 bits, which is the greatest one for all greater counts. -/
def signed (count : Nat) : Int := min count (2 ^ 63 - 1)

/-- Shortening with the budget in 64 bits; nothing is returned if a result does not fit. -/
def shortenInWords (budget : Int) : List (List Char) → Option (List Char)
  | [] => some []
  | segment :: rest =>
      if signed segment.length > budget then
        (shortenInWords 0 rest).map fun shown => segment.take 1 ++ '.' :: shown
      else do
        let cost ← inWord (signed segment.length + 1)
        let left ← inWord (budget - cost)
        (shortenInWords left rest).map fun shown => segment ++ '.' :: shown

/-- Abbreviating a name with all signed numbers in 64 bits; nothing is returned if a result does
not fit. -/
def abbreviateInWords (name : String) (length : Nat) : Option String :=
  if name.length ≤ length then some name
  else do
    let parts := segments name.toList
    let leading := parts.dropLast
    let last := parts.getLast?.getD []
    let behindLast ← inWord (signed length - signed last.length)
    let budget ← inWord (behindLast - signed (2 * leading.length))
    (shortenInWords budget leading).map fun shown => String.ofList (shown ++ last)

theorem inWord_eq {value : Int} (fits : -2 ^ 63 ≤ value ∧ value < 2 ^ 63) :
    inWord value = some value := if_pos fits

theorem signed_eq {count : Nat} (fits : count < 2 ^ 63) : signed count = count :=
  Int.min_eq_left (by omega)

theorem shortenInWords_eq {budget : Int} (fits : -2 ^ 63 ≤ budget ∧ budget < 2 ^ 63)
    {leading : List (List Char)} (short : ∀ segment ∈ leading, segment.length < 2 ^ 62) :
    shortenInWords budget leading = some (shorten budget leading) := by
  induction leading generalizing budget with
  | nil => rfl
  | cons segment rest inductionHypothesis =>
      rcases List.forall_mem_cons.mp short with ⟨here, later⟩
      rw [shortenInWords, shorten, signed_eq (by omega)]
      split
      next => rw [inductionHypothesis (by decide) later, Option.map_some]
      next covered =>
        rw [inWord_eq (by omega), Option.bind_eq_bind, Option.bind_some, inWord_eq (by omega),
          Option.bind_some, inductionHypothesis (by omega) later, Option.map_some]

/-! ## What a shortened name is -/

namespace DividedInto

variable {name last : List Char} {leading : List (List Char)}

theorem length_eq (divided : DividedInto name leading last) :
    name.length = (dotted leading).length + last.length := by
  rw [divided.joined, List.length_append]

theorem length_leading_le (divided : DividedInto name leading last) :
    leading.length + last.length ≤ name.length := by
  have dots : leading.length ≤ (dotted leading).length := by
    clear divided
    induction leading with
    | nil => exact Nat.le_refl _
    | cons part rest inductionHypothesis =>
        rw [dotted_cons, List.length_append, List.length_cons, List.length_cons]
        omega
  rw [divided.length_eq]
  omega

theorem length_segment_le (divided : DividedInto name leading last) :
    ∀ part ∈ leading, part.length ≤ name.length := by
  intro part member
  rcases List.append_of_mem member with ⟨front, behind, rfl⟩
  rw [divided.length_eq, dotted_append, dotted_cons, List.length_append, List.length_append]
  omega

theorem shortens (divided : DividedInto name leading last) {length : Nat}
    (long : length < name.length) :
    Shortens (segments name) (segments (abbreviateChars name length)) := by
  rw [divided.abbreviateChars_eq long, divided.segments_eq,
    segments_eq ⟨rfl, undotted_cutBehind divided.undotted _, divided.undotted_last⟩]
  exact shortens_cutBehind _ leading last

theorem length_abbreviateChars_le (divided : DividedInto name leading last) (length : Nat) :
    (abbreviateChars name length).length ≤ name.length := by
  by_cases fits : name.length ≤ length
  · exact Nat.le_of_eq (congrArg List.length (abbreviateChars_of_length_le fits))
  · rw [divided.abbreviateChars_eq (Nat.lt_of_not_le fits), divided.length_eq, List.length_append]
    exact Nat.add_le_add_right (length_cutBehind_le _ leading) _

/-- Where the budget keeps a segment, the name gets short enough; else it is fully shortened. -/
theorem length_abbreviateChars_le_of_initials (divided : DividedInto name leading last)
    {length : Nat} (fits : (initialChars name).length ≤ length) :
    (abbreviateChars name length).length ≤ length := by
  by_cases short : name.length ≤ length
  · rw [abbreviateChars_of_length_le short]
    exact short
  · rw [divided.abbreviateChars_eq (Nat.lt_of_not_le short), List.length_append]
    rcases Nat.eq_zero_or_pos (kept (budget length leading last) leading) with none | some
    · rwa [none, ← List.length_append, ← divided.initialChars_eq]
    · have shortened := length_shortened_le some
      unfold budget at shortened ⊢
      omega

end DividedInto

theorem abbreviateInWords_eq {name : String} (short : name.length < 2 ^ 62) (length : Nat) :
    abbreviateInWords name length = some (abbreviate name length) := by
  rw [← String.length_toList] at short
  unfold abbreviateInWords abbreviate abbreviateChars
  rw [← String.length_toList]
  split
  next => rw [String.ofList_toList]
  next long =>
    rcases exists_dividedInto name.toList with ⟨leading, last, divided⟩
    have parts := divided.length_leading_le
    have each (segment : List Char) (member : segment ∈ leading) : segment.length < 2 ^ 62 :=
      Nat.lt_of_le_of_lt (divided.length_segment_le segment member) short
    simp only [divided.segments_eq, List.dropLast_concat, List.getLast?_concat, Option.getD_some]
    rw [signed_eq (by omega), signed_eq (by omega), inWord_eq (by omega), Option.bind_eq_bind,
      Option.bind_some, signed_eq (by omega), inWord_eq (by omega), Option.bind_some]
    push_cast
    rw [shortenInWords_eq (by omega) each, Option.map_some]

/-- A name of no more characters than asked for is not shortened.  A longer one keeps its number of
segments and the last of them, and each other one is whole or cut to its first character; behind
one that is cut all others have at most one character.  A shortened name is never longer than the
name, and it has no more characters than asked for whenever the name with all its leading segments
cut has not.

Nothing on the way leaves 64 bits, for all names that a machine has the memory to hold. -/
theorem abbreviate_shape (name : String) (length : Nat) :
    (name.length ≤ length → abbreviate name length = name) ∧
    (length < name.length →
      Shortens (segments name.toList) (segments (abbreviate name length).toList)) ∧
    (abbreviate name length).length ≤ name.length ∧
    ((initials name).length ≤ length → (abbreviate name length).length ≤ length) ∧
    (name.length < 2 ^ 62 →
      abbreviateInWords name length = some (abbreviate name length)) := by
  rcases exists_dividedInto name.toList with ⟨leading, last, divided⟩
  have shown : (abbreviate name length).toList = abbreviateChars name.toList length :=
    String.toList_ofList
  rw [← String.length_toList (s := abbreviate name length), shown, ← String.length_toList]
  refine ⟨fun fits => ?_, divided.shortens, divided.length_abbreviateChars_le length, ?_, ?_⟩
  · rw [abbreviate, abbreviateChars_of_length_le fits, String.ofList_toList]
  · rw [initials, String.length_ofList]
    exact divided.length_abbreviateChars_le_of_initials
  · exact fun short => abbreviateInWords_eq short length

/-- The budget covers the first segment and is then charged for an empty one, which is cut. -/
theorem abbreviate_shape_emptySegment :
    let name := "org..example.Logger"
    (name.length ≤ 19 ∧ abbreviate name 19 = name) ∧
    (15 < name.length ∧ abbreviate name 15 = "org..e.Logger" ∧
      Shortens (segments name.toList) (segments (abbreviate name 15).toList)) ∧
    (initials name = "o..e.Logger" ∧ (initials name).length ≤ 15 ∧
      (abbreviate name 15).length ≤ 15) ∧
    name.length < 2 ^ 62 ∧ abbreviateInWords name 15 = some (abbreviate name 15) := by
  intro name
  have fits : name.length ≤ 19 := by decide
  have long : 15 < name.length := by decide
  have initial : initials name = "o..e.Logger" := by decide
  have short : (initials name).length ≤ 15 := by rw [initial]; decide
  have held : name.length < 2 ^ 62 := by decide
  rcases abbreviate_shape name 15 with ⟨-, shortened, -, bounded, words⟩
  exact ⟨⟨fits, (abbreviate_shape name 19).1 fits⟩, ⟨long, by decide, shortened long⟩,
    ⟨initial, short, bounded short⟩, held, words held⟩

end LogLayout.Abbreviation
