import LogLayout.Proofs.Text.Decimal
import LogLayout.Proofs.Text.Runs
import LogLayout.Time.Zone
import Mathlib.Data.List.Basic

namespace LogLayout.Time

/-!
# Zones as they are written

A zone is written as a name of the machine's zone or of universal time, as an offset, or as the
name of a region, and it is looked for in this order.  `Zone.Names` says this of a text without
blanks around it, and reading a zone comes to the same: it takes just the texts that name a zone,
and any other one is given back in the error.
-/

namespace Zone

/-! ## What texts name -/

/-- The name with its ASCII letters in lower case. -/
def lowered (name : String) : String := String.ofList (name.toList.map Char.toLower)

def machineNames : List String := ["", "local", "system"]

def universalNames : List String := ["utc", "gmt", "z"]

/-- A text writes hours and minutes: one or two digits of hours, two digits of each, or any number
of digits of each with a colon between them. -/
inductive WritesSize : List Char → Nat → Nat → Prop where
  | hours {digits : List Char} (decimal : ∀ digit ∈ digits, digit.isDigit = true)
    (few : digits.length = 1 ∨ digits.length = 2) :
    WritesSize digits (Nat.ofDigitChars 10 digits 0) 0
  | packed {hours minutes : List Char} (decimal : ∀ digit ∈ hours ++ minutes, digit.isDigit = true)
    (two : hours.length = 2 ∧ minutes.length = 2) :
    WritesSize (hours ++ minutes) (Nat.ofDigitChars 10 hours 0) (Nat.ofDigitChars 10 minutes 0)
  | separated {hours minutes : List Char}
    (decimal : ∀ digit ∈ hours ++ minutes, digit.isDigit = true)
    (some : hours ≠ [] ∧ minutes ≠ []) :
    WritesSize (hours ++ ':' :: minutes) (Nat.ofDigitChars 10 hours 0)
      (Nat.ofDigitChars 10 minutes 0)

def signs : List (Char × Int) := [('+', 1), ('-', -1)]

/-- A text writes an offset in seconds east: a sign with hours and minutes behind it, and possibly
`UTC` or `GMT` in front. -/
inductive WritesFixed : List Char → Int → Prop where
  | signed {heading digits : List Char} {sign : Char} {direction : Int} {hours minutes : Nat}
    (headed : heading ∈ [[], ['U', 'T', 'C'], ['G', 'M', 'T']])
    (sides : (sign, direction) ∈ signs) (size : WritesSize digits hours minutes)
    (hours_le : hours ≤ 18) (minutes_le : minutes ≤ 59) :
    WritesFixed (heading ++ sign :: digits) (direction * (hours * 3600 + minutes * 60))

/-- What a text without blanks around it names. -/
inductive Names (name : String) : Zone → Prop where
  | machine (listed : lowered name ∈ machineNames) : Names name machine
  | universal (listed : lowered name ∈ universalNames) : Names name (fixed 0)
  | fixed {seconds : Int} (offset : WritesFixed name.toList seconds) : Names name (fixed seconds)
  | region {found : Region} (unlisted : lowered name ∉ machineNames ++ universalNames)
    (noOffset : ∀ seconds, ¬ WritesFixed name.toList seconds)
    (known : Region.ofName? name = some found) : Names name (region found)

/-! ## Reading hours and minutes -/

theorem isDigit_of_readPart? {digits : List Char} {greatest value : Int}
    (unsigned : ∀ character ∈ digits, character ≠ '+' ∧ character ≠ '-')
    (read : readPart? digits greatest = some value) :
    digits ≠ [] ∧ ∀ digit ∈ digits, digit.isDigit = true := by
  unfold readPart? at read
  split at read
  next => cases read
  next parsed number =>
    unfold Text.parseInt32Chars at number
    split at number
    · cases number
    · cases number
    · cases number
    · exact absurd rfl (unsigned '+' List.mem_cons_self).1
    · exact absurd rfl (unsigned '-' List.mem_cons_self).2
    next nonempty _ _ _ _ => exact ⟨nonempty, Text.isDigit_of_signedDigits number⟩

/-- Digits are read as a part of an offset exactly if their number is not too great. -/
theorem readPart?_digits {digits : List Char} {greatest value : Int} (nonempty : digits ≠ [])
    (decimal : ∀ digit ∈ digits, digit.isDigit = true) (small : greatest ≤ Text.greatestInt32) :
    readPart? digits greatest = some value ↔
      (Nat.ofDigitChars 10 digits 0 : Int) ≤ greatest ∧
        value = (Nat.ofDigitChars 10 digits 0 : Int) := by
  rw [readPart?, Text.parseInt32Chars_digits nonempty decimal]
  by_cases within : (Nat.ofDigitChars 10 digits 0 : Int) ≤ Text.greatestInt32
  · simp only [if_pos within, Option.ite_none_right_eq_some, Option.some_inj]
    exact and_congr_right' eq_comm
  · simp only [if_neg within, reduceCtorEq, false_iff, not_and]
    omega

theorem cutAtColon_append {before : List Char} (uncut : ':' ∉ before) (behind : List Char) :
    cutAtColon (before ++ ':' :: behind) = some (before, behind) := by
  induction before with
  | nil => rfl
  | cons character rest inductionHypothesis =>
      rw [List.cons_append, cutAtColon.eq_3 _ _ fun same => List.ne_of_not_mem_cons uncut same.symm,
        inductionHypothesis (List.not_mem_of_not_mem_cons uncut)]
      rfl

theorem cutAtColon_eq_none {digits : List Char} (uncut : ':' ∉ digits) :
    cutAtColon digits = none := by
  induction digits with
  | nil => rfl
  | cons character rest inductionHypothesis =>
      rw [cutAtColon.eq_3 _ _ fun same => List.ne_of_not_mem_cons uncut same.symm,
        inductionHypothesis (List.not_mem_of_not_mem_cons uncut)]
      rfl

theorem eq_of_cutAtColon {digits before behind : List Char}
    (cut : cutAtColon digits = some (before, behind)) : digits = before ++ ':' :: behind := by
  fun_induction cutAtColon digits generalizing before with
  | case1 => cases cut
  | case2 rest =>
      cases cut
      rfl
  | case3 character rest _ inductionHypothesis =>
      obtain ⟨⟨shorter, others⟩, found, same⟩ := Option.map_eq_some_iff.mp cut
      cases same
      rw [inductionHypothesis found, List.cons_append]

theorem colon_not_mem {digits : List Char} (decimal : ∀ digit ∈ digits, digit.isDigit = true) :
    ':' ∉ digits := fun member => absurd (decimal ':' member) (by decide)

theorem mem_of_cutOffset {digits hours minutes : List Char}
    (cut : cutOffset digits = some (hours, minutes)) {character : Char}
    (member : character ∈ hours ++ minutes) : character ∈ '0' :: digits := by
  unfold cutOffset at cut
  split at cut
  next colon =>
    cases cut
    rw [eq_of_cutAtColon colon]
    rcases List.mem_append.mp member with before | behind
    · exact List.mem_cons_of_mem _ (List.mem_append_left _ before)
    · exact List.mem_cons_of_mem _ (List.mem_append_right _ (List.mem_cons_of_mem _ behind))
  next =>
    split at cut
    · cases cut
      rcases List.mem_append.mp member with before | zero
      · exact List.mem_cons_of_mem _ before
      · exact List.mem_singleton.mp zero ▸ List.mem_cons_self
    · split at cut
      · cases cut
        rw [List.take_append_drop] at member
        exact List.mem_cons_of_mem _ member
      · cases cut

/-- The digits of hours and those of minutes, of which neither is empty. -/
structure Digits (hours minutes : List Char) : Prop where
  hours_ne : hours ≠ []
  minutes_ne : minutes ≠ []
  hours_decimal : ∀ digit ∈ hours, digit.isDigit = true
  minutes_decimal : ∀ digit ∈ minutes, digit.isDigit = true

/-- What writes hours and minutes is cut into the digits of both, where a zero stands for minutes
that are not written. -/
theorem WritesSize.exists_cut {digits : List Char} {hours minutes : Nat}
    (size : WritesSize digits hours minutes) :
    (∀ character ∈ digits, character.isDigit = true ∨ character = ':') ∧
      ∃ first second, cutOffset digits = some (first, second) ∧ Digits first second ∧
        hours = Nat.ofDigitChars 10 first 0 ∧ minutes = Nat.ofDigitChars 10 second 0 := by
  cases size with
  | hours decimal few =>
      refine ⟨fun character member => .inl (decimal character member), digits, ['0'], ?_,
        ⟨?_, List.cons_ne_nil _ _, decimal, List.forall_mem_singleton.mpr rfl⟩, rfl, rfl⟩
      · rw [cutOffset, cutAtColon_eq_none (colon_not_mem decimal)]
        exact if_pos (by omega)
      · rintro rfl
        exact absurd few (by decide)
  | @packed hours minutes decimal two =>
      rcases two with ⟨twoHours, twoMinutes⟩
      rcases List.forall_mem_append.mp decimal with ⟨hoursDecimal, minutesDecimal⟩
      refine ⟨fun character member => .inl (decimal character member), hours, minutes, ?_,
        ⟨?_, ?_, hoursDecimal, minutesDecimal⟩, rfl, rfl⟩
      · have four : (hours ++ minutes).length = 4 := by
          rw [List.length_append, twoHours, twoMinutes]
        rw [cutOffset, cutAtColon_eq_none (colon_not_mem decimal), ← twoHours]
        simp only [List.take_left, List.drop_left]
        rw [twoHours, if_neg (by omega), if_pos four]
      · rintro rfl
        cases twoHours
      · rintro rfl
        cases twoMinutes
  | @separated hours minutes decimal some =>
      rcases List.forall_mem_append.mp decimal with ⟨hoursDecimal, minutesDecimal⟩
      refine ⟨?_, hours, minutes, ?_, ⟨some.1, some.2, hoursDecimal, minutesDecimal⟩, rfl, rfl⟩
      · rw [List.forall_mem_append, List.forall_mem_cons]
        exact ⟨fun _ member => .inl (hoursDecimal _ member), .inr rfl,
          fun _ member => .inl (minutesDecimal _ member)⟩
      · rw [cutOffset, cutAtColon_append (colon_not_mem hoursDecimal)]

theorem writesSize_of_cut {digits first second : List Char}
    (cut : cutOffset digits = some (first, second)) (both : Digits first second) :
    WritesSize digits (Nat.ofDigitChars 10 first 0) (Nat.ofDigitChars 10 second 0) := by
  have decimal : ∀ digit ∈ first ++ second, digit.isDigit = true :=
    List.forall_mem_append.mpr ⟨both.hours_decimal, both.minutes_decimal⟩
  unfold cutOffset at cut
  split at cut
  next colon =>
    cases cut
    rw [eq_of_cutAtColon colon]
    exact .separated decimal ⟨both.hours_ne, both.minutes_ne⟩
  next =>
    split at cut
    next few =>
      cases cut
      have some := List.length_pos_iff.mpr both.hours_ne
      exact .hours both.hours_decimal (by omega)
    next =>
      split at cut
      next four =>
        cases cut
        have whole := List.take_append_drop 2 digits
        have size := WritesSize.packed decimal
          ⟨by rw [List.length_take, four]; rfl, by rw [List.length_drop, four]⟩
        rwa [whole] at size
      next => cases cut

/-- The size of an offset is read exactly if hours and minutes are written that are not too
great. -/
theorem readOffsetSize?_eq_some_iff {digits : List Char} {size : Int} :
    readOffsetSize? digits = some size ↔
      ∃ hours minutes : Nat, WritesSize digits hours minutes ∧ hours ≤ 18 ∧ minutes ≤ 59 ∧
        size = hours * 3600 + minutes * 60 := by
  constructor
  · intro read
    unfold readOffsetSize? at read
    split at read
    next plain =>
      obtain ⟨⟨first, second⟩, cut, read⟩ := Option.bind_eq_some_iff.mp read
      obtain ⟨hour, hourRead, read⟩ := Option.bind_eq_some_iff.mp read
      obtain ⟨minute, minuteRead, read⟩ := Option.bind_eq_some_iff.mp read
      cases read
      have unsigned : ∀ character ∈ first ++ second, character ≠ '+' ∧ character ≠ '-' := by
        intro character member
        have plain' : ∀ character ∈ '0' :: digits, character ≠ '+' ∧ character ≠ '-' := by
          refine List.forall_mem_cons.mpr ⟨by decide, fun character inside => ?_⟩
          have listed := List.all_eq_true.mp plain character inside
          constructor <;> rintro rfl <;> exact absurd listed (by decide)
        exact plain' character (mem_of_cutOffset cut member)
      rcases List.forall_mem_append.mp unsigned with ⟨hoursUnsigned, minutesUnsigned⟩
      rcases isDigit_of_readPart? hoursUnsigned hourRead with ⟨hours_ne, hoursDecimal⟩
      rcases isDigit_of_readPart? minutesUnsigned minuteRead with ⟨minutes_ne, minutesDecimal⟩
      have both : Digits first second := ⟨hours_ne, minutes_ne, hoursDecimal, minutesDecimal⟩
      rw [readPart?_digits both.hours_ne both.hours_decimal (by decide)] at hourRead
      rw [readPart?_digits both.minutes_ne both.minutes_decimal (by decide)] at minuteRead
      rcases hourRead with ⟨hours_le, rfl⟩
      rcases minuteRead with ⟨minutes_le, rfl⟩
      exact ⟨_, _, writesSize_of_cut cut both, by omega, by omega, rfl⟩
    next => cases read
  · rintro ⟨hours, minutes, size, hours_le, minutes_le, rfl⟩
    rcases size.exists_cut with ⟨plain, first, second, cut, both, rfl, rfl⟩
    have all : digits.all (fun character => character.isDigit || character == ':') = true := by
      simpa using plain
    have hourRead : readPart? first 18 = some (Nat.ofDigitChars 10 first 0 : Int) :=
      (readPart?_digits both.hours_ne both.hours_decimal (by decide)).mpr ⟨by omega, rfl⟩
    have minuteRead : readPart? second 59 = some (Nat.ofDigitChars 10 second 0 : Int) :=
      (readPart?_digits both.minutes_ne both.minutes_decimal (by decide)).mpr ⟨by omega, rfl⟩
    rw [readOffsetSize?, if_pos all, cut, Option.bind_eq_bind, Option.bind_some]
    dsimp only
    rw [hourRead, Option.bind_eq_bind, Option.bind_some, minuteRead]
    rfl

/-! ## Reading offsets -/

theorem readOffset?_eq_some_iff {text : List Char} {seconds : Int} :
    readOffset? (dropUniversal text) = some seconds ↔ WritesFixed text seconds := by
  constructor
  · intro read
    have written (heading : List Char) {rest : List Char}
        (headed : heading ∈ [[], ['U', 'T', 'C'], ['G', 'M', 'T']])
        (read : readOffset? rest = some seconds) : WritesFixed (heading ++ rest) seconds := by
      unfold readOffset? at read
      split at read
      next digits =>
        rcases readOffsetSize?_eq_some_iff.mp read with
          ⟨hours, minutes, size, hours_le, minutes_le, rfl⟩
        rw [← Int.one_mul (_ + _)]
        exact .signed headed (by decide) size hours_le minutes_le
      next digits =>
        rcases Option.map_eq_some_iff.mp read with ⟨size, found, rfl⟩
        rcases readOffsetSize?_eq_some_iff.mp found with
          ⟨hours, minutes, size, hours_le, minutes_le, rfl⟩
        rw [← Int.neg_one_mul]
        exact .signed headed (by decide) size hours_le minutes_le
      next => cases read
    unfold dropUniversal at read
    split at read
    · exact written ['U', 'T', 'C'] (by decide) read
    · exact written ['G', 'M', 'T'] (by decide) read
    · exact written [] (by decide) read
  · rintro ⟨headed, sides, size, hours_le, minutes_le⟩
    have read := readOffsetSize?_eq_some_iff.mpr ⟨_, _, size, hours_le, minutes_le, rfl⟩
    simp only [signs, List.mem_cons, Prod.mk.injEq, List.not_mem_nil, or_false] at sides headed
    rcases sides with ⟨rfl, rfl⟩ | ⟨rfl, rfl⟩
    · rw [Int.one_mul, ← read]
      rcases headed with rfl | rfl | rfl <;> rfl
    · rw [Int.neg_one_mul]
      refine Eq.trans ?_ (congrArg (Option.map fun seconds => -seconds) read)
      rcases headed with rfl | rfl | rfl <;> rfl

/-! ## Reading zones -/

theorem ofLowerName?_eq (name : String) :
    ofLowerName? name =
      if name ∈ machineNames then some machine
      else if name ∈ universalNames then some (fixed 0)
      else none := by
  unfold ofLowerName?
  split
  · rfl
  · rfl
  · rfl
  · rfl
  · rfl
  · rfl
  next noneEmpty noLocal noSystem noUtc noGmt noZ =>
    rw [if_neg, if_neg]
    · simp only [universalNames, List.mem_cons, List.not_mem_nil, or_false, not_or]
      exact ⟨noUtc, noGmt, noZ⟩
    · simp only [machineNames, List.mem_cons, List.not_mem_nil, or_false, not_or]
      exact ⟨noneEmpty, noLocal, noSystem⟩

/-- No name of the machine's zone or of universal time has a sign in it, whatever the case of its
letters. -/
theorem unlisted_of_sign {name : String} {sign : Char} {direction : Int}
    (sides : (sign, direction) ∈ signs) (inside : sign ∈ name.toList) :
    lowered name ∉ machineNames ++ universalNames := by
  have signless : ∀ listed ∈ machineNames ++ universalNames, ∀ pair ∈ signs,
      pair.1 ∉ listed.toList := by decide
  have lowercase : ∀ pair ∈ signs, pair.1.toLower = pair.1 := by decide
  intro listed
  refine signless _ listed _ sides ?_
  rw [lowered, String.toList_ofList, ← lowercase _ sides]
  exact List.mem_map_of_mem inside

theorem WritesFixed.unlisted {name : String} {seconds : Int}
    (offset : WritesFixed name.toList seconds) :
    lowered name ∉ machineNames ++ universalNames := by
  generalize written : name.toList = text at offset
  rcases offset with ⟨-, sides, -⟩
  exact unlisted_of_sign sides (written ▸ List.mem_append_right _ List.mem_cons_self)

theorem ofLowerName?_eq_none_iff (name : String) :
    ofLowerName? name = none ↔ name ∉ machineNames ++ universalNames := by
  rw [ofLowerName?_eq, List.mem_append, not_or]
  split
  next listed => simp only [reduceCtorEq, listed, not_true_eq_false, false_and]
  next unlisted =>
    simp only [ite_eq_right_iff, reduceCtorEq, imp_false, unlisted, not_false_eq_true, true_and]

theorem names_of_parse {text : String} {zone : Zone} (parsed : parse text = .ok zone) :
    Names (Text.trim text) zone := by
  unfold parse at parsed
  dsimp only at parsed
  split at parsed
  next found named =>
    cases parsed
    rw [ofLowerName?_eq] at named
    split at named
    next listed =>
      cases named
      exact .machine listed
    next =>
      rcases Option.ite_none_right_eq_some.mp named with ⟨listed, same⟩
      cases same
      exact .universal listed
  next unnamed =>
    split at parsed
    next seconds offset =>
      cases parsed
      exact .fixed (readOffset?_eq_some_iff.mp offset)
    next none =>
      split at parsed
      next found known =>
        cases parsed
        refine .region ((ofLowerName?_eq_none_iff _).mp unnamed) (fun seconds offset => ?_) known
        cases none.symm.trans (readOffset?_eq_some_iff.mpr offset)
      next => cases parsed

theorem Names.parse_eq {text : String} {zone : Zone} (names : Names (Text.trim text) zone) :
    parse text = .ok zone := by
  have listedAs {found : Zone} (named : ofLowerName? (lowered (Text.trim text)) = some found) :
      parse text = .ok found := by
    rw [lowered] at named
    simp only [parse, named]
  cases names with
  | machine listed => exact listedAs (by rw [ofLowerName?_eq, if_pos listed])
  | universal listed =>
      have other : ∀ name ∈ universalNames, name ∉ machineNames := by decide
      exact listedAs (by rw [ofLowerName?_eq, if_neg (other _ listed), if_pos listed])
  | fixed offset =>
      have unnamed := (ofLowerName?_eq_none_iff _).mpr offset.unlisted
      rw [lowered] at unnamed
      simp only [parse, unnamed, readOffset?_eq_some_iff.mpr offset]
  | region unlisted noOffset known =>
      have unnamed := (ofLowerName?_eq_none_iff _).mpr unlisted
      have none : readOffset? (dropUniversal (Text.trim text).toList) = none :=
        Option.eq_none_iff_forall_ne_some.mpr fun seconds read =>
          noOffset seconds (readOffset?_eq_some_iff.mp read)
      rw [lowered] at unnamed
      simp only [parse, unnamed, none, known]

theorem parse_eq_ok_iff {text : String} {zone : Zone} :
    parse text = .ok zone ↔ Names (Text.trim text) zone :=
  ⟨names_of_parse, Names.parse_eq⟩

/-- The text of an error is the text that was read, blanks around it taken off. -/
theorem text_of_parse {text : String} {unknown : UnknownZone}
    (failed : parse text = .error unknown) : unknown = ⟨Text.trim text⟩ := by
  unfold parse at failed
  dsimp only at failed
  split at failed
  next => cases failed
  next =>
    split at failed
    next => cases failed
    next =>
      split at failed
      next => cases failed
      next =>
        cases failed
        rfl

theorem exists_message (name : String) :
    ∃ wording, (UnknownZone.mk name).message = "unknown time zone '" ++ name ++ "'" ++ wording := by
  refine ⟨", expected local, UTC, an offset like +02:00 or a name like Europe/Oslo", ?_⟩
  rw [String.append_assoc]
  exact String.append_assoc

/-- No zone is read exactly from the texts that name none. -/
theorem parse_eq_error_iff {text : String} {unknown : UnknownZone} :
    parse text = .error unknown ↔
      unknown = ⟨Text.trim text⟩ ∧ ∀ zone, ¬ Names (Text.trim text) zone := by
  constructor
  · intro failed
    refine ⟨text_of_parse failed, fun zone names => ?_⟩
    cases failed.symm.trans names.parse_eq
  · rintro ⟨rfl, nothing⟩
    cases outcome : parse text with
    | ok zone => exact absurd (names_of_parse outcome) (nothing zone)
    | error unknown => rw [text_of_parse outcome]

/-! ## Offsets with either sign -/

/-- An offset of at most eighteen hours and fifty-nine minutes, in whole minutes. -/
theorem WritesFixed.range {text : List Char} {seconds : Int} (offset : WritesFixed text seconds) :
    seconds % 60 = 0 ∧ seconds.natAbs < 86400 := by
  rcases offset with ⟨-, sides, -, hours_le, minutes_le⟩
  simp only [signs, List.mem_cons, Prod.mk.injEq, List.not_mem_nil, or_false] at sides
  rcases sides with ⟨-, rfl⟩ | ⟨-, rfl⟩ <;> omega

theorem range_of_parse {text : String} {seconds : Int} (parsed : parse text = .ok (fixed seconds)) :
    seconds % 60 = 0 ∧ seconds.natAbs < 86400 := by
  cases names_of_parse parsed with
  | universal => decide
  | fixed offset => exact offset.range

theorem WritesSize.signless {digits : List Char} {hours minutes : Nat}
    (size : WritesSize digits hours minutes) : ∀ pair ∈ signs, pair.1 ∉ digits := by
  intro pair sides member
  have other : ∀ pair ∈ signs, ¬(pair.1.isDigit = true ∨ pair.1 = ':') := by decide
  exact other pair sides (size.exists_cut.1 _ member)

/-- There is one sign in an offset, and it tells on which side of universal time the offset lies. -/
theorem writesFixed_iff {before behind : List Char} {sign : Char} {direction seconds : Int}
    (sides : (sign, direction) ∈ signs) :
    WritesFixed (before ++ sign :: behind) seconds ↔
      before ∈ [[], ['U', 'T', 'C'], ['G', 'M', 'T']] ∧
        ∃ hours minutes : Nat, WritesSize behind hours minutes ∧ hours ≤ 18 ∧ minutes ≤ 59 ∧
          seconds = direction * (hours * 3600 + minutes * 60) := by
  constructor
  · intro offset
    generalize written : before ++ sign :: behind = text at offset
    rcases offset with ⟨headed, sides', size, hours_le, minutes_le⟩
    have signless : ∀ heading ∈ [[], ['U', 'T', 'C'], ['G', 'M', 'T']], ∀ pair ∈ signs,
        pair.1 ∉ heading := by decide
    rcases (List.append_cons_inj_of_notMem (signless _ headed _ sides)
      (size.signless _ sides)).mp written.symm with ⟨rfl, rfl, rfl⟩
    have functional : ∀ pair ∈ signs, ∀ other ∈ signs, pair.1 = other.1 → pair = other := by
      decide
    cases functional _ sides _ sides' rfl
    exact ⟨headed, _, _, size, hours_le, minutes_le, rfl⟩
  · rintro ⟨headed, hours, minutes, size, hours_le, minutes_le, rfl⟩
    exact .signed headed sides size hours_le minutes_le

theorem parse_signed_iff {before behind : List Char} {sign : Char} {direction seconds : Int}
    (sides : (sign, direction) ∈ signs) :
    parse (String.ofList (before ++ sign :: behind)) = .ok (fixed seconds) ↔
      WritesFixed (Text.dropBlanks before ++ sign :: Text.dropFinalBlanks behind) seconds := by
  have visible : ∀ pair ∈ signs, Text.isBlank pair.1 = false := by decide
  have trimmed : (Text.trim (String.ofList (before ++ sign :: behind))).toList =
      Text.dropBlanks before ++ sign :: Text.dropFinalBlanks behind := by
    rw [Text.trim, String.toList_ofList, String.toList_ofList,
      Text.trimChars_append_cons (visible _ sides)]
  rw [parse_eq_ok_iff, ← trimmed]
  constructor
  · intro names
    cases names with
    | universal listed =>
        have inside : sign ∈ (Text.trim (String.ofList (before ++ sign :: behind))).toList := by
          rw [trimmed]
          exact List.mem_append_right _ List.mem_cons_self
        exact absurd (List.mem_append_right _ listed) (unlisted_of_sign sides inside)
    | fixed offset => exact offset
  · exact .fixed

/-- A zone is read from a text as its name says, blanks around it taken off: by a name of the
machine's zone or of universal time in letters of any case, by an offset, or else by the name of a
region.  Any other text is given back in the error, whose message quotes it.  An offset is always
less than a day, and with the other sign the same text gives the opposite offset. -/
theorem parse_names (text : String) :
    (∀ zone, parse text = .ok zone ↔ Names (Text.trim text) zone) ∧
    (∀ unknown, parse text = .error unknown ↔
      unknown = ⟨Text.trim text⟩ ∧ ∀ zone, ¬ Names (Text.trim text) zone) ∧
    (∀ unknown, parse text = .error unknown →
      ∃ wording, unknown.message = "unknown time zone '" ++ Text.trim text ++ "'" ++ wording) ∧
    (∀ seconds, parse text = .ok (fixed seconds) → seconds.natAbs < 86400) ∧
    ∀ (before behind : List Char) (seconds : Int),
      parse (String.ofList (before ++ '+' :: behind)) = .ok (fixed seconds) ↔
        parse (String.ofList (before ++ '-' :: behind)) = .ok (fixed (-seconds)) := by
  refine ⟨fun zone => parse_eq_ok_iff, fun unknown => parse_eq_error_iff, fun unknown failed => ?_,
    fun seconds parsed => (range_of_parse parsed).2, fun before behind seconds => ?_⟩
  · rw [text_of_parse failed]
    exact exists_message _
  have opposite (size : Int) : seconds = 1 * size ↔ -seconds = -1 * size := by omega
  have east : ('+', 1) ∈ signs := by decide
  have west : ('-', -1) ∈ signs := by decide
  rw [parse_signed_iff east, parse_signed_iff west, writesFixed_iff east, writesFixed_iff west]
  simp only [opposite]

/-- The greatest offset west, behind the name of universal time and between blanks of two kinds. -/
theorem parse_names_west :
    parse "\u2003UTC-018:59 " = .ok (fixed (-68340)) ∧
    Names (Text.trim "\u2003UTC-018:59 ") (fixed (-68340)) ∧
    (-68340 : Int).natAbs < 86400 ∧
    parse "\u2003UTC+018:59 " = .ok (fixed 68340) := by
  rcases parse_names "\u2003UTC-018:59 " with ⟨accepted, -, -, short, opposite⟩
  have parsed : parse "\u2003UTC-018:59 " = .ok (fixed (-68340)) := by decide +kernel
  exact ⟨parsed, (accepted _).mp parsed, short _ parsed,
    (opposite ['\u2003', 'U', 'T', 'C'] ['0', '1', '8', ':', '5', '9', ' '] 68340).mpr parsed⟩

end Zone
end LogLayout.Time
