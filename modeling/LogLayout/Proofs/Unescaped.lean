import LogLayout.Pattern.Words
import LogLayout.Proofs.Sequences

namespace LogLayout

/-!
# Texts without escape characters

Nothing but decoration puts an escape character into a line.  Whatever else shows a text takes
its characters from the record, from the context and from the pattern, or it writes digits,
letters and punctuation.  So a line that is not decorated has no escape character if none of
them has one.

There is one statement for each way of making a text: for shortened names, filled messages,
listed pairs, formatted dates and replaced matches, and for the cut and the padding behind all
of them.
-/

/-- A text has no escape character. -/
def Unescaped (text : List Char) : Prop := '\x1b' ∉ text

instance (text : List Char) : Decidable (Unescaped text) :=
  inferInstanceAs (Decidable ('\x1b' ∉ text))

section Lists

variable {first second text other : List Char}

@[simp] theorem unescaped_nil : Unescaped [] := List.not_mem_nil

@[simp] theorem unescaped_cons_iff {character : Char} :
    Unescaped (character :: text) ↔ character ≠ '\x1b' ∧ Unescaped text := by
  simp only [Unescaped, List.mem_cons, not_or, ne_eq, eq_comm]

@[simp] theorem unescaped_append_iff :
    Unescaped (first ++ second) ↔ Unescaped first ∧ Unescaped second := by
  simp only [Unescaped, List.mem_append, not_or]

@[simp] theorem unescaped_reverse_iff : Unescaped text.reverse ↔ Unescaped text := by
  simp only [Unescaped, List.mem_reverse]

/-- Part of a text has no escape character if the text has none. -/
theorem Unescaped.subset (unescaped : Unescaped text) (within : other ⊆ text) :
    Unescaped other := fun member => unescaped (within member)

theorem Unescaped.sublist (unescaped : Unescaped text) (within : other.Sublist text) :
    Unescaped other := unescaped.subset within.subset

theorem unescaped_flatMap {Value : Type} {values : List Value} {write : Value → List Char}
    (each : ∀ value ∈ values, Unescaped (write value)) : Unescaped (values.flatMap write) := by
  intro member
  rcases List.mem_flatMap.mp member with ⟨value, listed, inside⟩
  exact each value listed inside

theorem unescaped_replicate (count : Nat) {character : Char} (ordinary : character ≠ '\x1b') :
    Unescaped (List.replicate count character) :=
  fun member => ordinary (List.eq_of_mem_replicate member).symm

theorem unescaped_join {texts : List String} (each : ∀ text ∈ texts, Unescaped text.toList) :
    Unescaped (String.join texts).toList := by
  rw [String.toList_join]
  exact unescaped_flatMap each

theorem unescaped_intercalate {separator : String} {texts : List String}
    (between : Unescaped separator.toList) (each : ∀ text ∈ texts, Unescaped text.toList) :
    Unescaped (String.intercalate separator texts).toList := by
  induction texts with
  | nil => simp
  | cons text rest inductionHypothesis =>
      rcases List.forall_mem_cons.mp each with ⟨here, later⟩
      cases rest with
      | nil => simpa using here
      | cons next others =>
          simp only [String.intercalate_cons_cons, String.toList_append, unescaped_append_iff]
          exact ⟨⟨here, between⟩, inductionHypothesis later⟩

/-- Taking blanks off the ends brings no escape character in. -/
theorem unescaped_trim {text : String} (unescaped : Unescaped text.toList) :
    Unescaped (Text.trim text).toList := by
  rw [Text.trim, String.toList_ofList, Text.trimChars, Text.dropFinalBlanks,
    unescaped_reverse_iff]
  refine Unescaped.sublist ?_ (List.dropWhile_sublist _)
  exact unescaped_reverse_iff.mpr (unescaped.sublist (List.dropWhile_sublist _))

end Lists

/-! ## Numbers -/

section Numbers

theorem unescaped_toString (number : Nat) : Unescaped (toString number).toList := by
  intro member
  rw [Nat.toString_eq_repr, Nat.toList_repr] at member
  exact absurd (Nat.isDigit_of_mem_toDigits (by decide) (by decide) member) (by decide)

theorem unescaped_zeroPadded (width number : Nat) :
    Unescaped (Text.zeroPadded width number).toList := by
  simp only [Text.zeroPadded, String.toList_ofList, unescaped_append_iff]
  exact ⟨unescaped_replicate _ (by decide), unescaped_toString number⟩

end Numbers

/-! ## Names and messages -/

namespace Abbreviation

theorem unescaped_of_mem_segments {name segment : List Char} (unescaped : Unescaped name)
    (listed : segment ∈ segments name) : Unescaped segment := by
  fun_induction segments name generalizing segment with
  | case1 => simp_all
  | case2 rest inductionHypothesis =>
      rcases List.mem_cons.mp listed with rfl | later
      · exact unescaped_nil
      · exact inductionHypothesis (unescaped_cons_iff.mp unescaped).2 later
  | case3 character rest _ first others same inductionHypothesis =>
      rcases unescaped_cons_iff.mp unescaped with ⟨ordinary, behind⟩
      rcases List.mem_cons.mp listed with rfl | later
      · exact unescaped_cons_iff.mpr ⟨ordinary,
          inductionHypothesis behind (same ▸ List.mem_cons_self)⟩
      · exact inductionHypothesis behind (same ▸ List.mem_cons_of_mem first later)
  | case4 character rest _ same inductionHypothesis => exact absurd same (segments_ne_nil rest)

theorem unescaped_shorten (budget : Int) {parts : List (List Char)}
    (each : ∀ segment ∈ parts, Unescaped segment) : Unescaped (shorten budget parts) := by
  induction parts generalizing budget with
  | nil => exact unescaped_nil
  | cons segment rest inductionHypothesis =>
      rcases List.forall_mem_cons.mp each with ⟨here, later⟩
      unfold shorten
      split
      · simp only [unescaped_append_iff, unescaped_cons_iff]
        exact ⟨here.sublist (List.take_sublist _ _), by decide, inductionHypothesis _ later⟩
      · simp only [unescaped_append_iff, unescaped_cons_iff]
        exact ⟨here, by decide, inductionHypothesis _ later⟩

/-- A shortened name is made of the characters of the name and dots. -/
theorem unescaped_abbreviate {name : String} (unescaped : Unescaped name.toList)
    (length : Nat) : Unescaped (abbreviate name length).toList := by
  have each (segment : List Char) (listed : segment ∈ segments name.toList) :
      Unescaped segment := unescaped_of_mem_segments unescaped listed
  rw [abbreviate, String.toList_ofList, abbreviateChars]
  split
  · exact unescaped
  · rw [unescaped_append_iff]
    constructor
    · exact unescaped_shorten _ fun segment leading => each segment (List.dropLast_subset _ leading)
    · cases last : (segments name.toList).getLast? with
      | none => exact unescaped_nil
      | some segment => exact each segment (List.mem_of_getLast? last)

end Abbreviation

namespace Message

theorem unescaped_of_cutAtPlaceholder {text before behind : List Char}
    (unescaped : Unescaped text) (cut : cutAtPlaceholder text = some (before, behind)) :
    Unescaped before ∧ Unescaped behind := by
  induction text using cutAtPlaceholder.induct generalizing before behind with
  | case1 => cases cut
  | case2 rest =>
      cases cut
      simp_all
  | case3 character rest notPlaceholder inductionHypothesis =>
      rw [cutAtPlaceholder.eq_3 _ _ notPlaceholder, Option.map_eq_some_iff] at cut
      rcases cut with ⟨⟨first, second⟩, found, same⟩
      cases same
      simp_all

/-- What is kept of the text in front of a placeholder. -/
def Lead.kept : Lead → List Char
  | .escaped kept => kept
  | .fillable kept => kept

theorem unescaped_kept {before : List Char} (unescaped : Unescaped before) :
    Unescaped (lead before).kept := by
  have backward := unescaped_reverse_iff.mpr unescaped
  unfold lead
  split
  next rest same =>
    rw [same] at backward
    simp_all [Lead.kept]
  next rest _ same =>
    rw [same] at backward
    simp_all [Lead.kept]
  next => exact unescaped

/-- A filled template is made of the characters of the template and of the arguments. -/
theorem unescaped_fillChars {template : List Char} {arguments : List (List Char)}
    (unescaped : Unescaped template) (each : ∀ argument ∈ arguments, Unescaped argument) :
    Unescaped (fillChars template arguments) := by
  fun_induction fillChars template arguments with
  | case1 => exact unescaped
  | case2 template arguments before behind cut shorter kept same inductionHypothesis =>
      rcases unescaped_of_cutAtPlaceholder unescaped cut with ⟨front, back⟩
      have here := unescaped_kept front
      rw [same] at here
      simp only [unescaped_append_iff, unescaped_cons_iff]
      exact ⟨here, by decide, by decide, inductionHypothesis back each⟩
  | case3 => exact unescaped
  | case4 template before behind cut shorter kept same argument others inductionHypothesis =>
      rcases unescaped_of_cutAtPlaceholder unescaped cut with ⟨front, back⟩
      rcases List.forall_mem_cons.mp each with ⟨first, later⟩
      have here := unescaped_kept front
      rw [same] at here
      simp only [unescaped_append_iff]
      exact ⟨⟨here, first⟩, inductionHypothesis back later⟩

theorem unescaped_fill {template : String} {arguments : List String}
    (unescaped : Unescaped template.toList)
    (each : ∀ argument ∈ arguments, Unescaped argument.toList) :
    Unescaped (fill template arguments).toList := by
  unfold fill
  split
  · exact unescaped
  · rw [String.toList_ofList]
    exact unescaped_fillChars unescaped (List.forall_mem_map.mpr each)

end Message

/-! ## Pairs -/

namespace Pattern

theorem unescaped_pairsText {pairs : List (String × String)}
    (each : ∀ pair ∈ pairs, Unescaped pair.1.toList ∧ Unescaped pair.2.toList) :
    Unescaped (pairsText pairs).toList := by
  refine unescaped_intercalate (by decide) (List.forall_mem_map.mpr fun pair listed => ?_)
  rcases each pair listed with ⟨key, value⟩
  simp only [String.toList_append, unescaped_append_iff]
  exact ⟨⟨key, by decide⟩, value⟩

theorem unescaped_of_cutAtFallback {text before behind : List Char} (unescaped : Unescaped text)
    (cut : cutAtFallback text = some (before, behind)) : Unescaped behind := by
  fun_induction cutAtFallback text generalizing before behind with
  | case1 => cases cut
  | case2 rest =>
      cases cut
      exact (unescaped_cons_iff.mp (unescaped_cons_iff.mp unescaped).2).2
  | case3 character rest _ inductionHypothesis =>
      rcases Option.map_eq_some_iff.mp cut with ⟨⟨first, second⟩, found, same⟩
      cases same
      exact inductionHypothesis (unescaped_cons_iff.mp unescaped).2 found

theorem unescaped_readKey {parameter : String} (unescaped : Unescaped parameter.toList) :
    Unescaped (readKey parameter).2.toList := by
  unfold readKey
  split
  next key fallback cut =>
    rw [String.toList_ofList]
    exact unescaped_of_cutAtFallback unescaped cut
  next => exact unescaped_nil

end Pattern

/-! ## Dates -/

namespace Time

theorem unescaped_numberText (width count number : Nat) :
    Unescaped (numberText width count number).toList := by
  unfold numberText
  split
  · exact unescaped_toString number
  · exact unescaped_zeroPadded width number

theorem unescaped_yearText (year : Int) : Unescaped (yearText year).toList := by
  have padded := unescaped_zeroPadded 4
  unfold yearText
  split
  · exact padded _
  · split <;> simp only [String.toList_append, unescaped_append_iff] <;>
      exact ⟨by decide, padded _⟩

theorem unescaped_offsetSign (offset : Int) : Unescaped (offsetSign offset).toList := by
  unfold offsetSign
  split <;> decide

theorem unescaped_offsetText {separator : String} (between : Unescaped separator.toList)
    (offset : Int) : Unescaped (offsetText separator offset).toList := by
  simp only [offsetText, String.toList_append, unescaped_append_iff]
  exact ⟨⟨⟨unescaped_offsetSign offset, unescaped_zeroPadded _ _⟩, between⟩,
    unescaped_zeroPadded _ _⟩

theorem unescaped_exactOffsetText (offset : Int) :
    Unescaped (exactOffsetText offset).toList := by
  simp only [exactOffsetText, String.toList_append, unescaped_append_iff]
  refine ⟨⟨⟨⟨unescaped_offsetSign offset, unescaped_zeroPadded _ _⟩, by decide⟩,
    unescaped_zeroPadded _ _⟩, ?_⟩
  split
  · exact unescaped_nil
  · rw [String.toList_append, unescaped_append_iff]
    exact ⟨by decide, unescaped_zeroPadded _ _⟩

theorem unescaped_fractionText (count nanos : Nat) :
    Unescaped (fractionText count nanos).toList := by
  simp only [fractionText, String.toList_ofList, unescaped_append_iff]
  exact ⟨(unescaped_zeroPadded 9 nanos).sublist (List.take_sublist _ _),
    unescaped_replicate _ (by decide)⟩

theorem unescaped_getD {names : List String} (each : ∀ name ∈ names, Unescaped name.toList)
    (index : Nat) : Unescaped (names.getD index "").toList := by
  rw [List.getD_eq_getElem?_getD]
  cases found : names[index]? with
  | none => exact unescaped_nil
  | some name => exact each name (List.mem_of_getElem? found)

theorem unescaped_shortName {name : String} (unescaped : Unescaped name.toList) :
    Unescaped (shortName name).toList := by
  rw [shortName, String.toList_ofList]
  exact unescaped.sublist (List.take_sublist _ _)

theorem Letter.unescaped_render (letter : Letter) (count : Nat) (time : LocalTime) :
    Unescaped (letter.render count time).toList := by
  have month (index : Nat) : Unescaped (monthNames.getD index "").toList :=
    unescaped_getD (by decide) index
  have weekday (index : Nat) : Unescaped (weekdayNames.getD index "").toList :=
    unescaped_getD (by decide) index
  have number (width number : Nat) : Unescaped (numberText width count number).toList :=
    unescaped_numberText width count number
  cases letter with
  | year | yearAgain =>
      dsimp only [render]
      split
      · exact unescaped_zeroPadded _ _
      · exact unescaped_yearText _
  | month =>
      dsimp only [render]
      split
      · exact number _ _
      · split
        · exact unescaped_shortName (month _)
        · exact month _
  | weekday =>
      dsimp only [render]
      split
      · exact unescaped_shortName (weekday _)
      · exact weekday _
  | dayOfMonth | dayOfYear | hour | hourOfHalfDay | minute | second => exact number _ _
  | fraction => exact unescaped_fractionText _ _
  | halfDay =>
      dsimp only [render]
      split <;> decide
  | offset | offsetUpper | offsetLower =>
      refine unescaped_offsetText ?_ _
      split <;> decide
  | zone => exact unescaped_exactOffsetText _

namespace DatePattern

theorem unescaped_of_readQuoted {input text behind : List Char} (unescaped : Unescaped input)
    (read : readQuoted input = some (text, behind)) : Unescaped text ∧ Unescaped behind := by
  fun_induction readQuoted input generalizing text behind with
  | case1 => cases read
  | case2 rest inductionHypothesis =>
      rcases Option.map_eq_some_iff.mp read with ⟨⟨first, second⟩, found, same⟩
      cases same
      simp_all
  | case3 rest =>
      cases read
      simp_all
  | case4 character rest _ _ inductionHypothesis =>
      rcases Option.map_eq_some_iff.mp read with ⟨⟨first, second⟩, found, same⟩
      cases same
      simp_all

/-- The text of a part is written in the pattern, or it is that of a field. -/
def UnescapedParts (parts : List DatePart) : Prop :=
  ∀ part ∈ parts, ∀ time, Unescaped (part.render time).toList

theorem unescapedParts_prependLiteral {literal : List Char} {parts : List DatePart}
    (unescaped : Unescaped literal) (others : UnescapedParts parts) :
    UnescapedParts (prependLiteral literal parts) := by
  unfold prependLiteral
  split
  · exact others
  · refine List.forall_mem_cons.mpr ⟨fun time => ?_, others⟩
    rw [DatePart.render, String.toList_ofList]
    exact unescaped

theorem unescapedParts_of_readParts {pattern : String} {literal text : List Char}
    {parts : List DatePart} (before : Unescaped literal) (unescaped : Unescaped text)
    (read : readParts pattern literal text = .ok parts) : UnescapedParts parts := by
  fun_induction readParts pattern literal text generalizing parts with
  | case1 literal =>
      cases read
      exact unescapedParts_prependLiteral before fun _ member => absurd member List.not_mem_nil
  | case2 literal rest inductionHypothesis =>
      exact inductionHypothesis (by simp_all) (by simp_all) read
  | case3 => cases read
  | case4 literal rest _ quoted behind found shorter inductionHypothesis =>
      rcases unescaped_of_readQuoted (unescaped_cons_iff.mp unescaped).2 found with ⟨inside, later⟩
      exact inductionHypothesis (unescaped_append_iff.mpr ⟨before, inside⟩) later read
  | case5 => cases read
  | case6 literal character rest _ _ _ letter found shorter inductionHypothesis =>
      cases others : readParts pattern [] (rest.dropWhile fun other => other == character) with
      | error flaw =>
          rw [others] at read
          cases read
      | ok later =>
          rw [others] at read
          cases read
          have behind := (unescaped_cons_iff.mp unescaped).2.sublist
            (List.dropWhile_sublist fun other => other == character)
          exact unescapedParts_prependLiteral before (List.forall_mem_cons.mpr
            ⟨letter.unescaped_render _, inductionHypothesis unescaped_nil behind others⟩)
  | case7 literal character rest _ _ _ inductionHypothesis =>
      exact inductionHypothesis (by simp_all) (by simp_all) read

/-- A formatted date is made of fields and of the literal text of its pattern. -/
theorem unescaped_format {text : String} {pattern : DatePattern}
    (unescaped : Unescaped text.toList) (read : parse text = .ok pattern) (time : LocalTime) :
    Unescaped (pattern.format time).toList := by
  unfold parse at read
  cases parts : readParts text [] text.toList with
  | error flaw =>
      rw [parts] at read
      cases read
  | ok parts' =>
      rw [parts] at read
      cases read
      have each := unescapedParts_of_readParts unescaped_nil unescaped parts
      exact unescaped_join (List.forall_mem_map.mpr fun part listed => each part listed time)

end DatePattern

end Time

/-! ## Replacements -/

namespace Regex

/-- What a part of a replacement writes by itself has no escape character. -/
def UnescapedReplacement (parts : List ReplacementPart) : Prop :=
  ∀ character, .literal character ∈ parts → character ≠ '\x1b'

theorem unescapedReplacement_cons_literal {character : Char} {parts : List ReplacementPart}
    (ordinary : character ≠ '\x1b') (others : UnescapedReplacement parts) :
    UnescapedReplacement (.literal character :: parts) := by
  intro other member
  rcases List.mem_cons.mp member with same | later
  · cases same
    exact ordinary
  · exact others other later

theorem unescapedReplacement_cons_group {name : String} {parts : List ReplacementPart}
    (others : UnescapedReplacement parts) : UnescapedReplacement (.group name :: parts) := by
  intro other member
  rcases List.mem_cons.mp member with same | later
  · cases same
  · exact others other later

theorem unescaped_readReplacement {text : List Char} (unescaped : Unescaped text) :
    UnescapedReplacement (readReplacement text) := by
  fun_induction readReplacement text with
  | case1 => exact fun _ member => absurd member List.not_mem_nil
  | case2 rest inductionHypothesis =>
      exact unescapedReplacement_cons_literal (by decide) (inductionHypothesis (by simp_all))
  | case3 rest _ brace behind found inductionHypothesis =>
      have later : Unescaped (brace :: behind) := by
        rw [← found]
        exact (unescaped_cons_iff.mp (unescaped_cons_iff.mp unescaped).2).2.sublist
          (List.dropWhile_sublist _)
      exact unescapedReplacement_cons_group
        (inductionHypothesis (unescaped_cons_iff.mp later).2)
  | case4 rest _ found inductionHypothesis =>
      exact unescapedReplacement_cons_literal (by decide)
        (inductionHypothesis (unescaped_cons_iff.mp unescaped).2)
  | case5 rest _ _ _ _ inductionHypothesis =>
      exact unescapedReplacement_cons_literal (by decide)
        (inductionHypothesis (unescaped_cons_iff.mp unescaped).2)
  | case6 rest _ _ _ _ inductionHypothesis =>
      exact unescapedReplacement_cons_group (inductionHypothesis
        ((unescaped_cons_iff.mp unescaped).2.sublist (List.dropWhile_sublist _)))
  | case7 character rest _ _ _ inductionHypothesis =>
      rcases unescaped_cons_iff.mp unescaped with ⟨ordinary, later⟩
      exact unescapedReplacement_cons_literal ordinary (inductionHypothesis later)

namespace Matcher

theorem unescaped_extract {text : Array Char} (unescaped : Unescaped text.toList)
    (first last : Nat) : Unescaped (text.extract first last).toList := by
  rw [Array.toList_extract, List.extract_eq_take_drop]
  exact unescaped.sublist ((List.take_sublist _ _).trans (List.drop_sublist _ _))

theorem unescaped_expand (matcher : Matcher) {text : Array Char}
    (unescaped : Unescaped text.toList) (slots : Slots) {parts : List ReplacementPart}
    (ordinary : UnescapedReplacement parts) :
    Unescaped (matcher.expand text slots parts) := by
  refine unescaped_flatMap fun part listed => ?_
  cases part with
  | literal character => exact unescaped_cons_iff.mpr ⟨ordinary character listed, unescaped_nil⟩
  | group name =>
      dsimp only [groupText]
      split
      · exact unescaped_extract unescaped _ _
      · exact unescaped_nil

theorem unescaped_replaceFrom (matcher : Matcher) {text : Array Char}
    (unescaped : Unescaped text.toList) {parts : List ReplacementPart}
    (ordinary : UnescapedReplacement parts) (position : Nat) (found : List Slots) :
    Unescaped (matcher.replaceFrom text parts position found) := by
  induction found generalizing position with
  | nil => exact unescaped_extract unescaped _ _
  | cons slots rest inductionHypothesis =>
      unfold replaceFrom
      split
      · exact inductionHypothesis _
      · simp only [unescaped_append_iff]
        exact ⟨⟨unescaped_extract unescaped _ _, matcher.unescaped_expand unescaped slots ordinary⟩,
          inductionHypothesis _⟩

theorem unescaped_replaceAll (matcher : Matcher) {replacement text : String}
    (ordinary : Unescaped replacement.toList) (unescaped : Unescaped text.toList) :
    Unescaped (matcher.replaceAll replacement text).toList := by
  rw [replaceAll, String.toList_ofList]
  exact matcher.unescaped_replaceFrom (by simpa using unescaped)
    (unescaped_readReplacement ordinary) _ _

end Matcher
end Regex

/-! ## Lengths -/

/-- The cut takes characters away, and the padding adds spaces. -/
theorem Lengths.unescaped_applyChars (lengths : Lengths) {text : List Char}
    (unescaped : Unescaped text) : Unescaped (lengths.applyChars text) := by
  have cut (limit : Int) : Unescaped (cutChars limit text) := by
    unfold cutChars
    split
    · exact unescaped
    · split
      · exact unescaped.sublist (List.take_sublist _ _)
      · exact unescaped.sublist (List.drop_sublist _ _)
  have padded (width : Int) {kept : List Char} (clean : Unescaped kept) :
      Unescaped (padChars width kept) := by
    have padding := unescaped_replicate (width.natAbs - kept.length)
      (show ' ' ≠ '\x1b' by decide)
    unfold padChars
    dsimp only
    split <;> rw [unescaped_append_iff]
    · exact ⟨padding, clean⟩
    · exact ⟨clean, padding⟩
  rcases lengths with ⟨_ | width, _ | limit⟩
  · exact unescaped
  · exact cut limit
  · exact padded width unescaped
  · exact padded width (cut limit)

end LogLayout
