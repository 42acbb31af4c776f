import LogLayout.Proofs.Config.Extraction
import LogLayout.Proofs.Text.Lines
import LogLayout.Proofs.Text.Runs

namespace LogLayout.Config

/-!
# Including lines as they are written

An including line leaves much open: blanks may stand between all its parts, and the path stands
between quotes of either kind, with further quotes anywhere but at its ends.  Whatever is chosen,
the path is read as it is meant.  A line that does not go on with an equals sign behind the word
is another one, though its key may begin with the same letters.

Taking the including lines out of a text that is written so gives back all paths and all other
lines.  What is left has no including line any more.
-/

/-! ## Quotes -/

/-- Whether a character can stand around a path. -/
def isQuote (character : Char) : Bool := character == '\x22' || character == '\x27'

/-- A text without a quote at either end. -/
def BareEnds (text : List Char) : Prop :=
  (∀ character ∈ text.head?, isQuote character = false) ∧
    ∀ character ∈ text.getLast?, isQuote character = false

instance : DecidablePred BareEnds := fun text =>
  @instDecidableAnd _ _ (Option.decidableForallMem text.head?)
    (Option.decidableForallMem text.getLast?)

/-- A text loses no character that stands at neither end. -/
theorem stripChar_of_ends {character : Char} {text : List Char}
    (first : ∀ other ∈ text.head?, other ≠ character)
    (last : ∀ other ∈ text.getLast?, other ≠ character) : stripChar character text = text := by
  have front : text.dropWhile (· == character) = text :=
    Text.dropWhile_of_boundary fun other member => beq_false_of_ne (first other member)
  have back : text.reverse.dropWhile (· == character) = text.reverse := by
    apply Text.dropWhile_of_boundary
    intro other member
    rw [List.head?_reverse] at member
    exact beq_false_of_ne (last other member)
  rw [stripChar, front, back, List.reverse_reverse]

/-- A text between two of a character loses these two. -/
theorem stripChar_between {character : Char} {text : List Char} (filled : text ≠ [])
    (first : ∀ other ∈ text.head?, other ≠ character)
    (last : ∀ other ∈ text.getLast?, other ≠ character) :
    stripChar character (character :: (text ++ [character])) = text := by
  have mark : ∀ other ∈ [character], (other == character) = true := by
    intro other member
    exact beq_iff_eq.mpr (List.mem_singleton.mp member)
  have front : ([character] ++ (text ++ [character])).dropWhile (· == character) =
      text ++ [character] := by
    apply Text.dropWhile_append mark
    intro other member
    rw [List.head?_append_of_ne_nil _ filled] at member
    exact beq_false_of_ne (first other member)
  have back : ([character] ++ text.reverse).dropWhile (· == character) = text.reverse := by
    apply Text.dropWhile_append mark
    intro other member
    rw [List.head?_reverse] at member
    exact beq_false_of_ne (last other member)
  rw [stripChar, ← List.singleton_append, front, List.reverse_append, List.reverse_singleton, back,
    List.reverse_reverse]

theorem stripChar_quoted {quote : Char} {path : List Char} (quoted : isQuote quote = true)
    (filled : path ≠ []) (bare : BareEnds path) :
    stripChar '\x27' (stripChar '\x22' (quote :: (path ++ [quote]))) = path := by
  have other {mark : Char} (isMark : isQuote mark = true) {character : Char}
      (plain : isQuote character = false) : character ≠ mark := by
    rintro rfl
    rw [isMark] at plain
    cases plain
  have first {mark : Char} (isMark : isQuote mark = true) :
      ∀ character ∈ path.head?, character ≠ mark :=
    fun character member => other isMark (bare.1 character member)
  have last {mark : Char} (isMark : isQuote mark = true) :
      ∀ character ∈ path.getLast?, character ≠ mark :=
    fun character member => other isMark (bare.2 character member)
  rcases (Bool.or_eq_true _ _).mp quoted with double | single
  · obtain rfl := eq_of_beq double
    rw [stripChar_between filled (first rfl) (last rfl), stripChar_of_ends (first rfl) (last rfl)]
  · obtain rfl := eq_of_beq single
    rw [@stripChar_of_ends '\x22', stripChar_between filled (first rfl) (last rfl)]
    · intro character member
      obtain rfl := Option.some.inj member
      decide
    · intro character member
      rw [← List.cons_append, List.getLast?_concat] at member
      obtain rfl := Option.some.inj member
      decide

/-! ## Lines -/

/-- A line is taken for one that includes a file.  Apart from the blanks at its ends it begins with
the word and, behind any blanks, an equals sign. -/
def NamesSource (line : List Char) : Prop :=
  ∃ gap value, (∀ character ∈ gap, Text.isBlank character = true) ∧
    Text.trimChars line = "source".toList ++ (gap ++ '=' :: value)

theorem sourceValue?_eq_some_iff {line value : List Char} :
    sourceValue? line = some value ↔
      ∃ gap, (∀ character ∈ gap, Text.isBlank character = true) ∧
        Text.trimChars line = "source".toList ++ (gap ++ '=' :: value) := by
  unfold sourceValue?
  constructor
  · intro found
    split at found
    next rest word =>
      split at found
      next behind sign =>
        cases found
        refine ⟨rest.takeWhile Text.isBlank, ?_, ?_⟩
        · exact fun character member => List.all_eq_true.mp List.all_takeWhile character member
        · rw [word, ← sign, Text.takeWhile_append_dropBlanks]
          rfl
      next => cases found
    next => cases found
  · rintro ⟨gap, blank, text⟩
    have opened : Text.dropBlanks (gap ++ '=' :: value) = '=' :: value := by
      apply Text.dropWhile_append blank
      intro character same
      obtain rfl := Option.some.inj same
      decide
    split
    next rest word =>
      have same : gap ++ '=' :: value = rest :=
        List.append_cancel_left (show "source".toList ++ _ = "source".toList ++ rest from
          text.symm.trans word)
      rw [← same, opened]
      rfl
    next other => exact absurd text (other _)

theorem namesSource_iff (line : List Char) :
    NamesSource line ↔ (sourceValue? line).isSome = true := by
  rw [Option.isSome_iff_exists]
  constructor
  · rintro ⟨gap, value, names⟩
    exact ⟨value, sourceValue?_eq_some_iff.mpr ⟨gap, names⟩⟩
  · rintro ⟨value, found⟩
    obtain ⟨gap, names⟩ := sourceValue?_eq_some_iff.mp found
    exact ⟨gap, value, names⟩

theorem sourceValue?_eq_none {line : List Char} (ordinary : ¬ NamesSource line) :
    sourceValue? line = none := by
  rw [namesSource_iff, Option.not_isSome_iff_eq_none] at ordinary
  exact ordinary

instance : DecidablePred NamesSource := fun line => decidable_of_iff' _ (namesSource_iff line)

/-- A line that includes a file, as it is written. -/
structure SourceText where
  indent : List Char
  gap : List Char
  margin : List Char
  quote : Char
  path : List Char
  trail : List Char
  blank : ∀ character ∈ indent ++ gap ++ margin ++ trail, Text.isBlank character = true
  quoted : isQuote quote = true
  filled : path ≠ []
  bare : BareEnds path

namespace SourceText

/-- What stands behind the equals sign. -/
def value (text : SourceText) : List Char :=
  text.margin ++ text.quote :: (text.path ++ [text.quote])

def chars (text : SourceText) : List Char :=
  text.indent ++ ("source".toList ++ (text.gap ++ '=' :: (text.value ++ text.trail)))

theorem blanks (text : SourceText) :
    (∀ character ∈ text.indent, Text.isBlank character = true) ∧
      (∀ character ∈ text.gap, Text.isBlank character = true) ∧
      (∀ character ∈ text.margin, Text.isBlank character = true) ∧
      ∀ character ∈ text.trail, Text.isBlank character = true := by
  have blank := text.blank
  rw [List.forall_mem_append, List.forall_mem_append, List.forall_mem_append] at blank
  exact ⟨blank.1.1.1, blank.1.1.2, blank.1.2, blank.2⟩

theorem visible (text : SourceText) : Text.isBlank text.quote = false := by
  rcases (Bool.or_eq_true _ _).mp text.quoted with double | single
  · rw [eq_of_beq double]
    decide
  · rw [eq_of_beq single]
    decide

theorem sourceValue?_chars (text : SourceText) : sourceValue? text.chars = some text.value := by
  obtain ⟨indent, gap, -, trail⟩ := text.blanks
  apply sourceValue?_eq_some_iff.mpr
  refine ⟨text.gap, gap, ?_⟩
  have trimmed : Text.trimChars (text.indent ++ 's' :: ("ource".toList ++ (text.gap ++
      '=' :: (text.margin ++ text.quote :: text.path)) ++ text.quote :: text.trail)) =
      's' :: ("ource".toList ++ (text.gap ++
        '=' :: (text.margin ++ text.quote :: text.path)) ++ [text.quote]) :=
    Text.trimChars_around (by decide) text.visible indent trail
  have split : "source".toList = 's' :: "ource".toList := rfl
  rw [chars, value, split]
  simpa only [List.append_assoc, List.cons_append, List.nil_append] using trimmed

theorem sourcePath_value (text : SourceText) : sourcePath text.value = text.path := by
  have trimmed : Text.trimChars text.value = text.quote :: (text.path ++ [text.quote]) :=
    Text.trimChars_around text.visible text.visible text.blanks.2.2.1
      fun _ member => absurd member List.not_mem_nil
  rw [sourcePath, trimmed, stripChar_quoted text.quoted text.filled text.bare]

end SourceText

/-- A line of a text that may include files. -/
inductive WrittenLine where
  | source (text : SourceText)
  | other (chars : List Char) (ordinary : ¬ NamesSource chars)

namespace WrittenLine

def chars : WrittenLine → List Char
  | source text => text.chars
  | other chars _ => chars

def path? : WrittenLine → Option String
  | source text => some (String.ofList text.path)
  | other _ _ => none

def other? : WrittenLine → Option (List Char)
  | source _ => none
  | other chars _ => some chars

end WrittenLine

/-! ## Texts -/

/-- Lines are taken apart into the paths of the including ones and the text of the others. -/
theorem extractLines_written (lines : List WrittenLine) :
    extractLines (lines.map WrittenLine.chars) =
      ⟨lines.filterMap WrittenLine.path?, endedLines (lines.filterMap WrittenLine.other?)⟩ := by
  induction lines with
  | nil => rfl
  | cons line others inductionHypothesis =>
      rw [List.map_cons, extractLines, inductionHypothesis]
      cases line with
      | source text =>
          have filled : text.path.isEmpty = false := List.isEmpty_eq_false_iff.mpr text.filled
          rw [WrittenLine.chars, text.sourceValue?_chars]
          dsimp only
          rw [text.sourcePath_value, filled]
          rfl
      | other chars ordinary =>
          rw [WrittenLine.chars, sourceValue?_eq_none ordinary]
          exact congrArg _ (endedLines_cons ..).symm

theorem extractLines_ordinary {lines : List (List Char)}
    (ordinary : ∀ line ∈ lines, ¬ NamesSource line) :
    extractLines lines = ⟨[], endedLines lines⟩ := by
  induction lines with
  | nil => rfl
  | cons line others inductionHypothesis =>
      obtain ⟨here, later⟩ := List.forall_mem_cons.mp ordinary
      rw [extractLines, inductionHypothesis later, sourceValue?_eq_none here, endedLines_cons]

theorem endsLine_of_eq {ending : List Char} (ends : ending = ['\n'] ∨ ending = ['\r', '\n']) :
    Text.EndsLine (· == '\n') (· == '\r') ending := by
  rcases ends with rfl | rfl
  · exact .feed rfl
  · exact .returnFeed rfl rfl rfl

theorem unbroken_of_not_mem {line : List Char} (free : '\n' ∉ line ∧ '\r' ∉ line) :
    Text.Unbroken (· == '\n') (· == '\r') line := by
  intro character member
  constructor
  · exact beq_false_of_ne fun same => free.1 (same ▸ member)
  · exact beq_false_of_ne fun same => free.2 (same ▸ member)

/-- Taking including lines out undoes writing them.  All their paths are given back in order, and
all the other lines in order with a line feed behind each, whichever line end the text has and
whether there is one behind its last line or not.  What is left includes no file, and taking
including lines out of it leaves it as it is. -/
theorem extractSources_written {lines : List WrittenLine} {ending : List Char} {text : String}
    (free : ∀ line ∈ lines, '\n' ∉ line.chars ∧ '\r' ∉ line.chars)
    (ends : ending = ['\n'] ∨ ending = ['\r', '\n'])
    (forms : Text.Forms ending (lines.map WrittenLine.chars) text.toList) :
    extractSources text =
      ⟨lines.filterMap WrittenLine.path?, endedLines (lines.filterMap WrittenLine.other?)⟩ ∧
    extractSources (String.ofList (extractSources text).rest) =
      ⟨[], (extractSources text).rest⟩ := by
  have taken : extractSources text =
      ⟨lines.filterMap WrittenLine.path?, endedLines (lines.filterMap WrittenLine.other?)⟩ := by
    have unbroken : ∀ line ∈ lines.map WrittenLine.chars,
        Text.Unbroken (· == '\n') (· == '\r') line := by
      intro line member
      obtain ⟨written, listed, rfl⟩ := List.mem_map.mp member
      exact unbroken_of_not_mem (free written listed)
    rw [extractSources, Text.lines, Text.linesBy_of_forms forms (endsLine_of_eq ends) unbroken,
      extractLines_written]
  have kept : ∀ line ∈ lines.filterMap WrittenLine.other?,
      ¬ NamesSource line ∧ Text.Unbroken (· == '\n') (· == '\r') line := by
    intro line member
    obtain ⟨written, listed, same⟩ := List.mem_filterMap.mp member
    cases written with
    | source source => cases same
    | other chars ordinary =>
        obtain rfl : chars = line := Option.some.inj same
        exact ⟨ordinary, unbroken_of_not_mem (free _ listed)⟩
  refine ⟨taken, ?_⟩
  have apart := Text.linesBy_of_forms (.ended (lines.filterMap WrittenLine.other?))
    (endsLine_of_eq (.inl rfl)) fun line member => (kept line member).2
  rw [taken]
  dsimp only
  rw [extractSources, String.toList_ofList, Text.lines, endedLines, apart,
    extractLines_ordinary fun line member => (kept line member).1, endedLines]

/-- Lines with blanks of several kinds, quotes within a path, a key that only begins like an
including line, and an empty line. -/
def mixedLines : List WrittenLine := [
  .source ⟨['\t'], [], ['\x0b'], '\x27', "a=\x22b\x22 #1.toml".toList, [' ', ' '],
    List.all_eq_true.mp (by decide), by decide, by decide, by decide⟩,
  .other "sources = 1".toList (by decide),
  .other [] (by decide),
  .source ⟨[], [' '], [' '], '\x22', " c ".toList, [],
    List.all_eq_true.mp (by decide), by decide, by decide, by decide⟩]

theorem extractSources_written_mixedLines :
    (∀ line ∈ mixedLines, '\n' ∉ line.chars ∧ '\r' ∉ line.chars) ∧
    extractSources ("\tsource=\x0b\x27a=\x22b\x22 #1.toml\x27  \r\n" ++
        "sources = 1\r\n\r\nsource = \x22 c \x22") =
      ⟨["a=\x22b\x22 #1.toml", " c "], "sources = 1\n\n".toList⟩ ∧
    extractSources "sources = 1\n\n" = ⟨[], "sources = 1\n\n".toList⟩ := by
  have free : ∀ line ∈ mixedLines, '\n' ∉ line.chars ∧ '\r' ∉ line.chars := by decide
  have forms : Text.Forms ['\r', '\n'] (mixedLines.map WrittenLine.chars)
      ("\tsource=\x0b\x27a=\x22b\x22 #1.toml\x27  \r\n" ++
        "sources = 1\r\n\r\nsource = \x22 c \x22").toList :=
    .unended ((mixedLines.take 3).map WrittenLine.chars) (by decide)
  obtain ⟨taken, rest⟩ := extractSources_written free (.inr rfl) forms
  rw [taken] at rest
  exact ⟨free, taken, rest⟩

end LogLayout.Config
