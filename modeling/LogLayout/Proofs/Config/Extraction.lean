import LogLayout.Config.Toml
import LogLayout.Proofs.Text.Lines
import LogLayout.Proofs.Toml.Documents

namespace LogLayout.Config

/-!
# What including lines leave behind

Including lines are taken out before a text is read as a document, so that they are found line by
line: below a header and within a string on several lines too.  All the other lines stay as they
are, but for their ends.  These are line feeds afterwards, and that makes no difference to a
document.
-/

/-! ## The lines of a text -/

section Lines

/-- Lines with a line feed behind each. -/
def endedLines (lines : List (List Char)) : List Char := lines.flatMap (· ++ ['\n'])

theorem endedLines_cons (line : List Char) (lines : List (List Char)) :
    endedLines (line :: lines) = line ++ '\n' :: endedLines lines := by
  rw [endedLines, endedLines, List.flatMap_cons, List.append_assoc, List.singleton_append]

theorem endedLines_extendFirst (character : Char) {lines : List (List Char)}
    (filled : lines ≠ []) :
    endedLines (Text.extendFirst character lines) = character :: endedLines lines := by
  cases lines with
  | nil => exact absurd rfl filled
  | cons line others =>
      rw [Text.extendFirst, endedLines_cons, endedLines_cons, List.cons_append]

theorem sameLines_endedLines (text : List Char) :
    Toml.SameLines text (endedLines (Text.lines text)) := by
  unfold Text.lines
  fun_induction Text.linesBy (· == '\n') (· == '\r') text with
  | case1 => exact .nil
  | case2 character feed =>
      rw [eq_of_beq feed]
      exact .keep (by decide) .nil
  | case3 character noFeed =>
      by_cases lone : character = '\r'
      · subst lone
        exact .stray (by decide)
      · exact .keep lone .ended
  | case4 character next rest feed inductionHypothesis =>
      rw [eq_of_beq feed]
      exact .keep (by decide) inductionHypothesis
  | case5 character next rest noFeed ended inductionHypothesis =>
      rw [Bool.and_eq_true] at ended
      rw [eq_of_beq ended.1, eq_of_beq ended.2]
      exact inductionHypothesis.feed
  | case6 character next rest noFeed unended inductionHypothesis =>
      have nonempty : next :: rest ≠ [] := List.cons_ne_nil next rest
      rw [endedLines_extendFirst character (Text.linesBy_ne_nil nonempty)]
      by_cases lone : character = '\r'
      · subst lone
        refine .stray fun first => unended ?_
        rw [List.head?_cons, Option.some_inj] at first
        subst first
        rfl
      · exact inductionHypothesis.keep lone

end Lines

/-! ## Lines that include no file -/

/-- The lines of a text that include no file. -/
def otherLines (text : String) : List (List Char) :=
  (Text.lines text.toList).filter fun line => (sourceValue? line).isNone

theorem extractLines_rest (lines : List (List Char)) :
    (extractLines lines).rest =
      endedLines (lines.filter fun line => (sourceValue? line).isNone) := by
  induction lines with
  | nil => rfl
  | cons line others inductionHypothesis =>
      rw [extractLines]
      cases source : sourceValue? line with
      | none =>
          rw [List.filter_cons_of_pos (by rw [source]; rfl), endedLines_cons, ← inductionHypothesis]
      | some value =>
          rw [List.filter_cons_of_neg (by rw [source]; exact Bool.false_ne_true),
            ← inductionHypothesis]
          dsimp only
          split <;> rfl

/-- A document of exactly the other lines is what is read, whatever its line ends are. -/
theorem parse_eq_decode_of_lines {text kept : String} {document : Toml.Entries}
    (same : Text.lines kept.toList = otherLines text) (read : Toml.parse kept = .ok document) :
    parse? text = decode? kept := by
  have lines : Toml.SameLines kept.toList (String.ofList (extractSources text).rest).toList := by
    rw [String.toList_ofList, extractSources, extractLines_rest, ← otherLines, ← same]
    exact sameLines_endedLines _
  rw [parse?, decode?, decode?, read, Toml.parse_of_sameLines lines read]

theorem otherLines_eq_lines {text : String}
    (noSource : ∀ line ∈ Text.lines text.toList, sourceValue? line = none) :
    otherLines text = Text.lines text.toList :=
  List.filter_eq_self.mpr fun line member => by rw [noSource line member]; rfl

/-- A document without an including line holds the same settings whether such lines are taken out
or not, and any text holds the settings of the document that its other lines form. -/
theorem parse_eq_decode (text : String) :
    (∀ document, Toml.parse text = .ok document →
      (∀ line ∈ Text.lines text.toList, sourceValue? line = none) → parse? text = decode? text) ∧
    ∀ kept document, Toml.parse kept = .ok document →
      Text.lines kept.toList = otherLines text → parse? text = decode? kept :=
  ⟨fun _ read noSource => parse_eq_decode_of_lines (otherLines_eq_lines noSource).symm read,
    fun _ _ read same => parse_eq_decode_of_lines same read⟩

theorem exists_document {text : String} (settings : (decode? text).isSome = true) :
    ∃ document, Toml.parse text = .ok document := by
  unfold decode? at settings
  split at settings
  next document read => exact ⟨document, read⟩
  next => cases settings

/-- A document with carriage returns, a string on several lines, keys that only begin like those of
including lines, and no end of its last line. -/
def returnsText : String :=
  "[aliases]\r\nsourced = 'level' # source = 1\r\n\r\n" ++
    "[apps.web]\r\npattern = '''%message\r\nsources'''"

/-- The same below an including line. -/
def includingText : String := "source = 'extra.toml'\n" ++ returnsText

theorem parse_eq_decode_returnsText :
    parse? returnsText = decode? returnsText ∧ parse? includingText = decode? returnsText := by
  have settings : (decode? returnsText).isSome = true := by decide +kernel
  rcases exists_document settings with ⟨document, read⟩
  exact ⟨(parse_eq_decode returnsText).1 document read (by decide +kernel),
    (parse_eq_decode includingText).2 returnsText document read (by decide +kernel)⟩

/-- An alias of the name that including lines begin with is taken for one of them. -/
theorem parse_ne_decode_aliases :
    ∃ document, Toml.parse "[aliases]\nsource = \"logger\"\n" = .ok document ∧
      document.lookup "source" = none ∧
      parse? "[aliases]\nsource = \"logger\"\n" ≠ decode? "[aliases]\nsource = \"logger\"\n" := by
  have entries : (Toml.parse "[aliases]\nsource = \"logger\"\n").toOption.map
      (fun document => (document.lookup "source").isNone) = some true := by decide +kernel
  rcases Option.map_eq_some_iff.mp entries with ⟨document, read, missing⟩
  refine ⟨document, ?_, Option.isNone_iff_eq_none.mp missing, fun same => ?_⟩
  · cases parsed : Toml.parse "[aliases]\nsource = \"logger\"\n" with
    | error => rw [parsed] at read; cases read
    | ok found => rw [parsed] at read; cases read; rfl
  · have shown := congrArg (fun settings => settings.map (·.aliases.get? "source")) same
    revert shown
    decide +kernel

end LogLayout.Config
