import LogLayout.Proofs.Pattern.FaultPlaces
import LogLayout.Proofs.Pattern.Heads
import LogLayout.Proofs.Pattern.ListEnds
import LogLayout.Proofs.Time.AcceptedPatterns

namespace LogLayout.Pattern

open Time (DatePattern DateFlaw)

/-!
# The formats of dates

The words for dates read their format when the pattern is compiled.  A directive is refused for a
format that cannot be read, and the fault names its word and the format.  So in a pattern that
compiles every directive for dates has a format that could be read, and shows its timestamp in it.
-/

/-! ## What the words for dates build -/

section Dates

variable {default : String} {spec : Spec} {context : Context}

theorem instantiate_date_eq_error {flaw : DateFlaw}
    (unread : DatePattern.parse (Words.chosenFormat spec default) = .error flaw) :
    (Words.date default).instantiate spec context =
      .error ⟨spec.word, Words.chosenFormat spec default, .dateFormat flaw⟩ := by
  rw [Builder.instantiate_eq_map]
  simp only [Words.date, Builder.plain, unread]
  rfl

/-- What is built has a format that could be read, and shows the timestamp in it. -/
theorem exists_of_instantiate_date {unit : Renderer}
    (built : (Words.date default).instantiate spec context = .ok unit) :
    ∃ dates zone, DatePattern.parse (Words.chosenFormat spec default) = .ok dates ∧
      Words.chosenZone spec context = .ok zone ∧
      ∀ record, unit record = spec.head.lengths.apply
        (dates.format (zone.localTime context.machineOffset record.timestamp)) := by
  cases format : DatePattern.parse (Words.chosenFormat spec default) with
  | error flaw => cases (instantiate_date_eq_error format).symm.trans built
  | ok dates =>
      rw [Builder.instantiate_eq_map] at built
      simp only [Words.date, Builder.plain, format] at built
      cases chosen : Words.chosenZone spec context with
      | error bad =>
          rw [chosen] at built
          cases built
      | ok zone =>
          rw [chosen] at built
          cases built
          exact ⟨dates, zone, rfl, rfl, fun record => justify_apply _ _ record⟩

/-- A format that is given and has a problem is the one that is chosen, blanks around it taken
off. -/
theorem chosenFormat_eq_trim {parameter : String} {flaw : DateFlaw}
    (given : spec.parameter? 0 = some parameter)
    (unread : DatePattern.parse (Text.trim parameter) = .error flaw) :
    Words.chosenFormat spec default = Text.trim parameter := by
  rw [Words.chosenFormat, given]
  refine if_neg fun empty => ?_
  rw [empty, DatePattern.parse_eq_error_iff] at unread
  exact unread.not_accepted ⟨rfl, fun _ member => absurd member List.not_mem_nil⟩

end Dates

theorem resolve?_dates :
    Registry.builtin.resolve? "date" = some (Words.date Words.dateFormat) ∧
      Registry.builtin.resolve? "d" = some (Words.date Words.dateFormat) ∧
      Registry.builtin.resolve? "time" = some (Words.date Words.timeFormat) :=
  ⟨rfl, rfl, rfl⟩

/-! ## Directives for dates -/

/-- Reading a pattern arrives at a directive for dates: it has read a head with lengths in range and
a word for dates, no more letters follow, and there is a list of parameters just where a brace opens
one. -/
structure DateDirective (registry : Registry) (context : Context) (pattern : String)
    (default : String) (position : Nat) (head : HeadText) (parameters : Option ParameterListText)
    (behind : List Char) : Prop where
  opens : ∃ opened, OpensAt registry context none (.ofText pattern) opened position
    (head.chars ++ (parameterChars parameters ++ behind))
  inRange : InRange head.lengths
  resolved : registry.resolve? head.name = some (Words.date default)
  maximal : ∀ character ∈ (parameterChars parameters ++ behind).head?,
    Text.isAlphabetic character = false
  listed : parameters.isSome = true ↔ (parameterChars parameters ++ behind).head? = some '\x7b'

section Directives

variable {registry : Registry} {context : Context} {pattern default : String} {position : Nat}
  {head : HeadText} {parameters : Option ParameterListText} {behind : List Char}

/-- A pattern is not compiled if the format of one of its dates cannot be read. -/
theorem DateDirective.compile_eq_error
    (directive : DateDirective registry context pattern default position head parameters behind)
    {parameter : String} (given : (parameterValues parameters)[0]? = some parameter)
    {flaw : DateFlaw} (unread : DatePattern.parse (Text.trim parameter) = .error flaw) :
    registry.compile context pattern =
      .error (.badParameter ⟨head.name, Text.trim parameter, .dateFormat flaw⟩) := by
  rcases directive with ⟨⟨opened, opens⟩, inRange, resolved, maximal, listed⟩
  have begun : Begun registry context position head none (Words.date default)
      (parameterChars parameters ++ behind) :=
    ⟨inRange, resolved, maximal, iff_of_false Bool.false_ne_true fun both => (nomatch both.1),
      fun _ inside => (nomatch inside)⟩
  have chosen : Words.chosenFormat ⟨head.head position, parameterValues parameters, none⟩ default =
      Text.trim parameter := chosenFormat_eq_trim given unread
  have built : (Words.date default).instantiate
      ⟨head.head position, parameterValues parameters, none⟩ context =
        .error ⟨head.name, Text.trim parameter, .dateFormat flaw⟩ := by
    rw [← chosen] at unread ⊢
    exact instantiate_date_eq_error unread
  have failed := (Refused.parameters begun listed built).compileDirective
  rw [insideChars, List.nil_append, List.append_assoc] at failed
  rw [Registry.compile, opens.compileUntil_error failed]

/-- A directive for dates that is complete has a format that could be read, and shows the timestamp
in it. -/
theorem Completes.exists_dates {inside : Option (List Piece)} {unit : Renderer}
    (completes : Completes registry context position head inside parameters (Words.date default)
      unit behind) :
    ∃ (dates : DatePattern) (zone : Time.Zone),
      DatePattern.parse (Words.chosenFormat
        ⟨head.head position, parameterValues parameters, inside.map compiledPieces⟩ default) =
          .ok dates ∧
      ∀ record, unit record = head.lengths.apply
        (dates.format (zone.localTime context.machineOffset record.timestamp)) := by
  rcases exists_of_instantiate_date completes.written.built with ⟨dates, zone, read, -, shown⟩
  exact ⟨dates, zone, read, shown⟩

end Directives

/-! ## Patterns with dates -/

/-- A format is read exactly if it ends outside of quotes and all letters outside of quotes are
known, and else the error is about the leftmost problem: the first letter that is not known, or the
quote that is not closed.

The words for dates read their format when the pattern is compiled.  Where such a directive is
reached and its format has a problem, the pattern is not compiled, and the fault names the word and
the format without blanks around it.  In a pattern that is compiled every directive is complete, and
if its word is one for dates then it has a format that could be read, in which it shows the
timestamp. -/
theorem compile_date_format :
    (∀ text, (∃ dates, DatePattern.parse text = .ok dates) ↔
      DatePattern.Accepted (DatePattern.scan false text.toList)) ∧
    (∀ text flaw, DatePattern.parse text = .error flaw ↔
      DatePattern.Leftmost text (DatePattern.scan false text.toList) flaw) ∧
    (Registry.builtin.resolve? "date" = some (Words.date Words.dateFormat) ∧
      Registry.builtin.resolve? "d" = some (Words.date Words.dateFormat) ∧
      Registry.builtin.resolve? "time" = some (Words.date Words.timeFormat)) ∧
    (∀ registry context pattern default position head parameters behind parameter flaw,
      DateDirective registry context pattern default position head parameters behind →
      (parameterValues parameters)[0]? = some parameter →
      DatePattern.Leftmost (Text.trim parameter)
        (DatePattern.scan false (Text.trim parameter).toList) flaw →
      registry.compile context pattern =
        .error (.badParameter ⟨head.name, Text.trim parameter, .dateFormat flaw⟩)) ∧
    ∀ registry context pattern compiled opened position rest,
      registry.compile context pattern = .ok compiled →
      OpensAt registry context none (.ofText pattern) opened position rest →
      ∃ head inside parameters builder unit behind,
        Completes registry context position head inside parameters builder unit behind ∧
        '%' :: rest = directiveChars head inside parameters ++ behind ∧
        ∀ default, builder = Words.date default →
          ∃ (dates : DatePattern) (zone : Time.Zone),
            DatePattern.parse (Words.chosenFormat
              ⟨head.head position, parameterValues parameters, inside.map compiledPieces⟩
                default) = .ok dates ∧
            ∀ record, unit record = head.lengths.apply
              (dates.format (zone.localTime context.machineOffset record.timestamp)) := by
  refine ⟨DatePattern.exists_parse_iff, DatePattern.parse_eq_error_iff, resolve?_dates, ?_, ?_⟩
  · intro registry context pattern default position head parameters behind parameter flaw directive
      given leftmost
    exact directive.compile_eq_error given ((DatePattern.parse_eq_error_iff _ _).mpr leftmost)
  · intro registry context pattern compiled opened position rest done opens
    rcases exists_of_compile done with ⟨finish, whole⟩
    rcases opens.exists_completes whole with
      ⟨head, inside, parameters, builder, unit, behind, completes, text⟩
    refine ⟨head, inside, parameters, builder, unit, behind, completes, text, ?_⟩
    rintro default rfl
    exact completes.exists_dates

/-- Within another directive a format is refused for a letter in front of an open quote, and one
with letters and a doubled quote between quotes is taken. -/
theorem compile_date_format_nested :
    let context : Context := { application := "shop", node := "east", console := .plain }
    let refused := "%red(%date\x7bHH 'at' Q 'open \x7d)"
    let accepted := "%red(%time\x7bHH 'o''clock'\x7d)"
    (∃ date list, DateDirective Registry.builtin context refused Words.dateFormat 5 date (some list)
        [')'] ∧ date.name = "date" ∧ (parameterValues (some list))[0]? = some "HH 'at' Q 'open " ∧
      Text.trim "HH 'at' Q 'open " = "HH 'at' Q 'open" ∧
      DatePattern.Leftmost "HH 'at' Q 'open" (DatePattern.scan false "HH 'at' Q 'open".toList)
        (.unknownLetter 'Q') ∧
      Registry.builtin.compile context refused =
        .error (.badParameter ⟨"date", "HH 'at' Q 'open", .dateFormat (.unknownLetter 'Q')⟩)) ∧
    ∃ compiled rest, Registry.builtin.compile context accepted = .ok compiled ∧
      OpensAt Registry.builtin context none (.ofText accepted) [0] 5 rest ∧
      ∃ head inside parameters builder unit behind,
        Completes Registry.builtin context 5 head inside parameters builder unit behind ∧
        '%' :: rest = directiveChars head inside parameters ++ behind := by
  intro context refused accepted
  let red : HeadText := .bare "red" (by decide) (List.all_eq_true.mp (by decide))
  let date : HeadText := .bare "date" (by decide) (List.all_eq_true.mp (by decide))
  let list : ParameterListText := ⟨[], .bare [] "HH 'at' Q 'open ".toList
    (fun _ member => absurd member List.not_mem_nil)
    (fun _ member => of_decide_eq_true (List.all_eq_true.mp
      (show "HH 'at' Q 'open ".toList.all (· ∉ [',', '\x7d']) = true by decide) _ member))
    (by rintro _ ⟨⟩; decide), '\x7d', List.mem_cons_of_mem _ List.mem_cons_self, by decide⟩
  have redKnown : (Registry.builtin.resolve? red.name).any Builder.encloses = true := by
    decide +kernel
  rcases Option.any_eq_true _ _ |>.mp redKnown with ⟨redBuilder, redResolved, encloses⟩
  have opens (pattern : String) (rest : List Char) (single : rest.head? ≠ some '%')
      (text : pattern.toList = '%' :: (red.chars ++ '(' :: '%' :: rest)) :
      OpensAt Registry.builtin context none (.ofText pattern) [0] 5 rest := by
    rw [Cursor.ofText, text]
    exact ⟨⟨some ')', .enter (HeadText.inRange_bare _ _ _) redResolved encloses .here⟩, single⟩
  rcases compile_date_format with ⟨-, -, ⟨dateResolved, -⟩, refuses, accepts⟩
  constructor
  · have directive : DateDirective Registry.builtin context refused Words.dateFormat 5 date
        (some list) [')'] :=
      ⟨⟨[0], opens refused _ (by decide) (by decide)⟩, HeadText.inRange_bare _ _ _, dateResolved,
        by rintro _ ⟨⟩; decide, by decide⟩
    have hour : 'H' ∈ DatePattern.knownLetters := by decide
    have known : ∀ letter ∈ ['H', 'H'], letter ∈ DatePattern.knownLetters :=
      List.forall_mem_cons.mpr ⟨hour, List.forall_mem_singleton.mpr hour⟩
    have leftmost : DatePattern.Leftmost "HH 'at' Q 'open"
        (DatePattern.scan false "HH 'at' Q 'open".toList) (.unknownLetter 'Q') :=
      .letter known (by decide)
    have trimmed : Text.trim "HH 'at' Q 'open " = "HH 'at' Q 'open" := by decide
    have failed := refuses _ _ _ _ _ _ _ _ "HH 'at' Q 'open " _ directive rfl (trimmed ▸ leftmost)
    rw [trimmed] at failed
    exact ⟨date, list, directive, rfl, rfl, trimmed, leftmost, failed⟩
  · have compiles : (Registry.builtin.compile context accepted).toOption.any (fun _ => true) =
        true := by
      decide +kernel
    rcases exists_of_any_toOption compiles with ⟨compiled, done, -⟩
    have reached := opens accepted "time\x7bHH 'o''clock'\x7d)".toList (by decide) (by decide)
    rcases accepts _ _ _ _ _ _ _ done reached with
      ⟨head, inside, parameters, builder, unit, behind, completes, text, -⟩
    exact ⟨compiled, _, done, reached, head, inside, parameters, builder, unit, behind, completes,
      text⟩

end LogLayout.Pattern
