import LogLayout.Proofs.Record.Reading

namespace LogLayout.RecordDraft

open Json

/-!
# Reading undoes writing

A draft is what some members have given of a structure.  One member more gives one field more,
or nothing new, so at the end of an object the draft has all the fields that were written; the
others hold what stands in for them.  From this follows that every text that writes a record is
read as that record.
-/

/-! ## Structures -/

def shown {Value : Type} (done : List String) (field : String) (value : Value) : Option Value :=
  if field ∈ done then some value else none

@[simp]
theorem shown_cons_self {Value : Type} (done : List String) (field : String) (value : Value) :
    shown (field :: done) field value = some value :=
  if_pos List.mem_cons_self

theorem shown_cons_of_ne {Value : Type} {field key : String} (apart : field ≠ key)
    (done : List String) (value : Value) :
    shown (key :: done) field value = shown done field value := by
  simp only [shown, List.mem_cons, apart, false_or]

theorem shown_cons_of_not_mem {Value : Type} {fields : List String} {key : String}
    (unknown : key ∉ fields) {field : String} (known : field ∈ fields) (done : List String)
    (value : Value) : shown (key :: done) field value = shown done field value :=
  shown_cons_of_ne (fun same => unknown (by rwa [← same])) done value

/-- What stands in for a field that is not given gives its value back if it holds it. -/
theorem getD_shown {Value : Type} {done : List String} {field : String} {value default : Value}
    (omitted : field ∉ done → value = default) : (shown done field value).getD default = value := by
  unfold shown
  split
  next => rfl
  next missing => exact (omitted missing).symm

section Structures

variable {State : Type} {member : State → String → Reader State}
  {written : String → List Char → Prop} {fields : List String} {given : List String → State}

theorem leads_given
    (step : ∀ done key text, (key ∈ fields → key ∉ done) → written key text →
      Reads (member (given done) key) text (given (key :: done)))
    {members : List (String × List Char)} (each : ∀ member ∈ members, written member.1 member.2)
    (done : List String)
    (once : ((members.map Prod.fst ++ done).filter (· ∈ fields)).Nodup) :
    Leads member (given done) members (given ((members.map Prod.fst).reverse ++ done)) := by
  induction members generalizing done with
  | nil => exact .nil
  | cons head members inductionHypothesis =>
      rcases head with ⟨key, text⟩
      rcases List.forall_mem_cons.mp each with ⟨headWritten, othersWritten⟩
      have fresh : key ∈ fields → key ∉ done := by
        intro known given
        have kept : decide (key ∈ fields) = true := decide_eq_true known
        rw [List.map_cons, List.cons_append, List.filter_cons, if_pos kept] at once
        exact (List.nodup_cons.mp once).1
          (List.mem_filter.mpr ⟨List.mem_append_right _ given, kept⟩)
      have restOnce : ((members.map Prod.fst ++ key :: done).filter (· ∈ fields)).Nodup :=
        (List.perm_middle.filter _).nodup_iff.mpr once
      have others := inductionHypothesis othersWritten (key :: done) restOnce
      rw [List.map_cons, List.reverse_cons, List.append_assoc, List.singleton_append]
      exact .cons (step done key text fresh headWritten) others

theorem exists_reads_readStructure
    (step : ∀ done key text, (key ∈ fields → key ∉ done) → written key text →
      Reads (member (given done) key) text (given (key :: done)))
    {omitted : String → Prop} {text : List Char}
    (structured : StructureWritten fields written omitted text) :
    ∃ done, (∀ field ∈ fields, field ∉ done → omitted field) ∧
      ∀ item, Reads (readStructure member item (given [])) text (given done) := by
  obtain ⟨members, object, once, each, others⟩ := structured
  have leads := leads_given step each [] (by rwa [List.append_nil])
  rw [List.append_nil] at leads
  refine ⟨(members.map Prod.fst).reverse, fun field known missing => ?_, ?_⟩
  · exact others field known fun given => missing (List.mem_reverse.mpr given)
  · intro item gap rest blank _
    obtain ⟨inner, dropped, read⟩ := readMembers_object object leads blank rest
    simp only [readStructure, dropped]
    exact read

theorem reads_readField {Value : Type} {read : Reader Value} {text : List Char} {value : Value}
    {done : List String} {field : String} {store : Value → State} {next : State}
    (new : field ∉ done) (reads : Reads read text value) (stored : store value = next) :
    Reads (readField (shown done field value) read store) text next := by
  intro gap rest blank ends
  subst stored
  rw [shown, if_neg new]
  exact bind_of_eq_ok (reads gap rest blank ends) _

theorem reads_skipField {text : List Char} (derives : Derives .value text) (state : State) :
    Reads (skipField state) text state := by
  intro gap rest blank ends
  have skipped : skipValue (gap ++ (text ++ rest)) = some rest :=
    derives.skipValue_append blank ends
  simp only [skipField, skipped]
  rfl

theorem reads_readOptional_structure {Value : Type} {read : Reader Value}
    {fields : List String} {written : Value → String → List Char → Prop}
    {omitted : Value → String → Prop}
    (reads : ∀ value {text}, StructureWritten fields (written value) (omitted value) text →
      Reads read text value)
    {value : Option Value} {text : List Char}
    (either : OptionWritten
      (fun value => StructureWritten fields (written value) (omitted value)) value text) :
    Reads (readOptional read) text value := by
  have begins (value : Value)
      (structured : StructureWritten fields (written value) (omitted value) text) :
      ∃ others, text = '\x7b' :: others := by
    obtain ⟨members, object, -⟩ := structured
    cases object <;> exact ⟨_, rfl⟩
  exact reads_readOptional rfl (by decide) begins (fun value => reads value) either

end Structures

/-! ## Callers -/

def CallerDraft.given (caller : Caller) (done : List String) : CallerDraft where
  module := shown done "module" caller.module
  file := shown done "file" caller.file
  line := shown done "line" caller.line
  function := shown done "function" caller.function

theorem readCallerField_of_not_mem {key : String} (unknown : key ∉ callerFields)
    (draft : CallerDraft) : readCallerField draft key = skipField draft := by
  unfold readCallerField
  split
  all_goals first
    | rfl
    | exact absurd (by decide) unknown

theorem reads_readCallerField (caller : Caller) (done : List String) (key : String)
    (text : List Char) (fresh : key ∈ callerFields → key ∉ done)
    (written : caller.FieldWritten key text) :
    Reads (readCallerField (.given caller done) key) text (.given caller (key :: done)) := by
  by_cases known : key ∈ callerFields
  · have new := fresh known
    simp only [callerFields, List.mem_cons, List.not_mem_nil, or_false] at known
    rcases known with rfl | rfl | rfl | rfl
    all_goals simp only [Caller.FieldWritten, readCallerField] at written ⊢
    · exact reads_readField new (reads_readString written)
        (by simp [CallerDraft.given, shown_cons_of_ne])
    · exact reads_readField new (reads_readString written)
        (by simp [CallerDraft.given, shown_cons_of_ne])
    · exact reads_readField new (reads_readLine written)
        (by simp [CallerDraft.given, shown_cons_of_ne])
    · exact reads_readField new (reads_readOptional_string written)
        (by simp [CallerDraft.given, shown_cons_of_ne])
  · have same : CallerDraft.given caller (key :: done) = CallerDraft.given caller done := by
      simp (disch := decide) only [CallerDraft.given, shown_cons_of_not_mem known]
    rw [same]
    rw [caller.fieldWritten_of_not_mem known] at written
    rw [readCallerField_of_not_mem known]
    exact reads_skipField written _

theorem reads_readCaller {caller : Caller} {text : List Char} (written : caller.Written text) :
    Reads readCaller text caller := by
  intro gap rest blank ends
  obtain ⟨done, others, reads⟩ :=
    exists_reads_readStructure (reads_readCallerField caller) written
  have required (field : String) (known : field ∈ callerFields) (apart : field ≠ "function") :
      field ∈ done :=
    by_contra fun missing => apart (others field known missing).1
  refine (bind_of_eq_ok (reads _ gap rest blank ends) _).trans ?_
  simp only [CallerDraft.given, shown, required "module" (by decide) (by decide),
    required "file" (by decide) (by decide), required "line" (by decide) (by decide), if_true]
  by_cases function : "function" ∈ done
  · simp only [function, if_true, Option.getD_some]
    rfl
  · have none := (others "function" (by decide) function).2
    simp only [function, if_false, Option.getD_none, ← none]
    rfl

/-! ## Errors -/

def ErrorDraft.given (error : ErrorDetails) (done : List String) : ErrorDraft where
  message := shown done "message" error.message
  causes := shown done "causes" error.causes

theorem readErrorField_of_not_mem {key : String} (unknown : key ∉ errorFields)
    (draft : ErrorDraft) : readErrorField draft key = skipField draft := by
  unfold readErrorField
  split
  all_goals first
    | rfl
    | exact absurd (by decide) unknown

theorem reads_readErrorField (error : ErrorDetails) (done : List String) (key : String)
    (text : List Char) (fresh : key ∈ errorFields → key ∉ done)
    (written : error.FieldWritten key text) :
    Reads (readErrorField (.given error done) key) text (.given error (key :: done)) := by
  by_cases known : key ∈ errorFields
  · have new := fresh known
    simp only [errorFields, List.mem_cons, List.not_mem_nil, or_false] at known
    rcases known with rfl | rfl
    all_goals simp only [ErrorDetails.FieldWritten, readErrorField] at written ⊢
    · exact reads_readField new (reads_readString written)
        (by simp [ErrorDraft.given, shown_cons_of_ne])
    · exact reads_readField new (reads_readStrings written)
        (by simp [ErrorDraft.given, shown_cons_of_ne])
  · have same : ErrorDraft.given error (key :: done) = ErrorDraft.given error done := by
      simp (disch := decide) only [ErrorDraft.given, shown_cons_of_not_mem known]
    rw [same]
    rw [error.fieldWritten_of_not_mem known] at written
    rw [readErrorField_of_not_mem known]
    exact reads_skipField written _

theorem reads_readError {error : ErrorDetails} {text : List Char} (written : error.Written text) :
    Reads readError text error := by
  intro gap rest blank ends
  obtain ⟨done, others, reads⟩ :=
    exists_reads_readStructure (reads_readErrorField error) written
  refine (bind_of_eq_ok (reads _ gap rest blank ends) _).trans ?_
  have message := getD_shown (others "message" (by decide))
  have causes := getD_shown (others "causes" (by decide))
  simp only [ErrorDraft.given, message, causes]
  rfl

/-! ## Records -/

def given (record : Record) (done : List String) : RecordDraft where
  logger := shown done "logger" record.logger
  level := shown done "level" record.level
  timestamp := shown done "timestamp" record.timestamp
  message := shown done "message" record.message
  arguments := shown done "args" record.arguments
  thread := shown done "thread" record.thread
  marker := shown done "marker" record.marker
  pairs := shown done "mdc" record.pairs
  caller := shown done "caller" record.caller
  error := shown done "error" record.error

theorem readRecordField_of_not_mem {key : String} (unknown : key ∉ recordFields)
    (draft : RecordDraft) : readRecordField draft key = skipField draft := by
  unfold readRecordField
  split
  all_goals first
    | rfl
    | exact absurd (by decide) unknown

theorem reads_readRecordField {date : List Char → Prop} (record : Record)
    (stands : ∀ written, date written →
      Time.Timestamp.readChars written = some record.timestamp)
    (done : List String) (key : String)
    (text : List Char) (fresh : key ∈ recordFields → key ∉ done)
    (written : record.FieldWritten date key text) :
    Reads (readRecordField (given record done) key) text (given record (key :: done)) := by
  by_cases known : key ∈ recordFields
  · have new := fresh known
    simp only [recordFields, List.mem_cons, List.not_mem_nil, or_false] at known
    rcases known with rfl | rfl | rfl | rfl | rfl | rfl | rfl | rfl | rfl | rfl
    all_goals simp only [Record.FieldWritten, readRecordField] at written ⊢
    · exact reads_readField new (reads_readString written) (by simp [given, shown_cons_of_ne])
    · exact reads_readField new (reads_readLevel written) (by simp [given, shown_cons_of_ne])
    · exact reads_readField new (reads_readTimestamp stands written)
        (by simp [given, shown_cons_of_ne])
    · exact reads_readField new (reads_readString written) (by simp [given, shown_cons_of_ne])
    · exact reads_readField new (reads_readStrings written) (by simp [given, shown_cons_of_ne])
    · exact reads_readField new (reads_readString written) (by simp [given, shown_cons_of_ne])
    · exact reads_readField new (reads_readOptional_string written)
        (by simp [given, shown_cons_of_ne])
    · exact reads_readField new (reads_readPairs written) (by simp [given, shown_cons_of_ne])
    · exact reads_readField new (reads_readOptional_structure (fun _ => reads_readCaller) written)
        (by simp [given, shown_cons_of_ne])
    · exact reads_readField new (reads_readOptional_structure (fun _ => reads_readError) written)
        (by simp [given, shown_cons_of_ne])
  · have same : given record (key :: done) = given record done := by
      simp (disch := decide) only [given, shown_cons_of_not_mem known]
    rw [same]
    rw [record.fieldWritten_of_not_mem known] at written
    rw [readRecordField_of_not_mem known]
    exact reads_skipField written _

theorem parse_of_writtenWith {date : List Char → Prop} {now : Time.Instant} {thread : String}
    {record : Record}
    (stands : ∀ written, date written →
      Time.Timestamp.readChars written = some record.timestamp)
    {text : String} (written : record.WrittenWith date now thread text) :
    (parse text).map (·.complete now thread) = .ok record := by
  obtain ⟨before, object, behind, beforeBlank, behindBlank, structured, characters⟩ := written
  obtain ⟨done, others, reads⟩ :=
    exists_reads_readStructure (reads_readRecordField record stands) structured
  have ends : Ends behind := by
    have rest := Ends.blank_append behindBlank (fun _ begins => nomatch begins : Ends [])
    rwa [List.append_nil] at rest
  have finished : dropSpace behind = [] := by
    have dropped := dropSpace_blank_append behindBlank []
    rwa [List.append_nil] at dropped
  have read : parse text = .ok (given record done) := by
    rw [parse, characters]
    refine (bind_of_eq_ok (reads _ before behind beforeBlank ends) _).trans ?_
    simp only [finished, List.isEmpty_nil, if_true]
    rfl
  have complete : (given record done).complete now thread = record := by
    have logger := getD_shown (others "logger" (by decide))
    have level := getD_shown (others "level" (by decide))
    have timestamp := getD_shown (others "timestamp" (by decide))
    have message := getD_shown (others "message" (by decide))
    have arguments := getD_shown (others "args" (by decide))
    have inThread := getD_shown (others "thread" (by decide))
    have marker := getD_shown (others "marker" (by decide))
    have pairs := getD_shown (others "mdc" (by decide))
    have caller := getD_shown (others "caller" (by decide))
    have error := getD_shown (others "error" (by decide))
    simp only [RecordDraft.complete, given, logger, level, timestamp, message, arguments, inThread,
      marker, pairs, caller, error]
  rw [read]
  exact congrArg Except.ok complete

/-- Every text that writes a record is read as that record: the fields may stand in any order,
those that hold what stands in for them may be left out, and unknown ones may stand between them. -/
theorem parse_of_written {now : Time.Instant} {thread : String} {record : Record} {text : String}
    (written : record.Written now thread text) :
    (parse text).map (·.complete now thread) = .ok record :=
  parse_of_writtenWith (fun _ writes => writes.readChars_eq) written

/-- A record of a leap second with a caller is read from an object with its fields in another
order, an unknown field, an escaped character and a second spelling of its level. -/
theorem parse_of_written_warning :
    let now : Time.Instant := ⟨0, 0⟩
    let text := " \x7b\x22level\x22: \x22Warning\x22, \x22tags\x22: [1e3, \x7b\x7d]," ++
      "\x22caller\x22:" ++
      "\x7b\x22line\x22:7,\x22file\x22:\x22a\\u002frs\x22,\x22module\x22:\x22a\x22\x7d," ++
      "\x22timestamp\x22:\x222016-12-31T23:59:60Z\x22\x7d"
    let record : Record :=
      { logger := "", level := .warn, timestamp := ⟨1483228799, 1000000000⟩, message := "",
        thread := "main", caller := some ⟨"a", "a/rs", 7, none⟩ }
    record.Written now "main" text ∧ (parse text).map (·.complete now "main") = .ok record := by
  intro now text record
  have gap : Blank [' '] := by decide
  have plain (key : String) (plain : PlainText key.toList) : Spells key.toList key.toList :=
    .of_plain plain
  have caller : Caller.Written ⟨"a", "a/rs", 7, none⟩
      "\x7b\x22line\x22:7,\x22file\x22:\x22a\\u002frs\x22,\x22module\x22:\x22a\x22\x7d".toList := by
    have line : LineWritten 7 ['7'] := ⟨.digits (by decide) (by decide), rfl⟩
    have file : StringWritten "a/rs" "\x22a\\u002frs\x22".toList :=
      ⟨"a\\u002frs".toList, .plain (by decide) (.unit (by decide) (.of_plain (by decide))), rfl⟩
    have module : StringWritten "a" "\x22a\x22".toList := ⟨['a'], .of_plain (by decide), rfl⟩
    refine ⟨[("line", ['7']), ("file", "\x22a\\u002frs\x22".toList),
      ("module", "\x22a\x22".toList)], ?_, by decide, ?_, ?_⟩
    · exact .members (.more blank_nil (plain "line" (by decide)) blank_nil blank_nil blank_nil
        (.more blank_nil (plain "file" (by decide)) blank_nil blank_nil blank_nil
          (.last blank_nil (plain "module" (by decide)) blank_nil blank_nil blank_nil)))
    · simp only [List.forall_mem_cons]
      exact ⟨line, file, module, nofun⟩
    · simp [callerFields, Caller.FieldOmitted]
  have level : LevelWritten .warn "\x22Warning\x22".toList :=
    ⟨"Warning".toList, by decide, "Warning".toList, .of_plain (by decide), rfl⟩
  have thousand : Number ("1e3".toList) :=
    @Number.parts [] ['1'] [] ['e', '3'] (by decide) (.digits (by decide) (by decide)) .none
      (@Exponent.digits 'e' [] ['3'] (by decide) (by decide) (by decide))
  have tags : Derives .value "[1e3, \x7b\x7d]".toList :=
    .array (.item blank_nil (.number thousand) blank_nil
      (.lastItem gap (.emptyObject blank_nil) blank_nil))
  have timestamp : DateWritten (Time.Timestamp.Writes record.timestamp)
      "\x222016-12-31T23:59:60Z\x22".toList := by
    have noFraction : record.timestamp.fraction = 0 := by decide
    have shown : Time.Timestamp.clockChars (.ofInstant 0 record.timestamp) 'T' ([] ++ ['Z']) =
        "2016-12-31T23:59:60Z".toList := by decide
    refine ⟨_, ?_, "2016-12-31T23:59:60Z".toList, .of_plain (by decide), rfl⟩
    rw [← shown]
    exact .shows ⟨by decide, by decide⟩ ⟨by decide, by decide⟩ (by decide)
      (noFraction ▸ .none) .universal
  have object : ObjectText [("level", "\x22Warning\x22".toList),
      ("tags", "[1e3, \x7b\x7d]".toList),
      ("caller",
        "\x7b\x22line\x22:7,\x22file\x22:\x22a\\u002frs\x22,\x22module\x22:\x22a\x22\x7d".toList),
      ("timestamp", "\x222016-12-31T23:59:60Z\x22".toList)] _ :=
    .members (.more blank_nil (plain "level" (by decide)) blank_nil gap blank_nil
      (.more gap (plain "tags" (by decide)) blank_nil gap blank_nil
        (.more blank_nil (plain "caller" (by decide)) blank_nil blank_nil blank_nil
          (.last blank_nil (plain "timestamp" (by decide)) blank_nil blank_nil blank_nil))))
  have written : record.Written now "main" text := by
    refine ⟨[' '], _, [], gap, blank_nil, ⟨_, object, by decide, ?_, ?_⟩, by decide +kernel⟩
    · simp only [List.forall_mem_cons]
      exact ⟨level, tags, caller, timestamp, nofun⟩
    · simp [recordFields, Record.FieldOmitted, record]
  exact ⟨written, parse_of_written written⟩
end LogLayout.RecordDraft
