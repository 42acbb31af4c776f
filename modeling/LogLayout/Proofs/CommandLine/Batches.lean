import LogLayout.CommandLine.Program
import LogLayout.Proofs.Text.Encoding

namespace LogLayout

/-!
# Lines that do not disturb each other

A batch of lines comes to what its lines come to, one behind the other.  So a line that holds no
record takes nothing away from the others: the output is made of the records that the lines hold,
a blank line leaves no trace at all, and a failure is remembered to the end.
-/

/-! ## What a line holds -/

/-- The record that a line holds, if it holds one.  A blank line does not. -/
def recordIn? (environment : Environment) (line : String) : Option Record :=
  if Text.allBlank line then none
  else (RecordDraft.parse line).toOption.map fun draft =>
    draft.complete environment.now environment.thread

def rejection? (line : String) : Option InvalidRecord :=
  if Text.allBlank line then none
  else
    match RecordDraft.parse line with
    | .ok _ => none
    | .error invalid => some invalid

def InvalidRecord.notice (invalid : InvalidRecord) : Notice := .error "RENDER" invalid.message

theorem rejection?_eq_none_iff {line : String} :
    rejection? line = none ↔
      (Text.allBlank line = false → ∃ draft, RecordDraft.parse line = .ok draft) := by
  unfold rejection?
  cases Text.allBlank line with
  | true => simp
  | false =>
      cases RecordDraft.parse line with
      | ok draft => simp
      | error invalid => simp

/-! ## What lines come to -/

namespace Batch

def ofTexts (formatter : Formatter) (environment : Environment) (lines : List String) :
    Batch where
  output := String.join ((lines.filterMap (recordIn? environment)).map formatter.format)
  rendered := (lines.filterMap (recordIn? environment)).length
  failed := (lines.filterMap rejection?).length
  notices := (lines.filterMap rejection?).map InvalidRecord.notice

section Lines

variable (formatter : Formatter) (environment : Environment)

theorem ofLine_eq (line : String) :
    ofLine formatter environment line = ofTexts formatter environment [line] := by
  unfold ofLine ofTexts
  rw [List.filterMap_cons, List.filterMap_cons, recordIn?, rejection?]
  cases Text.allBlank line with
  | true => rfl
  | false =>
      cases RecordDraft.parse line with
      | ok draft => simp [Except.toOption]
      | error invalid => rfl

/-- Lines and then other lines come to what they come to by themselves. -/
theorem ofTexts_append (first second : List String) :
    ofTexts formatter environment (first ++ second) =
      ofTexts formatter environment first ++ ofTexts formatter environment second := by
  unfold ofTexts
  simp only [List.filterMap_append, List.map_append, String.join_append, List.length_append]
  rfl

theorem ofLines_some (lines : List String) :
    ofLines formatter environment (lines.map some) = ofTexts formatter environment lines := by
  induction lines with
  | nil => rfl
  | cons line others inductionHypothesis =>
      rw [List.map_cons, ofLines, inductionHypothesis, ofLine_eq, ← ofTexts_append]
      rfl

theorem succeeded_ofTexts_iff {lines : List String} :
    (ofTexts formatter environment lines).succeeded = true ↔
      ∀ line ∈ lines, rejection? line = none := by
  rw [succeeded, ofTexts, Bool.true_and, decide_eq_true_iff, List.length_eq_zero_iff,
    List.filterMap_eq_nil_iff]

/-- What lines come to depends on the environment only through what stands in for what a record
leaves out. -/
theorem ofTexts_congr {other : Environment} (sameNow : other.now = environment.now)
    (sameThread : other.thread = environment.thread) (lines : List String) :
    ofTexts formatter other lines = ofTexts formatter environment lines := by
  have same : recordIn? other = recordIn? environment := by
    funext line
    rw [recordIn?, recordIn?, sameNow, sameThread]
  rw [ofTexts, ofTexts, same]

end Lines

end Batch

/-! ## What a source comes to -/

/-- The text that a source holds, if it can be read and is text: the input for a hyphen, and
otherwise a file. -/
def Environment.sourceText? (environment : Environment) (source : String) : Option String :=
  if source = "-" then Text.decode? environment.input
  else (environment.readText source).toOption

theorem Environment.exists_of_readText {environment : Environment} {path text : String}
    (read : environment.readText path = .ok text) :
    ∃ place, environment.files.locate environment.folder path = .ok place ∧
      environment.files.bytesAt place = .ok (Text.encode text) := by
  unfold Environment.readText FileTree.textAt at read
  cases located : environment.files.locate environment.folder path with
  | error flaw => simp [located, bind, Except.bind] at read
  | ok place =>
      refine ⟨place, rfl, ?_⟩
      cases bytes : environment.files.bytesAt place with
      | error flaw => simp [located, bytes, bind, Except.bind] at read
      | ok found =>
          cases decoded : Text.decode? found with
          | none => simp [located, bytes, decoded, bind, Except.bind] at read
          | some other =>
              have same : other = text := by
                simpa [located, bytes, decoded, bind, Except.bind, pure, Except.pure] using read
              rw [← same, Text.encode_of_decode? decoded]

namespace CommandLine

/-- The notices before the first line of a source. -/
def readingNotices (source : String) : List Notice :=
  if source = "-" then [.debug "RENDER" "Reading records from stdin"] else []

/-- What a batch is reported as. -/
def batchReport (source : String) (batch : Batch) : Report where
  code := if batch.succeeded then 0 else failureCode
  output := batch.output
  notices := readingNotices source ++ batch.allNotices

theorem renderLines_encode (environment : Environment) (formatter : Formatter) (text : String) :
    renderLines environment formatter (Text.encode text) =
      let batch := Batch.ofTexts formatter environment (Text.textLines text)
      { code := if batch.succeeded then 0 else failureCode
        output := batch.output
        notices := batch.allNotices } := by
  rw [renderLines, Text.decodedLines_encode, Batch.ofLines_some]

theorem renderJson_of_readable {environment : Environment} {source text : String}
    (readable : environment.sourceText? source = some text) (formatter : Formatter) :
    renderJson environment formatter source =
      batchReport source (Batch.ofTexts formatter environment (Text.textLines text)) := by
  unfold Environment.sourceText? at readable
  unfold renderJson batchReport readingNotices
  split at readable
  next hyphen =>
    rw [if_pos hyphen, if_pos hyphen, ← Text.encode_of_decode? readable, renderLines_encode]
    rfl
  next path =>
    cases read : environment.readText source with
    | error flaw =>
        rw [read] at readable
        cases readable
    | ok found =>
        rcases Option.some.inj (read ▸ readable)
        rcases Environment.exists_of_readText read with ⟨place, located, bytes⟩
        simp only [if_neg path, located, bytes]
        exact renderLines_encode environment formatter text

/-- The report of a batch tells success if no line is rejected. -/
theorem batchReport_code_eq_zero_iff {source : String} {formatter : Formatter}
    {environment : Environment} {lines : List String} :
    (batchReport source (Batch.ofTexts formatter environment lines)).code = 0 ↔
      ∀ line ∈ lines, rejection? line = none := by
  rw [← Batch.succeeded_ofTexts_iff formatter environment, batchReport]
  cases (Batch.ofTexts formatter environment lines).succeeded with
  | true => simp
  | false => simp [failureCode]

theorem textLines_of_joined {first second whole : String}
    (joined : Text.JoinedAtLine (· == '\n') (· == '\r') first.toList second.toList whole.toList) :
    Text.textLines whole = Text.textLines first ++ Text.textLines second := by
  unfold Text.textLines Text.lines
  rw [joined.linesBy_eq, List.map_append]

/-- The lines of a source are rendered by themselves.  The output is made of the records that the
lines hold, in their order; the code tells success if every line that is not blank holds a record;
and nothing is said but of the lines that are rejected, and of how many lines there were of either
kind.  So where two texts are joined at the start of a line, their outputs are joined, and the
whole fails if one of the two does. -/
theorem render_lines_apart {environment : Environment} {source text : String}
    (readable : environment.sourceText? source = some text) (formatter : Formatter)
    (request : RecordRequest) :
    let report := render environment formatter request (some source)
    let lines := Text.textLines text
    let records := lines.filterMap (recordIn? environment)
    let rejections := lines.filterMap rejection?
    report.output = String.join (records.map formatter.format) ∧
    (report.code = 0 ↔ ∀ line ∈ lines,
      Text.allBlank line = false → ∃ draft, RecordDraft.parse line = .ok draft) ∧
    report.notices = readingNotices source ++ (rejections.map InvalidRecord.notice ++
      [.info "RENDER" s!"Rendered {records.length} record(s), {rejections.length} failed"]) ∧
    ∀ {firstEnvironment secondEnvironment : Environment}
      {firstSource secondSource first second : String},
      firstEnvironment.sourceText? firstSource = some first →
      secondEnvironment.sourceText? secondSource = some second →
      Text.JoinedAtLine (· == '\n') (· == '\r') first.toList second.toList text.toList →
      firstEnvironment.now = environment.now → firstEnvironment.thread = environment.thread →
      secondEnvironment.now = environment.now → secondEnvironment.thread = environment.thread →
      let firstReport := render firstEnvironment formatter request (some firstSource)
      let secondReport := render secondEnvironment formatter request (some secondSource)
      report.output = firstReport.output ++ secondReport.output ∧
      (report.code ≠ 0 ↔ firstReport.code ≠ 0 ∨ secondReport.code ≠ 0) := by
  intro report lines records rejections
  have reported : report = batchReport source (Batch.ofTexts formatter environment lines) :=
    renderJson_of_readable readable formatter
  rw [reported]
  refine ⟨rfl, ?_, rfl, ?_⟩
  · rw [batchReport_code_eq_zero_iff]
    simp only [rejection?_eq_none_iff]
  · intro firstEnvironment secondEnvironment firstSource secondSource first second readFirst
      readSecond joined firstNow firstThread secondNow secondThread firstReport secondReport
    have reportedFirst : firstReport =
        batchReport firstSource (Batch.ofTexts formatter environment (Text.textLines first)) := by
      rw [← Batch.ofTexts_congr formatter environment firstNow firstThread]
      exact renderJson_of_readable readFirst formatter
    have reportedSecond : secondReport =
        batchReport secondSource
          (Batch.ofTexts formatter environment (Text.textLines second)) := by
      rw [← Batch.ofTexts_congr formatter environment secondNow secondThread]
      exact renderJson_of_readable readSecond formatter
    have divided : lines = Text.textLines first ++ Text.textLines second :=
      textLines_of_joined joined
    rw [reportedFirst, reportedSecond, divided]
    constructor
    · exact congrArg Batch.output (Batch.ofTexts_append formatter environment _ _)
    · simp only [ne_eq, batchReport_code_eq_zero_iff, List.forall_mem_append]
      exact not_and_or

/-- A line with a record, a blank line and a line without a record. -/
def mixedLines : String := "\x7b\"message\":\"one\"\x7d\r\n \noops\n"

/-- A line with a record that no line end stands behind. -/
def openLine : String := "\x7b\"logger\":\"caf\u00e9\"\x7d"

/-- Two files, and an input that holds the lines of both. -/
def inputOfBoth : Environment where
  files := ⟨[(["mixed"], .file (Text.encode mixedLines)),
    (["open"], .file (Text.encode openLine))]⟩
  bindings := .empty
  input := Text.encode (mixedLines ++ openLine)
  program := "program"

def loggerAndMessage : Formatter where
  pattern := "%logger:%msg"
  compiled := ⟨[Record.logger, fun _ => ":", Record.formattedMessage]⟩
  registry := .empty

/-- Both records are rendered, and the run fails for the line between them. -/
theorem render_lines_apart_mixed :
    (render inputOfBoth loggerAndMessage {} (some "-")).output = ":one\ncaf\u00e9:\n" ∧
      (render inputOfBoth loggerAndMessage {} (some "-")).code ≠ 0 ∧
      (render inputOfBoth loggerAndMessage {} (some "-")).output =
        (render inputOfBoth loggerAndMessage {} (some "mixed")).output ++
          (render inputOfBoth loggerAndMessage {} (some "open")).output := by
  have both : inputOfBoth.sourceText? "-" = some (mixedLines ++ openLine) :=
    Text.decode?_encode (mixedLines ++ openLine)
  have first : inputOfBoth.sourceText? "mixed" = some mixedLines := by decide +kernel
  have second : inputOfBoth.sourceText? "open" = some openLine := by decide +kernel
  have atLine : Text.JoinedAtLine (· == '\n') (· == '\r') mixedLines.toList openLine.toList
      (mixedLines ++ openLine).toList := by
    have final : mixedLines.toList.getLast? = some '\n' := by decide +kernel
    rw [String.toList_append]
    apply Text.JoinedAtLine.behindEnd
    intro last isLast
    rw [final] at isLast
    exact Option.some.inj isLast ▸ rfl
  rcases render_lines_apart both loggerAndMessage {} with ⟨output, code, _, joined⟩
  refine ⟨output.trans (by decide +kernel), ?_, (joined first second atLine rfl rfl rfl rfl).left⟩
  intro succeeds
  have rejected : rejection? "oops" ≠ none := by decide +kernel
  exact rejected (rejection?_eq_none_iff.mpr (code.mp succeeds "oops" (by decide +kernel)))

end CommandLine
end LogLayout
