import LogLayout.CommandLine.Program
import LogLayout.Proofs.Pattern.Failing

namespace LogLayout.Pattern

/-!
# The directive that a fault is about

A fault is reported with the offset and the word of one directive, although many directives
may be open when it is found.  The one that is reported is the one to be mended.  An unknown
word is that of the directive itself.  Where a pattern ends too early it is the innermost
directive that is not complete, and all others that are not complete enclose it.
-/

/-! ## The word of a directive -/

/-- Behind its percent sign a directive has a word, with another text behind the word.
In front of it stand lengths, which take as many characters as they can, and then the word
takes as many letters as there are. -/
def Names (rest : List Char) (word : String) (behind : List Char) : Prop :=
  ∃ least greatest,
    rest = least.chars ++ (greatestChars greatest ++ (word.toList ++ behind)) ∧
    (∀ character ∈ (word.toList ++ behind).head?, LengthsEndedBy least greatest character) ∧
    (∀ letter ∈ word.toList, Text.isAlphabetic letter = true) ∧
    ∀ character ∈ behind.head?, Text.isAlphabetic character = false

theorem HeadText.toList_name (head : HeadText) : head.name.toList = head.word :=
  String.toList_ofList

theorem HeadText.name_ne_empty (head : HeadText) : head.name ≠ "" := by
  intro empty
  apply head.nonempty
  rw [← head.toList_name, empty]
  rfl

/-- The head of a directive names it, if no letter follows. -/
theorem HeadText.names (head : HeadText) {behind : List Char}
    (maximal : ∀ character ∈ behind.head?, Text.isAlphabetic character = false) :
    Names (head.chars ++ behind) head.name behind := by
  refine ⟨head.least, head.greatest, ?_, ?_, ?_, maximal⟩
  · rw [head.toList_name]
    simp only [HeadText.chars, List.append_assoc]
  · rw [head.toList_name]
    exact head.endsLengths behind
  · rw [head.toList_name]
    exact head.letters

/-- Lengths without letters behind them leave a directive with the empty word. -/
theorem names_empty (least : NumberText) (greatest : Option NumberText) {behind : List Char}
    (ended : ∀ character ∈ behind.head?, LengthsEndedBy least greatest character)
    (unlettered : ∀ character ∈ behind.head?, Text.isAlphabetic character = false) :
    Names (least.chars ++ greatestChars greatest ++ behind) "" behind := by
  refine ⟨least, greatest, List.append_assoc _ _ _, ended, ?_, unlettered⟩
  intro letter member
  exact absurd member List.not_mem_nil

section Words

variable {registry : Registry} {context : Context} {position : Nat}

/-- A directive that is left open is named by its own word. -/
theorem LeftOpen.names {text : List Char} {word : String}
    (leftOpen : LeftOpen registry context position text word) :
    ∃ behind, Names text word behind := by
  cases leftOpen with
  | beforeWord least greatest =>
      refine ⟨[], ?_⟩
      rw [← List.append_nil (least.chars ++ greatestChars greatest)]
      apply names_empty
      · exact fun _ first => absurd first (Option.not_mem_none _)
      · exact fun _ first => absurd first (Option.not_mem_none _)
  | @inside head builder pieces inRange resolved encloses splits =>
      refine ⟨'(' :: pieceChars pieces, head.names ?_⟩
      intro character first
      cases first
      decide
  | @inParameters head inside builder text begun leavesOpen =>
      exact ⟨insideChars inside ++ '\x7b' :: text, head.names begun.maximal⟩

/-- A word that is not known is that of the directive itself: either there is none, and
something else stands in its place, or no builder is known under it. -/
theorem Misnamed.names {text following : List Char} {word : String}
    (misnamed : Misnamed registry text word following) :
    Names (text ++ following) word following ∧
      ((word = "" ∧ ∃ character, following.head? = some character ∧
          Text.isAlphabetic character = false) ∨
        (word ≠ "" ∧ registry.resolve? word = none)) := by
  cases misnamed with
  | @wordless least greatest character following ended unlettered =>
      constructor
      · apply names_empty
        · rintro _ ⟨⟩
          exact ended
        · rintro _ ⟨⟩
          exact unlettered
      · exact .inl ⟨rfl, character, rfl, unlettered⟩
  | @unknown head following inRange unknown maximal =>
      exact ⟨head.names maximal, .inr ⟨head.name_ne_empty, unknown⟩⟩

end Words

/-! ## Directives that are not complete -/

section Directives

variable (registry : Registry) (context : Context) (pattern : String)

/-- A directive of a pattern stands inside of what another one encloses. -/
def Encloses (outer position : Nat) : Prop :=
  ∃ opened rest, OpensAt registry context none (.ofText pattern) opened position rest ∧
    outer ∈ opened

/-- A directive of a pattern is not complete, however much of the text is taken for it. -/
def Unfinished (position : Nat) : Prop :=
  ∃ opened rest, OpensAt registry context none (.ofText pattern) opened position rest ∧
    ∀ head inside parameters builder unit behind,
      Completes registry context position head inside parameters builder unit behind →
        '%' :: rest ≠ directiveChars head inside parameters ++ behind

/-- A directive of a pattern is not complete, and any other one that is not complete starts
in front of it and encloses it. -/
def Innermost (position : Nat) : Prop :=
  Unfinished registry context pattern position ∧
    ∀ other, Unfinished registry context pattern other → other ≠ position →
      other < position ∧ Encloses registry context pattern other position

end Directives

section Innermost

variable {registry : Registry} {context : Context} {pattern : String}

theorem Completes.compileDirective_of_chars {position : Nat} {head : HeadText}
    {inside : Option (List Piece)} {parameters : Option ParameterListText} {builder : Builder}
    {unit : Renderer} {rest behind : List Char}
    (completes : Completes registry context position head inside parameters builder unit behind)
    (text : '%' :: rest = directiveChars head inside parameters ++ behind) :
    registry.compileDirective context position ⟨position + 1, rest⟩ =
      .ok (unit, ⟨position + (directiveChars head inside parameters).length, behind⟩) := by
  rw [directiveChars_append] at text
  rw [(List.cons.inj text).2]
  exact completes.compileDirective

theorem unfinished_iff {position : Nat} :
    Unfinished registry context pattern position ↔
      ∃ opened rest failure,
        OpensAt registry context none (.ofText pattern) opened position rest ∧
        registry.compileDirective context position ⟨position + 1, rest⟩ = .error failure := by
  constructor
  · rintro ⟨opened, rest, opens, incomplete⟩
    cases outcome : registry.compileDirective context position ⟨position + 1, rest⟩ with
    | error failure => exact ⟨opened, rest, failure, opens, outcome⟩
    | ok done =>
        rcases done with ⟨unit, behind⟩
        rcases exists_completes outcome with
          ⟨head, inside, parameters, builder, completes, text, -⟩
        exact absurd text (incomplete _ _ _ _ _ _ completes)
  · rintro ⟨opened, rest, failure, opens, failed⟩
    refine ⟨opened, rest, opens, ?_⟩
    intro head inside parameters builder unit behind completes text
    rw [completes.compileDirective_of_chars text] at failed
    cases failed

theorem OpensAt.compileUntil_error {closing : Option Char} {cursor : Cursor}
    {opened : List Nat} {position : Nat} {rest : List Char} {failure : Failure}
    (opens : OpensAt registry context closing cursor opened position rest)
    (failed : registry.compileDirective context position ⟨position + 1, rest⟩ =
      .error failure) :
    registry.compileUntil context closing cursor = .error failure := by
  rcases opens with ⟨⟨ending, reached⟩, single⟩
  apply reached.compileUntil_error
  rw [registry.compileUntil_directive context single, failed]
  rfl

/-- The offset that a fault reports, if it reports one. -/
def Fault.place? : Fault → Option Nat
  | .unknownWord _ position => some position
  | .unterminated _ position => some position
  | .badParameter _ => none

theorem GoesWrong.place_eq {position place : Nat} {text following : List Char} {fault : Fault}
    (wrong : GoesWrong registry context position text fault following)
    (reported : fault.place? = some place) : position = place := by
  cases wrong with
  | leftOpen leftOpen => exact Option.some.inj reported
  | misnamed misnamed => exact Option.some.inj reported
  | refused refused => cases reported

theorem OpensAt.eq_or_encloses {opened : List Nat} {position place : Nat} {rest : List Char}
    {failure : Failure}
    (opens : OpensAt registry context none (.ofText pattern) opened position rest)
    (failed : registry.compileDirective context position ⟨position + 1, rest⟩ =
      .error failure)
    (reported : failure.fault.place? = some place) :
    position = place ∨ (position < place ∧ Encloses registry context pattern position place) := by
  rcases compileDirective_error_cases failed with
    ⟨text, following, -, -, wrong⟩ |
      ⟨head, builder, inner, inRange, resolved, encloses, rfl, enclosed⟩
  · exact .inl (wrong.place_eq reported)
  · right
    rcases (compileUntil_eq_error_iff _ _ _).mp enclosed with
      ⟨further, position', text, following, insideOpens, wrong, -⟩
    have same : position' = place := wrong.place_eq reported
    subst same
    rcases insideOpens.exists_front with ⟨front, -, behind⟩
    dsimp only at behind
    constructor
    · omega
    · rcases opens.reached with ⟨ending, reached⟩
      rcases insideOpens with ⟨⟨last, insideReached⟩, single⟩
      have through := reached.trans (.enter inRange resolved encloses insideReached)
      refine ⟨_, _, ⟨⟨last, through⟩, single⟩, ?_⟩
      exact List.mem_append_right opened List.mem_cons_self

theorem innermost_of_failsAt {opened : List Nat} {position : Nat} {text following : List Char}
    {failure : Failure}
    (fails : FailsAt registry context none (.ofText pattern) opened position text following
      failure)
    (reported : failure.fault.place? = some position) :
    Innermost registry context pattern position := by
  have whole := (compileUntil_eq_error_iff none _ _).mpr ⟨_, _, _, _, fails⟩
  constructor
  · rw [unfinished_iff]
    exact ⟨opened, text ++ following, _, fails.opens, fails.wrong.compileDirective⟩
  · intro other unfinished different
    rcases unfinished_iff.mp unfinished with ⟨opened', rest', failure', opens, failed⟩
    have same : failure = failure' :=
      Except.error.inj (whole.symm.trans (opens.compileUntil_error failed))
    subst same
    exact (opens.eq_or_encloses failed reported).resolve_left different

/-- A directive that is left open is read up to the end of the pattern. -/
theorem FailsAt.stopped_eq_length {opened : List Nat} {position : Nat} {text : List Char}
    {failure : Failure}
    (fails : FailsAt registry context none (.ofText pattern) opened position text [] failure) :
    failure.stopped = pattern.length := by
  rcases fails.opens.exists_front with ⟨front, divided, place⟩
  dsimp only [Cursor.ofText] at divided place
  rw [fails.stopped, place, ← String.length_toList, divided]
  simp only [List.length_append, List.length_cons, List.length_nil]
  omega

end Innermost

/-! ## Reports -/

theorem append_quote_append (text : String) :
    text ++ "'" ++ " at position " = text ++ "' at position " := by
  have both : "'" ++ " at position " = "' at position " := by decide +kernel
  rw [String.append_assoc, both]

theorem Fault.exists_message {fault : Fault} {position : Nat}
    (reported : fault.place? = some position) (pattern : String) :
    ∃ wording, fault.message pattern =
      wording ++ " at position " ++ toString position ++ " in \"" ++ pattern ++ "\"" := by
  cases fault with
  | unknownWord word position' =>
      cases reported
      by_cases empty : word = ""
      · subst empty
        refine ⟨"missing conversion word after '%'", ?_⟩
        have place : "missing conversion word after '%'" ++ " at position " =
            "missing conversion word after '%' at position " := by
          decide +kernel
        rw [place]
        rfl
      · refine ⟨"unknown conversion word '%" ++ word ++ "'", ?_⟩
        rw [append_quote_append]
        exact if_neg empty
  | unterminated word position' =>
      cases reported
      refine ⟨"end of pattern while reading '%" ++ word ++ "'", ?_⟩
      rw [append_quote_append]
      rfl
  | badParameter bad => cases reported

/-- Where the word of a directive is not known, or the pattern ends within a directive, the
fault is about a directive of the pattern.  It gives the offset of its percent sign and its
word, and it is reported with the whole pattern.

A word that is not known either is missing, and something other than a letter stands in its
place, or no builder is known under it.  Where the pattern ends too early, it has been read
up to its end, and the directive is the innermost one that is not complete. -/
theorem compile_fault_place (registry : Registry) (context : Context) (pattern : String)
    (fault : Fault) (word : String) (position : Nat)
    (failed : registry.compile context pattern = .error fault)
    (about : fault = .unknownWord word position ∨ fault = .unterminated word position) :
    (∃ wording, (CommandLine.check registry context pattern).output =
      wording ++ " at position " ++ toString position ++ " in \"" ++ pattern ++ "\"" ++ "\n") ∧
    position < pattern.length ∧ pattern.toList[position]? = some '%' ∧
    ∃ opened rest behind,
      OpensAt registry context none (.ofText pattern) opened position rest ∧
      rest = pattern.toList.drop (position + 1) ∧ Names rest word behind ∧
      (fault = .unknownWord word position →
        (word = "" ∧ ∃ character, behind.head? = some character ∧
            Text.isAlphabetic character = false) ∨
          (word ≠ "" ∧ registry.resolve? word = none)) ∧
      (fault = .unterminated word position →
        registry.compileUntil context none (.ofText pattern) =
            .error ⟨fault, pattern.length⟩ ∧
          LeftOpen registry context position rest word ∧
          Innermost registry context pattern position) := by
  have reported : fault.place? = some position := by
    rcases about with rfl | rfl <;> rfl
  have report : ∃ wording, (CommandLine.check registry context pattern).output =
      wording ++ " at position " ++ toString position ++ " in \"" ++ pattern ++ "\"" ++ "\n" := by
    rcases fault.exists_message reported pattern with ⟨wording, message⟩
    refine ⟨wording, ?_⟩
    simp only [CommandLine.check, failed, message]
  rcases exists_of_compile_error failed with ⟨finish, whole⟩
  rcases (compileUntil_eq_error_iff none _ _).mp whole with
    ⟨opened, place, text, following, fails⟩
  have here : place = position := fails.wrong.place_eq reported
  subst here
  rcases fails.opens.divides with ⟨within, sign, remaining⟩
  refine ⟨report, within, sign, opened, text ++ following, ?_⟩
  have innermost := innermost_of_failsAt fails reported
  cases fails.wrong with
  | leftOpen leftOpen =>
      have finished : finish = pattern.length := fails.stopped_eq_length
      subst finished
      rcases about with other | same
      · cases other
      · cases same
        rcases leftOpen.names with ⟨behind, names⟩
        have opens := fails.opens
        rw [List.append_nil] at opens remaining ⊢
        refine ⟨behind, opens, remaining, names, ?_, ?_⟩
        · intro other
          cases other
        · intro _
          exact ⟨whole, leftOpen, innermost⟩
  | misnamed misnamed =>
      rcases about with same | other
      · cases same
        rcases misnamed.names with ⟨names, unknown⟩
        refine ⟨following, fails.opens, remaining, names, fun _ => unknown, ?_⟩
        intro other
        cases other
      · cases other
  | refused refused =>
      rcases about with other | other <;> cases other

/-- Of two directives that are not complete the inner one is reported, and so is an unknown
word inside of another directive.  Offsets count characters. -/
theorem compile_fault_place_nested :
    let context : Context := { application := "shop", node := "east", console := .plain }
    (Registry.builtin.compile context "%red(é %-5bold(%level" =
        .error (.unterminated "bold" 7) ∧
      Innermost Registry.builtin context "%red(é %-5bold(%level" 7) ∧
    Registry.builtin.compile context "%red(é %nosuch)" = .error (.unknownWord "nosuch" 7) ∧
      Registry.builtin.resolve? "nosuch" = none := by
  intro context
  have open_ : error? (Registry.builtin.compile context "%red(é %-5bold(%level") =
      some (.unterminated "bold" 7) := by
    decide +kernel
  have unknown : error? (Registry.builtin.compile context "%red(é %nosuch)") =
      some (.unknownWord "nosuch" 7) := by
    decide +kernel
  constructor
  · rcases compile_fault_place Registry.builtin context _ _ "bold" 7
      (eq_error_of_error? open_) (.inr rfl) with
      ⟨-, -, -, opened, rest, behind, -, -, -, -, tooEarly⟩
    exact ⟨eq_error_of_error? open_, (tooEarly rfl).2.2⟩
  · rcases compile_fault_place Registry.builtin context _ _ "nosuch" 7
      (eq_error_of_error? unknown) (.inl rfl) with
      ⟨-, -, -, opened, rest, behind, -, -, -, misnamed, -⟩
    refine ⟨eq_error_of_error? unknown, ?_⟩
    rcases misnamed rfl with ⟨empty, -⟩ | ⟨-, unresolved⟩
    · exact absurd empty (by decide)
    · exact unresolved

end LogLayout.Pattern
