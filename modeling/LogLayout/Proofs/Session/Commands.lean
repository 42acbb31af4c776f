import LogLayout.Proofs.Text.Runs
import LogLayout.Session

namespace LogLayout.Session

/-!
# What the lines of a session ask for

A command stands behind a colon, and its name reaches to the first blank.  Four commands change the
record of a session, two of them only with an argument that can be read.  A line that asks for no
such change leaves the session as it is, whatever it shows and whatever is wrong with it, and only
the three names of one command end the session.
-/

/-! ## Commands as they are written -/

/-- A line gives a command: behind any blanks a colon, a name without blanks, and nothing more or a
blank and what follows it, which without blanks at its ends is the argument. -/
def Gives (line name argument : String) : Prop :=
  ∃ blanks behind, (∀ character ∈ blanks, Text.isBlank character = true) ∧
    (∀ character ∈ name.toList, Text.isBlank character = false) ∧
    (∀ character ∈ behind.head?, Text.isBlank character = true) ∧
    line.toList = blanks ++ ':' :: (name.toList ++ behind) ∧
    argument = String.ofList (Text.trimChars behind)

theorem readDirective_append {name : String} {behind : List Char}
    (unbroken : ∀ character ∈ name.toList, Text.isBlank character = false)
    (broken : ∀ character ∈ behind.head?, Text.isBlank character = true) :
    readDirective (name.toList ++ behind) = ⟨name, String.ofList (Text.trimChars behind)⟩ := by
  have inside : ∀ character ∈ name.toList, (!Text.isBlank character) = true :=
    fun character member => by rw [unbroken character member]; rfl
  have boundary : ∀ character ∈ behind.head?, (!Text.isBlank character) = false :=
    fun character first => by rw [broken character first]; rfl
  unfold readDirective
  rw [Text.dropWhile_append inside boundary, Text.takeWhile_append inside boundary]
  cases behind with
  | nil =>
      rw [List.append_nil, String.ofList_toList]
      rfl
  | cons blank rest =>
      have dropped : Text.trimChars (blank :: rest) = Text.trimChars rest := by
        rw [Text.trimChars, Text.dropBlanks, List.dropWhile_cons_of_pos (broken blank rfl)]
        rfl
      rw [dropped, String.ofList_toList]

theorem exists_divided (text : List Char) :
    ∃ (name : String) (behind : List Char), text = name.toList ++ behind ∧
      (∀ character ∈ name.toList, Text.isBlank character = false) ∧
      ∀ character ∈ behind.head?, Text.isBlank character = true := by
  refine ⟨String.ofList (text.takeWhile fun character => !Text.isBlank character),
    text.dropWhile fun character => !Text.isBlank character, ?_, ?_, ?_⟩
  · rw [String.toList_ofList, List.takeWhile_append_dropWhile]
  · intro character member
    rw [String.toList_ofList] at member
    have passed := List.all_eq_true.mp List.all_takeWhile character member
    rwa [Bool.not_eq_true'] at passed
  · intro character first
    have stopped := List.head?_dropWhile_not (fun character => !Text.isBlank character) text
    rw [first] at stopped
    exact (Bool.not_eq_false' ..).mp stopped

theorem directive?_eq_some_iff {line name argument : String} :
    directive? line = some ⟨name, argument⟩ ↔ Gives line name argument := by
  constructor
  · intro found
    unfold directive? at found
    split at found
    next text colon =>
      rcases exists_divided text with ⟨word, behind, rfl, unbroken, broken⟩
      rw [readDirective_append unbroken broken] at found
      cases found
      refine ⟨line.toList.takeWhile Text.isBlank, behind, ?_, unbroken, broken, ?_, rfl⟩
      · exact fun character member => List.all_eq_true.mp List.all_takeWhile character member
      · rw [← colon, Text.takeWhile_append_dropBlanks]
    next => cases found
  · rintro ⟨blanks, behind, blank, unbroken, broken, text, rfl⟩
    have opened : Text.dropBlanks line.toList = ':' :: (name.toList ++ behind) := by
      rw [text]
      exact Text.dropWhile_append blank fun character first => by cases first; decide
    rw [directive?, opened]
    exact congrArg some (readDirective_append unbroken broken)

theorem Gives.unique {line name argument other value : String} (gives : Gives line name argument)
    (again : Gives line other value) : other = name ∧ value = argument := by
  have same := (directive?_eq_some_iff.mpr again).symm.trans (directive?_eq_some_iff.mpr gives)
  cases same
  exact ⟨rfl, rfl⟩

theorem Gives.allBlank_eq_false {line name argument : String} (gives : Gives line name argument) :
    Text.allBlank line = false := by
  rcases gives with ⟨blanks, behind, -, -, -, text, -⟩
  rw [Text.allBlank, text, List.all_append, List.all_cons]
  exact Bool.and_false _

/-! ## What commands ask for -/

/-- A change to the record of a session. -/
inductive Change where
  | level (level : Level)
  | logger (name : String)
  | message (text : String)
  | pair (key value : String)

def Change.apply (record : Record) : Change → Record
  | level chosen => { record with level := chosen }
  | logger name => { record with logger := name }
  | message text => { record with message := text, arguments := [] }
  | pair key value => record.withPair key value

/-- A line asks for a change. -/
inductive Asks (line : String) : Change → Prop where
  | level {argument : String} {level : Level} (gives : Gives line "level" argument)
    (read : Level.parse argument = .ok level) : Asks line (.level level)
  | logger {name : String} (gives : Gives line "logger" name) : Asks line (.logger name)
  | message {text : String} (gives : Gives line "msg" text) : Asks line (.message text)
  | pair {argument key value : String} (gives : Gives line "mdc" argument)
    (read : readPair argument = .ok (key, value)) : Asks line (.pair key value)

/-- The names of the command that ends a session. -/
def quitNames : List String := ["quit", "exit", "q"]

/-- A line asks to end the session. -/
def Quits (line : String) : Prop := ∃ name ∈ quitNames, ∃ argument, Gives line name argument

def change? (directive : Directive) : Option Change :=
  match directive.name with
  | "level" => (Level.parse directive.argument).toOption.map .level
  | "logger" => some (.logger directive.argument)
  | "msg" => some (.message directive.argument)
  | "mdc" => (readPair directive.argument).toOption.map fun (key, value) => .pair key value
  | _ => none

theorem change?_eq_some {line name argument : String} {change : Change}
    (asks : Asks line change) (gives : Gives line name argument) :
    change? ⟨name, argument⟩ = some change := by
  cases asks with
  | level command read =>
      rcases command.unique gives with ⟨rfl, rfl⟩
      rw [change?, read]
      rfl
  | logger command =>
      rcases command.unique gives with ⟨rfl, rfl⟩
      rfl
  | message command =>
      rcases command.unique gives with ⟨rfl, rfl⟩
      rfl
  | pair command read =>
      rcases command.unique gives with ⟨rfl, rfl⟩
      rw [change?, read]
      rfl

theorem Asks.exists_gives {line : String} {change : Change} (asks : Asks line change) :
    ∃ name argument, Gives line name argument := by
  cases asks with
  | level gives => exact ⟨_, _, gives⟩
  | logger gives => exact ⟨_, _, gives⟩
  | message gives => exact ⟨_, _, gives⟩
  | pair gives => exact ⟨_, _, gives⟩

/-- A line asks for one change only. -/
theorem Asks.unique {line : String} {change other : Change} (asks : Asks line change)
    (again : Asks line other) : other = change := by
  rcases asks.exists_gives with ⟨name, argument, gives⟩
  exact Option.some_inj.mp ((change?_eq_some again gives).symm.trans (change?_eq_some asks gives))

theorem Asks.only {line : String} {change other : Change} (asks : Asks line change)
    (different : change ≠ other) : ¬ Asks line other :=
  fun again => different (again.unique asks)

/-- A line that ends the session asks for no change. -/
theorem Quits.unasked {line : String} (quits : Quits line) (change : Change) :
    ¬ Asks line change := by
  intro asks
  rcases quits with ⟨name, listed, argument, gives⟩
  have found := change?_eq_some asks gives
  simp only [quitNames, List.mem_cons, List.not_mem_nil, or_false] at listed
  rcases listed with rfl | rfl | rfl <;> cases found

theorem asks_of_change? {line name argument : String} {change : Change}
    (gives : Gives line name argument) (found : change? ⟨name, argument⟩ = some change) :
    Asks line change := by
  unfold change? at found
  split at found
  next same =>
    change name = "level" at same
    subst same
    cases parsed : Level.parse argument with
    | error unknown => rw [parsed] at found; cases found
    | ok level => rw [parsed] at found; cases found; exact .level gives parsed
  next same =>
    change name = "logger" at same
    subst same
    cases found
    exact .logger gives
  next same =>
    change name = "msg" at same
    subst same
    cases found
    exact .message gives
  next same =>
    change name = "mdc" at same
    subst same
    cases parsed : readPair argument with
    | error invalid => rw [parsed] at found; cases found
    | ok pair => rw [parsed] at found; cases found; exact .pair gives parsed
  next => cases found

theorem quits_iff (line : String) :
    Quits line ↔ ((directive? line).any fun directive => directive.name ∈ quitNames) = true := by
  rw [Option.any_eq_true]
  constructor
  · rintro ⟨name, listed, argument, gives⟩
    exact ⟨_, directive?_eq_some_iff.mpr gives, decide_eq_true listed⟩
  · rintro ⟨⟨name, argument⟩, found, listed⟩
    exact ⟨name, of_decide_eq_true listed, argument, directive?_eq_some_iff.mp found⟩

instance : DecidablePred Quits := fun line => decidable_of_iff' _ (quits_iff line)

/-! ## What a line does -/

section Obey

variable (session : Session) (directive : Directive)

/-- A command makes the change that it asks for, if it asks for one, and nothing else. -/
theorem obey_fst :
    (session.obey directive).1 = { session with
      record := (change? directive).elim session.record (Change.apply session.record) } := by
  rcases directive with ⟨name, argument⟩
  unfold obey
  dsimp only
  split <;> try rfl
  next =>
    rw [change?]
    cases Level.parse argument <;> rfl
  next =>
    rw [change?]
    cases readPair argument <;> rfl
  next =>
    have unasked : change? ⟨name, argument⟩ = none := by
      unfold change?
      split <;> first | rfl | contradiction
    rw [unasked]
    rfl

theorem obey_goesOn_iff :
    (session.obey directive).2.goesOn = true ↔ directive.name ∉ quitNames := by
  rcases directive with ⟨name, argument⟩
  unfold obey
  dsimp only
  split <;> (try split) <;> simp_all [quitNames]

end Obey

section Handle

variable (session : Session) {line : String}

theorem handle_of_gives {name argument : String} (gives : Gives line name argument) :
    (session.handle line).1 = (session.obey ⟨name, argument⟩).1 ∧
      (session.handle line).2.goesOn = (session.obey ⟨name, argument⟩).2.goesOn := by
  rw [handle, gives.allBlank_eq_false, directive?_eq_some_iff.mpr gives]
  exact ⟨rfl, rfl⟩

/-- A line without a command is rendered as a pattern, unless it is blank. -/
theorem handle_pattern (other : ∀ name argument, ¬ Gives line name argument) :
    session.handle line =
      (session, if Text.allBlank line then {} else session.renderPattern line) := by
  have missing : directive? line = none := by
    cases found : directive? line with
    | none => rfl
    | some directive => exact absurd (directive?_eq_some_iff.mp found) (other _ _)
  rw [handle, missing]
  split <;> rfl

theorem handle_goesOn_iff : (session.handle line).2.goesOn = true ↔ ¬ Quits line := by
  by_cases command : ∃ name argument, Gives line name argument
  · rcases command with ⟨name, argument, gives⟩
    rw [(session.handle_of_gives gives).2, obey_goesOn_iff]
    refine not_congr ⟨fun listed => ⟨name, listed, argument, gives⟩, ?_⟩
    rintro ⟨other, listed, value, again⟩
    exact (gives.unique again).1 ▸ listed
  · have goesOn : (session.handle line).2.goesOn = true := by
      rw [session.handle_pattern fun name argument gives => command ⟨name, argument, gives⟩]
      dsimp only
      split
      · rfl
      · unfold renderPattern
        split <;> rfl
    exact iff_of_true goesOn fun ⟨name, _, argument, gives⟩ => command ⟨name, argument, gives⟩

theorem handle_change {change : Change} (asks : Asks line change) :
    (session.handle line).1 = { session with record := change.apply session.record } := by
  rcases asks.exists_gives with ⟨name, argument, gives⟩
  rw [(session.handle_of_gives gives).1, obey_fst, change?_eq_some asks gives]
  rfl

theorem handle_unasked (unasked : ∀ change, ¬ Asks line change) :
    (session.handle line).1 = session := by
  by_cases command : ∃ name argument, Gives line name argument
  · rcases command with ⟨name, argument, gives⟩
    have missing : change? ⟨name, argument⟩ = none := by
      cases found : change? ⟨name, argument⟩ with
      | none => rfl
      | some change => exact absurd (asks_of_change? gives found) (unasked change)
    rw [(session.handle_of_gives gives).1, obey_fst, missing]
    rfl
  · rw [session.handle_pattern fun name argument gives => command ⟨name, argument, gives⟩]

end Handle

end LogLayout.Session
