import LogLayout.Proofs.Json.Skipping
import LogLayout.Proofs.Record.Texts
import LogLayout.Proofs.Table

namespace LogLayout.RecordDraft

open Json

/-!
# Reading records

Each reader takes every text that writes a value, with any white space in front, for that value
and stops right behind it.  Structures are read member by member, and what a reader has put
together after some members is what they have given so far.
-/

/-- A reader takes a text for a value, in front of whatever may follow it. -/
def Reads {Value : Type} (read : Reader Value) (text : List Char) (value : Value) : Prop :=
  ∀ gap rest, Blank gap → Ends rest → read (gap ++ (text ++ rest)) = .ok (value, rest)

/-! ## Strings -/

theorem readString_append {string : String} {text : List Char}
    (written : StringWritten string text) {gap : List Char} (blank : Blank gap)
    (rest : List Char) : readString (gap ++ (text ++ rest)) = .ok (string, rest) := by
  obtain ⟨inside, spells, rfl⟩ := written
  have dropped : dropSpace (gap ++ ('\x22' :: (inside ++ ['\x22']) ++ rest)) =
      '\x22' :: (inside ++ '\x22' :: rest) := by
    rw [dropSpace_blank_append blank, List.cons_append, List.append_assoc]
    rfl
  simp only [readString, dropped, spells.readCharacters_eq, orFail]
  exact congrArg Except.ok (Prod.ext String.ofList_toList rfl)

theorem reads_readString {string : String} {text : List Char}
    (written : StringWritten string text) : Reads readString text string :=
  fun _ rest blank _ => readString_append written blank rest

theorem exists_cons_of_string {string : String} {text : List Char}
    (written : StringWritten string text) : ∃ others, text = '\x22' :: others := by
  obtain ⟨inside, -, rfl⟩ := written
  exact ⟨_, rfl⟩

/-! ## Other values -/

theorem bind_of_eq_ok {Value Result : Type} {step : Except InvalidRecord Value} {value : Value}
    (read : step = .ok value) (next : Value → Except InvalidRecord Result) :
    (step >>= next) = next value :=
  read ▸ rfl

theorem reads_readLine {line : UInt32} {text : List Char} (written : LineWritten line text) :
    Reads readLine text line := by
  intro gap rest blank ends
  obtain ⟨whole, value⟩ := written
  rw [← Text.digitsValue_eq whole.isDigit] at value
  have number := whole.number
  obtain ⟨first, others, rfl, digit⟩ := whole.exists_cons
  have start : dropSpace (gap ++ (first :: others ++ rest)) = first :: others ++ rest := by
    rw [dropSpace_blank_append blank]
    exact dropSpace_cons (isSpace_of_isDigit digit) _
  have taken : (first :: others ++ rest).take
      ((first :: others ++ rest).length - rest.length) = first :: others := by
    rw [List.length_append, Nat.add_sub_cancel, List.take_left]
  have decimal : (first :: others).all Char.isDigit = true := List.all_eq_true.mpr whole.isDigit
  have within : line.toNat < 4294967296 := line.toNat_lt
  simp only [readLine, start, number.skipNumber_append ends, orFail]
  refine (bind_of_eq_ok rfl _).trans ?_
  simp only [taken, decimal, value, within, if_true, UInt32.ofNat_toNat]
  rfl

theorem parse_of_spelling {level : Level} {name : List Char}
    (spelled : String.ofList (name.map Char.toLower) ∈ level.spellings) :
    Level.parse (String.ofList name) = .ok level := by
  unfold Level.parse
  rw [String.toList_ofList]
  generalize String.ofList (name.map Char.toLower) = lower at spelled
  cases level <;> simp only [Level.spellings, List.mem_cons, List.not_mem_nil, or_false] at spelled
  case warn | error => rcases spelled with rfl | rfl <;> rfl
  all_goals
    subst spelled
    rfl

theorem reads_readLevel {level : Level} {text : List Char} (written : LevelWritten level text) :
    Reads readLevel text level := by
  intro gap rest blank ends
  obtain ⟨name, spelled, named⟩ := written
  have string : StringWritten (String.ofList name) text := by
    rwa [StringWritten, String.toList_ofList]
  refine (bind_of_eq_ok (readString_append string blank rest) _).trans ?_
  simp only [parse_of_spelling spelled]
  rfl

theorem reads_readTimestamp {date : List Char → Prop} {instant : Time.Instant}
    (stands : ∀ written, date written → Time.Timestamp.readChars written = some instant)
    {text : List Char} (written : DateWritten date text) : Reads readTimestamp text instant := by
  intro gap rest blank ends
  obtain ⟨characters, dated, string⟩ := written
  have asString : StringWritten (String.ofList characters) text := by
    rwa [StringWritten, String.toList_ofList]
  refine (bind_of_eq_ok (readString_append asString blank rest) _).trans ?_
  simp only [Time.Timestamp.parse?, String.toList_ofList, stands characters dated]
  rfl

theorem reads_readOptional {Value : Type} {read : Reader Value}
    {written : Value → List Char → Prop} {value : Option Value} {text : List Char} {first : Char}
    (visible : isSpace first = false) (noNull : first ≠ 'n')
    (begins : ∀ value, written value text → ∃ others, text = first :: others)
    (reads : ∀ value, written value text → Reads read text value)
    (either : OptionWritten written value text) : Reads (readOptional read) text value := by
  intro gap rest blank ends
  cases value with
  | none =>
      cases either
      unfold readOptional
      rw [dropSpace_blank_append blank]
      rfl
  | some value =>
      have behind := reads value either [] rest blank_nil ends
      obtain ⟨others, rfl⟩ := begins value either
      rw [List.nil_append, List.cons_append] at behind
      unfold readOptional
      rw [dropSpace_blank_append blank, List.cons_append, dropSpace_cons visible]
      split
      next same => exact absurd (List.cons.inj same).1 noNull
      next =>
        rw [behind]
        rfl

theorem reads_readOptional_string {string : Option String} {text : List Char}
    (either : OptionWritten StringWritten string text) :
    Reads (readOptional readString) text string :=
  reads_readOptional rfl (by decide) (fun _ => exists_cons_of_string) (fun _ => reads_readString)
    either

/-! ## Arrays of strings -/

/-- Read a string and put it behind those before it, as the items of an array are read. -/
def appendString (strings : List String) : Reader (List String) := fun text => do
  let (string, behind) ← readString text
  pure (strings ++ [string], behind)

/-- One item is read, and then the bracket or the comma behind it. -/
theorem readItems_succ {string : String} {text gap behind : List Char}
    (written : StringWritten string text) (gapBlank : Blank gap) (behindBlank : Blank behind)
    (before : List String) (first : Bool) (turns : Nat) (rest : List Char) :
    readItems appendString before first (turns + 1) (gap ++ (text ++ (behind ++ rest))) =
      match dropSpace rest with
      | ',' :: rest => readItems appendString (before ++ [string]) false turns rest
      | ']' :: rest => .ok (before ++ [string], rest)
      | _ => fail := by
  have read := readString_append written blank_nil (behind ++ rest)
  obtain ⟨others, rfl⟩ := exists_cons_of_string written
  have dropped : dropSpace (gap ++ ('\x22' :: others ++ (behind ++ rest))) =
      '\x22' :: (others ++ (behind ++ rest)) :=
    dropSpace_blank_append gapBlank _
  have item : appendString before ('\x22' :: (others ++ (behind ++ rest))) =
      .ok (before ++ [string], behind ++ rest) :=
    bind_of_eq_ok read _
  simp only [readItems, dropped]
  refine (bind_of_eq_ok item _).trans ?_
  rw [dropSpace_blank_append behindBlank rest]
  rfl

/-- The items of an array of strings are read one behind the other. -/
theorem readItems_strings {items : List (List Char)} {text : List Char}
    (written : Items items text) {strings : List String}
    (each : List.Forall₂ StringWritten strings items) (before : List String) (first : Bool)
    {turns : Nat} (enough : text.length ≤ turns) (rest : List Char) :
    readItems appendString before first turns (text ++ rest) = .ok (before ++ strings, rest) := by
  induction written generalizing strings before first turns with
  | last gapBlank behindBlank =>
      obtain ⟨turns, rfl⟩ : ∃ others, turns = others + 1 :=
        Nat.exists_eq_succ_of_ne_zero fun none => by simp [none] at enough
      cases each with
      | cons string none =>
          cases none
          simp only [List.append_assoc, readItems_succ string gapBlank behindBlank]
          rfl
  | @more _ _ _ tail _ gapBlank behindBlank _ inductionHypothesis =>
      obtain ⟨turns, rfl⟩ : ∃ others, turns = others + 1 :=
        Nat.exists_eq_succ_of_ne_zero fun none => by simp [none] at enough
      cases each with
      | @cons head _ strings _ string others =>
          have shorter : tail.length ≤ turns := by
            simp only [List.length_append, List.length_cons] at enough
            omega
          have later := inductionHypothesis others (before ++ [head]) false shorter
          rw [List.append_assoc, List.singleton_append] at later
          simp only [List.append_assoc, List.cons_append,
            readItems_succ string gapBlank behindBlank]
          exact later

theorem reads_readStrings {strings : List String} {text : List Char}
    (written : StringsWritten strings text) : Reads readStrings text strings := by
  intro gap rest blank ends
  obtain ⟨items, array, each⟩ := written
  have dropped : dropSpace (gap ++ (text ++ rest)) = text ++ rest := by
    rw [dropSpace_blank_append blank]
    cases array <;> rfl
  unfold readStrings
  rw [dropped]
  cases array with
  | @empty inner innerBlank =>
      cases each
      have closed : dropSpace (inner ++ [']'] ++ rest) = ']' :: rest := by
        rw [List.append_assoc, dropSpace_blank_append innerBlank]
        rfl
      simp only [List.cons_append, readItems, closed, if_true]
  | @items _ inner array =>
      have within : inner.length ≤ (inner ++ rest).length + 1 := by
        rw [List.length_append]
        omega
      exact readItems_strings array each [] true within rest

/-! ## Objects -/

/-- Members lead a reader from one state to another, each read in the state that the members
before it have led to. -/
inductive Leads {State : Type} (member : State → String → Reader State) :
    State → List (String × List Char) → State → Prop
  | nil {state : State} : Leads member state [] state
  | cons {state next final : State} {key : String} {text : List Char}
    {members : List (String × List Char)} (reads : Reads (member state key) text next)
    (others : Leads member next members final) :
    Leads member state ((key, text) :: members) final

variable {State : Type} {member : State → String → Reader State}

/-- One member is read, and then the brace or the comma behind it. -/
theorem readMembers_succ {state next : State} {key : String}
    {gap written middle between value behind rest : List Char}
    (reads : Reads (member state key) value next) (gapBlank : Blank gap)
    (spells : Spells written key.toList) (middleBlank : Blank middle)
    (betweenBlank : Blank between) (behindBlank : Blank behind) (ends : Ends rest) (first : Bool)
    (turns : Nat) :
    readMembers member state first (turns + 1) (gap ++ '\x22' :: (written ++ '\x22' ::
        (middle ++ ':' :: (between ++ (value ++ (behind ++ rest)))))) =
      match dropSpace rest with
      | ',' :: rest => readMembers member next false turns rest
      | '\x7d' :: rest => .ok (next, rest)
      | _ => fail := by
  obtain ⟨tail, sameTail⟩ : ∃ tail, tail = between ++ (value ++ (behind ++ rest)) := ⟨_, rfl⟩
  have keyRead := readString_append ⟨written, spells, rfl⟩ blank_nil (middle ++ ':' :: tail)
  rw [List.nil_append, List.cons_append, List.append_assoc, List.singleton_append] at keyRead
  have valueRead : member state key tail = .ok (next, behind ++ rest) :=
    sameTail ▸ reads between (behind ++ rest) betweenBlank (ends.blank_append behindBlank)
  have dropped : dropSpace (gap ++ '\x22' :: (written ++ '\x22' :: (middle ++ ':' :: tail))) =
      '\x22' :: (written ++ '\x22' :: (middle ++ ':' :: tail)) :=
    dropSpace_blank_append gapBlank _
  have colon : dropSpace (middle ++ ':' :: tail) = ':' :: tail :=
    dropSpace_blank_append middleBlank _
  rw [← sameTail]
  simp only [readMembers, dropped]
  refine (bind_of_eq_ok keyRead _).trans ?_
  simp only [colon]
  refine (bind_of_eq_ok valueRead _).trans ?_
  simp only [dropSpace_blank_append behindBlank]
  rfl

theorem readMembers_append {members : List (String × List Char)} {text : List Char}
    (written : Members members text) {state final : State}
    (leads : Leads member state members final) (first : Bool) {turns : Nat}
    (enough : text.length ≤ turns) (rest : List Char) :
    readMembers member state first turns (text ++ rest) = .ok (final, rest) := by
  induction written generalizing state first turns with
  | last gapBlank spells middleBlank betweenBlank behindBlank =>
      obtain ⟨turns, rfl⟩ : ∃ others, turns = others + 1 :=
        Nat.exists_eq_succ_of_ne_zero fun none => by simp [none] at enough
      cases leads with
      | cons reads none =>
          cases none
          have closed : Ends ('\x7d' :: rest) := ends_cons rest (by decide)
          have step := readMembers_succ reads gapBlank spells middleBlank betweenBlank behindBlank
            closed first turns
          simp only [List.append_assoc, List.cons_append]
          exact step.trans rfl
  | @more _ _ _ _ _ _ tail _ _ gapBlank spells middleBlank betweenBlank behindBlank _
        inductionHypothesis =>
      obtain ⟨turns, rfl⟩ : ∃ others, turns = others + 1 :=
        Nat.exists_eq_succ_of_ne_zero fun none => by simp [none] at enough
      cases leads with
      | cons reads others =>
          have goesOn : Ends (',' :: (tail ++ rest)) := ends_cons _ (by decide)
          have step := readMembers_succ reads gapBlank spells middleBlank betweenBlank behindBlank
            goesOn first turns
          have shorter : tail.length ≤ turns := by
            simp only [List.length_append, List.length_cons] at enough
            omega
          have later := inductionHypothesis others false shorter
          simp only [List.append_assoc, List.cons_append]
          exact step.trans later

theorem readMembers_object {members : List (String × List Char)} {text : List Char}
    (object : ObjectText members text) {state final : State}
    (leads : Leads member state members final) {gap : List Char} (blank : Blank gap)
    (rest : List Char) :
    ∃ inner, dropSpace (gap ++ (text ++ rest)) = '\x7b' :: inner ∧
      readMembers member state true (inner.length + 1) inner = .ok (final, rest) := by
  rw [dropSpace_blank_append blank]
  cases object with
  | @empty inner innerBlank =>
      cases leads
      have closed : dropSpace (inner ++ ['\x7d'] ++ rest) = '\x7d' :: rest := by
        rw [List.append_assoc, dropSpace_blank_append innerBlank]
        rfl
      refine ⟨inner ++ ['\x7d'] ++ rest, rfl, ?_⟩
      simp only [readMembers, closed, if_true]
  | @members _ inner written =>
      have within : inner.length ≤ (inner ++ rest).length + 1 := by
        rw [List.length_append]
        omega
      exact ⟨inner ++ rest, rfl, readMembers_append written leads true within rest⟩

/-! ## Pairs -/

/-- Read a string and insert it, as the members of an object of strings are read. -/
def insertString (table : Table String) (key : String) : Reader (Table String) := fun text => do
  let (value, behind) ← readString text
  pure (table.insert key value, behind)

theorem leads_insertString {entries : List (String × String)} {members : List (String × List Char)}
    (each : List.Forall₂ (fun entry member => member.1 = entry.1 ∧ StringWritten entry.2 member.2)
      entries members) (table : Table String) :
    Leads insertString table members
      (entries.foldl (fun table entry => table.insert entry.1 entry.2) table) := by
  induction each generalizing table with
  | nil => exact .nil
  | @cons entry member entries members written _ inductionHypothesis =>
      rcases member with ⟨key, text⟩
      obtain ⟨rfl, string⟩ := written
      refine .cons (fun gap rest blank ends => ?_) (inductionHypothesis _)
      exact bind_of_eq_ok (readString_append string blank rest) _

theorem reads_readPairs {pairs : Table String} {text : List Char}
    (written : PairsWritten pairs text) : Reads readPairs text pairs := by
  intro gap rest blank ends
  obtain ⟨entries, members, object, order, each⟩ := written
  have leads := leads_insertString each .empty
  obtain ⟨inner, dropped, read⟩ := readMembers_object object leads blank rest
  have same : entries.foldl (fun table entry => table.insert entry.1 entry.2) .empty = pairs :=
    Table.ofList_eq_of_perm order
  rw [same] at read
  simp only [readPairs, dropped]
  exact read

end LogLayout.RecordDraft
