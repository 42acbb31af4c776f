import LogLayout.Proofs.Pattern.Justifying
import LogLayout.Proofs.Table
import LogLayout.Record.Pair

namespace LogLayout

/-!
# Pairs that a command gives

A command gives the pairs of its record as entries of a key, an equals sign and a value.  Keys are
taken without the blanks around them and values as they are, so that entries may meet in one key
though they are spelled differently; then the last of them counts.  One entry that gives no pair is
enough to leave the command without a record.

The directive of the pairs shows them all in the order of their keys, or the value of one key.
There the key and the text to show in its absence are divided at another mark than in an entry.
-/

/-! ## Entries as they are written -/

/-- An entry gives a key a value.  The key stands in front of the first equals sign, with blanks
around it, and the value is all that stands behind the sign. -/
def GivesPair (entry key value : String) : Prop :=
  ∃ front, '=' ∉ front ∧ entry.toList = front ++ '=' :: value.toList ∧
    Text.trimChars front = key.toList ∧ key ≠ ""

/-- An entry gives no pair.  It has no equals sign, or nothing but blanks in front of the first
one. -/
def GivesNoPair (entry : String) : Prop :=
  '=' ∉ entry.toList ∨ ∃ blanks behind, (∀ character ∈ blanks, Text.isBlank character = true) ∧
    entry.toList = blanks ++ '=' :: behind

theorem cutAtEquals_append {front : List Char} (uncut : '=' ∉ front) (behind : List Char) :
    cutAtEquals (front ++ '=' :: behind) = some (front, behind) := by
  induction front with
  | nil => rfl
  | cons character rest inductionHypothesis =>
      rw [List.cons_append,
        cutAtEquals.eq_3 _ _ fun same => List.ne_of_not_mem_cons uncut same.symm,
        inductionHypothesis (List.not_mem_of_not_mem_cons uncut)]
      rfl

theorem cutAtEquals_eq_none {text : List Char} (uncut : '=' ∉ text) :
    cutAtEquals text = none := by
  induction text with
  | nil => rfl
  | cons character rest inductionHypothesis =>
      rw [cutAtEquals.eq_3 _ _ fun same => List.ne_of_not_mem_cons uncut same.symm,
        inductionHypothesis (List.not_mem_of_not_mem_cons uncut)]
      rfl

theorem GivesPair.readPair_eq {entry key value : String} (gives : GivesPair entry key value) :
    readPair entry = .ok (key, value) := by
  obtain ⟨front, uncut, text, trimmed, nonempty⟩ := gives
  have filled : key.toList ≠ [] := fun none => nonempty (String.toList_eq_nil_iff.mp none)
  rw [readPair, text, cutAtEquals_append uncut]
  dsimp only
  rw [trimmed, List.isEmpty_eq_false_iff.mpr filled, String.ofList_toList, String.ofList_toList]
  rfl

theorem GivesNoPair.readPair_eq {entry : String} (none : GivesNoPair entry) :
    readPair entry = .error ⟨entry⟩ := by
  rcases none with uncut | ⟨blanks, behind, blank, text⟩
  · rw [readPair, cutAtEquals_eq_none uncut]
  · have uncut : '=' ∉ blanks := fun member => absurd (blank '=' member) (by decide)
    rw [readPair, text, cutAtEquals_append uncut]
    dsimp only
    rw [Text.trimChars_eq_nil_iff.mpr blank]
    rfl

theorem gives_or_givesNoPair (entry : String) :
    (∃ key value, GivesPair entry key value) ∨ GivesNoPair entry := by
  by_cases sign : '=' ∈ entry.toList
  · obtain ⟨front, behind, text, uncut⟩ := List.eq_append_cons_of_mem sign
    by_cases empty : Text.trimChars front = []
    · exact .inr (.inr ⟨front, behind, Text.trimChars_eq_nil_iff.mp empty, text⟩)
    · refine .inl ⟨String.ofList (Text.trimChars front), String.ofList behind, front, uncut, ?_, ?_,
        fun none => empty (String.ofList_eq_empty_iff.mp none)⟩
      · rw [text, String.toList_ofList]
      · rw [String.toList_ofList]
  · exact .inr (.inl sign)

theorem readPair_eq_ok_iff {entry key value : String} :
    readPair entry = .ok (key, value) ↔ GivesPair entry key value := by
  refine ⟨fun read => ?_, GivesPair.readPair_eq⟩
  rcases gives_or_givesNoPair entry with ⟨other, given, gives⟩ | none
  · cases gives.readPair_eq.symm.trans read
    exact gives
  · cases none.readPair_eq.symm.trans read

theorem readPair_eq_error_iff {entry : String} {invalid : InvalidPair} :
    readPair entry = .error invalid ↔ GivesNoPair entry ∧ invalid = ⟨entry⟩ := by
  constructor
  · intro failed
    rcases gives_or_givesNoPair entry with ⟨key, value, gives⟩ | none
    · cases gives.readPair_eq.symm.trans failed
    · cases none.readPair_eq.symm.trans failed
      exact ⟨none, rfl⟩
  · rintro ⟨none, rfl⟩
    exact none.readPair_eq

/-! ## Reading one entry after another -/

section Reading

variable {Item Result Fault : Type} {read : Item → Except Fault Result}

theorem map_read_of_mapM {items : List Item} {results : List Result}
    (readAll : items.mapM read = .ok results) : items.map read = results.map .ok := by
  induction items generalizing results with
  | nil =>
      cases readAll
      rfl
  | cons item others inductionHypothesis =>
      rw [List.mapM_cons] at readAll
      obtain ⟨result, first, continued⟩ := Pattern.exists_of_bind readAll
      obtain ⟨found, rest, same⟩ := Pattern.exists_of_bind continued
      cases same
      rw [List.map_cons, List.map_cons, first, inductionHypothesis rest]

/-- Reading many fails at the first of them that cannot be read. -/
theorem exists_first_of_mapM {items : List Item} {fault : Fault}
    (failed : items.mapM read = .error fault) :
    ∃ before item after, items = before ++ item :: after ∧
      (∀ earlier ∈ before, ∃ result, read earlier = .ok result) ∧ read item = .error fault := by
  induction items with
  | nil => cases failed
  | cons item others inductionHypothesis =>
      rw [List.mapM_cons] at failed
      cases first : read item with
      | error other =>
          rw [first] at failed
          cases failed
          exact ⟨[], item, others, rfl, fun _ member => absurd member List.not_mem_nil, first⟩
      | ok result =>
          cases rest : others.mapM read with
          | error other =>
              rw [first, rest] at failed
              cases failed
              obtain ⟨before, found, after, split, earlier, broken⟩ := inductionHypothesis rest
              refine ⟨item :: before, found, after, congrArg _ split, ?_, broken⟩
              exact List.forall_mem_cons.mpr ⟨⟨result, first⟩, earlier⟩
          | ok found =>
              rw [first, rest] at failed
              cases failed

end Reading

/-! ## The pairs of a record -/

/-- The last of some entries that gives a key any value gives it this one. -/
def LastGiven (entries : List String) (key value : String) : Prop :=
  ∃ before entry after, entries = before ++ entry :: after ∧ GivesPair entry key value ∧
    ∀ later ∈ after, ∀ other, ¬ GivesPair later key other

theorem get?_ofList_iff_lastGiven {entries : List String} {pairs : List (String × String)}
    (readAll : entries.mapM readPair = .ok pairs) (key value : String) :
    (Table.ofList pairs).get? key = some value ↔ LastGiven entries key value := by
  have each := map_read_of_mapM readAll
  rw [Table.get?_ofList_eq_some_iff]
  constructor
  · rintro ⟨before, after, rfl, others⟩
    rw [List.map_append, List.map_cons] at each
    obtain ⟨front, back, rfl, -, eachBack⟩ := List.map_eq_append_iff.mp each
    obtain ⟨entry, behind, rfl, here, eachBehind⟩ := List.map_eq_cons_iff.mp eachBack
    refine ⟨front, entry, behind, rfl, readPair_eq_ok_iff.mp here, ?_⟩
    intro later member other gives
    have among : readPair later ∈ after.map Except.ok :=
      eachBehind ▸ List.mem_map_of_mem member
    obtain ⟨pair, listed, same⟩ := List.mem_map.mp among
    cases same.trans gives.readPair_eq
    exact others _ listed rfl
  · rintro ⟨before, entry, after, rfl, gives, others⟩
    rw [List.map_append, List.map_cons] at each
    obtain ⟨front, back, rfl, -, eachBack⟩ := List.map_eq_append_iff.mp each.symm
    obtain ⟨pair, behind, rfl, here, eachBehind⟩ := List.map_eq_cons_iff.mp eachBack
    cases here.trans gives.readPair_eq
    refine ⟨front, behind, rfl, ?_⟩
    intro later member same
    have among : Except.ok later ∈ after.map readPair :=
      eachBehind ▸ List.mem_map_of_mem member
    obtain ⟨entry, listed, read⟩ := List.mem_map.mp among
    rcases later with ⟨name, found⟩
    obtain rfl : name = key := same
    exact others entry listed found (readPair_eq_ok_iff.mp read)

section Records

variable {request : RecordRequest} {now : Time.Instant} {thread : String}

theorem mapM_of_record {record : Record} (made : request.record now thread = .ok record) :
    ∃ pairs, request.pairs.mapM readPair = .ok pairs ∧ record.pairs = Table.ofList pairs := by
  unfold RecordRequest.record RecordRequest.readPairs at made
  cases read : request.pairs.mapM readPair with
  | error invalid =>
      rw [read] at made
      cases made
  | ok pairs =>
      rw [read] at made
      cases made
      exact ⟨pairs, rfl, rfl⟩

theorem mapM_of_record_error {invalid : InvalidPair}
    (failed : request.record now thread = .error invalid) :
    request.pairs.mapM readPair = .error invalid := by
  unfold RecordRequest.record RecordRequest.readPairs at failed
  cases read : request.pairs.mapM readPair with
  | error other =>
      rw [read] at failed
      cases failed
      rfl
  | ok pairs =>
      rw [read] at failed
      cases failed

theorem exists_record_error_iff :
    (∃ invalid, request.record now thread = .error invalid) ↔
      ∃ entry ∈ request.pairs, GivesNoPair entry := by
  constructor
  · rintro ⟨invalid, failed⟩
    obtain ⟨before, entry, after, split, -, broken⟩ :=
      exists_first_of_mapM (mapM_of_record_error failed)
    refine ⟨entry, ?_, (readPair_eq_error_iff.mp broken).1⟩
    rw [split]
    exact List.mem_append_right _ List.mem_cons_self
  · rintro ⟨entry, member, none⟩
    cases made : request.record now thread with
    | error invalid => exact ⟨invalid, rfl⟩
    | ok record =>
        obtain ⟨pairs, readAll, -⟩ := mapM_of_record made
        have among : readPair entry ∈ pairs.map Except.ok :=
          map_read_of_mapM readAll ▸ List.mem_map_of_mem member
        rw [none.readPair_eq] at among
        obtain ⟨pair, -, same⟩ := List.mem_map.mp among
        cases same

end Records

/-! ## What the directive shows of them -/

namespace Pattern

/-- A key is divided from its fallback at the first mark, and no mark arises where they meet. -/
theorem cutAtFallback_append {key : List Char} (uncut : ¬ [':', '-'] <:+: key)
    (fallback : List Char) :
    cutAtFallback (key ++ ':' :: '-' :: fallback) = some (key, fallback) := by
  induction key with
  | nil => rfl
  | cons character rest inductionHypothesis =>
      have later : ¬ [':', '-'] <:+: rest := fun inside =>
        uncut (inside.trans (List.suffix_cons character rest).isInfix)
      rw [List.cons_append, cutAtFallback.eq_3, inductionHypothesis later]
      · rfl
      · intro behind colon hyphen
        subst colon
        cases rest with
        | nil => exact absurd (List.cons.inj hyphen).1 (by decide)
        | cons next others =>
            obtain rfl : next = '-' := (List.cons.inj hyphen).1
            exact uncut (List.prefix_append [':', '-'] others).isInfix

theorem readKey_append {key : String} (trimmed : Text.trim key = key)
    (uncut : ¬ [':', '-'] <:+: key.toList) (fallback : String) :
    readKey (key ++ ":-" ++ fallback) = (key, fallback) := by
  have text : (key ++ ":-" ++ fallback).toList = key.toList ++ ':' :: '-' :: fallback.toList := by
    rw [String.toList_append, String.toList_append, List.append_assoc]
    rfl
  rw [readKey, text, cutAtFallback_append uncut]
  dsimp only
  rw [← Text.trim, trimmed, String.ofList_toList]

theorem compile_pairs (context : Context) :
    Registry.builtin.compile context "%mdc" =
      .ok (.single fun record => pairsText record.pairs.entries) := by
  have nonempty : "mdc" ≠ "" := by decide
  have letters : ∀ letter ∈ "mdc".toList, Text.isAlphabetic letter = true :=
    List.all_eq_true.mp (by decide)
  exact compile_word nonempty letters rfl fun _ => rfl

theorem create_pairs {key : String} (trimmed : Text.trim key = key)
    (uncut : ¬ [':', '-'] <:+: key.toList) (context : Context) (position : Nat)
    (fallback : String) (others : List String) (inside : Option Compiled) :
    Registry.builtin.create context
        ⟨⟨position, .unlimited, "mdc"⟩, (key ++ ":-" ++ fallback) :: others, inside⟩ =
      .ok fun record => (record.pairs.get? key).getD fallback := by
  have resolved : Registry.builtin.resolve? "mdc" = some Words.pairs := rfl
  have built : Words.pairs.build
      ⟨⟨position, .unlimited, "mdc"⟩, (key ++ ":-" ++ fallback) :: others, inside⟩ context =
        .ok fun record => (record.pairs.get? key).getD fallback :=
    congrArg (fun found : String × String =>
      Except.ok fun record : Record => (record.pairs.get? found.1).getD found.2)
      (readKey_append trimmed uncut fallback)
  rw [Registry.create, Spec.word, resolved]
  dsimp only
  rw [Builder.instantiate_eq_map, built]
  rfl

end Pattern

/-- From the entries of a command to what its line shows of them.  There is no record exactly if
some entry gives no pair, and then the message names the first one.  Otherwise all pairs stand in
the line in strictly rising order of their keys, each key once and with the value that it was last
given; and a directive that names a key shows that value, or its fallback where the key was not
given. -/
theorem record_pairs_shown (request : RecordRequest) (now : Time.Instant) (thread : String) :
    ((∃ invalid, request.record now thread = .error invalid) ↔
      ∃ entry ∈ request.pairs, GivesNoPair entry) ∧
    (∀ invalid, request.record now thread = .error invalid →
      ∃ before entry after, request.pairs = before ++ entry :: after ∧
        (∀ earlier ∈ before, ¬ GivesNoPair earlier) ∧ GivesNoPair entry ∧
        invalid.message = "invalid MDC entry '" ++ entry ++ "', expected KEY=VALUE") ∧
    ∀ record, request.record now thread = .ok record →
      ∃ pairs : List (String × String),
        pairs.Pairwise (fun first second => first.1 < second.1) ∧
        (∀ key value, (key, value) ∈ pairs ↔ LastGiven request.pairs key value) ∧
        (∀ context, ∃ compiled, Pattern.Registry.builtin.compile context "%mdc" = .ok compiled ∧
          compiled.render record =
            String.intercalate ", " (pairs.map fun (key, value) => key ++ "=" ++ value)) ∧
        ∀ key fallback, Text.trim key = key → ¬ [':', '-'] <:+: key.toList →
          ∀ context position others inside, ∃ unit,
            Pattern.Registry.builtin.create context
              ⟨⟨position, .unlimited, "mdc"⟩, (key ++ ":-" ++ fallback) :: others, inside⟩ =
                .ok unit ∧
            (∀ value, LastGiven request.pairs key value → unit record = value) ∧
            ((∀ value, ¬ LastGiven request.pairs key value) → unit record = fallback) := by
  refine ⟨exists_record_error_iff, ?_, ?_⟩
  · intro invalid failed
    obtain ⟨before, entry, after, split, earlier, broken⟩ :=
      exists_first_of_mapM (mapM_of_record_error failed)
    obtain ⟨none, rfl⟩ := readPair_eq_error_iff.mp broken
    refine ⟨before, entry, after, split, ?_, none, rfl⟩
    intro other member otherNone
    obtain ⟨pair, read⟩ := earlier other member
    cases otherNone.readPair_eq.symm.trans read
  · intro record made
    obtain ⟨read, readAll, pairs⟩ := mapM_of_record made
    have given (key value : String) :
        record.pairs.get? key = some value ↔ LastGiven request.pairs key value := by
      rw [pairs]
      exact get?_ofList_iff_lastGiven readAll key value
    refine ⟨record.pairs.entries, record.pairs.rising, ?_, ?_, ?_⟩
    · intro key value
      rw [record.pairs.mem_entries_iff, given]
    · intro context
      exact ⟨_, Pattern.compile_pairs context, Pattern.Compiled.render_single ..⟩
    · intro key fallback trimmed uncut context position others inside
      refine ⟨_, Pattern.create_pairs trimmed uncut context position fallback others inside, ?_, ?_⟩
      · intro value last
        rw [(given key value).mpr last]
        rfl
      · intro absent
        have missing : record.pairs.get? key = none := by
          rw [Option.eq_none_iff_forall_ne_some]
          exact fun value found => absent value ((given key value).mp found)
        rw [missing]
        rfl

/-- Entries that meet in one key once the blanks are off. -/
def meetingRequest : RecordRequest := { pairs := ["b =old", "a=1", " b=new = x"] }

/-- Entries of which two give no pair, the first of them for want of a key. -/
def keylessRequest : RecordRequest := { pairs := ["a=1", " =x", "b"] }

theorem record_pairs_shown_meeting :
    let context : Pattern.Context := { application := "shop", node := "east", console := .plain }
    LastGiven meetingRequest.pairs "b" "new = x" ∧
    (∃ record unit, meetingRequest.record .epoch "main" = .ok record ∧
      Pattern.Registry.builtin.create context
        ⟨⟨0, .unlimited, "mdc"⟩, ["b:-none"], none⟩ = .ok unit ∧ unit record = "new = x") ∧
    ∃ before entry after, keylessRequest.pairs = before ++ entry :: after ∧ GivesNoPair entry ∧
      keylessRequest.record .epoch "main" = .error ⟨" =x"⟩ ∧
      (⟨" =x"⟩ : InvalidPair).message =
        "invalid MDC entry '" ++ entry ++ "', expected KEY=VALUE" := by
  intro context
  have last : LastGiven meetingRequest.pairs "b" "new = x" :=
    ⟨["b =old", "a=1"], " b=new = x", [], rfl,
      ⟨[' ', 'b'], by decide, by decide, by decide, by decide⟩,
      fun _ member => absurd member List.not_mem_nil⟩
  obtain ⟨record, made⟩ : ∃ record, meetingRequest.record .epoch "main" = .ok record := ⟨_, rfl⟩
  have refused : keylessRequest.record .epoch "main" = .error ⟨" =x"⟩ := rfl
  refine ⟨last, ?_, ?_⟩
  · obtain ⟨-, -, -, -, single⟩ :=
      (record_pairs_shown meetingRequest .epoch "main").2.2 record made
    obtain ⟨unit, created, found, -⟩ :=
      single "b" "none" (by decide) (by decide) context 0 [] none
    exact ⟨record, unit, made, created, found "new = x" last⟩
  · obtain ⟨before, entry, after, split, -, none, message⟩ :=
      (record_pairs_shown keylessRequest .epoch "main").2.1 _ refused
    exact ⟨before, entry, after, split, none, refused, message⟩

end LogLayout
