import LogLayout.Proofs.Toml.LineEnds

namespace LogLayout.Toml

/-!
# Strings and keys with other line ends

Strings and keys on one line hold no line end at all.  A string on several lines has a line feed
for each of its line ends, however they are written, and where it folds lines it drops them.
-/

/-! ## Strings on one line -/

section OneLine

/-- If the rest of a string is read alike, so is the string with a character in front. -/
theorem exists_consed {character : Char} {first second : Option (List Char × List Char)}
    {value rest : List Char} {bound wider : Nat}
    (done : consed character first = some (value, rest)) (wide : bound ≤ wider)
    (alike : ∀ tail, first = some (tail, rest) →
      ∃ behind, second = some (tail, behind) ∧ SameLines rest behind ∧ behind.length ≤ bound) :
    ∃ behind, consed character second = some (value, behind) ∧ SameLines rest behind ∧
      behind.length ≤ wider := by
  cases first with
  | none => cases done
  | some taken =>
      cases done
      rcases alike taken.1 rfl with ⟨behind, read, ending, short⟩
      exact ⟨behind, by rw [read]; rfl, ending, Nat.le_trans short wide⟩

theorem return_not_mem_of_numbered? {digits : List Char} {character : Char}
    (numbered : numbered? digits = some character) : '\r' ∉ digits := by
  have none_of_mem (start : Nat) (member : '\r' ∈ digits) :
      digits.foldlM (fun value digit => (Text.hexValue? digit).map (value * 16 + ·)) start =
        none := by
    clear numbered
    induction digits generalizing start with
    | nil => cases member
    | cons digit others inductionHypothesis =>
        rw [List.foldlM_cons]
        cases read : Text.hexValue? digit with
        | none => rfl
        | some value =>
            rcases List.mem_cons.mp member with rfl | later
            · cases read
            · exact inductionHypothesis _ later
  intro member
  unfold numbered? Text.hexNumber? at numbered
  rw [none_of_mem 0 member] at numbered
  cases numbered

theorem ne_return_of_escaped? {letter character : Char}
    (escaped : escaped? letter = some character) : letter ≠ '\r' := by
  rintro rfl
  cases escaped

theorem ne_return_of_isPlain {character : Char} (plain : isPlain character = true) :
    character ≠ '\r' := by
  rintro rfl
  cases plain

theorem ignoresLineEnds_readLiteral : IgnoresLineEnds readLiteral := by
  intro text
  fun_induction readLiteral text with
  | case1 => exact fun _ _ _ _ done => by cases done
  | case2 rest =>
      intro other value rest same done
      cases done
      rcases same.exists_behind (by decide) with ⟨behind, rfl, tail⟩
      exact ⟨behind, rfl, tail, Nat.le_succ _⟩
  | case3 character rest unquoted plain inductionHypothesis =>
      intro other value last same done
      rcases same.exists_behind (ne_return_of_isPlain plain) with ⟨behind, rfl, tail⟩
      rw [readLiteral, if_pos plain]
      · exact exists_consed done (Nat.le_succ _) fun _ read => inductionHypothesis tail read
      · exact unquoted
  | case4 => exact fun _ _ _ _ done => by cases done

/-- Read an escape from behind its backslash. -/
def readEscape : Reader Char
  | 'u' :: a :: b :: c :: d :: rest => (numbered? [a, b, c, d]).map (·, rest)
  | 'U' :: a :: b :: c :: d :: e :: f :: g :: h :: rest =>
      (numbered? [a, b, c, d, e, f, g, h]).map (·, rest)
  | letter :: rest => (escaped? letter).map (·, rest)
  | [] => none

theorem readBasic_escape (text : List Char) :
    readBasic ('\\' :: text) =
      (readEscape text).bind fun taken => consed taken.1 (readBasic taken.2) := by
  fun_cases readEscape text with
  | case1 a b c d rest => simp only [readBasic]; cases numbered? [a, b, c, d] <;> rfl
  | case2 a b c d e f g h rest =>
      simp only [readBasic]; cases numbered? [a, b, c, d, e, f, g, h] <;> rfl
  | case3 letter rest noFour noEight =>
      rw [readBasic]
      · cases escaped? letter <;> rfl
      · exact fun a b c d rest first same => noFour a b c d rest first same
      · exact fun a b c d e f g h rest first same => noEight a b c d e f g h rest first same
  | case4 => rfl

theorem length_readEscape_lt {text rest : List Char} {character : Char}
    (read : readEscape text = some (character, rest)) : rest.length < text.length := by
  unfold readEscape at read
  split at read
  next =>
    rcases Option.map_eq_some_iff.mp read with ⟨_, -, same⟩
    cases same
    simp only [List.length_cons]
    omega
  next =>
    rcases Option.map_eq_some_iff.mp read with ⟨_, -, same⟩
    cases same
    simp only [List.length_cons]
    omega
  next =>
    rcases Option.map_eq_some_iff.mp read with ⟨_, -, same⟩
    cases same
    exact Nat.lt_succ_self _
  next => cases read

theorem ignoresLineEnds_readEscape : IgnoresLineEnds readEscape := by
  intro text other value rest same read
  have taken : ∃ front, text = front ++ rest ∧ '\r' ∉ front ∧
      ∀ behind, readEscape (front ++ behind) = some (value, behind) := by
    unfold readEscape at read
    split at read
    next a b c d rest =>
      rcases Option.map_eq_some_iff.mp read with ⟨character, numbered, same⟩
      cases same
      refine ⟨['u', a, b, c, d], rfl, ?_, fun behind => ?_⟩
      · exact List.not_mem_cons_of_ne_of_not_mem (by decide) (return_not_mem_of_numbered? numbered)
      · simp only [List.cons_append, List.nil_append, readEscape, numbered, Option.map_some]
    next a b c d e f g h rest =>
      rcases Option.map_eq_some_iff.mp read with ⟨character, numbered, same⟩
      cases same
      refine ⟨['U', a, b, c, d, e, f, g, h], rfl, ?_, fun behind => ?_⟩
      · exact List.not_mem_cons_of_ne_of_not_mem (by decide) (return_not_mem_of_numbered? numbered)
      · simp only [List.cons_append, List.nil_append, readEscape, numbered, Option.map_some]
    next letter rest noFour noEight =>
      rcases Option.map_eq_some_iff.mp read with ⟨character, escaped, same⟩
      cases same
      refine ⟨[letter], rfl, ?_, fun behind => ?_⟩
      · exact fun member => ne_return_of_escaped? escaped (List.mem_singleton.mp member).symm
      · rw [List.singleton_append, readEscape, escaped]
        · rfl
        · rintro _ _ _ _ _ rfl
          cases escaped
        · rintro _ _ _ _ _ _ _ _ _ rfl
          cases escaped
    next => cases read
  rcases taken with ⟨front, rfl, noReturn, again⟩
  rcases same.exists_append front rfl noReturn with ⟨behind, rfl, lines⟩
  exact ⟨behind, again behind, lines, by rw [List.length_append]; exact Nat.le_add_left _ _⟩

theorem readBasic_plain {character : Char} (unquoted : character ≠ '\x22')
    (noEscape : character ≠ '\\') (rest : List Char) :
    readBasic (character :: rest) =
      if isPlain character then consed character (readBasic rest) else none := by
  rw [readBasic]
  · simp only [ne_eq, noEscape, not_false_eq_true, decide_true, Bool.and_true]
  · exact unquoted
  · exact fun _ _ _ _ _ same => absurd same noEscape
  · exact fun _ _ _ _ _ _ _ _ _ same => absurd same noEscape
  · exact fun _ _ same => absurd same noEscape

/-- A string on one line ends at its quote.  Escapes take several characters, so that the induction
is on the length. -/
theorem ignoresLineEnds_readBasic : IgnoresLineEnds readBasic := by
  intro text
  induction length : text.length using Nat.strongRecOn generalizing text with
  | ind size shorter =>
      subst length
      intro other value rest same done
      cases text with
      | nil => cases done
      | cons character text =>
          by_cases quote : character = '\x22'
          · subst quote
            cases done
            rcases same.exists_behind (by decide) with ⟨behind, rfl, tail⟩
            exact ⟨behind, rfl, tail, Nat.le_succ _⟩
          by_cases escape : character = '\\'
          · subst escape
            rw [readBasic_escape] at done
            rcases Option.bind_eq_some_iff.mp done with ⟨⟨named, after⟩, escaped, done⟩
            rcases same.exists_behind (by decide) with ⟨behind, rfl, tail⟩
            rcases ignoresLineEnds_readEscape tail escaped with ⟨next, escapedToo, lines, short⟩
            have fewer := Nat.lt_succ_of_lt (length_readEscape_lt escaped)
            rw [readBasic_escape, escapedToo, Option.bind_some]
            exact exists_consed done (Nat.le_succ_of_le short)
              fun _ read => shorter _ fewer rfl lines read
          · rw [readBasic_plain quote escape] at done
            split at done
            next plain =>
              rcases same.exists_behind (ne_return_of_isPlain plain) with ⟨behind, rfl, tail⟩
              rw [readBasic_plain quote escape, if_pos plain]
              exact exists_consed done (Nat.le_succ _)
                fun _ read => shorter _ (Nat.lt_succ_self _) rfl tail read
            next => cases done

end OneLine

/-! ## Strings on several lines -/

section SeveralLines

variable {text other rest : List Char} {character : Char}

theorem SameLines.exists_lastQuotes (same : SameLines text other) {quote : Char}
    (noFeed : (quote == '\n') = false) (noReturn : (quote == '\r') = false) {value : List Char}
    (quotes : lastQuotes quote text = (value, rest)) :
    ∃ behind, lastQuotes quote other = (value, behind) ∧ SameLines rest behind ∧
      behind.length ≤ other.length := by
  have apart (other : Char) (different : (quote == other) = false) : (other == quote) = false := by
    rw [Bool.beq_comm, different]
  have run : text.takeWhile (· == quote) = other.takeWhile (· == quote) :=
    (same.dropWhile (apart _ noFeed) (apart _ noReturn)).1
  have within : ((text.takeWhile (· == quote)).take 2).length ≤
      (text.takeWhile (· == quote)).length := (List.take_sublist _ _).length_le
  cases quotes
  simp only [lastQuotes, ← run]
  exact ⟨_, rfl, same.drop (apart _ noReturn) within, (List.drop_sublist _ _).length_le⟩

theorem readEscape_of_endsLine (ends : endsLine text = true) : readEscape text = none := by
  cases text with
  | nil => rfl
  | cons character text =>
      by_cases space : isSpace character = true
      · rcases Bool.or_eq_true_iff.mp space with blank | tab
        · rw [eq_of_beq blank]
          rfl
        · rw [eq_of_beq tab]
          rfl
      · have undropped : dropSpace (character :: text) = character :: text := by
          simp [dropSpace, space]
        rw [endsLine, undropped] at ends
        rcases Option.isSome_iff_exists.mp ends with ⟨rest, ended⟩
        unfold dropNewline? at ended
        split at ended
        next same =>
          cases same
          rfl
        next same =>
          cases same
          rfl
        next => cases ended

theorem SameLines.endsLine (same : SameLines text other) (ends : Toml.endsLine text = true) :
    Toml.endsLine other = true := by
  rcases Option.isSome_iff_exists.mp ends with ⟨rest, ended⟩
  rcases same.dropSpace.dropNewline? ended with ⟨behind, endedToo, -⟩
  exact Option.isSome_iff_exists.mpr ⟨behind, endedToo⟩

theorem readLongBasic_escape (folding : Bool) (text : List Char) :
    readLongBasic folding ('\\' :: text) =
      match readEscape text with
      | some (character, rest) => consed character (readLongBasic false rest)
      | none => if endsLine text then readLongBasic true text else none := by
  fun_cases readEscape text with
  | case1 a b c d rest =>
      simp only [readLongBasic]
      cases numbered? [a, b, c, d] <;> rfl
  | case2 a b c d e f g h rest =>
      simp only [readLongBasic]
      cases numbered? [a, b, c, d, e, f, g, h] <;> rfl
  | case3 letter rest noFour noEight =>
      rw [readLongBasic]
      · cases escaped? letter <;> rfl
      · exact fun a b c d rest first same => noFour a b c d rest first same
      · exact fun a b c d e f g h rest first same => noEight a b c d e f g h rest first same
  | case4 => cases folding <;> rfl

theorem readLongBasic_feed (folding : Bool) (text : List Char) :
    readLongBasic folding ('\n' :: text) =
      if folding then readLongBasic true text else consed '\n' (readLongBasic false text) := by
  rw [readLongBasic]

theorem readLongBasic_return (folding : Bool) (text : List Char) :
    readLongBasic folding ('\r' :: '\n' :: text) = readLongBasic folding ('\n' :: text) := by
  rw [readLongBasic, readLongBasic_feed]

theorem readLongBasic_plain (folding : Bool) (noFeed : character ≠ '\n')
    (noReturn : character ≠ '\r') (noEscape : character ≠ '\\')
    (unclosed : character = '\x22' → ∀ rest, text ≠ '\x22' :: '\x22' :: rest) :
    readLongBasic folding (character :: text) =
      if folding && isSpace character then readLongBasic true text
      else if isPlain character then consed character (readLongBasic false text)
      else none := by
  rw [readLongBasic]
  · simp only [ne_eq, noEscape, not_false_eq_true, decide_true, Bool.and_true]
  · exact fun _ same => absurd same noReturn
  · exact noFeed
  · exact fun rest same => unclosed same rest
  · exact fun _ _ _ _ _ same => absurd same noEscape
  · exact fun _ _ _ _ _ _ _ _ _ same => absurd same noEscape
  · exact fun _ _ same => absurd same noEscape

/-- A carriage return of its own ends no line of a string, and it is no part of one. -/
theorem readLongBasic_stray (folding : Bool) (lone : text.head? ≠ some '\n') :
    readLongBasic folding ('\r' :: text) = none := by
  rw [readLongBasic]
  · cases folding <;> rfl
  · rintro rest _ rfl
    exact lone rfl
  all_goals simp

/-- Three quotes in front of one text stand in front of the other one. -/
theorem SameLines.closed_iff {quote : Char} (same : SameLines text other)
    (plain : quote ≠ '\r') (noFeed : quote ≠ '\n') :
    (∃ rest, text = quote :: quote :: rest) ↔ ∃ rest, other = quote :: quote :: rest := by
  constructor
  · rintro ⟨rest, rfl⟩
    rcases same.exists_behind plain with ⟨behind, rfl, tail⟩
    rcases tail.exists_behind plain with ⟨last, rfl, -⟩
    exact ⟨last, rfl⟩
  · rintro ⟨rest, rfl⟩
    cases same with
    | feed => exact absurd rfl noFeed
    | stray => exact absurd rfl plain
    | keep plain behind =>
        cases behind with
        | ended => exact absurd rfl noFeed
        | feed => exact absurd rfl noFeed
        | stray => exact absurd rfl plain
        | keep => exact ⟨_, rfl⟩

/-- What stands in front of a text within a string on several lines: the end of the string, a
character of it, or something that is folded away. -/
inductive LongStep where
  | closing (behind : List Char)
  | taking (taken : Char) (behind : List Char)
  | folding (behind : List Char)

namespace LongStep

def behind : LongStep → List Char
  | closing behind => behind
  | taking _ behind => behind
  | folding behind => behind

/-- Steps of one kind, with texts of the same lines behind them. -/
inductive Same : LongStep → LongStep → Prop where
  | closing {text other : List Char} (lines : SameLines text other) :
    Same (.closing text) (.closing other)
  | taking (taken : Char) {text other : List Char} (lines : SameLines text other) :
    Same (.taking taken text) (.taking taken other)
  | folding {text other : List Char} (lines : SameLines text other) :
    Same (.folding text) (.folding other)

/-- A line end is a character of a string, unless lines are folded. -/
def newline (folds : Bool) (behind : List Char) : LongStep :=
  if folds then .folding behind else .taking '\n' behind

def read : LongStep → Option (List Char × List Char)
  | closing behind => some (lastQuotes '\x22' behind)
  | taking taken behind => consed taken (readLongBasic false behind)
  | folding behind => readLongBasic true behind

end LongStep

/-- The first step within a string on several lines. -/
def longStep? (folds : Bool) (text : List Char) : Option LongStep :=
  match text with
  | [] => none
  | '\r' :: '\n' :: behind => some (.newline folds behind)
  | '\n' :: behind => some (.newline folds behind)
  | '\x22' :: '\x22' :: '\x22' :: behind => some (.closing behind)
  | '\\' :: behind =>
      match readEscape behind with
      | some (taken, behind) => some (.taking taken behind)
      | none => if endsLine behind then some (.folding behind) else none
  | taken :: behind =>
      if folds && isSpace taken then some (.folding behind)
      else if isPlain taken then some (.taking taken behind)
      else none

/-- A string on several lines is read step by step. -/
theorem readLongBasic_eq (folds : Bool) (text : List Char) :
    readLongBasic folds text = (longStep? folds text).bind LongStep.read := by
  have newline (behind : List Char) : readLongBasic folds ('\n' :: behind) =
      (LongStep.newline folds behind).read := by
    rw [readLongBasic_feed, LongStep.newline]
    cases folds <;> simp [LongStep.read]
  have plain {taken : Char} {behind : List Char}
      (noReturn : ∀ rest, taken = '\r' → behind = '\n' :: rest → False)
      (noFeed : taken = '\n' → False)
      (unclosed : ∀ rest, taken = '\x22' → behind = '\x22' :: '\x22' :: rest → False)
      (noEscape : taken = '\\' → False) :
      readLongBasic folds (taken :: behind) =
        if folds && isSpace taken then readLongBasic true behind
        else if isPlain taken then consed taken (readLongBasic false behind) else none := by
    by_cases return_ : taken = '\r'
    · subst return_
      have lone : behind.head? ≠ some '\n' := by
        intro first
        rcases List.head?_eq_some_iff.mp first with ⟨rest, rfl⟩
        exact noReturn rest rfl rfl
      rw [readLongBasic_stray folds lone]
      cases folds <;> rfl
    · exact readLongBasic_plain folds noFeed return_ noEscape
        fun quote rest same => unclosed rest quote same
  fun_cases longStep? folds text with
  | case1 => rfl
  | case2 behind => rw [readLongBasic_return, newline, Option.bind_some]
  | case3 behind => rw [newline, Option.bind_some]
  | case4 behind => simp [readLongBasic, LongStep.read]
  | case5 behind taken after escaped => simp [readLongBasic_escape, escaped, LongStep.read]
  | case6 behind escaped ends => simp [readLongBasic_escape, escaped, ends, LongStep.read]
  | case7 behind escaped ends => simp [readLongBasic_escape, escaped, ends]
  | case8 taken behind noReturn noFeed unclosed noEscape folded =>
      rw [plain noReturn noFeed unclosed noEscape, if_pos folded]
      rfl
  | case9 taken behind noReturn noFeed unclosed noEscape kept taking =>
      rw [plain noReturn noFeed unclosed noEscape, if_neg kept, if_pos taking]
      rfl
  | case10 taken behind noReturn noFeed unclosed noEscape kept refused =>
      rw [plain noReturn noFeed unclosed noEscape, if_neg kept, if_neg refused]
      rfl

theorem longStep?_plain {taken : Char} {behind : List Char} (folds : Bool)
    (noReturn : taken ≠ '\r') (noFeed : taken ≠ '\n') (noEscape : taken ≠ '\\')
    (unclosed : ¬(taken = '\x22' ∧ ∃ rest, behind = '\x22' :: '\x22' :: rest)) :
    longStep? folds (taken :: behind) =
      if folds && isSpace taken then some (.folding behind)
      else if isPlain taken then some (.taking taken behind)
      else none := by
  rw [longStep?]
  · exact fun _ same => absurd same noReturn
  · exact noFeed
  · exact fun rest quote same => unclosed ⟨quote, rest, same⟩
  · exact noEscape

theorem length_longStep?_lt {folds : Bool} {step : LongStep}
    (done : longStep? folds text = some step) : step.behind.length < text.length := by
  have newline (behind : List Char) : (LongStep.newline folds behind).behind = behind := by
    cases folds <;> rfl
  unfold longStep? at done
  split at done
  next => cases done
  next =>
    cases done
    rw [newline]
    exact Nat.lt_succ_of_lt (Nat.lt_succ_self _)
  next =>
    cases done
    rw [newline]
    exact Nat.lt_succ_self _
  next =>
    cases done
    exact Nat.lt_succ_of_lt (Nat.lt_succ_of_lt (Nat.lt_succ_self _))
  next =>
    split at done
    next escaped =>
      cases done
      exact Nat.lt_succ_of_lt (length_readEscape_lt escaped)
    next =>
      split at done <;> cases done
      exact Nat.lt_succ_self _
  next =>
    split at done
    next =>
      cases done
      exact Nat.lt_succ_self _
    next =>
      split at done <;> cases done
      exact Nat.lt_succ_self _

/-- A step within one text is a step within the other. -/
theorem SameLines.exists_longStep? (same : SameLines text other) {folds : Bool} {step : LongStep}
    (done : longStep? folds text = some step) :
    ∃ next, longStep? folds other = some next ∧ step.Same next := by
  have newline {first second : List Char} (lines : SameLines first second) :
      (LongStep.newline folds first).Same (.newline folds second) := by
    cases folds with
    | true => exact .folding lines
    | false => exact .taking '\n' lines
  cases same with
  | nil => cases done
  | ended => cases done
  | @stray text other lone =>
      cases text with
      | nil => cases folds <;> cases done
      | cons first text =>
          have apart : first ≠ '\n' := fun same => lone (by rw [same]; rfl)
          cases folds <;> simp [longStep?, apart, isSpace, isPlain] at done
  | feed lines =>
      cases done
      exact ⟨_, rfl, newline lines⟩
  | @keep character text other plain lines =>
      by_cases feed : character = '\n'
      · subst feed
        cases done
        exact ⟨_, rfl, newline lines⟩
      by_cases escape : character = '\\'
      · subst escape
        simp only [longStep?] at done ⊢
        cases escaped : readEscape text with
        | some taken =>
            rw [escaped] at done
            cases done
            rcases ignoresLineEnds_readEscape lines escaped with ⟨after, escapedToo, tail, -⟩
            rw [escapedToo]
            exact ⟨_, rfl, .taking _ tail⟩
        | none =>
            simp only [escaped] at done
            split at done
            next ends =>
              cases done
              have endsToo := lines.endsLine ends
              simp only [readEscape_of_endsLine endsToo, endsToo, if_true]
              exact ⟨_, rfl, .folding lines⟩
            next => cases done
      by_cases closed : character = '\x22' ∧ ∃ rest, text = '\x22' :: '\x22' :: rest
      · rcases closed with ⟨rfl, rest, rfl⟩
        rcases lines.exists_append ['\x22', '\x22'] rfl (by decide) with ⟨last, rfl, tail⟩
        cases done
        exact ⟨.closing last, rfl, .closing tail⟩
      · have closedToo := closed
        rw [lines.closed_iff (by decide) (by decide)] at closedToo
        rw [longStep?_plain folds plain feed escape closed] at done
        rw [longStep?_plain folds plain feed escape closedToo]
        split at done
        next folded =>
          cases done
          exact ⟨_, if_pos folded, .folding lines⟩
        next kept =>
          split at done
          next taking =>
            cases done
            exact ⟨_, by rw [if_neg kept, if_pos taking], .taking _ lines⟩
          next => cases done

/-- A string on several lines is the same with other line ends, by induction on the length as for a
string on one line. -/
theorem ignoresLineEnds_readLongBasic (folds : Bool) : IgnoresLineEnds (readLongBasic folds) := by
  intro text
  induction length : text.length using Nat.strongRecOn generalizing text folds with
  | ind size shorter =>
      subst length
      intro other value rest same done
      rw [readLongBasic_eq] at done
      rcases Option.bind_eq_some_iff.mp done with ⟨step, first, read⟩
      rcases same.exists_longStep? first with ⟨next, firstToo, alike⟩
      have fewer := length_longStep?_lt first
      have fewerToo := length_longStep?_lt firstToo
      rw [readLongBasic_eq, firstToo, Option.bind_some]
      cases alike with
      | @closing text other lines =>
          rcases lines.exists_lastQuotes (by decide) (by decide) (Option.some.inj read) with
            ⟨last, quotes, ending, short⟩
          exact ⟨last, congrArg some quotes, ending, Nat.le_trans short (Nat.le_of_lt fewerToo)⟩
      | taking taken lines =>
          exact exists_consed read (Nat.le_of_lt fewerToo)
            fun _ later => shorter _ fewer false rfl lines later
      | folding lines =>
          rcases shorter _ fewer true rfl lines read with ⟨last, laterToo, ending, short⟩
          exact ⟨last, laterToo, ending, Nat.le_trans short (Nat.le_of_lt fewerToo)⟩

theorem readLongLiteral_plain (noReturn : character ≠ '\r') (noFeed : character ≠ '\n')
    (unclosed : ¬(character = '\x27' ∧ ∃ rest, text = '\x27' :: '\x27' :: rest)) :
    readLongLiteral (character :: text) =
      if isPlain character then consed character (readLongLiteral text) else none := by
  rw [readLongLiteral]
  · exact fun _ same => absurd same noReturn
  · exact noFeed
  · exact fun rest quote same => unclosed ⟨quote, rest, same⟩

/-- A string on several lines without escapes is the same with other line ends. -/
theorem ignoresLineEnds_readLongLiteral : IgnoresLineEnds readLongLiteral := by
  intro text other value rest same done
  induction same generalizing value with
  | nil => cases done
  | ended => cases done
  | @stray text other lone =>
      cases text with
      | nil => cases done
      | cons first text =>
          have apart : first ≠ '\n' := fun same => lone (by rw [same]; rfl)
          simp [readLongLiteral, apart, isPlain] at done
  | @feed text other lines inductionHypothesis =>
      rw [readLongLiteral] at done
      rw [readLongLiteral]
      exact exists_consed done (Nat.le_succ _) fun _ read => inductionHypothesis read
  | @keep character text other plain lines inductionHypothesis =>
      by_cases feed : character = '\n'
      · subst feed
        rw [readLongLiteral] at done
        rw [readLongLiteral]
        exact exists_consed done (Nat.le_succ _) fun _ read => inductionHypothesis read
      by_cases closed : character = '\x27' ∧ ∃ rest, text = '\x27' :: '\x27' :: rest
      · rcases closed with ⟨rfl, after, rfl⟩
        rcases lines.exists_append ['\x27', '\x27'] rfl (by decide) with ⟨last, rfl, tail⟩
        rw [readLongLiteral] at done
        rcases tail.exists_lastQuotes (by decide) (by decide) (Option.some.inj done) with
          ⟨behind, quotes, ending, short⟩
        refine ⟨behind, ?_, ending, ?_⟩
        · simp only [List.cons_append, List.nil_append, readLongLiteral, quotes]
        · simp only [List.cons_append, List.nil_append, List.length_cons]
          omega
      · have closedToo := closed
        rw [lines.closed_iff (by decide) (by decide)] at closedToo
        rw [readLongLiteral_plain plain feed closed] at done
        split at done
        next taking =>
          rw [readLongLiteral_plain plain feed closedToo, if_pos taking]
          exact exists_consed done (Nat.le_succ _) fun _ read => inductionHypothesis read
        next => cases done

/-- A string on several lines starts alike behind its three quotes, where one line end is
passed. -/
theorem ignoresLineEnds_dropFirstNewline {read : Reader (List Char)}
    (ignores : IgnoresLineEnds read) (empty : read [] = none)
    (stray : ∀ text, text.head? ≠ some '\n' → read ('\r' :: text) = none) :
    IgnoresLineEnds fun text => read (dropFirstNewline text) := by
  intro text other value rest same done
  cases ended : dropNewline? text with
  | some behind =>
      simp only [dropFirstNewline, ended, Option.getD_some] at done
      rcases same.dropNewline? ended with ⟨next, endedToo, lines⟩
      rcases ignores lines done with ⟨last, read, ending, short⟩
      have fewer := length_dropNewline?_lt endedToo
      refine ⟨last, ?_, ending, by omega⟩
      simp only [dropFirstNewline, endedToo, Option.getD_some, read]
  | none =>
      simp only [dropFirstNewline, ended, Option.getD_none] at done
      have endedToo : dropNewline? other = none := by
        cases same with
        | nil => rfl
        | ended =>
            rw [empty] at done
            cases done
        | stray lone =>
            rw [stray _ lone] at done
            cases done
        | feed => cases ended
        | @keep character text other plain lines =>
            have feed : character ≠ '\n' := by
              rintro rfl
              cases ended
            simp [dropNewline?, plain, feed]
      simp only [dropFirstNewline, endedToo, Option.getD_none]
      exact ignores same done

end SeveralLines

/-! ## Strings of any form, and keys -/

section Keys

variable {Value Result : Type}

/-- A reader of several characters ahead ignores line ends if what follows does. -/
theorem IgnoresLineEnds.behind_front {read whole : Reader Value} (ignores : IgnoresLineEnds read)
    (front : List Char) {text behind other rest : List Char} {value : Value}
    (same : SameLines text other) (divided : text = front ++ behind)
    (noReturn : '\r' ∉ front)
    (opened : ∀ behindToo, SameLines behind behindToo → whole (front ++ behindToo) = read behindToo)
    (done : read behind = some (value, rest)) :
    ∃ last, whole other = some (value, last) ∧ SameLines rest last ∧
      last.length ≤ other.length := by
  rcases same.exists_append front divided noReturn with ⟨behindToo, rfl, tail⟩
  rcases ignores tail done with ⟨last, read, ending, short⟩
  refine ⟨last, (opened behindToo tail).trans read, ending, ?_⟩
  rw [List.length_append]
  exact Nat.le_add_left_of_le short

/-- Values may be changed once they have been read. -/
theorem IgnoresLineEnds.map {read : Reader Value} (ignores : IgnoresLineEnds read)
    (change : Value → Result) :
    IgnoresLineEnds fun text => (read text).map fun (value, rest) => (change value, rest) := by
  intro text other value rest same done
  rcases Option.map_eq_some_iff.mp done with ⟨⟨found, behind⟩, taken, changed⟩
  cases changed
  rcases ignores same taken with ⟨last, read, ending, short⟩
  exact ⟨last, by simp only [read, Option.map_some], ending, short⟩

theorem ignoresLineEnds_readString : IgnoresLineEnds readString := by
  have longBasic := ignoresLineEnds_dropFirstNewline (ignoresLineEnds_readLongBasic false) rfl
    fun _ lone => readLongBasic_stray false lone
  have longLiteral := ignoresLineEnds_dropFirstNewline ignoresLineEnds_readLongLiteral rfl
    fun text lone => by
      cases text with
      | nil => rfl
      | cons first text =>
          have apart : first ≠ '\n' := fun same => lone (by rw [same]; rfl)
          simp [readLongLiteral, apart, isPlain]
  have unclosed {quote : Char} {text behind : List Char} (plain : quote ≠ '\r')
      (noFeed : quote ≠ '\n') (lines : SameLines text behind)
      (open_ : ∀ rest, text = quote :: quote :: rest → False) :
      ∀ rest, behind = quote :: quote :: rest → False := fun rest same => by
    rcases (lines.closed_iff plain noFeed).mpr ⟨rest, same⟩ with ⟨before, same⟩
    exact open_ before same
  intro text other value rest same done
  unfold readString at done
  split at done
  next text =>
    exact longBasic.behind_front ['\x22', '\x22', '\x22'] same rfl (by decide)
      (fun _ _ => by rfl) done
  next text open_ =>
    refine ignoresLineEnds_readBasic.behind_front ['\x22'] same rfl (by decide)
      (fun behind lines => ?_) done
    rw [List.singleton_append, readString]
    exact unclosed (by decide) (by decide) lines open_
  next text =>
    exact longLiteral.behind_front ['\x27', '\x27', '\x27'] same rfl (by decide)
      (fun _ _ => by rfl) done
  next text open_ =>
    refine ignoresLineEnds_readLiteral.behind_front ['\x27'] same rfl (by decide)
      (fun behind lines => ?_) done
    rw [List.singleton_append, readString]
    exact unclosed (by decide) (by decide) lines open_
  next => cases done

theorem ignoresLineEnds_readKeyPart : IgnoresLineEnds readKeyPart := by
  intro text other value rest same done
  unfold readKeyPart at done
  dsimp only at done
  split at done
  next text =>
    exact (ignoresLineEnds_readBasic.map String.ofList).behind_front ['\x22'] same rfl
      (by decide) (fun _ _ => by rfl) done
  next text =>
    exact (ignoresLineEnds_readLiteral.map String.ofList).behind_front ['\x27'] same rfl
      (by decide) (fun _ _ => by rfl) done
  next noDouble noSingle =>
    split at done
    next => cases done
    next named =>
      cases done
      have noFeed : isBareKey '\n' = false := by decide
      rcases same.dropWhile noFeed (by decide) with ⟨name, lines⟩
      refine ⟨_, ?_, lines, (List.dropWhile_sublist _).length_le⟩
      rw [name] at named ⊢
      unfold readKeyPart
      dsimp only
      split
      next => simp [isBareKey] at named
      next => simp [isBareKey] at named
      next => rw [if_neg named]

theorem ignoresLineEnds_readKeyParts (parts : Nat) : IgnoresLineEnds (readKeyParts parts) := by
  induction parts with
  | zero => exact fun _ _ _ _ _ done => by cases done
  | succ parts inductionHypothesis =>
      intro text other value rest same done
      rw [readKeyParts] at done ⊢
      rcases Option.bind_eq_some_iff.mp done with ⟨⟨part, after⟩, first, done⟩
      rcases ignoresLineEnds_readKeyPart same.dropSpace first with
        ⟨next, firstToo, lines, short⟩
      have space := length_dropSpace_le other
      have spaceToo := length_dropSpace_le next
      have blanks := lines.dropSpace
      simp only [firstToo, Option.bind_eq_bind, Option.bind_some] at done ⊢
      split at done
      next behind dot =>
        rw [dot] at blanks
        rcases blanks.exists_behind (by decide) with ⟨behindToo, dotToo, tail⟩
        rcases Option.bind_eq_some_iff.mp done with ⟨⟨⟨path, key⟩, last⟩, later, made⟩
        cases made
        rcases inductionHypothesis tail later with ⟨ending, laterToo, lastLines, fewer⟩
        rw [dotToo, List.length_cons] at spaceToo
        refine ⟨ending, ?_, lastLines, by omega⟩
        simp only [dotToo, laterToo, Option.bind_some]
        rfl
      next noDot =>
        cases done
        refine ⟨Toml.dropSpace next, ?_, blanks, by omega⟩
        split
        next behind dot =>
          rw [dot] at blanks
          rcases blanks.exists_ahead (by decide) (by decide) with ⟨before, dotted⟩
          exact absurd dotted (noDot before)
        next => rfl

theorem ignoresLineEnds_readKey : IgnoresLineEnds readKey :=
  ignoresLineEnds_readKeyParts keyLimit

end Keys

end LogLayout.Toml