import LogLayout.Time.DatePattern
import Mathlib.Data.List.TakeWhile

namespace LogLayout.Time.DatePattern

/-!
# Which date patterns can be read

Whether a pattern can be read is seen from its quotes and from the letters outside of them alone.
`scan` looks through a text for these, and knows nothing of fields and literal text.  A pattern is
read if it does not end between quotes and all its letters stand for something; otherwise the error
is about the first letter that does not, or else about the quote that is not closed.
-/

/-- The ASCII letters of a text that stand outside of quotes, and whether the text ends between
quotes.  A doubled quote stays on its side, and any other quote goes over to the other one. -/
def scan (quoted : Bool) : List Char → List Char × Bool
  | [] => ([], quoted)
  | '\x27' :: '\x27' :: rest => scan quoted rest
  | '\x27' :: rest => scan (!quoted) rest
  | character :: rest =>
      let (letters, unclosed) := scan quoted rest
      (if !quoted && character.isAlpha then character :: letters else letters, unclosed)

/-- The letters that stand for a part of a date. -/
def knownLetters : List Char :=
  ['y', 'u', 'M', 'd', 'D', 'H', 'h', 'm', 's', 'S', 'a', 'E', 'Z', 'X', 'x', 'z']

/-- All quotes are closed, and all letters outside of them are known. -/
structure Accepted (scanned : List Char × Bool) : Prop where
  closed : scanned.2 = false
  known : ∀ letter ∈ scanned.1, letter ∈ knownLetters

/-- The leftmost problem of a text: a letter that is not known, if all those in front of it are, or
the quote that is not closed.  No letter stands behind that. -/
inductive Leftmost (pattern : String) : List Char × Bool → DateFlaw → Prop where
  | letter {before behind : List Char} {letter : Char} {unclosed : Bool}
    (known : ∀ earlier ∈ before, earlier ∈ knownLetters) (unknown : letter ∉ knownLetters) :
    Leftmost pattern (before ++ letter :: behind, unclosed) (.unknownLetter letter)
  | quote {letters : List Char} (known : ∀ letter ∈ letters, letter ∈ knownLetters) :
    Leftmost pattern (letters, true) (.unterminatedQuote pattern)

namespace Leftmost

variable {pattern : String} {scanned : List Char × Bool} {flaw : DateFlaw}

theorem not_accepted (leftmost : Leftmost pattern scanned flaw) : ¬ Accepted scanned := by
  rintro ⟨closed, known⟩
  cases leftmost with
  | letter _ unknown => exact unknown (known _ (List.mem_append_right _ List.mem_cons_self))
  | quote _ => cases closed

/-- The first letter that is not known tells the problem, and so does it if there is none. -/
theorem eq_elim (leftmost : Leftmost pattern scanned flaw) :
    flaw = (scanned.1.find? (· ∉ knownLetters)).elim (.unterminatedQuote pattern)
      .unknownLetter := by
  cases leftmost with
  | @letter before behind letter unclosed known unknown =>
      have found : (before ++ letter :: behind).find? (· ∉ knownLetters) = some letter :=
        List.find?_eq_some_iff_append.mpr ⟨decide_eq_true unknown, before, behind, rfl,
          fun earlier member => by simpa using known earlier member⟩
      rw [found]
      rfl
  | @quote letters known =>
      have none : letters.find? (· ∉ knownLetters) = none :=
        List.find?_eq_none.mpr fun letter member => by simpa using known letter member
      rw [none]
      rfl

theorem unique {other : DateFlaw} (leftmost : Leftmost pattern scanned flaw)
    (otherLeftmost : Leftmost pattern scanned other) : flaw = other :=
  leftmost.eq_elim.trans otherLeftmost.eq_elim.symm

/-- Known letters in front of a problem leave it the leftmost one. -/
theorem of_known {letters front : List Char} {unclosed : Bool}
    (known : ∀ letter ∈ front, letter ∈ knownLetters)
    (leftmost : Leftmost pattern (letters, unclosed) flaw) :
    Leftmost pattern (front ++ letters, unclosed) flaw := by
  cases leftmost with
  | letter earlier unknown =>
      rw [← List.append_assoc]
      exact .letter (List.forall_mem_append.mpr ⟨known, earlier⟩) unknown
  | quote later => exact .quote (List.forall_mem_append.mpr ⟨known, later⟩)

end Leftmost

/-! ## Reading and looking through -/

theorem scan_cons {character : Char} (other : character ≠ '\x27') (quoted : Bool)
    (rest : List Char) :
    scan quoted (character :: rest) =
      (if !quoted && character.isAlpha then character :: (scan quoted rest).1
        else (scan quoted rest).1, (scan quoted rest).2) :=
  scan.eq_4 quoted character rest (fun _ same => absurd same other) other

/-- Quoted text that is not closed has no letters outside of quotes. -/
theorem scan_of_readQuoted_eq_none {text : List Char} (read : readQuoted text = none) :
    scan true text = ([], true) := by
  fun_induction readQuoted text with
  | case1 => rfl
  | case2 rest inductionHypothesis =>
      exact inductionHypothesis (Option.map_eq_none_iff.mp read)
  | case3 rest => cases read
  | case4 character rest noDouble noQuote inductionHypothesis =>
      rw [scan_cons noQuote, inductionHypothesis (Option.map_eq_none_iff.mp read)]
      rfl

/-- Behind quoted text it goes on outside of quotes. -/
theorem scan_of_readQuoted_eq_some {text quoted behind : List Char}
    (read : readQuoted text = some (quoted, behind)) : scan true text = scan false behind := by
  fun_induction readQuoted text generalizing quoted with
  | case1 => cases read
  | case2 rest inductionHypothesis =>
      rcases Option.map_eq_some_iff.mp read with ⟨⟨others, after⟩, found, same⟩
      cases same
      exact inductionHypothesis found
  | case3 rest alone =>
      cases read
      exact scan.eq_3 true _ alone
  | case4 character rest noDouble noQuote inductionHypothesis =>
      rcases Option.map_eq_some_iff.mp read with ⟨⟨others, after⟩, found, same⟩
      cases same
      rw [scan_cons noQuote, inductionHypothesis found]
      rfl

/-- A run of a letter is looked through letter by letter. -/
theorem scan_run {letter : Char} (alphabetic : letter.isAlpha = true) (text : List Char) :
    scan false text =
      (text.takeWhile (· == letter) ++ (scan false (text.dropWhile (· == letter))).1,
        (scan false (text.dropWhile (· == letter))).2) := by
  have noQuote : letter ≠ '\x27' := by
    rintro rfl
    cases alphabetic
  induction text with
  | nil => rfl
  | cons character rest inductionHypothesis =>
      by_cases same : character = letter
      · subst same
        have here : (character == character) = true := beq_self_eq_true character
        rw [scan_cons noQuote, inductionHypothesis, List.takeWhile_cons, List.dropWhile_cons, here,
          alphabetic]
        rfl
      · have apart : (character == letter) = false := beq_false_of_ne same
        rw [List.takeWhile_cons, List.dropWhile_cons, apart]
        rfl

theorem ofChar?_eq_none_iff (character : Char) :
    Letter.ofChar? character = none ↔ character ∉ knownLetters := by
  have letters : Letter.all.map Letter.toChar = knownLetters := rfl
  rw [Letter.ofChar?, List.find?_eq_none, ← letters, List.mem_map]
  simp only [decide_eq_true_eq, not_exists, not_and]

/-- Reading succeeds if a text is looked through without a problem, and else its error is about the
leftmost one. -/
theorem readParts_cases (pattern : String) (literal text : List Char) :
    (∀ parts, readParts pattern literal text = .ok parts → Accepted (scan false text)) ∧
      ∀ flaw, readParts pattern literal text = .error flaw →
        Leftmost pattern (scan false text) flaw := by
  fun_induction readParts pattern literal text with
  | case1 literal =>
      exact ⟨fun _ _ => ⟨rfl, fun _ member => absurd member List.not_mem_nil⟩,
        fun _ failed => (nomatch failed)⟩
  | case2 literal rest inductionHypothesis => exact inductionHypothesis
  | case3 literal rest alone unread =>
      refine ⟨fun _ done => (nomatch done), fun flaw failed => ?_⟩
      cases failed
      rw [scan.eq_3 false rest alone, Bool.not_false, scan_of_readQuoted_eq_none unread]
      exact .quote fun _ member => absurd member List.not_mem_nil
  | case4 literal rest alone quoted behind read shorter inductionHypothesis =>
      rw [scan.eq_3 false rest alone, Bool.not_false, scan_of_readQuoted_eq_some read]
      exact inductionHypothesis
  | case5 literal character rest noDouble noQuote alphabetic unknown =>
      have ascii : character.isAlpha = true := alphabetic
      refine ⟨fun _ done => (nomatch done), fun flaw failed => ?_⟩
      cases failed
      rw [scan_cons noQuote, ascii]
      have unlisted := (ofChar?_eq_none_iff character).mp unknown
      exact .letter (fun _ member => absurd member List.not_mem_nil) unlisted
  | case6 literal character rest noDouble noQuote alphabetic letter known shorter
        inductionHypothesis =>
      have ascii : character.isAlpha = true := alphabetic
      have listed : character ∈ knownLetters := by
        by_contra unlisted
        cases known.symm.trans ((ofChar?_eq_none_iff character).mpr unlisted)
      have run : ∀ other ∈ character :: rest.takeWhile (· == character), other ∈ knownLetters := by
        refine List.forall_mem_cons.mpr ⟨listed, fun other member => ?_⟩
        have same := List.mem_takeWhile_imp member
        rw [beq_iff_eq] at same
        rwa [same]
      have scanned : scan false (character :: rest) =
          ((character :: rest.takeWhile (· == character)) ++
            (scan false (rest.dropWhile (· == character))).1,
            (scan false (rest.dropWhile (· == character))).2) := by
        rw [scan_cons noQuote, ascii, scan_run ascii rest]
        rfl
      rw [scanned]
      cases outcome : readParts pattern [] (rest.dropWhile (· == character)) with
      | ok others =>
          rcases inductionHypothesis.1 others outcome with ⟨closed, later⟩
          exact ⟨fun _ _ => ⟨closed, List.forall_mem_append.mpr ⟨run, later⟩⟩,
            fun flaw failed => (nomatch failed)⟩
      | error found =>
          refine ⟨fun parts done => (nomatch done), fun flaw failed => ?_⟩
          cases failed
          exact (inductionHypothesis.2 found outcome).of_known run
  | case7 literal character rest noDouble noQuote other inductionHypothesis =>
      have symbol : character.isAlpha = false := Bool.eq_false_iff.mpr other
      rw [scan_cons noQuote, symbol]
      exact inductionHypothesis

/-- A pattern can be read exactly if its quotes are closed and its letters known. -/
theorem exists_parse_iff (pattern : String) :
    (∃ dates, parse pattern = .ok dates) ↔ Accepted (scan false pattern.toList) := by
  rcases readParts_cases pattern [] pattern.toList with ⟨accepted, flawed⟩
  unfold parse
  cases outcome : readParts pattern [] pattern.toList with
  | ok parts => exact iff_of_true ⟨_, rfl⟩ (accepted parts outcome)
  | error flaw =>
      refine iff_of_false ?_ (flawed flaw outcome).not_accepted
      rintro ⟨dates, done⟩
      cases done

/-- Where a pattern cannot be read the error is about its leftmost problem. -/
theorem parse_eq_error_iff (pattern : String) (flaw : DateFlaw) :
    parse pattern = .error flaw ↔ Leftmost pattern (scan false pattern.toList) flaw := by
  rcases readParts_cases pattern [] pattern.toList with ⟨accepted, flawed⟩
  unfold parse
  cases outcome : readParts pattern [] pattern.toList with
  | ok parts =>
      exact iff_of_false (fun failed => (nomatch failed))
        fun leftmost => leftmost.not_accepted (accepted parts outcome)
  | error found =>
      have leftmost := flawed found outcome
      refine ⟨fun same => ?_, fun other => congrArg Except.error (leftmost.unique other)⟩
      cases same
      exact leftmost

end LogLayout.Time.DatePattern
