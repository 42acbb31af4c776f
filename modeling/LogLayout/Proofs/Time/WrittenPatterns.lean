import LogLayout.Proofs.Text.Runs
import LogLayout.Time.DatePattern
import Mathlib.Data.List.Chain
import Mathlib.Data.List.Forall2
import Mathlib.Data.List.TakeWhile

namespace LogLayout.Time

/-!
# Date patterns and how they are written

A date pattern can be written from its parts: a field as its letter, as often as it stands there,
and literal text between quotes, with its own quotes doubled.  Text of nothing but quotes needs no
quotes around it.

Reading gives the parts back if it can tell where each of them ends.  Two literal texts in a row
would be read as one, and so would two fields of the same letter.
-/

/-! ## Writing -/

def doubled (text : List Char) : List Char :=
  text.flatMap fun character => if character = '\x27' then ['\x27', '\x27'] else [character]

theorem doubled_quote (text : List Char) :
    doubled ('\x27' :: text) = '\x27' :: '\x27' :: doubled text := rfl

theorem doubled_cons {character : Char} (other : character ≠ '\x27') (text : List Char) :
    doubled (character :: text) = character :: doubled text := by
  rw [doubled, List.flatMap_cons, if_neg other]
  rfl

def writtenLiteral (text : List Char) : List Char :=
  if text.all (· == '\x27') then doubled text else '\x27' :: (doubled text ++ ['\x27'])

namespace DatePart

def written : DatePart → List Char
  | literal text => writtenLiteral text.toList
  | field letter count => List.replicate count letter.toChar

/-- A part of which something is written. -/
def Filled : DatePart → Prop
  | literal text => text ≠ ""
  | field _ count => 0 < count

/-- Two parts that can be told apart where they stand side by side. -/
def Apart : DatePart → DatePart → Prop
  | literal _, literal _ => False
  | field letter _, field other _ => letter ≠ other
  | _, _ => True

instance : DecidablePred Filled
  | literal text => inferInstanceAs (Decidable (text ≠ ""))
  | field _ count => inferInstanceAs (Decidable (0 < count))

instance : DecidableRel Apart
  | literal _, literal _ => isFalse False.elim
  | field letter _, field other _ => inferInstanceAs (Decidable (letter ≠ other))
  | literal _, field _ _ => isTrue trivial
  | field _ _, literal _ => isTrue trivial

/-- What a part shows: literal text itself, and a field what its letters show when nothing else
stands in the pattern. -/
inductive Shows (time : LocalTime) : DatePart → String → Prop where
  | literal (text : String) : Shows time (literal text) text
  | field {letter : Letter} {count : Nat} {alone : DatePattern}
    (read : DatePattern.parse (String.ofList (List.replicate count letter.toChar)) = .ok alone) :
    Shows time (field letter count) (alone.format time)

/-- The character that a written part begins with. -/
def opening : DatePart → Char
  | literal _ => '\x27'
  | field letter _ => letter.toChar

theorem exists_written_eq_cons {part : DatePart} (filled : part.Filled) :
    ∃ rest, part.written = part.opening :: rest := by
  cases part with
  | literal text =>
      simp only [written, writtenLiteral, opening]
      split
      next quotes =>
        cases same : text.toList with
        | nil => exact absurd (String.toList_eq_nil_iff.mp same) filled
        | cons first rest =>
            rw [same, List.all_cons, Bool.and_eq_true, beq_iff_eq] at quotes
            rw [quotes.1, doubled_quote]
            exact ⟨_, rfl⟩
      next => exact ⟨_, rfl⟩
  | field letter count =>
      cases count with
      | zero => exact absurd filled (Nat.lt_irrefl 0)
      | succ count => exact ⟨List.replicate count letter.toChar, List.replicate_succ⟩

end DatePart

theorem Letter.toChar_injective {letter other : Letter} (same : letter.toChar = other.toChar) :
    letter = other := by
  have read := congrArg ofChar? same
  rwa [ofChar?_toChar, ofChar?_toChar, Option.some_inj] at read

theorem Letter.toChar_ne_quote (letter : Letter) : letter.toChar ≠ '\x27' := by
  cases letter <;> decide

theorem Letter.isPatternLetter_toChar (letter : Letter) :
    DatePattern.isPatternLetter letter.toChar = true := by
  cases letter <;> decide

namespace DatePattern

/-! ## Reading what is written -/

section Reading

variable (pattern : String)

theorem readQuoted_doubled (text : List Char) {behind : List Char}
    (ended : behind.head? ≠ some '\x27') :
    readQuoted (doubled text ++ '\x27' :: behind) = some (text, behind) := by
  induction text with
  | nil =>
      refine readQuoted.eq_3 behind fun rest same => ended ?_
      rw [same]
      rfl
  | cons character rest inductionHypothesis =>
      by_cases quote : character = '\x27'
      · subst quote
        rw [doubled_quote, List.cons_append, List.cons_append, readQuoted, inductionHypothesis]
        rfl
      · rw [doubled_cons quote, List.cons_append,
          readQuoted.eq_4 _ _ (fun _ same => absurd same quote) quote, inductionHypothesis]
        rfl

theorem readParts_doubled {text : List Char} (quotes : ∀ character ∈ text, character = '\x27')
    (before behind : List Char) :
    readParts pattern before (doubled text ++ behind) =
      readParts pattern (before ++ text) behind := by
  induction text generalizing before with
  | nil => rw [List.append_nil]; rfl
  | cons character rest inductionHypothesis =>
      rcases List.forall_mem_cons.mp quotes with ⟨rfl, later⟩
      rw [doubled_quote, List.cons_append, List.cons_append, readParts, inductionHypothesis later,
        List.append_assoc]
      rfl

theorem readParts_opened {rest quoted behind : List Char} (before : List Char)
    (lone : rest.head? ≠ some '\x27') (read : readQuoted rest = some (quoted, behind)) :
    readParts pattern before ('\x27' :: rest) = readParts pattern (before ++ quoted) behind := by
  rw [readParts.eq_3]
  · split
    next missing => cases missing.symm.trans read
    next found => cases found.symm.trans read; rfl
  · rintro others rfl
    exact lone rfl

/-- Quoted text is read up to its closing quote.  Quotes at its beginning stand right behind the
opening one, so that they are read as doubled ones before the rest is read as quoted. -/
theorem readParts_quoted {text : List Char} (other : ∃ character ∈ text, character ≠ '\x27')
    (before : List Char) {behind : List Char} (ended : behind.head? ≠ some '\x27') :
    readParts pattern before ('\x27' :: (doubled text ++ '\x27' :: behind)) =
      readParts pattern (before ++ text) behind := by
  induction text generalizing before with
  | nil =>
      rcases other with ⟨_, member, _⟩
      exact absurd member List.not_mem_nil
  | cons character rest inductionHypothesis =>
      by_cases quote : character = '\x27'
      · subst quote
        have later : ∃ character ∈ rest, character ≠ '\x27' := by
          rcases other with ⟨character, member, different⟩
          rcases List.mem_cons.mp member with same | inside
          · exact absurd same different
          · exact ⟨character, inside, different⟩
        rw [doubled_quote, List.cons_append, List.cons_append, readParts,
          inductionHypothesis later, List.append_assoc]
        rfl
      · refine readParts_opened pattern before (fun first => ?_)
          (readQuoted_doubled (character :: rest) ended)
        rw [doubled_cons quote] at first
        exact quote (Option.some_inj.mp first)

theorem readParts_literal (text before : List Char) {behind : List Char}
    (ended : behind.head? ≠ some '\x27') :
    readParts pattern before (writtenLiteral text ++ behind) =
      readParts pattern (before ++ text) behind := by
  unfold writtenLiteral
  split
  next quotes =>
    exact readParts_doubled pattern
      (fun _ member => eq_of_beq (List.all_eq_true.mp quotes _ member)) before behind
  next mixed =>
    have other : ∃ character ∈ text, character ≠ '\x27' := by
      simpa using mixed
    rw [List.cons_append, List.append_assoc]
    exact readParts_quoted pattern other before ended

theorem readParts_field (letter : Letter) (count : Nat) (before : List Char) {behind : List Char}
    (ended : behind.head? ≠ some letter.toChar) :
    readParts pattern before (List.replicate (count + 1) letter.toChar ++ behind) =
      (readParts pattern [] behind).map fun parts =>
        prependLiteral before (.field letter (count + 1) :: parts) := by
  have boundary : ∀ character ∈ behind.head?, (character == letter.toChar) = false :=
    fun character first => beq_false_of_ne fun same => ended (same ▸ first)
  have same : ∀ character ∈ List.replicate count letter.toChar,
      (character == letter.toChar) = true :=
    fun character member => beq_iff_eq.mpr (List.eq_of_mem_replicate member)
  rw [List.replicate_succ, List.cons_append, readParts.eq_4 _ _ _ _
    (fun _ quote => absurd quote letter.toChar_ne_quote) letter.toChar_ne_quote,
    if_pos letter.isPatternLetter_toChar]
  split
  next unknown => cases unknown.symm.trans letter.ofChar?_toChar
  next found known =>
    cases known.symm.trans letter.ofChar?_toChar
    simp only [Text.takeWhile_append same boundary, Text.dropWhile_append same boundary,
      List.length_replicate]

/-! ## Reading the parts back -/

/-- What follows a part begins with another character than may stand in the part's place. -/
theorem head?_written_ne {part : DatePart} {others : List DatePart}
    (filled : ∀ other ∈ others, other.Filled) (apart : (part :: others).IsChain DatePart.Apart) :
    (others.flatMap DatePart.written).head? ≠ some part.opening := by
  cases others with
  | nil => exact fun first => by cases first
  | cons next rest =>
      rcases DatePart.exists_written_eq_cons (filled next List.mem_cons_self) with ⟨behind, written⟩
      rw [List.flatMap_cons, written]
      intro first
      have same : next.opening = part.opening := Option.some_inj.mp first
      have between : part.Apart next := apart.rel_head? rfl
      cases part with
      | literal text =>
          cases next with
          | literal other => exact between
          | field letter count => exact letter.toChar_ne_quote same
      | field letter count =>
          cases next with
          | literal other => exact letter.toChar_ne_quote same.symm
          | field other size => exact between (Letter.toChar_injective same).symm

theorem readParts_written {parts : List DatePart} (filled : ∀ part ∈ parts, part.Filled)
    (apart : parts.IsChain DatePart.Apart) (before : List Char)
    (fresh : before ≠ [] → ∀ text, parts.head? ≠ some (.literal text)) :
    readParts pattern before (parts.flatMap DatePart.written) =
      .ok (prependLiteral before parts) := by
  induction parts generalizing before with
  | nil => rw [List.flatMap_nil, readParts]
  | cons part others inductionHypothesis =>
      rcases List.forall_mem_cons.mp filled with ⟨here, later⟩
      have ended := head?_written_ne later apart
      rw [List.flatMap_cons]
      cases part with
      | field letter count =>
          cases count with
          | zero => exact absurd here (Nat.lt_irrefl 0)
          | succ count =>
              have behind := inductionHypothesis later apart.of_cons [] fun used => absurd rfl used
              rw [DatePart.written, readParts_field pattern letter count before ended, behind]
              rfl
      | literal text =>
          have unused : before = [] := by
            by_contra used
            exact fresh used text rfl
          have behind := inductionHypothesis later apart.of_cons text.toList
            fun _ other first => apart.rel_head? first
          have shown : text.toList.isEmpty = false :=
            List.isEmpty_eq_false_iff.mpr fun same => here (String.toList_eq_nil_iff.mp same)
          subst unused
          rw [DatePart.written, readParts_literal pattern text.toList [] ended, List.nil_append,
            behind, prependLiteral, if_neg (by rw [shown]; exact Bool.false_ne_true),
            String.ofList_toList]
          rfl

end Reading

theorem parse_of_apart {parts : List DatePart} (filled : ∀ part ∈ parts, part.Filled)
    (apart : parts.IsChain DatePart.Apart) :
    parse (String.ofList (parts.flatMap DatePart.written)) = .ok ⟨parts⟩ := by
  rw [parse, String.toList_ofList, readParts_written _ filled apart [] fun used => absurd rfl used]
  rfl

/-- A part shows the same whether it stands alone or not. -/
theorem shows_render {part : DatePart} (filled : part.Filled) (time : LocalTime) :
    part.Shows time (part.render time) := by
  cases part with
  | literal text => exact .literal text
  | field letter count =>
      have alone :
          format ⟨[.field letter count]⟩ time = DatePart.render time (.field letter count) :=
        String.empty_append
      have read := parse_of_apart (List.forall_mem_singleton.mpr filled) (.singleton _)
      rw [List.flatMap_singleton] at read
      rw [← alone]
      exact .field read

/-- Parts of which something is written, and of which no two neighbours run together, are read back
from how they are written.  Then the pattern shows, one behind the other, every literal text as it
is and of every field what its letters show when they are read alone. -/
theorem parse_written {parts : List DatePart} (filled : ∀ part ∈ parts, part.Filled)
    (apart : parts.IsChain DatePart.Apart) :
    parse (String.ofList (parts.flatMap DatePart.written)) = .ok ⟨parts⟩ ∧
      ∀ time, ∃ texts, List.Forall₂ (DatePart.Shows time) parts texts ∧
        format ⟨parts⟩ time = String.join texts := by
  refine ⟨parse_of_apart filled apart, fun time => ⟨parts.map (DatePart.render time), ?_, rfl⟩⟩
  rw [List.forall₂_map_right_iff, List.forall₂_same]
  exact fun part member => shows_render (filled part member) time

/-- Literal texts that begin and end with quotes, consist of one, and hold letters and signs. -/
def quotedParts : List DatePart :=
  [.literal "\x27", .field .year 4, .literal "\x27at\x27 %d", .field .hour 1, .field .minute 2,
    .literal "o\x27"]

theorem parse_written_quotedParts :
    (∀ part ∈ quotedParts, part.Filled) ∧ quotedParts.IsChain DatePart.Apart ∧
      String.ofList (quotedParts.flatMap DatePart.written) =
        "''yyyy'''at'' %d'Hmm'o'''" ∧
      parse "''yyyy'''at'' %d'Hmm'o'''" = .ok ⟨quotedParts⟩ ∧
      ∀ time, ∃ texts, List.Forall₂ (DatePart.Shows time) quotedParts texts ∧
        format ⟨quotedParts⟩ time = String.join texts := by
  have filled : ∀ part ∈ quotedParts, part.Filled := by decide
  have apart : quotedParts.IsChain DatePart.Apart := by decide
  have text : String.ofList (quotedParts.flatMap DatePart.written) =
      "''yyyy'''at'' %d'Hmm'o'''" := by decide
  have read := parse_written filled apart
  rw [text] at read
  exact ⟨filled, apart, text, read⟩

end DatePattern
end LogLayout.Time
