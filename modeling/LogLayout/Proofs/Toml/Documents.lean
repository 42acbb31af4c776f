import LogLayout.Proofs.Toml.Numbers
import LogLayout.Proofs.Toml.Strings
import LogLayout.Toml.Document

namespace LogLayout.Toml

/-!
# Documents with other line ends

Values nest, and lines follow each other, within numbers of turns that are taken from the text.
The text with other line ends may be shorter, but it never runs out of turns: each turn takes at
least one character of it.
-/

/-! ## Values that enclose no others -/

section Scalars

/-- What a reader takes begins with a character that starts neither a comment nor a line end of
two characters. -/
def Begins {Value : Type} (read : Reader Value) : Prop :=
  ∀ ⦃text value rest⦄, read text = some (value, rest) →
    ∃ character behind, text = character :: behind ∧ character ≠ '\r' ∧ character ≠ '#'

theorem readFixed_eq_none {character : Char} (noDigit : character.isDigit = false)
    (count least greatest : Nat) (text : List Char) :
    readFixed (count + 1) least greatest (character :: text) = none := by
  rw [readFixed]
  simp [noDigit]

theorem readDate_eq_none {character : Char} (noDigit : character.isDigit = false)
    (text : List Char) : readDate (character :: text) = none := by
  have day : skipDay (character :: text) = none := by
    rw [skipDay, readFixed_eq_none noDigit]
    rfl
  have clock : skipClock (character :: text) = none := by
    rw [skipClock, readFixed_eq_none noDigit]
    rfl
  rw [readDate, day]
  simp only [clock]
  rfl

theorem begins_readScalar : Begins readScalar := by
  intro text value rest done
  cases text with
  | nil => cases done
  | cons character text =>
      refine ⟨character, text, rfl, ?_, ?_⟩
      · rintro rfl
        have noDigit : Char.isDigit '\r' = false := by decide
        simp only [readScalar, readDate_eq_none noDigit] at done
        cases done
      · rintro rfl
        have noDigit : Char.isDigit '#' = false := by decide
        simp only [readScalar, readDate_eq_none noDigit] at done
        cases done

theorem ignoresLineEnds_readScalar : IgnoresLineEnds readScalar := by
  have string := ignoresLineEnds_readString.map fun read => Value.string (String.ofList read)
  intro text other value rest same done
  unfold readScalar at done
  split at done
  next text =>
    rcases same.exists_append ['t', 'r', 'u', 'e'] rfl (by decide) with ⟨behind, rfl, tail⟩
    cases done
    exact ⟨behind, rfl, tail, (List.sublist_append_right _ _).length_le⟩
  next text =>
    rcases same.exists_append ['f', 'a', 'l', 's', 'e'] rfl (by decide) with ⟨behind, rfl, tail⟩
    cases done
    exact ⟨behind, rfl, tail, (List.sublist_append_right _ _).length_le⟩
  next text =>
    rcases same.exists_behind (by decide) with ⟨behind, rfl, tail⟩
    exact string same done
  next text =>
    rcases same.exists_behind (by decide) with ⟨behind, rfl, tail⟩
    exact string same done
  next noTrue noFalse noDouble noSingle =>
    rcases same.exists_aligned with ⟨left, right, bound, lines, aligned, -⟩
    rcases ignoresLineEnds_readDate_orElse same done with ⟨behind, read, ending⟩
    refine ⟨behind, ?_, ending⟩
    rw [readScalar]
    · exact read
    · exact aligned.missing ['t', 'r', 'u', 'e'] (by decide) (by decide) noTrue
    · exact aligned.missing ['f', 'a', 'l', 's', 'e'] (by decide) (by decide) noFalse
    · exact aligned.missing ['\x22'] (by decide) (by decide) noDouble
    · exact aligned.missing ['\x27'] (by decide) (by decide) noSingle

end Scalars

/-! ## Arrays and inline tables -/

section Nesting

variable {text other rest : List Char}

theorem SameLines.readMark (same : SameLines text other) {mark : Char} (plain : mark ≠ '\r')
    (done : Toml.readMark mark text = some rest) :
    ∃ behind, Toml.readMark mark other = some behind ∧ SameLines rest behind ∧
      behind.length < other.length := by
  cases text with
  | nil => cases done
  | cons character text =>
      rw [Toml.readMark] at done
      split at done
      next marked =>
        cases done
        subst marked
        rcases same.exists_behind plain with ⟨behind, rfl, tail⟩
        exact ⟨behind, if_pos rfl, tail, Nat.lt_succ_self _⟩
      next => cases done

theorem readItems_item {item : Reader Value} {turns : Nat} {character : Char} {front : List Char}
    (reached : dropLines text.length text = character :: front) (unclosed : character ≠ ']') :
    readItems item (turns + 1) text = (do
      let (value, rest) ← item (character :: front)
      match dropLines rest.length rest with
      | ',' :: rest => do
          let (values, rest) ← readItems item turns rest
          pure (value :: values, rest)
      | ']' :: rest => pure ([value], rest)
      | _ => none) := by
  simp only [readItems, reached]
  split
  next same => exact absurd (List.cons.inj same).1 unclosed
  next => rfl

/-- An array ends behind its bracket, or an item is read in front of something else. -/
theorem exists_of_readItems {item : Reader Value} {turns : Nat} {items : List Value}
    (begins : Begins item) (done : readItems item (turns + 1) text = some (items, rest)) :
    (dropLines text.length text = ']' :: rest ∧ items = []) ∨
      ∃ character front value after, dropLines text.length text = character :: front ∧
        character ≠ '\r' ∧ character ≠ '#' ∧ character ≠ ']' ∧
        item (character :: front) = some (value, after) := by
  simp only [readItems] at done
  split at done
  next after reached =>
    cases done
    exact .inl ⟨reached, rfl⟩
  next unclosed =>
    rcases Option.bind_eq_some_iff.mp done with ⟨⟨value, after⟩, read, -⟩
    rcases begins read with ⟨character, front, reached, plain, noComment⟩
    rw [reached] at read
    refine .inr ⟨character, front, value, after, reached, plain, noComment, ?_, read⟩
    rintro rfl
    exact unclosed front reached

/-- Items are read in as many turns as there are commas. -/
theorem SameLines.readItems {item : Reader Value} (ignores : IgnoresLineEnds item)
    (begins : Begins item) {turns more : Nat} {items : List Value} (same : SameLines text other)
    (enough : other.length < more) (done : Toml.readItems item turns text = some (items, rest)) :
    ∃ behind, Toml.readItems item more other = some (items, behind) ∧ SameLines rest behind ∧
      behind.length ≤ other.length := by
  induction turns generalizing text other items more with
  | zero => cases done
  | succ turns inductionHypothesis =>
      obtain ⟨more, rfl⟩ := Nat.exists_eq_add_one.mpr (Nat.zero_lt_of_lt enough)
      rcases exists_of_readItems begins done with ⟨reached, rfl⟩ |
        ⟨character, front, value, after, reached, plain, noComment, unclosed, read⟩
      · rcases same.dropLines (Nat.le_refl _) (Nat.le_refl _) reached (by decide) (by decide) with
          ⟨behind, reachedToo, tail, short⟩
        exact ⟨behind, by simp only [Toml.readItems, reachedToo], tail, Nat.le_of_lt short⟩
      · rcases same.dropLines (Nat.le_refl _) (Nat.le_refl _) reached plain noComment with
          ⟨behind, reachedToo, tail, short⟩
        rcases ignores (tail.keep plain) read with ⟨next, readToo, lines, fewer⟩
        rw [List.length_cons] at fewer
        simp only [readItems_item reached unclosed, read, Option.bind_eq_bind,
          Option.bind_some] at done
        simp only [readItems_item reachedToo unclosed, readToo, Option.bind_eq_bind,
          Option.bind_some]
        split at done
        next further comma =>
          rcases lines.dropLines (Nat.le_refl _) (Nat.le_refl _) comma (by decide) (by decide) with
            ⟨last, commaToo, lastLines, shortToo⟩
          rcases Option.bind_eq_some_iff.mp done with ⟨⟨values, ending⟩, later, made⟩
          cases made
          have room : last.length < more := by omega
          rcases inductionHypothesis lastLines room later with
            ⟨final, laterToo, finalLines, finalShort⟩
          refine ⟨final, ?_, finalLines, by omega⟩
          simp only [commaToo, laterToo, Option.bind_some]
          rfl
        next further bracket =>
          rcases lines.dropLines (Nat.le_refl _) (Nat.le_refl _) bracket (by decide)
            (by decide) with ⟨last, bracketToo, lastLines, shortToo⟩
          cases done
          refine ⟨last, ?_, lastLines, by omega⟩
          simp only [bracketToo]
          rfl
        next => cases done

/-- An entry is a key, an equals sign and a value, so that it takes at least one character. -/
theorem SameLines.readEntry {value : Reader Value} (ignores : IgnoresLineEnds value)
    {entry : (List String × String) × Value} (same : SameLines text other)
    (done : Toml.readEntry value text = some (entry, rest)) :
    ∃ behind, Toml.readEntry value other = some (entry, behind) ∧ SameLines rest behind ∧
      behind.length < other.length := by
  unfold Toml.readEntry at done ⊢
  rcases Option.bind_eq_some_iff.mp done with ⟨⟨key, afterKey⟩, key?, done⟩
  rcases Option.bind_eq_some_iff.mp done with ⟨afterMark, marked, done⟩
  rcases Option.bind_eq_some_iff.mp done with ⟨⟨found, ending⟩, valued, made⟩
  cases made
  rcases ignoresLineEnds_readKey same key? with ⟨first, keyToo, keyLines, keyShort⟩
  rcases keyLines.readMark (by decide) marked with ⟨second, markedToo, markLines, markShort⟩
  rcases ignores markLines.dropSpace valued with ⟨third, valuedToo, lines, short⟩
  have space := length_dropSpace_le second
  refine ⟨third, ?_, lines, by omega⟩
  simp only [keyToo, markedToo, valuedToo, Option.bind_eq_bind, Option.bind_some]
  rfl

/-- The entries of an inline table are read in as many turns as there are commas. -/
theorem SameLines.readInlineEntries {value : Reader Value} (ignores : IgnoresLineEnds value)
    {turns more : Nat} {entries made : Entries} (same : SameLines text other)
    (enough : other.length < more)
    (done : Toml.readInlineEntries value entries turns text = some (made, rest)) :
    ∃ behind, Toml.readInlineEntries value entries more other = some (made, behind) ∧
      SameLines rest behind ∧ behind.length ≤ other.length := by
  induction turns generalizing text other entries more with
  | zero => cases done
  | succ turns inductionHypothesis =>
      obtain ⟨more, rfl⟩ := Nat.exists_eq_add_one.mpr (Nat.zero_lt_of_lt enough)
      simp only [Toml.readInlineEntries] at done ⊢
      rcases Option.bind_eq_some_iff.mp done with ⟨⟨⟨⟨path, key⟩, found⟩, after⟩, entry, done⟩
      rcases Option.bind_eq_some_iff.mp done with ⟨added, adding, done⟩
      rcases same.readEntry ignores entry with ⟨next, entryToo, lines, short⟩
      have blanks := lines.dropSpace
      have space := length_dropSpace_le next
      simp only [entryToo, adding, Option.bind_eq_bind, Option.bind_some]
      split at done
      next further comma =>
        rw [comma] at blanks
        rcases blanks.exists_behind (by decide) with ⟨last, commaToo, tail⟩
        rw [commaToo, List.length_cons] at space
        have room : last.length < more := by omega
        rcases inductionHypothesis tail room done with ⟨final, later, finalLines, finalShort⟩
        refine ⟨final, ?_, finalLines, by omega⟩
        simp only [commaToo, later]
      next further brace =>
        rw [brace] at blanks
        rcases blanks.exists_behind (by decide) with ⟨last, braceToo, tail⟩
        rw [braceToo, List.length_cons] at space
        cases done
        refine ⟨last, ?_, tail, by omega⟩
        simp only [braceToo]
        rfl
      next => cases done

theorem ignoresLineEnds_readInline {value : Reader Value} (ignores : IgnoresLineEnds value) :
    IgnoresLineEnds (readInline value) := by
  intro text other entries rest same done
  have blanks := same.dropSpace
  have space := length_dropSpace_le other
  unfold readInline at done ⊢
  split at done
  next further brace =>
    rw [brace] at blanks
    rcases blanks.exists_behind (by decide) with ⟨last, braceToo, tail⟩
    rw [braceToo, List.length_cons] at space
    cases done
    exact ⟨last, by simp only [braceToo], tail, Nat.le_of_lt space⟩
  next filled =>
    rcases blanks.readInlineEntries ignores (Nat.lt_succ_self _) done with
      ⟨last, read, lines, short⟩
    refine ⟨last, ?_, lines, Nat.le_trans short space⟩
    split
    next further brace =>
      rw [brace] at blanks
      rcases blanks.exists_ahead (by decide) (by decide) with ⟨first, braced⟩
      exact absurd braced (filled first)
    next => exact read

theorem begins_readValue (depth : Nat) : Begins (readValue depth) := by
  cases depth with
  | zero => exact begins_readScalar
  | succ depth =>
      intro text value rest done
      simp only [readValue] at done
      split at done
      next behind => exact ⟨_, behind, rfl, by decide, by decide⟩
      next behind => exact ⟨_, behind, rfl, by decide, by decide⟩
      next => exact begins_readScalar done

/-- Values are read alike, however deep they nest. -/
theorem ignoresLineEnds_readValue (depth : Nat) : IgnoresLineEnds (readValue depth) := by
  induction depth with
  | zero => exact ignoresLineEnds_readScalar
  | succ depth inductionHypothesis =>
      intro text other value rest same done
      simp only [readValue] at done
      split at done
      next text =>
        rcases same.exists_behind (by decide) with ⟨behind, rfl, tail⟩
        rcases Option.map_eq_some_iff.mp done with ⟨⟨items, ending⟩, read, made⟩
        cases made
        rcases tail.readItems inductionHypothesis (begins_readValue depth) (Nat.lt_succ_self _)
          read with ⟨last, readToo, lines, short⟩
        refine ⟨last, ?_, lines, Nat.le_succ_of_le short⟩
        simp only [readValue, readToo, Option.map_some]
      next text =>
        rcases same.exists_behind (by decide) with ⟨behind, rfl, tail⟩
        rcases Option.map_eq_some_iff.mp done with ⟨⟨entries, ending⟩, read, made⟩
        cases made
        rcases ignoresLineEnds_readInline inductionHypothesis tail read with
          ⟨last, readToo, lines, short⟩
        refine ⟨last, ?_, lines, Nat.le_succ_of_le short⟩
        simp only [readValue, readToo, Option.map_some]
      next noBracket noBrace =>
        rcases ignoresLineEnds_readScalar same done with ⟨last, read, ending⟩
        refine ⟨last, ?_, ending⟩
        simp only [readValue]
        split
        next =>
          rcases same.exists_ahead (by decide) (by decide) with ⟨first, rfl⟩
          exact absurd rfl (noBracket first)
        next =>
          rcases same.exists_ahead (by decide) (by decide) with ⟨first, rfl⟩
          exact absurd rfl (noBrace first)
        next => exact read

end Nesting

/-! ## Lines -/

section Lines

variable {text other rest : List Char} {progress next : Progress}

theorem length_endLine_le (ended : endLine text = some rest) : rest.length ≤ text.length := by
  cases text with
  | nil =>
      cases ended
      exact Nat.le_refl _
  | cons => exact Nat.le_of_lt (length_endLine_lt ended (List.cons_ne_nil _ _))

/-- A line without an entry is nothing but its end. -/
theorem SameLines.readBlankLine (same : SameLines text other) (filled : other ≠ [])
    (done : (Toml.endLine text).bind (fun rest => some (progress, rest)) = some (next, rest)) :
    ∃ behind,
      (Toml.endLine other).bind (fun rest => some (progress, rest)) = some (next, behind) ∧
        SameLines rest behind ∧ behind.length < other.length := by
  rcases Option.bind_eq_some_iff.mp done with ⟨after, ended, made⟩
  cases made
  rcases same.endLine ended with ⟨behind, endedToo, ending⟩
  exact ⟨behind, by rw [endedToo]; rfl, ending, length_endLine_lt endedToo filled⟩

/-- The header of a member of an array of tables. -/
theorem SameLines.readMemberLine (same : SameLines text other)
    (done : progress.readLine ('[' :: '[' :: text) = some (next, rest)) :
    ∃ behind, progress.readLine ('[' :: '[' :: other) = some (next, behind) ∧
      SameLines rest behind ∧ behind.length < other.length := by
  unfold Progress.readLine at done
  rcases Option.bind_eq_some_iff.mp done with ⟨⟨⟨path, key⟩, afterKey⟩, named, done⟩
  rcases Option.bind_eq_some_iff.mp done with ⟨afterFirst, marked, done⟩
  rcases Option.bind_eq_some_iff.mp done with ⟨afterSecond, markedTwice, done⟩
  rcases Option.bind_eq_some_iff.mp done with ⟨opened, opening, done⟩
  rcases Option.bind_eq_some_iff.mp done with ⟨ending, ended, made⟩
  cases made
  rcases ignoresLineEnds_readKey same named with ⟨first, namedToo, keyLines, keyShort⟩
  rcases keyLines.readMark (by decide) marked with ⟨second, markedToo, markLines, markShort⟩
  rcases markLines.readMark (by decide) markedTwice with
    ⟨third, markedTwiceToo, lastLines, lastShort⟩
  rcases lastLines.endLine ended with ⟨final, endedToo, finalLines⟩
  have finalShort := length_endLine_le endedToo
  refine ⟨final, ?_, finalLines, by omega⟩
  simp only [Progress.readLine, namedToo, markedToo, markedTwiceToo, opening, endedToo,
    Option.bind_eq_bind, Option.bind_some]
  rfl

/-- The header of a table. -/
theorem SameLines.readTableLine (same : SameLines text other)
    (single : ∀ behind, text ≠ '[' :: behind)
    (done : progress.readLine ('[' :: text) = some (next, rest)) :
    ∃ behind, progress.readLine ('[' :: other) = some (next, behind) ∧
      SameLines rest behind ∧ behind.length < other.length := by
  have singleToo : ∀ behind, other ≠ '[' :: behind := by
    rintro behind rfl
    rcases same.exists_ahead (by decide) (by decide) with ⟨first, rfl⟩
    exact single first rfl
  rw [Progress.readLine] at done
  case x => exact single
  rcases Option.bind_eq_some_iff.mp done with ⟨⟨⟨path, key⟩, afterKey⟩, named, done⟩
  rcases Option.bind_eq_some_iff.mp done with ⟨opened, opening, done⟩
  rcases Option.bind_eq_some_iff.mp done with ⟨afterMark, marked, done⟩
  rcases Option.bind_eq_some_iff.mp done with ⟨ending, ended, made⟩
  cases made
  rcases ignoresLineEnds_readKey same named with ⟨first, namedToo, keyLines, keyShort⟩
  rcases keyLines.readMark (by decide) marked with ⟨second, markedToo, markLines, markShort⟩
  rcases markLines.endLine ended with ⟨final, endedToo, finalLines⟩
  have finalShort := length_endLine_le endedToo
  refine ⟨final, ?_, finalLines, by omega⟩
  rw [Progress.readLine]
  · simp only [namedToo, markedToo, opening, endedToo, Option.bind_eq_bind, Option.bind_some]
    rfl
  · exact singleToo

/-- A line has the same effect with another line end, and it takes at least one character. -/
theorem SameLines.readLine (same : SameLines text other) (going : text ≠ [])
    (done : progress.readLine text = some (next, rest)) :
    ∃ behind, progress.readLine other = some (next, behind) ∧ SameLines rest behind ∧
      behind.length < other.length := by
  have read := done
  have lines := same
  unfold Progress.readLine at done
  split at done
  next text =>
    rcases same.exists_behind (by decide) with ⟨behind, rfl, tail⟩
    rcases tail.exists_behind (by decide) with ⟨others, rfl, header⟩
    rcases header.readMemberLine read with ⟨last, readToo, ending, short⟩
    exact ⟨last, readToo, ending, Nat.lt_succ_of_lt (Nat.lt_succ_of_lt short)⟩
  next text single =>
    rcases same.exists_behind (by decide) with ⟨others, rfl, header⟩
    rcases header.readTableLine single read with ⟨last, readToo, ending, short⟩
    exact ⟨last, readToo, ending, Nat.lt_succ_of_lt short⟩
  next text =>
    rcases same.exists_behind (by decide) with ⟨others, rfl, -⟩
    exact same.readBlankLine (List.cons_ne_nil _ _) done
  next text =>
    rcases same.exists_behind (by decide) with ⟨others, rfl, -⟩
    exact same.readBlankLine (List.cons_ne_nil _ _) done
  next text =>
    cases same with
    | feed => exact lines.readBlankLine (List.cons_ne_nil _ _) done
    | stray => exact lines.readBlankLine (List.cons_ne_nil _ _) done
    | keep plain => exact absurd rfl plain
  next noMember noHeader noComment noFeed noReturn =>
    rcases Option.bind_eq_some_iff.mp done with ⟨⟨⟨⟨path, key⟩, value⟩, after⟩, entry, done⟩
    rcases Option.bind_eq_some_iff.mp done with ⟨added, adding, done⟩
    rcases Option.bind_eq_some_iff.mp done with ⟨ending, ended, made⟩
    cases made
    rcases same.readEntry (ignoresLineEnds_readValue nestingLimit) entry with
      ⟨behind, entryToo, entryLines, entryShort⟩
    rcases entryLines.endLine ended with ⟨final, endedToo, finalLines⟩
    have finalShort := length_endLine_le endedToo
    refine ⟨final, ?_, finalLines, by omega⟩
    cases text with
    | nil => exact absurd rfl going
    | cons character text =>
        have plain : character ≠ '\r' := by
          rintro rfl
          exact noReturn text rfl
        rcases same.exists_behind plain with ⟨others, rfl, -⟩
        have apart {mark : Char} (unmarked : ∀ rest, character :: text = mark :: rest → False) :
            ∀ rest, character :: others = mark :: rest → False := fun rest begins =>
          unmarked text (by rw [(List.cons.inj begins).1])
        rw [Progress.readLine]
        · simp only [entryToo, adding, endedToo, Option.bind_eq_bind, Option.bind_some]
          rfl
        · exact fun rest => apart noHeader _
        · exact apart noHeader
        · exact apart noComment
        · exact apart noFeed
        · exact apart noReturn

/-- Lines are read in fewer turns than there are characters. -/
theorem SameLines.readLines {turns more : Nat} {final : Progress} (same : SameLines text other)
    (enough : other.length < more) (done : progress.readLines turns text = some final) :
    progress.readLines more other = some final := by
  induction turns generalizing text other progress more with
  | zero => cases done
  | succ turns inductionHypothesis =>
      obtain ⟨more, rfl⟩ := Nat.exists_eq_add_one.mpr (Nat.zero_lt_of_lt enough)
      have blanks := same.dropSpace
      have space := length_dropSpace_le other
      unfold Progress.readLines at done ⊢
      split at done
      next nothing =>
        rw [nothing] at blanks
        generalize Toml.dropSpace other = line at blanks space ⊢
        cases blanks with
        | nil => exact done
        | ended =>
            obtain ⟨more, rfl⟩ := Nat.exists_eq_add_one.mpr (show 0 < more by
              rw [List.length_singleton] at space
              omega)
            exact done
      next going =>
        rcases Option.bind_eq_some_iff.mp done with ⟨⟨after, following⟩, line, done⟩
        rcases blanks.readLine going line with ⟨behind, lineToo, lines, short⟩
        have room : behind.length < more := by omega
        have later := inductionHypothesis lines room done
        split
        next nothing =>
          rw [nothing] at short
          cases short
        next =>
          simp only [lineToo, Option.bind_eq_bind, Option.bind_some]
          exact later

theorem SameLines.dropMark (same : SameLines text other) :
    SameLines (Toml.dropMark text) (Toml.dropMark other) := by
  unfold Toml.dropMark
  split
  next text =>
    rcases same.exists_behind (by decide) with ⟨behind, rfl, tail⟩
    exact tail
  next unmarked =>
    split
    next other =>
      rcases same.exists_ahead (by decide) (by decide) with ⟨first, rfl⟩
      exact absurd rfl (unmarked first)
    next => exact same

end Lines

/-- A document is the same with other line ends. -/
theorem parse_of_sameLines {text other : String} {document : Entries}
    (same : SameLines text.toList other.toList) (read : parse text = .ok document) :
    parse other = .ok document := by
  unfold parse at read ⊢
  dsimp only at read ⊢
  split at read
  next progress lines =>
    cases read
    rw [same.dropMark.readLines (Nat.lt_succ_self _) lines]
  next => cases read

end LogLayout.Toml
