import LogLayout.Proofs.Text.Lines

namespace LogLayout.Text

/-!
# Lines of encoded text

A text is encoded character by character.  A line feed and a carriage return are encoded as one
byte each, and no byte of any other character is one of these two.  So the lines of the bytes are
the encodings of the lines of the text: cutting encoded text into lines never cuts a character in
two, and every line can be decoded by itself.
-/

/-! ## Units that are spelled by parts -/

section Spelling

variable {Unit Part : Type} {isFeed isReturn : Unit → Bool} {feeds returns : Part → Bool}
variable {spelling : Unit → List Part}

/-- A spelling shows a unit of a line end as one part of the same kind, and any other unit as
parts that belong to no line end. -/
structure KeepsLineEnds (isFeed isReturn : Unit → Bool) (feeds returns : Part → Bool)
    (spelling : Unit → List Part) : Prop where
  feed : ∀ unit, isFeed unit = true → ∃ part, spelling unit = [part] ∧ feeds part = true
  carriageReturn : ∀ unit, isFeed unit = false → isReturn unit = true →
    ∃ part, spelling unit = [part] ∧ feeds part = false ∧ returns part = true
  other : ∀ unit, isFeed unit = false → isReturn unit = false →
    spelling unit ≠ [] ∧ Unbroken feeds returns (spelling unit)

theorem KeepsLineEnds.exists_cons {unit : Unit}
    (keeps : KeepsLineEnds isFeed isReturn feeds returns spelling)
    (noFeed : isFeed unit = false) :
    ∃ part others, spelling unit = part :: others ∧ feeds part = false := by
  cases kind : isReturn unit with
  | true =>
      rcases keeps.carriageReturn unit noFeed kind with ⟨part, spelled, noFeed, _⟩
      exact ⟨part, [], spelled, noFeed⟩
  | false =>
      rcases keeps.other unit noFeed kind with ⟨filled, unbroken⟩
      rcases List.exists_cons_of_ne_nil filled with ⟨part, others, spelled⟩
      refine ⟨part, others, spelled, (unbroken part ?_).left⟩
      rw [spelled]
      exact List.mem_cons_self

theorem map_extendFirst {unit : Unit} (filled : spelling unit ≠ []) (lines : List (List Unit)) :
    (extendFirst unit lines).map (List.flatMap spelling) =
      (spelling unit).foldr extendFirst (lines.map (List.flatMap spelling)) := by
  have inFront (parts line : List Part) (others : List (List Part)) :
      parts.foldr extendFirst (line :: others) = (parts ++ line) :: others := by
    induction parts with
    | nil => rfl
    | cons part later inductionHypothesis =>
        rw [List.foldr_cons, inductionHypothesis]
        rfl
  cases lines with
  | cons line others => exact (inFront (spelling unit) _ _).symm
  | nil =>
      rcases List.eq_nil_or_concat (spelling unit) with empty | ⟨before, last, spelled⟩
      · exact absurd empty filled
      · rw [extendFirst, List.map_cons, List.flatMap_singleton, spelled, List.concat_eq_append,
          List.foldr_append]
        exact (inFront before [last] []).symm

/-- Parts of no line end belong to the first line. -/
theorem linesBy_unbroken_append {parts : List Part} (unbroken : Unbroken feeds returns parts)
    (rest : List Part) :
    linesBy feeds returns (parts ++ rest) =
      parts.foldr extendFirst (linesBy feeds returns rest) := by
  induction parts with
  | nil => rfl
  | cons part others inductionHypothesis =>
      rcases List.forall_mem_cons.mp unbroken with ⟨⟨noFeed, noReturn⟩, later⟩
      rw [List.cons_append, linesBy_cons noFeed noReturn, inductionHypothesis later]
      rfl

theorem KeepsLineEnds.linesBy_append {unit : Unit} {rest : List Part}
    (keeps : KeepsLineEnds isFeed isReturn feeds returns spelling)
    (noFeed : isFeed unit = false)
    (noEnd : isReturn unit = true → ∀ next ∈ rest.head?, feeds next = false) :
    linesBy feeds returns (spelling unit ++ rest) =
      (spelling unit).foldr extendFirst (linesBy feeds returns rest) := by
  cases kind : isReturn unit with
  | true =>
      rcases keeps.carriageReturn unit noFeed kind with ⟨part, spelled, noFeed, _⟩
      rw [spelled]
      exact linesBy_cons_of_noEnd noFeed fun _ => noEnd kind
  | false => exact linesBy_unbroken_append (keeps.other unit noFeed kind).right rest

theorem linesBy_flatMap (keeps : KeepsLineEnds isFeed isReturn feeds returns spelling)
    (text : List Unit) :
    linesBy feeds returns (text.flatMap spelling) =
      (linesBy isFeed isReturn text).map (List.flatMap spelling) := by
  have inLine {unit : Unit} {rest : List Unit} (noFeed : isFeed unit = false)
      (noEnd : isReturn unit = true → ∀ next ∈ (rest.flatMap spelling).head?, feeds next = false)
      (behind : linesBy feeds returns (rest.flatMap spelling) =
        (linesBy isFeed isReturn rest).map (List.flatMap spelling)) :
      linesBy feeds returns ((unit :: rest).flatMap spelling) =
        (extendFirst unit (linesBy isFeed isReturn rest)).map (List.flatMap spelling) := by
    rcases keeps.exists_cons noFeed with ⟨part, others, spelled, _⟩
    have filled : spelling unit ≠ [] := by
      rw [spelled]
      exact List.cons_ne_nil part others
    rw [List.flatMap_cons, keeps.linesBy_append noFeed noEnd, behind, map_extendFirst filled]
  fun_induction linesBy isFeed isReturn text with
  | case1 => rfl
  | case2 unit feed =>
      rcases keeps.feed unit feed with ⟨part, spelled, feeds⟩
      rw [List.flatMap_singleton, spelled, linesBy_feed feeds]
      rfl
  | case3 unit noFeed =>
      apply inLine (Bool.eq_false_iff.mpr noFeed)
      · intro _ next missing
        cases missing
      · rfl
  | case4 unit next rest feed inductionHypothesis =>
      rcases keeps.feed unit feed with ⟨part, spelled, feeds⟩
      rw [List.flatMap_cons, spelled, List.singleton_append, linesBy_feed feeds,
        inductionHypothesis]
      rfl
  | case5 unit next rest noFeed ends inductionHypothesis =>
      rcases Bool.and_eq_true_iff.mp ends with ⟨kind, feed⟩
      rcases keeps.carriageReturn unit (Bool.eq_false_iff.mpr noFeed) kind with
        ⟨first, spelledFirst, noFeed, returns⟩
      rcases keeps.feed next feed with ⟨second, spelledSecond, feeds⟩
      have ending := linesBy_ending_append (.returnFeed noFeed returns feeds)
        (rest.flatMap spelling)
      rw [inductionHypothesis] at ending
      rw [List.flatMap_cons, List.flatMap_cons, spelledFirst, spelledSecond]
      exact ending
  | case6 unit next rest noFeed noEnd inductionHypothesis =>
      apply inLine (Bool.eq_false_iff.mpr noFeed) _ inductionHypothesis
      intro kind part first
      have noFeed : isFeed next = false := by
        rw [kind, Bool.true_and] at noEnd
        exact Bool.eq_false_iff.mpr noEnd
      rcases keeps.exists_cons noFeed with ⟨head, others, spelled, headNoFeed⟩
      rw [List.flatMap_cons, spelled, List.cons_append, List.head?_cons] at first
      exact Option.some.inj first ▸ headNoFeed

end Spelling

/-! ## Characters that are spelled by bytes -/

theorem toList_eq_data (bytes : ByteArray) : bytes.toList = bytes.data.toList := by
  have loop (index : Nat) (read : List UInt8) :
      ByteArray.toList.loop bytes index read = read.reverse ++ bytes.data.toList.drop index := by
    fun_induction ByteArray.toList.loop bytes index read with
    | case1 index read inside inductionHypothesis =>
        have here : index < bytes.data.toList.length := by simpa using inside
        rw [inductionHypothesis, List.drop_eq_getElem_cons here]
        simp [ByteArray.get!, inside]
    | case2 index read outside =>
        rw [List.drop_eq_nil_of_le (by simpa using Nat.le_of_not_lt outside)]
        simp
  rw [ByteArray.toList, loop]
  rfl

theorem encode_eq (text : String) : encode text = text.toList.flatMap String.utf8EncodeChar := by
  have bytes := String.toByteArray_ofList (l := text.toList)
  rw [String.ofList_toList] at bytes
  rw [encode, toList_eq_data, String.toUTF8_eq_toByteArray, bytes, List.utf8Encode,
    List.toList_data_toByteArray]

/-- Encoded text can be decoded. -/
theorem decode?_encode (text : String) : decode? (encode text) = some text := by
  have same : (⟨(encode text).toArray⟩ : ByteArray) = text.toByteArray := by
    rw [encode, toList_eq_data]
    rfl
  rw [decode?, same, String.fromUTF8?, dif_pos text.isValidUTF8]
  rfl

/-- Bytes that can be decoded are those that encode their text. -/
theorem encode_of_decode? {bytes : List UInt8} {text : String}
    (decoded : decode? bytes = some text) : encode text = bytes := by
  rw [decode?, String.fromUTF8?] at decoded
  split at decoded
  next valid =>
    rcases Option.some.inj decoded
    rw [encode, toList_eq_data]
    rfl
  next => cases decoded

theorem utf8EncodeChar_of_lt {character : Char} (ascii : character.toNat < 128) :
    String.utf8EncodeChar character = [UInt8.ofNat character.toNat] := by
  have value : character.toNat = character.val.toNat := rfl
  rw [String.utf8EncodeChar, if_pos (by omega), value]

theorem le_of_mem_utf8EncodeChar {character : Char} {byte : UInt8}
    (longer : 128 ≤ character.toNat) (member : byte ∈ String.utf8EncodeChar character) :
    128 ≤ byte.toNat := by
  have value : character.toNat = character.val.toNat := rfl
  rw [String.utf8EncodeChar, if_neg (by omega)] at member
  split at member
  · simp only [List.mem_cons, List.not_mem_nil, or_false] at member
    rcases member with rfl | rfl
    all_goals rw [UInt8.toNat_ofNat']; omega
  split at member
  · simp only [List.mem_cons, List.not_mem_nil, or_false] at member
    rcases member with rfl | rfl | rfl
    all_goals rw [UInt8.toNat_ofNat']; omega
  · simp only [List.mem_cons, List.not_mem_nil, or_false] at member
    rcases member with rfl | rfl | rfl | rfl
    all_goals rw [UInt8.toNat_ofNat']; omega

theorem eq_of_mem_utf8EncodeChar {character ascii : Char} {byte : UInt8}
    (member : byte ∈ String.utf8EncodeChar character) (same : byte.toNat = ascii.toNat)
    (low : ascii.toNat < 128) : character = ascii := by
  rcases Nat.lt_or_ge character.toNat 128 with short | longer
  · rw [utf8EncodeChar_of_lt short, List.mem_singleton] at member
    rw [member, UInt8.toNat_ofNat', Nat.mod_eq_of_lt (by omega)] at same
    exact Char.toNat_inj.mp same
  · have high := le_of_mem_utf8EncodeChar longer member
    omega

/-- Line ends are encoded as line ends, and other characters show none. -/
theorem keepsLineEnds_utf8EncodeChar :
    KeepsLineEnds (· == '\n') (· == '\r') (· == (10 : UInt8)) (· == (13 : UInt8))
      String.utf8EncodeChar where
  feed character feed := by
    rw [beq_iff_eq.mp feed]
    exact ⟨10, rfl, rfl⟩
  carriageReturn character _ kind := by
    rw [beq_iff_eq.mp kind]
    exact ⟨13, rfl, rfl, rfl⟩
  other character noFeed noReturn := by
    refine ⟨String.utf8EncodeChar_ne_nil, fun byte member => ⟨?_, ?_⟩⟩
    · apply beq_false_of_ne
      rintro rfl
      exact ne_of_beq_false noFeed (eq_of_mem_utf8EncodeChar member rfl (by decide))
    · apply beq_false_of_ne
      rintro rfl
      exact ne_of_beq_false noReturn (eq_of_mem_utf8EncodeChar member rfl (by decide))

def textLines (text : String) : List String := (lines text.toList).map String.ofList

theorem decodedLines_encode (text : String) :
    decodedLines (encode text) = (textLines text).map some := by
  have decoded (line : List Char) :
      decode? (line.flatMap String.utf8EncodeChar) = some (String.ofList line) := by
    have encoded := encode_eq (String.ofList line)
    rw [String.toList_ofList] at encoded
    rw [← encoded]
    exact decode?_encode (String.ofList line)
  rw [decodedLines, encode_eq, linesBy_flatMap keepsLineEnds_utf8EncodeChar, List.map_map,
    textLines, List.map_map]
  exact List.map_congr_left fun line _ => decoded line

end LogLayout.Text
