import LogLayout.Pattern.Words
import LogLayout.Proofs.Pattern.Steps

namespace LogLayout.Pattern

/-!
# Patterns that are printed

A pattern can be put together as a tree of phrases and then be printed.  This module
shows that compiling the printed text gives back what the tree says: one part for each
phrase, which for a directive is built from the lengths, the word, the enclosed tree
and the parameters of that phrase.  This holds for builders that fail as well: the
fault is that of the first phrase that cannot be built.

Not every tree can be read back.  Two literal texts in a row would be read as one, and
a letter behind a bare word as a part of it.  The predicate `Printable` rules this out,
and nothing else about the order of phrases.
-/

/-- A phrase of a pattern. -/
inductive Phrase where
  | literal (text : String)
  | percent
  | directive (lengths : Lengths) (word : String) (inside : Option (List Phrase))
    (parameters : List String)

/-! ## Printing -/

/-- The lengths in decimal, the greatest one behind a point. -/
def lengthsChars (lengths : Lengths) : List Char :=
  (lengths.least.elim [] fun least => (toString least).toList) ++
    lengths.greatest.elim [] fun greatest => '.' :: (toString greatest).toList

def quotedChars (parameter : String) : List Char := '\x27' :: (parameter.toList ++ ['\x27'])

/-- Parameters between braces; without parameters there are no braces. -/
def listChars (parameters : List String) : List Char :=
  if parameters.isEmpty then []
  else '\x7b' :: ([','].intercalate (parameters.map quotedChars) ++ ['\x7d'])

mutual

def Phrase.chars : Phrase → List Char
  | .literal text => text.toList
  | .percent => ['%', '%']
  | .directive lengths word none parameters =>
      '%' :: (lengthsChars lengths ++ (word.toList ++ listChars parameters))
  | .directive lengths word (some inner) parameters =>
      '%' :: (lengthsChars lengths ++ (word.toList ++
        ('(' :: (phraseChars inner ++ ')' :: listChars parameters))))

/-- The characters of phrases in a row. -/
def phraseChars : List Phrase → List Char
  | [] => []
  | phrase :: rest => phrase.chars ++ phraseChars rest

end

def print (tree : List Phrase) : String := String.ofList (phraseChars tree)

/-! ## Trees that can be read back -/

def Phrase.isLiteral : Phrase → Bool
  | .literal _ => true
  | _ => false

/-- Whether a directive would take the character that is printed behind it for a part
of its own.  Behind parameters nothing is taken. -/
def Absorbs (builder : Builder) (inside : Option (List Phrase)) (parameters : List String)
    (character : Char) : Prop :=
  parameters = [] ∧
    (character = '\x7b' ∨ inside = none ∧
      (Text.isAlphabetic character = true ∨ builder.encloses = true ∧ character = '('))

instance (builder : Builder) (inside : Option (List Phrase)) (parameters : List String)
    (character : Char) : Decidable (Absorbs builder inside parameters character) :=
  inferInstanceAs (Decidable (_ ∧ _))

/-- Phrases that can be read back up to a closing character. -/
inductive Printable (registry : Registry) : Option Char → List Phrase → Prop where
  | nil {closing : Option Char} : Printable registry closing []
  | literal {closing : Option Char} {text : String} {rest : List Phrase} (nonempty : text ≠ "")
    (plain : ∀ character ∈ text.toList, character ∉ stops closing)
    (apart : ∀ phrase ∈ rest.head?, phrase.isLiteral = false)
    (later : Printable registry closing rest) :
    Printable registry closing (.literal text :: rest)
  | percent {closing : Option Char} {rest : List Phrase}
    (later : Printable registry closing rest) :
    Printable registry closing (.percent :: rest)
  | directive {closing : Option Char} {lengths : Lengths} {word : String}
    {inside : Option (List Phrase)} {parameters : List String} {builder : Builder}
    {rest : List Phrase} (inRange : InRange lengths) (nonempty : word ≠ "")
    (letters : ∀ letter ∈ word.toList, Text.isAlphabetic letter = true)
    (known : registry.resolve? word = some builder)
    (encloses : inside.isSome = true → builder.encloses = true)
    (enclosed : ∀ inner, inside = some inner → Printable registry (some ')') inner)
    (unquoted : ∀ parameter ∈ parameters, '\x27' ∉ parameter.toList)
    (unabsorbed : ∀ character ∈ (phraseChars rest).head?,
      ¬Absorbs builder inside parameters character)
    (later : Printable registry closing rest) :
    Printable registry closing (.directive lengths word inside parameters :: rest)

/-! ## What a tree says -/

mutual

/-- The part of a phrase that is printed at an offset. -/
def Phrase.assemble (registry : Registry) (context : Context) (position : Nat) :
    Phrase → Except Fault Renderer
  | .literal text => .ok fun _ => text
  | .percent => .ok fun _ => "%"
  | .directive lengths word none parameters =>
      registry.create context ⟨⟨position, lengths, word⟩, parameters, none⟩
  | .directive lengths word (some inner) parameters =>
      match assembleAll registry context
        (position + 1 + (lengthsChars lengths ++ word.toList).length + 1) inner with
      | .error fault => .error fault
      | .ok units => registry.create context ⟨⟨position, lengths, word⟩, parameters, some ⟨units⟩⟩

/-- The parts of phrases that are printed in a row from an offset on. -/
def assembleAll (registry : Registry) (context : Context) (position : Nat) :
    List Phrase → Except Fault (List Renderer)
  | [] => .ok []
  | phrase :: rest =>
      match phrase.assemble registry context position with
      | .error fault => .error fault
      | .ok unit =>
          match assembleAll registry context (position + phrase.chars.length) rest with
          | .error fault => .error fault
          | .ok units => .ok (unit :: units)

end

/-! ## Printed lengths -/

namespace NumberText

def ofInt (value : Int) : NumberText :=
  ⟨decide (value < 0), Nat.toDigits 10 value.natAbs, fun _ member =>
    Nat.isDigit_of_mem_toDigits (by decide) (by decide) member⟩

theorem value?_ofInt (value : Int) : (ofInt value).value? = some value := by
  have digits : (Nat.ofDigitChars 10 (Nat.toDigits 10 value.natAbs) 0 : Int) =
      value.natAbs := by rw [Nat.ofDigitChars_ten_toDigits]
  simp only [value?, ofInt, Nat.toDigits_ne_nil, if_false, digits, decide_eq_true_eq]
  split <;> congr 1 <;> omega

theorem chars_ofInt (value : Int) : (ofInt value).chars = (toString value).toList := by
  rw [Int.toString_eq_repr, Int.repr_eq_if]
  by_cases negative : value < 0
  · have sizes : (-value).toNat = value.natAbs := by omega
    rw [if_neg (by omega), String.toList_append, Nat.toList_repr, sizes, chars, sign]
    simp only [ofInt, negative, decide_true, if_true]
    rfl
  · have sizes : value.toNat = value.natAbs := by omega
    rw [if_pos (by omega), Nat.toList_repr, sizes, chars, sign]
    simp only [ofInt, negative, decide_false, Bool.false_eq_true, if_false, List.nil_append]

def ofLeast (least : Option Int) : NumberText := least.elim absent ofInt

end NumberText

theorem exists_headText_of_printed (lengths : Lengths) {word : String} (nonempty : word ≠ "")
    (letters : ∀ letter ∈ word.toList, Text.isAlphabetic letter = true) :
    ∃ text : HeadText, text.chars = lengthsChars lengths ++ word.toList ∧
      text.lengths = lengths ∧ text.name = word := by
  rcases lengths with ⟨least, greatest⟩
  have leastText : (NumberText.ofLeast least).chars =
        (least.elim [] fun least => (toString least).toList) ∧
      (NumberText.ofLeast least).value? = least := by
    cases least with
    | none => exact ⟨rfl, rfl⟩
    | some value => exact ⟨NumberText.chars_ofInt value, NumberText.value?_ofInt value⟩
  have greatestText : greatestChars (greatest.map NumberText.ofInt) =
        (greatest.elim [] fun greatest => '.' :: (toString greatest).toList) ∧
      (greatest.map NumberText.ofInt).bind NumberText.value? = greatest := by
    cases greatest with
    | none => exact ⟨rfl, rfl⟩
    | some value =>
        exact ⟨congrArg (List.cons '.') (NumberText.chars_ofInt value),
          NumberText.value?_ofInt value⟩
  refine ⟨⟨.ofLeast least, greatest.map .ofInt, word.toList,
    fun empty => nonempty (String.toList_eq_nil_iff.mp empty), letters⟩, ?_, ?_,
    String.ofList_toList⟩
  · simp only [HeadText.chars, leastText.1, greatestText.1, lengthsChars, List.append_assoc]
  · simp only [HeadText.lengths, leastText.2, greatestText.2]

/-! ## Printed parameters -/

def ParameterText.ofPrinted (parameter : String) (unquoted : '\x27' ∉ parameter.toList) :
    ParameterText :=
  .quoted [] parameter.toList [] (fun _ member => absurd member List.not_mem_nil) unquoted
    (fun _ member => absurd member List.not_mem_nil)

theorem ParameterText.value_ofPrinted (parameter : String)
    (unquoted : '\x27' ∉ parameter.toList) :
    (ofPrinted parameter unquoted).value = parameter := String.ofList_toList

theorem exists_list_of_printed {parameters : List String} (nonempty : parameters ≠ [])
    (unquoted : ∀ parameter ∈ parameters, '\x27' ∉ parameter.toList) :
    ∃ list : ParameterListText,
      list.innerChars = [','].intercalate (parameters.map quotedChars) ++ ['\x7d'] ∧
      list.values = parameters := by
  let texts := parameters.pmap ParameterText.ofPrinted unquoted
  have chars : texts.map ParameterText.chars = parameters.map quotedChars := by
    rw [List.map_pmap]
    exact List.pmap_eq_map unquoted
  have values : texts.map ParameterText.value = parameters := by
    simp only [texts, List.map_pmap, ParameterText.value_ofPrinted, List.pmap_eq_map, List.map_id']
  have written : texts ≠ [] := by
    intro empty
    rw [empty] at values
    exact nonempty values.symm
  rcases exists_list_of_joined written with ⟨list, text, listed⟩
  rw [joinedChars, chars] at text
  exact ⟨list, text, listed.trans values⟩

theorem exists_parameters_of_printed {parameters : List String}
    (unquoted : ∀ parameter ∈ parameters, '\x27' ∉ parameter.toList) :
    ∃ list : Option ParameterListText, parameterChars list = listChars parameters ∧
      parameterValues list = parameters ∧ (list = none → parameters = []) := by
  cases parameters with
  | nil => exact ⟨none, rfl, rfl, fun _ => rfl⟩
  | cons first rest =>
      rcases exists_list_of_printed (List.cons_ne_nil _ _) unquoted with ⟨list, text, values⟩
      exact ⟨some list, congrArg (List.cons '\x7b') text, values, fun missing => by cases missing⟩

/-! ## Printed directives -/

/-- The printed text of an enclosed tree with its parentheses, if there is one. -/
def enclosedChars : Option (List Phrase) → List Char
  | none => []
  | some inner => '(' :: (phraseChars inner ++ [')'])

theorem Phrase.chars_directive (lengths : Lengths) (word : String)
    (inside : Option (List Phrase)) (parameters : List String) :
    (directive lengths word inside parameters).chars =
      '%' :: (lengthsChars lengths ++ (word.toList ++
        (enclosedChars inside ++ listChars parameters))) := by
  cases inside with
  | none => rfl
  | some inner =>
      simp only [chars, enclosedChars, List.cons_append, List.append_assoc, List.nil_append]

/-- The pattern of an enclosed tree that is printed at an offset. -/
def assembleInside (registry : Registry) (context : Context) (position : Nat) :
    Option (List Phrase) → Except Fault (Option Compiled)
  | none => .ok none
  | some inner => (assembleAll registry context (position + 1) inner).map fun units =>
      some ⟨units⟩

section Compiling

variable {registry : Registry} {context : Context}

theorem assemble_directive (lengths : Lengths) (word : String)
    (inside : Option (List Phrase)) (parameters : List String) (position : Nat) :
    (Phrase.directive lengths word inside parameters).assemble registry context position =
      (assembleInside registry context
        (position + 1 + (lengthsChars lengths ++ word.toList).length) inside).bind
          fun inside => registry.create context
            ⟨⟨position, lengths, word⟩, parameters, inside⟩ := by
  cases inside with
  | none => rw [Phrase.assemble]; rfl
  | some inner =>
      rw [Phrase.assemble, assembleInside]
      cases assembleAll registry context
        (position + 1 + (lengthsChars lengths ++ word.toList).length + 1) inner <;> rfl

/-- Phrases are compiled to what they say, up to where their pattern is closed. -/
def ReadsBack (registry : Registry) (context : Context) (closing : Option Char)
    (tree : List Phrase) : Prop :=
  ∀ position following,
    (∀ character ∈ following.head?, closing = some character ∧ character ≠ '%') →
    verdict (registry.compileUntil context closing ⟨position, phraseChars tree ++ following⟩) =
      (assembleAll registry context position tree).map fun units =>
        (⟨units⟩, ⟨position + (phraseChars tree).length, following⟩)

theorem verdict_compileInside_print {head : Head} {builder : Builder}
    {inside : Option (List Phrase)} {behind : List Char}
    (opened : inside.isSome = true ↔ builder.encloses = true ∧
      (enclosedChars inside ++ behind).head? = some '(')
    (enclosed : ∀ inner, inside = some inner → ReadsBack registry context (some ')') inner)
    (position : Nat) :
    verdict (registry.compileInside context head builder
        ⟨position, enclosedChars inside ++ behind⟩) =
      (assembleInside registry context position inside).map fun compiled =>
        (compiled, ⟨position + (enclosedChars inside).length, behind⟩) := by
  cases inside with
  | none =>
      exact congrArg verdict (compileInside_unopened fun open_ =>
        Bool.false_ne_true (opened.mpr open_))
  | some inner =>
      have text : enclosedChars (some inner) ++ behind =
          '(' :: (phraseChars inner ++ ')' :: behind) := by
        simp only [enclosedChars, List.cons_append, List.append_assoc, List.nil_append]
      have length : position + 1 + (phraseChars inner).length + 1 =
          position + (enclosedChars (some inner)).length := by
        simp only [enclosedChars, List.length_cons, List.length_append, List.length_nil]
        omega
      have read := enclosed inner rfl (position + 1) (')' :: behind) fun character first => by
        cases first
        exact ⟨rfl, by decide⟩
      rw [text, compileInside_opened (opened.mp rfl).1, verdict_bind, read, assembleInside]
      cases assembleAll registry context (position + 1) inner with
      | error fault => rfl
      | ok units =>
          simp only [Except.map, Except.bind, closeInside, Cursor.forward_one, length]
          rfl

theorem head?_behindWord {builder : Builder} {inside : Option (List Phrase)}
    {parameters : List String} {following : List Char}
    (encloses : inside.isSome = true → builder.encloses = true)
    (unabsorbed : ∀ character ∈ following.head?,
      ¬Absorbs builder inside parameters character) :
    (∀ character ∈ (enclosedChars inside ++ (listChars parameters ++ following)).head?,
      Text.isAlphabetic character = false) ∧
    (inside.isSome = true ↔ builder.encloses = true ∧
      (enclosedChars inside ++ (listChars parameters ++ following)).head? = some '(') := by
  cases inside with
  | some inner =>
      refine ⟨fun character first => ?_, iff_of_true rfl ⟨encloses rfl, rfl⟩⟩
      cases first
      decide
  | none =>
      cases parameters with
      | cons first rest =>
          refine ⟨fun character brace => ?_, iff_of_false Bool.false_ne_true fun opened => ?_⟩
          · cases brace
            decide
          · exact absurd (Option.some.inj opened.2) (by decide)
      | nil =>
          refine ⟨fun character first => ?_, iff_of_false Bool.false_ne_true fun opened => ?_⟩
          · refine Bool.eq_false_iff.mpr fun letter => ?_
            exact unabsorbed character first ⟨rfl, .inr ⟨rfl, .inl letter⟩⟩
          · exact unabsorbed '(' opened.2 ⟨rfl, .inr ⟨rfl, .inr ⟨opened.1, rfl⟩⟩⟩

theorem verdict_compileDirective_print {lengths : Lengths} {word : String}
    {inside : Option (List Phrase)} {parameters : List String} {builder : Builder}
    {following : List Char} (inRange : InRange lengths) (nonempty : word ≠ "")
    (letters : ∀ letter ∈ word.toList, Text.isAlphabetic letter = true)
    (known : registry.resolve? word = some builder)
    (encloses : inside.isSome = true → builder.encloses = true)
    (enclosed : ∀ inner, inside = some inner → ReadsBack registry context (some ')') inner)
    (unquoted : ∀ parameter ∈ parameters, '\x27' ∉ parameter.toList)
    (unabsorbed : ∀ character ∈ following.head?,
      ¬Absorbs builder inside parameters character) (position : Nat) :
    verdict (registry.compileDirective context position ⟨position + 1,
        lengthsChars lengths ++ (word.toList ++
          (enclosedChars inside ++ (listChars parameters ++ following)))⟩) =
      ((Phrase.directive lengths word inside parameters).assemble registry context
        position).map fun unit =>
          (unit, ⟨position + (Phrase.directive lengths word inside parameters).chars.length,
            following⟩) := by
  rcases exists_headText_of_printed lengths nonempty letters with
    ⟨head, headChars, rfl, rfl⟩
  rcases head?_behindWord encloses unabsorbed with ⟨maximal, opened⟩
  rcases exists_parameters_of_printed unquoted with ⟨list, listText, rfl, missing⟩
  have unopened : list = none → following.head? ≠ some '\x7b' := fun absent brace =>
    unabsorbed '\x7b' brace ⟨missing absent, .inl rfl⟩
  have length : position + (Phrase.directive head.lengths head.name inside
      (parameterValues list)).chars.length =
      position + 1 + head.chars.length + (enclosedChars inside).length +
        (parameterChars list).length := by
    simp only [Phrase.chars_directive, headChars, listText, List.length_cons,
      List.length_append]
    omega
  rw [← List.append_assoc, ← headChars, compileDirective_head _ inRange known maximal,
    verdict_bind, verdict_compileInside_print opened enclosed, assemble_directive, headChars]
  cases assembleInside registry context
    (position + 1 + (lengthsChars head.lengths ++ head.name.toList).length) inside with
  | error fault => rfl
  | ok compiled =>
      simp only [Except.map, Except.bind]
      have resolved : registry.resolve? (head.head position).word = some builder := known
      rw [← listText, verdict_compileTail resolved _ _ unopened, length, headChars]
      rfl

/-! ## Printed trees -/

theorem Phrase.head?_chars {phrase : Phrase} (sign : phrase.isLiteral = false) :
    phrase.chars.head? = some '%' := by
  cases phrase with
  | literal text => cases sign
  | percent => rfl
  | directive lengths word inside parameters => rw [chars_directive]; rfl

/-- Behind a literal text the next phrase or the end of the pattern stops it. -/
theorem head?_behindLiteral {closing : Option Char} {rest : List Phrase}
    {following : List Char} (apart : ∀ phrase ∈ rest.head?, phrase.isLiteral = false)
    (stopped : ∀ character ∈ following.head?, closing = some character ∧ character ≠ '%') :
    ∀ character ∈ (phraseChars rest ++ following).head?, character ∈ stops closing := by
  intro character first
  cases rest with
  | nil =>
      rw [stops, (stopped character first).1]
      exact List.mem_cons_of_mem _ List.mem_cons_self
  | cons phrase others =>
      have sign := Phrase.head?_chars (apart phrase rfl)
      rw [phraseChars, List.append_assoc, List.head?_append, sign] at first
      cases first
      exact List.mem_cons_self

/-- The parenthesis that closes a pattern is never taken for a part of a directive. -/
theorem unabsorbed_append {closing : Option Char} {builder : Builder}
    {inside : Option (List Phrase)} {parameters : List String} {text following : List Char}
    (unabsorbed : ∀ character ∈ text.head?, ¬Absorbs builder inside parameters character)
    (closer : ∀ character ∈ closing, character = ')')
    (stopped : ∀ character ∈ following.head?, closing = some character ∧ character ≠ '%') :
    ∀ character ∈ (text ++ following).head?, ¬Absorbs builder inside parameters character := by
  intro character first
  cases text with
  | cons head tail => exact unabsorbed character first
  | nil =>
      have same := closer character (stopped character first).1
      subst same
      rintro ⟨-, brace | ⟨-, letter | ⟨-, opening⟩⟩⟩
      · exact absurd brace (by decide)
      · exact absurd letter (by decide)
      · exact absurd opening (by decide)

theorem phraseChars_directive (lengths : Lengths) (word : String)
    (inside : Option (List Phrase)) (parameters : List String) (rest : List Phrase)
    (following : List Char) :
    phraseChars (.directive lengths word inside parameters :: rest) ++ following =
      '%' :: (lengthsChars lengths ++ (word.toList ++
        (enclosedChars inside ++ (listChars parameters ++ (phraseChars rest ++ following))))) := by
  simp only [phraseChars, Phrase.chars_directive, List.cons_append, List.append_assoc]

/-- No printed head makes a doubled percent sign. -/
theorem head?_printedHead_ne_percent {lengths : Lengths} {word : String} (nonempty : word ≠ "")
    (letters : ∀ letter ∈ word.toList, Text.isAlphabetic letter = true)
    (following : List Char) :
    (lengthsChars lengths ++ (word.toList ++ following)).head? ≠ some '%' := by
  rcases exists_headText_of_printed lengths nonempty letters with ⟨head, headChars, -, -⟩
  rw [← List.append_assoc, ← headChars]
  exact head.head?_ne_percent following

/-- Every tree that can be read back is compiled to what it says, whatever follows: an enclosed tree
has its parenthesis and the rest of the directive behind it. -/
theorem readsBack_of_printable {closing : Option Char} {tree : List Phrase}
    (printable : Printable registry closing tree)
    (closer : ∀ character ∈ closing, character = ')') :
    ReadsBack registry context closing tree := by
  induction printable with
  | nil =>
      intro position following stopped
      exact congrArg verdict (registry.compileUntil_stop context stopped position)
  | @literal closing text rest nonempty plain apart later inductionHypothesis =>
      intro position following stopped
      have part : Compiled.ofLiteral text.toList = .single fun _ => text := by
        rw [Compiled.ofLiteral_of_ne_nil fun empty => nonempty (String.toList_eq_nil_iff.mp empty),
          String.ofList_toList]
      rw [phraseChars, Phrase.chars, List.append_assoc,
        registry.compileUntil_literal context plain (head?_behindLiteral apart stopped),
        verdict_inFrontOf, inductionHypothesis closer _ _ stopped, part, assembleAll,
        Phrase.assemble, Phrase.chars]
      dsimp only
      cases assembleAll registry context (position + text.toList.length) rest with
      | error fault => rfl
      | ok units =>
          rw [List.length_append, ← Nat.add_assoc]
          rfl
  | @percent closing rest later inductionHypothesis =>
      intro position following stopped
      rw [phraseChars, Phrase.chars, assembleAll, Phrase.assemble, Phrase.chars]
      change verdict (registry.compileUntil context closing
        ⟨position, '%' :: '%' :: (phraseChars rest ++ following)⟩) = _
      rw [registry.compileUntil_percent, verdict_inFrontOf, inductionHypothesis closer _ _ stopped]
      dsimp only [List.length_cons, List.length_nil]
      cases assembleAll registry context (position + 2) rest with
      | error fault => rfl
      | ok units =>
          rw [List.length_append, ← Nat.add_assoc]
          rfl
  | @directive closing lengths word inside parameters builder rest inRange nonempty letters known
        encloses enclosed unquoted unabsorbed later insideHypothesis inductionHypothesis =>
      intro position following stopped
      have directive := verdict_compileDirective_print inRange nonempty letters
        known encloses (fun inner same => insideHypothesis inner same fun character first => by
          cases first
          rfl) unquoted (unabsorbed_append unabsorbed closer stopped) position
      rw [phraseChars_directive, registry.compileUntil_directive context
        (head?_printedHead_ne_percent nonempty letters _), verdict_bind, directive, assembleAll]
      cases (Phrase.directive lengths word inside parameters).assemble registry context
        position with
      | error fault => rfl
      | ok unit =>
          simp only [Except.map, Except.bind]
          rw [verdict_inFrontOf, inductionHypothesis closer _ _ stopped]
          cases assembleAll registry context (position +
            (Phrase.directive lengths word inside parameters).chars.length) rest with
          | error fault => rfl
          | ok units =>
              rw [phraseChars, List.length_append, ← Nat.add_assoc]
              rfl

theorem length_assembleAll {tree : List Phrase} {position : Nat} {units : List Renderer}
    (assembled : assembleAll registry context position tree = .ok units) :
    units.length = tree.length := by
  induction tree generalizing position units with
  | nil =>
      cases assembled
      rfl
  | cons phrase rest inductionHypothesis =>
      rw [assembleAll] at assembled
      split at assembled
      next => cases assembled
      next unit built =>
        split at assembled
        next => cases assembled
        next others later =>
          cases assembled
          exact congrArg Nat.succ (inductionHypothesis later)

end Compiling

/-- The printed text of a tree is compiled to one part for each phrase, in order.  Each
directive is built from its own lengths, word, enclosed tree and parameters, and if one
of them cannot be built the pattern is rejected for the first of these. -/
theorem compile_print (registry : Registry) (context : Context) (tree : List Phrase)
    (printable : Printable registry none tree) :
    registry.compile context (print tree) =
        (assembleAll registry context 0 tree).map Compiled.mk ∧
      ∀ compiled, registry.compile context (print tree) = .ok compiled →
        compiled.units.length = tree.length := by
  have readsBack : ReadsBack registry context none tree :=
    readsBack_of_printable printable (fun character first => by cases first)
  have read := readsBack 0 [] (fun character first => by cases first)
  rw [List.append_nil] at read
  have whole : registry.compile context (print tree) =
      (assembleAll registry context 0 tree).map Compiled.mk := by
    rw [compile_eq_verdict, print, String.toList_ofList, read]
    cases assembleAll registry context 0 tree <;> rfl
  refine ⟨whole, fun compiled done => ?_⟩
  rw [whole] at done
  cases assembled : assembleAll registry context 0 tree with
  | error fault =>
      rw [assembled] at done
      cases done
  | ok units =>
      rw [assembled] at done
      cases done
      exact length_assembleAll assembled

/-- A tree with an enclosed tree, lengths and parameters. -/
def sampleTree : List Phrase :=
  [.literal "[", .directive ⟨some (-10), none⟩ "bold"
      (some [.directive ⟨none, none⟩ "level" none [], .literal " ", .percent]) [],
    .literal "]", .directive ⟨none, some 5⟩ "mdc" none ["user, id", "x"]]

theorem printable_sampleTree : Printable Registry.builtin none sampleTree := by
  have bold : Registry.builtin.resolve? "bold" = some (Words.emphasis .bold) := rfl
  have level : Registry.builtin.resolve? "level" = some Words.level := rfl
  have mdc : Registry.builtin.resolve? "mdc" = some Words.pairs := rfl
  have enclosed : Printable Registry.builtin (some ')')
      [.directive ⟨none, none⟩ "level" none [], .literal " ", .percent] := by
    refine .directive ?_ (by decide) ?_ level (by decide) (fun _ same => by cases same) ?_ ?_
      (.literal (by decide) ?_ ?_ (.percent .nil))
    · simp [InRange]
    · simp
      decide
    · simp
    · rintro character ⟨⟩
      decide
    · simp [stops]
    · simp [Phrase.isLiteral]
  have parameters : Printable Registry.builtin none
      [.directive ⟨none, some 5⟩ "mdc" none ["user, id", "x"]] := by
    refine .directive ?_ (by decide) ?_ mdc (by decide) (fun _ same => by cases same) ?_ ?_ .nil
    · simp [InRange, greatestLength]
    · simp
      decide
    · simp
    · rintro character ⟨⟩
  refine .literal (by decide) ?_ ?_ (.directive ?_ (by decide) ?_ bold (by decide)
    (fun _ same => by cases same; exact enclosed) ?_ ?_ (.literal (by decide) ?_ ?_ parameters))
  · simp [stops]
  · simp [Phrase.isLiteral]
  · simp [InRange, greatestLength]
  · simp
    decide
  · simp
  · rintro character ⟨⟩
    decide
  · simp [stops]
  · simp [Phrase.isLiteral]

theorem compile_print_sampleTree :
    let context : Context := { application := "shop", node := "east", console := .plain }
    print sampleTree = "[%-10bold(%level %%)]%.5mdc\x7b'user, id','x'\x7d" ∧
      Registry.builtin.compile context (print sampleTree) =
        (assembleAll Registry.builtin context 0 sampleTree).map Compiled.mk :=
  ⟨by decide, (compile_print Registry.builtin _ sampleTree printable_sampleTree).1⟩

end LogLayout.Pattern
