import LogLayout.Proofs.Lengths
import LogLayout.Proofs.Pattern.Joining

namespace LogLayout.Pattern

/-!
# What builders see of a head

A builder is handed the whole head of a directive: its position, its lengths and its word.
The built-in words make little of it.  The parameters and the enclosed pattern decide what
is built, and the word only serves to say which directive a refused parameter belongs to.
The lengths are not theirs at all: the finished text is cut and padded behind their back.
-/

/-- The same directive with another head. -/
def Spec.withHead (spec : Spec) (head : Head) : Spec := { spec with head := head }

/-- The same flaw in a directive with another word. -/
def BadParameter.withWord (bad : BadParameter) (word : String) : BadParameter :=
  { bad with word := word }

/-- A builder takes nothing from the head of a directive but its word, and that only to name
it where a parameter is refused. -/
def Builder.HeadBlind (builder : Builder) : Prop :=
  ∀ spec context head, builder.build (spec.withHead head) context =
    (builder.build spec context).mapError fun bad => bad.withWord head.word

/-- No builder of a registry takes more from the heads of directives. -/
def Registry.HeadBlind (registry : Registry) : Prop :=
  ∀ name builder, registry.resolve? name = some builder → builder.HeadBlind

/-! ## The built-in words -/

section Words

variable (spec : Spec) (head : Head) (index : Nat)

@[simp] theorem Spec.word_withHead : (spec.withHead head).word = head.word := rfl

@[simp] theorem Spec.enclosed_withHead : (spec.withHead head).enclosed = spec.enclosed := rfl

@[simp] theorem Spec.parameter?_withHead :
    (spec.withHead head).parameter? index = spec.parameter? index := rfl

theorem Spec.intParameter_withHead :
    (spec.withHead head).intParameter index =
      (spec.intParameter index).mapError fun bad => bad.withWord head.word := by
  simp only [intParameter, parameter?_withHead, word_withHead]
  cases spec.parameter? index with
  | none => rfl
  | some parameter =>
      dsimp only
      cases Text.parseInt32 (Text.trim parameter) <;> rfl

theorem Spec.requiredParameter_withHead :
    (spec.withHead head).requiredParameter index =
      (spec.requiredParameter index).mapError fun bad => bad.withWord head.word := by
  simp only [requiredParameter, parameter?_withHead, word_withHead]
  cases spec.parameter? index <;> rfl

end Words

theorem headBlind_logger : Words.logger.HeadBlind := by
  intro spec context head
  simp only [Words.logger, Builder.plain, Spec.intParameter_withHead, Spec.word_withHead]
  rcases spec.intParameter 0 with bad | _ | length
  · rfl
  · rfl
  · by_cases negative : length < 0 <;>
      simp only [mapError_ok, bind, Except.bind, negative, if_true, if_false] <;> rfl

theorem headBlind_date (default : String) : (Words.date default).HeadBlind := by
  intro spec context head
  have zone : Words.chosenZone (spec.withHead head) context =
      (Words.chosenZone spec context).mapError fun bad => bad.withWord head.word := by
    simp only [Words.chosenZone, Spec.parameter?_withHead, Spec.word_withHead]
    cases spec.parameter? 1 with
    | none => rfl
    | some zone =>
        dsimp only
        cases Time.Zone.parse zone <;> rfl
  have format : Words.chosenFormat (spec.withHead head) default =
    Words.chosenFormat spec default := rfl
  simp only [Words.date, Builder.plain, format, zone, Spec.word_withHead]
  generalize Words.chosenFormat spec default = chosen
  generalize Words.chosenZone spec context = zone
  cases Time.DatePattern.parse chosen with
  | error flaw => rfl
  | ok pattern => cases zone <;> rfl

theorem headBlind_replace : Words.replace.HeadBlind := by
  intro spec context head
  simp only [Words.replace, Builder.transformer, Spec.requiredParameter_withHead,
    Spec.word_withHead, Spec.enclosed_withHead]
  cases spec.requiredParameter 0 with
  | error bad => rfl
  | ok expression =>
      cases spec.requiredParameter 1 with
      | error bad => rfl
      | ok replacement =>
          simp only [mapError_ok, bind, Except.bind]
          generalize Regex.Matcher.parse expression = parsed
          cases parsed <;> rfl

/-- No built-in word takes more from the head of a directive than its word. -/
theorem headBlind_words :
    ∀ entry ∈ Words.fields ++ Words.dates ++ Words.decorations, entry.2.1.HeadBlind := by
  have color (chosen : Color) (emphasis : Option Emphasis) :
      (Words.color chosen emphasis).HeadBlind := fun _ _ _ => rfl
  have emphasis (chosen : Emphasis) : (Words.emphasis chosen).HeadBlind := fun _ _ _ => rfl
  have field (shown : Renderer) : (Words.field shown).HeadBlind := fun _ _ _ => rfl
  have constant (text : Context → String) : (Words.constant text).HeadBlind :=
    fun _ _ _ => rfl
  have coloredLevel : Words.coloredLevel.HeadBlind := fun _ _ _ => rfl
  have highlight : Words.highlight.HeadBlind := fun _ _ _ => rfl
  have pairs : Words.pairs.HeadBlind := fun spec context head => by
    simp only [Words.pairs, Builder.plain, Spec.parameter?_withHead]
    cases spec.parameter? 0 <;> rfl
  simp only [Words.fields, Words.dates, Words.decorations, Words.level, Words.message,
    Words.thread, Words.marker, Words.caller, List.forall_mem_append, List.forall_mem_cons,
    List.forall_mem_map, List.forall_mem_flatMap, List.not_mem_nil, false_implies, implies_true,
    and_true, color, emphasis, field, constant, coloredLevel, highlight, headBlind_logger, pairs,
    headBlind_date, headBlind_replace]

theorem headBlind_builtin : Registry.builtin.HeadBlind := by
  have every : Registry.builtin.Every fun _ builder => builder.HeadBlind :=
    Registry.every_builtin headBlind_words
  exact fun name builder found => every (Registry.builtin.canonical name) builder found

/-! ## The lengths of a head -/

/-- A part with its text cut and padded, if there are lengths. -/
def justify (lengths : Lengths) (unit : Renderer) : Renderer :=
  if lengths.isUnlimited then unit else fun record => lengths.apply (unit record)

theorem justify_apply (lengths : Lengths) (unit : Renderer) (record : Record) :
    justify lengths unit record = lengths.apply (unit record) := by
  unfold justify
  split
  next unlimited =>
    rw [lengths.isUnlimited_iff.mp unlimited, Lengths.apply_unlimited]
  next => rfl

/-- What a directive builds is what its builder builds, cut and padded. -/
theorem Builder.instantiate_eq_map (builder : Builder) (spec : Spec) (context : Context) :
    builder.instantiate spec context =
      (builder.build spec context).map (justify spec.head.lengths) := by
  unfold instantiate justify
  cases builder.build spec context with
  | error bad => rfl
  | ok unit =>
      change (if spec.head.lengths.isUnlimited = true then _ else _) =
        Except.ok (if _ then _ else _)
      split <;> rfl

/-! ## Other heads -/

section Heads

variable {builder : Builder}

/-- A directive is built alike with any head of the same lengths, apart from the word that it
is refused with. -/
theorem Builder.HeadBlind.instantiate_withHead (blind : builder.HeadBlind) (spec : Spec)
    (context : Context) {head : Head} (same : head.lengths = spec.head.lengths) :
    builder.instantiate (spec.withHead head) context =
      (builder.instantiate spec context).mapError fun bad => bad.withWord head.word := by
  have lengths : (spec.withHead head).head.lengths = spec.head.lengths := same
  rw [builder.instantiate_eq_map, builder.instantiate_eq_map, lengths, blind spec context head]
  cases builder.build spec context <;> rfl

/-- A directive is built alike with any head that has the same word. -/
theorem Builder.HeadBlind.build_congr (blind : builder.HeadBlind) (spec : Spec)
    (context : Context) {head : Head} (same : head.word = spec.word) :
    builder.build (spec.withHead head) context = builder.build spec context := by
  have unchanged : builder.build spec context =
      (builder.build spec context).mapError fun bad => bad.withWord spec.word :=
    blind spec context spec.head
  rw [blind spec context head, same, ← unchanged]

theorem Builder.HeadBlind.positionBlind (blind : builder.HeadBlind) : builder.PositionBlind :=
  fun spec context _ => blind.build_congr spec context rfl

theorem Registry.HeadBlind.positionBlind {registry : Registry} (blind : registry.HeadBlind) :
    registry.PositionBlind :=
  fun name builder found => (blind name builder found).positionBlind

end Heads

end LogLayout.Pattern
