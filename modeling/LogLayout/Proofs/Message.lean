import LogLayout.Message
import Mathlib.Data.List.Infix
import Mathlib.Data.List.TakeWhile

namespace LogLayout.Message

/-!
# Filled templates

A template is filled in one pass over its text.  What comes out can be told without a pass: the
template is cut at every placeholder, and each cut is looked at with the piece in front of it and
with the number of arguments that the cuts before it take.

Cuts are served from the left for as long as there are arguments.  A piece that ends in exactly one
backslash makes the placeholder behind it literal and takes none.  From the first cut that finds no
argument everything stays as it is written, and this holds for literal placeholders too: their
backslash is kept there.
-/

/-! ## Cutting at placeholders -/

/-- What an argument is put in the place of. -/
def placeholder : List Char := ['\x7b', '\x7d']

theorem cutAtPlaceholder_cons {character : Char} {text : List Char}
    (unopened : ¬ placeholder <+: character :: text) :
    cutAtPlaceholder (character :: text) =
      (cutAtPlaceholder text).map fun (before, behind) => (character :: before, behind) := by
  refine cutAtPlaceholder.eq_3 character text fun rest opens closes => unopened ?_
  rw [opens, closes]
  exact ⟨rest, rfl⟩

/-- The two braces of a placeholder differ, so that no placeholder begins within a text and ends
behind it. -/
theorem cutAtPlaceholder_append {before : List Char} (uncut : ¬ placeholder <:+: before)
    (behind : List Char) :
    cutAtPlaceholder (before ++ (placeholder ++ behind)) = some (before, behind) := by
  induction before with
  | nil => rfl
  | cons character rest inductionHypothesis =>
      have later : ¬ placeholder <:+: rest := fun inside => uncut (List.infix_cons inside)
      have unopened : ¬ placeholder <+: character :: (rest ++ (placeholder ++ behind)) := by
        intro opens
        rcases List.cons_prefix_cons.mp opens with ⟨rfl, closes⟩
        cases rest with
        | nil => exact absurd (List.cons_prefix_cons.mp closes).1 (by decide)
        | cons next others =>
            rcases List.cons_prefix_cons.mp closes with ⟨rfl, _⟩
            exact uncut ⟨[], others, rfl⟩
      rw [List.cons_append, cutAtPlaceholder_cons unopened, inductionHypothesis later]
      rfl

theorem cutAtPlaceholder_eq_none {text : List Char} (uncut : ¬ placeholder <:+: text) :
    cutAtPlaceholder text = none := by
  induction text with
  | nil => rfl
  | cons character rest inductionHypothesis =>
      rw [cutAtPlaceholder_cons fun opens => uncut opens.isInfix,
        inductionHypothesis fun inside => uncut (List.infix_cons inside)]
      rfl

theorem uncut_or_exists_cut (text : List Char) :
    ¬ placeholder <:+: text ∨
      ∃ before behind, text = before ++ (placeholder ++ behind) ∧ ¬ placeholder <:+: before := by
  induction text with
  | nil => exact .inl (by decide)
  | cons character rest inductionHypothesis =>
      by_cases opens : placeholder <+: character :: rest
      · rcases opens with ⟨behind, same⟩
        exact .inr ⟨[], behind, same.symm, by decide⟩
      · rcases inductionHypothesis with uncut | ⟨before, behind, same, uncut⟩
        · exact .inl fun inside => (List.infix_cons_iff.mp inside).elim opens uncut
        · refine .inr ⟨character :: before, behind, by rw [same, List.cons_append],
            fun inside => ?_⟩
          rcases List.infix_cons_iff.mp inside with here | later
          · refine opens (here.trans ?_)
            rw [same, ← List.cons_append]
            exact List.prefix_append _ _
          · exact uncut later

/-- The pieces of a template that is cut at every placeholder: those with a placeholder behind
them, and the last one. -/
structure CutInto (template : List Char) (leads : List (List Char)) (last : List Char) : Prop where
  joined : template = leads.flatMap (· ++ placeholder) ++ last
  uncut : ∀ lead ∈ leads, ¬ placeholder <:+: lead
  uncut_last : ¬ placeholder <:+: last

theorem joined_cons (lead : List Char) (leads : List (List Char)) (last : List Char) :
    (lead :: leads).flatMap (· ++ placeholder) ++ last =
      lead ++ (placeholder ++ (leads.flatMap (· ++ placeholder) ++ last)) := by
  rw [List.flatMap_cons, List.append_assoc, List.append_assoc]

namespace CutInto

variable {template : List Char} {leads others : List (List Char)} {last final : List Char}

theorem exists_leads (template : List Char) : ∃ leads last, CutInto template leads last := by
  induction counted : template.length using Nat.strong_induction_on generalizing template with
  | _ size inductionHypothesis =>
      rcases uncut_or_exists_cut template with uncut | ⟨before, behind, same, uncut⟩
      · exact ⟨[], template, rfl, fun _ member => absurd member List.not_mem_nil, uncut⟩
      · have shorter : behind.length < size := by
          rw [← counted, same, List.length_append, List.length_append]
          exact Nat.lt_of_lt_of_le (Nat.lt_add_of_pos_left (by decide)) (Nat.le_add_left _ _)
        rcases inductionHypothesis _ shorter behind rfl with ⟨leads, last, cut⟩
        refine ⟨before :: leads, last, ?_, List.forall_mem_cons.mpr ⟨uncut, cut.uncut⟩,
          cut.uncut_last⟩
        rw [same, cut.joined, joined_cons]

/-- The pieces behind the first one. -/
theorem behind {lead : List Char} (cut : CutInto template (lead :: leads) last) :
    CutInto (leads.flatMap (· ++ placeholder) ++ last) leads last :=
  ⟨rfl, fun _ member => cut.uncut _ (List.mem_cons_of_mem _ member), cut.uncut_last⟩

theorem cutAtPlaceholder_nil (cut : CutInto template [] last) :
    cutAtPlaceholder template = none := by
  rw [cut.joined]
  exact cutAtPlaceholder_eq_none cut.uncut_last

theorem cutAtPlaceholder_cons {lead : List Char} (cut : CutInto template (lead :: leads) last) :
    cutAtPlaceholder template = some (lead, leads.flatMap (· ++ placeholder) ++ last) := by
  rw [cut.joined, joined_cons]
  exact cutAtPlaceholder_append (cut.uncut _ List.mem_cons_self) _

/-- There is one way only to cut a template at every placeholder. -/
theorem unique (cut : CutInto template leads last) (again : CutInto template others final) :
    others = leads ∧ final = last := by
  induction leads generalizing template others with
  | nil =>
      cases others with
      | nil => exact ⟨rfl, again.joined.symm.trans cut.joined⟩
      | cons other rest =>
          cases again.cutAtPlaceholder_cons.symm.trans cut.cutAtPlaceholder_nil
  | cons lead leads inductionHypothesis =>
      cases others with
      | nil => cases again.cutAtPlaceholder_nil.symm.trans cut.cutAtPlaceholder_cons
      | cons other rest =>
          have same := Option.some_inj.mp
            (again.cutAtPlaceholder_cons.symm.trans cut.cutAtPlaceholder_cons)
          rcases Prod.mk.inj same with ⟨rfl, sameBehind⟩
          rcases inductionHypothesis cut.behind (sameBehind ▸ again.behind) with ⟨rfl, rfl⟩
          exact ⟨rfl, rfl⟩

end CutInto

/-! ## Backslashes in front of a placeholder -/

def finalBackslashes (text : List Char) : Nat :=
  (text.reverse.takeWhile (· = '\\')).length

def withoutBackslash (text : List Char) : List Char :=
  if finalBackslashes text = 0 then text else text.dropLast

theorem lead_eq (text : List Char) :
    lead text = if finalBackslashes text = 1 then .escaped (withoutBackslash text)
      else .fillable (withoutBackslash text) := by
  obtain ⟨reversed, rfl⟩ : ∃ reversed : List Char, text = reversed.reverse :=
    ⟨text.reverse, (List.reverse_reverse text).symm⟩
  unfold lead withoutBackslash finalBackslashes
  rw [List.reverse_reverse]
  rcases reversed with _ | ⟨last, _ | ⟨before, rest⟩⟩
  · rfl
  · by_cases slash : last = '\\' <;> simp [slash]
  · by_cases slash : last = '\\' <;> by_cases second : before = '\\' <;> simp [slash, second]

/-! ## Serving the cuts -/

/-- How many arguments the placeholders behind some pieces take. -/
def demand (leads : List (List Char)) : Nat :=
  leads.countP fun lead => finalBackslashes lead ≠ 1

/-- Some pieces, each with what is put in the place of the placeholder behind it: the placeholder
itself if it is literal, else the argument whose number is the demand of the pieces before. -/
def served (leads arguments : List (List Char)) : List Char :=
  (leads.mapIdx fun index lead => withoutBackslash lead ++
    if finalBackslashes lead = 1 then placeholder
    else arguments.getD (demand (leads.take index)) []).flatten

theorem fillChars_uncut {text : List Char} (uncut : ¬ placeholder <:+: text)
    (arguments : List (List Char)) : fillChars text arguments = text := by
  unfold fillChars
  split
  next => rfl
  next before behind cut =>
    rw [cutAtPlaceholder_eq_none uncut] at cut
    cases cut

theorem fillChars_append {before : List Char} (uncut : ¬ placeholder <:+: before)
    (behind : List Char) (arguments : List (List Char)) :
    fillChars (before ++ (placeholder ++ behind)) arguments =
      if finalBackslashes before = 1 then
        withoutBackslash before ++ (placeholder ++ fillChars behind arguments)
      else match arguments with
        | [] => before ++ (placeholder ++ behind)
        | argument :: others =>
            withoutBackslash before ++ (argument ++ fillChars behind others) := by
  rw [fillChars]
  split
  next cut =>
    rw [cutAtPlaceholder_append uncut] at cut
    cases cut
  next first second cut =>
    rw [cutAtPlaceholder_append uncut] at cut
    cases cut
    rw [lead_eq]
    by_cases single : finalBackslashes before = 1
    · rw [if_pos single, if_pos single]
      rfl
    · rw [if_neg single, if_neg single]
      cases arguments with
      | nil => rfl
      | cons argument others => exact List.append_assoc _ _ _

section Served

variable {lead : List Char} (leads arguments : List (List Char))

theorem demand_cons_escaped (single : finalBackslashes lead = 1) :
    demand (lead :: leads) = demand leads :=
  List.countP_cons_of_neg (by simp [single])

theorem demand_cons_fillable (other : finalBackslashes lead ≠ 1) :
    demand (lead :: leads) = demand leads + 1 :=
  List.countP_cons_of_pos (by simpa using other)

theorem served_cons_escaped (single : finalBackslashes lead = 1) :
    served (lead :: leads) arguments =
      withoutBackslash lead ++ (placeholder ++ served leads arguments) := by
  simp only [served, List.mapIdx_cons, List.flatten_cons, List.take_succ_cons,
    demand_cons_escaped _ single, if_pos single, List.append_assoc]

theorem served_cons_fillable (other : finalBackslashes lead ≠ 1) (argument : List Char) :
    served (lead :: leads) (argument :: arguments) =
      withoutBackslash lead ++ (argument ++ served leads arguments) := by
  simp only [served, List.mapIdx_cons, List.flatten_cons, List.take_succ_cons, List.take_zero,
    demand_cons_fillable _ other, if_neg other, List.getD_cons_succ, List.append_assoc]
  rfl

end Served

/-- Cuts for which there are arguments enough are served, whatever stands behind them. -/
theorem fillChars_served {leads : List (List Char)}
    (uncut : ∀ lead ∈ leads, ¬ placeholder <:+: lead) {arguments : List (List Char)}
    (enough : demand leads ≤ arguments.length) (behind : List Char) :
    fillChars (leads.flatMap (· ++ placeholder) ++ behind) arguments =
      served leads arguments ++ fillChars behind (arguments.drop (demand leads)) := by
  induction leads generalizing arguments with
  | nil => rfl
  | cons lead leads inductionHypothesis =>
      rcases List.forall_mem_cons.mp uncut with ⟨here, later⟩
      rw [joined_cons, fillChars_append here]
      by_cases single : finalBackslashes lead = 1
      · rw [demand_cons_escaped _ single] at enough ⊢
        rw [if_pos single, inductionHypothesis later enough, served_cons_escaped _ _ single]
        simp only [List.append_assoc]
      · rw [demand_cons_fillable _ single] at enough ⊢
        cases arguments with
        | nil => exact absurd enough (Nat.not_succ_le_zero _)
        | cons argument others =>
            rw [if_neg single, served_cons_fillable _ _ single, List.drop_succ_cons]
            simp only [inductionHypothesis later (Nat.le_of_succ_le_succ enough), List.append_assoc]

/-- A cut that finds no argument leaves the text as it is from its piece on. -/
theorem fillChars_unserved {lead : List Char} (uncut : ¬ placeholder <:+: lead)
    (other : finalBackslashes lead ≠ 1) (behind : List Char) :
    fillChars (lead ++ (placeholder ++ behind)) [] = lead ++ (placeholder ++ behind) := by
  rw [fillChars_append uncut, if_neg other]

/-- Cuts divide into those that are served and those from the first one on that finds no
argument. -/
theorem exists_divided (leads : List (List Char)) (count : Nat) :
    ∃ front left, leads = front ++ left ∧ demand front ≤ count ∧
      ∀ lead ∈ left.head?, finalBackslashes lead ≠ 1 ∧ demand front = count := by
  induction leads generalizing count with
  | nil => exact ⟨[], [], rfl, Nat.zero_le _, fun _ member => by cases member⟩
  | cons lead leads inductionHypothesis =>
      by_cases single : finalBackslashes lead = 1
      · rcases inductionHypothesis count with ⟨front, left, rfl, enough, stopped⟩
        refine ⟨lead :: front, left, rfl, ?_, ?_⟩
        · rwa [demand_cons_escaped _ single]
        · rwa [demand_cons_escaped _ single]
      · cases count with
        | zero =>
            refine ⟨[], lead :: leads, rfl, Nat.le_refl _, fun first member => ?_⟩
            cases member
            exact ⟨single, rfl⟩
        | succ count =>
            rcases inductionHypothesis count with ⟨front, left, rfl, enough, stopped⟩
            refine ⟨lead :: front, left, rfl, ?_, fun first member => ?_⟩
            · rw [demand_cons_fillable _ single]
              exact Nat.succ_le_succ enough
            · rw [demand_cons_fillable _ single, (stopped first member).2]
              exact ⟨(stopped first member).1, rfl⟩

theorem fillChars_divided {front left : List (List Char)}
    (uncut : ∀ lead ∈ front ++ left, ¬ placeholder <:+: lead) {arguments : List (List Char)}
    (enough : demand front ≤ arguments.length)
    (stopped : ∀ lead ∈ left.head?, finalBackslashes lead ≠ 1 ∧ demand front = arguments.length)
    {last : List Char} (final : left = [] → fillChars last (arguments.drop (demand front)) = last) :
    fillChars ((front ++ left).flatMap (· ++ placeholder) ++ last) arguments =
      served front arguments ++ (left.flatMap (· ++ placeholder) ++ last) := by
  rcases List.forall_mem_append.mp uncut with ⟨uncutFront, uncutLeft⟩
  rw [List.flatMap_append, List.append_assoc, fillChars_served uncutFront enough]
  cases left with
  | nil => rw [List.flatMap_nil, List.nil_append, final rfl]
  | cons lead rest =>
      rcases stopped lead rfl with ⟨other, exhausted⟩
      rw [exhausted, List.drop_length, joined_cons,
        fillChars_unserved (uncutLeft _ List.mem_cons_self) other]

theorem toList_fill_of_ne_nil (template : String) {arguments : List String}
    (given : arguments ≠ []) :
    (fill template arguments).toList =
      fillChars template.toList (arguments.map String.toList) := by
  unfold fill
  rw [if_neg (by simpa using given), String.toList_ofList]

/-- A template can be cut at its placeholders in one way.  Without arguments it is left as it is.
Otherwise the pieces divide into those for whose placeholders the arguments suffice and those from
the first one on for whose placeholder there is none; the former are served, the latter and the
last piece stand behind them as in the template. -/
theorem toList_fill (template : String) :
    ∃ leads last,
      (∀ others final, CutInto template.toList others final ↔ others = leads ∧ final = last) ∧
      fill template [] = template ∧
      ∀ arguments : List String, arguments ≠ [] →
        ∃ front left, leads = front ++ left ∧ demand front ≤ arguments.length ∧
          (∀ lead ∈ left.head?, finalBackslashes lead ≠ 1 ∧ demand front = arguments.length) ∧
          (fill template arguments).toList =
            served front (arguments.map String.toList) ++
              (left.flatMap (· ++ placeholder) ++ last) := by
  rcases CutInto.exists_leads template.toList with ⟨leads, last, cut⟩
  refine ⟨leads, last, fun others final => ⟨cut.unique, ?_⟩, rfl, fun arguments given => ?_⟩
  · rintro ⟨rfl, rfl⟩
    exact cut
  · rcases exists_divided leads arguments.length with ⟨front, left, rfl, enough, stopped⟩
    refine ⟨front, left, rfl, enough, stopped, ?_⟩
    rw [toList_fill_of_ne_nil template given, cut.joined]
    exact fillChars_divided cut.uncut (by rwa [List.length_map]) (by rwa [List.length_map])
      fun _ => fillChars_uncut cut.uncut_last _

/-! ## Literal placeholders -/

theorem finalBackslashes_concat (text : List Char) :
    finalBackslashes (text ++ ['\\']) = finalBackslashes text + 1 := by
  rw [finalBackslashes, List.reverse_concat, List.takeWhile_cons_of_pos (by decide)]
  rfl

theorem finalBackslashes_eq_zero {text : List Char} (other : ¬ ['\\'] <:+ text) :
    finalBackslashes text = 0 := by
  rcases List.eq_nil_or_concat text with rfl | ⟨front, final, rfl⟩
  · rfl
  · have ordinary : final ≠ '\\' := fun same => other ⟨front, by rw [same, List.concat_eq_append]⟩
    rw [finalBackslashes, List.concat_eq_append, List.reverse_concat,
      List.takeWhile_cons_of_neg (by simpa using ordinary)]
    rfl

theorem withoutBackslash_concat (text : List Char) :
    withoutBackslash (text ++ ['\\']) = text := by
  rw [withoutBackslash, if_neg (by rw [finalBackslashes_concat]; exact Nat.succ_ne_zero _),
    List.dropLast_concat]

theorem uncut_concat {text : List Char} (uncut : ¬ placeholder <:+: text) :
    ¬ placeholder <:+: text ++ ['\\'] := by
  intro inside
  rcases List.infix_concat_iff.mp inside with final | before
  · rcases final with ⟨front, same⟩
    have braces : front ++ placeholder = (front ++ ['\x7b']) ++ ['\x7d'] := by
      rw [List.append_assoc]
      rfl
    exact absurd (List.append_inj_right' (braces.symm.trans same) rfl) (by decide)
  · exact uncut before

/-- A placeholder behind exactly one backslash is literal if the arguments suffice for the
placeholders in front of it, and stays as it is written if they do not. -/
theorem fillChars_literal {front last : List Char} {leads : List (List Char)}
    (cut : CutInto front leads last) (single : ¬ ['\\'] <:+ front) (behind : List Char)
    (arguments : List (List Char)) :
    fillChars (front ++ '\\' :: (placeholder ++ behind)) arguments =
      if demand leads ≤ arguments.length then
        fillChars front arguments ++
          (placeholder ++ fillChars behind (arguments.drop (demand leads)))
      else fillChars front arguments ++ '\\' :: (placeholder ++ behind) := by
  have other : ¬ ['\\'] <:+ last := fun final =>
    single (final.trans (cut.joined ▸ List.suffix_append _ _))
  have ends : finalBackslashes (last ++ ['\\']) = 1 := by
    rw [finalBackslashes_concat, finalBackslashes_eq_zero other]
  rw [cut.joined, List.append_assoc]
  by_cases enough : demand leads ≤ arguments.length
  · have piece : last ++ '\\' :: (placeholder ++ behind) =
        (last ++ ['\\']) ++ (placeholder ++ behind) := by rw [List.append_assoc]; rfl
    rw [if_pos enough, fillChars_served cut.uncut enough, fillChars_served cut.uncut enough,
      fillChars_uncut cut.uncut_last, piece, fillChars_append (uncut_concat cut.uncut_last),
      if_pos ends, withoutBackslash_concat, List.append_assoc]
  · rcases exists_divided leads arguments.length with ⟨served, left, rfl, sufficient, stopped⟩
    have unreached (text : List Char) : left = [] →
        fillChars text (arguments.drop (demand served)) = text := by
      rintro rfl
      exact absurd (by rwa [List.append_nil]) enough
    rw [if_neg enough, fillChars_divided cut.uncut sufficient stopped (unreached _),
      fillChars_divided cut.uncut sufficient stopped (unreached _)]
    simp only [List.append_assoc]

/-- What becomes of a placeholder behind exactly one backslash.  It is shown as a placeholder,
without the backslash, if there is an argument at all and no placeholder in front of it is left
without one.  Otherwise it is shown with the backslash, and so is everything behind it. -/
theorem fill_literal {front : String} (single : ¬ ['\\'] <:+ front.toList) (behind : String)
    (arguments : List String) :
    ∃ leads last, CutInto front.toList leads last ∧
      fill (front ++ "\\\x7b\x7d" ++ behind) arguments =
        if arguments ≠ [] ∧ demand leads ≤ arguments.length then
          fill front arguments ++ "\x7b\x7d" ++ String.ofList (fillChars behind.toList
            ((arguments.map String.toList).drop (demand leads)))
        else fill front arguments ++ "\\\x7b\x7d" ++ behind := by
  rcases CutInto.exists_leads front.toList with ⟨leads, last, cut⟩
  refine ⟨leads, last, cut, ?_⟩
  by_cases given : arguments = []
  · subst given
    rfl
  · have written : (front ++ "\\\x7b\x7d" ++ behind).toList =
        front.toList ++ '\\' :: (placeholder ++ behind.toList) := by
      rw [String.toList_append, String.toList_append, List.append_assoc]
      rfl
    apply String.toList_injective
    rw [toList_fill_of_ne_nil _ given, written, fillChars_literal cut single, List.length_map]
    by_cases enough : demand leads ≤ arguments.length
    · rw [if_pos enough, if_pos ⟨given, enough⟩]
      simp only [String.toList_append, toList_fill_of_ne_nil _ given, String.toList_ofList,
        List.append_assoc]
      rfl
    · rw [if_neg enough, if_neg fun both => enough both.2, String.toList_append,
        String.toList_append, toList_fill_of_ne_nil _ given, List.append_assoc]
      rfl

/-- One argument is enough for the placeholder in front of a literal one, none is not. -/
theorem fill_literal_served :
    ¬ ['\\'] <:+ "to \x7b\x7d: set ".toList ∧
      ∀ arguments ∈ [["x"], []], ∃ leads last, CutInto "to \x7b\x7d: set ".toList leads last ∧
        fill ("to \x7b\x7d: set " ++ "\\\x7b\x7d" ++ "!") arguments =
          if arguments ≠ [] ∧ demand leads ≤ arguments.length then
            fill "to \x7b\x7d: set " arguments ++ "\x7b\x7d" ++
              String.ofList (fillChars "!".toList
                ((arguments.map String.toList).drop (demand leads)))
          else fill "to \x7b\x7d: set " arguments ++ "\\\x7b\x7d" ++ "!" :=
  ⟨by decide, fun arguments _ => fill_literal (by decide) "!" arguments⟩

/-- A literal placeholder keeps its backslash if no argument is given, and also behind a
placeholder that finds none. -/
theorem fill_literal_kept :
    fill "\\\x7b\x7d" ["x"] = "\x7b\x7d" ∧ fill "\\\x7b\x7d" [] = "\\\x7b\x7d" ∧
      fill "\x7b\x7d \x7b\x7d \\\x7b\x7d" ["x"] = "x \x7b\x7d \\\x7b\x7d" := by
  decide +kernel

end LogLayout.Message
