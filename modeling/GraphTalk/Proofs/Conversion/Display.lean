import GraphTalk.Proofs.Conversion.Composition
import GraphTalk.Proofs.Conversion.Inversion
import GraphTalk.Proofs.Utterance.Closest
import GraphTalk.Proofs.Utterance.Spans

/-!
# How entities are shown

An entity is shown by the span that mentions its label, else by the span that mentions the first of
its other labels which is mentioned at all, else by its label (`Shown`). With exact scores there is
nothing more to it (`display_shown_iff`).
-/

namespace GraphTalk.Conversion

open Knowledge Utterance

/-- The words that an entity with a label and other labels is shown by. -/
inductive Shown (mode : Mode) (spans : List String) (label : String) (others : List String) :
    String → Prop where
  /-- The mention of its label. -/
  | byLabel {span : String} (h : IsMention mode spans label span) :
      Shown mode spans label others span
  /-- The mention of the first other label that is mentioned, if the label is not. -/
  | byOther {before after : List String} {other span : String} (hlabel : Unmentioned spans label)
      (hothers : others = before ++ other :: after) (hbefore : ∀ o ∈ before, Unmentioned spans o)
      (h : IsMention mode spans other span) : Shown mode spans label others span
  /-- Its label, if no label is mentioned. -/
  | byItself (h : ∀ l ∈ label :: others, Unmentioned spans l) : Shown mode spans label others label

section

variable {mode : Mode} {spans others : List String} {label text : String}

lemma Shown.mem_or_eq (h : Shown mode spans label others text) : text ∈ spans ∨ text = label := by
  cases h with
  | byLabel h => exact .inl h.first.mem
  | byOther _ _ _ h => exact .inl h.first.mem
  | byItself => exact .inr rfl

/-- The mention of the first label that is mentioned. -/
def firstMention (mode : Mode) (spans labels : List String) : Option String :=
  labels.findSome? fun l => closestExact mode l spans

lemma firstMention_eq_none_iff {labels : List String} :
    firstMention mode spans labels = none ↔ ∀ l ∈ labels, Unmentioned spans l := by
  simp only [firstMention, List.findSome?_eq_none_iff, closestExact_eq_none_iff]

lemma firstMention_eq_some_iff {labels : List String} {span : String} :
    firstMention mode spans labels = some span ↔ ∃ before l after, labels = before ++ l :: after ∧
      IsMention mode spans l span ∧ ∀ b ∈ before, Unmentioned spans b := by
  simp only [firstMention, List.findSome?_eq_some_iff, closestExact_eq_some_iff,
    closestExact_eq_none_iff]

lemma firstMention_of_unmentioned (h : Unmentioned spans label) :
    firstMention mode spans (label :: others) = firstMention mode spans others := by
  rw [firstMention, List.findSome?_cons, closestExact_eq_none_iff.mpr h]
  rfl

/-- What is shown is the mention of the first label that is mentioned, or else the label. -/
lemma shown_iff : Shown mode spans label others text ↔
    (firstMention mode spans (label :: others)).getD label = text := by
  constructor
  · rintro (h | ⟨hlabel, hothers, hbefore, h⟩ | h)
    · have hfirst : firstMention mode spans (label :: others) = some text :=
        firstMention_eq_some_iff.mpr ⟨[], label, others, rfl, h, by simp⟩
      rw [hfirst, Option.getD_some]
    · have hfirst : firstMention mode spans others = some text :=
        firstMention_eq_some_iff.mpr ⟨_, _, _, hothers, h, hbefore⟩
      rw [firstMention_of_unmentioned hlabel, hfirst, Option.getD_some]
    · rw [firstMention_eq_none_iff.mpr h, Option.getD_none]
  · rintro rfl
    cases hfirst : firstMention mode spans (label :: others) with
    | none => exact .byItself (firstMention_eq_none_iff.mp hfirst)
    | some span =>
      obtain ⟨before, l, after, hlabels, hmention, hbefore⟩ := firstMention_eq_some_iff.mp hfirst
      cases before with
      | nil =>
        obtain ⟨rfl, -⟩ := List.cons.inj hlabels
        exact .byLabel hmention
      | cons b before =>
        obtain ⟨rfl, hothers⟩ := List.cons.inj hlabels
        obtain ⟨hlabel, hbefore⟩ := List.forall_mem_cons.mp hbefore
        exact .byOther hlabel hothers hbefore hmention

end

/-! ### What a conversion shows -/

section

variable {settings : Settings} {mode : Mode} (hmode : settings.mode = mode.name)
  (hclosest : settings.closest = closestExact) (spans : List String)

include hmode hclosest

lemma closestSpan_exact (t : String) :
    closestSpan settings spans (.text t) = .ok (closestExact mode t spans) := by
  simp only [closestSpan, hmode, mode.ofName?_name, hclosest]
  cases spans with
  | nil => rfl
  | cons span spans => rfl

lemma firstClosestSpan_exact (ts : List String) :
    firstClosestSpan settings spans (ts.map .text) = .ok (firstMention mode spans ts) := by
  induction ts with
  | nil => rfl
  | cons t ts ih =>
    rw [List.map_cons, firstClosestSpan, closestSpan_exact hmode hclosest, ih]
    simp only [firstMention, List.findSome?_cons]
    cases closestExact mode t spans <;> rfl

variable {label domain : String → Option String} {altLabels : String → List String}
  {isQuestion : Bool} {entity l : String}

lemma returns_display (hlabel : label entity = some l) :
    Returns (display ⟨settings, .pure label altLabels domain, spans, isQuestion⟩ entity)
      ((firstMention mode spans (l :: altLabels entity)).getD l) := by
  have hspan := closestSpan_exact hmode hclosest spans l
  have hothers := firstClosestSpan_exact hmode hclosest spans (altLabels entity)
  have hask : ∀ {α : Type} (a : α), (ask (pure (.ok a)) : ExceptT Failure Id α) = pure a :=
    fun _ => rfl
  simp only [display, Lookups.pure, hlabel, Option.map_some, hask, pure_bind, hspan]
  cases hmention : closestExact mode l spans with
  | some span =>
    have hfirst : firstMention mode spans (l :: altLabels entity) = some span := by
      rw [firstMention, List.findSome?_cons, hmention]
    rw [hfirst]
    rfl
  | none =>
    rw [firstMention_of_unmentioned (closestExact_eq_none_iff.mp hmention), ofExcept_ok, pure_bind]
    simp only [hothers, ofExcept_ok, pure_bind]
    cases firstMention mode spans (altLabels entity) <;> rfl

end

/-- Over a knowledge base that always has its answers at hand, with the spans of given utterances
and exact scores, an entity without a label is refused. An entity with a label is shown by exactly
one text, which is a span that is not empty or the label. -/
theorem display_shown_iff (schema : Schema) (mode : Mode) (label domain : String → Option String)
    (altLabels : String → List String) (keywords : List String) (isQuestion : Bool)
    (entity : String) :
    let spans := keywordSpans keywords
    let settings : Settings := { schema, mode := mode.name, closest := closestExact }
    let sc : Scope Id := ⟨settings, .pure label altLabels domain, spans, isQuestion⟩
    (label entity = none → Id.run (display sc entity).run = .error (.unresolvedLabel entity)) ∧
    ∀ l, label entity = some l → ∃ text, Returns (display sc entity) text ∧
      (text ∈ spans ∧ text ≠ "" ∨ text = l) ∧
      ∀ t, Shown mode spans l (altLabels entity) t ↔ t = text := by
  intro spans settings sc
  constructor
  · intro hlabel
    simp only [display, sc, Lookups.pure, hlabel]
    rfl
  · intro l hlabel
    have hshown : Shown mode spans l (altLabels entity) _ := shown_iff.mpr rfl
    refine ⟨_, ?_, ?_, fun t => shown_iff.trans eq_comm⟩
    · exact returns_display rfl rfl spans hlabel
    · exact hshown.mem_or_eq.imp_left fun h => ⟨h, ne_empty_of_mem_keywordSpans h⟩

/-- Whether a few words carry meaning. The characters of the list of words that carry none are taken
as they are, which spares evaluating how they are encoded. -/
private lemma mem_stopwords_examples : "the" ∈ stopwords ∧
    ∀ w ∈ ["uk", "britain", "united", "kingdom"], w ∉ stopwords := by
  have htoList : ∀ {s : String} {cs : List Char}, s = String.ofList cs → s.toList = cs := by
    rintro _ cs rfl
    exact String.toList_ofList
  unfold stopwords Text.words
  rw [htoList rfl]
  decide +kernel

private lemma stems_examples : stems "United Kingdom" = ["unit", "kingdom"] ∧
    stems "Britain" = ["britain"] ∧ stems "UK" = ["uk"] ∧ stems "the UK" = ["uk"] ∧
    stems "the" = [] := by
  obtain ⟨hthe, hmeaning⟩ := mem_stopwords_examples
  simp only [List.forall_mem_cons, List.not_mem_nil, false_implies, implies_true, and_true]
    at hmeaning
  obtain ⟨huk, hbritain, hunited, hkingdom⟩ := hmeaning
  refine ⟨?_, ?_, ?_, ?_, ?_⟩
  · rw [stems_of_words ["united", "kingdom"] ["united", "kingdom"] (by decide +kernel)
      (by simp [hunited, hkingdom])]
    decide +kernel
  · rw [stems_of_words ["britain"] ["britain"] (by decide +kernel) (by simp [hbritain])]
    decide +kernel
  · rw [stems_of_words ["uk"] ["uk"] (by decide +kernel) (by simp [huk])]
    decide +kernel
  · rw [stems_of_words ["the", "uk"] ["uk"] (by decide +kernel) (by simp [hthe, huk])]
    decide +kernel
  · rw [stems_of_words ["the"] [] (by decide +kernel) (by simp [hthe])]
    rfl

/-- A country is shown by the first span that is most similar to the first of its other names that
is mentioned. -/
theorem display_shown_other_label (schema : Schema) :
    let label : String → Option String := fun _ => some "United Kingdom"
    let settings : Settings := { schema, mode := Mode.f1.name, closest := closestExact }
    let sc : Scope Id := ⟨settings, .pure label (fun _ => ["Britain", "UK"]) (fun _ => none),
      keywordSpans ["the UK?"], true⟩
    Returns (display sc "Q145") "UK" := by
  intro label settings sc
  obtain ⟨hlabel, hbritain, huk, htheuk, hthe⟩ := stems_examples
  have hspans : keywordSpans ["the UK?"] = ["the", "UK", "the UK"] := by decide +kernel
  have hmention : IsMention .f1 ["the", "UK", "the UK"] "UK" "UK" := by
    refine ⟨⟨"UK", by simp, "uk", by simp [huk]⟩, ["the"], ["the UK"], rfl, ?_, ?_⟩
    · simp only [List.forall_mem_singleton, similarity, huk, hthe]
      decide +kernel
    · simp only [List.forall_mem_singleton, similarity, huk, htheuk]
      decide +kernel
  have hshown : Shown .f1 (keywordSpans ["the UK?"]) "United Kingdom" ["Britain", "UK"] "UK" := by
    rw [hspans]
    have hunmentioned : ∀ o ∈ ["Britain"], Unmentioned ["the", "UK", "the UK"] o := by
      simp [Unmentioned, SharesStem, hbritain, huk, htheuk, hthe]
    refine .byOther ?_ List.singleton_append.symm hunmentioned hmention
    simp [Unmentioned, SharesStem, hlabel, huk, htheuk, hthe]
  obtain ⟨text, hreturns, -, hunique⟩ := (display_shown_iff schema .f1 label (fun _ => none)
    (fun _ => ["Britain", "UK"]) ["the UK?"] true "Q145").2 "United Kingdom" rfl
  exact (hunique "UK").mp hshown ▸ hreturns

end GraphTalk.Conversion
