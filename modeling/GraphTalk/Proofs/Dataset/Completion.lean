import GraphTalk.Proofs.Conversion.Provenance
import GraphTalk.Proofs.Dataset.Pointwise

/-!
# Runs that go through to the end

A dataset is regular if its parts are objects and lists where such are looked for, and its wordings,
keywords and queries are texts, null or missing. The questions of a regular dataset are all read. A
run over them goes through to the end, with a row or a record for each of them, unless a question
whose wording is null is converted (`run_completes_iff`): its program is at hand, but there is no
text to be written beside it, and the failure is not caught. This takes keywords of its own, since a
wording that is null is no keyword.
-/

namespace GraphTalk

/-! ### Members that may be missing -/

namespace Document

/-- A document is an object, and the member of a name is of a sort if there is one. -/
def Optional (name : String) (P : Document → Prop) (d : Document) : Prop :=
  ∃ v, d.member? name = .ok v ∧ ∀ w ∈ v, P w

variable {name : String} {P : Document → Prop} {d default : Document}

lemma Optional.memberD (h : d.Optional name P) (hdefault : P default) :
    ∃ w, d.memberD name default = .ok w ∧ P w := by
  obtain ⟨v, hv, hP⟩ := h
  refine ⟨v.getD default, by rw [Document.memberD, hv]; rfl, ?_⟩
  cases v with
  | none => exact hdefault
  | some w => exact hP w rfl

/-- Any member of an object can be looked for. -/
lemma Optional.exists_memberD (h : d.Optional name P) (name' : String) (default : Document) :
    ∃ w, d.memberD name' default = .ok w := by
  obtain ⟨v, hv, -⟩ := h
  cases d with
  | object ms => exact ⟨_, rfl⟩
  | _ => cases hv

lemma optional_empty : (object []).Optional name P := ⟨none, rfl, by simp⟩

lemma Optional.orElse (h : d.Optional name P) : (d.orElse (.object [])).Optional name P := by
  cases d with
  | object ms =>
    cases ms with
    | nil => exact h
    | cons m ms => exact h
  | _ => exact absurd h fun ⟨_, hv, _⟩ => by cases hv

/-- A text or null. -/
inductive IsTextOrNull : Document → Prop where
  | text (s : String) : IsTextOrNull (.text s)
  | null : IsTextOrNull .null

/-- A list of documents of a sort, or null. -/
inductive IsListOrNull (P : Document → Prop) : Document → Prop where
  | array {items : List Document} (h : ∀ item ∈ items, P item) : IsListOrNull P (.array items)
  | null : IsListOrNull P .null

lemma IsListOrNull.parts (h : d.IsListOrNull P) :
    ∃ items, (d.orElse (.array [])).parts = .ok items ∧ ∀ item ∈ items, P item := by
  cases h with
  | @array items h =>
    refine ⟨items, ?_, h⟩
    cases items <;> rfl
  | null => exact ⟨[], rfl, by simp⟩

end Document

namespace Dataset

open Conversion Knowledge Document

/-! ### Regular datasets -/

/-- A wording of a question in some language. -/
structure IsWording (d : Document) : Prop where
  string : d.Optional "string" IsTextOrNull
  keywords : d.Optional "keywords" IsTextOrNull

/-- A question has wordings and a query. -/
structure IsQuestion (d : Document) : Prop where
  question : d.Optional "question" (IsListOrNull IsWording)
  query : d.Optional "query" fun q => q = .null ∨ q.Optional "sparql" IsTextOrNull

/-- A dataset is an object with a list of questions. -/
def IsDataset (d : Document) (questions : List Document) : Prop :=
  d.member? "questions" = .ok (some (.array questions)) ∧ ∀ q ∈ questions, IsQuestion q

/-- The parts of an example are texts or null. Its keywords are texts, or else its wording. -/
structure Example.IsRegular (e : Example) : Prop where
  utterance : IsTextOrNull e.utterance
  sparql : IsTextOrNull e.sparql
  keywords : (∃ texts : List String, e.keywords = texts.map .text) ∨ e.keywords = [e.utterance]

/-! ### Reading -/

variable {d q w u : Document} {ws qs : List Document} {e : Example} {es : List Example}

lemma isWording_empty : IsWording (.object []) := ⟨optional_empty, optional_empty⟩

lemma exists_firstEnglish (h : ∀ w ∈ ws, IsWording w) :
    ∃ w, firstEnglish ws = .ok w ∧ IsWording w := by
  induction ws with
  | nil => exact ⟨_, rfl, isWording_empty⟩
  | cons w ws ih =>
    obtain ⟨hw, hws⟩ := List.forall_mem_cons.mp h
    obtain ⟨language, hlanguage⟩ := hw.string.exists_memberD "language" .null
    simp only [firstEnglish, hlanguage, bind, Except.bind]
    split
    · exact ⟨w, rfl, hw⟩
    · exact ih hws

lemma IsQuestion.exists_english (h : IsQuestion q) : ∃ w, english q = .ok w ∧ IsWording w := by
  obtain ⟨v, hv, hlist⟩ := h.question.memberD .null
  obtain ⟨ws, hws, hwordings⟩ := hlist.parts
  simp only [english, hv, hws, bind, Except.bind]
  exact exists_firstEnglish hwordings

lemma IsWording.exists_keywordsOf (h : IsWording w) (u : Document) :
    ∃ ks, keywordsOf w u = .ok ks ∧ ((∃ texts : List String, ks = texts.map .text) ∨ ks = [u]) := by
  obtain ⟨raw, hraw, hshape⟩ := h.keywords.memberD .null
  simp only [keywordsOf, hraw, bind, Except.bind]
  cases hshape with
  | null => exact ⟨[u], rfl, .inr rfl⟩
  | text s =>
    split
    · exact ⟨_, rfl, .inl ⟨_, rfl⟩⟩
    · exact ⟨[u], rfl, .inr rfl⟩

/-- A question is read as a regular example. -/
lemma IsQuestion.exists_ofQuestion (h : IsQuestion q) :
    ∃ e, Example.ofQuestion q = .ok e ∧ e.IsRegular := by
  obtain ⟨w, hw, hwording⟩ := h.exists_english
  obtain ⟨u, hu, hutterance⟩ := hwording.string.memberD (.text "")
  obtain ⟨ks, hks, hkeywords⟩ := hwording.exists_keywordsOf u
  obtain ⟨id, hid⟩ := h.query.exists_memberD "id" .null
  obtain ⟨query, hquery, hshape⟩ := h.query.memberD (.inl rfl)
  have hsparql : (query.orElse (.object [])).Optional "sparql" IsTextOrNull := by
    rcases hshape with rfl | hshape
    · exact optional_empty
    · exact hshape.orElse
  obtain ⟨sparql, hsparql, htext⟩ := hsparql.memberD (.text "")
  refine ⟨{ id := id.plain, utterance := u, sparql, keywords := ks }, ?_, hutterance, htext,
    hkeywords⟩
  simp only [Example.ofQuestion, hw, hu, hks, hid, hquery, hsparql, bind, Except.bind]
  rfl

/-- The questions of a regular dataset are read one by one. -/
lemma IsDataset.exists_examples (h : IsDataset d qs) :
    ∃ es, examples d = .ok es ∧ List.Forall₂ (fun q e => Example.ofQuestion q = .ok e) qs es ∧
      ∀ e ∈ es, e.IsRegular := by
  obtain ⟨es, hes⟩ := exists_forall₂_iff.mpr fun q hq => (h.2 q hq).exists_ofQuestion
  have hread : List.Forall₂ (fun q e => Example.ofQuestion q = .ok e) qs es :=
    hes.imp fun _ _ hqe => hqe.1
  refine ⟨es, ?_, hread, fun e he => ?_⟩
  · rw [examples, memberD, h.1]
    exact mapM_eq_ok_iff.mpr hread
  · obtain ⟨q, -, hqe⟩ := exists_of_forall₂_right hes he
    exact hqe.2

/-! ### Attempts that fail -/

section

variable {S : Type} {settings : Settings} {source : Source (StateM S)} {s : S}

/-- There is no program if a keyword is no text, whatever the query is. -/
lemma program_of_foreign_keywords (settings : Settings) (lookups : Lookups (StateM S))
    (h : ∀ ks, e.keywords.mapM asText ≠ .ok ks) :
    ∃ f, (program settings lookups e).run = pure (.error f) := by
  unfold program
  cases e.sparql with
  | text sparql =>
    simp only [readQuery]
    -- the query is read first, and may be refused before the keywords are looked at
    cases Sparql.Query.parse Sparql.defaultNamespaces sparql with
    | error reason => exact ⟨_, rfl⟩
    | ok q =>
      cases hks : e.keywords.mapM asText with
      | ok ks => exact absurd hks (h ks)
      | error f => exact ⟨.notText, rfl⟩
  | _ => exact ⟨.notText, rfl⟩

/-- A wording that is null is no keyword, so that nothing is made of it. -/
lemma attempt_of_keywords_null (h : e.keywords = [.null]) :
    ∃ f, ((attempt settings source e).run s).1 = .error f := by
  have hforeign : ∀ ks, e.keywords.mapM asText ≠ .ok ks := by
    rw [h]
    intro ks hks
    cases hks
  obtain ⟨f, hf⟩ := program_of_foreign_keywords settings source.lookups hforeign
  rw [attempt, hf]
  exact ⟨_, rfl⟩

/-! ### Runs -/

/-- The outcome that an example is settled with is one of it. -/
lemma isOf_of_settle {r : Attempt} {o : Outcome} (h : settle e r = .ok o) : o.IsOf e := by
  cases r with
  | error f =>
    cases h
    exact ⟨rfl, rfl, rfl⟩
  | ok p =>
    obtain ⟨u, hu, rfl⟩ := settle_ok_eq_ok_iff.mp h
    exact ⟨rfl, u, hu, rfl⟩

/-- The questions of a regular dataset are read as examples, one for each. A run over them goes
through to the end exactly if no example whose wording is null is converted, and then each has a row
or a record. It does so if no wording that is null comes with keywords. -/
theorem run_completes_iff {d : Document} {qs : List Document} (h : IsDataset d qs) :
    ∃ es, examples d = .ok es ∧ List.Forall₂ (fun q e => Example.ofQuestion q = .ok e) qs es ∧
      ∀ {S : Type} (settings : Settings) (source : Source (StateM S)) (s : S),
        let result := ((convertAll settings source es).run s).1
        ((∃ os, result = .ok os) ↔
          ∀ x ∈ attempts settings source s es, x.1.utterance = .null → ∃ f, x.2 = .error f) ∧
        (∀ os, result = .ok os → List.Forall₂ (fun e o => o.IsOf e) es os) ∧
        ((∀ e ∈ es, e.utterance = .null → e.keywords = [.null]) → ∃ os, result = .ok os) := by
  obtain ⟨es, hexamples, hread, hregular⟩ := h.exists_examples
  refine ⟨es, hexamples, hread, fun settings source s => ?_⟩
  intro result
  have hresult : result = settleAll (attempts settings source s es) := convertAll_run
  have hcompletes : (∃ os, result = .ok os) ↔
      ∀ x ∈ attempts settings source s es, x.1.utterance = .null → ∃ f, x.2 = .error f := by
    rw [hresult, exists_settleAll_iff]
    refine forall₂_congr fun x hx => ?_
    have hutterance := (hregular x.1 (exists_of_mem_attempts hx).1).utterance
    generalize x.1.utterance = u at hutterance
    cases hutterance with
    | text u => simp
    | null => simp
  refine ⟨hcompletes, fun os hos => ?_, fun hkeywords => hcompletes.mpr fun x hx hnull => ?_⟩
  · rw [hresult, settleAll_eq_ok_iff] at hos
    rw [← map_fst_attempts settings source s es, List.forall₂_map_left_iff]
    exact hos.imp fun _ _ => isOf_of_settle
  · obtain ⟨he, s', hattempt⟩ := exists_of_mem_attempts hx
    rw [hattempt]
    exact attempt_of_keywords_null (hkeywords x.1 he hnull)

end

namespace Atlas

open Conversion.Atlas

/-- A question in English. -/
def question (wording : List (String × Document)) (sparql : Document) : Document :=
  .object [("id", .int 1), ("question", .array [.object (("language", .text "en") :: wording)]),
    ("query", .object [("sparql", sparql)])]

lemma isQuestion_question {wording : List (String × Document)} {sparql : Document}
    (hwording : IsWording (.object (("language", .text "en") :: wording)))
    (hsparql : sparql.IsTextOrNull) : IsQuestion (question wording sparql) := by
  refine ⟨⟨_, rfl, ?_⟩, ⟨_, rfl, ?_⟩⟩
  · rintro _ ⟨⟩
    exact .array (List.forall_mem_singleton.mpr hwording)
  · rintro _ ⟨⟩
    refine .inr ⟨_, rfl, ?_⟩
    rintro _ ⟨⟩
    exact hsparql

/-- A question whose wording is null, and one without anything. -/
def wordless : List Document :=
  [question [("string", .null)] (.text "SELECT ?x WHERE { ?x wdt:P31 wd:Q6256 }"),
    .object [("question", .null)]]

/-- Questions without wordings are dropped. -/
theorem run_completes_wordless :
    IsDataset (.object [("questions", .array wordless)]) wordless ∧
      ∃ es, examples (.object [("questions", .array wordless)]) = .ok es ∧
        ∃ os, ((convertAll settings source es).run ()).1 = .ok os ∧
          List.Forall₂ (fun e o => o.IsOf e) es os := by
  have hregular : IsDataset (.object [("questions", .array wordless)]) wordless := by
    refine ⟨rfl, List.forall_mem_cons.mpr ⟨?_, List.forall_mem_singleton.mpr ?_⟩⟩
    · exact isQuestion_question
        ⟨⟨_, rfl, by rintro _ ⟨⟩; exact .null⟩, ⟨_, rfl, by rintro _ ⟨⟩⟩⟩ (.text _)
    · exact ⟨⟨_, rfl, by rintro _ ⟨⟩; exact .null⟩, ⟨_, rfl, by rintro _ ⟨⟩⟩⟩
  obtain ⟨es, hexamples, -, hruns⟩ := run_completes_iff hregular
  obtain ⟨-, hisOf, hcompletes⟩ := hruns settings source ()
  have hkeywords : ∀ e ∈ es, e.utterance = .null → e.keywords = [.null] := by
    -- what the questions are read as is found by computation
    cases hexamples
    simp
  obtain ⟨os, hos⟩ := hcompletes hkeywords
  exact ⟨hregular, es, hexamples, os, hos, hisOf os hos⟩

/-- A question for all countries that has keywords, and null as its wording. -/
def unworded : Document :=
  question [("string", .null), ("keywords", .text "countries")]
    (.text "SELECT ?x WHERE { ?x wdt:P31 wd:Q6256 }")

/-- The run breaks off at a question that is converted and has no wording. -/
theorem run_breaks_off_unworded :
    IsDataset (.object [("questions", .array [unworded])]) [unworded] ∧
      examples (.object [("questions", .array [unworded])]) = .ok [countries .null] ∧
      ((convertAll settings source [countries .null]).run ()).1 = .error .wrongKind := by
  refine ⟨⟨rfl, List.forall_mem_singleton.mpr ?_⟩, ?_, ?_⟩
  · exact isQuestion_question ⟨⟨_, rfl, by rintro _ ⟨⟩; exact .null⟩,
      ⟨_, rfl, by rintro _ ⟨⟩; exact .text _⟩⟩ (.text _)
  · cbv
  · rw [convertAll_run, attempts_countries]
    rfl

end Atlas

end Dataset

end GraphTalk
