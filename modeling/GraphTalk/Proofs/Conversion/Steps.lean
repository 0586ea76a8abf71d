import Mathlib.Data.List.Nodup
import Mathlib.Logic.Relation
import GraphTalk.Proofs.Conversion.Inversion
import GraphTalk.Proofs.Sparql.Triples

/-!
# Folding step by step

A fold changes tables in steps. A step opens a table for a new subject, or updates the table of a
subject in one of a few ways, each of them on account of a triple that is folded.

`fold_steps` cuts every fold into such steps. What holds of all tables of a folded query is then
proved for a new table and for one update (`Steps.forall_tables`).
-/

namespace GraphTalk.Conversion

open Rdf Sparql Knowledge

/-! ### Tables of subjects -/

namespace Table

@[simp] lemma addFilter_subject (t : Table) (c : Condition) :
    (t.addFilter c).subject = t.subject := by
  unfold addFilter
  split <;> rfl

@[simp] lemma addFilter_name (t : Table) (c : Condition) : (t.addFilter c).name = t.name := by
  unfold addFilter
  split <;> rfl

@[simp] lemma addFilter_typed (t : Table) (c : Condition) : (t.addFilter c).typed = t.typed := by
  unfold addFilter
  split <;> rfl

@[simp] lemma addFilter_projections (t : Table) (c : Condition) :
    (t.addFilter c).projections = t.projections := by
  unfold addFilter
  split <;> rfl

@[simp] lemma addFilter_verifications (t : Table) (c : Condition) :
    (t.addFilter c).verifications = t.verifications := by
  unfold addFilter
  split <;> rfl

/-- Only the condition that is added can be new. -/
lemma mem_addFilter {t : Table} {c f : Condition} (h : f ∈ (t.addFilter c).filters) :
    f ∈ t.filters ∨ f = c := by
  unfold addFilter at h
  split at h
  · exact .inl h
  · simpa using h

lemma setName_eq_ok {t t' : Table} {name : String} (h : t.setName name = .ok t') :
    (t.typed = true → t.name = name) ∧ t' = { t with name, typed := true } := by
  unfold setName at h
  split at h
  · cases h
  · rename_i hn
    cases h
    simp only [Bool.and_eq_true, bne_iff_ne, ne_eq, not_and, not_not] at hn
    exact ⟨hn, rfl⟩

lemma addProjection_eq_ok {t t' : Table} {p : Projection} (h : t.addProjection p = .ok t') :
    t.verifications = [] ∧ t' = { t with projections := t.projections ++ [p] } := by
  unfold addProjection at h
  split at h
  · rename_i hv
    cases h
    exact ⟨List.isEmpty_iff.mp hv, rfl⟩
  · cases h

lemma addVerification_eq_ok {t t' : Table} {c : Condition} (h : t.addVerification c = .ok t') :
    t.projections = [] ∧ t' = { t with verifications := t.verifications ++ [c] } := by
  unfold addVerification at h
  split at h
  · rename_i hp
    cases h
    exact ⟨List.isEmpty_iff.mp hp, rfl⟩
  · cases h

end Table

namespace Tables

lemma find?_eq_some {ts : Tables} {s : String} {t : Table} (h : ts.find? s = some t) :
    t ∈ ts ∧ t.subject = s :=
  ⟨List.mem_of_find?_eq_some h, by simpa using List.find?_some h⟩

lemma find?_eq_none {ts : Tables} {s : String} :
    ts.find? s = none ↔ ∀ t ∈ ts, t.subject ≠ s := by
  simp [Tables.find?]

lemma find?_of_mem {ts : Tables} {t : Table} (hn : (ts.map Table.subject).Nodup) (h : t ∈ ts) :
    ts.find? t.subject = some t := by
  cases hf : ts.find? t.subject with
  | none => exact absurd rfl (find?_eq_none.mp hf t h)
  | some u =>
    obtain ⟨hu, hsub⟩ := find?_eq_some hf
    rw [List.inj_on_of_nodup_map hn hu h hsub]

@[simp] lemma subjects_put (ts : Tables) (t : Table) :
    (ts.put t).map Table.subject = ts.map Table.subject := by
  unfold Tables.put
  rw [List.map_map]
  apply List.map_congr_left
  intro u _
  by_cases hu : u.subject = t.subject
  · simp [hu]
  · simp [hu]

lemma mem_put {ts : Tables} {t u : Table} :
    u ∈ ts.put t ↔
      (u = t ∧ ∃ w ∈ ts, w.subject = t.subject) ∨ (u ∈ ts ∧ u.subject ≠ t.subject) := by
  simp only [Tables.put, List.mem_map, beq_iff_eq]
  constructor
  · rintro ⟨w, hw, rfl⟩
    by_cases hs : w.subject = t.subject
    · rw [if_pos hs]
      exact .inl ⟨rfl, w, hw, hs⟩
    · rw [if_neg hs]
      exact .inr ⟨hw, hs⟩
  · rintro (⟨rfl, w, hw, hs⟩ | ⟨hu, hs⟩)
    · exact ⟨w, hw, by simp [hs]⟩
    · exact ⟨u, hu, by simp [hs]⟩

lemma put_put {ts : Tables} {t t' : Table} (h : t'.subject = t.subject) :
    (ts.put t).put t' = ts.put t' := by
  unfold Tables.put
  rw [List.map_map]
  apply List.map_congr_left
  intro u _
  by_cases hu : u.subject = t.subject
  · simp [hu, h]
  · simp [hu, h]

/-- Only the table of one subject is replaced. -/
lemma find?_put {ts : Tables} {t : Table} {s : String} :
    (ts.put t).find? s = if t.subject = s then (ts.find? s).map (fun _ => t) else ts.find? s := by
  -- a table that is replaced has the subject of the new one
  have hsub : ((fun u : Table => u.subject == s) ∘
      fun u => if u.subject == t.subject then t else u) = fun u => u.subject == s := by
    funext u
    by_cases hu : u.subject = t.subject
    · simp [hu]
    · simp [hu]
  unfold Tables.find? Tables.put
  rw [List.find?_map, hsub]
  cases hf : List.find? (fun u => u.subject == s) ts with
  | none => simp
  | some u =>
    obtain rfl : u.subject = s := by simpa using List.find?_some hf
    by_cases hu : u.subject = t.subject
    · simp [hu]
    · simp [hu, Ne.symm hu]

end Tables

/-! ### Steps -/

/-- The conditions that folding adds to the table of a subject: those that a triple states, and the
disjunction of what the triples of two branches state. -/
inductive Derived (sc : Scope Id) (T : List Triple) (s : String) : Condition → Prop where
  | triple {tr : Triple} {c : Condition} (ht : tr ∈ T) (h : States sc tr s c) : Derived sc T s c
  | union {c d : Condition} {cs ds : List Condition}
      (hl : ∀ e ∈ c :: cs, ∃ tr ∈ T, States sc tr s e)
      (hr : ∀ e ∈ d :: ds, ∃ tr ∈ T, States sc tr s e) :
      Derived sc T s (.any [.conj c cs, .conj d ds])

/-- What folding triples can do to the table of a subject. -/
inductive Update (sc : Scope Id) (T : List Triple) : Table → Table → Prop where
  /-- The table is put back as it is. -/
  | same (t : Table) : Update sc T t t
  | identity {t : Table} {i : Condition} {tr : Triple} (ht : tr ∈ T)
      (hs : tr.subject.entity? = some t.subject) (hi : Returns (identity sc t.subject) i) :
      Update sc T t (t.addFilter i)
  | type {t t' : Table} {tr : Triple} {v name : String} (ht : tr ∈ T)
      (hs : tr.subject = .variable v) (hv : t.subject = "?" ++ v)
      (hp : tr.predicate.property? = some instanceOf) (ho : tr.object.isVariable = false)
      (hn : sc.settings.schema.domainTable? tr.object.entity? = some name)
      (h : t.setName name = .ok t') : Update sc T t t'
  | projection {t t' : Table} {tr : Triple} {p v field : String} (ht : tr ∈ T)
      (hs : subjectKey tr.subject = .ok t.subject) (hp : tr.predicate.property? = some p)
      (ho : tr.object = .variable v) (hf : sc.settings.schema.fieldName? p = some field)
      (h : t.addProjection ⟨v, field⟩ = .ok t') : Update sc T t t'
  | filter {t : Table} {c : Condition} (hc : Derived sc T t.subject c) :
      Update sc T t (t.addFilter c)
  | verification {t t' : Table} {c : Condition} (hq : sc.isQuestion = true)
      (hi : ∃ i, Returns (identity sc t.subject) i) (hc : Derived sc T t.subject c)
      (h : t.addVerification c = .ok t') : Update sc T t t'
  /-- A condition on groups bounds a field that a variable stands for. -/
  | bound {t : Table} {v field : String} (op : String) (n : Number)
      (hf : t.fieldFor? v = some field) :
      Update sc T t (t.addFilter (.aggregate "count" field op n))

/-- One step of folding triples into tables. -/
inductive Step (sc : Scope Id) (T : List Triple) (ts : Tables) : Tables → Prop where
  | new {s : String} {t : Table} (hs : ∃ tr ∈ T, subjectKey tr.subject = .ok s)
      (hf : ts.find? s = none) (h : Returns (newTable sc s) t) : Step sc T ts (ts ++ [t])
  | update {t t' : Table} (hmem : t ∈ ts) (h : Update sc T t t') : Step sc T ts (ts.put t')

/-- Any number of steps of folding triples into tables. -/
abbrev Steps (sc : Scope Id) (T : List Triple) : Tables → Tables → Prop :=
  Relation.ReflTransGen (Step sc T)

variable {sc : Scope Id} {T : List Triple} {ts ts' : Tables}

lemma Update.subject_eq {t t' : Table} (h : Update sc T t t') : t'.subject = t.subject := by
  cases h with
  | same => rfl
  | identity | filter | bound => simp
  | type _ _ _ _ _ _ h => simp [(Table.setName_eq_ok h).2]
  | projection _ _ _ _ _ h => simp [(Table.addProjection_eq_ok h).2]
  | verification _ _ _ h => simp [(Table.addVerification_eq_ok h).2]

/-- What holds of every new table and is kept by every update holds of all tables. -/
lemma Steps.forall_tables {P : Table → Prop}
    (hnew : ∀ s t, Returns (newTable sc s) t → P t)
    (hupdate : ∀ t t', Update sc T t t' → P t → P t')
    (h : Steps sc T ts ts') (hts : ∀ t ∈ ts, P t) : ∀ t ∈ ts', P t := by
  induction h with
  | refl => exact hts
  | tail _ hstep ih =>
    intro u hu
    cases hstep with
    | new _ _ hn =>
      rcases List.mem_append.mp hu with hu | hu
      · exact ih u hu
      · rw [List.mem_singleton] at hu
        exact hu ▸ hnew _ _ hn
    | update hmem hup =>
      rcases Tables.mem_put.mp hu with ⟨rfl, _⟩ | ⟨hu, _⟩
      · exact hupdate _ _ hup (ih _ hmem)
      · exact ih u hu

/-- A table that is made for a new subject is the only one of it. -/
lemma Tables.nodup_new {s : String} {t : Table} (hts : (ts.map Table.subject).Nodup)
    (hf : ts.find? s = none) (hn : Returns (newTable sc s) t) :
    ((ts ++ [t]).map Table.subject).Nodup := by
  obtain ⟨name, rfl⟩ := newTable_eq hn
  rw [List.map_append, List.nodup_append]
  refine ⟨hts, by simp, ?_⟩
  intro a ha b hb
  obtain ⟨u, hu, rfl⟩ := List.mem_map.mp ha
  obtain rfl : b = s := by simpa using hb
  exact Tables.find?_eq_none.mp hf u hu

/-- Every subject has one table. -/
lemma Steps.nodup (h : Steps sc T ts ts') (hts : (ts.map Table.subject).Nodup) :
    (ts'.map Table.subject).Nodup := by
  induction h with
  | refl => exact hts
  | tail _ hstep ih =>
    cases hstep with
    | new _ hf hn => exact Tables.nodup_new ih hf hn
    | update => rwa [Tables.subjects_put]

/-- Tables stay, and so do the fields that variables stand for in them. -/
lemma Steps.grows (h : Steps sc T ts ts') (hts : (ts.map Table.subject).Nodup) :
    ∀ t ∈ ts, ∃ t' ∈ ts', t'.subject = t.subject ∧ t.projections <+: t'.projections := by
  induction h with
  | refl => exact fun t ht => ⟨t, ht, rfl, List.prefix_rfl⟩
  | @tail ts₁ ts₂ hsteps hstep ih =>
    intro t ht
    obtain ⟨u, hu, hus, hup⟩ := ih t ht
    cases hstep with
    | new => exact ⟨u, List.mem_append_left _ hu, hus, hup⟩
    | @update w w' hw hww =>
      by_cases hsub : u.subject = w'.subject
      · -- the table that is updated is the one of this subject
        have huw : u = w :=
          List.inj_on_of_nodup_map (Steps.nodup hsteps hts) hu hw (hsub.trans hww.subject_eq)
        refine ⟨w', Tables.mem_put.mpr (.inl ⟨rfl, u, hu, hsub⟩), hsub ▸ hus, ?_⟩
        refine hup.trans ?_
        subst huw
        cases hww with
        | same => exact List.prefix_rfl
        | identity | filter | bound => simp
        | type _ _ _ _ _ _ h => simp [(Table.setName_eq_ok h).2]
        | projection _ _ _ _ _ h => simp [(Table.addProjection_eq_ok h).2]
        | verification _ _ _ h => simp [(Table.addVerification_eq_ok h).2]
      · exact ⟨u, Tables.mem_put.mpr (.inr ⟨hu, hsub⟩), hus, hup⟩

/-! ### Folds are steps -/

lemma openTable_steps {s : String} {t : Table} (hs : ∃ tr ∈ T, subjectKey tr.subject = .ok s)
    (h : Returns (openTable sc ts s) (ts', t)) :
    Steps sc T ts ts' ∧ t ∈ ts' ∧ t.subject = s := by
  rcases openTable_iff.mp h with ⟨hf, rfl⟩ | ⟨hf, hn, rfl⟩
  · exact ⟨.refl, Tables.find?_eq_some hf⟩
  · obtain ⟨name, rfl⟩ := newTable_eq hn
    exact ⟨.single (.new hs hf hn), by simp, rfl⟩

lemma Opened.key {tr : Triple} {t : Table} (h : Opened sc ts tr ts' t) :
    subjectKey tr.subject = .ok t.subject := by
  -- which triples are folded does not matter to the subject of the table
  have hs : ∀ {s : String} {t : Table}, Returns (openTable sc ts s) (ts', t) →
      subjectKey tr.subject = .ok s → t.subject = s := fun h hkey =>
    (openTable_steps ⟨tr, List.mem_singleton_self tr, hkey⟩ h).2.2
  cases h with
  | ofVariable hv h =>
    have hkey := subjectKey_iff.mpr (.inl ⟨_, hv, rfl⟩)
    rw [hs h hkey, hkey]
  | ofEntity he h hi =>
    have hkey := subjectKey_iff.mpr (.inr he)
    rw [Table.addFilter_subject, hs h hkey, hkey]

lemma Opened.subject_of_variable {tr : Triple} {t : Table} {v : String}
    (h : Opened sc ts tr ts' t) (hv : tr.subject = .variable v) : t.subject = "?" ++ v := by
  have hkey := h.key
  rw [hv, subjectKey, Except.ok.injEq] at hkey
  exact hkey.symm

lemma Opened.steps {tr : Triple} {t : Table} (ht : tr ∈ T) (h : Opened sc ts tr ts' t) :
    Steps sc T ts (ts'.put t) ∧ t ∈ ts'.put t := by
  cases h with
  | ofVariable hv h =>
    obtain ⟨hsteps, hmem, _⟩ := openTable_steps ⟨tr, ht, subjectKey_iff.mpr (.inl ⟨_, hv, rfl⟩)⟩ h
    exact ⟨hsteps.tail (.update hmem (.same t)), Tables.mem_put.mpr (.inl ⟨rfl, t, hmem, rfl⟩)⟩
  | @ofEntity e _ t i he h hi =>
    obtain ⟨hsteps, hmem, rfl⟩ := openTable_steps ⟨tr, ht, subjectKey_iff.mpr (.inr he)⟩ h
    exact ⟨hsteps.tail (.update hmem (.identity ht he hi)),
      Tables.mem_put.mpr (.inl ⟨rfl, t, hmem, by simp⟩)⟩

lemma Opened.mem_put {tr : Triple} {t t' : Table} (h : Opened sc ts tr ts' t)
    (ht : t'.subject = t.subject) : t' ∈ ts'.put t' := by
  rcases Tables.mem_put.mp (h.steps (List.mem_singleton_self tr)).2 with ⟨_, w, hw, hs⟩ | ⟨_, hne⟩
  · exact Tables.mem_put.mpr (.inl ⟨rfl, w, hw, hs.trans ht.symm⟩)
  · exact absurd rfl hne

/-- A step that follows the opening of a subject. -/
lemma Opened.steps_update {tr : Triple} {t t' : Table} (ht : tr ∈ T)
    (h : Opened sc ts tr ts' t) (hup : Update sc T t t') : Steps sc T ts (ts'.put t') := by
  obtain ⟨hsteps, hmem⟩ := h.steps ht
  have hput : (ts'.put t).put t' = ts'.put t' := Tables.put_put hup.subject_eq
  exact hput ▸ hsteps.tail (.update hmem hup)

/-- Where a condition that is left to be added comes from. What is asked for is asked of an
entity. -/
structure Grounded (sc : Scope Id) (T : List Triple) (a : Atom) : Prop where
  states : ∃ tr ∈ T, States sc tr a.subject a.condition
  asked : a.verification = true → sc.isQuestion = true ∧ ∃ i, Returns (identity sc a.subject) i

lemma TripleRule.steps {tr : Triple} {a : Option Atom} (ht : tr ∈ T)
    (h : TripleRule sc ts tr ts' a) : Steps sc T ts ts' ∧ ∀ b ∈ a, Grounded sc T b := by
  cases h with
  | projection hopen hp ho hf h =>
    exact ⟨hopen.steps_update ht (.projection ht hopen.key hp ho hf h), by simp⟩
  | @type v name ts₁ t t' hopen hp hs ho hn h =>
    exact ⟨hopen.steps_update ht (.type ht hs (hopen.subject_of_variable hs) hp ho hn h), by simp⟩
  | @condition s c ts₁ t hopen h =>
    refine ⟨(hopen.steps ht).1, ?_⟩
    intro b hb
    obtain rfl : _ = b := Option.some.inj hb
    refine ⟨⟨tr, ht, h⟩, ?_⟩
    intro hv
    simp only [Bool.and_eq_true, Bool.not_eq_true'] at hv
    refine ⟨hv.2, ?_⟩
    cases hopen with
    | ofVariable hvar _ => simp [hvar, Term.isVariable] at hv
    | @ofEntity e _ _ i he _ hi =>
      have hkey := h.key
      rw [subjectKey_iff.mpr (.inr he), Except.ok.injEq] at hkey
      exact ⟨i, hkey ▸ hi⟩

lemma foldTriples_steps {trs : List Triple} {as : List Atom} (hT : ∀ tr ∈ trs, tr ∈ T)
    (h : Returns (foldTriples sc ts trs) (ts', as)) :
    Steps sc T ts ts' ∧ ∀ a ∈ as, Grounded sc T a := by
  induction trs generalizing ts as with
  | nil =>
    obtain ⟨rfl, rfl⟩ := foldTriples_nil.mp h
    exact ⟨.refl, by simp⟩
  | cons tr trs ih =>
    obtain ⟨ts₁, a, as', hrule, hrest, rfl⟩ := foldTriples_cons h
    obtain ⟨hsteps, ha⟩ := hrule.steps (hT tr (by simp))
    obtain ⟨hsteps', has⟩ := ih (fun t ht => hT t (List.mem_cons_of_mem _ ht)) hrest
    refine ⟨hsteps.trans hsteps', ?_⟩
    intro b hb
    rcases List.mem_append.mp hb with hb | hb
    · exact ha b (by simpa using hb)
    · exact has b hb

lemma attach_steps {a : Atom} (hs : ∃ tr ∈ T, subjectKey tr.subject = .ok a.subject)
    (hc : Derived sc T a.subject a.condition)
    (hv : a.verification = true → sc.isQuestion = true ∧ ∃ i, Returns (identity sc a.subject) i)
    (h : Returns (attach sc ts a) ts') : Steps sc T ts ts' := by
  obtain ⟨ts₁, t, hopen, hadd⟩ := attach_iff.mp h
  obtain ⟨hsteps, hmem, hsub⟩ := openTable_steps hs hopen
  rw [← hsub] at hc hv
  rcases hadd with ⟨hver, t', ht', rfl⟩ | ⟨_, rfl⟩
  · exact hsteps.tail (.update hmem (.verification (hv hver).1 (hv hver).2 hc ht'))
  · exact hsteps.tail (.update hmem (.filter hc))

lemma attachAll_steps {as : List Atom} (has : ∀ a ∈ as, Grounded sc T a)
    (h : Returns (attachAll sc ts as) ts') : Steps sc T ts ts' := by
  induction as generalizing ts with
  | nil =>
    obtain rfl := attachAll_nil.mp h
    exact .refl
  | cons a as ih =>
    obtain ⟨ts₁, hattach, hrest⟩ := attachAll_cons.mp h
    obtain ⟨⟨tr, ht, hstates⟩, hv⟩ := has a (by simp)
    exact (attach_steps ⟨tr, ht, hstates.key⟩ (.triple ht hstates) hv hattach).trans
      (ih (fun b hb => has b (List.mem_cons_of_mem _ hb)) hrest)

lemma foldBasic_steps {trs : List Triple} (hT : ∀ tr ∈ trs, tr ∈ T)
    (h : Returns (foldBasic sc ts trs) ts') : Steps sc T ts ts' := by
  obtain ⟨ts₁, as, htriples, hattach⟩ := foldBasic_iff.mp h
  obtain ⟨hsteps, has⟩ := foldTriples_steps hT htriples
  exact hsteps.trans (attachAll_steps has hattach)

/-- All conditions of a branch are stated of one subject. -/
lemma branch_states {s : String} {a : Atom} {as : List Atom}
    (has : ∀ b ∈ a :: as, Grounded sc T b) (hs : ∀ b ∈ a :: as, b.subject = s) :
    ∀ e ∈ a.condition :: as.map Atom.condition, ∃ tr ∈ T, States sc tr s e := by
  intro e he
  rw [← List.map_cons] at he
  obtain ⟨b, hb, rfl⟩ := List.mem_map.mp he
  obtain ⟨tr, ht, hstates⟩ := (has b hb).states
  exact ⟨tr, ht, hs b hb ▸ hstates⟩

/-- The disjunction of the conditions of two branches is added in a step. -/
lemma attach_union_steps {a b : Atom} {as bs : List Atom}
    (has : ∀ d ∈ a :: as, Grounded sc T d) (hbs : ∀ d ∈ b :: bs, Grounded sc T d)
    (hsub : ∀ d ∈ as ++ b :: bs, d.subject = a.subject)
    (h : Returns (attach sc ts (unionAtom a as b bs)) ts') : Steps sc T ts ts' := by
  have hsubl : ∀ d ∈ a :: as, d.subject = a.subject := by
    intro d hd
    rcases List.mem_cons.mp hd with rfl | hd
    · rfl
    · exact hsub d (List.mem_append_left _ hd)
  have hsubr : ∀ d ∈ b :: bs, d.subject = a.subject := fun d hd =>
    hsub d (List.mem_append_right _ hd)
  obtain ⟨tr, ht, hstates⟩ := (has a (by simp)).states
  refine attach_steps (a := unionAtom a as b bs) ⟨tr, ht, hstates.key⟩
    (.union (branch_states has hsubl) (branch_states hbs hsubr)) ?_ h
  intro hv
  obtain ⟨d, hd, hdv⟩ := List.any_eq_true.mp hv
  have hds : d.subject = a.subject ∧ Grounded sc T d := by
    rcases List.mem_append.mp hd with hd | hd
    · exact ⟨hsubl d hd, has d hd⟩
    · exact ⟨hsubr d hd, hbs d hd⟩
  exact hds.1 ▸ hds.2.asked hdv

lemma foldBranches_steps {left right : List Triple} (hT : ∀ tr ∈ left ++ right, tr ∈ T)
    (h : Returns (foldBranches sc ts left right) ts') : Steps sc T ts ts' := by
  obtain ⟨ts₁, a, as, ts₂, b, bs, hl, hr, hsub, hattach⟩ := foldBranches_iff.mp h
  obtain ⟨hsteps, has⟩ := foldTriples_steps (fun t ht => hT t (List.mem_append_left _ ht)) hl
  obtain ⟨hsteps', hbs⟩ := foldTriples_steps (fun t ht => hT t (List.mem_append_right _ ht)) hr
  exact (hsteps.trans hsteps').trans (attach_union_steps has hbs hsub hattach)

lemma foldClause_steps {c : Clause} (hT : ∀ tr ∈ c.folded, tr ∈ T)
    (h : Returns (foldClause sc ts c) ts') : Steps sc T ts ts' := by
  cases c with
  | basic trs => exact foldBasic_steps (by simpa using hT) h
  | union bs =>
    rcases foldUnion_cases h with ⟨tr, hw, hbasic⟩ | ⟨hw, left, right, rfl, hbranches⟩
    · exact foldBasic_steps (by rwa [Clause.folded_widened hw] at hT) hbasic
    · exact foldBranches_steps (by rwa [Clause.folded_union hw] at hT) hbranches
  | filter e => exact absurd h returns_refuse

lemma foldClauses_steps {cs : List Clause} (hT : ∀ tr ∈ cs.flatMap Clause.folded, tr ∈ T)
    (h : Returns (foldClauses sc ts cs) ts') : Steps sc T ts ts' := by
  induction cs generalizing ts with
  | nil =>
    obtain rfl := foldClauses_nil.mp h
    exact .refl
  | cons c cs ih =>
    obtain ⟨ts₁, hc, hcs⟩ := foldClauses_cons.mp h
    rw [List.flatMap_cons] at hT
    exact (foldClause_steps (fun t ht => hT t (List.mem_append_left _ ht)) hc).trans
      (ih (fun t ht => hT t (List.mem_append_right _ ht)) hcs)

/-- Every subject has one table after clauses are folded. -/
lemma foldClauses_nodup {cs : List Clause} (h : Returns (foldClauses sc [] cs) ts) :
    (ts.map Table.subject).Nodup :=
  (foldClauses_steps (fun _ ht => ht) h).nodup List.nodup_nil

lemma foldHavings_steps {cs : List HavingCondition} (h : foldHavings ts cs = .ok ts') :
    Steps sc T ts ts' := by
  induction cs generalizing ts with
  | nil =>
    cases h
    exact .refl
  | cons c cs ih =>
    obtain ⟨ts₁, hc, hcs⟩ := foldHavings_cons.mp h
    obtain ⟨t, hmem, _, hbounds, rfl⟩ := foldHaving_eq_ok hc
    cases hbounds with
    | count _ _ _ _ _ hf => exact .head (.update hmem (.bound _ _ hf)) (ih hcs)

/-- A query is folded by steps, each on account of one of its triples. -/
theorem fold_steps {settings : Settings} {lookups : Lookups Id} {q : Query}
    {keywords : List String} {c : Context} (h : Returns (fold settings lookups q keywords) c) :
    Steps (queryScope settings lookups q keywords) q.folded [] c.tables := by
  obtain ⟨ts, ts', hclauses, hgroups, rfl⟩ := fold_iff.mp h
  exact (foldClauses_steps (fun t ht => ht) hclauses).trans
    (foldHavings_steps (foldGroups_eq_ok hgroups))

end GraphTalk.Conversion
