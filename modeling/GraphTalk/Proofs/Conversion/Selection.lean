import GraphTalk.Proofs.Conversion.Atlas
import GraphTalk.Proofs.Conversion.Steps

/-!
# What a selection keeps

The program of a selection is read off one table, the only one of which the query asks for
something. Its conjuncts are the filters of that table and it invokes that table.

So nothing is lost when all triples have one subject. In general constraints are lost, namely those
of the tables that nothing is asked of: `select_keeps_all_iff`.
-/

namespace GraphTalk

/-- The conditions that a condition is the conjunction of. -/
def Condition.conjuncts : Condition → List Condition
  | .all cs => cs
  | c => [c]

/-- The conjunction of conditions that are no conjunctions is one of them all. -/
lemma Condition.conjuncts_conj {c : Condition} (cs : List Condition) (h : c.conjuncts = [c]) :
    (Condition.conj c cs).conjuncts = c :: cs := by
  unfold Condition.conj
  split
  · rename_i hcs
    rw [h, List.isEmpty_iff.mp hcs]
  · rfl

namespace TableExpression

/-- The table that an expression invokes. -/
def source : TableExpression → String
  | .invocation domain _ => domain
  | .filter e _ => e.source
  | .projection e _ => e.source
  | .aggregation e _ _ => e.source
  | .question e _ => e.source
  | .sort e _ _ => e.source
  | .index e _ => e.source

/-- The conjuncts of the filters of an expression. -/
def conjuncts : TableExpression → List Condition
  | .invocation _ _ => []
  | .filter e c => e.conjuncts ++ c.conjuncts
  | .projection e _ => e.conjuncts
  | .aggregation e _ _ => e.conjuncts
  | .question e _ => e.conjuncts
  | .sort e _ _ => e.conjuncts
  | .index e _ => e.conjuncts

end TableExpression

namespace Conversion

open Rdf Sparql Knowledge

/-! ### Filters are no conjunctions -/

variable {sc : Scope Id} {T : List Triple}

lemma States.conjuncts_eq {tr : Triple} {s : String} {c : Condition} (h : States sc tr s c) :
    c.conjuncts = [c] := by
  obtain ⟨p, _, hc⟩ := h.condition
  obtain ⟨f, v, _, _, rfl⟩ := atom_iff.mp hc
  rfl

lemma Update.filters_conjuncts {t t' : Table} (h : Update sc T t t')
    (ht : ∀ f ∈ t.filters, f.conjuncts = [f]) : ∀ f ∈ t'.filters, f.conjuncts = [f] := by
  intro f hf
  cases h with
  | same => exact ht f hf
  | identity _ _ hi =>
    obtain ⟨d, _, rfl⟩ := identity_iff.mp hi
    rcases Table.mem_addFilter hf with hf | rfl
    · exact ht f hf
    · rfl
  | type _ _ _ _ _ _ h =>
    rw [(Table.setName_eq_ok h).2] at hf
    exact ht f hf
  | projection _ _ _ _ _ h =>
    rw [(Table.addProjection_eq_ok h).2] at hf
    exact ht f hf
  | filter hc =>
    rcases Table.mem_addFilter hf with hf | rfl
    · exact ht f hf
    · cases hc with
      | triple _ hstates => exact hstates.conjuncts_eq
      | union => rfl
  | verification _ _ _ h =>
    rw [(Table.addVerification_eq_ok h).2] at hf
    exact ht f hf
  | bound =>
    rcases Table.mem_addFilter hf with hf | rfl
    · exact ht f hf
    · rfl

/-- No filter of a folded table is a conjunction. -/
lemma Steps.filters_conjuncts {ts : Tables} (h : Steps sc T [] ts) :
    ∀ t ∈ ts, ∀ f ∈ t.filters, f.conjuncts = [f] := by
  refine h.forall_tables (P := fun t => ∀ f ∈ t.filters, f.conjuncts = [f]) ?_
    (fun _ _ hup => hup.filters_conjuncts) (by simp)
  intro s t hnew
  obtain ⟨name, rfl⟩ := newTable_eq hnew
  simp

/-! ### The table that is asked for -/

lemma single_eq_ok {ts : List Table} {t : Table} (h : single ts = .ok t) : ts = [t] := by
  unfold single at h
  split at h
  · cases h
  · cases h
    rfl
  · cases h

lemma generateSelect_eq_ok {ts : Tables} {q : Query} {e : TableExpression}
    (h : generateSelect ts q = .ok e) :
    ∃ t, outputs (selectedVariables q) ts = [t] ∧ generateFrom t q = .ok e := by
  unfold generateSelect at h
  split at h
  · cases h
  · split at h
    · cases h
    · split at h
      · cases h
      · rename_i t ht
        exact ⟨t, single_eq_ok ht, h⟩

lemma generate_select {c : Context} {q : Query} {p : Program} (hq : q.kind = .select)
    (h : generate c q = .ok p) :
    ∃ t, outputs (selectedVariables q) c.tables = [t] ∧ generateFrom t q = .ok p.statement := by
  have hask : q.isQuestion = false := by simp [Query.isQuestion, hq]
  simp only [generate, hask, Bool.false_eq_true, if_false] at h
  cases he : generateSelect c.tables q with
  | error f => simp [he, Except.map] at h
  | ok e =>
    simp only [he, Except.map, Except.ok.injEq] at h
    exact h ▸ generateSelect_eq_ok he

/-- Something is asked of one table only. -/
lemma outputFields_ne_nil_iff {selected : List String} {ts : Tables} {t : Table}
    (h : outputs selected ts = [t]) :
    t ∈ ts ∧ ∀ u ∈ ts, outputFields selected u ≠ [] ↔ u = t := by
  have hmem : ∀ u, u ∈ outputs selected ts ↔ u ∈ ts ∧ outputFields selected u ≠ [] := by
    intro u
    simp [outputs]
  have ht : t ∈ ts ∧ outputFields selected t ≠ [] := (hmem t).mp (by simp [h])
  refine ⟨ht.1, fun u hu => ⟨fun hne => ?_, ?_⟩⟩
  · simpa [h] using (hmem u).mpr ⟨hu, hne⟩
  · rintro rfl
    exact ht.2

/-! ### What is read off it -/

lemma ordered_layers {t : Table} {q : Query} {e e' : TableExpression}
    (h : ordered t q e = .ok e') : e'.source = e.source ∧ e'.conjuncts = e.conjuncts := by
  unfold ordered at h
  split at h
  · cases h
    exact ⟨rfl, rfl⟩
  · split at h
    · cases h
      exact ⟨rfl, rfl⟩
    · cases h
  · cases h

lemma filtered_layers {t : Table} (ht : ∀ f ∈ t.filters, f.conjuncts = [f]) :
    (filtered t (baseTable t.name)).source = t.name ∧
      (filtered t (baseTable t.name)).conjuncts = t.filters := by
  unfold filtered
  split
  · rename_i hf
    rw [hf]
    exact ⟨rfl, rfl⟩
  · rename_i f fs hf
    have hconj := Condition.conjuncts_conj fs (ht f (by simp [hf]))
    rw [hf, ← hconj]
    exact ⟨rfl, rfl⟩

/-- Projection, order, aggregate and limit leave the table and the filters as they are. -/
lemma generateFrom_layers {t : Table} {q : Query} {e : TableExpression}
    (ht : ∀ f ∈ t.filters, f.conjuncts = [f]) (h : generateFrom t q = .ok e) :
    e.source = t.name ∧ e.conjuncts = t.filters := by
  obtain ⟨hsource, hconj⟩ := filtered_layers ht
  rw [← hsource, ← hconj]
  unfold generateFrom at h
  simp only at h
  split at h
  · cases h
  · rename_i e₁ hordered
    obtain ⟨hs, hc⟩ := ordered_layers hordered
    -- a projection may stand around the filter
    have hproj : ∀ (b : Bool) (e : TableExpression) (fields : List String),
        (if b = true then e.projection fields else e).source = e.source ∧
          (if b = true then e.projection fields else e).conjuncts = e.conjuncts := by
      intro b e fields
      cases b <;> exact ⟨rfl, rfl⟩
    rw [(hproj _ _ _).1] at hs
    rw [(hproj _ _ _).2] at hc
    rw [← hs, ← hc]
    cases h
    split <;> split <;> exact ⟨rfl, rfl⟩

/-! ### What is lost -/

/-- Nothing is lost: every filter of every table is a conjunct of the expression, and a table that
the query gives a type to is the one that the expression is read off. -/
def KeepsAll (ts : Tables) (t : Table) (e : TableExpression) : Prop :=
  ∀ u ∈ ts, (∀ f ∈ u.filters, f ∈ e.conjuncts) ∧ (u.typed = true → u = t)

/-- Every table belongs to the subject of a triple that is folded. -/
lemma Steps.subject_key {ts : Tables} (h : Steps sc T [] ts) :
    ∀ t ∈ ts, ∃ tr ∈ T, subjectKey tr.subject = .ok t.subject := by
  induction h with
  | refl => simp
  | tail _ hstep ih =>
    intro u hu
    cases hstep with
    | new hs _ hn =>
      obtain ⟨name, rfl⟩ := newTable_eq hn
      rcases List.mem_append.mp hu with hu | hu
      · exact ih u hu
      · rw [List.mem_singleton] at hu
        exact hu ▸ hs
    | update hmem hup =>
      rcases Tables.mem_put.mp hu with ⟨rfl, _⟩ | ⟨hu, _⟩
      · exact hup.subject_eq ▸ ih _ hmem
      · exact ih u hu

/-- The program of a selection is read off the one table that something is asked of: it invokes
that table, and its conjuncts are the filters of that table. Nothing is lost if and only if no
other table has a type or a filter that is not a filter of that one. So it is when all triples
have one subject. -/
theorem select_keeps_all_iff {settings : Settings} {lookups : Lookups Id} {q : Query}
    {keywords : List String} {c : Context} {p : Program} (hq : q.kind = .select)
    (hfold : Returns (fold settings lookups q keywords) c) (hgen : generate c q = .ok p) :
    ∃ t ∈ c.tables, (∀ u ∈ c.tables, outputFields (selectedVariables q) u ≠ [] ↔ u = t) ∧
      p.statement.source = t.name ∧ p.statement.conjuncts = t.filters ∧
      (KeepsAll c.tables t p.statement ↔
        ∀ u ∈ c.tables, u ≠ t → u.typed = false ∧ ∀ f ∈ u.filters, f ∈ t.filters) ∧
      ((∀ tr ∈ q.folded, subjectKey tr.subject = .ok t.subject) →
        KeepsAll c.tables t p.statement) := by
  have hsteps := fold_steps hfold
  obtain ⟨t, hout, hfrom⟩ := generate_select hq hgen
  obtain ⟨ht, hasked⟩ := outputFields_ne_nil_iff hout
  obtain ⟨hsource, hconj⟩ := generateFrom_layers (hsteps.filters_conjuncts t ht) hfrom
  refine ⟨t, ht, hasked, hsource, hconj, ⟨?_, ?_⟩, ?_⟩
  · intro hkeep u hu hne
    obtain ⟨hfilters, htyped⟩ := hkeep u hu
    exact ⟨Bool.eq_false_iff.mpr fun h => hne (htyped h), hconj ▸ hfilters⟩
  · intro hothers u hu
    rw [hconj]
    by_cases hut : u = t
    · exact ⟨fun f hf => hut ▸ hf, fun _ => hut⟩
    · obtain ⟨htyped, hfilters⟩ := hothers u hu hut
      exact ⟨hfilters, fun h => absurd h (by simp [htyped])⟩
  · intro hone u hu
    obtain ⟨tr, htr, hkey⟩ := hsteps.subject_key u hu
    have hsub : u.subject = t.subject := by
      have hkey' := hone tr htr
      rw [hkey, Except.ok.injEq] at hkey'
      exact hkey'
    have hut : u = t := List.inj_on_of_nodup_map (hsteps.nodup List.nodup_nil) hu ht hsub
    exact ⟨fun f hf => by rw [hconj]; exact hut ▸ hf, fun _ => hut⟩

namespace Atlas

/-- The countries of Europe. -/
def european : Query where
  kind := .select
  vars := ["x"]
  clauses := [.basic [fact (.variable "x") "P31" "Q6256", fact (.variable "x") "P30" "Q46"]]

/-- The table of the countries of Europe. -/
def europeanTable : Table where
  subject := "?x"
  name := "country"
  filters := [onContinent "Q46" "Europe"]
  typed := true

/-- The countries, if there is anything in Europe. -/
def twoSubjects : Query where
  kind := .select
  vars := ["x"]
  clauses := [.basic [fact (.variable "x") "P31" "Q6256", fact (.variable "y") "P30" "Q46"]]

/-- The tables of the two subjects. -/
def twoTables : Context where
  spans := []
  isQuestion := false
  tables :=
    [{ subject := "?x", name := "country", typed := true },
     { subject := "?y", filters := [onContinent "Q46" "Europe"] }]

/-- The program for the countries of Europe keeps both the type and the continent. -/
theorem select_keeps_all_european :
    Returns (fold settings lookups european []) ⟨[], false, [europeanTable]⟩ ∧
      generate ⟨[], false, [europeanTable]⟩ european =
        .ok ⟨.filter (baseTable "country") (onContinent "Q46" "Europe")⟩ ∧
      KeepsAll [europeanTable] europeanTable
        (.filter (baseTable "country") (onContinent "Q46" "Europe")) := by
  have hfold : Returns (fold settings lookups european []) ⟨[], false, [europeanTable]⟩ := rfl
  have hgen : generate ⟨[], false, [europeanTable]⟩ european =
      .ok ⟨.filter (baseTable "country") (onContinent "Q46" "Europe")⟩ := rfl
  obtain ⟨t, ht, _, _, _, _, hone⟩ := select_keeps_all_iff rfl hfold hgen
  obtain rfl : t = europeanTable := List.mem_singleton.mp ht
  refine ⟨hfold, hgen, hone ?_⟩
  intro tr htr
  obtain rfl | rfl : tr = fact (.variable "x") "P31" "Q6256" ∨
      tr = fact (.variable "x") "P30" "Q46" := by
    simpa [Query.folded, european] using htr
  · rfl
  · rfl

/-- A selection whose program does not say that there is anything in Europe. -/
theorem select_loses_filter :
    Returns (fold settings lookups twoSubjects []) twoTables ∧
      generate twoTables twoSubjects = .ok ⟨baseTable "country"⟩ ∧
      ∃ u ∈ twoTables.tables, ∃ f ∈ u.filters, f ∉ (baseTable "country").conjuncts := by
  refine ⟨rfl, rfl, { subject := "?y", filters := [onContinent "Q46" "Europe"] }, ?_,
    onContinent "Q46" "Europe", ?_, ?_⟩
  · simp [twoTables]
  · simp
  · simp [baseTable, TableExpression.conjuncts]

end Atlas

end Conversion

end GraphTalk
