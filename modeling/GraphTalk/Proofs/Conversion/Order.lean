import Mathlib.Data.List.Perm.Basic
import GraphTalk.Proofs.Conversion.Atlas
import GraphTalk.Proofs.Conversion.Provenance
import GraphTalk.Proofs.Conversion.Records
import GraphTalk.Proofs.Program.Same

/-!
# The order of clauses and triples

A query may be written in another order: with its clauses permuted, and with the triples of its
basic patterns permuted. The same effects are carried out then, in another order. So the query is
folded if and only if it was before, and its tables are alike (`fold_reordered`).
-/

namespace GraphTalk

open Rdf

/-- The object of a triple is not the literal that is no number. -/
def Rdf.Triple.NoNaN (tr : Triple) : Prop :=
  ∀ l, tr.object = .literal l → l.number? ≠ some (.float .nan)

namespace Sparql

/-- A clause, or the basic pattern of the same triples in another order. -/
inductive Clause.Reordered : Clause → Clause → Prop where
  | refl (c : Clause) : Reordered c c
  | basic {trs trs' : List Triple} (h : trs.Perm trs') : Reordered (.basic trs) (.basic trs')

/-- The same clauses in another order, with the triples of basic patterns in another order. -/
def Reordered (cs cs' : List Clause) : Prop :=
  ∃ ds, List.Forall₂ Clause.Reordered cs ds ∧ ds.Perm cs'

lemma Clause.Reordered.symm {c d : Clause} (h : c.Reordered d) : d.Reordered c := by
  cases h with
  | refl => exact .refl c
  | basic h => exact .basic h.symm

lemma Reordered.symm {cs cs' : List Clause} (h : Reordered cs cs') : Reordered cs' cs := by
  obtain ⟨ds, hds, hperm⟩ := h
  exact List.perm_comp_forall₂ hperm.symm (hds.flip.imp fun _ _ h => h.symm)

end Sparql

namespace Conversion

open Sparql Knowledge

variable {sc : Scope Id} {cs cs' : List Clause} {es es' : List Effect} {ts ts' : Tables}
  {t t' : Table}

/-! ### Alike tables -/

/-- Two tables say the same of their subjects: filters are compared by value, and the order of what
they hold does not count. -/
structure Table.Alike (t t' : Table) : Prop where
  name : t.name = t'.name
  typed : t.typed = t'.typed
  filters : ∀ f ∈ t.filters, ∃ f' ∈ t'.filters, f'.same f = true
  filters' : ∀ f' ∈ t'.filters, ∃ f ∈ t.filters, f.same f' = true
  projections : t.projections.Perm t'.projections
  verifications : t.verifications.Perm t'.verifications

/-- There are tables of the same subjects, and the tables of a subject are alike. -/
structure Tables.Alike (ts ts' : Tables) : Prop where
  subjects : (ts.map Table.subject).Perm (ts'.map Table.subject)
  tables : ∀ t ∈ ts, ∀ t' ∈ ts', t.subject = t'.subject → t.Alike t'

lemma Table.Records.filters_same {ds ds' : List Change} (h : t.Records sc ds)
    (h' : t'.Records sc ds') (hperm : ds.Perm ds')
    (hself : ∀ c, .filter c ∈ ds → c.same c = true) :
    ∀ f ∈ t.filters, ∃ f' ∈ t'.filters, f'.same f = true := by
  intro f hf
  have hmem := h.filters f hf
  -- the other table may have left the filter out for an equal one
  obtain ⟨f', hf', rfl | hsame⟩ := h'.kept f (hperm.mem_iff.mp hmem)
  · exact ⟨f', hf', hself f' hmem⟩
  · exact ⟨f', hf', hsame⟩

/-- Tables of one subject that record the same changes are alike. -/
lemma Table.Records.alike {ds ds' : List Change} (h : t.Records sc ds) (h' : t'.Records sc ds')
    (hperm : ds.Perm ds') (hsub : t.subject = t'.subject)
    (hself : ∀ c, .filter c ∈ ds → c.same c = true) : t.Alike t' := by
  have hstate : t.name = t'.name ∧ t.typed = t'.typed := by
    by_cases htype : ∃ name, .type name ∈ ds
    · obtain ⟨name, hname⟩ := htype
      obtain ⟨htyped, rfl⟩ := h.typed name hname
      obtain ⟨htyped', hname'⟩ := h'.typed _ (hperm.mem_iff.mp hname)
      exact ⟨hname'.symm, htyped.trans htyped'.symm⟩
    · have hnone : ∀ name, .type name ∉ ds := fun name hname => htype ⟨name, hname⟩
      obtain ⟨htyped, t₀, hnew, hname⟩ := h.untyped hnone
      obtain ⟨htyped', t₀', hnew', hname'⟩ :=
        h'.untyped fun name hmem => hnone name (hperm.mem_iff.mpr hmem)
      obtain rfl := hnew.unique (hsub ▸ hnew')
      exact ⟨hname.trans hname'.symm, htyped.trans htyped'.symm⟩
  exact
    { name := hstate.1
      typed := hstate.2
      filters := h.filters_same h' hperm hself
      filters' := h'.filters_same h hperm.symm fun c hc => hself c (hperm.mem_iff.mpr hc)
      projections := by
        rw [h.projections, h'.projections]
        exact hperm.filterMap _
      verifications := by
        rw [h.verifications, h'.verifications]
        exact hperm.filterMap _ }

/-- There is a table of every subject of an effect, and no other. -/
lemma Tables.Record.mem_subjects (h : ts.Record sc es) {s : String} :
    s ∈ ts.map Table.subject ↔ changesOf s es ≠ [] := by
  constructor
  · intro hs
    cases hf : ts.find? s with
    | none =>
      obtain ⟨t, ht, rfl⟩ := List.mem_map.mp hs
      exact absurd rfl (find?_eq_none.mp hf t ht)
    | some t => exact (h.present s t hf).1
  · intro hs
    cases hf : ts.find? s with
    | none => exact absurd (h.absent s hf) hs
    | some t =>
      obtain ⟨ht, rfl⟩ := find?_eq_some hf
      exact List.mem_map_of_mem ht

/-- The tables that record effects do not depend on their order. -/
lemma Tables.Record.alike (h : ts.Record sc es) (h' : ts'.Record sc es') (hperm : es.Perm es')
    (hn : (ts.map Table.subject).Nodup) (hn' : (ts'.map Table.subject).Nodup)
    (hself : ∀ s c, ⟨s, .filter c⟩ ∈ es → c.same c = true) : ts.Alike ts' := by
  have hchanges : ∀ s, (changesOf s es).Perm (changesOf s es') := fun s => hperm.filterMap _
  constructor
  · refine (List.perm_ext_iff_of_nodup hn hn').mpr fun s => ?_
    rw [h.mem_subjects, h'.mem_subjects, ne_eq, ne_eq, ← List.perm_nil, ← List.perm_nil]
    exact not_congr ⟨(hchanges s).symm.trans, (hchanges s).trans⟩
  · intro t ht t' ht' hsub
    have hrec := (h.present _ _ (find?_of_mem hn ht)).2
    have hrec' := (h'.present _ _ (find?_of_mem hn' ht')).2
    rw [← hsub] at hrec'
    exact hrec.alike hrec' (hchanges _) hsub fun c hc => hself _ c (mem_changesOf.mp hc)

/-! ### Plans in another order -/

lemma ClausePlan.reordered {c d : Clause} (h : ClausePlan sc c es) (hr : c.Reordered d) :
    ∃ es', ClausePlan sc d es' ∧ es.Perm es' := by
  cases hr with
  | refl => exact ⟨es, h, .refl es⟩
  | basic htrs =>
    cases h with
    | basic hps =>
      obtain ⟨qs, hqs, hperm⟩ := List.perm_comp_forall₂ htrs.symm hps
      refine ⟨_, .basic hqs, ?_⟩
      exact (hperm.symm.flatMap_right _).append ((hperm.symm.flatMap_right _).map _)

/-- Clauses in another order have the same effects in another order. -/
lemma plans_reordered {ess : List (List Effect)} (h : List.Forall₂ (ClausePlan sc) cs ess)
    (hr : Reordered cs cs') :
    ∃ ess', List.Forall₂ (ClausePlan sc) cs' ess' ∧ ess.flatten.Perm ess'.flatten := by
  have heach : ∀ {ds : List Clause}, List.Forall₂ Clause.Reordered cs ds →
      ∃ ess', List.Forall₂ (ClausePlan sc) ds ess' ∧ ess.flatten.Perm ess'.flatten := by
    intro ds hds
    clear hr
    induction h generalizing ds with
    | nil =>
      obtain rfl := List.forall₂_nil_left_iff.mp hds
      exact ⟨[], .nil, .refl _⟩
    | cons hplan _ ih =>
      obtain ⟨d, ds, hcd, hrest, rfl⟩ := List.forall₂_cons_left_iff.mp hds
      obtain ⟨es', hes', hperm⟩ := hplan.reordered hcd
      obtain ⟨ess', hess', hperms⟩ := ih hrest
      exact ⟨es' :: ess', .cons hes' hess', hperm.append hperms⟩
  -- first the triples inside of the clauses, then the clauses
  obtain ⟨ds, hds, hperm⟩ := hr
  obtain ⟨ess', hess', hflat⟩ := heach hds
  obtain ⟨ess'', hess'', hperms⟩ := List.perm_comp_forall₂ hperm.symm hess'
  exact ⟨ess'', hess'', hflat.trans hperms.symm.flatten⟩

/-! ### Filters are equal to themselves -/

lemma value_same_self {type : FieldType} {o : Term} {v : Value} (h : Returns (value sc type o) v)
    (ho : ∀ l, o = .literal l → l.number? ≠ some (.float .nan)) : v.same v = true := by
  unfold value at h
  split at h
  · split at h
    · exact absurd h returns_throw
    · obtain ⟨d, _, h⟩ := returns_bind.mp h
      obtain rfl := returns_pure.mp h
      simp [Value.same]
  · split at h
    · rename_i l
      obtain rfl := returns_pure.mp h
      unfold literalValue
      split
      · rename_i n _ hn
        exact Number.same_self fun heq => ho l rfl (heq ▸ hn)
      · simp [Value.same]
    · exact absurd h returns_throw

lemma States.same_self {tr : Triple} {s : String} {c : Condition} (h : States sc tr s c)
    (htr : tr.NoNaN) : c.same c = true := by
  obtain ⟨p, _, hc⟩ := h.condition
  obtain ⟨f, v, _, hv, rfl⟩ := atom_iff.mp hc
  simp [Condition.same, value_same_self hv htr]

lemma Yields.same_self {cl : Clause} {s : String} {c : Condition} (h : Yields sc s cl c)
    (hcl : ∀ tr ∈ cl.folded, tr.NoNaN) : c.same c = true := by
  cases h with
  | basic ht h => exact h.same_self (hcl _ (by simpa using ht))
  | widened hw h => exact h.same_self (hcl _ (by simp [Clause.folded_widened hw]))
  | union hw hl hr =>
    rw [Clause.folded_union hw] at hcl
    have hbranch : ∀ {trs : List Triple} {c : Condition} {cs : List Condition},
        (∀ tr ∈ trs, tr.NoNaN) → (∀ e, e ∈ c :: cs ↔ ∃ tr ∈ trs, States sc tr s e) →
        (Condition.conj c cs).same (.conj c cs) = true := by
      intro trs c cs hnan hstates
      refine Condition.same_conj_self fun e he => ?_
      obtain ⟨tr, htr, h⟩ := (hstates e).mp he
      exact h.same_self (hnan tr htr)
    obtain ⟨hleft, hright⟩ := List.forall_mem_append.mp hcl
    simp [Condition.same, Condition.sameAll, hbranch hleft hl, hbranch hright hr]

/-- All filters of a query in which no literal is no number are equal to themselves. -/
lemma plans_same_self {ess : List (List Effect)} (h : List.Forall₂ (ClausePlan sc) cs ess)
    (hcs : ∀ tr ∈ cs.flatMap Clause.folded, tr.NoNaN) {s : String} {c : Condition}
    (hc : ⟨s, .filter c⟩ ∈ ess.flatten) : c.same c = true := by
  obtain ⟨cl, hcl, harises⟩ := exists_arises h hc
  cases harises with
  | identity _ _ hi => exact same_identity hi
  | filter hyields =>
    exact hyields.same_self fun tr htr => hcs tr (List.mem_flatMap.mpr ⟨cl, hcl, htr⟩)

/-! ### Queries in another order -/

/-- Clauses in another order are folded too, and to tables that are alike. -/
lemma foldClauses_reordered (hr : Reordered cs cs') (h : Returns (foldClauses sc [] cs) ts) :
    ∃ ts', Returns (foldClauses sc [] cs') ts' ∧
      ((∀ tr ∈ cs.flatMap Clause.folded, tr.NoNaN) → ts.Alike ts') := by
  obtain ⟨ess, hess, hperform⟩ := foldClauses_iff.mp h
  obtain ⟨ess', hess', hperm⟩ := plans_reordered hess hr
  obtain ⟨ts', hperform'⟩ := (performAll_succeeds_perm hperm).mp ⟨ts, hperform⟩
  have h' := foldClauses_iff.mpr ⟨ess', hess', hperform'⟩
  refine ⟨ts', h', fun hnan => ?_⟩
  exact (performAll_record Tables.record_nil hperform).alike
    (performAll_record Tables.record_nil hperform') hperm
    (foldClauses_nodup h) (foldClauses_nodup h')
    fun s c hc => plans_same_self hess hnan hc

section

variable {settings : Settings} {lookups : Lookups Id} {q : Query} {keywords : List String}

/-- Without conditions on groups only the number of keys matters after the clauses. -/
lemma fold_iff_foldClauses (hq : q.having = []) {c : Context} :
    Returns (fold settings lookups q keywords) c ↔ q.group.length ≤ 1 ∧
      ∃ ts, Returns (foldClauses (queryScope settings lookups q keywords) [] q.clauses) ts ∧
        c = { spans := Utterance.keywordSpans keywords, isQuestion := q.isQuestion,
              tables := ts } := by
  have hgroups : ∀ ts ts', foldGroups ts q = .ok ts' ↔ q.group.length ≤ 1 ∧ ts = ts' := by
    intro ts ts'
    unfold foldGroups
    split
    · simp
      omega
    · simp [hq, foldHavings]
      omega
  simp only [fold_iff, hgroups]
  constructor
  · rintro ⟨ts, _, h, ⟨hgroup, rfl⟩, rfl⟩
    exact ⟨hgroup, ts, h, rfl⟩
  · rintro ⟨hgroup, ts, h, rfl⟩
    exact ⟨ts, ts, h, ⟨hgroup, rfl⟩, rfl⟩

/-- The order of clauses and of the triples in them does not matter: a query without conditions on
groups is folded in all orders or in none, and its tables are alike in all of them. -/
theorem fold_reordered (hq : q.having = []) (hnan : ∀ tr ∈ q.folded, tr.NoNaN)
    (hr : Reordered q.clauses cs') :
    ((∃ c, Returns (fold settings lookups q keywords) c) ↔
      ∃ c', Returns (fold settings lookups { q with clauses := cs' } keywords) c') ∧
    ∀ c c', Returns (fold settings lookups q keywords) c →
      Returns (fold settings lookups { q with clauses := cs' } keywords) c' →
      c.tables.Alike c'.tables := by
  have hq' : ({ q with clauses := cs' } : Query).having = [] := hq
  simp only [fold_iff_foldClauses hq, fold_iff_foldClauses hq']
  refine ⟨⟨?_, ?_⟩, ?_⟩
  · rintro ⟨c, hgroup, ts, h, -⟩
    obtain ⟨ts', h', _⟩ := foldClauses_reordered hr h
    exact ⟨_, hgroup, ts', h', rfl⟩
  · rintro ⟨c, hgroup, ts, h, -⟩
    obtain ⟨ts', h', _⟩ := foldClauses_reordered hr.symm h
    exact ⟨_, hgroup, ts', h', rfl⟩
  · rintro c c' ⟨_, ts, h, rfl⟩ ⟨_, ts', h', rfl⟩
    obtain ⟨ts₁, h₁, halike⟩ := foldClauses_reordered hr h
    obtain rfl := h₁.unique h'
    exact halike hnan

end

namespace Atlas

/-- The countries of Europe that are in Africa or in Europe. -/
def twiceEuropean : Query where
  kind := .select
  vars := ["x"]
  clauses :=
    [.basic [fact (.variable "x") "P31" "Q6256", fact (.variable "x") "P30" "Q46"],
     .union
       [.single (.basic [fact (.variable "x") "P30" "Q15"]),
        .single (.basic [fact (.variable "x") "P30" "Q46"])]]

/-- The same clauses in another order. -/
def reorderedClauses : List Clause :=
  [.union
     [.single (.basic [fact (.variable "x") "P30" "Q15"]),
      .single (.basic [fact (.variable "x") "P30" "Q46"])],
   .basic [fact (.variable "x") "P30" "Q46", fact (.variable "x") "P31" "Q6256"]]

/-- The filters of the table, in the order of the clauses. -/
def europeanFilters : List Condition :=
  [onContinent "Q46" "Europe", .any [onContinent "Q15" "Africa", onContinent "Q46" "Europe"]]

/-- A table of countries with filters. -/
def countries (filters : List Condition) : Table where
  subject := "?x"
  name := "country"
  filters
  typed := true

/-- In another order the clauses give the same table, with its filters in another order. -/
theorem fold_reordered_twiceEuropean :
    Returns (fold settings lookups twiceEuropean []) ⟨[], false, [countries europeanFilters]⟩ ∧
      Returns (fold settings lookups { twiceEuropean with clauses := reorderedClauses } [])
        ⟨[], false, [countries europeanFilters.reverse]⟩ ∧
      Tables.Alike [countries europeanFilters] [countries europeanFilters.reverse] := by
  have hfold : Returns (fold settings lookups twiceEuropean [])
      ⟨[], false, [countries europeanFilters]⟩ := rfl
  have hfold' :
      Returns (fold settings lookups { twiceEuropean with clauses := reorderedClauses } [])
        ⟨[], false, [countries europeanFilters.reverse]⟩ := rfl
  have hnan : ∀ tr ∈ twiceEuropean.folded, tr.NoNaN := by
    simp [Query.folded, twiceEuropean, Clause.folded_union, widenedTriple?, fact, Triple.NoNaN]
  have hr : Reordered twiceEuropean.clauses reorderedClauses :=
    ⟨_, .cons (.basic (.swap _ _ [])) (.cons (.refl _) .nil), .swap _ _ []⟩
  exact ⟨hfold, hfold', (fold_reordered rfl hnan hr).2 _ _ hfold hfold'⟩

end Atlas

end Conversion

end GraphTalk
