import GraphTalk.Proofs.Conversion.Aggregation
import GraphTalk.Proofs.Conversion.Leaves
import GraphTalk.Proofs.Sparql.Conjuncts

/-!
# Conditions on groups

A query is folded only if each conjunct of its condition on groups bounds the number of values of a
variable that stands for a field. The bound is then a filter of the first table in which the
variable does, and no other bound on an aggregate is in any table (`having_folded`).

Conditions on groups only add filters. So the first table in which a variable stands for a field,
and the field, are the same after they are folded as before (`ownerOf?_put`).
-/

namespace GraphTalk.Conversion

open Rdf Sparql Knowledge

variable {sc : Scope Id} {ts ts' : Tables} {t : Table} {v w bound field : String}
  {c : HavingCondition} {hs : List HavingCondition} {f : Condition}

/-! ### Clauses bound nothing -/

/-- What clauses are folded into are comparisons of fields with values. -/
lemma foldClauses_atoms {cls : List Clause} (h : Returns (foldClauses sc [] cls) ts) :
    ∀ t ∈ ts, ∀ f ∈ t.filters ++ t.verifications, ∀ g ∈ f.leaves,
      ∃ field op v, g = .atom field op v := by
  intro t ht f hf g hg
  rcases foldClauses_leaves h t ht f hf g hg with hi | ⟨tr, _, hstates⟩
  · obtain ⟨d, _, rfl⟩ := identity_iff.mp hi
    exact ⟨_, _, _, rfl⟩
  · obtain ⟨p, _, hc⟩ := hstates.condition
    obtain ⟨field, v, _, _, rfl⟩ := atom_iff.mp hc
    exact ⟨_, _, _, rfl⟩

/-! ### The first table of a variable -/

/-- A table is the first one in which a variable stands for a field, and this is the first field
that it stands for there. -/
def Tables.FirstStandsFor (ts : Tables) (v : String) (t : Table) (field : String) : Prop :=
  ∃ before after, ts = before ++ t :: after ∧ (∀ u ∈ before, ∀ p ∈ u.projections, p.name ≠ v) ∧
    ∃ ps p qs, t.projections = ps ++ p :: qs ∧ (∀ p' ∈ ps, p'.name ≠ v) ∧ p.name = v ∧
      p.field = field

lemma ownerOf?_eq_some_iff : ts.ownerOf? v = some (t, field) ↔ ts.FirstStandsFor v t field := by
  simp only [Tables.FirstStandsFor, ← Table.fieldFor?_eq_some_iff]
  induction ts with
  | nil => simp [Tables.ownerOf?]
  | cons u us ih =>
    unfold Tables.ownerOf?
    cases hu : u.fieldFor? v with
    | some g =>
      simp only [Option.some.injEq, Prod.mk.injEq]
      constructor
      · rintro ⟨rfl, rfl⟩
        exact ⟨[], us, rfl, by simp, hu⟩
      · rintro ⟨before, after, heq, hbefore, hf⟩
        rcases List.append_eq_cons_iff.mp heq.symm with ⟨rfl, heq⟩ | ⟨before', rfl, rfl⟩
        · cases heq
          exact ⟨rfl, Option.some.inj (hu.symm.trans hf)⟩
        · -- a table in which the variable stands for a field is not before the first one
          obtain ⟨ps, p, qs, hps, _, hp, _⟩ := Table.fieldFor?_eq_some_iff.mp hu
          exact absurd hp (hbefore u (by simp) p (by simp [hps]))
    | none =>
      simp only [ih]
      have hnone : ∀ p ∈ u.projections, p.name ≠ v := by
        simpa using Table.fieldFor?_eq_none_iff.mp hu
      constructor
      · rintro ⟨before, after, rfl, hbefore, hf⟩
        exact ⟨u :: before, after, rfl, List.forall_mem_cons.mpr ⟨hnone, hbefore⟩, hf⟩
      · rintro ⟨before, after, heq, hbefore, hf⟩
        rcases List.append_eq_cons_iff.mp heq.symm with ⟨rfl, heq⟩ | ⟨before', rfl, rfl⟩
        · cases heq
          cases hu.symm.trans hf
        · exact ⟨before', after, rfl, (List.forall_mem_cons.mp hbefore).2, hf⟩

/-- A table that is replaced by one with the same fields stays where it is looked up. -/
lemma ownerOf?_put {u u' : Table} (hsubject : u'.subject = u.subject)
    (hprojections : u'.projections = u.projections)
    (hts : ∀ t ∈ ts, t.subject = u.subject → t = u) :
    (ts.put u').ownerOf? v =
      (ts.ownerOf? v).map fun x => (if x.1.subject = u.subject then u' else x.1, x.2) := by
  have hfield : u'.fieldFor? v = u.fieldFor? v := by
    rw [Table.fieldFor?, hprojections, Table.fieldFor?]
  induction ts with
  | nil => simp [Tables.put, Tables.ownerOf?]
  | cons t ts ih =>
    obtain ⟨ht, hts⟩ := List.forall_mem_cons.mp hts
    have ih := ih hts
    unfold Tables.put at ih ⊢
    rw [List.map_cons, Tables.ownerOf?, Tables.ownerOf?, ih]
    by_cases hs : t.subject = u.subject
    · obtain rfl := ht hs
      rw [if_pos (by simp [hsubject]), hfield]
      cases t.fieldFor? v with
      | none => rfl
      | some g => simp
    · rw [if_neg (by simpa [hsubject] using hs)]
      cases t.fieldFor? v with
      | none => rfl
      | some g => simp [hs]

/-! ### Folding conditions on groups -/

lemma havingOperator?_eq_some_iff {op : String} :
    havingOperator? op = some bound ↔ (op, bound) ∈ boundOperators := by
  unfold havingOperator? boundOperators
  split <;> simp_all [eq_comm]

/-- A condition on groups is a bound on a count, and becomes a filter of the first table in which
the variable that is counted stands for a field. -/
lemma foldHaving_iff :
    foldHaving ts c = .ok ts' ↔ ∃ v bound n t field, c.Counts v bound n ∧
      ts.ownerOf? v = some (t, field) ∧
      ts' = ts.put (t.addFilter (.aggregate "count" field bound n)) := by
  constructor
  · intro h
    unfold foldHaving at h
    split at h
    · rename_i v op n hfunction hv hop hn
      cases hbound : havingOperator? op with
      | none => simp [hbound] at h
      | some bound =>
        cases howner : ts.ownerOf? v with
        | none => simp [hbound, howner] at h
        | some x =>
          simp only [hbound, howner, Except.ok.injEq] at h
          exact ⟨v, bound, n, x.1, x.2,
            ⟨hfunction, hv, ⟨op, hop, havingOperator?_eq_some_iff.mp hbound⟩, hn⟩, howner, h.symm⟩
    · cases h
  · rintro ⟨v, bound, n, t, field, ⟨hfunction, hv, ⟨op, hop, hbound⟩, hn⟩, howner, rfl⟩
    simp [foldHaving, hfunction, hv, hop, hn, havingOperator?_eq_some_iff.mpr hbound, howner]

lemma foldGroups_iff {q : Query} :
    foldGroups ts q = .ok ts' ↔ q.group.length ≤ 1 ∧ foldHavings ts q.having = .ok ts' := by
  unfold foldGroups
  split
  · simp
    omega
  · simp
    omega

section

variable (hn : (ts.map Table.subject).Nodup)

include hn

/-- What is looked up after a bound has been added to a table. -/
lemma ownerOf?_put_addFilter {u : Table} {g : String} (howner : ts.ownerOf? w = some (u, g)) :
    (ts.put (u.addFilter f)).ownerOf? v = (ts.ownerOf? v).map fun x =>
      (if x.1.subject = u.subject then u.addFilter f else x.1, x.2) := by
  apply ownerOf?_put
  · simp
  · simp
  · exact fun t ht hs => List.inj_on_of_nodup_map hn ht (ownerOf?_eq_some howner).1 hs

/-- After a bound has been folded, the first table of a variable has all the filters it had. -/
lemma foldHaving_ownerOf? (h : foldHaving ts c = .ok ts')
    (howner : ts.ownerOf? v = some (t, field)) :
    ∃ t', ts'.ownerOf? v = some (t', field) ∧ t'.subject = t.subject ∧ t.filters ⊆ t'.filters := by
  obtain ⟨w, bound, n, u, g, _, hu, rfl⟩ := foldHaving_iff.mp h
  rw [ownerOf?_put_addFilter hn hu, howner]
  by_cases hs : t.subject = u.subject
  · obtain rfl :=
      List.inj_on_of_nodup_map hn (ownerOf?_eq_some howner).1 (ownerOf?_eq_some hu).1 hs
    refine ⟨t.addFilter (.aggregate "count" g bound n), by simp, by simp, ?_⟩
    exact t.filters_subset_changed (.filter (.aggregate "count" g bound n))
  · exact ⟨t, by simp [hs], rfl, List.Subset.refl _⟩

/-- No variable has a first table after a bound has been folded that had none before. -/
lemma foldHaving_ownerOf?_isSome (h : foldHaving ts c = .ok ts') :
    (ts'.ownerOf? v).isSome = (ts.ownerOf? v).isSome := by
  obtain ⟨w, bound, n, u, g, _, hu, rfl⟩ := foldHaving_iff.mp h
  rw [ownerOf?_put_addFilter hn hu, Option.isSome_map]

lemma foldHaving_nodup (h : foldHaving ts c = .ok ts') : (ts'.map Table.subject).Nodup := by
  obtain ⟨_, _, _, _, _, _, _, rfl⟩ := foldHaving_iff.mp h
  rwa [Tables.subjects_put]

lemma foldHavings_nodup (h : foldHavings ts hs = .ok ts') : (ts'.map Table.subject).Nodup := by
  induction hs generalizing ts with
  | nil =>
    cases h
    exact hn
  | cons c hs ih =>
    obtain ⟨ts₁, hfirst, hrest⟩ := foldHavings_cons.mp h
    exact ih (foldHaving_nodup hn hfirst) hrest

/-- Conditions on groups are folded if and only if all of them are bounds on counts of variables
that stand for fields. -/
lemma foldHavings_succeeds_iff :
    (∃ ts', foldHavings ts hs = .ok ts') ↔
      ∀ c ∈ hs, ∃ v bound n, c.Counts v bound n ∧ (ts.ownerOf? v).isSome := by
  induction hs generalizing ts with
  | nil => simp [foldHavings]
  | cons c hs ih =>
    simp only [foldHavings_cons, List.forall_mem_cons]
    constructor
    · rintro ⟨ts', ts₁, hfirst, hrest⟩
      obtain ⟨v, bound, n, t, field, hcounts, howner, _⟩ := foldHaving_iff.mp hfirst
      refine ⟨⟨v, bound, n, hcounts, by simp [howner]⟩, ?_⟩
      simpa only [foldHaving_ownerOf?_isSome hn hfirst] using
        (ih (foldHaving_nodup hn hfirst)).mp ⟨ts', hrest⟩
    · rintro ⟨⟨v, bound, n, hcounts, howner⟩, hrest⟩
      obtain ⟨⟨t, field⟩, howner⟩ := Option.isSome_iff_exists.mp howner
      have hfirst := foldHaving_iff.mpr ⟨v, bound, n, t, field, hcounts, howner, rfl⟩
      simp only [← foldHaving_ownerOf?_isSome hn hfirst] at hrest
      obtain ⟨ts', h⟩ := (ih (foldHaving_nodup hn hfirst)).mpr hrest
      exact ⟨ts', _, hfirst, h⟩

lemma foldHavings_ownerOf? (h : foldHavings ts hs = .ok ts')
    (howner : ts.ownerOf? v = some (t, field)) :
    ∃ t', ts'.ownerOf? v = some (t', field) ∧ t'.subject = t.subject ∧ t.filters ⊆ t'.filters := by
  induction hs generalizing ts t with
  | nil =>
    cases h
    exact ⟨t, howner, rfl, List.Subset.refl _⟩
  | cons c hs ih =>
    obtain ⟨ts₁, hfirst, hrest⟩ := foldHavings_cons.mp h
    obtain ⟨t₁, howner₁, hs₁, hsubset₁⟩ := foldHaving_ownerOf? hn hfirst howner
    obtain ⟨t', howner', hs', hsubset'⟩ := ih (foldHaving_nodup hn hfirst) hrest howner₁
    exact ⟨t', howner', hs'.trans hs₁, List.Subset.trans hsubset₁ hsubset'⟩

/-- Every bound is a filter in the end, or an equal one is. -/
lemma foldHavings_kept (h : foldHavings ts hs = .ok ts') : ∀ c ∈ hs, ∃ v bound n t field,
    c.Counts v bound n ∧ ts'.ownerOf? v = some (t, field) ∧
      ∃ f ∈ t.filters, f = .aggregate "count" field bound n ∨
        f.same (.aggregate "count" field bound n) = true := by
  induction hs generalizing ts with
  | nil => simp
  | cons c hs ih =>
    obtain ⟨ts₁, hfirst, hrest⟩ := foldHavings_cons.mp h
    have hn₁ := foldHaving_nodup hn hfirst
    refine List.forall_mem_cons.mpr ⟨?_, ih hn₁ hrest⟩
    obtain ⟨v, bound, n, u, field, hcounts, howner, rfl⟩ := foldHaving_iff.mp hfirst
    have hbound : (ts.put (u.addFilter (.aggregate "count" field bound n))).ownerOf? v =
        some (u.addFilter (.aggregate "count" field bound n), field) := by
      rw [ownerOf?_put_addFilter hn howner, howner]
      simp
    obtain ⟨t, hlater, _, hsubset⟩ := foldHavings_ownerOf? hn₁ hrest hbound
    obtain ⟨f, hf, hsame⟩ := u.exists_mem_addFilter (.aggregate "count" field bound n)
    exact ⟨v, bound, n, t, field, hcounts, hlater, f, hsubset hf, hsame⟩

/-- A filter in the end was one before, or is a bound on a variable whose first table this is. -/
lemma foldHavings_filters (h : foldHavings ts hs = .ok ts') : ∀ t' ∈ ts', ∀ f ∈ t'.filters,
    (∃ t ∈ ts, t.subject = t'.subject ∧ f ∈ t.filters) ∨
      ∃ c ∈ hs, ∃ v bound n field, c.Counts v bound n ∧ ts'.ownerOf? v = some (t', field) ∧
        f = .aggregate "count" field bound n := by
  induction hs generalizing ts with
  | nil =>
    cases h
    exact fun t ht f hf => .inl ⟨t, ht, rfl, hf⟩
  | cons c hs ih =>
    obtain ⟨ts₁, hfirst, hrest⟩ := foldHavings_cons.mp h
    have hn₁ := foldHaving_nodup hn hfirst
    intro t' ht' f hf
    rcases ih hn₁ hrest t' ht' f hf with ⟨t₁, ht₁, hs₁, hf₁⟩ | ⟨d, hd, hbounds⟩
    · obtain ⟨v, bound, n, u, field, hcounts, howner, rfl⟩ := foldHaving_iff.mp hfirst
      rcases Tables.mem_put.mp ht₁ with ⟨rfl, _⟩ | ⟨ht₁, _⟩
      · rcases Table.mem_addFilter hf₁ with hf₁ | rfl
        · exact .inl ⟨u, (ownerOf?_eq_some howner).1, by simpa using hs₁, hf₁⟩
        · -- the table of this subject is the first one of the variable, then and in the end
          have hbound := ownerOf?_put_addFilter (v := v) hn howner
            (f := .aggregate "count" field bound n)
          rw [howner, Option.map_some, if_pos rfl] at hbound
          obtain ⟨t, hlater, hsub, _⟩ := foldHavings_ownerOf? hn₁ hrest hbound
          obtain rfl : t = t' := List.inj_on_of_nodup_map (foldHavings_nodup hn₁ hrest)
            (ownerOf?_eq_some hlater).1 ht' (hsub.trans hs₁)
          exact .inr ⟨c, by simp, v, bound, n, field, hcounts, hlater, rfl⟩
      · exact .inl ⟨t₁, ht₁, hs₁, hf₁⟩
    · exact .inr ⟨d, List.mem_cons_of_mem _ hd, hbounds⟩

end

/-! ### Queries -/

section

variable {settings : Settings} {lookups : Lookups Id} {q : Query} {keywords : List String}

/-- A query whose clauses are folded is folded if and only if it is grouped by one key at most, and
its conditions on groups are bounds on counts of variables that stand for fields. -/
lemma fold_succeeds_iff
    (hts : Returns (foldClauses (queryScope settings lookups q keywords) [] q.clauses) ts) :
    (∃ c, Returns (fold settings lookups q keywords) c) ↔ q.group.length ≤ 1 ∧
      ∀ h ∈ q.having, ∃ v bound n, h.Counts v bound n ∧ (ts.ownerOf? v).isSome := by
  have hn := foldClauses_nodup hts
  rw [← foldHavings_succeeds_iff hn]
  simp only [fold_iff, foldGroups_iff]
  constructor
  · rintro ⟨_, ts₁, ts', hts₁, ⟨hgroup, hhavings⟩, rfl⟩
    obtain rfl := hts.unique hts₁
    exact ⟨hgroup, ts', hhavings⟩
  · rintro ⟨hgroup, ts', hhavings⟩
    exact ⟨_, ts, ts', hts, ⟨hgroup, hhavings⟩, rfl⟩

/-- A condition on groups is folded completely or the query is refused. There is one condition for
each conjunct of the expression, from left to right. If the clauses are folded, the query is if and
only if it is grouped by one key at most and each conjunct bounds the number of values of a variable
that stands for a field. The bound is then a filter of the first table in which the variable does,
and no table has any other bound on an aggregate. -/
theorem having_folded {aggregates : List Aggregate} {e : Expression}
    (hq : q.having = havingConditions aggregates e) :
    q.having.map HavingCondition.expression = e.conjuncts ∧
    (∀ ts, Returns (foldClauses (queryScope settings lookups q keywords) [] q.clauses) ts →
      ((∃ c, Returns (fold settings lookups q keywords) c) ↔ q.group.length ≤ 1 ∧
        ∀ leaf ∈ e.conjuncts, ∃ v bound n t field, BoundsCount aggregates leaf v bound n ∧
          ts.FirstStandsFor v t field)) ∧
    ∀ c, Returns (fold settings lookups q keywords) c →
      q.group.length ≤ 1 ∧
      (∀ leaf ∈ e.conjuncts, ∃ v bound n t field, BoundsCount aggregates leaf v bound n ∧
        c.tables.FirstStandsFor v t field ∧
        ∃ f ∈ t.filters, f = .aggregate "count" field bound n ∨
          f.same (.aggregate "count" field bound n) = true) ∧
      ∀ t ∈ c.tables, ∀ f ∈ t.filters ++ t.verifications, ∀ function field bound n,
        Condition.aggregate function field bound n ∈ f.leaves →
        function = "count" ∧ ∃ leaf ∈ e.conjuncts, ∃ v,
          BoundsCount aggregates leaf v bound n ∧ c.tables.FirstStandsFor v t field := by
  refine ⟨by rw [hq, havingConditions_expressions], fun ts hts => ?_, fun c hfold => ?_⟩
  · rw [fold_succeeds_iff hts, hq, havingConditions_eq]
    simp only [List.forall_mem_map, havingLeaf_counts_iff, Option.isSome_iff_exists, Prod.exists,
      ownerOf?_eq_some_iff, exists_and_left]
  · obtain ⟨ts, ts', hts, hgroups, rfl⟩ := fold_iff.mp hfold
    obtain ⟨hgroup, hhavings⟩ := foldGroups_iff.mp hgroups
    have hn := foldClauses_nodup hts
    have hatoms := foldClauses_atoms hts
    rw [hq, havingConditions_eq] at hhavings
    refine ⟨hgroup, ?_, ?_⟩
    · simpa only [List.forall_mem_map, havingLeaf_counts_iff, ownerOf?_eq_some_iff] using
        foldHavings_kept hn hhavings
    · intro t' ht' f hf function field bound n hg
      rcases List.mem_append.mp hf with hf | hf
      · rcases foldHavings_filters hn hhavings t' ht' f hf with
          ⟨t, ht, _, hft⟩ | ⟨h, hh, v, bound', n', field', hcounts, howner, rfl⟩
        · obtain ⟨_, _, _, heq⟩ := hatoms t ht f (List.mem_append_left _ hft) _ hg
          cases heq
        · simp only [Condition.leaves, List.mem_singleton] at hg
          cases hg
          obtain ⟨leaf, hleaf, rfl⟩ := List.mem_map.mp hh
          exact ⟨rfl, leaf, hleaf, v, havingLeaf_counts_iff.mp hcounts,
            ownerOf?_eq_some_iff.mp howner⟩
      · obtain ⟨t, ht, hbounded⟩ :=
          (foldHavings_bounded (List.Subset.refl _) hn hhavings).2 t' ht'
        rw [hbounded.verifications] at hf
        obtain ⟨_, _, _, heq⟩ := hatoms t ht f (List.mem_append_right _ hf) _ hg
        cases heq

end

namespace Atlas

/-- The variable `__agg_1__` holds the number of continents. -/
def continentAggregates : List Aggregate := [⟨.count, false, some "c", "__agg_1__"⟩]

/-- A comparison of the number of continents with a numeral. -/
def continentsAre (op numeral : String) : Expression :=
  .compare (.variable "__agg_1__") op (.literal (.typed numeral "integer"))

/-- More than one continent, and then at least two and less than five. -/
def fewContinents : Expression :=
  .both (continentsAre ">" "1") [.both (continentsAre ">=" "2") [continentsAre "<" "5"]]

/-- The countries of Africa or Europe that are on a few continents. -/
def fewStraddling : Query :=
  { straddling with having := havingConditions continentAggregates fewContinents }

/-- The table of these countries. -/
def fewTable : Table :=
  { straddlingTable with
    filters :=
      [.any [onContinent "Q15" "Africa", onContinent "Q46" "Europe"],
       .aggregate "count" "continent" ">=" (.int 1),
       .aggregate "count" "continent" ">=" (.int 2),
       .aggregate "count" "continent" "<=" (.int 5)] }

/-- All three bounds of the nested conjunction are filters of the table, and there is no other. -/
theorem having_folded_straddling :
    fewStraddling.having.map HavingCondition.expression =
        [continentsAre ">" "1", continentsAre ">=" "2", continentsAre "<" "5"] ∧
      Returns (fold settings lookups fewStraddling []) ⟨[], false, [fewTable]⟩ ∧
      ∀ bound n, Condition.aggregate "count" "continent" bound n ∈ fewTable.filters →
        ∃ leaf ∈ fewContinents.conjuncts, ∃ v, BoundsCount continentAggregates leaf v bound n ∧
          Tables.FirstStandsFor [fewTable] v fewTable "continent" := by
  have hfold : Returns (fold settings lookups fewStraddling []) ⟨[], false, [fewTable]⟩ := rfl
  obtain ⟨hleaves, _, hfolded⟩ :=
    @having_folded settings lookups fewStraddling [] continentAggregates fewContinents rfl
  refine ⟨hleaves, hfold, ?_⟩
  intro bound n hmem
  exact ((hfolded _ hfold).2.2 fewTable (by simp) _ (List.mem_append_left _ hmem) "count"
    "continent" bound n (by simp [Condition.leaves])).2

end Atlas

end GraphTalk.Conversion
