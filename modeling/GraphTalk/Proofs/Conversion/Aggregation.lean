import GraphTalk.Proofs.Conversion.Visibility

/-!
# What an aggregate is taken of

An aggregate of a variable is taken of the rows of the table of that variable, or of the first field
that the variable stands for. So it is if a triple of the query binds the variable.

If none does, the aggregate is taken of the rows of whatever else the selection asks for
(`aggregates_iff_bound`). Conditions on groups and orders that name such a variable are refused.
-/

namespace GraphTalk.Conversion

open Rdf Sparql Knowledge

/-! ### Bound variables -/

/-- An aggregate is one of a variable. No variable has the empty name. -/
structure IsAggregateOf (a : ProjectedAggregate) (v : String) : Prop where
  argument : a.argument? = some v
  named : v ≠ ""

/-- A table binds a variable: its subject is the variable, or the variable stands for a field. -/
def Table.Binds (t : Table) (v : String) : Prop :=
  t.variableName? = some v ∨ ∃ p ∈ t.projections, p.name = v

/-- A triple binds a variable: its subject goes by the name of the variable, or its object is the
variable. -/
def BindsVariable (tr : Triple) (v : String) : Prop :=
  subjectKey tr.subject = .ok ("?" ++ v) ∨ tr.object = .variable v

/-- What an aggregate of a variable is rightly taken of in a table: the rows, if the variable is the
subject, or the field that the variable stands for first. -/
inductive Table.Aggregates (t : Table) (v : String) : Option String → Prop where
  | rows (h : t.variableName? = some v) : Aggregates t v none
  | field {ps qs : List Projection} {p : Projection} (h : t.projections = ps ++ p :: qs)
      (hfirst : ∀ p' ∈ ps, p'.name ≠ v) (hp : p.name = v) : Aggregates t v (some p.field)

variable {t : Table} {v f : String} {a : ProjectedAggregate} {q : Query}

namespace Table

lemma variableName?_eq_some_iff : t.variableName? = some v ↔ t.subject = "?" ++ v :=
  Text.dropStart?_eq_some_iff

/-- A variable stands for the field of the first of its projections. -/
lemma fieldFor?_eq_some_iff :
    t.fieldFor? v = some f ↔ ∃ ps p qs, t.projections = ps ++ p :: qs ∧
      (∀ p' ∈ ps, p'.name ≠ v) ∧ p.name = v ∧ p.field = f := by
  simp only [fieldFor?, Option.map_eq_some_iff, List.find?_eq_some_iff_append, beq_iff_eq,
    Bool.not_eq_eq_eq_not, Bool.not_true, beq_eq_false_iff_ne]
  constructor
  · rintro ⟨p, ⟨hp, ps, qs, h, hfirst⟩, hf⟩
    exact ⟨ps, p, qs, h, hfirst, hp, hf⟩
  · rintro ⟨ps, p, qs, h, hfirst, hp, hf⟩
    exact ⟨p, ⟨hp, ps, qs, h, hfirst⟩, hf⟩

lemma fieldFor?_eq_none_iff : t.fieldFor? v = none ↔ ¬ ∃ p ∈ t.projections, p.name = v := by
  simp [fieldFor?]

end Table

/-! ### Triples and tables -/

section

variable {settings : Settings} {lookups : Lookups Id} {keywords : List String} {c : Context}

/-- What a folded triple says is kept in the table of its subject. -/
lemma fold_keeps (h : Returns (fold settings lookups q keywords) c) {tr : Triple}
    (htr : tr ∈ q.folded) :
    ∃ t ∈ c.tables, ∃ cl ∈ q.clauses, Keeps (queryScope settings lookups q keywords) cl tr t := by
  obtain ⟨ts, ts', hclauses, hgroups, rfl⟩ := fold_iff.mp h
  have hn := foldClauses_nodup hclauses
  obtain ⟨ess, hess, hperform⟩ := foldClauses_iff.mp hclauses
  have hrecord := performAll_record Tables.record_nil hperform
  obtain ⟨cl, hcl, htr⟩ := List.mem_flatMap.mp htr
  obtain ⟨es, hes, hplan⟩ := exists_of_forall₂_left hess hcl
  obtain ⟨t, ht, hkeeps⟩ := hplan.keeps
    (fun e he => List.mem_flatten.mpr ⟨es, hes, he⟩) hrecord htr
  obtain ⟨t', ht', hbounded⟩ :=
    (foldHavings_bounded (List.Subset.refl q.having) hn (foldGroups_eq_ok hgroups)).1 t ht
  exact ⟨t', ht', cl, hcl, hkeeps.bounded hbounded⟩

/-- The variables that tables bind are those that triples bind. -/
lemma fold_binds_iff (h : Returns (fold settings lookups q keywords) c) :
    (∃ t ∈ c.tables, t.Binds v) ↔ ∃ tr ∈ q.folded, BindsVariable tr v := by
  constructor
  · rintro ⟨t, ht, hbinds⟩
    obtain ⟨ess, _, hrec⟩ := fold_recorded h ht
    rcases hbinds with hsubject | ⟨p, hp, rfl⟩
    · obtain ⟨tr, htr, hkey⟩ := hrec.founded.subject
      rw [Table.variableName?_eq_some_iff.mp hsubject] at hkey
      exact ⟨tr, htr, .inl hkey⟩
    · obtain ⟨tr, htr, _, ho, _⟩ := hrec.founded.projections p hp
      exact ⟨tr, htr, .inr ho⟩
  · rintro ⟨tr, htr, hbinds⟩
    obtain ⟨t, ht, _, _, hkeeps⟩ := fold_keeps h htr
    refine ⟨t, ht, ?_⟩
    rcases hbinds with hkey | ho
    · have hsubject : t.subject = "?" ++ v := Except.ok.inj (hkeeps.subject.symm.trans hkey)
      exact .inl (Table.variableName?_eq_some_iff.mpr hsubject)
    · obtain ⟨_, field, _, _, hp⟩ := hkeeps.projection v ho
      exact .inr ⟨_, hp, rfl⟩

end

/-! ### What is asked for -/

/-- Something is asked of a table that binds a variable that is asked for. -/
lemma outputFields_ne_nil_iff_binds {selected : List String} :
    outputFields selected t ≠ [] ↔ ∃ w ∈ selected, t.Binds w := by
  constructor
  · intro hne
    obtain ⟨f, hf⟩ := List.exists_mem_of_ne_nil _ hne
    rcases mem_outputFields_iff.mp hf with ⟨_, w, hw, hmem⟩ | ⟨p, hp, hmem, _⟩
    · exact ⟨w, hmem, .inl hw⟩
    · exact ⟨p.name, hmem, .inr ⟨p, hp, rfl⟩⟩
  · rintro ⟨w, hmem, hw | ⟨p, hp, rfl⟩⟩
    · exact List.ne_nil_of_mem (mem_outputFields_iff.mpr (.inl ⟨rfl, w, hw, hmem⟩))
    · exact List.ne_nil_of_mem (mem_outputFields_iff.mpr (.inr ⟨p, hp, hmem, rfl⟩))

/-- A selection with one aggregate asks for the variable of it, and for its own variables but for
the name of the aggregate. -/
lemma mem_selectedVariables_iff (ha : q.aggregates = [a]) (hv : IsAggregateOf a v) {w : String} :
    w ∈ selectedVariables q ↔ (w ∈ q.vars ∧ w ≠ a.name) ∨ w = v := by
  have hvars : w ∈ q.vars.filter (fun u => !([a].map ProjectedAggregate.name).contains u) ↔
      w ∈ q.vars ∧ w ≠ a.name := by
    simp
  simp only [selectedVariables, ha, List.foldl_cons, List.foldl_nil, hv.argument]
  split
  · rename_i hthere
    rw [hvars]
    refine (or_iff_left_of_imp ?_).symm
    rintro rfl
    rw [← hvars]
    simpa [hv.named] using hthere
  · rw [List.mem_append, hvars, List.mem_singleton]

/-- A table that binds the variable of an aggregate is the only one that something is asked of. -/
lemma eq_of_binds_aggregated {ts : Tables} {u : Table} (ha : q.aggregates = [a])
    (hv : IsAggregateOf a v) (hout : outputs (selectedVariables q) ts = [t]) (hu : u ∈ ts)
    (hbinds : u.Binds v) : u = t := by
  apply ((outputFields_ne_nil_iff hout).2 u hu).mp
  exact outputFields_ne_nil_iff_binds.mpr
    ⟨v, (mem_selectedVariables_iff ha hv).mpr (.inr rfl), hbinds⟩

/-! ### What is aggregated -/

/-- An aggregate is taken of no field if the variable is the subject, and else of the first field
that the variable stands for, if there is one. -/
lemma aggregateField?_eq (hv : IsAggregateOf a v) :
    aggregateField? t a = if t.variableName? = some v then none else t.fieldFor? v := by
  simp [aggregateField?, hv.argument, hv.named]

/-- An aggregate is taken of what it is one of, if the table binds its variable. -/
lemma aggregates_iff_binds (hv : IsAggregateOf a v) :
    t.Aggregates v (aggregateField? t a) ↔ t.Binds v := by
  constructor
  · intro h
    generalize hfield : aggregateField? t a = field at h
    cases h with
    | rows h => exact .inl h
    | @field ps qs p h _ hp => exact .inr ⟨p, by simp [h], hp⟩
  · intro h
    rw [aggregateField?_eq hv]
    by_cases hs : t.variableName? = some v
    · rw [if_pos hs]
      exact .rows hs
    · rw [if_neg hs]
      cases hf : t.fieldFor? v with
      | none => exact absurd (h.resolve_left hs) (Table.fieldFor?_eq_none_iff.mp hf)
      | some f =>
        obtain ⟨ps, p, qs, hps, hfirst, hp, rfl⟩ := Table.fieldFor?_eq_some_iff.mp hf
        exact .field hps hfirst hp

lemma aggregateField?_eq_none (hv : IsAggregateOf a v) (h : ¬ t.Binds v) :
    aggregateField? t a = none := by
  rw [aggregateField?_eq hv, if_neg fun hs => h (.inl hs), Table.fieldFor?_eq_none_iff]
  exact fun hp => h (.inr hp)

/-- The program of a selection with one aggregate is that aggregate of the table that is asked for.
It is taken of what it is one of if and only if a triple binds its variable, in which case that
table binds it. Otherwise it is taken of the rows of a table that does not bind its variable but
another one, which is selected. -/
theorem aggregates_iff_bound {settings : Settings} {lookups : Lookups Id} {keywords : List String}
    {p : Program} (hq : q.kind = .select) (ha : q.aggregates = [a]) (hv : IsAggregateOf a v)
    (h : Returns (convertQuery settings lookups q keywords) p) :
    ∃ c t e field, Returns (fold settings lookups q keywords) c ∧
      outputs (selectedVariables q) c.tables = [t] ∧
      p.statement = limited q.limit (.aggregation e a.function field) ∧
      (t.Aggregates v field ↔ t.Binds v) ∧
      (t.Binds v ↔ ∃ tr ∈ q.folded, BindsVariable tr v) ∧
      (¬ t.Binds v → field = none ∧ ∃ w ∈ q.vars, w ≠ a.name ∧ t.Binds w) := by
  simp only [convertQuery, returns_bind, returns_mk] at h
  obtain ⟨c, hfold, hgen⟩ := h
  obtain ⟨t, hout, hfrom⟩ := generate_select hq hgen
  obtain ⟨e, _, he⟩ := generateFrom_eq_ok hfrom
  have hhead : q.aggregates.head? = some a := by simp [ha]
  rw [aggregated, hhead, aggregatedField?, hhead, Option.bind_some] at he
  obtain ⟨ht, hasked⟩ := outputFields_ne_nil_iff hout
  refine ⟨c, t, e, aggregateField? t a, hfold, hout, he, aggregates_iff_binds hv, ?_, ?_⟩
  · rw [← fold_binds_iff hfold]
    constructor
    · exact fun hbinds => ⟨t, ht, hbinds⟩
    · rintro ⟨u, hu, hbinds⟩
      exact eq_of_binds_aggregated ha hv hout hu hbinds ▸ hbinds
  · intro hbinds
    refine ⟨aggregateField?_eq_none hv hbinds, ?_⟩
    obtain ⟨w, hw, hbound⟩ := outputFields_ne_nil_iff_binds.mp ((hasked t ht).mpr rfl)
    rcases (mem_selectedVariables_iff ha hv).mp hw with ⟨hvars, hname⟩ | rfl
    · exact ⟨w, hvars, hname, hbound⟩
    · exact absurd hbound hbinds

namespace Atlas

/-- The number of continents that countries are on. -/
def continentCount : Query where
  kind := .select
  vars := ["n"]
  aggregates := [⟨"count", some "c", "n", false⟩]
  clauses :=
    [.basic
      [fact (.variable "x") "P31" "Q6256",
       { fact (.variable "x") "P30" "" with object := .variable "c" }]]

/-- The table of the countries. -/
def continentTable : Table where
  subject := "?x"
  name := "country"
  projections := [⟨"c", "continent"⟩]
  typed := true

/-- Continents are counted as the field that the variable stands for. -/
theorem aggregates_iff_bound_continents :
    Returns (convertQuery settings lookups continentCount [])
        ⟨.aggregation (baseTable "country") "count" (some "continent")⟩ ∧
      continentTable.Aggregates "c" (some "continent") := by
  have h : Returns (convertQuery settings lookups continentCount [])
      ⟨.aggregation (baseTable "country") "count" (some "continent")⟩ := rfl
  obtain ⟨c, t, e, field, hfold, hout, hp, hright, hbinds, _⟩ :=
    aggregates_iff_bound (v := "c") rfl rfl ⟨rfl, by decide⟩ h
  obtain rfl : c = ⟨[], false, [continentTable]⟩ := hfold.unique rfl
  obtain rfl : continentTable = t := List.cons.inj hout |>.1
  obtain rfl : some "continent" = field := (TableExpression.aggregation.inj hp).2.2
  refine ⟨h, hright.mpr (hbinds.mpr ?_)⟩
  exact ⟨{ fact (.variable "x") "P30" "" with object := .variable "c" },
    by simp [Query.folded, continentCount], .inr rfl⟩

/-- The countries, with the number of something that no triple speaks of. -/
def strayCount : Query where
  kind := .select
  vars := ["x", "n"]
  aggregates := [⟨"count", some "z", "n", false⟩]
  clauses := [.basic [fact (.variable "x") "P31" "Q6256"]]

/-- The countries are counted instead. -/
theorem aggregates_unbound :
    ∃ t, Returns (fold settings lookups strayCount []) ⟨[], false, [t]⟩ ∧
      Returns (convertQuery settings lookups strayCount [])
        ⟨.aggregation (baseTable "country") "count" none⟩ ∧
      ¬ t.Binds "z" ∧ ¬ t.Aggregates "z" none := by
  refine ⟨{ subject := "?x", name := "country", typed := true }, rfl, rfl, ?_, ?_⟩
  · rintro (hs | ⟨p, hp, -⟩)
    · exact absurd hs (by decide)
    · cases hp
  · intro h
    cases h with
    | rows hs => exact absurd hs (by decide)

end Atlas

end GraphTalk.Conversion
