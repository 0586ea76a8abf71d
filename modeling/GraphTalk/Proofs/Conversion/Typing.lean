import GraphTalk.Proofs.Conversion.Invariants
import GraphTalk.Proofs.Program.WellFormed

/-!
# Programs fit the schema

A program that a conversion makes invokes a table of the schema, compares, projects, sorts and
aggregates fields of the properties in the query, and compares a field with values of its type
(`program_fits`). Over a schema that a manifest declares it is well-formed, so its text can be read
in one way only.

Every filter that a step of the fold adds is fitting (`Update.fits`), and every layer that is put
around a table fits if what it is put around does.
-/

namespace GraphTalk

open Rdf Sparql

/-! ### Fitting -/

section

variable (s : Schema) (trs : List Triple)

/-- A field of a property that stands in one of the triples. -/
def FieldIn (field : String) : Prop :=
  ∃ tr ∈ trs, ∃ p, tr.predicate.property? = some p ∧ s.fieldName? p = some field

/-- The name of a table of the schema, or that of things of no known type. -/
def TableIn (name : String) : Prop :=
  name = Conversion.defaultTable ∨ ∃ domain, s.tableName? domain = some name

/-- A value is an entity if and only if the field has entities, and then it is one of their type. -/
def Value.Fits (type : FieldType) (v : Value) : Prop :=
  ∀ entityType, type.entityType? = some entityType ↔
    ∃ code display, v = .entity code entityType display

/-- The identity of an entity, or a comparison of the field of a property with a fitting value. -/
inductive Condition.IsAtom : Condition → Prop where
  | identity (code display : String) :
      IsAtom (.atom "id" "==" (.entity code genericEntityType display))
  | field {tr : Triple} {p : String} {f : SchemaField} {v : Value} (htr : tr ∈ trs)
      (hp : tr.predicate.property? = some p) (hf : s.field? p = some f) (hv : v.Fits f.type) :
      IsAtom (.atom f.name (if f.type.isArray then "contains" else "==") v)

/-- One condition of a sort, or the conjunction of two or more. -/
inductive Condition.Joins (P : Condition → Prop) : Condition → Prop where
  | one {c : Condition} (h : P c) : Joins P c
  | all {cs : List Condition} (hlen : 2 ≤ cs.length) (h : ∀ c ∈ cs, P c) : Joins P (.all cs)

/-- An atom, a disjunction of two conjunctions of atoms, or a bound on the values of a field. -/
inductive Condition.IsFilter : Condition → Prop where
  | atom {c : Condition} (h : IsAtom s trs c) : IsFilter c
  | any {l r : Condition} (hl : Joins (IsAtom s trs) l) (hr : Joins (IsAtom s trs) r) :
      IsFilter (.any [l, r])
  | bound {field operator : String} (n : Number) (hf : FieldIn s trs field)
      (hop : operator ∈ comparisons) : IsFilter (.aggregate "count" field operator n)

/-- All tables, fields, conditions, functions, directions and limits are such. -/
inductive TableExpression.Fits : TableExpression → Prop where
  | invocation {name : String} (h : TableIn s name) : Fits (.invocation name classNamespace)
  | filter {e : TableExpression} {c : Condition} (he : Fits e)
      (hc : Condition.Joins (Condition.IsFilter s trs) c) : Fits (.filter e c)
  | projection {e : TableExpression} {fields : List String} (he : Fits e) (hne : fields ≠ [])
      (hnodup : fields.Nodup) (hf : ∀ f ∈ fields, f = "id" ∨ FieldIn s trs f) :
      Fits (.projection e fields)
  | aggregation {e : TableExpression} {function : String} {field : Option String} (he : Fits e)
      (hfn : function ∈ aggregateFunctions) (hf : ∀ f ∈ field, FieldIn s trs f) :
      Fits (.aggregation e function field)
  | question {e : TableExpression} {c : Condition} (he : Fits e)
      (hc : Condition.Joins (Condition.IsFilter s trs) c) : Fits (.question e c)
  | sort {e : TableExpression} {field direction : String} (he : Fits e) (hf : FieldIn s trs field)
      (hd : direction ∈ directions) : Fits (.sort e field direction)
  | index {e : TableExpression} {limit : Int} (he : Fits e) (hlimit : 0 ≤ limit) :
      Fits (.index e limit)

end

variable {s : Schema} {trs : List Triple}

lemma Condition.joins_conj {P : Condition → Prop} {c : Condition} {cs : List Condition}
    (h : ∀ d ∈ c :: cs, P d) : Joins P (.conj c cs) := by
  cases cs with
  | nil => exact .one (h c (by simp))
  | cons d ds => exact .all (by simp) h

/-! ### What fits is well-formed -/

lemma FieldIn.isName {field : String} (hs : s.Named) (h : FieldIn s trs field) : IsName field := by
  obtain ⟨_, _, p, _, hname⟩ := h
  obtain ⟨f, hf, rfl⟩ := Option.map_eq_some_iff.mp hname
  exact (hs.of_field? hf).1

lemma Condition.IsAtom.wellFormed {c : Condition} (hs : s.Named) (h : IsAtom s trs c) :
    c.WellFormed := by
  cases h with
  | identity =>
    have htype : IsWord FieldType.isTypeChar genericEntityType := by decide
    exact .atom (by decide) (by decide) htype
  | @field _ p f v _ _ hf hv =>
    obtain ⟨hname, htypes⟩ := hs.of_field? hf
    refine .atom hname ?_ ?_
    · split
      · exact .inl rfl
      · exact .inr (by decide)
    · cases v with
      | entity code type display => exact htypes type ((hv type).mpr ⟨code, display, rfl⟩)
      | _ => trivial

lemma Condition.Joins.wellFormed {P : Condition → Prop} {c : Condition} (h : Joins P c)
    (hP : ∀ d, P d → d.WellFormed) : c.WellFormed := by
  cases h with
  | one h => exact hP c h
  | all hlen h => exact .all hlen fun d hd => hP d (h d hd)

lemma Condition.IsFilter.wellFormed {c : Condition} (hs : s.Named) (h : IsFilter s trs c) :
    c.WellFormed := by
  cases h with
  | atom h => exact h.wellFormed hs
  | any hl hr =>
    refine .any le_rfl ?_
    simpa using ⟨hl.wellFormed fun _ h => h.wellFormed hs, hr.wellFormed fun _ h => h.wellFormed hs⟩
  | bound n hf hop => exact .aggregate (by decide) (hf.isName hs) hop

/-- What fits a schema with names all over is well-formed. -/
lemma TableExpression.Fits.wellFormed {e : TableExpression} (hs : s.Named) (h : Fits s trs e) :
    e.WellFormed := by
  induction h with
  | invocation h =>
    refine .invocation ?_ (by decide)
    rcases h with rfl | ⟨domain, h⟩
    · decide
    · exact (hs.of_tableName? h).2
  | filter _ hc ih => exact .filter ih (hc.wellFormed fun _ h => h.wellFormed hs)
  | projection _ hne _ hf ih =>
    refine .projection ih hne fun f hmem => ?_
    rcases hf f hmem with rfl | hf
    · decide
    · exact hf.isName hs
  | aggregation _ hfn hf ih => exact .aggregation ih hfn fun f hmem => (hf f hmem).isName hs
  | question _ hc ih => exact .question ih (hc.wellFormed fun _ h => h.wellFormed hs)
  | sort _ hf hd ih => exact .sort ih (hf.isName hs) hd
  | index _ _ ih => exact .index _ ih

/-! ### Regular queries -/

/-- Aggregates, orders and limits are such as a query that is read has. -/
structure Sparql.Query.Regular (q : Query) : Prop where
  functions : ∀ a ∈ q.aggregates, a.function ∈ aggregateFunctions
  directions : ∀ o ∈ q.order, o.direction ∈ directions
  limit : ∀ n ∈ q.limit, 0 ≤ n

namespace Sparql

lemma peel_directions {found found' : Modifiers} {a a' : Algebra}
    (h : a.peel found = .ok (found', a'))
    (hfound : ∀ o ∈ found.order, o.direction ∈ directions) :
    ∀ o ∈ found'.order, o.direction ∈ directions := by
  induction a generalizing found with
  | orderBy keys p ih =>
    refine ih h ?_
    intro o ho
    rcases List.mem_append.mp ho with ho | ho
    · exact hfound o ho
    · obtain ⟨k, _, rfl⟩ := List.mem_map.mp ho
      simp only [OrderKey.condition]
      split <;> decide
  | slice start length p ih =>
    simp only [Algebra.peel] at h
    split at h
    · cases h
    · exact ih h hfound
  | filter e p ih =>
    simp only [Algebra.peel] at h
    split at h
    · exact ih h hfound
    · cases h
      exact hfound
  | distinct p ih => exact ih h hfound
  | project p ih => exact ih h hfound
  | extend _ _ p ih => exact ih h hfound
  | aggregateJoin _ p ih => exact ih h hfound
  | group _ p ih => exact ih h hfound
  | _ =>
    cases h
    exact hfound

lemma function_of_projected? {aggregates : List Aggregate} {x : String × Expression}
    {a : ProjectedAggregate} (h : projected? aggregates x = .ok (some a)) :
    a.function ∈ aggregateFunctions := by
  simp only [projected?] at h
  split at h
  · split at h
    · cases h
    · split at h
      · cases h
      · split at h
        · cases h
        · rename_i f hf
          cases h
          -- of the kinds of aggregates those with a function are left
          simp only [AggregateKind.function?] at hf
          split at hf <;> simp_all [aggregateFunctions]
  · cases h

lemma functions_of_projectedAggregates {aggregates : List Aggregate}
    {xs : List (String × Expression)} {as : List ProjectedAggregate}
    (h : projectedAggregates aggregates xs = .ok as) :
    ∀ a ∈ as, a.function ∈ aggregateFunctions := by
  induction xs generalizing as with
  | nil =>
    cases h
    simp
  | cons x xs ih =>
    simp only [projectedAggregates, bind, Except.bind] at h
    split at h
    · cases h
    · rename_i a ha
      split at h
      · cases h
      · rename_i rest hrest
        cases h
        intro b hb
        rcases List.mem_append.mp hb with hb | hb
        · rw [Option.mem_toList] at hb
          exact function_of_projected? (hb ▸ ha)
        · exact ih hrest b hb

lemma Query.regular_of_ofAlgebra {kind : QueryKind} {vars : List String} {root : Algebra}
    {q : Query} (h : ofAlgebra kind vars root = .ok q) : q.Regular := by
  simp only [ofAlgebra, bind, Except.bind] at h
  split at h
  · cases h
  · rename_i found hpeel
    split at h
    · cases h
    · split at h
      · cases h
      · rename_i aggregates haggregates
        cases h
        refine ⟨functions_of_projectedAggregates haggregates, ?_, ?_⟩
        · exact peel_directions hpeel (by simp)
        · intro n hn
          obtain ⟨k, _, rfl⟩ := Option.map_eq_some_iff.mp hn
          exact Int.natCast_nonneg k

/-- Queries that are read are regular. -/
theorem Query.regular_of_parse {namespaces : Namespaces} {text : String} {q : Query}
    (h : parse namespaces text = .ok q) : q.Regular := by
  simp only [parse] at h
  split at h
  · cases h
  · split at h
    · cases h
    · split at h
      · cases h
      · cases h
      · cases h
      · split at h
        · cases h
        · exact regular_of_ofAlgebra h
      · split at h
        · cases h
        · exact regular_of_ofAlgebra h

end Sparql

namespace Conversion

open Knowledge

/-! ### Tables that fit -/

/-- Name, fields and conditions of a table are such. -/
structure Table.Fits (s : Schema) (trs : List Triple) (t : Table) : Prop where
  name : TableIn s t.name
  projections : ∀ p ∈ t.projections, FieldIn s trs p.field
  conditions : ∀ c ∈ t.filters ++ t.verifications, c.IsFilter s trs

variable {sc : Scope Id} {q : Query} {t t' : Table} {c : Condition}

lemma value_fits {type : FieldType} {o : Term} {v : Value} (h : Returns (value sc type o) v) :
    v.Fits type := by
  intro entityType
  rcases value_iff.mp h with ⟨_, e, d, ht, _, _, rfl⟩ | ⟨ht, l, _, rfl⟩
  · rw [ht]
    constructor
    · rintro ⟨⟩
      exact ⟨e, d, rfl⟩
    · rintro ⟨_, _, heq⟩
      cases heq
      rfl
  · simp only [ht, reduceCtorEq, false_iff]
    rintro ⟨_, _, heq⟩
    simp only [literalValue] at heq
    split at heq <;> cases heq

lemma States.isAtom {tr : Triple} {subject : String} (htr : tr ∈ trs)
    (h : States sc tr subject c) : c.IsAtom sc.settings.schema trs := by
  obtain ⟨p, hp, hatom⟩ := h.condition
  obtain ⟨f, v, hf, hv, rfl⟩ := atom_iff.mp hatom
  exact .field htr hp hf (value_fits hv)

/-- The conditions of a branch are atoms, so that their conjunction is one of atoms. -/
lemma joins_branch {subject : String} {branch : List Triple} {cs : List Condition}
    (hbranch : branch ⊆ trs) (h : ∀ e ∈ c :: cs, ∃ tr ∈ branch, States sc tr subject e) :
    Condition.Joins (Condition.IsAtom sc.settings.schema trs) (.conj c cs) := by
  refine Condition.joins_conj fun e he => ?_
  obtain ⟨tr, htr, hstates⟩ := h e he
  exact hstates.isAtom (hbranch htr)

lemma Yields.isFilter {cl : Clause} {subject : String} (hcl : cl.folded ⊆ trs)
    (h : Yields sc subject cl c) : c.IsFilter sc.settings.schema trs := by
  cases h with
  | basic ht h => exact .atom (h.isAtom (hcl (by simpa using ht)))
  | widened hw h => exact .atom (h.isAtom (hcl (by simp [Clause.folded_widened hw])))
  | union hw hl hr =>
    rw [Clause.folded_union hw, List.append_subset] at hcl
    exact .any (joins_branch hcl.1 fun e => (hl e).mp) (joins_branch hcl.2 fun e => (hr e).mp)

lemma havingOperator?_mem {operator bound : String} (h : havingOperator? operator = some bound) :
    bound ∈ comparisons := by
  simp only [havingOperator?] at h
  split at h <;> simp_all [comparisons]

lemma exists_projection_of_fieldFor? {v field : String} (h : t.fieldFor? v = some field) :
    ∃ p ∈ t.projections, p.field = field := by
  obtain ⟨p, hp, rfl⟩ := Option.map_eq_some_iff.mp h
  exact ⟨p, List.mem_of_find?_eq_some hp, rfl⟩

lemma Founded.fieldIn (h : Founded sc q t) {p : Projection} (hp : p ∈ t.projections) :
    FieldIn sc.settings.schema q.folded p.field := by
  obtain ⟨tr, htr, _, _, pid, hpid, hf⟩ := h.projections p hp
  exact ⟨tr, htr, pid, hpid, hf⟩

lemma Founded.isFilter (h : Founded sc q t) (hc : c ∈ t.filters ++ t.verifications) :
    c.IsFilter sc.settings.schema q.folded := by
  have hfolded : ∀ cl ∈ q.clauses, cl.folded ⊆ q.folded :=
    fun cl hcl tr htr => List.mem_flatMap.mpr ⟨cl, hcl, htr⟩
  rcases List.mem_append.mp hc with hc | hc
  · rcases h.filters c hc with ⟨cl, hcl, hyields⟩ | ⟨_, _, _, hi⟩ | ⟨_, _, hbounds⟩
    · exact hyields.isFilter (hfolded cl hcl)
    · obtain ⟨d, _, rfl⟩ := identity_iff.mp hi
      exact .atom (.identity _ d)
    · cases hbounds with
      | count _ _ _ _ hbound hf =>
        obtain ⟨p, hp, rfl⟩ := exists_projection_of_fieldFor? hf
        exact .bound _ (h.fieldIn hp) (havingOperator?_mem hbound)
  · obtain ⟨cl, hcl, hyields⟩ := h.verifications c hc
    exact hyields.isFilter (hfolded cl hcl)

lemma tableIn_of_domainTable? {domain : Option String} {name : String}
    (h : s.domainTable? domain = some name) : TableIn s name := by
  obtain ⟨d, _, hd⟩ := Option.bind_eq_some_iff.mp h
  exact .inr ⟨d, hd⟩

lemma newTable_tableIn {subject : String} (h : Returns (newTable sc subject) t) :
    TableIn sc.settings.schema t.name := by
  cases hv : Text.dropStart? "?" subject with
  | some v =>
    rw [newTable_variable hv h]
    exact .inl rfl
  | none =>
    obtain ⟨domain, _, hname⟩ := newTable_entity hv h
    cases hd : sc.settings.schema.domainTable? domain with
    | none =>
      rw [hname, hd]
      exact .inl rfl
    | some name =>
      rw [hname, hd]
      exact tableIn_of_domainTable? hd

lemma Update.tableIn (h : Update sc trs t t') (ht : TableIn sc.settings.schema t.name) :
    TableIn sc.settings.schema t'.name := by
  cases h with
  | same => exact ht
  | identity | filter | bound => simpa using ht
  | type _ _ _ _ _ hn h =>
    rw [(Table.setName_eq_ok h).2]
    exact tableIn_of_domainTable? hn
  | projection _ _ _ _ _ h => simpa [(Table.addProjection_eq_ok h).2] using ht
  | verification _ _ _ h => simpa [(Table.addVerification_eq_ok h).2] using ht

/-- Every table of a folded query fits. -/
lemma fold_fits {settings : Settings} {lookups : Lookups Id} {keywords : List String}
    {ctx : Context} (h : Returns (fold settings lookups q keywords) ctx) :
    ∀ t ∈ ctx.tables, t.Fits settings.schema q.folded := by
  intro t ht
  obtain ⟨ess, u, hrec⟩ := fold_recorded h ht
  refine ⟨?_, fun p hp => hrec.founded.fieldIn hp, fun c hc => hrec.founded.isFilter hc⟩
  exact (fold_steps h).forall_tables (fun _ _ => newTable_tableIn) (fun _ _ => Update.tableIn)
    (by simp) t ht

/-! ### Layers that fit -/

variable {e e' : TableExpression}

/-- Fields are gathered each once. -/
lemma foldl_fields {P : String → Prop} {selected : List String} {ps : List Projection}
    {fields : List String} (hps : ∀ p ∈ ps, P p.field) (hn : fields.Nodup)
    (hP : ∀ f ∈ fields, P f) :
    let gathered := ps.foldl (fun fields p =>
      if selected.contains p.name && !fields.contains p.field then fields ++ [p.field]
      else fields) fields
    gathered.Nodup ∧ ∀ f ∈ gathered, P f := by
  induction ps generalizing fields with
  | nil => exact ⟨hn, hP⟩
  | cons p ps ih =>
    obtain ⟨hp, hps⟩ := List.forall_mem_cons.mp hps
    rw [List.foldl_cons]
    split
    · rename_i hnew
      simp only [Bool.and_eq_true, Bool.not_eq_true', List.contains_eq_mem,
        decide_eq_false_iff_not] at hnew
      refine ih hps ?_ ?_
      · rw [← List.concat_eq_append]
        exact hn.concat hnew.2
      · simpa [or_imp, forall_and] using ⟨hP, hp⟩
    · exact ih hps hn hP

lemma Table.Fits.outputFields (ht : t.Fits s trs) (selected : List String) :
    (outputFields selected t).Nodup ∧
      ∀ f ∈ outputFields selected t, f = "id" ∨ FieldIn s trs f := by
  refine foldl_fields (P := fun f => f = "id" ∨ FieldIn s trs f)
    (fun p hp => .inr (ht.projections p hp)) ?_ ?_
  · split
    · split <;> simp
    · simp
  · split
    · split <;> simp
    · simp

lemma Table.Fits.fieldFor? (ht : t.Fits s trs) {v field : String}
    (h : t.fieldFor? v = some field) : FieldIn s trs field := by
  obtain ⟨p, hp, rfl⟩ := exists_projection_of_fieldFor? h
  exact ht.projections p hp

lemma Table.Fits.aggregateField? (ht : t.Fits s trs) {a : ProjectedAggregate} {field : String}
    (h : aggregateField? t a = some field) : FieldIn s trs field := by
  simp only [Conversion.aggregateField?] at h
  split at h
  · split at h
    · cases h
    · exact ht.fieldFor? h
  · cases h

lemma Table.Fits.filtered (ht : t.Fits s trs) : (filtered t (baseTable t.name)).Fits s trs := by
  simp only [Conversion.filtered]
  split
  · exact .invocation ht.name
  · rename_i f fs hfs
    refine .filter (.invocation ht.name) (Condition.joins_conj fun d hd => ?_)
    exact ht.conditions d (List.mem_append_left _ (hfs ▸ hd))

lemma Table.Fits.ordered (ht : t.Fits s trs) (hq : q.Regular) (he : e.Fits s trs)
    (h : ordered t q e = .ok e') : e'.Fits s trs := by
  simp only [Conversion.ordered] at h
  split at h
  · cases h
    exact he
  · rename_i o ho
    split at h
    · rename_i field hfield
      cases h
      obtain ⟨v, _, hv⟩ := Option.bind_eq_some_iff.mp hfield
      split at hv
      · cases hv
      · exact .sort he (ht.fieldFor? hv) (hq.directions o (by simp [ho]))
    · cases h
  · cases h

/-- The first rows, if there is a limit. -/
def limited (limit : Option Int) (e : TableExpression) : TableExpression :=
  match limit with
  | some n => e.index n
  | none => e

lemma limited_fits {limit : Option Int} (hlimit : ∀ n ∈ limit, 0 ≤ n) (he : e.Fits s trs) :
    (limited limit e).Fits s trs := by
  cases limit with
  | some n => exact .index he (hlimit n rfl)
  | none => exact he

lemma Table.Fits.generateFrom (ht : t.Fits s trs) (hq : q.Regular)
    (hne : Conversion.outputFields (selectedVariables q) t ≠ [])
    (h : generateFrom t q = .ok e) : e.Fits s trs := by
  obtain ⟨hnodup, hfields⟩ := ht.outputFields (selectedVariables q)
  simp only [Conversion.generateFrom] at h
  split at h
  · cases h
  · rename_i e₁ hordered
    have he₁ : e₁.Fits s trs := by
      refine ht.ordered hq ?_ hordered
      split
      · exact .projection ht.filtered hne hnodup hfields
      · exact ht.filtered
    cases h
    refine limited_fits hq.limit ?_
    split
    · rename_i a ha
      refine .aggregation he₁ (hq.functions a (List.mem_of_mem_head? ha)) fun f hf => ?_
      rw [ha] at hf
      exact ht.aggregateField? hf
    · exact he₁

lemma Table.Fits.generateAsk {ts : Tables} (hts : ∀ t ∈ ts, t.Fits s trs)
    (h : generateAsk ts = .ok e) : e.Fits s trs := by
  simp only [Conversion.generateAsk] at h
  split at h
  · cases h
  · rename_i t hsingle
    have ht : t.Fits s trs := hts t (by simp [single_eq_ok hsingle])
    split at h
    · cases h
    · rename_i v vs hvs
      have hconj : ∀ {d ds}, d :: ds = t.filters ++ t.verifications →
          Condition.Joins (Condition.IsFilter s trs) (.conj d ds) := by
        intro d ds heq
        exact Condition.joins_conj fun c hc => ht.conditions c (heq ▸ hc)
      split at h
      · rename_i hfs
        cases h
        exact .question (.invocation ht.name) (hconj (by simp [hfs, hvs]))
      · rename_i f fs hfs
        cases h
        exact .question (.invocation ht.name) (hconj (by simp [hfs, hvs]))

/-- A program fits if the tables that it is made of do. -/
lemma generate_fits {ctx : Context} {p : Program} (hq : q.Regular)
    (hts : ∀ t ∈ ctx.tables, t.Fits s trs) (h : generate ctx q = .ok p) :
    p.statement.Fits s trs := by
  cases hkind : q.kind with
  | select =>
    obtain ⟨t, houtputs, hfrom⟩ := generate_select hkind h
    obtain ⟨ht, hne⟩ := outputFields_ne_nil_iff houtputs
    exact (hts t ht).generateFrom hq ((hne t ht).mpr rfl) hfrom
  | ask =>
    simp only [generate, Query.isQuestion, hkind, beq_self_eq_true, if_true] at h
    cases he : generateAsk ctx.tables with
    | error f => simp [he, Except.map] at h
    | ok e =>
      simp only [he, Except.map, Except.ok.injEq] at h
      exact h ▸ Table.Fits.generateAsk hts he

lemma convert_iff {settings : Settings} {lookups : Lookups Id} {sparql : String}
    {keywords : List String} {p : Program} :
    Returns (convert settings lookups sparql keywords) p ↔
      ∃ q ctx, Query.parse defaultNamespaces sparql = .ok q ∧
        Returns (fold settings lookups q keywords) ctx ∧ generate ctx q = .ok p := by
  have hread : ∀ q, (Query.parse defaultNamespaces sparql).mapError Failure.rejected = .ok q ↔
      Query.parse defaultNamespaces sparql = .ok q := by
    intro q
    cases Query.parse defaultNamespaces sparql <;> simp [Except.mapError]
  simp only [convert, readQuery, convertQuery, returns_bind, returns_mk, hread]
  constructor
  · rintro ⟨q, hq, ctx, hctx, hp⟩
    exact ⟨q, ctx, hq, hctx, hp⟩
  · rintro ⟨q, ctx, hq, hctx, hp⟩
    exact ⟨q, hq, ctx, hctx, hp⟩

/-- A program that a text is converted to fits the schema and the triples of the query. -/
theorem convert_fits {settings : Settings} {lookups : Lookups Id} {sparql : String}
    {keywords : List String} {p : Program}
    (h : Returns (convert settings lookups sparql keywords) p) :
    ∃ q, Query.parse defaultNamespaces sparql = .ok q ∧
      p.statement.Fits settings.schema q.folded := by
  obtain ⟨q, ctx, hq, hfold, hgen⟩ := convert_iff.mp h
  exact ⟨q, hq, generate_fits (Query.regular_of_parse hq) (fold_fits hfold) hgen⟩

/-- A program that is made of a regular query fits the schema and the triples of the query. If a
manifest declares the schema, it is also well-formed. -/
theorem program_fits {settings : Settings} {lookups : Lookups Id} {keywords : List String}
    {manifest : String} {ctx : Context} {p : Program}
    (hschema : Schema.parse manifest = .ok settings.schema) (hq : q.Regular)
    (hfold : Returns (fold settings lookups q keywords) ctx) (hgen : generate ctx q = .ok p) :
    p.statement.Fits settings.schema q.folded ∧ p.WellFormed := by
  have hfits := generate_fits hq (fold_fits hfold) hgen
  exact ⟨hfits, hfits.wellFormed (Schema.named_of_parse hschema)⟩

namespace Atlas

/-- The continents of the countries that are on more than one, three of them. -/
def straddlingContinents : Query :=
  { straddling with vars := ["x", "c"], order := [⟨some "c", "desc"⟩], limit := some 3 }

/-- The program for them. -/
def straddlingProgram : Program where
  statement :=
    .index
      (.sort
        (.projection
          (.filter (baseTable "country") (.all straddlingTable.filters)) ["id", "continent"])
        "continent" "desc")
      3

/-- A program with a disjunction, a bound, a projection, an order and a limit. -/
theorem program_fits_straddling :
    Returns (fold settings lookups straddlingContinents []) ⟨[], false, [straddlingTable]⟩ ∧
      generate ⟨[], false, [straddlingTable]⟩ straddlingContinents = .ok straddlingProgram ∧
      straddlingProgram.statement.Fits settings.schema straddlingContinents.folded ∧
      straddlingProgram.WellFormed := by
  have hfold : Returns (fold settings lookups straddlingContinents [])
      ⟨[], false, [straddlingTable]⟩ := rfl
  have hgen : generate ⟨[], false, [straddlingTable]⟩ straddlingContinents =
      .ok straddlingProgram := rfl
  have hregular : straddlingContinents.Regular := by
    constructor
    · simp [straddlingContinents, straddling]
    · simp [straddlingContinents, directions]
    · simp [straddlingContinents]
  exact ⟨hfold, hgen, program_fits parse_manifest hregular hfold hgen⟩

end Atlas

end Conversion

end GraphTalk
