import GraphTalk.Proofs.Conversion.Typing

/-!
# Visible fields

A projection hides all fields but those that it lists. The program of a selection only aggregates
fields that are visible, since the projection is left out when a field is aggregated. It is not left
out when the rows are sorted: a program sorts by a field that is hidden exactly if it projects, and
the field of the variable in `ORDER BY` is not one of those that it projects
(`select_wellScoped_iff`).
-/

namespace GraphTalk

/-! ### Scopes -/

namespace TableExpression

/-- A field is visible in an expression. -/
def Sees : TableExpression → String → Prop
  | .invocation _ _, _ => True
  | .filter e _, f => e.Sees f
  | .projection _ fields, f => f ∈ fields
  | .aggregation _ _ _, _ => False
  | .question _ _, _ => False
  | .sort e _ _, f => e.Sees f
  | .index e _, f => e.Sees f

/-- What is sorted in an expression, and by which fields. -/
def sorts : TableExpression → List (TableExpression × String)
  | .invocation _ _ => []
  | .filter e _ => e.sorts
  | .projection e _ => e.sorts
  | .aggregation e _ _ => e.sorts
  | .question e _ => e.sorts
  | .sort e field _ => (e, field) :: e.sorts
  | .index e _ => e.sorts

/-- What is aggregated in an expression, and which fields of it. -/
def aggregations : TableExpression → List (TableExpression × String)
  | .invocation _ _ => []
  | .filter e _ => e.aggregations
  | .projection e _ => e.aggregations
  | .aggregation e _ field => field.toList.map (e, ·) ++ e.aggregations
  | .question e _ => e.aggregations
  | .sort e _ _ => e.aggregations
  | .index e _ => e.aggregations

/-- Only visible fields are sorted by and aggregated. -/
structure WellScoped (e : TableExpression) : Prop where
  sorts : ∀ x ∈ e.sorts, x.1.Sees x.2
  aggregations : ∀ x ∈ e.aggregations, x.1.Sees x.2

instance decidableSees : (e : TableExpression) → (f : String) → Decidable (e.Sees f)
  | .invocation _ _, _ => inferInstanceAs (Decidable True)
  | .filter e _, f => decidableSees e f
  | .projection _ fields, f => inferInstanceAs (Decidable (f ∈ fields))
  | .aggregation _ _ _, _ => inferInstanceAs (Decidable False)
  | .question _ _, _ => inferInstanceAs (Decidable False)
  | .sort e _ _, f => decidableSees e f
  | .index e _, f => decidableSees e f

end TableExpression

namespace Conversion

open Sparql Knowledge

variable {t : Table} {q : Query} {e e' : TableExpression} {selected : List String} {f : String}

/-! ### Fields that are asked for -/

lemma mem_foldl_fields {ps : List Projection} {fields : List String} :
    f ∈ ps.foldl (fun fields p =>
        if selected.contains p.name && !fields.contains p.field then fields ++ [p.field]
        else fields) fields ↔
      f ∈ fields ∨ ∃ p ∈ ps, p.name ∈ selected ∧ p.field = f := by
  induction ps generalizing fields with
  | nil => simp
  | cons p ps ih =>
    rw [List.foldl_cons, ih, List.exists_mem_cons_iff, ← or_assoc]
    refine or_congr_left ?_
    split
    · rename_i hnew
      simp only [Bool.and_eq_true, List.contains_iff_mem] at hnew
      simp [hnew.1, eq_comm]
    · rename_i hold
      -- what is left out is not selected, or there already
      refine (or_iff_left_of_imp ?_).symm
      rintro ⟨hselected, rfl⟩
      simpa [hselected] using hold

/-- The fields that a selection asks for are the identity of the subject, if it is selected, and the
fields that selected variables stand for. -/
lemma mem_outputFields_iff :
    f ∈ outputFields selected t ↔
      (f = "id" ∧ ∃ v, t.variableName? = some v ∧ v ∈ selected) ∨
        ∃ p ∈ t.projections, p.name ∈ selected ∧ p.field = f := by
  unfold outputFields
  rw [mem_foldl_fields]
  refine or_congr_left ?_
  cases t.variableName? with
  | none => simp
  | some v => by_cases hv : v ∈ selected <;> simp [hv]

lemma mem_outputFields_of_fieldFor? {v : String} (hv : v ∈ selected) (hf : t.fieldFor? v = some f) :
    f ∈ outputFields selected t := by
  obtain ⟨p, hp, rfl⟩ := Option.map_eq_some_iff.mp hf
  obtain rfl : p.name = v := by simpa using List.find?_some hp
  exact mem_outputFields_iff.mpr (.inr ⟨p, List.mem_of_find?_eq_some hp, hv, rfl⟩)

/-! ### Layers -/

/-- The field that the program of a selection aggregates. -/
def aggregatedField? (t : Table) (q : Query) : Option String :=
  q.aggregates.head?.bind (aggregateField? t)

/-- The program of a selection projects: it asks for more than the identity, and aggregates no
field. -/
def Projects (t : Table) (q : Query) : Prop :=
  outputFields (selectedVariables q) t ≠ ["id"] ∧ aggregatedField? t q = none

/-- The rows of a table under its conditions, and the fields that are asked for of them. -/
def projected (t : Table) (q : Query) : TableExpression :=
  let fields := outputFields (selectedVariables q) t
  if fields != ["id"] && (aggregatedField? t q).isNone then
    .projection (filtered t (baseTable t.name)) fields
  else filtered t (baseTable t.name)

/-- An aggregate of rows, if one is asked for. -/
def aggregated (t : Table) (q : Query) (e : TableExpression) : TableExpression :=
  match q.aggregates.head? with
  | some a => .aggregation e a.function (aggregatedField? t q)
  | none => e

/-- What is generated are the projected rows, sorted, aggregated and limited. -/
lemma generateFrom_eq_ok (h : generateFrom t q = .ok e) :
    ∃ e', ordered t q (projected t q) = .ok e' ∧ e = limited q.limit (aggregated t q e') := by
  unfold generateFrom at h
  dsimp only at h
  split at h
  · cases h
  · rename_i e' ho
    cases h
    exact ⟨e', ho, rfl⟩

/-- Rows are left as they are, or sorted by the field that the variable of the order stands for. -/
lemma ordered_eq_ok (h : ordered t q e = .ok e') :
    (q.order = [] ∧ e' = e) ∨
      ∃ o v f, q.order = [o] ∧ o.key? = some v ∧ t.fieldFor? v = some f ∧
        e' = .sort e f o.direction := by
  unfold ordered at h
  split at h
  · rename_i ho
    cases h
    exact .inl ⟨ho, rfl⟩
  · rename_i o ho
    split at h
    · rename_i field hfield
      cases h
      obtain ⟨v, hkey, hv⟩ := Option.bind_eq_some_iff.mp hfield
      split at hv
      · cases hv
      · exact .inr ⟨o, v, field, ho, hkey, hv, rfl⟩
    · cases h
  · cases h

/-! ### Scopes of layers -/

lemma sees_filtered (t : Table) (f : String) : (filtered t (baseTable t.name)).Sees f := by
  unfold filtered
  split <;> trivial

lemma projected_of_projects (h : Projects t q) :
    projected t q =
      .projection (filtered t (baseTable t.name)) (outputFields (selectedVariables q) t) := by
  simp [projected, h.1, h.2]

lemma projected_of_not_projects (h : ¬ Projects t q) :
    projected t q = filtered t (baseTable t.name) := by
  have hfields : outputFields (selectedVariables q) t = ["id"] ∨ (aggregatedField? t q).isSome := by
    rwa [Projects, not_and_or, not_not, ← ne_eq, ← Option.isSome_iff_ne_none] at h
  rcases hfields with hfields | hfield
  · simp [projected, hfields]
  · simp [projected, Option.isNone_eq_false_iff.mpr hfield]

/-- A field is hidden only if it is not among those that are projected. -/
lemma sees_projected_iff :
    (projected t q).Sees f ↔ (Projects t q → f ∈ outputFields (selectedVariables q) t) := by
  by_cases h : Projects t q
  · rw [projected_of_projects h]
    exact ⟨fun hf _ => hf, fun hf => hf h⟩
  · rw [projected_of_not_projects h]
    exact iff_of_true (sees_filtered t f) fun hp => absurd hp h

/-- Nothing is sorted or aggregated before it is projected. -/
lemma projected_plain : (projected t q).sorts = [] ∧ (projected t q).aggregations = [] := by
  have hfiltered : (filtered t (baseTable t.name)).sorts = [] ∧
      (filtered t (baseTable t.name)).aggregations = [] := by
    unfold filtered
    split <;> exact ⟨rfl, rfl⟩
  by_cases h : Projects t q
  · rw [projected_of_projects h]
    exact hfiltered
  · rw [projected_of_not_projects h]
    exact hfiltered

@[simp] lemma limited_sorts {limit : Option Int} : (limited limit e).sorts = e.sorts := by
  cases limit <;> rfl

@[simp] lemma limited_aggregations {limit : Option Int} :
    (limited limit e).aggregations = e.aggregations := by
  cases limit <;> rfl

@[simp] lemma aggregated_sorts : (aggregated t q e).sorts = e.sorts := by
  unfold aggregated
  split <;> rfl

@[simp] lemma aggregated_aggregations :
    (aggregated t q e).aggregations =
      (aggregatedField? t q).toList.map (e, ·) ++ e.aggregations := by
  unfold aggregated
  split
  · rfl
  · rename_i hnone
    simp [aggregatedField?, hnone]

/-- A field is aggregated of rows that are not projected, sorted or not. -/
lemma sees_of_aggregatedField? (h : ordered t q (projected t q) = .ok e)
    (hf : aggregatedField? t q = some f) : e.Sees f := by
  have hsees : (projected t q).Sees f :=
    sees_projected_iff.mpr fun hp => absurd hp.2 (by simp [hf])
  rcases ordered_eq_ok h with ⟨-, rfl⟩ | ⟨_, _, _, -, -, -, rfl⟩
  · exact hsees
  · exact hsees

lemma forall_aggregations_of_generateFrom (h : generateFrom t q = .ok e) :
    ∀ x ∈ e.aggregations, x.1.Sees x.2 := by
  obtain ⟨e', ho, rfl⟩ := generateFrom_eq_ok h
  have hplain : e'.aggregations = [] := by
    rcases ordered_eq_ok ho with ⟨-, rfl⟩ | ⟨_, _, _, -, -, -, rfl⟩
    · exact projected_plain.2
    · exact projected_plain.2
  rw [limited_aggregations, aggregated_aggregations, hplain, List.append_nil]
  simp only [List.forall_mem_map, Option.mem_toList]
  exact fun f hf => sees_of_aggregatedField? ho hf

lemma forall_sorts_iff_of_generateFrom (h : generateFrom t q = .ok e) :
    (∀ x ∈ e.sorts, x.1.Sees x.2) ↔
      ∀ o ∈ q.order, ∀ v ∈ o.key?, ∀ f ∈ t.fieldFor? v,
        Projects t q → f ∈ outputFields (selectedVariables q) t := by
  obtain ⟨e', ho, rfl⟩ := generateFrom_eq_ok h
  rw [limited_sorts, aggregated_sorts]
  rcases ordered_eq_ok ho with ⟨horder, rfl⟩ | ⟨o, v, f, horder, hkey, hfield, rfl⟩
  · simp [projected_plain.1, horder]
  · simp [TableExpression.sorts, projected_plain.1, sees_projected_iff, horder, hkey, hfield]

/-- The program of a selection only aggregates fields that are visible. It is well-scoped exactly if
it does not project, or the field of the variable in the order is one of those that it projects; in
particular if that variable is selected. -/
theorem select_wellScoped_iff {settings : Settings} {lookups : Lookups Id} {keywords : List String}
    {p : Program} (hq : q.kind = .select)
    (h : Returns (convertQuery settings lookups q keywords) p) :
    ∃ ctx t, Returns (fold settings lookups q keywords) ctx ∧
      outputs (selectedVariables q) ctx.tables = [t] ∧
      (∀ x ∈ p.statement.aggregations, x.1.Sees x.2) ∧
      (p.statement.WellScoped ↔
        ∀ o ∈ q.order, ∀ v ∈ o.key?, ∀ f ∈ t.fieldFor? v,
          Projects t q → f ∈ outputFields (selectedVariables q) t) ∧
      ((∀ o ∈ q.order, ∀ v ∈ o.key?, v ∈ selectedVariables q) → p.statement.WellScoped) := by
  simp only [convertQuery, returns_bind, returns_mk] at h
  obtain ⟨ctx, hfold, hgen⟩ := h
  obtain ⟨t, houtputs, hfrom⟩ := generate_select hq hgen
  have haggregations := forall_aggregations_of_generateFrom hfrom
  have hscoped : p.statement.WellScoped ↔
      ∀ o ∈ q.order, ∀ v ∈ o.key?, ∀ f ∈ t.fieldFor? v,
        Projects t q → f ∈ outputFields (selectedVariables q) t := by
    rw [← forall_sorts_iff_of_generateFrom hfrom]
    exact ⟨fun hs => hs.sorts, fun hs => ⟨hs, haggregations⟩⟩
  refine ⟨ctx, t, hfold, houtputs, haggregations, hscoped, fun hselected => hscoped.mpr ?_⟩
  intro o ho v hv f hf _
  exact mem_outputFields_of_fieldFor? (hselected o ho v hv) hf

namespace Atlas

/-- The continents that are asked for may be sorted by. -/
theorem select_wellScoped_straddling :
    straddlingContinents.kind = .select ∧
      Returns (convertQuery settings lookups straddlingContinents []) straddlingProgram ∧
      straddlingProgram.statement.WellScoped := by
  have h : Returns (convertQuery settings lookups straddlingContinents []) straddlingProgram := rfl
  obtain ⟨_, _, _, _, _, _, hscoped⟩ := select_wellScoped_iff rfl h
  refine ⟨rfl, h, hscoped fun o ho v hv => ?_⟩
  obtain rfl := List.mem_singleton.mp ho
  obtain rfl := Option.some.inj hv
  decide

/-- Countries with their capitals and their populations. -/
def censusSettings : Settings where
  schema :=
    { tables := [("Q6256", "country")]
      fields :=
        [("P36", ⟨"capital", "P36", ⟨.entity "org.wikidata:p_capital", false⟩⟩),
         ("P1082", ⟨"population", "P1082", ⟨.number, false⟩⟩)] }

/-- The capitals of countries, by their populations. -/
def capitals : Query where
  kind := .select
  vars := ["c"]
  clauses :=
    [.basic
      [fact (.variable "x") "P31" "Q6256",
       { fact (.variable "x") "P36" "" with object := .variable "c" },
       { fact (.variable "x") "P1082" "" with object := .variable "p" }]]
  order := [⟨some "p", "asc"⟩]

/-- The capitals are sorted by a field that is no longer there. -/
theorem select_sorts_by_hidden :
    Returns (convertQuery censusSettings lookups capitals [])
      ⟨.sort (.projection (baseTable "country") ["capital"]) "population" "asc"⟩ ∧
      ¬ (TableExpression.sort (.projection (baseTable "country") ["capital"])
        "population" "asc").WellScoped := by
  refine ⟨rfl, fun h => ?_⟩
  exact absurd (h.sorts _ (List.mem_cons_self)) (by decide)

end Atlas

end Conversion

end GraphTalk
