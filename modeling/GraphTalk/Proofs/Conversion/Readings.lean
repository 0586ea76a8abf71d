import GraphTalk.Proofs.Conversion.GroupBounds

/-!
# Tables that are read alike

A field that a variable stands for twice in a table is no more than one that it stands for once. Two
tables are read alike if they agree in everything but that: in the field that a variable stands for,
in the fields that are asked for, and in all else that they hold.

Changes, conditions on groups and programs respect this. A change that is made once more, after it
has been recorded, leaves a table that is read alike (`Table.Records.readAlike`).
-/

namespace GraphTalk.Conversion

open Sparql Knowledge

/-- Two tables are read alike: they are the same but for fields that a variable stands for again. -/
structure Table.ReadAlike (t t' : Table) : Prop where
  subject : t.subject = t'.subject
  name : t.name = t'.name
  typed : t.typed = t'.typed
  filters : t.filters = t'.filters
  verifications : t.verifications = t'.verifications
  fieldFor? : ∀ v, t.fieldFor? v = t'.fieldFor? v
  outputFields : ∀ selected, outputFields selected t = outputFields selected t'

/-- Tables are read alike one by one. -/
abbrev Tables.ReadAlike (ts ts' : Tables) : Prop := List.Forall₂ Table.ReadAlike ts ts'

variable {sc : Scope Id} {ts ts' u : Tables} {t t' w w' : Table} {c : Change} {q : Query}

/-! ### Tables -/

namespace Table

namespace ReadAlike

lemma refl (t : Table) : t.ReadAlike t := ⟨rfl, rfl, rfl, rfl, rfl, fun _ => rfl, fun _ => rfl⟩

lemma symm (h : t.ReadAlike t') : t'.ReadAlike t where
  subject := h.subject.symm
  name := h.name.symm
  typed := h.typed.symm
  filters := h.filters.symm
  verifications := h.verifications.symm
  fieldFor? := fun v => (h.fieldFor? v).symm
  outputFields := fun selected => (h.outputFields selected).symm

lemma trans (h : t.ReadAlike t') (h' : t'.ReadAlike w) : t.ReadAlike w where
  subject := h.subject.trans h'.subject
  name := h.name.trans h'.name
  typed := h.typed.trans h'.typed
  filters := h.filters.trans h'.filters
  verifications := h.verifications.trans h'.verifications
  fieldFor? := fun v => (h.fieldFor? v).trans (h'.fieldFor? v)
  outputFields := fun selected => (h.outputFields selected).trans (h'.outputFields selected)

end ReadAlike

/-- The field of one more projection matters only to a variable that stands for none yet. -/
lemma fieldFor?_changed_projection (t : Table) (p : Projection) (v : String) :
    (t.changed (.projection p)).fieldFor? v =
      (t.fieldFor? v).or (if p.name = v then some p.field else none) := by
  simp only [Table.fieldFor?, Table.changed, List.find?_append, List.find?_singleton,
    Option.map_or, beq_iff_eq]
  by_cases hp : p.name = v
  · simp [hp]
  · simp [hp]

/-- The field of one more projection is asked for if its variable is and the field is not yet. -/
lemma outputFields_changed_projection (t : Table) (p : Projection) (selected : List String) :
    outputFields selected (t.changed (.projection p)) =
      if selected.contains p.name && !(outputFields selected t).contains p.field then
        outputFields selected t ++ [p.field]
      else outputFields selected t := by
  simp only [Conversion.outputFields, Table.changed, List.foldl_append, List.foldl_cons,
    List.foldl_nil]
  rfl

/-- Tables that are read alike are so after the same change. -/
lemma ReadAlike.changed (h : t.ReadAlike t') (c : Change) :
    (t.changed c).ReadAlike (t'.changed c) := by
  cases c with
  | presence => exact h
  | filter f =>
    have hfilters : (t.addFilter f).filters = (t'.addFilter f).filters := by
      simp only [addFilter, h.filters]
      split
      · exact h.filters
      · rfl
    refine ⟨?_, ?_, ?_, hfilters, ?_, ?_, ?_⟩
    · simpa [Table.changed] using h.subject
    · simpa [Table.changed] using h.name
    · simpa [Table.changed] using h.typed
    · simpa [Table.changed] using h.verifications
    · intro v
      simpa [Table.changed, Table.fieldFor?] using h.fieldFor? v
    · intro selected
      simpa [Table.changed, Conversion.outputFields, variableName?] using h.outputFields selected
  | projection p =>
    refine ⟨h.subject, h.name, h.typed, h.filters, h.verifications, ?_, ?_⟩
    · intro v
      rw [fieldFor?_changed_projection, fieldFor?_changed_projection, h.fieldFor?]
    · intro selected
      rw [outputFields_changed_projection, outputFields_changed_projection, h.outputFields]
  | type name =>
    exact ⟨h.subject, rfl, rfl, h.filters, h.verifications, h.fieldFor?, h.outputFields⟩
  | verification f =>
    refine ⟨h.subject, h.name, h.typed, h.filters, ?_, h.fieldFor?, h.outputFields⟩
    simp only [Table.changed, h.verifications]

/-- A projection that is there may come again. -/
lemma readAlike_projection {p : Projection} (hp : p ∈ t.projections) :
    t.ReadAlike (t.changed (.projection p)) := by
  refine ⟨rfl, rfl, rfl, rfl, rfl, ?_, ?_⟩
  · intro v
    rw [fieldFor?_changed_projection]
    by_cases hv : p.name = v
    · -- the variable stands for a field already, maybe for another one
      cases hf : t.fieldFor? v with
      | none => exact absurd ⟨p, hp, hv⟩ (fieldFor?_eq_none_iff.mp hf)
      | some f => rfl
    · simp [hv]
  · intro selected
    rw [outputFields_changed_projection]
    by_cases hselected : p.name ∈ selected
    · have hthere : p.field ∈ outputFields selected t :=
        mem_outputFields_iff.mpr (.inr ⟨p, hp, hselected, rfl⟩)
      simp [hthere]
    · simp [hselected]

end Table

/-- A change may be made again: it adds no condition that is not equal to itself, and asks for
nothing. -/
def Change.Repeatable : Change → Prop
  | .filter c => c.same c = true
  | .verification _ => False
  | _ => True

/-- A change that a table records may be made again. -/
lemma Table.Records.readAlike {cs : List Change} (h : t.Records sc cs) (hc : c ∈ cs)
    (hrepeatable : c.Repeatable) : t.ReadAlike (t.changed c) := by
  cases c with
  | presence => exact .refl t
  | filter f =>
    obtain ⟨g, hg, hsame⟩ := h.kept f hc
    have hthere : t.filters.any (fun d => d.same f) = true := by
      apply List.any_eq_true.mpr
      rcases hsame with rfl | hsame
      · exact ⟨g, hg, hrepeatable⟩
      · exact ⟨g, hg, hsame⟩
    rw [Table.changed, Table.addFilter, if_pos hthere]
    exact .refl t
  | projection p => exact Table.readAlike_projection (h.mem_projections.mpr hc)
  | type name =>
    obtain ⟨htyped, rfl⟩ := h.typed name hc
    have hsame : t.changed (.type t.name) = t := by
      rw [Table.changed, ← htyped]
    rw [hsame]
    exact .refl t
  | verification f => exact absurd hrepeatable id

/-! ### Several tables -/

namespace Tables.ReadAlike

lemma refl (ts : Tables) : ts.ReadAlike ts := List.forall₂_same.mpr fun t _ => .refl t

lemma symm (h : ts.ReadAlike ts') : ts'.ReadAlike ts :=
  h.flip.imp fun _ _ h => h.symm

lemma trans (h : ts.ReadAlike ts') (h' : ts'.ReadAlike u) : ts.ReadAlike u := by
  induction h generalizing u with
  | nil => exact h'
  | cons ht _ ih =>
    obtain ⟨w, us, hw, hus, rfl⟩ := List.forall₂_cons_left_iff.mp h'
    exact .cons (ht.trans hw) (ih hus)

lemma subjects (h : ts.ReadAlike ts') : ts.map Table.subject = ts'.map Table.subject := by
  rw [← List.forall₂_eq_eq_eq]
  exact List.rel_map (fun _ _ ht => ht.subject) h

/-- Tables stay alike if one is replaced on both sides. -/
lemma put (h : ts.ReadAlike ts') (hw : w.ReadAlike w') : (ts.put w).ReadAlike (ts'.put w') := by
  induction h with
  | nil => exact .nil
  | @cons t t' ts ts' ht _ ih =>
    refine .cons ?_ ih
    by_cases hs : t'.subject = w'.subject
    · simpa [ht.subject, hw.subject, hs] using hw
    · simpa [ht.subject, hw.subject, hs] using ht

/-- A table may be replaced by one that is read alike. -/
lemma trans_put (h : ts.ReadAlike ts') (hw : ∀ t ∈ ts', t.subject = w.subject → t.ReadAlike w) :
    ts.ReadAlike (ts'.put w) := by
  induction h with
  | nil => exact .nil
  | @cons t t' ts ts' ht _ ih =>
    obtain ⟨ht', hts'⟩ := List.forall_mem_cons.mp hw
    refine .cons ?_ (ih hts')
    by_cases hs : t'.subject = w.subject
    · simpa [hs] using ht.trans (ht' hs)
    · simpa [hs] using ht

lemma find? (h : ts.ReadAlike ts') (s : String) :
    (ts.find? s = none ∧ ts'.find? s = none) ∨
      ∃ t t', ts.find? s = some t ∧ ts'.find? s = some t' ∧ t.ReadAlike t' := by
  induction h with
  | nil => exact .inl ⟨rfl, rfl⟩
  | @cons t t' ts ts' ht _ ih =>
    by_cases hs : t'.subject = s
    · refine .inr ⟨t, t', ?_, ?_, ht⟩
      · simp [Tables.find?, ht.subject, hs]
      · simp [Tables.find?, hs]
    · simpa [Tables.find?, ht.subject, hs] using ih

lemma ownerOf? (h : ts.ReadAlike ts') {v field : String} (ho : ts.ownerOf? v = some (t, field)) :
    ∃ t', ts'.ownerOf? v = some (t', field) ∧ t.ReadAlike t' := by
  induction h with
  | nil => cases ho
  | @cons u u' us us' hu _ ih =>
    unfold Tables.ownerOf? at ho ⊢
    rw [← hu.fieldFor? v]
    cases hf : u.fieldFor? v with
    | some g =>
      simp only [hf, Option.some.injEq, Prod.mk.injEq] at ho ⊢
      obtain ⟨rfl, rfl⟩ := ho
      exact ⟨u', ⟨rfl, rfl⟩, hu⟩
    | none =>
      simp only [hf] at ho ⊢
      exact ih ho

/-! ### Conditions on groups -/

lemma foldHavings {hs : List HavingCondition} (h : ts.ReadAlike ts')
    (hfold : foldHavings ts hs = .ok u) :
    ∃ u', Conversion.foldHavings ts' hs = .ok u' ∧ ReadAlike u u' := by
  induction hs generalizing ts ts' with
  | nil =>
    cases hfold
    exact ⟨ts', rfl, h⟩
  | cons c hs ih =>
    obtain ⟨ts₁, hfirst, hrest⟩ := foldHavings_cons.mp hfold
    obtain ⟨v, bound, n, t, field, hcounts, howner, rfl⟩ := foldHaving_iff.mp hfirst
    obtain ⟨t', howner', ht⟩ := h.ownerOf? howner
    have hfirst' := foldHaving_iff.mpr ⟨v, bound, n, t', field, hcounts, howner', rfl⟩
    obtain ⟨u', hrest', hu⟩ := ih (h.put (ht.changed (.filter _))) hrest
    exact ⟨u', foldHavings_cons.mpr ⟨_, hfirst', hrest'⟩, hu⟩

lemma foldGroups (h : ts.ReadAlike ts') (hfold : foldGroups ts q = .ok u) :
    ∃ u', Conversion.foldGroups ts' q = .ok u' ∧ ReadAlike u u' := by
  obtain ⟨hgroup, hhavings⟩ := foldGroups_iff.mp hfold
  obtain ⟨u', hhavings', hu⟩ := h.foldHavings hhavings
  exact ⟨u', foldGroups_iff.mpr ⟨hgroup, hhavings'⟩, hu⟩

end Tables.ReadAlike

/-! ### Programs -/

lemma Table.ReadAlike.generateFrom_eq (h : t.ReadAlike t') :
    generateFrom t q = generateFrom t' q := by
  have hfiltered : filtered t (baseTable t.name) = filtered t' (baseTable t'.name) := by
    rw [filtered, filtered, h.filters, h.name]
  have hordered : ∀ e, ordered t q e = ordered t' q e := by
    intro e
    simp only [ordered, h.fieldFor?]
  have haggregate : aggregateField? t = aggregateField? t' := by
    funext a
    unfold aggregateField?
    cases a.argument? with
    | none => rfl
    | some v =>
      simp only [variableName?, h.subject, h.fieldFor?]
      rfl
  simp only [generateFrom, h.outputFields, hfiltered, hordered, haggregate]

lemma Tables.ReadAlike.outputs (h : ts.ReadAlike ts') (selected : List String) :
    ReadAlike (outputs selected ts) (outputs selected ts') := by
  refine List.rel_filter (fun t t' ht => ?_) h
  simp only [ht.outputFields]

/-- Tables that are read alike give the same program. -/
lemma Tables.ReadAlike.generateSelect_eq (h : ts.ReadAlike ts') :
    generateSelect ts q = generateSelect ts' q := by
  have houtputs := h.outputs (selectedVariables q)
  have hsubjects := houtputs.subjects
  unfold generateSelect
  generalize Conversion.outputs (selectedVariables q) ts = us at houtputs hsubjects ⊢
  generalize Conversion.outputs (selectedVariables q) ts' = us' at houtputs hsubjects ⊢
  cases houtputs with
  | nil => rfl
  | cons ht hts =>
    cases hts with
    | nil => simp only [single, ht.generateFrom_eq]
    | cons => simp only [single, hsubjects]

end GraphTalk.Conversion
