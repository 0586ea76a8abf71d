import GraphTalk.Proofs.Conversion.Effects

/-!
# What tables record of effects

After a run of effects the table of a subject records the changes of it: all projections and
verifications, the type, and every filter up to equality (`performAll_record`).

A run succeeds if and only if every effect does by itself and no two of them contradict each other
(`performAll_succeeds_iff`). So neither what is recorded nor whether anything is depends on the
order of the effects.
-/

namespace GraphTalk.Conversion

open Knowledge

/-! ### Changes of one table -/

namespace Change

/-- The field that a change makes a variable stand for. -/
def projection? : Change → Option Projection
  | .projection p => some p
  | _ => none

/-- The condition that a change asks for. -/
def verification? : Change → Option Condition
  | .verification c => some c
  | _ => none

/-- Two changes do not contradict each other: a table has one type, and nothing is asked of a table
of which a field is asked for. -/
def Compatible : Change → Change → Prop
  | .type name, .type name' => name = name'
  | .projection _, .verification _ => False
  | .verification _, .projection _ => False
  | _, _ => True

lemma Compatible.symm {c d : Change} (h : c.Compatible d) : d.Compatible c := by
  cases c with
  | presence | filter => cases d <;> trivial
  | projection =>
    cases d with
    | verification => exact h
    | _ => trivial
  | type =>
    cases d with
    | type => exact Eq.symm h
    | _ => trivial
  | verification =>
    cases d with
    | projection => exact h
    | _ => trivial

end Change

variable {sc : Scope Id} {ts ts' : Tables} {s : String} {t t' : Table} {c : Change}

/-- A table records changes. -/
structure Table.Records (sc : Scope Id) (cs : List Change) (t : Table) : Prop where
  projections : t.projections = cs.filterMap Change.projection?
  verifications : t.verifications = cs.filterMap Change.verification?
  /-- Of equal filters one is enough. -/
  kept : ∀ c, .filter c ∈ cs → ∃ f ∈ t.filters, f = c ∨ f.same c = true
  filters : ∀ f ∈ t.filters, .filter f ∈ cs
  typed : ∀ name, .type name ∈ cs → t.typed = true ∧ t.name = name
  untyped : (∀ name, .type name ∉ cs) →
    t.typed = false ∧ ∃ t₀, Returns (newTable sc t.subject) t₀ ∧ t.name = t₀.name

lemma Table.Records.mem_projections {cs : List Change} (h : t.Records sc cs) {p : Projection} :
    p ∈ t.projections ↔ .projection p ∈ cs := by
  rw [h.projections, List.mem_filterMap]
  constructor
  · rintro ⟨c, hc, hp⟩
    cases c with
    | projection p' => exact Option.some.inj hp ▸ hc
    | _ => cases hp
  · exact fun hp => ⟨_, hp, rfl⟩

lemma Table.Records.mem_verifications {cs : List Change} (h : t.Records sc cs) {v : Condition} :
    v ∈ t.verifications ↔ .verification v ∈ cs := by
  rw [h.verifications, List.mem_filterMap]
  constructor
  · rintro ⟨c, hc, hv⟩
    cases c with
    | verification v' => exact Option.some.inj hv ▸ hc
    | _ => cases hv
  · exact fun hv => ⟨_, hv, rfl⟩

lemma Table.records_new (h : Returns (newTable sc s) t) : t.Records sc [] := by
  obtain ⟨name, rfl⟩ := newTable_eq h
  exact ⟨rfl, rfl, by simp, by simp, by simp, fun _ => ⟨rfl, _, h, rfl⟩⟩

/-- The filter that is added is there in the end, or an equal one is. -/
lemma Table.exists_mem_addFilter (t : Table) (c : Condition) :
    ∃ f ∈ (t.addFilter c).filters, f = c ∨ f.same c = true := by
  unfold Table.addFilter
  split
  · rename_i hany
    obtain ⟨f, hf, hsame⟩ := List.any_eq_true.mp hany
    exact ⟨f, hf, .inr hsame⟩
  · exact ⟨c, by simp, .inl rfl⟩

namespace Table

@[simp] lemma changed_projections (t : Table) (c : Change) :
    (t.changed c).projections = t.projections ++ c.projection?.toList := by
  cases c <;> simp [changed, Change.projection?]

@[simp] lemma changed_verifications (t : Table) (c : Change) :
    (t.changed c).verifications = t.verifications ++ c.verification?.toList := by
  cases c <;> simp [changed, Change.verification?]

lemma filters_subset_changed (t : Table) (c : Change) : t.filters ⊆ (t.changed c).filters := by
  cases c with
  | filter c =>
    rw [changed, addFilter]
    split
    · exact List.Subset.refl _
    · exact List.subset_append_left _ _
  | _ => exact List.Subset.refl _

lemma mem_filters_changed {f : Condition} (h : f ∈ (t.changed c).filters) :
    f ∈ t.filters ∨ c = .filter f := by
  cases c with
  | filter c => simpa [eq_comm] using mem_addFilter h
  | _ => exact .inl h

/-- A type stays. -/
lemma changed_typed (hc : t.Admits c) (h : t.typed = true) :
    (t.changed c).typed = true ∧ (t.changed c).name = t.name := by
  cases c with
  | filter c => simpa [changed] using h
  | type name => exact ⟨rfl, (hc h).symm⟩
  | _ => exact ⟨h, rfl⟩

/-- Nothing but a type changes the name. -/
lemma changed_untyped (h : ∀ name, c ≠ .type name) :
    (t.changed c).typed = t.typed ∧ (t.changed c).name = t.name := by
  cases c with
  | type name => exact absurd rfl (h name)
  | _ => simp [changed]

end Table

lemma filterMap_concat {α β : Type} (f : α → Option β) (as : List α) (a : α) :
    (as ++ [a]).filterMap f = as.filterMap f ++ (f a).toList := by
  rw [List.filterMap_append]
  cases h : f a with
  | none => simp [h]
  | some b => simp [h]

/-- One more change is recorded. -/
lemma Table.Records.changed {cs : List Change} (h : t.Records sc cs) (hc : t.Admits c) :
    (t.changed c).Records sc (cs ++ [c]) where
  projections := by rw [changed_projections, h.projections, filterMap_concat]
  verifications := by rw [changed_verifications, h.verifications, filterMap_concat]
  kept := by
    intro d hd
    rcases List.mem_append.mp hd with hd | hd
    · obtain ⟨f, hf, hfd⟩ := h.kept d hd
      exact ⟨f, filters_subset_changed t c hf, hfd⟩
    · obtain rfl := List.mem_singleton.mp hd
      exact t.exists_mem_addFilter d
  filters := by
    intro f hf
    rcases mem_filters_changed hf with hf | rfl
    · exact List.mem_append_left _ (h.filters f hf)
    · simp
  typed := by
    intro name hname
    rcases List.mem_append.mp hname with hname | hname
    · obtain ⟨htyped, rfl⟩ := h.typed name hname
      exact changed_typed hc htyped
    · obtain rfl := List.mem_singleton.mp hname
      exact ⟨rfl, rfl⟩
  untyped := by
    intro hnone
    obtain ⟨htyped, hname⟩ := changed_untyped (t := t) (c := c)
      fun name hc => hnone name (by simp [hc])
    rw [htyped, hname, changed_subject]
    exact h.untyped fun name hmem => hnone name (List.mem_append_left _ hmem)

/-- After a change a table can be changed as before, but not to contradict the change. -/
lemma Table.admits_changed {d : Change} (h : t.Admits c) :
    (t.changed c).Admits d ↔ t.Admits d ∧ c.Compatible d := by
  cases c with
  | presence | filter | projection | verification =>
    cases d <;> simp [Change.Compatible, changed, Admits]
  | type name =>
    cases d with
    | type name' =>
      simp only [Admits, changed, Change.Compatible, forall_const]
      constructor
      · rintro rfl
        exact ⟨h, rfl⟩
      · exact fun heq => heq.2
    | _ => simp [Change.Compatible, changed, Admits]

/-! ### Effects on all tables -/

/-- The changes of the table of a subject. -/
def changesOf (s : String) (es : List Effect) : List Change :=
  es.filterMap fun e => if e.subject = s then some e.change else none

@[simp] lemma mem_changesOf {es : List Effect} : c ∈ changesOf s es ↔ ⟨s, c⟩ ∈ es := by
  simp only [changesOf, List.mem_filterMap, Option.ite_none_right_eq_some, Option.some.injEq]
  constructor
  · rintro ⟨⟨s', c'⟩, he, rfl, rfl⟩
    exact he
  · intro h
    exact ⟨⟨s, c⟩, h, rfl, rfl⟩

lemma changesOf_append (es es' : List Effect) :
    changesOf s (es ++ es') = changesOf s es ++ changesOf s es' := by
  simp [changesOf]

/-- The table of a subject, or the one that is made if there is none. -/
def Tables.Current (sc : Scope Id) (ts : Tables) (s : String) (t : Table) : Prop :=
  ts.find? s = some t ∨ ts.find? s = none ∧ Returns (newTable sc s) t

lemma Tables.Current.unique {u : Table} (h : ts.Current sc s t) (h' : ts.Current sc s u) :
    t = u := by
  rcases h with hf | ⟨hf, hn⟩
  · rcases h' with hf' | ⟨hf', _⟩
    · exact Option.some.inj (hf.symm.trans hf')
    · cases hf.symm.trans hf'
  · rcases h' with hf' | ⟨_, hn'⟩
    · cases hf.symm.trans hf'
    · exact hn.unique hn'

lemma Tables.current_iff : ts.Current sc s t ↔ ∃ ts₁, Returns (openTable sc ts s) (ts₁, t) := by
  simp only [Tables.Current, openTable_iff]
  constructor
  · rintro (hf | ⟨hf, hn⟩)
    · exact ⟨ts, .inl ⟨hf, rfl⟩⟩
    · exact ⟨_, .inr ⟨hf, hn, rfl⟩⟩
  · rintro ⟨ts₁, ⟨hf, _⟩ | ⟨hf, hn, _⟩⟩
    · exact .inl hf
    · exact .inr ⟨hf, hn⟩

/-- An effect changes the table of its subject and no other. -/
lemma perform_find? {e : Effect} (h : Returns (perform sc ts e) ts') :
    ∃ t, ts.Current sc e.subject t ∧ t.Admits e.change ∧
      ∀ s, ts'.find? s = if e.subject = s then some (t.changed e.change) else ts.find? s := by
  obtain ⟨ts₁, t, t', hopen, hc, rfl⟩ := perform_iff.mp h
  obtain ⟨hadmits, rfl⟩ := Table.change_eq_ok_iff.mp hc
  refine ⟨t, Tables.current_iff.mpr ⟨ts₁, hopen⟩, hadmits, fun s => ?_⟩
  rw [Tables.find?_put, Table.changed_subject, openTable_subject hopen, openTable_find? hopen]
  split
  · rfl
  · rfl

/-- The tables record effects: each subject of an effect has a table, and that table records the
changes of it. -/
structure Tables.Record (sc : Scope Id) (es : List Effect) (ts : Tables) : Prop where
  absent : ∀ s, ts.find? s = none → changesOf s es = []
  present : ∀ s t, ts.find? s = some t → changesOf s es ≠ [] ∧ t.Records sc (changesOf s es)

lemma Tables.record_nil : Tables.Record sc [] [] :=
  ⟨fun _ _ => rfl, fun s t h => by simp [Tables.find?] at h⟩

/-- One more effect is recorded. -/
lemma Tables.Record.perform {e : Effect} {es : List Effect} (h : ts.Record sc es)
    (he : Returns (perform sc ts e) ts') : ts'.Record sc (es ++ [e]) := by
  obtain ⟨t, hcur, hc, hfind⟩ := perform_find? he
  have hchanges : ∀ s, changesOf s (es ++ [e]) =
      changesOf s es ++ if e.subject = s then [e.change] else [] := by
    intro s
    rw [changesOf_append]
    by_cases hs : e.subject = s
    · simp [changesOf, hs]
    · simp [changesOf, hs]
  -- a table that is made now has no changes to record, as there were none of its subject
  have hrecords : t.Records sc (changesOf e.subject es) := by
    rcases hcur with hf | ⟨hf, hn⟩
    · exact (h.present _ _ hf).2
    · rw [h.absent _ hf]
      exact Table.records_new hn
  constructor
  · intro s hs
    rw [hfind] at hs
    split at hs
    · cases hs
    · rename_i hne
      rw [hchanges, if_neg hne, List.append_nil]
      exact h.absent s hs
  · intro s u hu
    rw [hfind] at hu
    split at hu
    · rename_i heq
      subst heq
      obtain rfl := Option.some.inj hu
      rw [hchanges, if_pos rfl]
      exact ⟨by simp, hrecords.changed hc⟩
    · rename_i hne
      rw [hchanges, if_neg hne, List.append_nil]
      exact h.present s u hu

/-- All effects of a run are recorded. -/
theorem performAll_record {es es' : List Effect} (hts : ts.Record sc es)
    (h : Returns (performAll sc ts es') ts') : ts'.Record sc (es ++ es') := by
  induction es' generalizing ts es with
  | nil =>
    obtain rfl := performAll_nil.mp h
    simpa using hts
  | cons e es' ih =>
    obtain ⟨ts₁, he, hrest⟩ := performAll_cons.mp h
    simpa using ih (hts.perform he) hrest

/-! ### Success -/

/-- Two effects do not contradict each other. -/
def Effect.Compatible (e f : Effect) : Prop :=
  e.subject = f.subject → e.change.Compatible f.change

lemma Effect.Compatible.symm {e f : Effect} (h : e.Compatible f) : f.Compatible e :=
  fun hs => (h hs.symm).symm

/-- An effect succeeds if the table of its subject can be changed. -/
lemma perform_succeeds_iff {e : Effect} :
    (∃ ts', Returns (perform sc ts e) ts') ↔
      ∃ t, ts.Current sc e.subject t ∧ t.Admits e.change := by
  constructor
  · rintro ⟨ts', h⟩
    obtain ⟨t, hcur, hc, _⟩ := perform_find? h
    exact ⟨t, hcur, hc⟩
  · rintro ⟨t, hcur, hc⟩
    obtain ⟨ts₁, hopen⟩ := Tables.current_iff.mp hcur
    exact ⟨_, perform_iff.mpr ⟨ts₁, t, _, hopen, Table.change_eq_ok_iff.mpr ⟨hc, rfl⟩, rfl⟩⟩

/-- After an effect the others succeed as before, if they do not contradict it. -/
lemma perform_succeeds_after {e f : Effect} (h : Returns (perform sc ts e) ts') :
    (∃ ts₁, Returns (perform sc ts' f) ts₁) ↔
      (∃ ts₁, Returns (perform sc ts f) ts₁) ∧ e.Compatible f := by
  obtain ⟨t, hcur, hc, hfind⟩ := perform_find? h
  simp only [perform_succeeds_iff, Effect.Compatible]
  by_cases hs : e.subject = f.subject
  · -- the table that the second effect finds is the one that the first has left
    have hcur' : ts'.Current sc f.subject (t.changed e.change) := .inl (by rw [hfind, if_pos hs])
    constructor
    · rintro ⟨u, hu, hadmits⟩
      obtain rfl := hu.unique hcur'
      obtain ⟨hbefore, hcompatible⟩ := (Table.admits_changed hc).mp hadmits
      exact ⟨⟨t, hs ▸ hcur, hbefore⟩, fun _ => hcompatible⟩
    · rintro ⟨⟨u, hu, hadmits⟩, hcompatible⟩
      obtain rfl := hu.unique (hs ▸ hcur)
      exact ⟨_, hcur', (Table.admits_changed hc).mpr ⟨hadmits, hcompatible hs⟩⟩
  · simp [Tables.Current, hfind, hs]

/-- A run succeeds if and only if all effects do and no two contradict each other. -/
theorem performAll_succeeds_iff {es : List Effect} :
    (∃ ts', Returns (performAll sc ts es) ts') ↔
      (∀ e ∈ es, ∃ ts', Returns (perform sc ts e) ts') ∧ es.Pairwise Effect.Compatible := by
  induction es generalizing ts with
  | nil => simp
  | cons e es ih =>
    rw [List.pairwise_cons, List.forall_mem_cons]
    constructor
    · rintro ⟨ts', h⟩
      obtain ⟨ts₁, he, hrest⟩ := performAll_cons.mp h
      obtain ⟨heach, hpairs⟩ := ih.mp ⟨ts', hrest⟩
      have hafter := fun f hf => (perform_succeeds_after he).mp (heach f hf)
      exact ⟨⟨⟨ts₁, he⟩, fun f hf => (hafter f hf).1⟩, fun f hf => (hafter f hf).2, hpairs⟩
    · rintro ⟨⟨⟨ts₁, he⟩, heach⟩, hcompatible, hpairs⟩
      have hafter := fun f hf =>
        (perform_succeeds_after he).mpr ⟨heach f hf, hcompatible f hf⟩
      obtain ⟨ts', hrest⟩ := ih.mpr ⟨hafter, hpairs⟩
      exact ⟨ts', performAll_cons.mpr ⟨ts₁, he, hrest⟩⟩

/-- Whether a run succeeds does not depend on the order of its effects. -/
lemma performAll_succeeds_perm {es es' : List Effect} (h : es.Perm es') :
    (∃ ts', Returns (performAll sc ts es) ts') ↔
      ∃ ts', Returns (performAll sc ts es') ts' := by
  rw [performAll_succeeds_iff, performAll_succeeds_iff,
    h.pairwise_iff (fun h => Effect.Compatible.symm h)]
  simp only [h.mem_iff]

end GraphTalk.Conversion
