import GraphTalk.Proofs.Conversion.Account
import GraphTalk.Proofs.Conversion.Question
import GraphTalk.Proofs.Schema.Names

/-!
# What holds of every folded table

A table belongs to an entity or to a variable. That of an entity has the name of the entity's domain
and starts with the identity of the entity; that of a variable has the type that the triples give to
the variable. Only entities are asked something of (`fold_invariants`).

The table of a subject is a new table after the changes of it, one after the other
(`performAll_find?`). The first change of the table of an entity is its identity, whichever of its
triples comes first (`ClausePlan.introduced`).
-/

namespace GraphTalk.Conversion

open Rdf Sparql Knowledge

variable {sc : Scope Id} {ts ts' : Tables} {s : String} {t t' : Table} {tr : Triple} {p : Plan}
  {es : List Effect} {cs : List Change}

/-! ### Tables after changes -/

/-- The table of a subject is the one that was there, or a new one, after the changes of it. -/
lemma performAll_find? (h : Returns (performAll sc ts es) ts') (hf : ts'.find? s = some t) :
    ∃ t₀, ts.Current sc s t₀ ∧ t = (changesOf s es).foldl Table.changed t₀ := by
  induction es generalizing ts with
  | nil =>
    obtain rfl := performAll_nil.mp h
    exact ⟨t, .inl hf, rfl⟩
  | cons e es ih =>
    obtain ⟨ts₁, he, hrest⟩ := performAll_cons.mp h
    obtain ⟨u, hcur, _, hfind⟩ := perform_find? he
    obtain ⟨t₁, hcur₁, rfl⟩ := ih hrest
    by_cases hs : e.subject = s
    · have hu : t₁ = u.changed e.change := hcur₁.unique (.inl (by rw [hfind, if_pos hs]))
      exact ⟨u, hs ▸ hcur, by simp [changesOf, hs, hu]⟩
    · have hsame : ts₁.find? s = ts.find? s := by rw [hfind, if_neg hs]
      exact ⟨t₁, by simpa [Tables.Current, hsame] using hcur₁, by simp [changesOf, hs]⟩

namespace Table

/-- No filter is there twice. -/
def Distinct (t : Table) : Prop := t.filters.Pairwise fun f g => f.same g = false

lemma filters_changed (t : Table) (c : Change) :
    (t.changed c).filters = t.filters ∨
      ∃ f, (∀ g ∈ t.filters, g.same f = false) ∧ (t.changed c).filters = t.filters ++ [f] := by
  cases c with
  | filter f =>
    simp only [changed, addFilter]
    split
    · exact .inl rfl
    · rename_i hnone
      exact .inr ⟨f, by simpa using hnone, rfl⟩
  | _ => exact .inl rfl

lemma filters_prefix_changed (t : Table) (c : Change) : t.filters <+: (t.changed c).filters := by
  rcases t.filters_changed c with h | ⟨f, _, h⟩
  · exact h ▸ List.prefix_rfl
  · exact h ▸ List.prefix_append _ _

lemma Distinct.changed (h : t.Distinct) (c : Change) : (t.changed c).Distinct := by
  rcases t.filters_changed c with hc | ⟨f, hnew, hc⟩
  · rwa [Distinct, hc]
  · rw [Distinct, hc, List.pairwise_append]
    refine ⟨h, List.pairwise_singleton _ _, ?_⟩
    simpa using hnew

lemma filters_prefix_foldl (t : Table) (cs : List Change) :
    t.filters <+: (cs.foldl changed t).filters := by
  induction cs generalizing t with
  | nil => exact List.prefix_rfl
  | cons c cs ih => exact (t.filters_prefix_changed c).trans (ih _)

lemma Distinct.foldl (h : t.Distinct) (cs : List Change) : (cs.foldl Table.changed t).Distinct := by
  induction cs generalizing t with
  | nil => exact h
  | cons c cs ih => exact ih (h.changed c)

end Table

/-! ### The first change of the table of an entity -/

/-- Changes of the table of an entity start with its identity. -/
def Introduced (sc : Scope Id) (s : String) (cs : List Change) : Prop :=
  ∀ c ∈ cs.head?, ∃ i, Returns (identity sc s) i ∧ c = .filter i

lemma Introduced.append {cs' : List Change} (h : Introduced sc s cs)
    (h' : cs = [] → Introduced sc s cs') : Introduced sc s (cs ++ cs') := by
  cases cs with
  | nil => exact h' rfl
  | cons c cs => exact h

lemma changesOf_introduces {c : Change} {u : String} (hs : Text.dropStart? "?" s = none)
    (h : Introduces sc tr u es) : Introduced sc s (changesOf s (es ++ [⟨u, c⟩])) := by
  cases h with
  | @ofVariable v _ hu =>
    have hne : u ≠ s := by
      rintro rfl
      rw [hu, Text.dropStart?_append] at hs
      cases hs
    simp [changesOf, Introduced, hne]
  | @ofEntity i _ hi =>
    by_cases hu : u = s
    · subst hu
      simp [changesOf, Introduced, hi]
    · simp [changesOf, Introduced, hu]

lemma TriplePlan.introduced (hs : Text.dropStart? "?" s = none) (h : TriplePlan sc tr p) :
    Introduced sc s (changesOf s p.effects) := by
  cases h with
  | projection hi => exact changesOf_introduces hs hi
  | type hi => exact changesOf_introduces hs hi
  | condition hi => exact changesOf_introduces hs hi

variable {trs : List Triple} {ps : List Plan}

lemma planEffects_introduced (hs : Text.dropStart? "?" s = none)
    (h : List.Forall₂ (TriplePlan sc) trs ps) : Introduced sc s (changesOf s (planEffects ps)) := by
  induction h with
  | nil => simp [planEffects, changesOf, Introduced]
  | cons hp _ ih =>
    rw [planEffects, List.flatMap_cons, changesOf_append]
    exact (hp.introduced hs).append fun _ => ih

/-- A condition that is left to be added is on a subject whose table is there. -/
lemma presence_of_planAtoms (h : List.Forall₂ (TriplePlan sc) trs ps) {a : Atom}
    (ha : a ∈ planAtoms ps) : ⟨a.subject, .presence⟩ ∈ planEffects ps := by
  obtain ⟨p, hp, hatom⟩ := List.mem_flatMap.mp ha
  obtain ⟨tr, _, hplan⟩ := exists_of_forall₂_right h hp
  refine List.mem_flatMap.mpr ⟨p, hp, ?_⟩
  cases hplan with
  | projection | type => simp at hatom
  | condition hi hstates =>
    obtain rfl : a = _ := by simpa using hatom
    simp

/-- So no condition comes before the identity of its subject. -/
lemma Introduced.atoms (hs : Text.dropStart? "?" s = none)
    (h : List.Forall₂ (TriplePlan sc) trs ps) (as : List Atom)
    (has : ∀ a ∈ as, ∃ b ∈ planAtoms ps, b.subject = a.subject) :
    Introduced sc s (changesOf s (planEffects ps ++ as.map Atom.effect)) := by
  rw [changesOf_append]
  refine (planEffects_introduced hs h).append fun hnil c hc => ?_
  have hmem := mem_changesOf.mp (List.mem_of_mem_head? hc)
  obtain ⟨a, ha, heffect⟩ := List.mem_map.mp hmem
  obtain ⟨b, hb, hsub⟩ := has a ha
  have hpresence : Change.presence ∈ changesOf s (planEffects ps) := by
    rw [mem_changesOf, ← show b.subject = s from hsub.trans (congrArg Effect.subject heffect)]
    exact presence_of_planAtoms h hb
  simp [hnil] at hpresence

lemma ClausePlan.introduced {cl : Clause} (hs : Text.dropStart? "?" s = none)
    (h : ClausePlan sc cl es) : Introduced sc s (changesOf s es) := by
  cases h with
  | basic hps => exact .atoms hs hps _ fun a ha => ⟨a, ha, rfl⟩
  | @widened _ tr p _ hp =>
    have hps : List.Forall₂ (TriplePlan sc) [tr] [p] := .cons hp .nil
    have hatoms : planAtoms [p] = p.atom.toList := by simp [planAtoms]
    simpa [planEffects] using Introduced.atoms hs hps p.atom.toList fun a ha =>
      ⟨a, hatoms ▸ ha, rfl⟩
  | @union _ _ ps qs a b as bs _ hl hr ha _ _ =>
    have hplans := List.rel_append hl hr
    rw [← planEffects_append]
    refine Introduced.atoms hs hplans [unionAtom a as b bs] fun d hd => ?_
    refine ⟨a, by simp [ha], ?_⟩
    obtain rfl := List.mem_singleton.mp hd
    rfl

lemma plans_introduced {cls : List Clause} {ess : List (List Effect)}
    (hs : Text.dropStart? "?" s = none) (h : List.Forall₂ (ClausePlan sc) cls ess) :
    Introduced sc s (changesOf s ess.flatten) := by
  induction h with
  | nil => simp [changesOf, Introduced]
  | cons hc _ ih =>
    rw [List.flatten_cons, changesOf_append]
    exact (hc.introduced hs).append fun _ => ih

/-! ### The identity of an entity -/

/-- No filter is there twice, and the first filter of the table of an entity is its identity. -/
structure Identified (sc : Scope Id) (t : Table) : Prop where
  distinct : t.Distinct
  first : Text.dropStart? "?" t.subject = none →
    ∃ i, Returns (identity sc t.subject) i ∧ [i] <+: t.filters

lemma Identified.changed (h : Identified sc t) (c : Change) : Identified sc (t.changed c) where
  distinct := h.distinct.changed c
  first := by
    intro hs
    rw [Table.changed_subject] at hs ⊢
    obtain ⟨i, hi, hfirst⟩ := h.first hs
    exact ⟨i, hi, hfirst.trans (t.filters_prefix_changed c)⟩

/-- A new table is identified after changes that start with the identity. -/
lemma Identified.of_changes {t₀ : Table} (hnew : Returns (newTable sc s) t₀) (hne : cs ≠ [])
    (hcs : Text.dropStart? "?" s = none → Introduced sc s cs) :
    Identified sc (cs.foldl Table.changed t₀) := by
  obtain ⟨name, rfl⟩ := newTable_eq hnew
  have hsubject : ∀ (cs : List Change) (t : Table),
      (cs.foldl Table.changed t).subject = t.subject := by
    intro cs
    induction cs with
    | nil => simp
    | cons c cs ih => simp [ih]
  constructor
  · exact Table.Distinct.foldl (t := { subject := s, name }) List.Pairwise.nil cs
  · intro hs
    rw [hsubject] at hs ⊢
    obtain ⟨c, rest, rfl⟩ := List.exists_cons_of_ne_nil hne
    obtain ⟨i, hi, rfl⟩ := hcs hs c rfl
    rw [List.foldl_cons]
    exact ⟨i, hi,
      Table.filters_prefix_foldl (Table.changed { subject := s, name } (.filter i)) rest⟩

/-- What is kept by adding a filter is kept by conditions on groups. -/
lemma foldHavings_forall {P : Table → Prop} {hs : List HavingCondition}
    (hP : ∀ t c, P t → P (t.addFilter c)) (hts : ∀ t ∈ ts, P t)
    (h : foldHavings ts hs = .ok ts') : ∀ t ∈ ts', P t := by
  induction hs generalizing ts with
  | nil =>
    cases h
    exact hts
  | cons hc hs ih =>
    obtain ⟨ts₁, hfirst, hrest⟩ := foldHavings_cons.mp h
    obtain ⟨u, hu, c, _, rfl⟩ := foldHaving_eq_ok hfirst
    refine ih ?_ hrest
    intro t ht
    rcases Tables.mem_put.mp ht with ⟨rfl, _⟩ | ⟨ht, _⟩
    · exact hP u c (hts u hu)
    · exact hts t ht

section

variable {settings : Settings} {lookups : Lookups Id} {q : Query} {keywords : List String}
  {c : Context}

lemma fold_identified (h : Returns (fold settings lookups q keywords) c) :
    ∀ t ∈ c.tables, Identified (queryScope settings lookups q keywords) t := by
  obtain ⟨ts, ts', hclauses, hgroups, rfl⟩ := fold_iff.mp h
  have hn := foldClauses_nodup hclauses
  obtain ⟨ess, hess, hperform⟩ := foldClauses_iff.mp hclauses
  have hrecord := performAll_record Tables.record_nil hperform
  refine foldHavings_forall (fun t c ht => ht.changed (.filter c)) ?_ (foldGroups_eq_ok hgroups)
  intro t ht
  have hfind := Tables.find?_of_mem hn ht
  obtain ⟨t₀, hcur, htable⟩ := performAll_find? hperform hfind
  rw [htable]
  refine .of_changes (s := t.subject) ?_ (hrecord.present _ _ hfind).1 fun hs =>
    plans_introduced hs hess
  simpa [Tables.Current, Tables.find?] using hcur

/-- The condition of being an entity, which is shown by some words. -/
def isEntity (e d : String) : Condition := .atom "id" "==" (.entity e genericEntityType d)

/-- An entity is shown by the same words wherever it occurs in a filter. -/
lemma Founded.display {e d : String} (h : Founded sc q t) (hf : isEntity e d ∈ t.filters) :
    Returns (display sc e) d := by
  have hstates : ∀ {tr : Triple} {s : String}, States sc tr s (isEntity e d) →
      Returns (Conversion.display sc e) d := by
    intro tr s hstates
    obtain ⟨p, _, hatom⟩ := hstates.condition
    obtain ⟨f, v, _, hv, heq⟩ := atom_iff.mp hatom
    obtain ⟨_, _, rfl⟩ := Condition.atom.inj heq
    rcases value_iff.mp hv with ⟨_, e', d', _, _, hd, heq⟩ | ⟨_, l, _, heq⟩
    · cases heq
      exact hd
    · simp only [literalValue] at heq
      split at heq <;> cases heq
  rcases h.filters _ hf with ⟨cl, _, hyields⟩ | ⟨_, _, _, hi⟩ | ⟨hc, _, hbounds⟩
  · cases hyields with
    | basic _ h => exact hstates h
    | widened _ h => exact hstates h
  · obtain ⟨d', hd, heq⟩ := identity_iff.mp hi
    cases heq
    exact hd
  · cases hbounds

/-- The identity of an entity is the first filter of its table and no other one. -/
lemma Identified.filters_eq (h : Identified sc t) (hfounded : Founded sc q t)
    (hs : Text.dropStart? "?" t.subject = none) :
    ∃ d rest, Returns (display sc t.subject) d ∧ t.filters = isEntity t.subject d :: rest ∧
      ∀ d', isEntity t.subject d' ∉ rest := by
  obtain ⟨i, hi, rest, hfilters⟩ := h.first hs
  obtain ⟨d, hd, rfl⟩ := identity_iff.mp hi
  refine ⟨d, rest, hd, hfilters.symm, ?_⟩
  intro d' hmem
  have hdistinct := h.distinct
  rw [Table.Distinct, ← hfilters] at hdistinct
  obtain rfl : d' = d :=
    (hfounded.display (hfilters ▸ List.mem_append_right _ hmem)).unique hd
  have hsame := List.rel_of_pairwise_cons hdistinct hmem
  rw [isEntity, same_identity hi] at hsame
  cases hsame

/-! ### Types of variables -/

/-- A triple gives the type of a subject. -/
structure TypesSubject (s : String) (tr : Triple) : Prop where
  subject : subjectKey tr.subject = .ok s
  predicate : tr.predicate.property? = some instanceOf
  object : tr.object.isVariable = false

/-- The name of an entity is not that of a variable, if only codes have labels. -/
lemma Introduces.entity_dropStart? (hlabels : LabelsCodes sc.lookups)
    (h : Introduces sc tr s es) (hs : tr.subject.isVariable = false) :
    Text.dropStart? "?" s = none := by
  cases h with
  | ofVariable hv _ => simp [hv, Term.isVariable] at hs
  | ofEntity _ hi =>
    obtain ⟨d, hd, _⟩ := identity_iff.mp hi
    obtain ⟨l, hl⟩ := label_of_display hd
    exact dropStart?_of_isCode (hlabels s l hl)

/-- Each triple that gives the type of a variable changes the name of its table. -/
lemma type_mem_changesOf {ess : List (List Effect)} {v : String}
    (hlabels : LabelsCodes sc.lookups) (hv : Text.dropStart? "?" s = some v)
    (hess : List.Forall₂ (ClausePlan sc) q.clauses ess) (htr : tr ∈ q.folded)
    (htype : TypesSubject s tr) :
    ∃ name, sc.settings.schema.domainTable? tr.object.entity? = some name ∧
      .type name ∈ changesOf s ess.flatten := by
  obtain ⟨cl, hcl, htr⟩ := List.mem_flatMap.mp htr
  obtain ⟨es, hes, hplan⟩ := exists_of_forall₂_left hess hcl
  obtain ⟨p, hp, heffects, _⟩ := hplan.exists_plan htr
  have hobject := htype.object
  cases hp with
  | projection _ _ ho _ => simp [ho, Term.isVariable] at hobject
  | @type u _ name es₁ hi _ _ _ hn =>
    obtain rfl : u = s := Except.ok.inj (hi.key.symm.trans htype.subject)
    refine ⟨name, hn, mem_changesOf.mpr (List.mem_flatten.mpr ⟨es, hes, heffects ?_⟩)⟩
    simp
  | condition hi hstates =>
    -- only the type of an entity would be a condition
    obtain rfl := Except.ok.inj (hi.key.symm.trans htype.subject)
    have hentity : tr.subject.isVariable = false := by
      rw [← Bool.not_eq_true]
      exact fun hvar => hstates.not_type ⟨hvar, htype.predicate⟩
    rw [hi.entity_dropStart? hlabels hentity] at hv
    cases hv

/-! ### Tables of a folded query -/

/-- A table records what the clauses change in it, and bounds have been added to it. -/
structure Recorded (sc : Scope Id) (q : Query) (ess : List (List Effect)) (t t' : Table) :
    Prop where
  plans : List.Forall₂ (ClausePlan sc) q.clauses ess
  changed : changesOf t.subject ess.flatten ≠ []
  records : t.Records sc (changesOf t.subject ess.flatten)
  bounded : BoundedBy q.having t t'

lemma fold_recorded (h : Returns (fold settings lookups q keywords) c) (ht' : t' ∈ c.tables) :
    ∃ ess t, Recorded (queryScope settings lookups q keywords) q ess t t' := by
  obtain ⟨ts, ts', hclauses, hgroups, rfl⟩ := fold_iff.mp h
  have hn := foldClauses_nodup hclauses
  obtain ⟨ess, hess, hperform⟩ := foldClauses_iff.mp hclauses
  obtain ⟨t, ht, hbounded⟩ :=
    (foldHavings_bounded (List.Subset.refl q.having) hn (foldGroups_eq_ok hgroups)).2 t' ht'
  obtain ⟨hne, hrec⟩ := (performAll_record Tables.record_nil hperform).present _ _
    (Tables.find?_of_mem hn ht)
  exact ⟨ess, t, hess, hne, hrec, hbounded⟩

lemma Recorded.founded {ess : List (List Effect)} (h : Recorded sc q ess t t') :
    Founded sc q t' :=
  (h.records.founded h.plans h.changed).bounded h.bounded

/-- The table of an entity: its name is that of the entity's domain, and it starts with the
identity of the entity. -/
structure OfEntity (sc : Scope Id) (t : Table) : Prop where
  untyped : t.typed = false
  name : ∃ domain, Id.run (sc.lookups.domain t.subject) = .ok domain ∧
    t.name = (domain.bind sc.settings.schema.tableName?).getD defaultTable
  identity : ∃ d rest, Returns (display sc t.subject) d ∧
    t.filters = isEntity t.subject d :: rest ∧ ∀ d', isEntity t.subject d' ∉ rest

/-- The table of a variable: it has the type that the triples give to the variable. -/
structure OfVariable (s : Schema) (trs : List Triple) (t : Table) : Prop where
  typed_iff : t.typed = true ↔ ∃ tr ∈ trs, TypesSubject t.subject tr
  type : ∀ tr ∈ trs, TypesSubject t.subject tr →
    ∃ domain, tr.object.entity? = some domain ∧ s.tableName? domain = some t.name
  untyped : t.typed = false → t.name = defaultTable

lemma newTable_entity (hs : Text.dropStart? "?" s = none) (h : Returns (newTable sc s) t) :
    ∃ domain, Id.run (sc.lookups.domain s) = .ok domain ∧
      t.name = (sc.settings.schema.domainTable? domain).getD defaultTable := by
  simp only [newTable, hs, Option.isSome_none, Bool.false_eq_true, if_false, returns_bind,
    returns_ask] at h
  obtain ⟨domain, hdomain, h⟩ := h
  refine ⟨domain, hdomain, ?_⟩
  cases hn : sc.settings.schema.domainTable? domain with
  | none =>
    simp only [hn, returns_pure] at h
    simp [← h]
  | some name =>
    simp only [hn, returns_pure] at h
    simp [← h]

lemma Recorded.ofEntity {ess : List (List Effect)} (hschema : sc.settings.schema.Named)
    (h : Recorded sc q ess t t') (hidentified : Identified sc t')
    (hs : Text.dropStart? "?" t'.subject = none) : OfEntity sc t' := by
  have huntyped : t'.typed = false := by
    rw [← Bool.not_eq_true]
    intro htyped
    obtain ⟨_, _, v, _, hv, _⟩ := h.founded.type htyped
    rw [hv, Text.dropStart?_append] at hs
    cases hs
  refine ⟨huntyped, ?_, hidentified.filters_eq h.founded hs⟩
  -- without a type the table keeps the name that it was made with
  obtain ⟨_, t₀, hnew, hname⟩ := h.records.untyped fun name hname => by
    rw [h.bounded.typed, (h.records.typed name hname).1] at huntyped
    cases huntyped
  rw [← h.bounded.subject] at hnew
  obtain ⟨domain, hdomain, hdefault⟩ := newTable_entity hs hnew
  refine ⟨domain, hdomain, ?_⟩
  rw [h.bounded.name, hname, hdefault, hschema.domainTable?_eq]

lemma Recorded.ofVariable {ess : List (List Effect)} {v : String}
    (hschema : sc.settings.schema.Named) (hlabels : LabelsCodes sc.lookups)
    (h : Recorded sc q ess t t') (hv : Text.dropStart? "?" t'.subject = some v) :
    OfVariable sc.settings.schema q.folded t' := by
  have htypes : ∀ tr ∈ q.folded, TypesSubject t'.subject tr →
      t'.typed = true ∧ sc.settings.schema.domainTable? tr.object.entity? = some t'.name := by
    intro tr htr htype
    rw [h.bounded.subject] at htype hv
    obtain ⟨name, hn, hmem⟩ := type_mem_changesOf hlabels hv h.plans htr htype
    obtain ⟨htyped, hname⟩ := h.records.typed name hmem
    exact ⟨h.bounded.typed.trans htyped, by rw [hn, h.bounded.name, hname]⟩
  refine ⟨⟨?_, ?_⟩, ?_, ?_⟩
  · intro htyped
    obtain ⟨tr, htr, w, hs, hw, hp, ho, _⟩ := h.founded.type htyped
    exact ⟨tr, htr, subjectKey_iff.mpr (.inl ⟨w, hs, hw⟩), hp, ho⟩
  · rintro ⟨tr, htr, htype⟩
    exact (htypes tr htr htype).1
  · intro tr htr htype
    have hname := (htypes tr htr htype).2
    rwa [hschema.domainTable?_eq, Option.bind_eq_some_iff] at hname
  · intro huntyped
    obtain ⟨_, t₀, hnew, hname⟩ := h.records.untyped fun name hname => by
      rw [h.bounded.typed, (h.records.typed name hname).1] at huntyped
      cases huntyped
    rw [← h.bounded.subject] at hnew
    rw [h.bounded.name, hname, newTable_variable hv hnew]

/-- Something is asked of a table in questions only. -/
lemma Steps.isQuestion {T : List Triple} (h : Steps sc T [] ts) :
    ∀ t ∈ ts, t.verifications ≠ [] → sc.isQuestion = true := by
  refine h.forall_tables (P := fun t => t.verifications ≠ [] → sc.isQuestion = true) ?_ ?_ (by simp)
  · intro s t hnew
    obtain ⟨name, rfl⟩ := newTable_eq hnew
    simp
  · intro t t' hup ht
    cases hup with
    | same => exact ht
    | identity | filter | bound => simpa using ht
    | type _ _ _ _ _ _ h => simpa [(Table.setName_eq_ok h).2] using ht
    | projection _ _ _ _ _ h => simpa [(Table.addProjection_eq_ok h).2] using ht
    | verification hq => exact fun _ => hq

/-- Every table of a folded query is found under its own subject, and no subject has two. A table is
that of an entity, with the name of the entity's domain and the identity of the entity as its first
filter, or that of a variable, with the type that the folded triples give to the variable. Only
questions ask for something, and only of entities. -/
theorem fold_invariants {manifest : String} (hschema : Schema.parse manifest = .ok settings.schema)
    (hlabels : LabelsCodes lookups) (hfold : Returns (fold settings lookups q keywords) c) :
    (c.tables.map Table.subject).Nodup ∧
    ∀ t ∈ c.tables, c.tables.find? t.subject = some t ∧
      (t.variableName? = none → OfEntity (queryScope settings lookups q keywords) t) ∧
      (∀ v, t.variableName? = some v → OfVariable settings.schema q.folded t) ∧
      (t.verifications ≠ [] → q.kind = .ask ∧ t.variableName? = none) := by
  have hsteps := fold_steps hfold
  have hn := hsteps.nodup List.nodup_nil
  have hnamed := Schema.named_of_parse hschema
  refine ⟨hn, fun t ht => ⟨Tables.find?_of_mem hn ht, ?_, ?_, ?_⟩⟩
  · intro hs
    obtain ⟨ess, u, hrec⟩ := fold_recorded hfold ht
    exact hrec.ofEntity hnamed (fold_identified hfold t ht) hs
  · intro v hv
    obtain ⟨ess, u, hrec⟩ := fold_recorded hfold ht
    exact hrec.ofVariable hnamed hlabels hv
  · intro hne
    constructor
    · simpa [Query.isQuestion] using hsteps.isQuestion t ht hne
    · obtain ⟨i, hi⟩ := (hsteps.askedOfEntity t ht).identity hne
      obtain ⟨d, hd, _⟩ := identity_iff.mp hi
      obtain ⟨l, hl⟩ := label_of_display hd
      exact dropStart?_of_isCode (hlabels _ l hl)

end

namespace Atlas

/-- The countries of Europe, and the continents of France. -/
def besideFrance : Query where
  kind := .select
  vars := ["c"]
  clauses :=
    [.basic
       [fact (.variable "x") "P30" "Q46",
        { fact (.iri (entityNamespace ++ "Q142")) "P30" "" with object := .variable "c" }],
     .union
       [.single (.basic [fact (.variable "x") "P31" "Q6256", fact (.variable "x") "P30" "Q15"]),
        .single (.basic [fact (.variable "x") "P30" "Q46"])]]

/-- The table of the countries, whose type is given in one branch of the union. -/
def besideTable : Table where
  subject := "?x"
  name := "country"
  filters :=
    [onContinent "Q46" "Europe", .any [onContinent "Q15" "Africa", onContinent "Q46" "Europe"]]
  typed := true

/-- The table of France, which is a country as the knowledge base has it. -/
def franceTable : Table where
  subject := "Q142"
  name := "country"
  projections := [⟨"c", "continent"⟩]
  filters := [isFrance]

/-- Both tables have the name of countries, one for the type of a variable and one for the domain of
an entity, which also stands first among its filters. -/
theorem fold_invariants_besideFrance :
    Returns (fold settings lookups besideFrance []) ⟨[], false, [besideTable, franceTable]⟩ ∧
      OfVariable settings.schema besideFrance.folded besideTable ∧
      OfEntity (queryScope settings lookups besideFrance []) franceTable := by
  have hfold : Returns (fold settings lookups besideFrance [])
      ⟨[], false, [besideTable, franceTable]⟩ := rfl
  obtain ⟨_, htables⟩ := fold_invariants parse_manifest labelsCodes_lookups hfold
  refine ⟨hfold, ?_, ?_⟩
  · exact (htables besideTable (by simp)).2.2.1 "x" rfl
  · exact (htables franceTable (by simp)).2.1 rfl

end Atlas

end GraphTalk.Conversion
