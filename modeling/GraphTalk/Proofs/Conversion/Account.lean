import GraphTalk.Proofs.Conversion.Provenance
import GraphTalk.Proofs.Conversion.Records
import GraphTalk.Proofs.Conversion.Selection
import GraphTalk.Proofs.Program.Same

/-!
# What becomes of every triple

A fold that succeeds loses no triple and invents nothing (`fold_accounts`). The table of the subject
of a triple keeps what the triple says: a field that a variable stands for, a type, or a condition,
which stands by itself or in the disjunction of a union. All that a table holds is founded on a
triple, on the identity of an entity, or on a condition on groups.
-/

namespace GraphTalk

namespace Sparql

mutual

/-- Whether a filter stands in a clause, at any depth. -/
def Clause.hasFilter : Clause → Bool
  | .basic _ => false
  | .union bs => branchesHaveFilter bs
  | .filter _ => true

/-- Whether a filter stands in a branch. -/
def Branch.hasFilter : Branch → Bool
  | .single c => c.hasFilter
  | .group cs => clausesHaveFilter cs

/-- Whether a filter stands in one of the branches. -/
def branchesHaveFilter : List Branch → Bool
  | [] => false
  | b :: bs => b.hasFilter || branchesHaveFilter bs

/-- Whether a filter stands in one of the clauses. -/
def clausesHaveFilter : List Clause → Bool
  | [] => false
  | c :: cs => c.hasFilter || clausesHaveFilter cs

end

/-- Whether a clause is folded as the disjunction of its branches. -/
def Clause.isAlternative : Clause → Bool
  | .union bs => (widenedTriple? bs).isNone
  | _ => false

end Sparql

/-- Equal conditions have equal conjuncts. -/
lemma Condition.exists_same_conjunct {c d : Condition} (h : c.same d = true) :
    ∀ e ∈ d.conjuncts, ∃ f ∈ c.conjuncts, f.same e = true := by
  cases d with
  | all ds =>
    cases c with
    | all cs =>
      rw [same] at h
      exact (exists_same_of_sameAll h).2
    | _ => simp [same] at h
  | _ =>
    cases c with
    | all cs => simp [same] at h
    | _ => simpa [conjuncts] using h

namespace Conversion

open Rdf Sparql Knowledge

/-! ### The account -/

/-- A table has a condition, as a filter or as what is asked for. -/
def Table.HasCondition (t : Table) (c : Condition) : Prop :=
  ∃ f ∈ t.filters ++ t.verifications, f = c ∨ f.same c = true

/-- A table has a condition in a disjunction of two: it is an operand or a conjunct of one. -/
def Table.HasOperand (t : Table) (c : Condition) : Prop :=
  ∃ l r, Condition.any [l, r] ∈ t.filters ++ t.verifications ∧
    ∃ f ∈ l.conjuncts ++ r.conjuncts, f = c ∨ f.same c = true

/-- The table of the subject of a triple keeps what the triple says. -/
structure Keeps (sc : Scope Id) (cl : Clause) (tr : Triple) (t : Table) : Prop where
  subject : subjectKey tr.subject = .ok t.subject
  projection : ∀ v, tr.object = .variable v → ∃ p field, tr.predicate.property? = some p ∧
    sc.settings.schema.fieldName? p = some field ∧ ⟨v, field⟩ ∈ t.projections
  type : tr.subject.isVariable = true → tr.predicate.property? = some instanceOf →
    tr.object.isVariable = false →
    t.typed = true ∧ sc.settings.schema.domainTable? tr.object.entity? = some t.name
  condition : tr.object.isVariable = false →
    ¬ (tr.subject.isVariable = true ∧ tr.predicate.property? = some instanceOf) →
    ∃ p c, tr.predicate.property? = some p ∧ Returns (atom sc p tr.object) c ∧
      if cl.isAlternative then t.HasOperand c else t.HasCondition c

/-- All that a table holds comes from the query. -/
structure Founded (sc : Scope Id) (q : Query) (t : Table) : Prop where
  subject : ∃ tr ∈ q.folded, subjectKey tr.subject = .ok t.subject
  projections : ∀ p ∈ t.projections, ∃ tr ∈ q.folded, subjectKey tr.subject = .ok t.subject ∧
    tr.object = .variable p.name ∧
    ∃ pid, tr.predicate.property? = some pid ∧ sc.settings.schema.fieldName? pid = some p.field
  type : t.typed = true → ∃ tr ∈ q.folded, ∃ v, tr.subject = .variable v ∧
    t.subject = "?" ++ v ∧ tr.predicate.property? = some instanceOf ∧
    tr.object.isVariable = false ∧
    sc.settings.schema.domainTable? tr.object.entity? = some t.name
  verifications : ∀ f ∈ t.verifications, ∃ cl ∈ q.clauses, Yields sc t.subject cl f
  filters : ∀ f ∈ t.filters, (∃ cl ∈ q.clauses, Yields sc t.subject cl f) ∨
    (∃ tr ∈ q.folded, tr.subject.entity? = some t.subject ∧
      Returns (identity sc t.subject) f) ∨
    ∃ h ∈ q.having, Bounds h t f

variable {sc : Scope Id} {cl : Clause} {tr : Triple} {es : List Effect} {ts ts' : Tables}
  {t t' : Table} {c : Condition}

/-! ### Every triple has its effect -/

/-- How a clause adds the condition of one of its triples. -/
def Covers (cl : Clause) (d c : Condition) : Prop :=
  if cl.isAlternative then ∃ l r, d = .any [l, r] ∧ c ∈ l.conjuncts ++ r.conjuncts else d = c

lemma branchCondition_conjuncts {trs : List Triple} {ps : List Plan}
    (h : List.Forall₂ (TriplePlan sc) trs ps) {a : Atom} {as : List Atom}
    (ha : planAtoms ps = a :: as) :
    (branchCondition a as).conjuncts = (planAtoms ps).map Atom.condition := by
  obtain ⟨tr, _, hstates, _⟩ := (mem_planAtoms h).mp (ha ▸ List.mem_cons_self)
  rw [branchCondition, Condition.conjuncts_conj _ hstates.conjuncts_eq, ha, List.map_cons]

/-- The plan of a triple is part of that of its clause. -/
lemma ClausePlan.exists_plan (h : ClausePlan sc cl es) (ht : tr ∈ cl.folded) :
    ∃ p, TriplePlan sc tr p ∧ p.effects ⊆ es ∧ ∀ a, p.atom = some a →
      ∃ b : Atom, b.effect ∈ es ∧ b.subject = a.subject ∧
        Covers cl b.condition a.condition := by
  have hmem : ∀ {ps : List Plan} {p : Plan}, p ∈ ps → p.effects ⊆ planEffects ps ∧
      ∀ a, p.atom = some a → a ∈ planAtoms ps := by
    intro ps p hp
    exact ⟨fun e he => List.mem_flatMap.mpr ⟨p, hp, he⟩,
      fun a ha => List.mem_flatMap.mpr ⟨p, hp, by simp [ha]⟩⟩
  cases h with
  | @basic trs ps hps =>
    obtain ⟨p, hp, hplan⟩ := exists_of_forall₂_left hps (by simpa using ht)
    refine ⟨p, hplan, List.subset_append_of_subset_left _ (hmem hp).1, fun a ha => ?_⟩
    exact ⟨a, List.mem_append_right _ (List.mem_map_of_mem ((hmem hp).2 a ha)), rfl, rfl⟩
  | @widened bs tr' p hw hp =>
    obtain rfl : tr = tr' := by simpa [Clause.folded_widened hw] using ht
    refine ⟨p, hp, List.subset_append_left _ _, fun a ha => ?_⟩
    exact ⟨a, List.mem_append_right _ (by simp [ha]), rfl,
      by simp [Covers, Clause.isAlternative, hw]⟩
  | @union left right ps qs a b as bs hw hl hr ha hb hs =>
    rw [Clause.folded_union hw] at ht
    obtain ⟨p, hp, hplan⟩ := exists_of_forall₂_left (List.rel_append hl hr) ht
    obtain ⟨heffects, hatoms⟩ := hmem hp
    refine ⟨p, hplan, fun e he => ?_, fun d hd => ⟨unionAtom a as b bs, by simp, ?_, ?_⟩⟩
    · rw [← planEffects_append]
      exact List.mem_append_left _ (heffects he)
    · have hd := hatoms d hd
      rw [planAtoms_append, ha, hb, List.cons_append] at hd
      rcases List.mem_cons.mp hd with rfl | hd
      · rfl
      · exact (hs d hd).symm
    · -- the disjunction has the atoms of both branches as its conjuncts
      simp only [Covers, Clause.isAlternative, hw, Option.isNone_none, if_true]
      refine ⟨_, _, rfl, ?_⟩
      rw [branchCondition_conjuncts hl ha, branchCondition_conjuncts hr hb, ← List.map_append,
        ← planAtoms_append]
      exact List.mem_map_of_mem (hatoms d hd)

/-! ### Nothing is lost -/

lemma Tables.Record.exists_table {s : String} {ch : Change} (h : ts.Record sc es)
    (he : ⟨s, ch⟩ ∈ es) : ∃ t ∈ ts, t.subject = s ∧ t.Records sc (changesOf s es) := by
  cases hf : ts.find? s with
  | none =>
    have hmem := mem_changesOf.mpr he
    simp [h.absent s hf] at hmem
  | some t => exact ⟨t, (find?_eq_some hf).1, (find?_eq_some hf).2, (h.present s t hf).2⟩

lemma Table.Records.hasCondition (h : t.Records sc (changesOf t.subject es)) {a : Atom}
    (ha : a.effect ∈ es) (hs : a.subject = t.subject) : t.HasCondition a.condition := by
  rw [Atom.effect, hs] at ha
  have hmem := mem_changesOf.mpr ha
  split at hmem
  · exact ⟨a.condition, List.mem_append_right _ (h.mem_verifications.mpr hmem), .inl rfl⟩
  · obtain ⟨f, hf, hfa⟩ := h.kept _ hmem
    exact ⟨f, List.mem_append_left _ hf, hfa⟩

/-- A condition that a disjunction covers is in an equal disjunction too. -/
lemma Table.HasCondition.hasOperand {l r : Condition} (h : t.HasCondition (.any [l, r]))
    (hc : c ∈ l.conjuncts ++ r.conjuncts) : t.HasOperand c := by
  obtain ⟨f, hf, rfl | hsame⟩ := h
  · exact ⟨l, r, hf, c, hc, .inl rfl⟩
  · obtain ⟨l', r', rfl, hl, hr⟩ := Condition.same_any_pair hsame
    refine ⟨l', r', hf, ?_⟩
    rcases List.mem_append.mp hc with hc | hc
    · obtain ⟨f, hf, hfc⟩ := Condition.exists_same_conjunct hl c hc
      exact ⟨f, List.mem_append_left _ hf, .inr hfc⟩
    · obtain ⟨f, hf, hfc⟩ := Condition.exists_same_conjunct hr c hc
      exact ⟨f, List.mem_append_right _ hf, .inr hfc⟩

lemma Covers.hasCondition {d : Condition} (h : Covers cl d c) (hd : t.HasCondition d) :
    if cl.isAlternative then t.HasOperand c else t.HasCondition c := by
  unfold Covers at h
  split at h
  · rename_i halt
    obtain ⟨l, r, rfl, hc⟩ := h
    rw [if_pos halt]
    exact hd.hasOperand hc
  · rename_i halt
    rw [if_neg halt, ← h]
    exact hd

/-- A table that records the effects of a clause keeps the triples of the clause. -/
lemma ClausePlan.keeps {es₀ : List Effect} (h : ClausePlan sc cl es₀) (hes : es₀ ⊆ es)
    (hts : ts.Record sc es) (ht : tr ∈ cl.folded) : ∃ t ∈ ts, Keeps sc cl tr t := by
  obtain ⟨p, hplan, heffects, hatoms⟩ := h.exists_plan ht
  cases hplan with
  | @projection s pid v field es₁ hi hp ho hf =>
    have he : ⟨s, .projection ⟨v, field⟩⟩ ∈ es := hes (heffects (by simp))
    obtain ⟨t, hmem, rfl, hrec⟩ := hts.exists_table he
    refine ⟨t, hmem, hi.key, fun w hw => ?_, fun _ _ hobj => ?_, fun hobj => ?_⟩
    · obtain rfl := Term.variable.inj (ho.symm.trans hw)
      exact ⟨pid, field, hp, hf, hrec.mem_projections.mpr (mem_changesOf.mpr he)⟩
    · simp [ho, Term.isVariable] at hobj
    · simp [ho, Term.isVariable] at hobj
  | @type s v name es₁ hi hp hs ho hn =>
    have he : ⟨s, .type name⟩ ∈ es := hes (heffects (by simp))
    obtain ⟨t, hmem, rfl, hrec⟩ := hts.exists_table he
    obtain ⟨htyped, rfl⟩ := hrec.typed _ (mem_changesOf.mpr he)
    refine ⟨t, hmem, hi.key, fun w hw => ?_, fun _ _ _ => ⟨htyped, hn⟩, fun _ hnot => ?_⟩
    · simp [hw, Term.isVariable] at ho
    · exact absurd ⟨by simp [hs, Term.isVariable], hp⟩ hnot
  | @condition s c es₁ hi hstates =>
    have he : ⟨s, .presence⟩ ∈ es := hes (heffects (by simp))
    obtain ⟨t, hmem, rfl, hrec⟩ := hts.exists_table he
    obtain ⟨b, hb, hsub, hcovers⟩ := hatoms _ rfl
    obtain ⟨pid, hp, hc⟩ := hstates.condition
    refine ⟨t, hmem, hi.key, fun w hw => ?_, fun hvar htype => ?_, fun _ _ => ?_⟩
    · simpa [hw, Term.isVariable] using hstates.object
    · exact absurd ⟨hvar, htype⟩ hstates.not_type
    · exact ⟨pid, c, hp, hc, hcovers.hasCondition (hrec.hasCondition (hes hb) hsub)⟩

/-! ### Nothing is invented -/

/-- What a table records is founded on the clauses. -/
lemma Table.Records.founded {q : Query} {ess : List (List Effect)}
    (h : List.Forall₂ (ClausePlan sc) q.clauses ess)
    (hne : changesOf t.subject ess.flatten ≠ [])
    (hrec : t.Records sc (changesOf t.subject ess.flatten)) : Founded sc q t := by
  have hfolded : ∀ {cl : Clause} {tr : Triple}, cl ∈ q.clauses → tr ∈ cl.folded →
      tr ∈ q.folded := fun hcl htr => List.mem_flatMap.mpr ⟨_, hcl, htr⟩
  have harises : ∀ {ch : Change}, ch ∈ changesOf t.subject ess.flatten →
      ∃ cl ∈ q.clauses, Arises sc cl ⟨t.subject, ch⟩ :=
    fun hch => exists_arises h (mem_changesOf.mp hch)
  refine ⟨?_, fun p hp => ?_, fun htyped => ?_, fun f hf => ?_, fun f hf => ?_⟩
  · obtain ⟨ch, hch⟩ := List.exists_mem_of_ne_nil _ hne
    obtain ⟨cl, hcl, hwhy⟩ := harises hch
    obtain ⟨tr, htr, hkey⟩ := hwhy.subject
    exact ⟨tr, hfolded hcl htr, hkey⟩
  · obtain ⟨cl, hcl, hwhy⟩ := harises (hrec.mem_projections.mp hp)
    cases hwhy with
    | projection htr hkey hpid ho hf =>
      exact ⟨_, hfolded hcl htr, hkey, ho, _, hpid, hf⟩
  · -- only a change of type makes a table typed
    obtain ⟨name, hname⟩ : ∃ name, .type name ∈ changesOf t.subject ess.flatten := by
      by_contra hnone
      have huntyped := (hrec.untyped fun name hname => hnone ⟨name, hname⟩).1
      rw [huntyped] at htyped
      cases htyped
    obtain ⟨_, rfl⟩ := hrec.typed name hname
    obtain ⟨cl, hcl, hwhy⟩ := harises hname
    cases hwhy with
    | type htr hs hv hp ho hn => exact ⟨_, hfolded hcl htr, _, hs, hv, hp, ho, hn⟩
  · obtain ⟨cl, hcl, hwhy⟩ := harises (hrec.mem_verifications.mp hf)
    cases hwhy with
    | verification hyields => exact ⟨cl, hcl, hyields⟩
  · obtain ⟨cl, hcl, hwhy⟩ := harises (hrec.filters f hf)
    cases hwhy with
    | identity htr hs hi => exact .inr (.inl ⟨_, hfolded hcl htr, hs, hi⟩)
    | filter hyields => exact .inl ⟨cl, hcl, hyields⟩

/-! ### Conditions on groups -/

/-- A table with bounds: nothing but filters has been added, each of them for a condition on
groups. -/
structure BoundedBy (hs : List HavingCondition) (t t' : Table) : Prop where
  subject : t'.subject = t.subject
  name : t'.name = t.name
  typed : t'.typed = t.typed
  projections : t'.projections = t.projections
  verifications : t'.verifications = t.verifications
  filters : t.filters ⊆ t'.filters
  bounds : ∀ f ∈ t'.filters, f ∈ t.filters ∨ ∃ h ∈ hs, Bounds h t f

variable {hs : List HavingCondition}

lemma BoundedBy.refl (t : Table) : BoundedBy hs t t :=
  ⟨rfl, rfl, rfl, rfl, rfl, List.Subset.refl _, fun _ hf => .inl hf⟩

/-- Only the fields that variables stand for matter to a bound. -/
lemma Bounds.congr {h : HavingCondition} (hc : Bounds h t c)
    (hp : t'.projections = t.projections) : Bounds h t' c := by
  cases hc with
  | count hfn harg hop hn hbound hf =>
    exact .count hfn harg hop hn hbound (by rwa [Table.fieldFor?, hp])

lemma BoundedBy.trans {u : Table} (h : BoundedBy hs t t') (h' : BoundedBy hs t' u) :
    BoundedBy hs t u where
  subject := h'.subject.trans h.subject
  name := h'.name.trans h.name
  typed := h'.typed.trans h.typed
  projections := h'.projections.trans h.projections
  verifications := h'.verifications.trans h.verifications
  filters := List.Subset.trans h.filters h'.filters
  bounds := by
    intro f hf
    rcases h'.bounds f hf with hf | ⟨hc, hmem, hbounds⟩
    · exact h.bounds f hf
    · exact .inr ⟨hc, hmem, hbounds.congr h.projections.symm⟩

lemma BoundedBy.of_bounds {h : HavingCondition} (hmem : h ∈ hs) (hc : Bounds h t c) :
    BoundedBy hs t (t.addFilter c) where
  subject := by simp
  name := by simp
  typed := by simp
  projections := by simp
  verifications := by simp
  filters := t.filters_subset_changed (.filter c)
  bounds := by
    intro f hf
    rcases Table.mem_addFilter hf with hf | rfl
    · exact .inl hf
    · exact .inr ⟨h, hmem, hc⟩

/-- Conditions on groups bound the tables that there are. -/
lemma foldHavings_bounded {cs : List HavingCondition} (hcs : cs ⊆ hs)
    (hn : (ts.map Table.subject).Nodup) (h : foldHavings ts cs = .ok ts') :
    (∀ t ∈ ts, ∃ t' ∈ ts', BoundedBy hs t t') ∧ ∀ t' ∈ ts', ∃ t ∈ ts, BoundedBy hs t t' := by
  induction cs generalizing ts with
  | nil =>
    cases h
    exact ⟨fun t ht => ⟨t, ht, .refl t⟩, fun t ht => ⟨t, ht, .refl t⟩⟩
  | cons hc cs ih =>
    obtain ⟨ts₁, hfirst, hrest⟩ := foldHavings_cons.mp h
    obtain ⟨u, hu, c, hbounds, rfl⟩ := foldHaving_eq_ok hfirst
    obtain ⟨hc, hcs⟩ := List.cons_subset.mp hcs
    have hbounded : BoundedBy hs u (u.addFilter c) := .of_bounds hc hbounds
    obtain ⟨hforth, hback⟩ := ih hcs (by rwa [Tables.subjects_put]) hrest
    constructor
    · intro t ht
      by_cases hsub : t.subject = u.subject
      · -- a subject has one table, so this is the one that is bounded
        obtain rfl := List.inj_on_of_nodup_map hn ht hu hsub
        obtain ⟨t', ht', hb⟩ := hforth _ (Tables.mem_put.mpr (.inl ⟨rfl, t, ht, by simp⟩))
        exact ⟨t', ht', hbounded.trans hb⟩
      · exact hforth t (Tables.mem_put.mpr (.inr ⟨ht, by simpa using hsub⟩))
    · intro t' ht'
      obtain ⟨t, ht, hb⟩ := hback t' ht'
      rcases Tables.mem_put.mp ht with ⟨rfl, _⟩ | ⟨ht, _⟩
      · exact ⟨u, hu, hbounded.trans hb⟩
      · exact ⟨t, ht, hb⟩

lemma BoundedBy.conditions_subset (h : BoundedBy hs t t') :
    t.filters ++ t.verifications ⊆ t'.filters ++ t'.verifications := by
  intro f hf
  rcases List.mem_append.mp hf with hf | hf
  · exact List.mem_append_left _ (h.filters hf)
  · exact List.mem_append_right _ (h.verifications ▸ hf)

lemma Keeps.bounded (h : Keeps sc cl tr t) (hb : BoundedBy hs t t') : Keeps sc cl tr t' where
  subject := by rw [hb.subject, h.subject]
  projection := by
    rw [hb.projections]
    exact h.projection
  type := by
    rw [hb.typed, hb.name]
    exact h.type
  condition := by
    intro ho hnot
    obtain ⟨p, c, hp, hc, hhas⟩ := h.condition ho hnot
    refine ⟨p, c, hp, hc, ?_⟩
    split
    · rename_i halt
      rw [if_pos halt] at hhas
      obtain ⟨l, r, hlr, hoperand⟩ := hhas
      exact ⟨l, r, hb.conditions_subset hlr, hoperand⟩
    · rename_i halt
      rw [if_neg halt] at hhas
      obtain ⟨f, hf, hfc⟩ := hhas
      exact ⟨f, hb.conditions_subset hf, hfc⟩

lemma Founded.bounded {q : Query} (h : Founded sc q t) (hb : BoundedBy q.having t t') :
    Founded sc q t' where
  subject := by
    rw [hb.subject]
    exact h.subject
  projections := by
    rw [hb.projections, hb.subject]
    exact h.projections
  type := by
    rw [hb.typed, hb.name, hb.subject]
    exact h.type
  verifications := by
    rw [hb.verifications, hb.subject]
    exact h.verifications
  filters := by
    intro f hf
    rw [hb.subject]
    rcases hb.bounds f hf with hf | ⟨hc, hmem, hbounds⟩
    · rcases h.filters f hf with hyields | hidentity | ⟨hc, hmem, hbounds⟩
      · exact .inl hyields
      · exact .inr (.inl hidentity)
      · exact .inr (.inr ⟨hc, hmem, hbounds.congr hb.projections⟩)
    · exact .inr (.inr ⟨hc, hmem, hbounds.congr hb.projections⟩)

/-! ### Queries -/

lemma ClausePlan.hasFilter_eq_false (h : ClausePlan sc cl es) : cl.hasFilter = false := by
  cases h with
  | basic => simp [Clause.hasFilter]
  | widened hw _ =>
    obtain ⟨tr', steps, rfl, _⟩ := widenedTriple?_eq_some hw
    simp [Clause.hasFilter, branchesHaveFilter, Branch.hasFilter]
  | union => simp [Clause.hasFilter, branchesHaveFilter, Branch.hasFilter]

/-- A fold loses no triple and invents nothing. There is no filter in the query, at any depth; what
a triple says is kept in the table of its subject; and everything in a table is founded on the
query. -/
theorem fold_accounts {settings : Settings} {lookups : Lookups Id} {q : Query}
    {keywords : List String} {c : Context} (h : Returns (fold settings lookups q keywords) c) :
    (∀ cl ∈ q.clauses, cl.hasFilter = false) ∧
    (∀ cl ∈ q.clauses, ∀ tr ∈ cl.folded, ∃ t ∈ c.tables,
      Keeps (queryScope settings lookups q keywords) cl tr t) ∧
    ∀ t ∈ c.tables, Founded (queryScope settings lookups q keywords) q t := by
  obtain ⟨ts, ts', hclauses, hgroups, rfl⟩ := fold_iff.mp h
  have hn := (foldClauses_steps (fun _ ht => ht) hclauses).nodup List.nodup_nil
  obtain ⟨hforth, hback⟩ :=
    foldHavings_bounded (List.Subset.refl q.having) hn (foldGroups_eq_ok hgroups)
  obtain ⟨ess, hess, hperform⟩ := foldClauses_iff.mp hclauses
  have hrecord := performAll_record Tables.record_nil hperform
  rw [List.nil_append] at hrecord
  refine ⟨fun cl hcl => ?_, fun cl hcl tr htr => ?_, fun t' ht' => ?_⟩
  · obtain ⟨es, _, hplan⟩ := exists_of_forall₂_left hess hcl
    exact hplan.hasFilter_eq_false
  · obtain ⟨es, hes, hplan⟩ := exists_of_forall₂_left hess hcl
    obtain ⟨t, ht, hkeeps⟩ := hplan.keeps
      (fun e he => List.mem_flatten.mpr ⟨es, hes, he⟩) hrecord htr
    obtain ⟨t', ht', hbounded⟩ := hforth t ht
    exact ⟨t', ht', hkeeps.bounded hbounded⟩
  · obtain ⟨t, ht, hbounded⟩ := hback t' ht'
    obtain ⟨hne, hrec⟩ := hrecord.present _ _ (Tables.find?_of_mem hn ht)
    exact (hrec.founded hess hne).bounded hbounded

namespace Atlas

/-- The countries of Africa or Europe that are on more than one continent. -/
def straddling : Query where
  kind := .select
  vars := ["x"]
  clauses :=
    [.basic
       [fact (.variable "x") "P31" "Q6256",
        { fact (.variable "x") "P30" "" with object := .variable "c" }],
     .union
       [.single (.basic [fact (.variable "x") "P30" "Q15"]),
        .single (.basic [fact (.variable "x") "P30" "Q46"])]]
  group := ["x"]
  having :=
    [{ expression := .variable "c", function := some "count", argument? := some "c",
       operator := some ">", threshold := some (.int 1) }]

/-- The table of these countries. -/
def straddlingTable : Table where
  subject := "?x"
  name := "country"
  projections := [⟨"c", "continent"⟩]
  filters :=
    [.any [onContinent "Q15" "Africa", onContinent "Q46" "Europe"],
     .aggregate "count" "continent" ">=" (.int 1)]
  typed := true

/-- The table keeps the triple of the first branch as an operand, and all that it holds is founded
on the query, the bound on the condition on groups. -/
theorem fold_accounts_straddling :
    Returns (fold settings lookups straddling []) ⟨[], false, [straddlingTable]⟩ ∧
      Keeps (queryScope settings lookups straddling [])
        (.union
          [.single (.basic [fact (.variable "x") "P30" "Q15"]),
           .single (.basic [fact (.variable "x") "P30" "Q46"])])
        (fact (.variable "x") "P30" "Q15") straddlingTable ∧
      Founded (queryScope settings lookups straddling []) straddling straddlingTable := by
  have hfold : Returns (fold settings lookups straddling []) ⟨[], false, [straddlingTable]⟩ := rfl
  obtain ⟨_, hkeeps, hfounded⟩ := fold_accounts hfold
  refine ⟨hfold, ?_, hfounded _ (by simp)⟩
  obtain ⟨t, ht, h⟩ := hkeeps
    (.union
      [.single (.basic [fact (.variable "x") "P30" "Q15"]),
       .single (.basic [fact (.variable "x") "P30" "Q46"])])
    (by simp [straddling]) (fact (.variable "x") "P30" "Q15")
    (by simp [Clause.folded_union, widenedTriple?, fact])
  exact List.mem_singleton.mp ht ▸ h

end Atlas

end Conversion

end GraphTalk
