import Mathlib.Data.List.Pairwise
import GraphTalk.Proofs.Conversion.Order
import GraphTalk.Proofs.Conversion.Readings

/-!
# Triples that are written again

A triple of a basic pattern may be written once more after it, in that pattern or in a later one.
Its effects are then carried out again. None of them fails that did not before, and each of them
leaves tables that are read alike, so a selection is converted to the same program, or to none as
before (`convertQuery_repeated`).

The literal that is no number is left out: a condition on it is not equal to itself, and is added
again.
-/

namespace GraphTalk

open Rdf

/-- Clauses, and the same clauses with a triple written once more: in a basic pattern, after it has
been written there or in an earlier one. -/
inductive Sparql.Repeated (tr : Triple) : List Clause → List Clause → Prop where
  | again {before after : List Clause} {trs trs' : List Triple}
      (h : tr ∈ trs ∨ ∃ earlier, .basic earlier ∈ before ∧ tr ∈ earlier) :
      Repeated tr (before ++ .basic (trs ++ trs') :: after)
        (before ++ .basic (trs ++ tr :: trs') :: after)

namespace Conversion

open Sparql Knowledge

variable {sc : Scope Id} {ts ts' u u' : Tables} {t t' : Table} {s : String} {e : Effect}
  {es es' es'' : List Effect} {tr : Triple} {p p' : Plan} {ps ps' : List Plan}

/-! ### Runs with the same effects -/

lemma Change.Compatible.refl (c : Change) : c.Compatible c := by
  cases c with
  | type => exact rfl
  | _ => trivial

/-- Effects of a run that succeeds do not contradict each other, nor themselves. -/
lemma compatible_of_performAll (h : Returns (performAll sc ts es) ts') :
    ∀ e ∈ es, ∀ f ∈ es, e.Compatible f := by
  have : Std.Symm Effect.Compatible := ⟨fun _ _ => Effect.Compatible.symm⟩
  have hpairs := (performAll_succeeds_iff.mp ⟨ts', h⟩).2
  intro e he f hf
  exact hpairs.forall_of_forall (fun e _ _ => .refl e.change) he hf

/-- A run succeeds if one does in which all of its effects are carried out, however often. -/
lemma performAll_succeeds_of_subset (hsub : es' ⊆ es) (h : Returns (performAll sc ts es) ts') :
    ∃ ts₁, Returns (performAll sc ts es') ts₁ := by
  have heach := (performAll_succeeds_iff.mp ⟨ts', h⟩).1
  have hpairs := compatible_of_performAll h
  apply performAll_succeeds_iff.mpr
  constructor
  · exact fun e he => heach e (hsub he)
  · exact List.pairwise_of_forall_mem_list fun e he f hf => hpairs e (hsub he) f (hsub hf)

/-! ### Effects on tables that are read alike -/

lemma openTable_readAlike {ts₁ ts₁' : Tables} (h : ts.ReadAlike ts')
    (ho : Returns (openTable sc ts s) (ts₁, t)) (ho' : Returns (openTable sc ts' s) (ts₁', t')) :
    ts₁.ReadAlike ts₁' ∧ t.ReadAlike t' := by
  rcases h.find? s with ⟨hf, hf'⟩ | ⟨w, w', hf, hf', hw⟩
  · rcases openTable_iff.mp ho with ⟨hsome, _⟩ | ⟨_, hnew, rfl⟩
    · cases hf.symm.trans hsome
    rcases openTable_iff.mp ho' with ⟨hsome, _⟩ | ⟨_, hnew', rfl⟩
    · cases hf'.symm.trans hsome
    obtain rfl := hnew.unique hnew'
    exact ⟨List.rel_append h (.cons (.refl t) .nil), .refl t⟩
  · obtain ⟨rfl, rfl⟩ := openTable_unique (openTable_of_find? hf) ho
    obtain ⟨rfl, rfl⟩ := openTable_unique (openTable_of_find? hf') ho'
    exact ⟨h, hw⟩

lemma perform_readAlike (h : ts.ReadAlike ts') (he : Returns (perform sc ts e) u)
    (he' : Returns (perform sc ts' e) u') : u.ReadAlike u' := by
  obtain ⟨ts₁, t, w, hopen, hc, rfl⟩ := perform_iff.mp he
  obtain ⟨ts₁', t', w', hopen', hc', rfl⟩ := perform_iff.mp he'
  obtain ⟨-, rfl⟩ := Table.change_eq_ok_iff.mp hc
  obtain ⟨-, rfl⟩ := Table.change_eq_ok_iff.mp hc'
  obtain ⟨hts, ht⟩ := openTable_readAlike h hopen hopen'
  exact hts.put (ht.changed e.change)

/-- Tables that are read alike are so after the same effects. -/
lemma performAll_readAlike (h : ts.ReadAlike ts') (hes : Returns (performAll sc ts es) u)
    (hes' : Returns (performAll sc ts' es) u') : u.ReadAlike u' := by
  induction es generalizing ts ts' with
  | nil =>
    obtain rfl := performAll_nil.mp hes
    obtain rfl := performAll_nil.mp hes'
    exact h
  | cons e es ih =>
    obtain ⟨ts₁, he, hrest⟩ := performAll_cons.mp hes
    obtain ⟨ts₁', he', hrest'⟩ := performAll_cons.mp hes'
    exact ih (perform_readAlike h he he') hrest hrest'

/-- Every subject has one table. -/
lemma perform_nodup (hn : (ts.map Table.subject).Nodup) (h : Returns (perform sc ts e) ts') :
    (ts'.map Table.subject).Nodup := by
  obtain ⟨ts₁, t, t', hopen, -, rfl⟩ := perform_iff.mp h
  rw [Tables.subjects_put]
  rcases openTable_iff.mp hopen with ⟨_, rfl⟩ | ⟨hf, hnew, rfl⟩
  · exact hn
  · exact Tables.nodup_new hn hf hnew

lemma performAll_nodup (hn : (ts.map Table.subject).Nodup)
    (h : Returns (performAll sc ts es) ts') : (ts'.map Table.subject).Nodup := by
  induction es generalizing ts with
  | nil =>
    obtain rfl := performAll_nil.mp h
    exact hn
  | cons e es ih =>
    obtain ⟨ts₁, he, hes⟩ := performAll_cons.mp h
    exact ih (perform_nodup hn he) hes

/-- An effect that is recorded changes nothing that is read if it is carried out again. -/
lemma readAlike_perform (hrecord : ts.Record sc es) (hn : (ts.map Table.subject).Nodup)
    (hmem : e ∈ es) (hrepeatable : e.change.Repeatable) (h : Returns (perform sc ts e) ts') :
    ts.ReadAlike ts' := by
  have hchange : e.change ∈ changesOf e.subject es := mem_changesOf.mpr hmem
  obtain ⟨ts₁, t, t', hopen, hc, rfl⟩ := perform_iff.mp h
  obtain ⟨-, rfl⟩ := Table.change_eq_ok_iff.mp hc
  cases hf : ts.find? e.subject with
  | none =>
    rw [hrecord.absent _ hf] at hchange
    cases hchange
  | some w =>
    obtain ⟨rfl, rfl⟩ := openTable_unique (openTable_of_find? hf) hopen
    refine (Tables.ReadAlike.refl ts).trans_put fun v hv hsubject => ?_
    -- a subject has one table, and that one records the change
    obtain rfl : v = w := by
      have hsome := Tables.find?_of_mem hn hv
      rw [hsubject, Table.changed_subject, (Tables.find?_eq_some hf).2, hf] at hsome
      exact (Option.some.inj hsome).symm
    exact (hrecord.present _ _ hf).2.readAlike hchange hrepeatable

/-! ### Runs that end alike -/

/-- Two runs of effects from no tables end alike: both succeed or none does, and the tables at their
ends are read alike. -/
structure EndAlike (sc : Scope Id) (es es' : List Effect) : Prop where
  succeeds : (∃ ts, Returns (performAll sc [] es) ts) ↔ ∃ ts', Returns (performAll sc [] es') ts'
  tables : ∀ ts ts', Returns (performAll sc [] es) ts → Returns (performAll sc [] es') ts' →
    ts.ReadAlike ts'

namespace EndAlike

lemma refl (es : List Effect) : EndAlike sc es es where
  succeeds := Iff.rfl
  tables := fun ts _ h h' => h.unique h' ▸ .refl ts

lemma symm (h : EndAlike sc es es') : EndAlike sc es' es where
  succeeds := h.succeeds.symm
  tables := fun ts ts' hes hes' => (h.tables ts' ts hes' hes).symm

lemma trans (h : EndAlike sc es es') (h' : EndAlike sc es' es'') : EndAlike sc es es'' where
  succeeds := h.succeeds.trans h'.succeeds
  tables := by
    intro ts ts'' hes hes''
    obtain ⟨ts', hes'⟩ := h.succeeds.mp ⟨ts, hes⟩
    exact Tables.ReadAlike.trans (h.tables ts ts' hes hes') (h'.tables ts' ts'' hes' hes'')

/-- An effect that has been carried out may be carried out again. -/
lemma insert (hmem : e ∈ es) (hrepeatable : e.change.Repeatable) :
    EndAlike sc (es ++ es') (es ++ e :: es') where
  succeeds := by
    constructor
    · rintro ⟨ts, h⟩
      exact performAll_succeeds_of_subset (by simp [hmem]) h
    · rintro ⟨ts, h⟩
      exact performAll_succeeds_of_subset (by simp) h
  tables := by
    intro ts ts' h h'
    obtain ⟨ts₁, hes, hrest⟩ := performAll_append.mp h
    obtain ⟨ts₂, hes', hagain⟩ := performAll_append.mp h'
    obtain rfl := hes.unique hes'
    obtain ⟨ts₂, he, hrest'⟩ := performAll_cons.mp hagain
    have hrecord := performAll_record Tables.record_nil hes
    have hn : (ts₁.map Table.subject).Nodup := performAll_nodup (by simp) hes
    exact performAll_readAlike (readAlike_perform hrecord hn hmem hrepeatable he) hrest hrest'

/-- Effects that have been carried out may be carried out again. -/
lemma insert_all (sc : Scope Id) (rest : List Effect) (hmem : ∀ e ∈ es', e ∈ es)
    (hrepeatable : ∀ e ∈ es', e.change.Repeatable) :
    EndAlike sc (es ++ rest) (es ++ (es' ++ rest)) := by
  induction es' with
  | nil => exact refl _
  | cons e es' ih =>
    obtain ⟨he, hes'⟩ := List.forall_mem_cons.mp hmem
    obtain ⟨hc, hcs⟩ := List.forall_mem_cons.mp hrepeatable
    exact (ih hes' hcs).trans (insert he hc)

end EndAlike

/-! ### Plans of triples that are written again -/

lemma Introduces.unique (h : Introduces sc tr s es) (h' : Introduces sc tr s es') : es = es' := by
  cases h with
  | ofVariable hv =>
    cases h' with
    | ofVariable => rfl
    | ofEntity he => simp [hv, Term.entity?] at he
  | ofEntity he hi =>
    cases h' with
    | ofVariable hv => simp [hv, Term.entity?] at he
    | ofEntity _ hi' => rw [hi.unique hi']

/-- A triple has one plan. -/
lemma TriplePlan.unique (h : TriplePlan sc tr p) (h' : TriplePlan sc tr p') : p = p' := by
  have hkeys : ∀ {s s' : String} {es es' : List Effect}, Introduces sc tr s es →
      Introduces sc tr s' es' → s = s' ∧ es = es' := by
    intro s s' es es' hi hi'
    obtain rfl := Except.ok.inj (hi.key.symm.trans hi'.key)
    exact ⟨rfl, hi.unique hi'⟩
  -- no two rules apply: they tell triples apart by their objects and by what they say of variables
  cases h with
  | projection hi hp ho hf =>
    cases h' with
    | projection hi' hp' ho' hf' =>
      obtain ⟨rfl, rfl⟩ := hkeys hi hi'
      obtain rfl := Option.some.inj (hp.symm.trans hp')
      obtain rfl := Term.variable.inj (ho.symm.trans ho')
      obtain rfl := Option.some.inj (hf.symm.trans hf')
      rfl
    | type _ _ _ ho' => simp [ho, Term.isVariable] at ho'
    | condition _ hstates =>
      have hobject := hstates.object
      simp [ho, Term.isVariable] at hobject
  | type hi hp hs ho hn =>
    cases h' with
    | projection _ _ ho' => simp [ho', Term.isVariable] at ho
    | type hi' _ hs' _ hn' =>
      obtain ⟨rfl, rfl⟩ := hkeys hi hi'
      obtain rfl := Option.some.inj (hn.symm.trans hn')
      rfl
    | condition _ hstates => exact absurd ⟨by simp [hs, Term.isVariable], hp⟩ hstates.not_type
  | condition hi hstates =>
    cases h' with
    | projection _ _ ho' =>
      have hobject := hstates.object
      simp [ho', Term.isVariable] at hobject
    | type _ hp' hs' => exact absurd ⟨by simp [hs', Term.isVariable], hp'⟩ hstates.not_type
    | condition hi' hstates' =>
      obtain ⟨rfl, rfl⟩ := hkeys hi hi'
      obtain ⟨-, rfl⟩ := hstates.unique hstates'
      rfl

/-- All effects of a plan, that of the condition that it leaves to be added too. -/
def Plan.allEffects (p : Plan) : List Effect := p.effects ++ p.atom.toList.map Atom.effect

/-- The effects of a basic pattern: the conditions are added after all its triples. -/
def basicEffects (ps : List Plan) : List Effect :=
  planEffects ps ++ (planAtoms ps).map Atom.effect

@[simp] lemma planEffects_cons : planEffects (p :: ps) = p.effects ++ planEffects ps := by
  simp [planEffects]

@[simp] lemma planAtoms_cons : planAtoms (p :: ps) = p.atom.toList ++ planAtoms ps := by
  simp [planAtoms]

lemma mem_basicEffects : e ∈ basicEffects ps ↔ ∃ p ∈ ps, e ∈ p.allEffects := by
  simp only [basicEffects, planEffects, planAtoms, Plan.allEffects, List.mem_append, List.mem_map,
    List.mem_flatMap]
  constructor
  · rintro (⟨p, hp, he⟩ | ⟨a, ⟨p, hp, ha⟩, rfl⟩)
    · exact ⟨p, hp, .inl he⟩
    · exact ⟨p, hp, .inr ⟨a, ha, rfl⟩⟩
  · rintro ⟨p, hp, he | ⟨a, ha, rfl⟩⟩
    · exact .inl ⟨p, hp, he⟩
    · exact .inr ⟨a, ⟨p, hp, ha⟩, rfl⟩

/-- In a selection nothing is asked for, and all that a triple does may be done again. -/
lemma TriplePlan.repeatable (h : TriplePlan sc tr p) (hsc : sc.isQuestion = false)
    (htr : tr.NoNaN) : ∀ e ∈ p.allEffects, e.change.Repeatable := by
  -- a triple says of its subject at most that it is itself, and then changes its table
  have hthen : ∀ {s : String} {es : List Effect} {c : Change}, Introduces sc tr s es →
      c.Repeatable → ∀ e ∈ es ++ [⟨s, c⟩], e.change.Repeatable := by
    intro s es c hi hc e he
    rcases List.mem_append.mp he with he | he
    · cases hi with
      | ofVariable => cases he
      | ofEntity _ hidentity =>
        obtain rfl := List.mem_singleton.mp he
        exact same_identity hidentity
    · obtain rfl := List.mem_singleton.mp he
      exact hc
  unfold Plan.allEffects
  cases h with
  | projection hi =>
    rw [Option.toList_none, List.map_nil, List.append_nil]
    exact hthen hi trivial
  | type hi =>
    rw [Option.toList_none, List.map_nil, List.append_nil]
    exact hthen hi trivial
  | condition hi hstates =>
    refine List.forall_mem_append.mpr ⟨hthen hi trivial, ?_⟩
    simpa [Atom.effect, hsc, Change.Repeatable] using hstates.same_self htr

/-- The plan of a triple may be carried out again in a basic pattern, if it is there already or has
been carried out before the pattern. -/
lemma EndAlike.insert_plan (h : p ∈ ps ∨ ∀ e ∈ p.allEffects, e ∈ es)
    (hrepeatable : ∀ e ∈ p.allEffects, e.change.Repeatable) :
    EndAlike sc (es ++ (basicEffects (ps ++ ps') ++ es'))
      (es ++ (basicEffects (ps ++ p :: ps') ++ es')) := by
  have hfirst : ∀ e ∈ p.effects, e ∈ es ++ planEffects ps := by
    intro e he
    rcases h with hp | h
    · exact List.mem_append_right _ (List.mem_flatMap.mpr ⟨p, hp, he⟩)
    · exact List.mem_append_left _ (h e (List.mem_append_left _ he))
  have hlast : ∀ e ∈ p.atom.toList.map Atom.effect,
      e ∈ es ++ (planEffects (ps ++ ps') ++ (planAtoms ps).map Atom.effect) := by
    intro e he
    rcases h with hp | h
    · obtain ⟨a, ha, rfl⟩ := List.mem_map.mp he
      have hmem : a ∈ planAtoms ps := List.mem_flatMap.mpr ⟨p, hp, ha⟩
      exact List.mem_append_right _ (List.mem_append_right _ (List.mem_map_of_mem hmem))
    · exact List.mem_append_left _ (h e (List.mem_append_right _ he))
  -- the plan comes in at two places: among the triples, and behind them with what it leaves to add
  obtain ⟨hce, hca⟩ := List.forall_mem_append.mp hrepeatable
  have hatom := insert_all sc ((planAtoms ps').map Atom.effect ++ es') hlast hca
  have heffects := insert_all sc
    (planEffects ps' ++ (planAtoms (ps ++ p :: ps')).map Atom.effect ++ es') hfirst hce
  simp only [basicEffects, planEffects_append, planAtoms_append, planEffects_cons,
    planAtoms_cons, List.map_append, List.append_assoc] at hatom heffects ⊢
  exact hatom.trans heffects

/-! ### Clauses with a triple written again -/

lemma forall₂_append_left_iff {α β : Type} {R : α → β → Prop} {as as' : List α} {bs : List β} :
    List.Forall₂ R (as ++ as') bs ↔
      ∃ cs cs', List.Forall₂ R as cs ∧ List.Forall₂ R as' cs' ∧ bs = cs ++ cs' := by
  constructor
  · intro h
    induction as generalizing bs with
    | nil => exact ⟨[], bs, .nil, h, rfl⟩
    | cons a as ih =>
      obtain ⟨b, bs, hab, hrest, rfl⟩ := List.forall₂_cons_left_iff.mp h
      obtain ⟨cs, cs', has, has', rfl⟩ := ih hrest
      exact ⟨b :: cs, cs', .cons hab has, has', rfl⟩
  · rintro ⟨cs, cs', has, has', rfl⟩
    exact List.rel_append has has'

/-- The clauses around a basic pattern are planned by themselves, and so are its triples. -/
lemma plans_around_basic_iff {before after : List Clause} {trs : List Triple}
    {ess : List (List Effect)} :
    List.Forall₂ (ClausePlan sc) (before ++ .basic trs :: after) ess ↔
      ∃ ess₁ ps ess₂, List.Forall₂ (ClausePlan sc) before ess₁ ∧
        List.Forall₂ (TriplePlan sc) trs ps ∧ List.Forall₂ (ClausePlan sc) after ess₂ ∧
        ess = ess₁ ++ basicEffects ps :: ess₂ := by
  rw [forall₂_append_left_iff]
  constructor
  · rintro ⟨ess₁, ess₂, hbefore, hrest, rfl⟩
    obtain ⟨es, ess₂, hbasic, hafter, rfl⟩ := List.forall₂_cons_left_iff.mp hrest
    cases hbasic with
    | basic hps => exact ⟨ess₁, _, ess₂, hbefore, hps, hafter, rfl⟩
  · rintro ⟨ess₁, ps, ess₂, hbefore, hps, hafter, rfl⟩
    exact ⟨ess₁, _, hbefore, .cons (.basic hps) hafter, rfl⟩

/-- A triple that is written again is planned as before, and the effects of its plan have been
carried out already. -/
lemma plan_of_written {before : List Clause} {trs : List Triple} {ess : List (List Effect)}
    (hbefore : List.Forall₂ (ClausePlan sc) before ess)
    (hps : List.Forall₂ (TriplePlan sc) trs ps)
    (h : tr ∈ trs ∨ ∃ earlier, .basic earlier ∈ before ∧ tr ∈ earlier) :
    ∃ p, TriplePlan sc tr p ∧ (p ∈ ps ∨ ∀ e ∈ p.allEffects, e ∈ ess.flatten) := by
  rcases h with htr | ⟨earlier, hearlier, htr⟩
  · obtain ⟨p, hp, hplan⟩ := exists_of_forall₂_left hps htr
    exact ⟨p, hplan, .inl hp⟩
  · obtain ⟨es, hes, hclause⟩ := exists_of_forall₂_left hbefore hearlier
    cases hclause with
    | basic hqs =>
      obtain ⟨p, hp, hplan⟩ := exists_of_forall₂_left hqs htr
      refine ⟨p, hplan, .inr fun e he => ?_⟩
      exact List.mem_flatten.mpr ⟨_, hes, mem_basicEffects.mpr ⟨p, hp, he⟩⟩

/-- Clauses are planned whether or not a triple is written again, and their effects end alike. -/
lemma plans_repeated {cs cs' : List Clause} (h : Repeated tr cs cs')
    (hsc : sc.isQuestion = false) (htr : tr.NoNaN) :
    (∀ ess, List.Forall₂ (ClausePlan sc) cs ess →
      ∃ ess', List.Forall₂ (ClausePlan sc) cs' ess' ∧ EndAlike sc ess.flatten ess'.flatten) ∧
    ∀ ess', List.Forall₂ (ClausePlan sc) cs' ess' →
      ∃ ess, List.Forall₂ (ClausePlan sc) cs ess ∧ EndAlike sc ess'.flatten ess.flatten := by
  obtain @⟨before, after, trs, trs', hwritten⟩ := h
  simp only [plans_around_basic_iff]
  constructor
  · rintro _ ⟨ess₁, qs, ess₂, hbefore, hqs, hafter, rfl⟩
    obtain ⟨ps, ps', hps, hps', rfl⟩ := forall₂_append_left_iff.mp hqs
    obtain ⟨p, hplan, hdone⟩ := plan_of_written hbefore hps hwritten
    refine ⟨_, ⟨ess₁, _, ess₂, hbefore, List.rel_append hps (.cons hplan hps'), hafter, rfl⟩, ?_⟩
    rw [List.flatten_append, List.flatten_append, List.flatten_cons, List.flatten_cons]
    exact .insert_plan hdone (hplan.repeatable hsc htr)
  · rintro _ ⟨ess₁, qs, ess₂, hbefore, hqs, hafter, rfl⟩
    obtain ⟨ps, qs, hps, hagain, rfl⟩ := forall₂_append_left_iff.mp hqs
    obtain ⟨p, ps', hplan, hps', rfl⟩ := List.forall₂_cons_left_iff.mp hagain
    obtain ⟨p', hplan', hdone⟩ := plan_of_written hbefore hps hwritten
    obtain rfl := hplan.unique hplan'
    refine ⟨_, ⟨ess₁, _, ess₂, hbefore, List.rel_append hps hps', hafter, rfl⟩, ?_⟩
    rw [List.flatten_append, List.flatten_append, List.flatten_cons, List.flatten_cons]
    exact (EndAlike.insert_plan hdone (hplan.repeatable hsc htr)).symm

/-- Clauses whose effects end alike are folded to tables that are read alike. -/
lemma foldClauses_readAlike {cs cs' : List Clause}
    (hplans : ∀ ess, List.Forall₂ (ClausePlan sc) cs ess →
      ∃ ess', List.Forall₂ (ClausePlan sc) cs' ess' ∧ EndAlike sc ess.flatten ess'.flatten)
    (h : Returns (foldClauses sc [] cs) ts) :
    ∃ ts', Returns (foldClauses sc [] cs') ts' ∧ ts.ReadAlike ts' := by
  obtain ⟨ess, hess, hperform⟩ := foldClauses_iff.mp h
  obtain ⟨ess', hess', halike⟩ := hplans ess hess
  obtain ⟨ts', hperform'⟩ := halike.succeeds.mp ⟨ts, hperform⟩
  exact ⟨ts', foldClauses_iff.mpr ⟨ess', hess', hperform'⟩, halike.tables ts ts' hperform hperform'⟩

/-! ### Selections with a triple written again -/

section

variable {settings : Settings} {lookups : Lookups Id} {q : Query} {keywords : List String}
  {cs' : List Clause}

/-- A selection is converted by folding its clauses, then its conditions on groups, and generating
the program of its tables. -/
lemma convertQuery_select_iff (hq : q.kind = .select) {p : Program} :
    Returns (convertQuery settings lookups q keywords) p ↔
      ∃ ts ts' e, Returns (foldClauses (queryScope settings lookups q keywords) [] q.clauses) ts ∧
        foldGroups ts q = .ok ts' ∧ generateSelect ts' q = .ok e ∧ p = ⟨e⟩ := by
  have hask : q.isQuestion = false := by simp [Query.isQuestion, hq]
  have hgenerate : ∀ c : Context, generate c q = .ok p ↔
      ∃ e, generateSelect c.tables q = .ok e ∧ p = ⟨e⟩ := by
    intro c
    simp only [generate, hask, Bool.false_eq_true, if_false]
    cases generateSelect c.tables q with
    | error f => simp [Except.map]
    | ok e => simp [Except.map, eq_comm]
  unfold convertQuery
  simp only [returns_bind, returns_mk, hgenerate, fold_iff]
  constructor
  · rintro ⟨c, ⟨ts, ts', hts, hgroups, rfl⟩, e, he, rfl⟩
    exact ⟨ts, ts', e, hts, hgroups, he, rfl⟩
  · rintro ⟨ts, ts', e, hts, hgroups, he, rfl⟩
    exact ⟨_, ⟨ts, ts', hts, hgroups, rfl⟩, e, he, rfl⟩

/-- Clauses whose effects end alike give the same program. -/
lemma convertQuery_of_endAlike (hq : q.kind = .select) {p : Program}
    (hplans : ∀ ess,
      List.Forall₂ (ClausePlan (queryScope settings lookups q keywords)) q.clauses ess →
        ∃ ess', List.Forall₂ (ClausePlan (queryScope settings lookups q keywords)) cs' ess' ∧
          EndAlike (queryScope settings lookups q keywords) ess.flatten ess'.flatten)
    (h : Returns (convertQuery settings lookups q keywords) p) :
    Returns (convertQuery settings lookups { q with clauses := cs' } keywords) p := by
  obtain ⟨ts, u, e, hts, hgroups, hselect, rfl⟩ := (convertQuery_select_iff hq).mp h
  obtain ⟨ts', hts', halike⟩ := foldClauses_readAlike hplans hts
  obtain ⟨u', hgroups', halike'⟩ := halike.foldGroups hgroups
  rw [halike'.generateSelect_eq] at hselect
  apply (convertQuery_select_iff (q := { q with clauses := cs' }) hq).mpr
  exact ⟨ts', u', e, hts', hgroups', hselect, rfl⟩

/-- A triple may be written again in a selection: the query is converted to the same program as
before, or to none as before. -/
theorem convertQuery_repeated (hq : q.kind = .select) (htr : tr.NoNaN)
    (h : Repeated tr q.clauses cs') (p : Program) :
    Returns (convertQuery settings lookups q keywords) p ↔
      Returns (convertQuery settings lookups { q with clauses := cs' } keywords) p := by
  have hsc : (queryScope settings lookups q keywords).isQuestion = false := by
    simp [Query.isQuestion, hq]
  obtain ⟨hforth, hback⟩ := plans_repeated h hsc htr
  constructor
  · exact convertQuery_of_endAlike hq hforth
  · exact convertQuery_of_endAlike (q := { q with clauses := cs' }) hq hback

end

namespace Atlas

/-- The continents of a country, which is to be found. -/
def continentOf : Triple := { fact (.variable "x") "P30" "" with object := .variable "c" }

/-- The countries in Africa or Europe, and the continents that they are on. -/
def continents : Query where
  kind := .select
  vars := ["x", "c"]
  clauses :=
    [.basic [fact (.variable "x") "P31" "Q6256", continentOf],
     .union
       [.single (.basic [fact (.variable "x") "P30" "Q15"]),
        .single (.basic [fact (.variable "x") "P30" "Q46"])],
     .basic [fact (.variable "x") "P30" "Q46"]]

/-- The same clauses, with the continents asked for again in the end. -/
def repeatedClauses : List Clause :=
  [.basic [fact (.variable "x") "P31" "Q6256", continentOf],
   .union
     [.single (.basic [fact (.variable "x") "P30" "Q15"]),
      .single (.basic [fact (.variable "x") "P30" "Q46"])],
   .basic [fact (.variable "x") "P30" "Q46", continentOf]]

/-- The program of both: the field is asked for once. -/
def continentsProgram : Program where
  statement :=
    .projection
      (.filter (baseTable "country")
        (.all
          [.any [onContinent "Q15" "Africa", onContinent "Q46" "Europe"],
           onContinent "Q46" "Europe"]))
      ["id", "continent"]

/-- The continents may be asked for again. -/
theorem convertQuery_repeated_continents :
    Repeated continentOf continents.clauses repeatedClauses ∧
      Returns (convertQuery settings lookups continents []) continentsProgram ∧
      Returns (convertQuery settings lookups { continents with clauses := repeatedClauses } [])
        continentsProgram := by
  have hnan : continentOf.NoNaN := by simp [Triple.NoNaN, continentOf]
  have hrepeated : Repeated continentOf continents.clauses repeatedClauses := by
    apply @Repeated.again continentOf (continents.clauses.take 2) []
      [fact (.variable "x") "P30" "Q46"] []
    right
    exact ⟨[fact (.variable "x") "P31" "Q6256", continentOf], List.mem_cons_self, by simp⟩
  have h : Returns (convertQuery settings lookups continents []) continentsProgram := rfl
  exact ⟨hrepeated, h, (convertQuery_repeated rfl hnan hrepeated continentsProgram).mp h⟩

end Atlas

end Conversion

end GraphTalk
