import Mathlib.Data.List.Forall2
import GraphTalk.Proofs.Conversion.Steps

/-!
# Folding as a list of effects

What a clause does to the tables does not depend on the tables. It is a list of effects, each a
change of the table of one subject, which is made first if there is none. `foldClauses_iff` says
that folding clauses is planning their effects and then carrying them out, and that one fails if and
only if the other does.
-/

namespace GraphTalk.Conversion

open Rdf Sparql Knowledge

/-! ### Effects -/

/-- A change of a table. -/
inductive Change where
  /-- The table is there. -/
  | presence
  | filter (condition : Condition)
  | projection (projection : Projection)
  | type (name : String)
  | verification (condition : Condition)

/-- A change of the table of a subject. -/
structure Effect where
  subject : String
  change : Change

/-- Changes a table. -/
def Table.change (t : Table) : Change → Except Unsupported Table
  | .presence => .ok t
  | .filter c => .ok (t.addFilter c)
  | .projection p => t.addProjection p
  | .type name => t.setName name
  | .verification c => t.addVerification c

/-- Carries out an effect. -/
def perform (sc : Scope Id) (ts : Tables) (e : Effect) : ExceptT Failure Id Tables := do
  let (ts, t) ← openTable sc ts e.subject
  return ts.put (← supported (t.change e.change))

/-- Carries out effects one after the other. -/
def performAll (sc : Scope Id) (ts : Tables) : List Effect → ExceptT Failure Id Tables
  | [] => return ts
  | e :: es => do performAll sc (← perform sc ts e) es

/-- The effect of a condition that is left to be added. -/
def Atom.effect (a : Atom) : Effect where
  subject := a.subject
  change := if a.verification then .verification a.condition else .filter a.condition

variable {sc : Scope Id} {ts ts' ts₁ : Tables} {s : String} {t t' : Table}

/-- A table can be changed: it has one type, and nothing is asked of a table in which a variable
stands for a field. -/
def Table.Admits (t : Table) : Change → Prop
  | .projection _ => t.verifications = []
  | .type name => t.typed = true → t.name = name
  | .verification _ => t.projections = []
  | _ => True

/-- The table after a change that it admits. -/
def Table.changed (t : Table) : Change → Table
  | .presence => t
  | .filter c => t.addFilter c
  | .projection p => { t with projections := t.projections ++ [p] }
  | .type name => { t with name, typed := true }
  | .verification c => { t with verifications := t.verifications ++ [c] }

@[simp] lemma Table.changed_subject (t : Table) (c : Change) :
    (t.changed c).subject = t.subject := by
  cases c <;> simp [changed]

/-- A change fails if the table does not admit it. -/
lemma Table.change_eq_ok_iff {c : Change} :
    t.change c = .ok t' ↔ t.Admits c ∧ t' = t.changed c := by
  cases c with
  | presence | filter => simp [change, Admits, changed, eq_comm]
  | projection p =>
    constructor
    · exact addProjection_eq_ok
    · rintro ⟨h, rfl⟩
      rw [change, addProjection, if_pos (List.isEmpty_iff.mpr h)]
      rfl
  | type name =>
    constructor
    · exact setName_eq_ok
    · rintro ⟨h, rfl⟩
      rw [change, setName, if_neg (by simpa [Admits] using h)]
      rfl
  | verification c =>
    constructor
    · exact addVerification_eq_ok
    · rintro ⟨h, rfl⟩
      rw [change, addVerification, if_pos (List.isEmpty_iff.mpr h)]
      rfl

lemma Table.change_subject {c : Change} (h : t.change c = .ok t') : t'.subject = t.subject := by
  rw [(change_eq_ok_iff.mp h).2, changed_subject]

lemma perform_iff {e : Effect} :
    Returns (perform sc ts e) ts' ↔
      ∃ ts₁ t t', Returns (openTable sc ts e.subject) (ts₁, t) ∧ t.change e.change = .ok t' ∧
        ts' = ts₁.put t' := by
  simp [perform, eq_comm]

@[simp] lemma performAll_nil : Returns (performAll sc ts []) ts' ↔ ts' = ts := by
  simp [performAll, eq_comm]

@[simp] lemma performAll_cons {e : Effect} {es : List Effect} :
    Returns (performAll sc ts (e :: es)) ts' ↔
      ∃ ts₁, Returns (perform sc ts e) ts₁ ∧ Returns (performAll sc ts₁ es) ts' := by
  simp [performAll]

@[simp] lemma performAll_singleton {e : Effect} :
    Returns (performAll sc ts [e]) ts' ↔ Returns (perform sc ts e) ts' := by
  simp

@[simp] lemma performAll_append {es es' : List Effect} :
    Returns (performAll sc ts (es ++ es')) ts' ↔
      ∃ ts₁, Returns (performAll sc ts es) ts₁ ∧ Returns (performAll sc ts₁ es') ts' := by
  induction es generalizing ts with
  | nil => simp
  | cons e es ih =>
    simp only [List.cons_append, performAll_cons, ih]
    constructor
    · rintro ⟨ts₁, he, ts₂, hes, hes'⟩
      exact ⟨ts₂, ⟨ts₁, he, hes⟩, hes'⟩
    · rintro ⟨ts₂, ⟨ts₁, he, hes⟩, hes'⟩
      exact ⟨ts₁, he, ts₂, hes, hes'⟩

/-- The table that is opened is there, and all others are as before. -/
lemma openTable_find? (h : Returns (openTable sc ts s) (ts₁, t)) (s' : String) :
    ts₁.find? s' = if s = s' then some t else ts.find? s' := by
  rcases openTable_iff.mp h with ⟨hf, rfl⟩ | ⟨hf, hn, rfl⟩
  · split
    · rename_i hs
      rw [← hs, hf]
    · rfl
  · obtain ⟨name, rfl⟩ := newTable_eq hn
    unfold Tables.find? at hf ⊢
    split
    · rename_i hs
      subst hs
      simp [List.find?_append, hf]
    · rename_i hs
      simp [List.find?_append, hs]

lemma openTable_subject (h : Returns (openTable sc ts s) (ts₁, t)) : t.subject = s := by
  have hf := openTable_find? h s
  rw [if_pos rfl] at hf
  exact (Tables.find?_eq_some hf).2

/-- A table that is there is not made again. -/
lemma openTable_of_find? (hf : ts.find? s = some t) : Returns (openTable sc ts s) (ts, t) :=
  openTable_iff.mpr (.inl ⟨hf, rfl⟩)

lemma openTable_unique {ts₂ : Tables} {u : Table} (h : Returns (openTable sc ts s) (ts₁, t))
    (h' : Returns (openTable sc ts s) (ts₂, u)) : ts₁ = ts₂ ∧ t = u :=
  Prod.mk.inj (h.unique h')

/-- Two changes of one table, one after the other. -/
lemma performAll_pair {c d : Change} :
    Returns (performAll sc ts [⟨s, c⟩, ⟨s, d⟩]) ts' ↔
      ∃ ts₁ t t₁ t₂, Returns (openTable sc ts s) (ts₁, t) ∧ t.change c = .ok t₁ ∧
        t₁.change d = .ok t₂ ∧ ts' = ts₁.put t₂ := by
  -- the table that has been changed once is the one that is opened next
  have hagain : ∀ {ts₁ : Tables} {t t₁ : Table}, Returns (openTable sc ts s) (ts₁, t) →
      t.change c = .ok t₁ → Returns (openTable sc (ts₁.put t₁) s) (ts₁.put t₁, t₁) := by
    intro ts₁ t t₁ hopen hc
    apply openTable_of_find?
    have hsub : t₁.subject = s := (Table.change_subject hc).trans (openTable_subject hopen)
    rw [Tables.find?_put, if_pos hsub, openTable_find? hopen, if_pos rfl]
    rfl
  simp only [performAll_cons, performAll_nil, perform_iff]
  constructor
  · rintro ⟨_, ⟨ts₁, t, t₁, hopen, hc, rfl⟩, _, ⟨ts₂, u, t₂, hopen', hd, rfl⟩, rfl⟩
    obtain ⟨rfl, rfl⟩ := openTable_unique (hagain hopen hc) hopen'
    exact ⟨ts₁, t, t₁, t₂, hopen, hc, hd, Tables.put_put (Table.change_subject hd)⟩
  · rintro ⟨ts₁, t, t₁, t₂, hopen, hc, hd, rfl⟩
    refine ⟨_, ⟨ts₁, t, t₁, hopen, hc, rfl⟩, _, ⟨_, t₁, t₂, hagain hopen hc, hd, rfl⟩, ?_⟩
    rw [Tables.put_put (Table.change_subject hd)]

lemma attach_iff_perform {a : Atom} :
    Returns (attach sc ts a) ts' ↔ Returns (perform sc ts a.effect) ts' := by
  rw [attach_iff, perform_iff]
  unfold Atom.effect
  cases hv : a.verification with
  | true => simp [Table.change]
  | false => simp [Table.change]

lemma attachAll_iff {as : List Atom} :
    Returns (attachAll sc ts as) ts' ↔ Returns (performAll sc ts (as.map Atom.effect)) ts' := by
  induction as generalizing ts with
  | nil => simp
  | cons a as ih => simp [attach_iff_perform, ih]

/-! ### Plans of triples -/

/-- What a triple says of its subject by itself: an entity is known to be itself. -/
inductive Introduces (sc : Scope Id) (tr : Triple) (s : String) : List Effect → Prop where
  | ofVariable {v : String} (hv : tr.subject = .variable v) (hs : s = "?" ++ v) :
      Introduces sc tr s []
  | ofEntity {i : Condition} (he : tr.subject.entity? = some s)
      (hi : Returns (identity sc s) i) : Introduces sc tr s [⟨s, .filter i⟩]

/-- What folding a triple does, and the condition that it leaves to be added. -/
structure Plan where
  effects : List Effect
  atom : Option Atom

/-- The plan of a triple, by the rules by which it is folded. -/
inductive TriplePlan (sc : Scope Id) (tr : Triple) : Plan → Prop where
  | projection {s p v field : String} {es : List Effect} (hi : Introduces sc tr s es)
      (hp : tr.predicate.property? = some p) (ho : tr.object = .variable v)
      (hf : sc.settings.schema.fieldName? p = some field) :
      TriplePlan sc tr ⟨es ++ [⟨s, .projection ⟨v, field⟩⟩], none⟩
  | type {s v name : String} {es : List Effect} (hi : Introduces sc tr s es)
      (hp : tr.predicate.property? = some instanceOf) (hs : tr.subject = .variable v)
      (ho : tr.object.isVariable = false)
      (hn : sc.settings.schema.domainTable? tr.object.entity? = some name) :
      TriplePlan sc tr ⟨es ++ [⟨s, .type name⟩], none⟩
  | condition {s : String} {c : Condition} {es : List Effect} (hi : Introduces sc tr s es)
      (h : States sc tr s c) :
      TriplePlan sc tr
        ⟨es ++ [⟨s, .presence⟩], some ⟨s, c, !tr.subject.isVariable && sc.isQuestion⟩⟩

variable {tr : Triple} {es : List Effect}

lemma Introduces.key (h : Introduces sc tr s es) : subjectKey tr.subject = .ok s := by
  cases h with
  | ofVariable hv hs => exact subjectKey_iff.mpr (.inl ⟨_, hv, hs⟩)
  | ofEntity he => exact subjectKey_iff.mpr (.inr he)

lemma Opened.introduces (h : Opened sc ts tr ts₁ t) : ∃ es, Introduces sc tr t.subject es := by
  have hkey := h.key
  cases h with
  | ofVariable hv h =>
    exact ⟨[], .ofVariable hv (openTable_subject h)⟩
  | @ofEntity e _ t i he h hi =>
    obtain rfl := openTable_subject h
    rw [Table.addFilter_subject]
    exact ⟨_, .ofEntity he hi⟩

/-- A triple opens the table of its subject and changes it. -/
lemma Introduces.performAll_iff (h : Introduces sc tr s es) {c : Change} :
    Returns (performAll sc ts (es ++ [⟨s, c⟩])) ts' ↔
      ∃ ts₁ t t', Opened sc ts tr ts₁ t ∧ t.change c = .ok t' ∧ ts' = ts₁.put t' := by
  cases h with
  | ofVariable hv hs =>
    subst hs
    rw [List.nil_append, performAll_singleton, perform_iff]
    constructor
    · rintro ⟨ts₁, t, t', hopen, hc, rfl⟩
      exact ⟨ts₁, t, t', .ofVariable hv hopen, hc, rfl⟩
    · rintro ⟨ts₁, t, t', hopened, hc, rfl⟩
      cases hopened with
      | ofVariable hv' hopen =>
        obtain rfl := Term.variable.inj (hv.symm.trans hv')
        exact ⟨ts₁, t, t', hopen, hc, rfl⟩
      | ofEntity he => simp [hv, Term.entity?] at he
  | @ofEntity i he hi =>
    rw [List.singleton_append, performAll_pair]
    constructor
    · rintro ⟨ts₁, t, t₁, t₂, hopen, hfilter, hc, rfl⟩
      cases hfilter
      exact ⟨ts₁, t.addFilter i, t₂, .ofEntity he hopen hi, hc, rfl⟩
    · rintro ⟨ts₁, t, t', hopened, hc, rfl⟩
      cases hopened with
      | ofVariable hv => simp [hv, Term.entity?] at he
      | @ofEntity e _ t i' he' hopen hi' =>
        obtain rfl : s = e := Option.some.inj (he.symm.trans he')
        obtain rfl := hi.unique hi'
        exact ⟨ts₁, t, t.addFilter i, t', hopen, rfl, hc, rfl⟩

lemma Opened.returns (h : Opened sc ts tr ts₁ t) :
    Returns (openSubject sc ts tr.subject t.subject) (ts₁, t) := by
  unfold openSubject
  rw [returns_bind]
  cases h with
  | ofVariable hv h =>
    refine ⟨(ts₁, t), (openTable_subject h).symm ▸ h, ?_⟩
    simp [hv, Term.isVariable]
  | @ofEntity e _ t i he h hi =>
    obtain rfl := openTable_subject h
    refine ⟨(ts₁, t), by simpa using h, ?_⟩
    rw [Table.addFilter_subject, isVariable_eq_false_of_entity he]
    simpa using ⟨i, hi, rfl⟩

/-- A triple to which a rule applies is folded. -/
lemma TripleRule.returns {a : Option Atom} (h : TripleRule sc ts tr ts' a) :
    Returns (foldTriple sc ts tr) (ts', a) := by
  have hopens : ∀ {ts₁ : Tables} {t : Table}, Opened sc ts tr ts₁ t →
      Returns (supported (subjectKey tr.subject)) t.subject ∧
        Returns (openSubject sc ts tr.subject t.subject) (ts₁, t) :=
    fun hopen => ⟨returns_supported.mpr hopen.key, hopen.returns⟩
  unfold foldTriple
  simp only [returns_bind]
  cases h with
  | @projection p v field ts₁ t t' hopen hp ho hf h =>
    refine ⟨t.subject, (hopens hopen).1, ?_⟩
    simp only [hp, returns_bind]
    refine ⟨(ts₁, t), (hopens hopen).2, ?_⟩
    simp [ho, hf, h]
  | @type v name ts₁ t t' hopen hp hs ho hn h =>
    refine ⟨t.subject, (hopens hopen).1, ?_⟩
    simp only [hp, returns_bind]
    refine ⟨(ts₁, t), (hopens hopen).2, ?_⟩
    split
    · rename_i w hw
      simp [hw, Term.isVariable] at ho
    · simp [hs, Term.isVariable, setType, hn, h]
  | @condition s c ts₁ t hopen h =>
    obtain ⟨p, hp, hc⟩ := h.condition
    have hobject := h.object
    obtain rfl : t.subject = s := Except.ok.inj (hopen.key.symm.trans h.key)
    refine ⟨t.subject, (hopens hopen).1, ?_⟩
    simp only [hp, returns_bind]
    refine ⟨(ts₁, t), (hopens hopen).2, ?_⟩
    split
    · rename_i w hw
      simp [hw, Term.isVariable] at hobject
    · have htype : ¬ (tr.subject.isVariable && p == instanceOf) = true := by
        simp only [Bool.and_eq_true, beq_iff_eq]
        rintro ⟨hsub, rfl⟩
        exact h.not_type ⟨hsub, hp⟩
      simp only [if_neg htype, returns_bind, returns_pure]
      exact ⟨c, hc, rfl⟩

/-- A triple is folded by carrying out its plan. -/
lemma foldTriple_iff {a : Option Atom} :
    Returns (foldTriple sc ts tr) (ts', a) ↔
      ∃ es, TriplePlan sc tr ⟨es, a⟩ ∧ Returns (performAll sc ts es) ts' := by
  constructor
  · intro h
    cases TripleRule.of_foldTriple h with
    | projection hopen hp ho hf hadd =>
      obtain ⟨es, hi⟩ := hopen.introduces
      exact ⟨_, .projection hi hp ho hf, hi.performAll_iff.mpr ⟨_, _, _, hopen, hadd, rfl⟩⟩
    | type hopen hp hs ho hn hset =>
      obtain ⟨es, hi⟩ := hopen.introduces
      exact ⟨_, .type hi hp hs ho hn, hi.performAll_iff.mpr ⟨_, _, _, hopen, hset, rfl⟩⟩
    | condition hopen hstates =>
      obtain ⟨es, hi⟩ := hopen.introduces
      obtain rfl := Except.ok.inj (hopen.key.symm.trans hstates.key)
      exact ⟨_, .condition hi hstates, hi.performAll_iff.mpr ⟨_, _, _, hopen, rfl, rfl⟩⟩
  · rintro ⟨es, hplan, hperform⟩
    apply TripleRule.returns
    cases hplan with
    | projection hi hp ho hf =>
      obtain ⟨ts₁, t, t', hopen, hc, rfl⟩ := hi.performAll_iff.mp hperform
      exact .projection hopen hp ho hf hc
    | type hi hp hs ho hn =>
      obtain ⟨ts₁, t, t', hopen, hc, rfl⟩ := hi.performAll_iff.mp hperform
      exact .type hopen hp hs ho hn hc
    | condition hi h =>
      obtain ⟨ts₁, t, t', hopen, hc, rfl⟩ := hi.performAll_iff.mp hperform
      cases hc
      exact .condition hopen h

/-! ### Plans of clauses -/

/-- The effects of plans, but for the conditions that are left to be added. -/
def planEffects (ps : List Plan) : List Effect := ps.flatMap Plan.effects

/-- The conditions that plans leave to be added. -/
def planAtoms (ps : List Plan) : List Atom := ps.flatMap fun p => p.atom.toList

@[simp] lemma planEffects_append (ps qs : List Plan) :
    planEffects (ps ++ qs) = planEffects ps ++ planEffects qs := by
  simp [planEffects]

@[simp] lemma planAtoms_append (ps qs : List Plan) :
    planAtoms (ps ++ qs) = planAtoms ps ++ planAtoms qs := by
  simp [planAtoms]

/-- The effects of folding a clause. The conditions of a basic pattern are added after all its
triples, and a union adds one condition for its two branches. -/
inductive ClausePlan (sc : Scope Id) : Clause → List Effect → Prop where
  | basic {trs : List Triple} {ps : List Plan} (h : List.Forall₂ (TriplePlan sc) trs ps) :
      ClausePlan sc (.basic trs) (planEffects ps ++ (planAtoms ps).map Atom.effect)
  | widened {bs : List Branch} {tr : Triple} {p : Plan} (hw : widenedTriple? bs = some tr)
      (h : TriplePlan sc tr p) :
      ClausePlan sc (.union bs) (p.effects ++ p.atom.toList.map Atom.effect)
  | union {left right : List Triple} {ps qs : List Plan} {a b : Atom} {as bs : List Atom}
      (hw : widenedTriple? [.single (.basic left), .single (.basic right)] = none)
      (hl : List.Forall₂ (TriplePlan sc) left ps) (hr : List.Forall₂ (TriplePlan sc) right qs)
      (ha : planAtoms ps = a :: as) (hb : planAtoms qs = b :: bs)
      (hs : ∀ d ∈ as ++ b :: bs, d.subject = a.subject) :
      ClausePlan sc (.union [.single (.basic left), .single (.basic right)])
        (planEffects ps ++ planEffects qs ++ [(unionAtom a as b bs).effect])

lemma foldTriples_iff {trs : List Triple} {as : List Atom} :
    Returns (foldTriples sc ts trs) (ts', as) ↔
      ∃ ps, List.Forall₂ (TriplePlan sc) trs ps ∧ planAtoms ps = as ∧
        Returns (performAll sc ts (planEffects ps)) ts' := by
  induction trs generalizing ts ts' as with
  | nil => simp [planAtoms, planEffects, eq_comm, and_comm]
  | cons tr trs ih =>
    simp only [foldTriples, returns_bind, returns_pure, Prod.exists, Prod.mk.injEq,
      foldTriple_iff, ih]
    constructor
    · rintro ⟨ts₁, a, ⟨es, hplan, hes⟩, ts₂, as', ⟨ps, hps, rfl, hperform⟩, rfl, rfl⟩
      refine ⟨⟨es, a⟩ :: ps, .cons hplan hps, by simp [planAtoms], ?_⟩
      rw [planEffects, List.flatMap_cons, performAll_append]
      exact ⟨ts₁, hes, hperform⟩
    · rintro ⟨_, hplans, rfl, hperform⟩
      obtain ⟨p, ps, hplan, hps, rfl⟩ := List.forall₂_cons_left_iff.mp hplans
      rw [planEffects, List.flatMap_cons, performAll_append] at hperform
      obtain ⟨ts₁, hes, hrest⟩ := hperform
      exact ⟨ts₁, p.atom, ⟨p.effects, hplan, hes⟩, ts', planAtoms ps, ⟨ps, hps, rfl, hrest⟩, rfl,
        by simp [planAtoms]⟩

lemma foldBasic_iff_performAll {trs : List Triple} :
    Returns (foldBasic sc ts trs) ts' ↔
      ∃ ps, List.Forall₂ (TriplePlan sc) trs ps ∧
        Returns (performAll sc ts (planEffects ps ++ (planAtoms ps).map Atom.effect)) ts' := by
  simp only [foldBasic_iff, foldTriples_iff, attachAll_iff, performAll_append]
  constructor
  · rintro ⟨ts₁, as, ⟨ps, hps, rfl, hes⟩, has⟩
    exact ⟨ps, hps, ts₁, hes, has⟩
  · rintro ⟨ps, hps, ts₁, hes, has⟩
    exact ⟨ts₁, _, ⟨ps, hps, rfl, hes⟩, has⟩

lemma foldBranches_iff_performAll {left right : List Triple} :
    Returns (foldBranches sc ts left right) ts' ↔
      ∃ ps qs a as b bs, List.Forall₂ (TriplePlan sc) left ps ∧
        List.Forall₂ (TriplePlan sc) right qs ∧ planAtoms ps = a :: as ∧
        planAtoms qs = b :: bs ∧ (∀ d ∈ as ++ b :: bs, d.subject = a.subject) ∧
        Returns (performAll sc ts
          (planEffects ps ++ planEffects qs ++ [(unionAtom a as b bs).effect])) ts' := by
  simp only [foldBranches_iff, foldTriples_iff, attach_iff_perform, performAll_append,
    performAll_singleton]
  constructor
  · rintro ⟨ts₁, a, as, ts₂, b, bs, ⟨ps, hps, ha, hes⟩, ⟨qs, hqs, hb, hes'⟩, hs, hunion⟩
    exact ⟨ps, qs, a, as, b, bs, hps, hqs, ha, hb, hs, ts₂, ⟨ts₁, hes, hes'⟩, hunion⟩
  · rintro ⟨ps, qs, a, as, b, bs, hps, hqs, ha, hb, hs, ts₂, ⟨ts₁, hes, hes'⟩, hunion⟩
    exact ⟨ts₁, a, as, ts₂, b, bs, ⟨ps, hps, ha, hes⟩, ⟨qs, hqs, hb, hes'⟩, hs, hunion⟩

/-- A clause is folded by carrying out its plan. -/
lemma foldClause_iff {c : Clause} :
    Returns (foldClause sc ts c) ts' ↔
      ∃ es, ClausePlan sc c es ∧ Returns (performAll sc ts es) ts' := by
  constructor
  · intro h
    cases c with
    | basic trs =>
      obtain ⟨ps, hps, hperform⟩ := foldBasic_iff_performAll.mp h
      exact ⟨_, .basic hps, hperform⟩
    | union bs =>
      rcases foldUnion_cases h with ⟨tr, hw, hbasic⟩ | ⟨hw, left, right, rfl, hbranches⟩
      · obtain ⟨_, hps, hperform⟩ := foldBasic_iff_performAll.mp hbasic
        obtain ⟨p, _, hp, hnil, rfl⟩ := List.forall₂_cons_left_iff.mp hps
        obtain rfl := List.forall₂_nil_left_iff.mp hnil
        exact ⟨_, .widened hw hp, by simpa [planEffects, planAtoms] using hperform⟩
      · obtain ⟨ps, qs, a, as, b, bs, hps, hqs, ha, hb, hs, hperform⟩ :=
          foldBranches_iff_performAll.mp hbranches
        exact ⟨_, .union hw hps hqs ha hb hs, hperform⟩
    | filter e => exact absurd h returns_refuse
  · rintro ⟨es, hplan, hperform⟩
    cases hplan with
    | basic hps => exact foldBasic_iff_performAll.mpr ⟨_, hps, hperform⟩
    | @widened bs tr p hw hp =>
      simp only [foldClause, foldUnion, hw]
      refine foldBasic_iff_performAll.mpr ⟨[p], .cons hp .nil, ?_⟩
      simpa [planEffects, planAtoms] using hperform
    | union hw hps hqs ha hb hs =>
      simp only [foldClause, foldUnion, hw, List.map_cons, List.map_nil, Branch.basic?]
      exact foldBranches_iff_performAll.mpr ⟨_, _, _, _, _, _, hps, hqs, ha, hb, hs, hperform⟩

/-- Clauses are folded by carrying out their plans one after the other. -/
theorem foldClauses_iff {cs : List Clause} :
    Returns (foldClauses sc ts cs) ts' ↔
      ∃ ess, List.Forall₂ (ClausePlan sc) cs ess ∧
        Returns (performAll sc ts ess.flatten) ts' := by
  induction cs generalizing ts with
  | nil => simp
  | cons c cs ih =>
    simp only [foldClauses_cons, foldClause_iff, ih]
    constructor
    · rintro ⟨ts₁, ⟨es, hc, hes⟩, ess, hcs, hess⟩
      exact ⟨es :: ess, .cons hc hcs, performAll_append.mpr ⟨ts₁, hes, hess⟩⟩
    · rintro ⟨_, hplans, hperform⟩
      obtain ⟨es, ess, hc, hcs, rfl⟩ := List.forall₂_cons_left_iff.mp hplans
      obtain ⟨ts₁, hes, hess⟩ := performAll_append.mp hperform
      exact ⟨ts₁, ⟨es, hc, hes⟩, ess, hcs, hess⟩

end GraphTalk.Conversion
