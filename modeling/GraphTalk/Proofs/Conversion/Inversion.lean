import Mathlib.Tactic.Common
import GraphTalk.Conversion.Generate

/-!
# Inversion of successful folds

Over a knowledge base whose answers depend on nothing else, a fold is a function that returns or
fails. `Returns x a` says that it returns `a`.

Every function of the fold has one lemma here that says what it did when it returned. A triple is
folded by one of three rules (`TripleRule`). Later proofs use these lemmas and do not unfold the
functions.
-/

namespace GraphTalk.Conversion

open Rdf Sparql Knowledge

/-- A computation over a pure knowledge base ends with a result. -/
def Returns {α : Type} (x : ExceptT Failure Id α) (a : α) : Prop := Id.run x.run = .ok a

section

variable {α β : Type}

lemma Returns.unique {x : ExceptT Failure Id α} {a b : α} (ha : Returns x a) (hb : Returns x b) :
    a = b := by
  unfold Returns at ha hb
  rw [ha] at hb
  cases hb
  rfl

@[simp] lemma returns_pure {a b : α} : Returns (pure a) b ↔ a = b := by
  constructor
  · intro h
    cases h
    rfl
  · rintro rfl
    rfl

@[simp] lemma returns_throw {f : Failure} {a : α} : ¬ Returns (throw f) a := by
  intro h
  cases h

@[simp] lemma returns_bind {x : ExceptT Failure Id α} {f : α → ExceptT Failure Id β} {b : β} :
    Returns (x >>= f) b ↔ ∃ a, Returns x a ∧ Returns (f a) b := by
  unfold Returns
  rw [ExceptT.run_bind]
  cases hx : Id.run x.run with
  | ok a => simp [hx]
  | error e => simp [hx]

@[simp] lemma returns_map {x : ExceptT Failure Id α} {f : α → β} {b : β} :
    Returns (f <$> x) b ↔ ∃ a, Returns x a ∧ f a = b := by
  rw [map_eq_pure_bind]
  simp only [returns_bind, returns_pure]

@[simp] lemma returns_mk {r : Except Failure α} {a : α} :
    Returns (ExceptT.mk (pure r)) a ↔ r = .ok a := Iff.rfl

@[simp] lemma returns_refuse {reason : Unsupported} {a : α} :
    ¬ Returns (refuse reason) a := returns_throw

@[simp] lemma returns_supported {r : Except Unsupported α} {a : α} :
    Returns (supported r) a ↔ r = .ok a := by
  cases r with
  | ok b => simp [supported]
  | error reason => simp [supported]

@[simp] lemma returns_ask {question : Id (Except Fault α)} {a : α} :
    Returns (ask question) a ↔ Id.run question = .ok a := by
  unfold Returns ask
  cases h : Id.run question with
  | ok b => simp [h]
  | error f => simp [h]

end

variable {sc : Scope Id} {ts ts' : Tables}

/-! ### Values and conditions -/

/-- Only an entity with a label can be shown. -/
lemma label_of_display {e d : String} (h : Returns (display sc e) d) :
    ∃ l, Id.run (sc.lookups.label e) = .ok (some l) := by
  unfold display at h
  obtain ⟨l, hl, h⟩ := returns_bind.mp h
  cases l with
  | none => exact absurd h returns_throw
  | some l => exact ⟨l, returns_ask.mp hl⟩

lemma identity_iff {e : String} {c : Condition} :
    Returns (identity sc e) c ↔
      ∃ d, Returns (display sc e) d ∧ c = .atom "id" "==" (.entity e genericEntityType d) := by
  simp [identity, eq_comm]

lemma same_identity {e : String} {i : Condition} (hi : Returns (identity sc e) i) :
    i.same i = true := by
  obtain ⟨d, _, rfl⟩ := identity_iff.mp hi
  simp [Condition.same, Value.same]

lemma atom_iff {p : String} {o : Term} {c : Condition} :
    Returns (atom sc p o) c ↔
      ∃ f v, sc.settings.schema.field? p = some f ∧ Returns (value sc f.type o) v ∧
        c = .atom f.name (defaultOperator f.type) v := by
  unfold atom
  cases hf : sc.settings.schema.field? p with
  | none => simp
  | some f => simp [eq_comm]

/-- The value of an entity is that entity, of the type that the field says. -/
lemma value_of_entity {type : FieldType} {o : Term} {e : String} {v : Value}
    (ho : o.entity? = some e) (h : Returns (value sc type o) v) :
    ∃ entityType d, v = .entity e entityType d := by
  unfold value at h
  cases ht : type.entityType? with
  | none =>
    cases o with
    | iri i => simp [ht] at h
    | _ => simp [Term.entity?] at ho
  | some entityType =>
    simp only [ht, ho, returns_bind, returns_pure] at h
    obtain ⟨d, _, rfl⟩ := h
    exact ⟨entityType, d, rfl⟩

/-- A value is an entity where the field has entities, and else what a literal stands for. -/
lemma value_iff {type : FieldType} {o : Term} {v : Value} :
    Returns (value sc type o) v ↔
      (∃ entityType e d, type.entityType? = some entityType ∧ o.entity? = some e ∧
        Returns (display sc e) d ∧ v = .entity e entityType d) ∨
      (type.entityType? = none ∧ ∃ l, o = .literal l ∧ v = literalValue type l) := by
  unfold value
  cases ht : type.entityType? with
  | none =>
    cases o with
    | literal l => simp [eq_comm]
    | _ => simp
  | some entityType =>
    cases he : o.entity? with
    | none => simp
    | some e => simp [eq_comm]

/-! ### Tables -/

lemma newTable_eq {s : String} {t : Table} (h : Returns (newTable sc s) t) :
    ∃ name, t = { subject := s, name } := by
  unfold newTable at h
  split at h
  · exact ⟨defaultTable, (returns_pure.mp h).symm⟩
  · obtain ⟨d, _, h⟩ := returns_bind.mp h
    split at h
    · exact ⟨_, (returns_pure.mp h).symm⟩
    · exact ⟨defaultTable, (returns_pure.mp h).symm⟩

/-- The table of a new variable has the default name. -/
lemma newTable_variable {s v : String} {t : Table} (hv : Text.dropStart? "?" s = some v)
    (h : Returns (newTable sc s) t) : t = { subject := s } := by
  unfold newTable at h
  rw [if_pos (by simp [hv])] at h
  exact (returns_pure.mp h).symm

lemma openTable_iff {s : String} {t : Table} :
    Returns (openTable sc ts s) (ts', t) ↔
      (ts.find? s = some t ∧ ts' = ts) ∨
      (ts.find? s = none ∧ Returns (newTable sc s) t ∧ ts' = ts ++ [t]) := by
  unfold openTable
  cases hf : ts.find? s with
  | none =>
    simp only [returns_bind, returns_pure, Prod.mk.injEq, reduceCtorEq, false_and, true_and,
      false_or]
    constructor
    · rintro ⟨u, hu, rfl, rfl⟩
      exact ⟨hu, rfl⟩
    · rintro ⟨hu, rfl⟩
      exact ⟨t, hu, rfl, rfl⟩
  | some u =>
    simp only [returns_pure, Prod.mk.injEq, Option.some.injEq, reduceCtorEq, false_and, or_false]
    tauto

/-- A condition goes to the table of its subject, as what is asked for or as a filter. -/
lemma attach_iff {a : Atom} :
    Returns (attach sc ts a) ts' ↔
      ∃ ts₁ t, Returns (openTable sc ts a.subject) (ts₁, t) ∧
        ((a.verification = true ∧ ∃ t', t.addVerification a.condition = .ok t' ∧
            ts' = ts₁.put t') ∨
          (a.verification = false ∧ ts' = ts₁.put (t.addFilter a.condition))) := by
  unfold attach
  simp only [returns_bind, Prod.exists]
  cases hv : a.verification with
  | true => simp [eq_comm]
  | false => simp [eq_comm]

@[simp] lemma attachAll_nil : Returns (attachAll sc ts []) ts' ↔ ts' = ts := by
  simp [attachAll, eq_comm]

@[simp] lemma attachAll_cons {a : Atom} {as : List Atom} :
    Returns (attachAll sc ts (a :: as)) ts' ↔
      ∃ ts₁, Returns (attach sc ts a) ts₁ ∧ Returns (attachAll sc ts₁ as) ts' := by
  simp [attachAll]

/-! ### Triples -/

lemma subjectKey_iff {t : Term} {s : String} :
    subjectKey t = .ok s ↔ (∃ v, t = .variable v ∧ s = "?" ++ v) ∨ t.entity? = some s := by
  unfold subjectKey
  split
  · simp [Term.entity?, eq_comm]
  · rename_i hv
    have hv' : ¬ ∃ v, t = .variable v ∧ s = "?" ++ v := by
      rintro ⟨v, rfl, -⟩
      exact hv v rfl
    cases he : t.entity? with
    | none => simp [hv']
    | some e => simp [hv']

lemma isVariable_eq_false_of_entity {t : Term} {e : String} (h : t.entity? = some e) :
    t.isVariable = false := by
  cases t with
  | iri i => rfl
  | _ => simp [Term.entity?] at h

/-- What is at hand when the rest of a triple is folded: the tables, with one for the subject, and
that table. An entity is known to be itself. -/
inductive Opened (sc : Scope Id) (ts : Tables) (tr : Triple) : Tables → Table → Prop where
  | ofVariable {v : String} {ts₁ : Tables} {t : Table} (hv : tr.subject = .variable v)
      (h : Returns (openTable sc ts ("?" ++ v)) (ts₁, t)) : Opened sc ts tr ts₁ t
  | ofEntity {e : String} {ts₁ : Tables} {t : Table} {i : Condition}
      (he : tr.subject.entity? = some e) (h : Returns (openTable sc ts e) (ts₁, t))
      (hi : Returns (identity sc e) i) : Opened sc ts tr ts₁ (t.addFilter i)

lemma Opened.of_openSubject {tr : Triple} {s : String} {ts₁ : Tables} {t : Table}
    (hs : subjectKey tr.subject = .ok s)
    (h : Returns (openSubject sc ts tr.subject s) (ts₁, t)) : Opened sc ts tr ts₁ t := by
  unfold openSubject at h
  obtain ⟨⟨ts₂, t₂⟩, hopen, h⟩ := returns_bind.mp h
  rcases subjectKey_iff.mp hs with ⟨v, hv, rfl⟩ | he
  · simp only [hv, Term.isVariable, if_true, returns_pure, Prod.mk.injEq] at h
    obtain ⟨rfl, rfl⟩ := h
    exact .ofVariable hv hopen
  · simp only [isVariable_eq_false_of_entity he, Bool.false_eq_true, if_false, returns_bind,
      returns_pure, Prod.mk.injEq] at h
    obtain ⟨i, hi, rfl, rfl⟩ := h
    exact .ofEntity he hopen hi

/-- A triple states a condition of its subject: its object is not a variable, and it does not give
the type of a variable. -/
structure States (sc : Scope Id) (tr : Triple) (s : String) (c : Condition) : Prop where
  key : subjectKey tr.subject = .ok s
  object : tr.object.isVariable = false
  not_type : ¬ (tr.subject.isVariable = true ∧ tr.predicate.property? = some instanceOf)
  condition : ∃ p, tr.predicate.property? = some p ∧ Returns (atom sc p tr.object) c

/-- The rules by which a triple is folded into tables. Only the last one leaves a condition to be
added. -/
inductive TripleRule (sc : Scope Id) (ts : Tables) (tr : Triple) :
    Tables → Option Atom → Prop where
  /-- A variable stands for a field of the subject. -/
  | projection {p v field : String} {ts₁ : Tables} {t t' : Table}
      (hopen : Opened sc ts tr ts₁ t) (hp : tr.predicate.property? = some p)
      (ho : tr.object = .variable v) (hf : sc.settings.schema.fieldName? p = some field)
      (h : t.addProjection ⟨v, field⟩ = .ok t') : TripleRule sc ts tr (ts₁.put t') none
  /-- The type of a variable is its table. -/
  | type {v name : String} {ts₁ : Tables} {t t' : Table}
      (hopen : Opened sc ts tr ts₁ t) (hp : tr.predicate.property? = some instanceOf)
      (hs : tr.subject = .variable v) (ho : tr.object.isVariable = false)
      (hn : sc.settings.schema.domainTable? tr.object.entity? = some name)
      (h : t.setName name = .ok t') : TripleRule sc ts tr (ts₁.put t') none
  /-- Anything else is a condition. -/
  | condition {s : String} {c : Condition} {ts₁ : Tables} {t : Table}
      (hopen : Opened sc ts tr ts₁ t) (h : States sc tr s c) :
      TripleRule sc ts tr (ts₁.put t)
        (some ⟨s, c, !tr.subject.isVariable && sc.isQuestion⟩)

lemma isVariable_iff {t : Term} : t.isVariable = true ↔ ∃ v, t = .variable v := by
  cases t <;> simp [Term.isVariable]

/-- A triple that is folded is folded by one of the rules. -/
lemma TripleRule.of_foldTriple {tr : Triple} {a : Option Atom}
    (h : Returns (foldTriple sc ts tr) (ts', a)) : TripleRule sc ts tr ts' a := by
  unfold foldTriple at h
  obtain ⟨s, hs, hrest⟩ := returns_bind.mp h
  rw [returns_supported] at hs
  cases hp : tr.predicate.property? with
  | none => simp [hp] at hrest
  | some p =>
    simp only [hp] at hrest
    obtain ⟨⟨ts₁, t⟩, hopen, hobj⟩ := returns_bind.mp hrest
    have hopened := Opened.of_openSubject hs hopen
    split at hobj
    · rename_i v hv
      cases hf : sc.settings.schema.fieldName? p with
      | none => simp [hf] at hobj
      | some field =>
        simp only [hf, returns_bind, returns_supported, returns_pure, Prod.mk.injEq] at hobj
        obtain ⟨t', ht', rfl, rfl⟩ := hobj
        exact .projection hopened hp hv hf ht'
    · rename_i hv
      have ho : tr.object.isVariable = false := by
        rw [← Bool.not_eq_true, isVariable_iff]
        rintro ⟨v, hov⟩
        exact hv v hov
      split at hobj
      · rename_i htype
        simp only [Bool.and_eq_true, beq_iff_eq] at htype
        obtain ⟨hsub, rfl⟩ := htype
        obtain ⟨v, hsv⟩ := isVariable_iff.mp hsub
        simp only [returns_bind, returns_pure, Prod.mk.injEq] at hobj
        obtain ⟨t', ht', rfl, rfl⟩ := hobj
        unfold setType at ht'
        cases hn : sc.settings.schema.domainTable? tr.object.entity? with
        | none => simp [hn] at ht'
        | some name =>
          simp only [hn, returns_supported] at ht'
          exact .type hopened hp hsv ho hn ht'
      · rename_i htype
        simp only [returns_bind, returns_pure, Prod.mk.injEq] at hobj
        obtain ⟨c, hc, rfl, rfl⟩ := hobj
        refine .condition hopened ⟨hs, ho, ?_, p, hp, hc⟩
        rintro ⟨hsub, hpi⟩
        rw [hp, Option.some.injEq] at hpi
        exact htype (by simp [hsub, hpi])

@[simp] lemma foldTriples_nil {as : List Atom} :
    Returns (foldTriples sc ts []) (ts', as) ↔ ts' = ts ∧ as = [] := by
  simp [foldTriples, eq_comm]

lemma foldTriples_cons {tr : Triple} {trs : List Triple} {as : List Atom}
    (h : Returns (foldTriples sc ts (tr :: trs)) (ts', as)) :
    ∃ ts₁ a as', TripleRule sc ts tr ts₁ a ∧ Returns (foldTriples sc ts₁ trs) (ts', as') ∧
      as = a.toList ++ as' := by
  simp only [foldTriples, returns_bind, returns_pure, Prod.exists, Prod.mk.injEq] at h
  obtain ⟨ts₁, a, ha, ts₂, as', has, rfl, rfl⟩ := h
  exact ⟨ts₁, a, as', .of_foldTriple ha, has, rfl⟩

/-! ### Clauses -/

lemma foldBasic_iff {trs : List Triple} :
    Returns (foldBasic sc ts trs) ts' ↔
      ∃ ts₁ as, Returns (foldTriples sc ts trs) (ts₁, as) ∧
        Returns (attachAll sc ts₁ as) ts' := by
  simp [foldBasic]

lemma sameSubject_iff {s : String} {as : List Atom} {u : Unit} :
    sameSubject s as = .ok u ↔ ∀ a ∈ as, a.subject = s := by
  induction as with
  | nil => simp [sameSubject]
  | cons a as ih =>
    unfold sameSubject
    by_cases ha : a.subject = s
    · simp [ha, ih]
    · simp [ha]

lemma foldBranch_iff {trs : List Triple} {a : Atom} {as : List Atom} :
    Returns (foldBranch sc ts trs) (ts', a, as) ↔
      Returns (foldTriples sc ts trs) (ts', a :: as) := by
  simp only [foldBranch, returns_bind, Prod.exists]
  constructor
  · rintro ⟨ts₁, as₁, h, hret⟩
    cases as₁ with
    | nil => simp at hret
    | cons b bs =>
      simp only [returns_pure, Prod.mk.injEq] at hret
      obtain ⟨rfl, rfl, rfl⟩ := hret
      exact h
  · intro h
    exact ⟨ts', a :: as, h, by simp⟩

/-- The condition that a union of two branches stands for. -/
def unionAtom (a : Atom) (as : List Atom) (b : Atom) (bs : List Atom) : Atom :=
  { subject := a.subject
    condition := .any [branchCondition a as, branchCondition b bs]
    verification := (a :: as ++ b :: bs).any Atom.verification }

/-- Both branches stand for conditions on one subject, and their disjunction is added to it. -/
lemma foldBranches_iff {left right : List Triple} :
    Returns (foldBranches sc ts left right) ts' ↔
      ∃ ts₁ a as ts₂ b bs, Returns (foldTriples sc ts left) (ts₁, a :: as) ∧
        Returns (foldTriples sc ts₁ right) (ts₂, b :: bs) ∧
        (∀ d ∈ as ++ b :: bs, d.subject = a.subject) ∧
        Returns (attach sc ts₂ (unionAtom a as b bs)) ts' := by
  simp only [foldBranches, returns_bind, Prod.exists, returns_mk, foldBranch_iff, sameSubject_iff,
    List.mem_append, unionAtom]
  constructor
  · rintro ⟨ts₁, a, as, hl, _, has, ts₂, b, bs, hr, _, hbs, h⟩
    exact ⟨ts₁, a, as, ts₂, b, bs, hl, hr, fun d hd => hd.elim (has d) (hbs d), h⟩
  · rintro ⟨ts₁, a, as, ts₂, b, bs, hl, hr, hs, h⟩
    exact ⟨ts₁, a, as, hl, (), fun d hd => hs d (.inl hd), ts₂, b, bs, hr, (),
      fun d hd => hs d (.inr hd), h⟩

lemma basic?_eq_some {b : Branch} {trs : List Triple} (h : b.basic? = some trs) :
    b = .single (.basic trs) := by
  unfold Branch.basic? at h
  split at h
  · cases h
    rfl
  · cases h

/-- A union is folded as the triple that it widens, or else as its two branches. -/
lemma foldUnion_cases {bs : List Branch} (h : Returns (foldUnion sc ts bs) ts') :
    (∃ tr, widenedTriple? bs = some tr ∧ Returns (foldBasic sc ts [tr]) ts') ∨
    (widenedTriple? bs = none ∧ ∃ left right,
      bs = [.single (.basic left), .single (.basic right)] ∧
        Returns (foldBranches sc ts left right) ts') := by
  unfold foldUnion at h
  cases hw : widenedTriple? bs with
  | some tr =>
    simp only [hw] at h
    exact .inl ⟨tr, rfl, h⟩
  | none =>
    simp only [hw] at h
    split at h
    · rename_i left right hbs
      obtain ⟨b, bs', rfl, hb, hbs'⟩ := List.map_eq_cons_iff.mp hbs
      obtain ⟨b', bs'', rfl, hb', hbs''⟩ := List.map_eq_cons_iff.mp hbs'
      obtain rfl := List.map_eq_nil_iff.mp hbs''
      rw [basic?_eq_some hb, basic?_eq_some hb']
      exact .inr ⟨rfl, left, right, rfl, h⟩
    · exact absurd h returns_refuse

@[simp] lemma foldClauses_nil : Returns (foldClauses sc ts []) ts' ↔ ts' = ts := by
  simp [foldClauses, eq_comm]

@[simp] lemma foldClauses_cons {c : Clause} {cs : List Clause} :
    Returns (foldClauses sc ts (c :: cs)) ts' ↔
      ∃ ts₁, Returns (foldClause sc ts c) ts₁ ∧ Returns (foldClauses sc ts₁ cs) ts' := by
  simp [foldClauses]

/-! ### Conditions on groups -/

lemma ownerOf?_eq_some {ts : Tables} {v field : String} {t : Table}
    (h : ts.ownerOf? v = some (t, field)) : t ∈ ts ∧ t.fieldFor? v = some field := by
  induction ts with
  | nil => simp [Tables.ownerOf?] at h
  | cons u us ih =>
    unfold Tables.ownerOf? at h
    split at h
    · rename_i f hf
      cases h
      exact ⟨by simp, hf⟩
    · obtain ⟨hmem, hf⟩ := ih h
      exact ⟨List.mem_cons_of_mem _ hmem, hf⟩

/-- The bound that a condition on groups puts on a table: on the number of values of a field that a
variable stands for. -/
inductive Bounds (h : HavingCondition) (t : Table) : Condition → Prop where
  | count {v op bound field : String} {n : Number} (hfn : h.function = some "count")
      (harg : h.argument? = some v) (hop : h.operator = some op) (hn : h.threshold = some n)
      (hbound : havingOperator? op = some bound) (hf : t.fieldFor? v = some field) :
      Bounds h t (.aggregate "count" field bound n)

/-- A condition on groups bounds a table. -/
lemma foldHaving_eq_ok {h : HavingCondition} (hts : foldHaving ts h = .ok ts') :
    ∃ t ∈ ts, ∃ c, Bounds h t c ∧ ts' = ts.put (t.addFilter c) := by
  unfold foldHaving at hts
  split at hts
  · rename_i v op n hfn harg hop hn
    split at hts
    · cases hts
    · rename_i bound hbound
      split at hts
      · cases hts
      · rename_i t field howner
        obtain ⟨hmem, hf⟩ := ownerOf?_eq_some howner
        cases hts
        exact ⟨t, hmem, _, .count hfn harg hop hn hbound hf, rfl⟩
  · cases hts

lemma foldHavings_cons {c : HavingCondition} {cs : List HavingCondition} :
    foldHavings ts (c :: cs) = .ok ts' ↔
      ∃ ts₁, foldHaving ts c = .ok ts₁ ∧ foldHavings ts₁ cs = .ok ts' := by
  conv_lhs => unfold foldHavings
  cases hc : foldHaving ts c with
  | ok ts₁ => simp
  | error f => simp

lemma foldGroups_eq_ok {q : Query} (h : foldGroups ts q = .ok ts') :
    foldHavings ts q.having = .ok ts' := by
  unfold foldGroups at h
  split at h
  · cases h
  · exact h

/-! ### Queries -/

/-- What the conversion of a query works with. -/
abbrev queryScope (settings : Settings) (lookups : Lookups Id) (q : Query)
    (keywords : List String) : Scope Id :=
  { settings, lookups, spans := Utterance.keywordSpans keywords, isQuestion := q.isQuestion }

lemma fold_iff {settings : Settings} {lookups : Lookups Id} {q : Query} {keywords : List String}
    {c : Context} :
    Returns (fold settings lookups q keywords) c ↔
      ∃ ts ts', Returns (foldClauses (queryScope settings lookups q keywords) [] q.clauses) ts ∧
        foldGroups ts q = .ok ts' ∧
        c = { spans := Utterance.keywordSpans keywords, isQuestion := q.isQuestion,
              tables := ts' } := by
  simp only [fold, returns_bind, returns_mk, returns_pure]
  constructor
  · rintro ⟨ts, hts, ts', hg, rfl⟩
    exact ⟨ts, ts', hts, hg, rfl⟩
  · rintro ⟨ts, ts', hts, hg, rfl⟩
    exact ⟨ts, hts, ts', hg, rfl⟩

end GraphTalk.Conversion
