import GraphTalk.Proofs.Conversion.Selection
import GraphTalk.Proofs.Meaning.Graph

/-!
# The meaning of selections

A selection of one variable, whose triples say which entities the variable has as its direct
properties, is folded into the table of that variable. The program denotes the entities of that
table.

Types are not kept with the conditions of a branch. A type in a branch of a union is read as one
that stands outside of it (`Clause.Reads`, `denotes_iff_reads`), so the meaning is kept when no
type stands in a union (`select_denotes_iff`).
-/

namespace GraphTalk

open Rdf

/-- A graph in which everything has every type. -/
def Graph.withTypes (G : Graph) : Graph := G ∪ {t | t.2.1 = instanceOf}

/-- With all types at hand, only what is no type matters. -/
lemma Rdf.Triple.IsFact.holds_withTypes {x : String} {t : Triple} {G : Graph}
    {σ : String → String} (ht : t.IsFact x) :
    t.Holds G.withTypes σ ↔ (¬ t.IsType → t.Holds G σ) := by
  obtain ⟨p, o, rfl⟩ := ht
  simp only [Triple.holds_ofCodes, Triple.isType_ofCodes, Graph.withTypes, Set.mem_union,
    Set.mem_ofPred_eq]
  tauto

/-- How a clause is read: all its types hold, and the clause holds of the rest. -/
def Sparql.Clause.Reads (G : Graph) (σ : String → String) (c : Sparql.Clause) : Prop :=
  (∀ t ∈ c.triples, t.IsType → t.Holds G σ) ∧ c.Holds G.withTypes σ

/-- A clause without nesting: a list of triples, or a union of two. -/
inductive Sparql.Clause.IsFlat : Sparql.Clause → Prop where
  | basic (trs : List Triple) : IsFlat (.basic trs)
  | union (left right : List Triple) :
      IsFlat (.union [.single (.basic left), .single (.basic right)])

lemma Schema.Unambiguous.inTable_iff {s : Schema} (hs : s.Unambiguous) {G : Graph}
    {d name e : String} (hd : s.tableName? d = some name) :
    s.InTable G name e ↔ (e, instanceOf, d) ∈ G := by
  constructor
  · rintro (rfl | ⟨d', hd', h⟩)
    · exact absurd hd (hs.notDefault d)
    · exact hs.table hd' hd ▸ h
  · exact fun h => .inr ⟨d, hd, h⟩

/-- A selection of one variable and of nothing else, without modifiers. -/
structure Sparql.Query.SelectsOnly (q : Sparql.Query) (x : String) : Prop where
  kind : q.kind = .select
  vars : q.vars = [x]
  aggregates : q.aggregates = []
  group : q.group = []
  having : q.having = []
  order : q.order = []
  limit : q.limit = none

namespace Conversion

open Sparql Knowledge

/-! ### What tables mean -/

/-- A table holds of an entity: the entity is in it and fulfils its filters. -/
def Table.Holds (s : Schema) (G : Graph) (e : String) (t : Table) : Prop :=
  s.InTable G t.name e ∧ ∀ f ∈ t.filters, f.Holds s G e

/-- All tables hold of an entity. -/
def Tables.Hold (s : Schema) (G : Graph) (e : String) (ts : Tables) : Prop :=
  ∀ t ∈ ts, t.Holds s G e

/-- The table of a variable, in which no other variable stands for a field. Without a type it is
the default table. -/
structure Table.IsSole (x : String) (t : Table) : Prop where
  subject : t.subject = "?" ++ x
  projections : t.projections = []
  untyped : t.typed = false → t.name = defaultTable

/-- There is no table but that of a variable. -/
def Tables.Sole (x : String) (ts : Tables) : Prop := ts = [] ∨ ∃ t, ts = [t] ∧ t.IsSole x

variable {s : Schema} {G : Graph} {e x : String} {t t' : Table} {ts ts' : Tables}

@[simp] lemma Tables.hold_nil : Tables.Hold s G e [] := by simp [Tables.Hold]

@[simp] lemma Tables.hold_singleton : Tables.Hold s G e [t] ↔ t.Holds s G e := by
  simp [Tables.Hold]

lemma Tables.put_singleton (h : t'.subject = t.subject) : Tables.put [t] t' = [t'] := by
  simp [Tables.put, h]

/-- A filter that has an equal one already changes nothing. -/
lemma Table.holds_addFilter {c : Condition} :
    (t.addFilter c).Holds s G e ↔ t.Holds s G e ∧ c.Holds s G e := by
  unfold Table.addFilter
  split
  · rename_i hany
    obtain ⟨d, hd, hsame⟩ := List.any_eq_true.mp hany
    constructor
    · exact fun h => ⟨h, (h.2 d hd).of_same hsame⟩
    · exact fun h => h.1
  · simp only [Table.Holds, List.mem_append, List.mem_singleton]
    constructor
    · rintro ⟨hin, hf⟩
      exact ⟨⟨hin, fun f h => hf f (.inl h)⟩, hf c (.inr rfl)⟩
    · rintro ⟨⟨hin, hf⟩, hc⟩
      exact ⟨hin, fun f h => h.elim (hf f) fun hfc => hfc ▸ hc⟩

lemma Table.IsSole.addFilter {c : Condition} (h : t.IsSole x) : (t.addFilter c).IsSole x :=
  ⟨by simpa using h.subject, by simpa using h.projections, by simpa using h.untyped⟩

/-- A type narrows the default table, and agrees with a type that is known. -/
lemma Table.IsSole.setName (hs : s.Unambiguous) (ht : t.IsSole x) {d name : String}
    (hd : s.tableName? d = some name) (h : t.setName name = .ok t') :
    t'.IsSole x ∧ (t'.Holds s G e ↔ t.Holds s G e ∧ (e, instanceOf, d) ∈ G) := by
  obtain ⟨htyped, rfl⟩ := Table.setName_eq_ok h
  refine ⟨⟨ht.subject, ht.projections, by simp⟩, ?_⟩
  simp only [Table.Holds, ← hs.inTable_iff hd]
  cases hty : t.typed with
  | true =>
    rw [htyped hty]
    tauto
  | false =>
    have hin : s.InTable G t.name e := .inl (ht.untyped hty)
    tauto

variable {sc : Scope Id}

/-- The table of the variable holds of what the tables have held of so far. -/
lemma openTable_sole (hts : ts.Sole x) (h : Returns (openTable sc ts ("?" ++ x)) (ts', t)) :
    ts' = [t] ∧ t.IsSole x ∧ (t.Holds s G e ↔ ts.Hold s G e) := by
  rcases hts with rfl | ⟨u, rfl, hu⟩
  · rcases openTable_iff.mp h with ⟨hf, _⟩ | ⟨_, hnew, rfl⟩
    · simp [Tables.find?] at hf
    · obtain rfl := newTable_variable (Text.dropStart?_append "?" x) hnew
      exact ⟨rfl, ⟨rfl, rfl, fun _ => rfl⟩, by simp [Table.Holds, Schema.InTable]⟩
  · rcases openTable_iff.mp h with ⟨hf, rfl⟩ | ⟨hf, _⟩
    · obtain rfl : u = t := by simpa [Tables.find?, hu.subject] using hf
      exact ⟨rfl, hu, by simp⟩
    · exact absurd hu.subject (Tables.find?_eq_none.mp hf u (by simp))

/-! ### What triples are folded to -/

/-- How triples are read when they are folded: types narrow the tables, and everything else is
left as conditions on the variable. -/
structure ReadAs (s : Schema) (G : Graph) (σ : String → String) (x : String) (ts : Tables)
    (trs : List Triple) (ts' : Tables) (as : List Atom) : Prop where
  sole : ts'.Sole x
  tables : ts'.Hold s G (σ x) ↔ ts.Hold s G (σ x) ∧ ∀ tr ∈ trs, tr.IsType → tr.Holds G σ
  atoms : ∀ a ∈ as, a.subject = "?" ++ x ∧ a.verification = false
  conditions : (∀ a ∈ as, a.condition.Holds s G (σ x)) ↔
    ∀ tr ∈ trs, ¬ tr.IsType → tr.Holds G σ

variable {σ : String → String}

lemma ReadAs.nil (hts : ts.Sole x) : ReadAs s G σ x ts [] ts [] :=
  ⟨hts, by simp, by simp, by simp⟩

lemma ReadAs.append {ts₁ ts₂ : Tables} {left right : List Triple} {as bs : List Atom}
    (hl : ReadAs s G σ x ts left ts₁ as) (hr : ReadAs s G σ x ts₁ right ts₂ bs) :
    ReadAs s G σ x ts (left ++ right) ts₂ (as ++ bs) where
  sole := hr.sole
  tables := by rw [hr.tables, hl.tables, List.forall_mem_append, and_assoc]
  atoms := List.forall_mem_append.mpr ⟨hl.atoms, hr.atoms⟩
  conditions := by
    rw [List.forall_mem_append, List.forall_mem_append, hl.conditions, hr.conditions]

lemma domainTable?_eq_some {d name : String} (h : s.domainTable? (some d) = some name) :
    s.tableName? d = some name := by
  obtain ⟨d', hd', h⟩ := Option.bind_eq_some_iff.mp h
  obtain ⟨hd, _⟩ := Option.filter_eq_some_iff.mp hd'
  cases hd
  exact h

lemma defaultOperator_eq (type : FieldType) :
    defaultOperator type = "==" ∨ defaultOperator type = "contains" := by
  unfold defaultOperator
  split
  · exact .inr rfl
  · exact .inl rfl

/-- The condition that a triple states is what the triple says of its subject. -/
lemma States.holds_iff (hs : sc.settings.schema.Unambiguous) {tr : Triple} {k p o : String}
    (hp : tr.predicate.property? = some p) (ho : tr.object.entity? = some o) {c : Condition}
    (h : States sc tr k c) : c.Holds sc.settings.schema G e ↔ (e, p, o) ∈ G := by
  obtain ⟨p', hp', hc⟩ := h.condition
  obtain rfl : p = p' := by simpa [hp] using hp'
  obtain ⟨f, v, hf, hv, rfl⟩ := atom_iff.mp hc
  obtain ⟨type, d, rfl⟩ := value_of_entity ho hv
  exact Condition.holds_field hs (by simp [Schema.fieldName?, hf]) (defaultOperator_eq f.type)

lemma Opened.sole {p o : String} (hts : ts.Sole x)
    (h : Opened sc ts (.ofCodes x p o) ts' t) :
    ts' = [t] ∧ t.IsSole x ∧ (t.Holds s G e ↔ ts.Hold s G e) := by
  cases h with
  | ofVariable hv h =>
    obtain rfl := Term.variable.inj hv
    exact openTable_sole hts h
  | ofEntity he => simp [Triple.ofCodes, Term.entity?] at he

/-- A type narrows the table of the variable, and any other triple is left as a condition. -/
lemma TripleRule.readAs (hs : sc.settings.schema.Unambiguous) (hts : ts.Sole x) {tr : Triple}
    (htr : tr.IsFact x) {a : Option Atom} (h : TripleRule sc ts tr ts' a) :
    ReadAs sc.settings.schema G σ x ts [tr] ts' a.toList := by
  obtain ⟨p, o, rfl⟩ := htr
  cases h with
  | projection _ _ ho => simp [Triple.ofCodes] at ho
  | @type v name ts₁ t t' hopen hp _ _ hn h =>
    obtain ⟨rfl, ht, hhold⟩ := hopen.sole (s := sc.settings.schema) (G := G) (e := σ x) hts
    obtain rfl : p = instanceOf := by simpa using hp
    rw [Triple.entity?_ofCodes] at hn
    obtain ⟨ht', hhold'⟩ := ht.setName (G := G) (e := σ x) hs (domainTable?_eq_some hn) h
    rw [Tables.put_singleton (ht'.subject.trans ht.subject.symm)]
    exact ⟨.inr ⟨t', rfl, ht'⟩, by simp [hhold', hhold], by simp, by simp⟩
  | @condition k c ts₁ t hopen h =>
    obtain ⟨rfl, ht, hhold⟩ := hopen.sole (s := sc.settings.schema) (G := G) (e := σ x) hts
    have hp : p ≠ instanceOf := by
      rintro rfl
      exact h.not_type ⟨rfl, by simp⟩
    have hk : k = "?" ++ x := (Except.ok.inj h.key).symm
    have hc := h.holds_iff (G := G) (e := σ x) hs (Triple.property?_ofCodes x p o)
      (Triple.entity?_ofCodes x p o)
    rw [Tables.put_singleton rfl]
    exact ⟨.inr ⟨t, rfl, ht⟩, by simp [hhold, hp], by simp [hk, Triple.ofCodes, Term.isVariable],
      by simp [hc, hp]⟩

/-- Triples are read one by one. -/
lemma foldTriples_readAs (hs : sc.settings.schema.Unambiguous) (hts : ts.Sole x)
    {trs : List Triple} (htrs : ∀ tr ∈ trs, tr.IsFact x) {as : List Atom}
    (h : Returns (foldTriples sc ts trs) (ts', as)) :
    ReadAs sc.settings.schema G σ x ts trs ts' as := by
  induction trs generalizing ts as with
  | nil =>
    obtain ⟨rfl, rfl⟩ := foldTriples_nil.mp h
    exact .nil hts
  | cons tr trs ih =>
    obtain ⟨ts₁, a, as', hrule, hrest, rfl⟩ := foldTriples_cons h
    obtain ⟨htr, htrs⟩ := List.forall_mem_cons.mp htrs
    have hread := hrule.readAs (G := G) (σ := σ) hs hts htr
    exact hread.append (ih hread.sole htrs hrest)

/-- A condition on the variable narrows its table. -/
lemma attach_hold (hts : ts.Sole x) {a : Atom}
    (ha : a.subject = "?" ++ x ∧ a.verification = false) (h : Returns (attach sc ts a) ts') :
    ts'.Sole x ∧ (ts'.Hold s G e ↔ ts.Hold s G e ∧ a.condition.Holds s G e) := by
  obtain ⟨ts₁, t, hopen, hadd⟩ := attach_iff.mp h
  rw [ha.1] at hopen
  obtain ⟨rfl, ht, hhold⟩ := openTable_sole (s := s) (G := G) (e := e) hts hopen
  rcases hadd with ⟨hv, _⟩ | ⟨_, rfl⟩
  · simp [ha.2] at hv
  · rw [Tables.put_singleton (by simp), Tables.hold_singleton, Table.holds_addFilter, hhold]
    exact ⟨.inr ⟨_, rfl, ht.addFilter⟩, Iff.rfl⟩

lemma attachAll_hold (hts : ts.Sole x) {as : List Atom}
    (has : ∀ a ∈ as, a.subject = "?" ++ x ∧ a.verification = false)
    (h : Returns (attachAll sc ts as) ts') :
    ts'.Sole x ∧ (ts'.Hold s G e ↔ ts.Hold s G e ∧ ∀ a ∈ as, a.condition.Holds s G e) := by
  induction as generalizing ts with
  | nil =>
    obtain rfl := attachAll_nil.mp h
    exact ⟨hts, by simp⟩
  | cons a as ih =>
    obtain ⟨ts₁, hattach, hrest⟩ := attachAll_cons.mp h
    obtain ⟨ha, has⟩ := List.forall_mem_cons.mp has
    obtain ⟨hts₁, hhold₁⟩ := attach_hold (s := s) (G := G) (e := e) hts ha hattach
    obtain ⟨hts', hhold'⟩ := ih hts₁ has hrest
    exact ⟨hts', by rw [hhold', hhold₁, List.forall_mem_cons, and_assoc]⟩

/-! ### What clauses are folded to -/

/-- Triples hold if the types among them do and the others do. -/
lemma forall_holds_iff {trs : List Triple} :
    (∀ tr ∈ trs, tr.Holds G σ) ↔
      (∀ tr ∈ trs, tr.IsType → tr.Holds G σ) ∧ ∀ tr ∈ trs, ¬ tr.IsType → tr.Holds G σ := by
  constructor
  · exact fun h => ⟨fun tr htr _ => h tr htr, fun tr htr _ => h tr htr⟩
  · rintro ⟨htypes, hrest⟩ tr htr
    by_cases hty : tr.IsType
    · exact htypes tr htr hty
    · exact hrest tr htr hty

lemma forall_holds_withTypes {trs : List Triple} (htrs : ∀ tr ∈ trs, tr.IsFact x) :
    (∀ tr ∈ trs, tr.Holds G.withTypes σ) ↔ ∀ tr ∈ trs, ¬ tr.IsType → tr.Holds G σ :=
  forall₂_congr fun tr htr => (htrs tr htr).holds_withTypes

lemma reads_basic {trs : List Triple} (htrs : ∀ tr ∈ trs, tr.IsFact x) :
    (Clause.basic trs).Reads G σ ↔ (Clause.basic trs).Holds G σ := by
  rw [Clause.Reads, Clause.triples_basic, Clause.holds_basic, Clause.holds_basic,
    forall_holds_withTypes htrs, ← forall_holds_iff]

lemma reads_union {left right : List Triple} (htrs : ∀ tr ∈ left ++ right, tr.IsFact x) :
    (Clause.union [.single (.basic left), .single (.basic right)]).Reads G σ ↔
      (∀ tr ∈ left ++ right, tr.IsType → tr.Holds G σ) ∧
      ((∀ tr ∈ left, ¬ tr.IsType → tr.Holds G σ) ∨
        ∀ tr ∈ right, ¬ tr.IsType → tr.Holds G σ) := by
  obtain ⟨hleft, hright⟩ := List.forall_mem_append.mp htrs
  rw [Clause.Reads, Clause.holds_union_basic, forall_holds_withTypes hleft,
    forall_holds_withTypes hright]
  simp [or_imp, forall_and]

lemma foldBasic_hold (hs : sc.settings.schema.Unambiguous) (hts : ts.Sole x)
    {trs : List Triple} (htrs : ∀ tr ∈ trs, tr.IsFact x)
    (h : Returns (foldBasic sc ts trs) ts') :
    ts'.Sole x ∧ (ts'.Hold sc.settings.schema G (σ x) ↔
      ts.Hold sc.settings.schema G (σ x) ∧ (Clause.basic trs).Reads G σ) := by
  obtain ⟨ts₁, as, htriples, hattach⟩ := foldBasic_iff.mp h
  have hread := foldTriples_readAs (G := G) (σ := σ) hs hts htrs htriples
  obtain ⟨hts', hhold⟩ := attachAll_hold (s := sc.settings.schema) (G := G) (e := σ x)
    hread.sole hread.atoms hattach
  refine ⟨hts', ?_⟩
  rw [hhold, hread.tables, hread.conditions, reads_basic htrs, and_assoc, Clause.holds_basic,
    ← forall_holds_iff]

/-- The conditions of both branches are kept apart, but their types are not. -/
lemma foldBranches_hold (hs : sc.settings.schema.Unambiguous) (hts : ts.Sole x)
    {left right : List Triple} (htrs : ∀ tr ∈ left ++ right, tr.IsFact x)
    (h : Returns (foldBranches sc ts left right) ts') :
    ts'.Sole x ∧ (ts'.Hold sc.settings.schema G (σ x) ↔
      ts.Hold sc.settings.schema G (σ x) ∧
        (Clause.union [.single (.basic left), .single (.basic right)]).Reads G σ) := by
  obtain ⟨hleft, hright⟩ := List.forall_mem_append.mp htrs
  obtain ⟨ts₁, a, as, ts₂, b, bs, hl, hr, _, hattach⟩ := foldBranches_iff.mp h
  have hreadl := foldTriples_readAs (G := G) (σ := σ) hs hts hleft hl
  have hreadr := foldTriples_readAs (G := G) (σ := σ) hs hreadl.sole hright hr
  have hread := hreadl.append hreadr
  have hatom : (unionAtom a as b bs).subject = "?" ++ x ∧
      (unionAtom a as b bs).verification = false := by
    refine ⟨(hread.atoms a (by simp)).1, ?_⟩
    rw [unionAtom, List.any_eq_false]
    exact fun d hd => by simp [(hread.atoms d hd).2]
  obtain ⟨hts', hhold⟩ := attach_hold (s := sc.settings.schema) (G := G) (e := σ x)
    hread.sole hatom hattach
  refine ⟨hts', ?_⟩
  have hcond : (unionAtom a as b bs).condition.Holds sc.settings.schema G (σ x) ↔
      (∀ tr ∈ left, ¬ tr.IsType → tr.Holds G σ) ∨
        ∀ tr ∈ right, ¬ tr.IsType → tr.Holds G σ := by
    rw [← hreadl.conditions, ← hreadr.conditions]
    simp [unionAtom, branchCondition, Condition.holds_any]
  rw [hhold, hread.tables, hcond, reads_union htrs, and_assoc]

lemma foldClause_hold (hs : sc.settings.schema.Unambiguous) (hts : ts.Sole x) {c : Clause}
    (hc : ∀ tr ∈ c.triples, tr.IsFact x) (h : Returns (foldClause sc ts c) ts') :
    ts'.Sole x ∧ (ts'.Hold sc.settings.schema G (σ x) ↔
      ts.Hold sc.settings.schema G (σ x) ∧ c.Reads G σ) := by
  cases c with
  | basic trs => exact foldBasic_hold hs hts (by simpa using hc) h
  | union bs =>
    rcases foldUnion_cases h with ⟨tr, hw, _⟩ | ⟨_, left, right, rfl, hbranches⟩
    · -- the wider of the two triples is no fact
      obtain ⟨tr', steps, rfl, hsteps⟩ := widenedTriple?_eq_some hw
      obtain ⟨p, o, rfl⟩ := hc tr' (by simp)
      cases hsteps
    · refine foldBranches_hold hs hts (fun tr htr => hc tr ?_) hbranches
      simpa using htr
  | filter e => exact absurd h returns_refuse

/-- Clauses are folded to tables that hold of what is read. -/
lemma foldClauses_hold (hs : sc.settings.schema.Unambiguous) (hts : ts.Sole x)
    {cs : List Clause} (hcs : ∀ c ∈ cs, ∀ tr ∈ c.triples, tr.IsFact x)
    (h : Returns (foldClauses sc ts cs) ts') :
    ts'.Sole x ∧ (ts'.Hold sc.settings.schema G (σ x) ↔
      ts.Hold sc.settings.schema G (σ x) ∧ ∀ c ∈ cs, c.Reads G σ) := by
  induction cs generalizing ts with
  | nil =>
    obtain rfl := foldClauses_nil.mp h
    exact ⟨hts, by simp⟩
  | cons c cs ih =>
    obtain ⟨ts₁, hfold, hrest⟩ := foldClauses_cons.mp h
    obtain ⟨hc, hcs⟩ := List.forall_mem_cons.mp hcs
    obtain ⟨hts₁, hhold₁⟩ := foldClause_hold (G := G) (σ := σ) hs hts hc hfold
    obtain ⟨hts', hhold'⟩ := ih hts₁ hcs hrest
    exact ⟨hts', by rw [hhold', hhold₁, List.forall_mem_cons, and_assoc]⟩

/-- Everything that can be folded is flat. -/
lemma foldClauses_flat {cs : List Clause} (h : Returns (foldClauses sc ts cs) ts') :
    ∀ c ∈ cs, c.IsFlat := by
  induction cs generalizing ts with
  | nil => simp
  | cons c cs ih =>
    obtain ⟨ts₁, hfold, hrest⟩ := foldClauses_cons.mp h
    refine List.forall_mem_cons.mpr ⟨?_, ih hrest⟩
    cases c with
    | basic trs => exact .basic trs
    | union bs =>
      rcases foldUnion_cases hfold with ⟨tr, hw, _⟩ | ⟨_, left, right, rfl, _⟩
      · obtain ⟨tr', _, rfl, _⟩ := widenedTriple?_eq_some hw
        exact .union [tr] [tr']
      · exact .union left right
    | filter e => exact absurd hfold returns_refuse

/-! ### What programs denote -/

lemma denotes_filtered :
    (filtered t (baseTable t.name)).Denotes s G e ↔ t.Holds s G e := by
  unfold filtered
  split
  · rename_i hf
    simp [Table.Holds, hf]
  · rename_i f fs hf
    simp [Table.Holds, hf]

/-- The program for one variable filters the table of that variable. -/
lemma generate_sole {c : Context} {q : Query} {p : Program} (hq : q.SelectsOnly x)
    (hts : c.tables.Sole x) (h : generate c q = .ok p) :
    ∃ t, c.tables = [t] ∧ p.statement = filtered t (baseTable t.name) := by
  obtain ⟨t, hout, hfrom⟩ := generate_select hq.kind h
  have hmem := (outputFields_ne_nil_iff hout).1
  rcases hts with hnil | ⟨u, hu, hsole⟩
  · simp [hnil] at hmem
  · obtain rfl : t = u := by simpa [hu] using hmem
    have hvar : t.variableName? = some x := by
      rw [Table.variableName?, hsole.subject]
      exact Text.dropStart?_append "?" x
    have hfields : outputFields (selectedVariables q) t = ["id"] := by
      simp [outputFields, selectedVariables, hq.vars, hq.aggregates, hvar, hsole.projections]
    simp only [generateFrom, ordered, hq.order, hfields, bne_self_eq_false, hq.aggregates,
      List.head?_nil, Option.bind_none, Option.isNone_none, Bool.and_true, Bool.false_eq_true,
      if_false, hq.limit, Except.ok.injEq] at hfrom
    exact ⟨t, hu, hfrom.symm⟩

/-- The program of a selection of one variable denotes what the clauses are read as. -/
theorem denotes_iff_reads {settings : Settings} {lookups : Lookups Id} {q : Query}
    {keywords : List String} {c : Context} {p : Program} (hs : settings.schema.Unambiguous)
    (hq : q.SelectsOnly x) (hfacts : ∀ cl ∈ q.clauses, ∀ tr ∈ cl.triples, tr.IsFact x)
    (hfold : Returns (fold settings lookups q keywords) c) (hgen : generate c q = .ok p) :
    p.statement.Denotes settings.schema G (σ x) ↔ ∀ cl ∈ q.clauses, cl.Reads G σ := by
  obtain ⟨ts, ts', hclauses, hgroups, rfl⟩ := fold_iff.mp hfold
  obtain ⟨hts, hhold⟩ := foldClauses_hold (G := G) (σ := σ) hs (.inl rfl) hfacts hclauses
  obtain rfl : ts = ts' := by simpa [foldGroups, foldHavings, hq.group, hq.having] using hgroups
  obtain ⟨t, htables, hstatement⟩ := generate_sole hq hts hgen
  simp only at htables
  rw [hstatement, denotes_filtered, ← Tables.hold_singleton, ← htables, hhold]
  simp

/-- A selection of one variable keeps its meaning, unless a type stands in a union: in every graph,
an entity fulfils the clauses if and only if the program denotes it. -/
theorem select_denotes_iff {settings : Settings} {lookups : Lookups Id} {q : Query}
    {keywords : List String} {c : Context} {p : Program} (hs : settings.schema.Unambiguous)
    (hq : q.SelectsOnly x) (hfacts : ∀ cl ∈ q.clauses, ∀ tr ∈ cl.triples, tr.IsFact x)
    (htypes : ∀ bs, .union bs ∈ q.clauses → ∀ tr ∈ (Clause.union bs).triples, ¬ tr.IsType)
    (hfold : Returns (fold settings lookups q keywords) c) (hgen : generate c q = .ok p)
    (G : Graph) (σ : String → String) :
    (∀ cl ∈ q.clauses, cl.Holds G σ) ↔ p.statement.Denotes settings.schema G (σ x) := by
  rw [denotes_iff_reads hs hq hfacts hfold hgen]
  obtain ⟨ts, _, hclauses, _, _⟩ := fold_iff.mp hfold
  refine forall₂_congr fun cl hcl => ?_
  have hfact := hfacts cl hcl
  cases foldClauses_flat hclauses cl hcl with
  | basic trs => rw [reads_basic (by simpa using hfact)]
  | union left right =>
    have htrs : ∀ tr ∈ left ++ right, tr.IsFact x := fun tr htr => hfact tr (by simpa using htr)
    have hnone : ∀ tr ∈ left ++ right, ¬ tr.IsType := fun tr htr =>
      htypes _ hcl tr (by simpa using htr)
    obtain ⟨hleft, hright⟩ := List.forall_mem_append.mp hnone
    have hrest : ∀ trs : List Triple, (∀ tr ∈ trs, ¬ tr.IsType) →
        ((∀ tr ∈ trs, ¬ tr.IsType → tr.Holds G σ) ↔ ∀ tr ∈ trs, tr.Holds G σ) :=
      fun trs h => forall₂_congr fun tr htr => by simp [h tr htr]
    rw [reads_union htrs, hrest left hleft, hrest right hright, Clause.holds_union_basic]
    exact (and_iff_right fun tr htr hty => absurd hty (hnone tr htr)).symm

namespace Atlas

/-- The countries of Africa or Europe. -/
def eitherContinent : Query where
  kind := .select
  vars := ["x"]
  clauses :=
    [.union
       [.single (.basic [fact (.variable "x") "P30" "Q15"]),
        .single (.basic [fact (.variable "x") "P30" "Q46"])],
     .basic [fact (.variable "x") "P31" "Q6256"]]

/-- The condition of being on one of the two continents. -/
def onEither : Condition := .any [onContinent "Q15" "Africa", onContinent "Q46" "Europe"]

/-- The table of the countries of Africa or Europe. -/
def eitherTable : Table where
  subject := "?x"
  name := "country"
  filters := [onEither]
  typed := true

lemma isFact_fact (x p o : String) : (fact (.variable x) p o).IsFact x := ⟨p, o, rfl⟩

lemma isType_fact {x p o : String} : (fact (.variable x) p o).IsType ↔ p = instanceOf :=
  Triple.isType_ofCodes (x := x) (p := p) (o := o)

lemma eq_of_lookup_singleton {α : Type} {k k' : String} {a b : α}
    (h : [(k, a)].lookup k' = some b) : k' = k ∧ a = b := by
  by_cases hk : k' = k
  · exact ⟨hk, by simpa [List.lookup_cons, hk] using h⟩
  · simp [List.lookup_cons, beq_eq_false_iff_ne.mpr hk] at h

/-- The atlas has one table and one field. -/
lemma unambiguous_schema : settings.schema.Unambiguous where
  table := fun h h' =>
    (eq_of_lookup_singleton h).1.trans (eq_of_lookup_singleton h').1.symm
  field := by
    intro p p' name h h'
    obtain ⟨f, hf, _⟩ := Option.map_eq_some_iff.mp h
    obtain ⟨f', hf', _⟩ := Option.map_eq_some_iff.mp h'
    exact (eq_of_lookup_singleton hf).1.trans (eq_of_lookup_singleton hf').1.symm
  notDefault := fun d h => absurd (eq_of_lookup_singleton h).2 (by decide)

/-- A country is found by the program if and only if it is one of Africa or Europe. -/
theorem select_denotes_eitherContinent :
    Returns (fold settings lookups eitherContinent []) ⟨[], false, [eitherTable]⟩ ∧
      generate ⟨[], false, [eitherTable]⟩ eitherContinent =
        .ok ⟨.filter (baseTable "country") onEither⟩ ∧
      ∀ G e, (∀ cl ∈ eitherContinent.clauses, cl.Holds G fun _ => e) ↔
        (TableExpression.filter (baseTable "country") onEither).Denotes settings.schema G e := by
  have hfold : Returns (fold settings lookups eitherContinent [])
      ⟨[], false, [eitherTable]⟩ := rfl
  have hgen : generate ⟨[], false, [eitherTable]⟩ eitherContinent =
      .ok ⟨.filter (baseTable "country") onEither⟩ := rfl
  refine ⟨hfold, hgen, fun G e => ?_⟩
  refine select_denotes_iff (x := "x") unambiguous_schema ⟨rfl, rfl, rfl, rfl, rfl, rfl, rfl⟩
    ?_ ?_ hfold hgen G fun _ => e
  · simp [eitherContinent, isFact_fact]
  · simp [eitherContinent, forall_and, isType_fact, instanceOf]

end Atlas

end Conversion

end GraphTalk
