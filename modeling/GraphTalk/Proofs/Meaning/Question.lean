import GraphTalk.Proofs.Conversion.Question
import GraphTalk.Proofs.Meaning.Selection

/-!
# The meaning of questions

A question that has a program is about one entity. Its program asks whether some entity of the
entity's table is that entity and fulfils the conditions of the clauses. `affirmed_iff_holds` says
that the answer is the one that the clauses have in the graph.

The table is that of the entity's type in the knowledge base, so the answer is right only in graphs
that agree with the knowledge base about types.
-/

namespace GraphTalk

open Rdf

/-- A question is answered with yes: the condition holds of an entity that the expression
denotes. -/
inductive TableExpression.Affirmed (s : Schema) (G : Graph) : TableExpression → Prop where
  | question {inner : TableExpression} {c : Condition} {e : String}
      (hi : inner.Denotes s G e) (hc : c.Holds s G e) : Affirmed s G (.question inner c)

/-- An entity stands for itself under every assignment. -/
lemma Rdf.Term.value?_of_entity {σ : String → String} {t : Term} {e : String}
    (h : t.entity? = some e) : t.value? σ = some e := by
  cases t with
  | iri i => exact h
  | _ => simp [Term.entity?] at h

/-- A triple pattern with a direct property and an entity, whatever its subject is. -/
def Rdf.Triple.IsPlain (t : Triple) : Prop :=
  ∃ p o, t.predicate = .path (.iri (propertyNamespace ++ p)) ∧
    t.object = .iri (entityNamespace ++ o)

/-- The types that a knowledge base gives are types in a graph. -/
def Knowledge.Lookups.TypedIn (lookups : Knowledge.Lookups Id) (G : Graph) : Prop :=
  ∀ e d, Id.run (lookups.domain e) = .ok (some d) → (e, instanceOf, d) ∈ G

/-- No field has the name that the identity of an entity is written with. -/
def Schema.KeepsIdentity (s : Schema) : Prop := ∀ p, s.fieldName? p ≠ some "id"

/-- The identity of an entity holds of nothing else. -/
lemma Condition.holds_identity {s : Schema} (hs : s.KeepsIdentity) {G : Graph}
    {e e' type display : String} :
    (Condition.atom "id" "==" (.entity e type display)).Holds s G e' ↔ e' = e := by
  constructor
  · intro h
    cases h with
    | field hp _ _ => exact absurd hp (hs _)
    | identity _ => rfl
  · rintro rfl
    exact .identity hs

namespace Conversion

open Sparql Knowledge

variable {sc : Scope Id} {G : Graph} {σ : String → String} {s : String}

/-- An entity is in the table that is opened for it. -/
lemma newTable_inTable {t : Table} (h : Returns (newTable sc s) t)
    (htypes : sc.lookups.TypedIn G) : sc.settings.schema.InTable G t.name s := by
  unfold newTable at h
  split at h
  · obtain rfl := returns_pure.mp h
    exact .inl rfl
  · obtain ⟨domain, hdomain, h⟩ := returns_bind.mp h
    split at h
    · rename_i name hname
      obtain rfl := returns_pure.mp h
      cases domain with
      | none => cases hname
      | some d => exact .inr ⟨d, domainTable?_eq_some hname, htypes s d (returns_ask.mp hdomain)⟩
    · obtain rfl := returns_pure.mp h
      exact .inl rfl

/-! ### What is asked for -/

/-- The condition that a triple states of an entity holds if the triple does. -/
lemma States.holds_iff_triple (hs : sc.settings.schema.Unambiguous)
    (hcode : Text.dropStart? "?" s = none) {tr : Triple} (htr : tr.IsPlain) {c : Condition}
    (h : States sc tr s c) : c.Holds sc.settings.schema G s ↔ tr.Holds G σ := by
  obtain ⟨p, o, hp, ho⟩ := htr
  have hsubject : tr.subject.value? σ = some s :=
    Term.value?_of_entity (subject_entity_of_key hcode h.key)
  have hentity : tr.object.entity? = some o := by
    rw [ho]
    exact Text.dropStart?_append _ o
  have hdirect : tr.predicate.direct? = some p := by
    rw [hp]
    exact Text.dropStart?_append _ p
  have hproperty : tr.predicate.property? = some p := by
    rw [hp]
    exact Triple.property?_ofCodes "" p o
  rw [h.holds_iff hs hproperty hentity]
  simp [Triple.Holds, hsubject, hdirect, Term.value?_of_entity hentity]

lemma forall_holds_iff_triples (hs : sc.settings.schema.Unambiguous)
    (hcode : Text.dropStart? "?" s = none) {trs : List Triple} (htrs : ∀ tr ∈ trs, tr.IsPlain)
    {cs : List Condition} (h : List.Forall₂ (fun tr c => States sc tr s c) trs cs) :
    (∀ c ∈ cs, c.Holds sc.settings.schema G s) ↔ ∀ tr ∈ trs, tr.Holds G σ := by
  induction h with
  | nil => simp
  | cons hstates _ ih =>
    obtain ⟨htr, htrs⟩ := List.forall_mem_cons.mp htrs
    rw [List.forall_mem_cons, List.forall_mem_cons, hstates.holds_iff_triple (σ := σ) hs hcode htr,
      ih htrs]

/-- The conditions that a clause asks for hold of the entity if the clause does. -/
lemma Verified.holds_iff (hs : sc.settings.schema.Unambiguous)
    (hcode : Text.dropStart? "?" s = none) {cl : Clause} (hcl : ∀ tr ∈ cl.triples, tr.IsPlain)
    {ws : List Condition} (h : Verified sc s cl ws) :
    (∀ w ∈ ws, w.Holds sc.settings.schema G s) ↔ cl.Holds G σ := by
  cases h with
  | basic h =>
    rw [Clause.holds_basic]
    exact forall_holds_iff_triples hs hcode (by simpa using hcl) h
  | widened hw h =>
    -- the wider of the two triples is not plain
    obtain ⟨tr', steps, rfl, hsteps⟩ := widenedTriple?_eq_some hw
    obtain ⟨p, o, hp, _⟩ := hcl tr' (by simp)
    rw [hp] at hsteps
    cases hsteps
  | @union left right c d cs ds hw hl hr =>
    have hleft := forall_holds_iff_triples (G := G) (σ := σ) hs hcode
      (fun tr htr => hcl tr (by simp [htr])) hl
    have hright := forall_holds_iff_triples (G := G) (σ := σ) hs hcode
      (fun tr htr => hcl tr (by simp [htr])) hr
    rw [Clause.holds_union_basic, ← hleft, ← hright]
    simp [Condition.holds_any]

lemma forall_holds_iff_clauses {cls : List Clause} {wss : List (List Condition)}
    (h : List.Forall₂ (Verified sc s) cls wss) (hs : sc.settings.schema.Unambiguous)
    (hcode : Text.dropStart? "?" s = none) (hcls : ∀ cl ∈ cls, ∀ tr ∈ cl.triples, tr.IsPlain) :
    (∀ w ∈ wss.flatten, w.Holds sc.settings.schema G s) ↔ ∀ cl ∈ cls, cl.Holds G σ := by
  induction h with
  | nil => simp
  | cons hws _ ih =>
    obtain ⟨hcl, hcls⟩ := List.forall_mem_cons.mp hcls
    rw [List.flatten_cons, List.forall_mem_append, List.forall_mem_cons,
      hws.holds_iff (σ := σ) hs hcode hcl, ih hcls]

/-- A question that has a program asks for the identity of an entity and for the conditions of the
clauses, of the table that is opened for the entity. -/
lemma generate_asked {settings : Settings} {lookups : Lookups Id} {q : Query}
    {keywords : List String} {c : Context} {p : Program} (hlabels : LabelsCodes lookups)
    (hq : q.kind = .ask) (hfold : Returns (fold settings lookups q keywords) c)
    (hgen : generate c q = .ok p) :
    ∃ s d t wss, Text.dropStart? "?" s = none ∧
      Returns (newTable (queryScope settings lookups q keywords) s) t ∧
      List.Forall₂ (Verified (queryScope settings lookups q keywords) s) q.clauses wss ∧
      p.statement = .question (baseTable t.name)
        (.all (.atom "id" "==" (.entity s genericEntityType d) :: wss.flatten)) := by
  obtain ⟨t, v, vs, htables, hv, hstatement⟩ := generate_ask hq hgen
  have hasked := (fold_steps hfold).askedOfEntity t (by simp [htables])
  obtain ⟨i, hi⟩ := hasked.identity (by simp [hv])
  obtain ⟨d, hd, rfl⟩ := identity_iff.mp hi
  obtain ⟨l, hl⟩ := label_of_display hd
  have hcode := dropStart?_of_isCode (hlabels _ l hl)
  have hon : On t.subject c.tables := by
    simpa [On, htables] using hasked.unprojected (by simp [hv])
  obtain ⟨ts, ts', hclauses, hgroups, rfl⟩ := fold_iff.mp hfold
  obtain ⟨_, rfl⟩ := foldHavings_on (queryScope settings lookups q keywords)
    (foldClauses_nodup hclauses) (foldGroups_eq_ok hgroups) hon
  obtain ⟨_, wss, hwss, hts⟩ := foldClauses_asked hcode (by simp [Query.isQuestion, hq]) hi
    (.inl ⟨rfl, rfl⟩) hclauses hon
  rcases hts with ⟨hnil, _⟩ | ⟨t₀, hnew, hts⟩
  · cases htables.symm.trans hnil
  · have ht := List.singleton_inj.mp (htables.symm.trans hts)
    refine ⟨t.subject, d, t₀, wss, hcode, hnew, hwss, ?_⟩
    rw [hstatement _ (congrArg Table.filters ht), congrArg Table.name ht,
      congrArg Table.verifications ht, List.nil_append]

/-- A question keeps its answer: in every graph that has the types that the knowledge base gives,
the clauses can be fulfilled if and only if the program is answered with yes. -/
theorem affirmed_iff_holds {settings : Settings} {lookups : Lookups Id} {q : Query}
    {keywords : List String} {c : Context} {p : Program} (hs : settings.schema.Unambiguous)
    (hid : settings.schema.KeepsIdentity) (hlabels : LabelsCodes lookups) (hq : q.kind = .ask)
    (hplain : ∀ cl ∈ q.clauses, ∀ tr ∈ cl.triples, tr.IsPlain)
    (hfold : Returns (fold settings lookups q keywords) c) (hgen : generate c q = .ok p)
    (G : Graph) (htypes : lookups.TypedIn G) :
    (∃ σ, ∀ cl ∈ q.clauses, cl.Holds G σ) ↔ p.statement.Affirmed settings.schema G := by
  obtain ⟨s, d, t, wss, hcode, hnew, hwss, hstatement⟩ := generate_asked hlabels hq hfold hgen
  have hin := newTable_inTable hnew htypes
  have hclauses : ∀ σ, (∀ w ∈ wss.flatten, w.Holds settings.schema G s) ↔
      ∀ cl ∈ q.clauses, cl.Holds G σ := fun σ =>
    forall_holds_iff_clauses hwss hs hcode hplain
  rw [hstatement]
  constructor
  · rintro ⟨σ, hσ⟩
    refine .question (e := s) (by simpa using hin) (.all ?_)
    rw [List.forall_mem_cons]
    exact ⟨.identity hid, (hclauses σ).mpr hσ⟩
  · intro h
    cases h with
    | question _ hc =>
      obtain ⟨hident, hws⟩ := List.forall_mem_cons.mp (Condition.holds_all.mp hc)
      obtain rfl := (Condition.holds_identity hid).mp hident
      exact ⟨id, (hclauses id).mp hws⟩

namespace Atlas

/-- France is a country of Europe. -/
def frenchGraph : Graph := {("Q142", instanceOf, "Q6256"), ("Q142", "P30", "Q46")}

/-- The only field of the atlas is the continent. -/
lemma keepsIdentity_schema : settings.schema.KeepsIdentity := by
  intro p h
  obtain ⟨f, hf, hname⟩ := Option.map_eq_some_iff.mp h
  rw [← (eq_of_lookup_singleton hf).2] at hname
  exact absurd hname (by decide)

/-- The only type that the atlas gives is that of France. -/
lemma typedIn_frenchGraph : lookups.TypedIn frenchGraph := by
  intro e d h
  simp only [lookups, Lookups.pure, Id.run_pure, Except.ok.injEq] at h
  split at h
  · rename_i he
    obtain rfl := Option.some.inj h
    exact .inl (by rw [he])
  · cases h

/-- In the graph of France both clauses of the question hold, so it is answered with yes. -/
theorem affirmed_iff_holds_french :
    Returns (fold settings lookups frenchContinents []) ⟨[], true, [frenchTable]⟩ ∧
      generate ⟨[], true, [frenchTable]⟩ frenchContinents =
        .ok ⟨.question (baseTable "country") (.all (isFrance :: frenchConditions))⟩ ∧
      (∃ σ, ∀ cl ∈ frenchContinents.clauses, cl.Holds frenchGraph σ) ∧
      (TableExpression.question (baseTable "country")
        (.all (isFrance :: frenchConditions))).Affirmed settings.schema frenchGraph := by
  have hfold : Returns (fold settings lookups frenchContinents [])
      ⟨[], true, [frenchTable]⟩ := rfl
  have hgen : generate ⟨[], true, [frenchTable]⟩ frenchContinents =
      .ok ⟨.question (baseTable "country") (.all (isFrance :: frenchConditions))⟩ := rfl
  have hplain : ∀ cl ∈ frenchContinents.clauses, ∀ tr ∈ cl.triples, tr.IsPlain := by
    have hfact : ∀ s p o, (fact s p o).IsPlain := fun _ p o => ⟨p, o, rfl, rfl⟩
    simp [frenchContinents, hfact]
  have hholds : ∃ σ, ∀ cl ∈ frenchContinents.clauses, cl.Holds frenchGraph σ := by
    have hin : (fact (.iri (entityNamespace ++ "Q142")) "P30" "Q46").Holds frenchGraph id :=
      ⟨"Q142", "P30", "Q46", by decide, by decide, by decide, .inr rfl⟩
    exact ⟨id, by simp [frenchContinents, hin]⟩
  exact ⟨hfold, hgen, hholds, (affirmed_iff_holds unambiguous_schema keepsIdentity_schema
    labelsCodes_lookups rfl hplain hfold hgen frenchGraph typedIn_frenchGraph).mp hholds⟩

end Atlas

end Conversion

end GraphTalk
