import Mathlib.Data.Set.Insert
import GraphTalk.Proofs.Meaning.Selection

/-!
# Types in unions

A type that stands in one branch of a union sets the table of its variable, and so it narrows what
the other branch finds. This module says when that changes the table of a variable, and when it
makes the program of a selection lose an entity.
-/

namespace GraphTalk

open Rdf

/-- A triple pattern gives the type of a variable. -/
structure Rdf.Triple.GivesType (v : String) (tr : Triple) : Prop where
  subject : tr.subject = .variable v
  predicate : tr.predicate.property? = some instanceOf
  object : tr.object.isVariable = false

/-- A clause does not hold without a triple: the triple is in it, or in all of its branches. -/
def Sparql.Clause.Requires (c : Sparql.Clause) (tr : Triple) : Prop :=
  match c with
  | .basic trs => tr ∈ trs
  | .union bs => ∀ b ∈ bs, ∃ trs, b = .single (.basic trs) ∧ tr ∈ trs
  | .filter _ => False

/-- The graph of all triples but those of one property and one entity. -/
def Graph.without (p o : String) : Graph := {t | t.2 ≠ (p, o)}

namespace Conversion

open Sparql Knowledge

variable {sc : Scope Id} {ts ts' : Tables} {t t' : Table} {s v : String}

/-! ### The table that a variable is in -/

/-- The name of the table that a variable is in, and whether a type has set it. -/
def Tables.state (ts : Tables) (v : String) : String × Bool :=
  match ts.find? ("?" ++ v) with
  | some t => (t.name, t.typed)
  | none => (defaultTable, false)

/-- Putting a table back changes the table of its own subject only. -/
lemma Tables.state_put {u : Table} (h : ts.find? t.subject = some u) :
    (ts.put t).state v = if t.subject = "?" ++ v then (t.name, t.typed) else ts.state v := by
  rw [Tables.state, Tables.find?_put]
  by_cases hv : t.subject = "?" ++ v
  · simp [hv, hv ▸ h]
  · simp [hv, Tables.state]

lemma Tables.state_put_same {u : Table} (h : ts.find? t.subject = some u)
    (hname : u.name = t.name) (htyped : u.typed = t.typed) : (ts.put t).state v = ts.state v := by
  rw [Tables.state_put h]
  split
  · rename_i hv
    rw [Tables.state, ← hv, h, ← hname, ← htyped]
  · rfl

/-- Opening a table leaves every variable where it is. -/
lemma openTable_state (h : Returns (openTable sc ts s) (ts', t)) :
    ts'.find? s = some t ∧ ts'.state v = ts.state v := by
  rcases openTable_iff.mp h with ⟨hf, rfl⟩ | ⟨hf, hnew, rfl⟩
  · exact ⟨hf, rfl⟩
  · obtain ⟨name, rfl⟩ := newTable_eq hnew
    unfold Tables.find? at hf
    refine ⟨by simp [Tables.find?, List.find?_append, hf], ?_⟩
    by_cases hs : s = "?" ++ v
    · subst hs
      have hname := newTable_variable (Text.dropStart?_append "?" v) hnew
      simp [Tables.state, Tables.find?, List.find?_append, hf, hname]
    · simp [Tables.state, Tables.find?, List.find?_append, hs]

/-- The table that is opened for a triple is that of its subject. -/
lemma Opened.state {tr : Triple} (h : Opened sc ts tr ts' t) :
    (∃ u, ts'.find? t.subject = some u ∧ u.name = t.name ∧ u.typed = t.typed) ∧
      ts'.state v = ts.state v := by
  cases h with
  | ofVariable hv h =>
    obtain ⟨hf, hstate⟩ := openTable_state (v := v) h
    exact ⟨⟨t, (Tables.find?_eq_some hf).2 ▸ hf, rfl, rfl⟩, hstate⟩
  | @ofEntity e _ t i he h hi =>
    obtain ⟨hf, hstate⟩ := openTable_state (v := v) h
    refine ⟨⟨t, ?_, by simp, by simp⟩, hstate⟩
    rw [Table.addFilter_subject, (Tables.find?_eq_some hf).2, hf]

/-! ### How types set it -/

/-- What folding triples does to the table that a variable is in: only a type sets it, and it is
set once. -/
structure Sets (v : String) (trs : List Triple) (ts ts' : Tables) : Prop where
  unset : (∀ tr ∈ trs, ¬ tr.GivesType v) → ts'.state v = ts.state v
  once : (ts.state v).2 = true → ts'.state v = ts.state v
  set : (∃ tr ∈ trs, tr.GivesType v) → (ts'.state v).2 = true

lemma Sets.of_state_eq {trs : List Triple} (htrs : ∀ tr ∈ trs, ¬ tr.GivesType v)
    (h : ts'.state v = ts.state v) : Sets v trs ts ts' where
  unset := fun _ => h
  once := fun _ => h
  set := fun ⟨tr, htr, hty⟩ => absurd hty (htrs tr htr)

lemma Sets.of_not_givesType {tr : Triple} (htr : ¬ tr.GivesType v)
    (h : ts'.state v = ts.state v) : Sets v [tr] ts ts' :=
  .of_state_eq (by simpa using htr) h

lemma Sets.append {left right : List Triple} {ts₁ ts₂ : Tables} (hl : Sets v left ts ts₁)
    (hr : Sets v right ts₁ ts₂) : Sets v (left ++ right) ts ts₂ where
  unset := by
    intro h
    obtain ⟨hleft, hright⟩ := List.forall_mem_append.mp h
    rw [hr.unset hright, hl.unset hleft]
  once := by
    intro h
    have h₁ := hl.once h
    rw [hr.once (by rw [h₁, h]), h₁]
  set := by
    rintro ⟨tr, htr, hty⟩
    rcases List.mem_append.mp htr with htr | htr
    · have h₁ := hl.set ⟨tr, htr, hty⟩
      rw [hr.once h₁, h₁]
    · exact hr.set ⟨tr, htr, hty⟩

/-- The table of a variable stays as it is if a type has set it before, or no type does now. -/
lemma Sets.state_eq_iff {trs : List Triple} (h : Sets v trs ts ts') :
    ts'.state v = ts.state v ↔ (ts.state v).2 = true ∨ ∀ tr ∈ trs, ¬ tr.GivesType v := by
  constructor
  · intro heq
    by_cases hty : ∃ tr ∈ trs, tr.GivesType v
    · exact .inl (heq ▸ h.set hty)
    · exact .inr fun tr htr hgives => hty ⟨tr, htr, hgives⟩
  · rintro (htyped | hnone)
    · exact h.once htyped
    · exact h.unset hnone

lemma TripleRule.sets {tr : Triple} {a : Option Atom} (h : TripleRule sc ts tr ts' a) :
    Sets v [tr] ts ts' := by
  cases h with
  | @projection p w field ts₁ t t' hopen hp ho hf h =>
    obtain ⟨_, rfl⟩ := Table.addProjection_eq_ok h
    obtain ⟨⟨u, hu, hname, htyped⟩, hstate⟩ := hopen.state (v := v)
    refine .of_not_givesType ?_ (Eq.trans (Tables.state_put_same hu hname htyped) hstate)
    intro hgives
    simpa [ho, Term.isVariable] using hgives.object
  | @type w name ts₁ t t' hopen hp hs ho hn h =>
    obtain ⟨hsame, rfl⟩ := Table.setName_eq_ok h
    obtain ⟨⟨u, hu, hname, htyped⟩, hstate⟩ := hopen.state (v := v)
    have hw := hopen.subject_of_variable hs
    have hput := Tables.state_put (v := v) (t := { t with name, typed := true }) hu
    by_cases hwv : w = v
    · subst hwv
      have hbefore : ts.state w = (t.name, t.typed) := by
        rw [← hstate, Tables.state, ← hw, hu, ← hname, ← htyped]
      rw [if_pos hw] at hput
      refine ⟨fun hnone => absurd ⟨hs, hp, ho⟩ (hnone tr (by simp)), ?_, fun _ => by rw [hput]⟩
      intro hty
      rw [hbefore] at hty
      have hty' : t.typed = true := hty
      rw [hput, hbefore, hsame hty', hty']
    · have hne : t.subject ≠ "?" ++ v := by
        rw [hw]
        exact fun heq => hwv ((String.append_right_inj "?").mp heq)
      rw [if_neg hne, hstate] at hput
      refine .of_not_givesType ?_ hput
      intro hgives
      exact hwv (Term.variable.inj (hs.symm.trans hgives.subject))
  | @condition k c ts₁ t hopen h =>
    obtain ⟨⟨u, hu, hname, htyped⟩, hstate⟩ := hopen.state (v := v)
    refine .of_not_givesType ?_ ((Tables.state_put_same hu hname htyped).trans hstate)
    intro hgives
    exact h.not_type ⟨by simp [hgives.subject, Term.isVariable], hgives.predicate⟩

lemma foldTriples_sets {trs : List Triple} {as : List Atom}
    (h : Returns (foldTriples sc ts trs) (ts', as)) : Sets v trs ts ts' := by
  induction trs generalizing ts as with
  | nil =>
    obtain ⟨rfl, _⟩ := foldTriples_nil.mp h
    exact .of_state_eq (by simp) rfl
  | cons tr trs ih =>
    obtain ⟨ts₁, a, as', hrule, hrest, _⟩ := foldTriples_cons h
    exact hrule.sets.append (ih hrest)

/-- A condition leaves the table of every variable as it is. -/
lemma attach_state {a : Atom} (h : Returns (attach sc ts a) ts') : ts'.state v = ts.state v := by
  obtain ⟨ts₁, t, hopen, hadd⟩ := attach_iff.mp h
  obtain ⟨hf, hstate⟩ := openTable_state (v := v) hopen
  obtain ⟨_, hsub⟩ := Tables.find?_eq_some hf
  rw [← hsub] at hf
  rcases hadd with ⟨_, t', ht', rfl⟩ | ⟨_, rfl⟩
  · obtain ⟨_, rfl⟩ := Table.addVerification_eq_ok ht'
    exact Eq.trans (Tables.state_put_same hf rfl rfl) hstate
  · refine (Tables.state_put_same (u := t) ?_ ?_ ?_).trans hstate
    · rw [Table.addFilter_subject, hf]
    · simp
    · simp

/-- The triples of both branches set the table that a variable is in. -/
lemma foldBranches_sets {left right : List Triple}
    (h : Returns (foldBranches sc ts left right) ts') : Sets v (left ++ right) ts ts' := by
  obtain ⟨ts₁, a, as, ts₂, b, bs, hl, hr, _, hattach⟩ := foldBranches_iff.mp h
  have hsets := (foldTriples_sets (v := v) hl).append (foldTriples_sets hr)
  have hunion : Sets v [] ts₂ ts' := .of_state_eq (by simp) (attach_state hattach)
  simpa using hsets.append hunion

/-! ### Which entities are lost -/

variable {G : Graph} {σ : String → String} {x : String}

lemma holds_of_requires {c : Clause} {tr : Triple} (h : c.Requires tr) (hc : c.Holds G σ) :
    tr.Holds G σ := by
  cases hc with
  | basic htrs => exact htrs tr h
  | union hb hbranch =>
    obtain ⟨trs, rfl, htr⟩ := h _ hb
    exact Branch.holds_basic.mp hbranch tr htr

lemma holds_without {p o : String} {tr : Triple} (htr : tr.IsFact x) :
    tr.Holds (Graph.without p o) σ ↔ tr ≠ .ofCodes x p o := by
  obtain ⟨p', o', rfl⟩ := htr
  rw [Triple.holds_ofCodes]
  simp [Graph.without, Triple.ofCodes]

/-- What is not required can be missing from a graph in which a clause holds. -/
lemma holds_without_of_not_requires {p o : String} {c : Clause} (hflat : c.IsFlat)
    (hfacts : ∀ tr ∈ c.triples, tr.IsFact x) (h : ¬ c.Requires (.ofCodes x p o)) :
    c.Holds (Graph.without p o) σ := by
  have hall : ∀ trs : List Triple, (∀ tr ∈ trs, tr.IsFact x) → .ofCodes x p o ∉ trs →
      ∀ tr ∈ trs, tr.Holds (Graph.without p o) σ := by
    intro trs htrs hnot tr htr
    refine (holds_without (htrs tr htr)).mpr ?_
    rintro rfl
    exact hnot htr
  cases hflat with
  | basic trs => exact .basic (hall trs (by simpa using hfacts) h)
  | union left right =>
    rw [Clause.holds_union_basic]
    by_cases hleft : .ofCodes x p o ∈ left
    · refine .inr (hall right (fun tr htr => hfacts tr (by simp [htr])) fun hright => h ?_)
      simp [Clause.Requires, hleft, hright]
    · exact .inl (hall left (fun tr htr => hfacts tr (by simp [htr])) hleft)

/-- A flat clause that holds is read right if its types hold. -/
lemma reads_of_holds {c : Clause} (hflat : c.IsFlat) (hfacts : ∀ tr ∈ c.triples, tr.IsFact x)
    (htypes : ∀ tr ∈ c.triples, tr.IsType → tr.Holds G σ) (h : c.Holds G σ) : c.Reads G σ := by
  cases hflat with
  | basic trs => exact (reads_basic (by simpa using hfacts)).mpr h
  | union left right =>
    rw [reads_union fun tr htr => hfacts tr (by simpa using htr)]
    refine ⟨fun tr htr => htypes tr (by simpa using htr), ?_⟩
    rcases Clause.holds_union_basic.mp h with hl | hr
    · exact .inl fun tr htr _ => hl tr htr
    · exact .inr fun tr htr _ => hr tr htr

/-- The program of a selection denotes all that fulfils the clauses if and only if the types that
stand in its unions are required. -/
theorem denotes_of_holds_iff {settings : Settings} {lookups : Lookups Id} {q : Query}
    {keywords : List String} {c : Context} {p : Program} (hs : settings.schema.Unambiguous)
    (hq : q.SelectsOnly x) (hfacts : ∀ cl ∈ q.clauses, ∀ tr ∈ cl.triples, tr.IsFact x)
    (hfold : Returns (fold settings lookups q keywords) c) (hgen : generate c q = .ok p) :
    (∀ G σ, (∀ cl ∈ q.clauses, cl.Holds G σ) → p.statement.Denotes settings.schema G (σ x)) ↔
      ∀ bs, .union bs ∈ q.clauses → ∀ tr ∈ (Clause.union bs).triples, tr.IsType →
        ∃ cl ∈ q.clauses, cl.Requires tr := by
  obtain ⟨ts, _, hclauses, _, _⟩ := fold_iff.mp hfold
  have hflat := foldClauses_flat hclauses
  constructor
  · intro hkeeps bs hbs tr htr hty
    by_contra hnone
    obtain ⟨p', d, rfl⟩ := hfacts _ hbs tr htr
    -- nothing has the type in this graph, and all clauses hold in it
    have hdenotes := hkeeps (Graph.without p' d) id fun cl hcl =>
      holds_without_of_not_requires (hflat cl hcl) (hfacts cl hcl) fun hreq =>
        hnone ⟨cl, hcl, hreq⟩
    rw [denotes_iff_reads hs hq hfacts hfold hgen] at hdenotes
    exact (holds_without ⟨p', d, rfl⟩).mp ((hdenotes _ hbs).1 _ htr hty) rfl
  · intro hreq G σ hholds
    rw [denotes_iff_reads hs hq hfacts hfold hgen]
    intro cl hcl
    refine reads_of_holds (hflat cl hcl) (hfacts cl hcl) ?_ (hholds cl hcl)
    intro tr htr hty
    cases hflat cl hcl with
    | basic trs => exact Clause.holds_basic.mp (hholds _ hcl) tr (by simpa using htr)
    | union left right =>
      obtain ⟨cl', hcl', hreq'⟩ := hreq _ hcl tr htr hty
      exact holds_of_requires hreq' (hholds cl' hcl')

/-- A union of two lists of triples leaves the table of a variable as it is if and only if a type
has set it before, or no branch gives a type to the variable. The program of a selection denotes
all entities that fulfil the clauses if and only if every type that stands in a union is required
by a clause, in all branches if that is a union. -/
theorem union_leaks_types_iff (settings : Settings) (lookups : Lookups Id) :
    (∀ spans isQuestion ts ts' left right v,
      widenedTriple? [.single (.basic left), .single (.basic right)] = none →
      Returns (foldClause { settings, lookups, spans, isQuestion } ts
        (.union [.single (.basic left), .single (.basic right)])) ts' →
      (ts'.state v = ts.state v ↔
        (ts.state v).2 = true ∨ ∀ tr ∈ left ++ right, ¬ tr.GivesType v)) ∧
    ∀ q keywords c p x, settings.schema.Unambiguous → q.SelectsOnly x →
      (∀ cl ∈ q.clauses, ∀ tr ∈ cl.triples, tr.IsFact x) →
      Returns (fold settings lookups q keywords) c → generate c q = .ok p →
      ((∀ G σ, (∀ cl ∈ q.clauses, cl.Holds G σ) →
          p.statement.Denotes settings.schema G (σ x)) ↔
        ∀ bs, .union bs ∈ q.clauses → ∀ tr ∈ (Clause.union bs).triples, tr.IsType →
          ∃ cl ∈ q.clauses, cl.Requires tr) := by
  refine ⟨?_, fun q keywords c p x hs hq hfacts hfold hgen =>
    denotes_of_holds_iff hs hq hfacts hfold hgen⟩
  intro spans isQuestion ts ts' left right v hw h
  rcases foldUnion_cases h with ⟨tr, hw', _⟩ | ⟨_, l, r, hbs, hbranches⟩
  · rw [hw] at hw'
    cases hw'
  · cases hbs
    exact (foldBranches_sets hbranches).state_eq_iff

namespace Atlas

/-- The countries of Africa. -/
def africanCountry : List Triple :=
  [fact (.variable "x") "P31" "Q6256", fact (.variable "x") "P30" "Q15"]

/-- The countries of Europe. -/
def europeanCountry : List Triple :=
  [fact (.variable "x") "P31" "Q6256", fact (.variable "x") "P30" "Q46"]

/-- Anything in Europe. -/
def inEurope : List Triple := [fact (.variable "x") "P30" "Q46"]

/-- What is in one list of triples or in the other. -/
def either (left right : List Triple) : Query where
  kind := .select
  vars := ["x"]
  clauses := [.union [.single (.basic left), .single (.basic right)]]

/-- A type that stands in both branches sets the table and excludes nothing. -/
theorem union_leaks_types_both :
    Returns (fold settings lookups (either africanCountry europeanCountry) [])
        ⟨[], false, [eitherTable]⟩ ∧
      generate ⟨[], false, [eitherTable]⟩ (either africanCountry europeanCountry) =
        .ok ⟨.filter (baseTable "country") onEither⟩ ∧
      Tables.state [eitherTable] "x" ≠ Tables.state [] "x" ∧
      ∀ G σ, (∀ cl ∈ (either africanCountry europeanCountry).clauses, cl.Holds G σ) →
        (TableExpression.filter (baseTable "country") onEither).Denotes settings.schema G
          (σ "x") := by
  have hfold : Returns (fold settings lookups (either africanCountry europeanCountry) [])
      ⟨[], false, [eitherTable]⟩ := rfl
  have hgen : generate ⟨[], false, [eitherTable]⟩ (either africanCountry europeanCountry) =
      .ok ⟨.filter (baseTable "country") onEither⟩ := rfl
  have htype : fact (.variable "x") "P31" "Q6256" ∈ africanCountry ++ europeanCountry := by
    simp [africanCountry]
  obtain ⟨hstate, hmeaning⟩ := union_leaks_types_iff settings lookups
  refine ⟨hfold, hgen, ?_, ?_⟩
  · rw [ne_eq, hstate [] false [] [eitherTable] africanCountry europeanCountry "x" rfl rfl]
    rintro (htyped | hnone)
    · cases htyped
    · exact hnone _ htype ⟨rfl, rfl, rfl⟩
  · refine (hmeaning _ _ _ _ "x" unambiguous_schema ⟨rfl, rfl, rfl, rfl, rfl, rfl, rfl⟩ ?_ hfold
      hgen).mpr ?_
    · simp [either, africanCountry, europeanCountry, or_imp, forall_and, isFact_fact]
    · intro bs hbs tr htr hty
      obtain rfl : bs = [.single (.basic africanCountry), .single (.basic europeanCountry)] := by
        simpa [either] using hbs
      obtain rfl : tr = fact (.variable "x") "P31" "Q6256" := by
        have hmem : tr ∈ africanCountry ++ europeanCountry := by simpa using htr
        simp only [africanCountry, europeanCountry, List.mem_append, List.mem_cons,
          List.not_mem_nil, or_false] at hmem
        rcases hmem with (rfl | rfl) | rfl | rfl
        · rfl
        · exact absurd (isType_fact.mp hty) (by decide)
        · rfl
        · exact absurd (isType_fact.mp hty) (by decide)
      refine ⟨_, hbs, ?_⟩
      simp [Clause.Requires, africanCountry, europeanCountry]

/-- A type in one branch excludes what the other branch finds, here something in Europe that is not
known to be a country. -/
theorem union_excludes_other_branch :
    Returns (fold settings lookups (either africanCountry inEurope) [])
        ⟨[], false, [eitherTable]⟩ ∧
      generate ⟨[], false, [eitherTable]⟩ (either africanCountry inEurope) =
        .ok ⟨.filter (baseTable "country") onEither⟩ ∧
      ∃ G σ, (∀ cl ∈ (either africanCountry inEurope).clauses, cl.Holds G σ) ∧
        ¬ (TableExpression.filter (baseTable "country") onEither).Denotes settings.schema G
          (σ "x") := by
  refine ⟨rfl, rfl, {("Q1", "P30", "Q46")}, fun _ => "Q1", ?_, ?_⟩
  · have hin : (fact (.variable "x") "P30" "Q46").Holds {("Q1", "P30", "Q46")} fun _ => "Q1" :=
      Triple.holds_ofCodes.mpr rfl
    simp [either, inEurope, hin]
  · rw [TableExpression.denotes_filter, TableExpression.denotes_baseTable]
    rintro ⟨hname | ⟨d, _, hd⟩, _⟩
    · revert hname
      decide
    · simp [instanceOf] at hd

end Atlas

end Conversion

end GraphTalk
