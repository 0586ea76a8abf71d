import GraphTalk.Proofs.Conversion.Atlas
import GraphTalk.Proofs.Conversion.Provenance
import GraphTalk.Proofs.Conversion.Records

/-!
# The subjects of a union

A union of two basic patterns is folded exactly if its triples are, and the conditions that they
state are on one subject, with at least one in each branch (`union_accepted_iff`). Triples that
state no condition are not asked for their subject: one that gives a type or that has a variable as
its object goes to the table of its own subject, whatever the conditions are on.
-/

namespace GraphTalk

open Rdf

/-- A triple is of those that state a condition: its object is not a variable, and it does not give
the type of a variable. -/
structure Rdf.Triple.IsCondition (tr : Triple) : Prop where
  object : tr.object.isVariable = false
  not_type : ¬ (tr.subject.isVariable = true ∧ tr.predicate.property? = some instanceOf)

namespace Conversion

open Sparql Knowledge

variable {sc : Scope Id} {ts ts' : Tables} {tr : Triple} {trs left right : List Triple} {p : Plan}
  {ps : List Plan} {es : List Effect} {s : String}

/-! ### Conditions among triples -/

lemma States.isCondition {c : Condition} (h : States sc tr s c) : tr.IsCondition :=
  ⟨h.object, h.not_type⟩

/-- A triple that is planned and is of those that state a condition states one. -/
lemma TriplePlan.exists_states (h : TriplePlan sc tr p) (htr : tr.IsCondition) :
    ∃ s c, States sc tr s c := by
  cases h with
  | projection _ _ ho _ =>
    have hobject := htr.object
    simp [ho, Term.isVariable] at hobject
  | type _ hp hs _ _ => exact absurd ⟨by simp [hs, Term.isVariable], hp⟩ htr.not_type
  | condition _ h => exact ⟨_, _, h⟩

lemma exists_atom_of_isCondition (h : List.Forall₂ (TriplePlan sc) trs ps) (ht : tr ∈ trs)
    (htr : tr.IsCondition) :
    ∃ a ∈ planAtoms ps, subjectKey tr.subject = .ok a.subject ∧
      a.verification = (!tr.subject.isVariable && sc.isQuestion) := by
  obtain ⟨p, -, hplan⟩ := exists_of_forall₂_left h ht
  obtain ⟨s, c, hstates⟩ := hplan.exists_states htr
  exact ⟨⟨s, c, _⟩, (mem_planAtoms h).mpr ⟨tr, ht, hstates, rfl⟩, hstates.key, rfl⟩

lemma exists_isCondition_of_atom (h : List.Forall₂ (TriplePlan sc) trs ps) {a : Atom}
    (ha : a ∈ planAtoms ps) :
    ∃ tr ∈ trs, tr.IsCondition ∧ subjectKey tr.subject = .ok a.subject ∧
      a.verification = (!tr.subject.isVariable && sc.isQuestion) := by
  obtain ⟨tr, ht, hstates, hverification⟩ := (mem_planAtoms h).mp ha
  exact ⟨tr, ht, hstates.isCondition, hstates.key, hverification⟩

lemma planAtoms_ne_nil_iff (h : List.Forall₂ (TriplePlan sc) trs ps) :
    planAtoms ps ≠ [] ↔ ∃ tr ∈ trs, tr.IsCondition := by
  rw [ne_eq, List.eq_nil_iff_forall_not_mem, not_forall_not]
  constructor
  · rintro ⟨a, ha⟩
    obtain ⟨tr, ht, htr, -⟩ := exists_isCondition_of_atom h ha
    exact ⟨tr, ht, htr⟩
  · rintro ⟨tr, ht, htr⟩
    obtain ⟨a, ha, -⟩ := exists_atom_of_isCondition h ht htr
    exact ⟨a, ha⟩

lemma planAtoms_subject_iff (h : List.Forall₂ (TriplePlan sc) trs ps) :
    (∀ a ∈ planAtoms ps, a.subject = s) ↔
      ∀ tr ∈ trs, tr.IsCondition → subjectKey tr.subject = .ok s := by
  constructor
  · intro hs tr ht htr
    obtain ⟨a, ha, hkey, -⟩ := exists_atom_of_isCondition h ht htr
    rw [hkey, hs a ha]
  · intro hs a ha
    obtain ⟨tr, ht, htr, hkey, -⟩ := exists_isCondition_of_atom h ha
    exact Except.ok.inj (hkey.symm.trans (hs tr ht htr))

/-- A question asks for the conditions on entities. -/
def Asks (sc : Scope Id) (trs : List Triple) : Prop :=
  sc.isQuestion = true ∧ ∃ tr ∈ trs, tr.IsCondition ∧ tr.subject.isVariable = false

lemma planAtoms_verification_iff (h : List.Forall₂ (TriplePlan sc) trs ps) :
    (planAtoms ps).any Atom.verification = true ↔ Asks sc trs := by
  rw [List.any_eq_true]
  constructor
  · rintro ⟨a, ha, hasked⟩
    obtain ⟨tr, ht, htr, -, hverification⟩ := exists_isCondition_of_atom h ha
    rw [hverification, Bool.and_eq_true, Bool.not_eq_true'] at hasked
    exact ⟨hasked.2, tr, ht, htr, hasked.1⟩
  · rintro ⟨hquestion, tr, ht, htr, hentity⟩
    obtain ⟨a, ha, -, hverification⟩ := exists_atom_of_isCondition h ht htr
    exact ⟨a, ha, by simp [hverification, hquestion, hentity]⟩

/-! ### Tables that stay -/

/-- A subject that has a table keeps one. -/
lemma performAll_isSome (h : Returns (performAll sc ts es) ts') (hs : (ts.find? s).isSome) :
    (ts'.find? s).isSome := by
  induction es generalizing ts with
  | nil =>
    obtain rfl := performAll_nil.mp h
    exact hs
  | cons e es ih =>
    obtain ⟨ts₁, he, hrest⟩ := performAll_cons.mp h
    obtain ⟨t, -, -, hfind⟩ := perform_find? he
    refine ih hrest ?_
    rw [hfind]
    split
    · rfl
    · exact hs

/-- A subject of an effect has a table from then on. -/
lemma performAll_isSome_of_mem {e : Effect} (h : Returns (performAll sc ts es) ts') (he : e ∈ es) :
    (ts'.find? e.subject).isSome := by
  obtain ⟨before, after, rfl⟩ := List.append_of_mem he
  obtain ⟨ts₁, -, h⟩ := performAll_append.mp h
  obtain ⟨ts₂, hperform, hrest⟩ := performAll_cons.mp h
  obtain ⟨t, -, -, hfind⟩ := perform_find? hperform
  exact performAll_isSome hrest (by rw [hfind, if_pos rfl]; rfl)

/-- The conditions that triples leave to be added are on subjects that have tables then. -/
lemma foldTriples_isSome {as : List Atom} {a : Atom}
    (h : Returns (foldTriples sc ts trs) (ts', as)) (ha : a ∈ as) :
    (ts'.find? a.subject).isSome := by
  obtain ⟨ps, hps, rfl, hperform⟩ := foldTriples_iff.mp h
  obtain ⟨p, hp, ha⟩ := List.mem_flatMap.mp ha
  obtain ⟨tr, -, hplan⟩ := exists_of_forall₂_right hps hp
  cases hplan with
  | projection | type => simp at ha
  | @condition s c es hi hstates =>
    obtain rfl := Option.some.inj (Option.mem_toList.mp ha)
    have hpresence : (⟨s, .presence⟩ : Effect) ∈ planEffects ps :=
      List.mem_flatMap.mpr ⟨_, hp, by simp⟩
    exact performAll_isSome_of_mem hperform hpresence

/-- Only what is asked for can be refused by a table that is there. -/
lemma attach_succeeds_iff {a : Atom} (h : (ts.find? a.subject).isSome) :
    (∃ ts', Returns (attach sc ts a) ts') ↔
      (a.verification = true → ∀ t, ts.find? a.subject = some t → t.projections = []) := by
  obtain ⟨t, ht⟩ := Option.isSome_iff_exists.mp h
  simp only [attach_iff_perform, perform_succeeds_iff, Tables.Current, Atom.effect, ht]
  cases a.verification with
  | true => simp [Table.Admits]
  | false => simp [Table.Admits]

/-! ### Unions -/

lemma foldTriples_append {as : List Atom} :
    Returns (foldTriples sc ts (left ++ right)) (ts', as) ↔
      ∃ ts₁ bs cs, Returns (foldTriples sc ts left) (ts₁, bs) ∧
        Returns (foldTriples sc ts₁ right) (ts', cs) ∧ as = bs ++ cs := by
  induction left generalizing ts ts' as with
  | nil => simp
  | cons tr left ih =>
    simp only [List.cons_append, foldTriples, returns_bind, returns_pure, Prod.exists,
      Prod.mk.injEq, ih]
    constructor
    · rintro ⟨ts₁, a, ha, ts₂, _, ⟨ts₃, bs, cs, hbs, hcs, rfl⟩, rfl, rfl⟩
      exact ⟨ts₃, _, cs, ⟨ts₁, a, ha, ts₃, bs, hbs, rfl, rfl⟩, hcs, by simp⟩
    · rintro ⟨_, _, cs, ⟨ts₁, a, ha, ts₃, bs, hbs, rfl, rfl⟩, hcs, rfl⟩
      exact ⟨ts₁, a, ha, ts', _, ⟨_, bs, cs, hbs, hcs, rfl⟩, rfl, by simp⟩

/-- Both of two branches state conditions, and all of them are on one subject. -/
structure ShareSubject (s : String) (left right : List Triple) : Prop where
  inLeft : ∃ tr ∈ left, tr.IsCondition
  inRight : ∃ tr ∈ right, tr.IsCondition
  key : ∀ tr ∈ left ++ right, tr.IsCondition → subjectKey tr.subject = .ok s

/-- The union of two basic patterns. -/
abbrev unionOf (left right : List Triple) : Clause :=
  .union [.single (.basic left), .single (.basic right)]

lemma foldClause_unionOf
    (hw : widenedTriple? [.single (.basic left), .single (.basic right)] = none) :
    foldClause sc ts (unionOf left right) = foldBranches sc ts left right := by
  simp only [foldClause, foldUnion, hw, List.map_cons, List.map_nil, Branch.basic?]

/-- Branches share a subject exactly if each leaves a condition to be added, all on it. -/
lemma shareSubject_iff {qs : List Plan} (hl : List.Forall₂ (TriplePlan sc) left ps)
    (hr : List.Forall₂ (TriplePlan sc) right qs) :
    ShareSubject s left right ↔
      planAtoms ps ≠ [] ∧ planAtoms qs ≠ [] ∧ ∀ a ∈ planAtoms (ps ++ qs), a.subject = s := by
  rw [planAtoms_ne_nil_iff hl, planAtoms_ne_nil_iff hr,
    planAtoms_subject_iff (List.rel_append hl hr)]
  exact ⟨fun h => ⟨h.inLeft, h.inRight, h.key⟩, fun h => ⟨h.1, h.2.1, h.2.2⟩⟩

/-- What the union of two branches adds can be added to their subject. -/
lemma attach_unionAtom_succeeds_iff {qs : List Plan} {a b : Atom} {as bs : List Atom}
    (hl : List.Forall₂ (TriplePlan sc) left ps) (hr : List.Forall₂ (TriplePlan sc) right qs)
    (ha : planAtoms ps = a :: as) (hb : planAtoms qs = b :: bs)
    (h : (ts.find? a.subject).isSome) :
    (∃ ts', Returns (attach sc ts (unionAtom a as b bs)) ts') ↔
      (Asks sc (left ++ right) → ∀ t, ts.find? a.subject = some t → t.projections = []) := by
  have hasks : (unionAtom a as b bs).verification = true ↔ Asks sc (left ++ right) := by
    rw [← planAtoms_verification_iff (List.rel_append hl hr), planAtoms_append, ha, hb]
    rfl
  rw [← hasks]
  exact attach_succeeds_iff h

lemma foldClause_unionOf_iff
    (hw : widenedTriple? [.single (.basic left), .single (.basic right)] = none) :
    (∃ ts', Returns (foldClause sc ts (unionOf left right)) ts') ↔
      ∃ ts₁ as s, Returns (foldTriples sc ts (left ++ right)) (ts₁, as) ∧
        ShareSubject s left right ∧
        (Asks sc (left ++ right) → ∀ t, ts₁.find? s = some t → t.projections = []) := by
  simp only [foldClause_unionOf hw, foldBranches_iff, foldTriples_append]
  constructor
  · rintro ⟨ts', ts₁, a, as, ts₂, b, bs, hleft, hright, hs, hattach⟩
    obtain ⟨ps, hps, ha, -⟩ := foldTriples_iff.mp hleft
    obtain ⟨qs, hqs, hb, -⟩ := foldTriples_iff.mp hright
    have hfound : (ts₂.find? a.subject).isSome := by
      rw [← hs b (by simp)]
      exact foldTriples_isSome hright List.mem_cons_self
    have hshare : ShareSubject a.subject left right := by
      rw [shareSubject_iff hps hqs, planAtoms_append, ha, hb]
      exact ⟨by simp, by simp, List.forall_mem_cons.mpr ⟨rfl, hs⟩⟩
    exact ⟨ts₂, _, a.subject, ⟨ts₁, _, _, hleft, hright, rfl⟩, hshare,
      (attach_unionAtom_succeeds_iff hps hqs ha hb hfound).mp ⟨ts', hattach⟩⟩
  · rintro ⟨ts₂, _, s, ⟨ts₁, as, bs, hleft, hright, rfl⟩, hshare, hasks⟩
    obtain ⟨ps, hps, rfl, -⟩ := foldTriples_iff.mp hleft
    obtain ⟨qs, hqs, rfl, -⟩ := foldTriples_iff.mp hright
    obtain ⟨hne, hne', hs⟩ := (shareSubject_iff hps hqs).mp hshare
    obtain ⟨a, as, ha⟩ := List.exists_cons_of_ne_nil hne
    obtain ⟨b, bs, hb⟩ := List.exists_cons_of_ne_nil hne'
    rw [planAtoms_append, ha, hb] at hs
    obtain ⟨rfl, hs⟩ := List.forall_mem_cons.mp hs
    have hfound : (ts₂.find? a.subject).isSome := by
      rw [← hs b (by simp)]
      exact foldTriples_isSome hright (hb ▸ List.mem_cons_self)
    obtain ⟨ts', hattach⟩ := (attach_unionAtom_succeeds_iff hps hqs ha hb hfound).mpr hasks
    exact ⟨ts', ts₁, a, as, ts₂, b, bs, ha ▸ hleft, hb ▸ hright, hs, hattach⟩

/-- A union of two basic patterns that does not widen a triple is folded exactly if its triples are,
both branches state conditions, these are all on one subject, and no variable stands for a field of
an entity that a question asks for. Then all its triples have one subject exactly if those that
state no condition have that of the conditions. Two conditions on different subjects are refused. -/
theorem union_accepted_iff
    (hw : widenedTriple? [.single (.basic left), .single (.basic right)] = none) :
    ((∃ ts', Returns (foldClause sc ts (unionOf left right)) ts') ↔
      ∃ ts₁ as s, Returns (foldTriples sc ts (left ++ right)) (ts₁, as) ∧
        ShareSubject s left right ∧
        (Asks sc (left ++ right) → ∀ t, ts₁.find? s = some t → t.projections = [])) ∧
    (∀ ts', Returns (foldClause sc ts (unionOf left right)) ts' →
      ∃ s, ShareSubject s left right ∧
        ((∃ s', ∀ tr ∈ left ++ right, subjectKey tr.subject = .ok s') ↔
          ∀ tr ∈ left ++ right, ¬ tr.IsCondition → subjectKey tr.subject = .ok s)) ∧
    ∀ tr ∈ left ++ right, ∀ tr' ∈ left ++ right, tr.IsCondition → tr'.IsCondition →
      subjectKey tr.subject ≠ subjectKey tr'.subject →
        ∀ ts', ¬ Returns (foldClause sc ts (unionOf left right)) ts' := by
  have hshared : ∀ ts', Returns (foldClause sc ts (unionOf left right)) ts' →
      ∃ s, ShareSubject s left right := by
    intro ts' h
    obtain ⟨-, -, s, -, hs, -⟩ := (foldClause_unionOf_iff hw).mp ⟨ts', h⟩
    exact ⟨s, hs⟩
  refine ⟨foldClause_unionOf_iff hw, fun ts' h => ?_, fun tr ht tr' ht' htr htr' hne ts' h => ?_⟩
  · obtain ⟨s, hs⟩ := hshared ts' h
    refine ⟨s, hs, ?_, fun hothers => ⟨s, fun tr ht => ?_⟩⟩
    · rintro ⟨s', hall⟩ tr ht -
      obtain ⟨tr₀, ht₀, htr₀⟩ := hs.inLeft
      have hmem : tr₀ ∈ left ++ right := List.mem_append_left right ht₀
      rw [hall tr ht, ← hall tr₀ hmem, hs.key tr₀ hmem htr₀]
    · by_cases htr : tr.IsCondition
      · exact hs.key tr ht htr
      · exact hothers tr ht htr
  · obtain ⟨s, hs⟩ := hshared ts' h
    exact hne ((hs.key tr ht htr).trans (hs.key tr' ht' htr').symm)

namespace Atlas

/-- The scope of a query without keywords. -/
def scope : Scope Id := { settings, lookups, spans := [] }

/-- Branches with conditions on two subjects are refused. -/
theorem union_accepted_iff_apart :
    let left := [fact (.variable "x") "P30" "Q46"]
    let right := [fact (.variable "y") "P30" "Q15"]
    widenedTriple? [.single (.basic left), .single (.basic right)] = none ∧
      ∀ ts', ¬ Returns (foldClause scope [] (unionOf left right)) ts' := by
  intro left right
  have hw : widenedTriple? [.single (.basic left), .single (.basic right)] = none := rfl
  have hcondition : ∀ v code, (fact (.variable v) "P30" code).IsCondition := by
    intro v code
    refine ⟨rfl, fun h => absurd h.2 ?_⟩
    rw [show (fact (.variable v) "P30" code).predicate.property? = some "P30" from rfl]
    decide
  obtain ⟨-, -, hrefused⟩ := @union_accepted_iff scope [] left right hw
  refine ⟨hw, hrefused (fact (.variable "x") "P30" "Q46") (by simp [left])
    (fact (.variable "y") "P30" "Q15") (by simp [right]) (hcondition _ _) (hcondition _ _) ?_⟩
  simp [fact, subjectKey]

/-- A branch on one subject may give the type of another. -/
theorem union_over_two_subjects :
    let left := [fact (.variable "x") "P30" "Q46", fact (.variable "y") "P31" "Q6256"]
    let right := [fact (.variable "x") "P30" "Q15"]
    widenedTriple? [.single (.basic left), .single (.basic right)] = none ∧
      Returns (foldClause scope [] (unionOf left right))
        [{ subject := "?x"
           filters := [.any [onContinent "Q46" "Europe", onContinent "Q15" "Africa"]] },
         { subject := "?y", name := "country", typed := true }] ∧
      ¬ ∃ s, ∀ tr ∈ left ++ right, subjectKey tr.subject = .ok s := by
  intro left right
  refine ⟨rfl, rfl, ?_⟩
  rintro ⟨s, hs⟩
  have hx := hs (fact (.variable "x") "P30" "Q46") (by simp [left])
  have hy := hs (fact (.variable "y") "P31" "Q6256") (by simp [left])
  exact absurd (Except.ok.inj (hx.trans hy.symm)) (by decide)

end Atlas

end Conversion

end GraphTalk
