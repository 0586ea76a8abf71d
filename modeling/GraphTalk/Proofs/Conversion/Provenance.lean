import GraphTalk.Proofs.Conversion.Effects

/-!
# Where effects come from

Every effect of a clause arises from its triples (`ClausePlan.arises`): from a variable that stands
for a field, from a type, from a condition that is stated, or from an entity that is itself.
-/

namespace GraphTalk.Conversion

open Rdf Sparql Knowledge

variable {sc : Scope Id} {cl : Clause} {tr : Triple} {trs : List Triple} {p : Plan}
  {ps : List Plan} {es : List Effect} {s : String} {c : Condition}

/-! ### Conditions of clauses -/

/-- The conditions that a clause gives to the table of a subject: those that its triples state, or
the disjunction of what the triples of its two branches state. -/
inductive Yields (sc : Scope Id) (s : String) : Clause → Condition → Prop where
  | basic {trs : List Triple} {tr : Triple} {c : Condition} (ht : tr ∈ trs)
      (h : States sc tr s c) : Yields sc s (.basic trs) c
  | widened {bs : List Branch} {tr : Triple} {c : Condition} (hw : widenedTriple? bs = some tr)
      (h : States sc tr s c) : Yields sc s (.union bs) c
  | union {left right : List Triple} {c d : Condition} {cs ds : List Condition}
      (hw : widenedTriple? [.single (.basic left), .single (.basic right)] = none)
      (hl : ∀ e, e ∈ c :: cs ↔ ∃ tr ∈ left, States sc tr s e)
      (hr : ∀ e, e ∈ d :: ds ↔ ∃ tr ∈ right, States sc tr s e) :
      Yields sc s (.union [.single (.basic left), .single (.basic right)])
        (.any [.conj c cs, .conj d ds])

/-- Why a clause has an effect. -/
inductive Arises (sc : Scope Id) (cl : Clause) : Effect → Prop where
  | presence {tr : Triple} {s : String} (ht : tr ∈ cl.folded)
      (hs : subjectKey tr.subject = .ok s) : Arises sc cl ⟨s, .presence⟩
  | identity {tr : Triple} {s : String} {i : Condition} (ht : tr ∈ cl.folded)
      (hs : tr.subject.entity? = some s) (hi : Returns (identity sc s) i) :
      Arises sc cl ⟨s, .filter i⟩
  | projection {tr : Triple} {s p v field : String} (ht : tr ∈ cl.folded)
      (hs : subjectKey tr.subject = .ok s) (hp : tr.predicate.property? = some p)
      (ho : tr.object = .variable v) (hf : sc.settings.schema.fieldName? p = some field) :
      Arises sc cl ⟨s, .projection ⟨v, field⟩⟩
  | type {tr : Triple} {s v name : String} (ht : tr ∈ cl.folded) (hs : tr.subject = .variable v)
      (hv : s = "?" ++ v) (hp : tr.predicate.property? = some instanceOf)
      (ho : tr.object.isVariable = false)
      (hn : sc.settings.schema.domainTable? tr.object.entity? = some name) :
      Arises sc cl ⟨s, .type name⟩
  | filter {s : String} {c : Condition} (h : Yields sc s cl c) : Arises sc cl ⟨s, .filter c⟩
  | verification {s : String} {c : Condition} (h : Yields sc s cl c) :
      Arises sc cl ⟨s, .verification c⟩

/-! ### Plans of triples -/

lemma Introduces.arises (h : Introduces sc tr s es) (ht : tr ∈ cl.folded) :
    ∀ e ∈ es, Arises sc cl e := by
  cases h with
  | ofVariable => simp
  | ofEntity he hi => simpa using .identity ht he hi

lemma TriplePlan.arises (h : TriplePlan sc tr p) (ht : tr ∈ cl.folded) :
    ∀ e ∈ p.effects, Arises sc cl e := by
  cases h with
  | projection hi hp ho hf =>
    exact List.forall_mem_append.mpr
      ⟨hi.arises ht, by simpa using .projection ht hi.key hp ho hf⟩
  | @type s v name es hi hp hs ho hn =>
    have hv : s = "?" ++ v := by
      have hkey := hi.key
      rw [hs, subjectKey, Except.ok.injEq] at hkey
      exact hkey.symm
    exact List.forall_mem_append.mpr ⟨hi.arises ht, by simpa using .type ht hs hv hp ho hn⟩
  | condition hi h =>
    exact List.forall_mem_append.mpr ⟨hi.arises ht, by simpa using .presence ht hi.key⟩

lemma States.unique {s' : String} {c' : Condition} (h : States sc tr s c)
    (h' : States sc tr s' c') : s = s' ∧ c = c' := by
  obtain ⟨p, hp, hc⟩ := h.condition
  obtain ⟨p', hp', hc'⟩ := h'.condition
  obtain rfl : p = p' := Option.some.inj (hp.symm.trans hp')
  exact ⟨Except.ok.inj (h.key.symm.trans h'.key), hc.unique hc'⟩

/-- A triple leaves the condition that it states to be added, and no other. -/
lemma TriplePlan.atom_eq_some_iff (h : TriplePlan sc tr p) {a : Atom} :
    p.atom = some a ↔ States sc tr a.subject a.condition ∧
      a.verification = (!tr.subject.isVariable && sc.isQuestion) := by
  cases h with
  | projection _ _ ho _ =>
    simp only [reduceCtorEq, false_iff, not_and]
    intro hstates
    simpa [ho, Term.isVariable] using hstates.object
  | type _ hp hs _ _ =>
    simp only [reduceCtorEq, false_iff, not_and]
    intro hstates
    exact absurd ⟨by simp [hs, Term.isVariable], hp⟩ hstates.not_type
  | condition _ h =>
    constructor
    · rintro ⟨⟩
      exact ⟨h, rfl⟩
    · rintro ⟨hstates, hv⟩
      obtain ⟨rfl, rfl⟩ := h.unique hstates
      rw [← hv]

/-! ### Plans of clauses -/

section

variable {α β : Type} {R : α → β → Prop} {as : List α} {bs : List β}

lemma exists_of_forall₂_left (h : List.Forall₂ R as bs) {a : α} (ha : a ∈ as) :
    ∃ b ∈ bs, R a b := by
  induction h with
  | nil => simp at ha
  | @cons a' b _ _ hab _ ih =>
    rcases List.mem_cons.mp ha with rfl | ha
    · exact ⟨b, by simp, hab⟩
    · obtain ⟨b', hb', hab'⟩ := ih ha
      exact ⟨b', List.mem_cons_of_mem _ hb', hab'⟩

lemma exists_of_forall₂_right (h : List.Forall₂ R as bs) {b : β} (hb : b ∈ bs) :
    ∃ a ∈ as, R a b :=
  exists_of_forall₂_left h.flip hb

end

lemma planEffects_arises (h : List.Forall₂ (TriplePlan sc) trs ps)
    (ht : ∀ tr ∈ trs, tr ∈ cl.folded) : ∀ e ∈ planEffects ps, Arises sc cl e := by
  intro e he
  obtain ⟨p, hp, he⟩ := List.mem_flatMap.mp he
  obtain ⟨tr, htr, hplan⟩ := exists_of_forall₂_right h hp
  exact hplan.arises (ht tr htr) e he

/-- What is left to be added is what the triples state. -/
lemma mem_planAtoms (h : List.Forall₂ (TriplePlan sc) trs ps) {a : Atom} :
    a ∈ planAtoms ps ↔ ∃ tr ∈ trs, States sc tr a.subject a.condition ∧
      a.verification = (!tr.subject.isVariable && sc.isQuestion) := by
  simp only [planAtoms, List.mem_flatMap, Option.mem_toList]
  constructor
  · rintro ⟨p, hp, ha⟩
    obtain ⟨tr, htr, hplan⟩ := exists_of_forall₂_right h hp
    exact ⟨tr, htr, hplan.atom_eq_some_iff.mp ha⟩
  · rintro ⟨tr, htr, ha⟩
    obtain ⟨p, hp, hplan⟩ := exists_of_forall₂_left h htr
    exact ⟨p, hp, hplan.atom_eq_some_iff.mpr ha⟩

/-- The conditions of a branch are what its triples state of the one subject that it has. -/
lemma mem_branch_iff (h : List.Forall₂ (TriplePlan sc) trs ps) {a : Atom} {as : List Atom}
    (ha : planAtoms ps = a :: as) (hs : ∀ b ∈ a :: as, b.subject = s) (e : Condition) :
    e ∈ a.condition :: as.map Atom.condition ↔ ∃ tr ∈ trs, States sc tr s e := by
  rw [← List.map_cons, ← ha, List.mem_map]
  rw [← ha] at hs
  constructor
  · rintro ⟨b, hb, rfl⟩
    obtain ⟨tr, htr, hstates, _⟩ := (mem_planAtoms h).mp hb
    exact ⟨tr, htr, hs b hb ▸ hstates⟩
  · rintro ⟨tr, htr, hstates⟩
    exact ⟨⟨s, e, _⟩, (mem_planAtoms h).mpr ⟨tr, htr, hstates, rfl⟩, rfl⟩

/-- All conditions of a union are on one subject. -/
lemma union_subjects {a b : Atom} {as bs : List Atom}
    (hs : ∀ d ∈ as ++ b :: bs, d.subject = a.subject) :
    (∀ d ∈ a :: as, d.subject = a.subject) ∧ ∀ d ∈ b :: bs, d.subject = a.subject := by
  obtain ⟨has, hbs⟩ := List.forall_mem_append.mp hs
  exact ⟨List.forall_mem_cons.mpr ⟨rfl, has⟩, hbs⟩

lemma Arises.of_atom {a : Atom} (h : Yields sc a.subject cl a.condition) :
    Arises sc cl a.effect := by
  unfold Atom.effect
  split
  · exact .verification h
  · exact .filter h

/-- Every effect of a clause arises from its triples. -/
lemma ClausePlan.arises (h : ClausePlan sc cl es) : ∀ e ∈ es, Arises sc cl e := by
  cases h with
  | basic hps =>
    refine List.forall_mem_append.mpr ⟨planEffects_arises hps (by simp), ?_⟩
    simp only [List.forall_mem_map]
    intro a ha
    obtain ⟨tr, htr, hstates, _⟩ := (mem_planAtoms hps).mp ha
    exact .of_atom (.basic htr hstates)
  | widened hw hp =>
    refine List.forall_mem_append.mpr ⟨hp.arises (by simp [Clause.folded_widened hw]), ?_⟩
    simp only [List.forall_mem_map, Option.mem_toList]
    intro a ha
    exact .of_atom (.widened hw (hp.atom_eq_some_iff.mp ha).1)
  | union hw hl hr ha hb hs =>
    obtain ⟨hsl, hsr⟩ := union_subjects hs
    rw [← planEffects_append]
    refine List.forall_mem_append.mpr ⟨planEffects_arises (List.rel_append hl hr) ?_,
      List.forall_mem_singleton.mpr ?_⟩
    · rw [Clause.folded_union hw]
      exact fun tr htr => htr
    · exact .of_atom (.union hw (mem_branch_iff hl ha hsl) (mem_branch_iff hr hb hsr))

lemma exists_arises {cls : List Clause} {ess : List (List Effect)}
    (h : List.Forall₂ (ClausePlan sc) cls ess) {e : Effect} (he : e ∈ ess.flatten) :
    ∃ cl ∈ cls, Arises sc cl e := by
  obtain ⟨es, hes, he⟩ := List.mem_flatten.mp he
  obtain ⟨cl, hcl, hplan⟩ := exists_of_forall₂_right h hes
  exact ⟨cl, hcl, hplan.arises e he⟩

lemma Yields.subject (h : Yields sc s cl c) :
    ∃ tr ∈ cl.folded, subjectKey tr.subject = .ok s := by
  cases h with
  | basic ht h => exact ⟨_, by simpa using ht, h.key⟩
  | @widened _ tr _ hw h => exact ⟨tr, by simp [Clause.folded_widened hw], h.key⟩
  | @union left right c _ _ _ hw hl _ =>
    obtain ⟨tr, htr, hstates⟩ := (hl c).mp (by simp)
    exact ⟨tr, by simp [Clause.folded_union hw, htr], hstates.key⟩

/-- Every effect is on the subject of a triple. -/
lemma Arises.subject {e : Effect} (h : Arises sc cl e) :
    ∃ tr ∈ cl.folded, subjectKey tr.subject = .ok e.subject := by
  cases h with
  | presence ht hs => exact ⟨_, ht, hs⟩
  | identity ht hs => exact ⟨_, ht, subjectKey_iff.mpr (.inr hs)⟩
  | projection ht hs => exact ⟨_, ht, hs⟩
  | type ht hs hv => exact ⟨_, ht, subjectKey_iff.mpr (.inl ⟨_, hs, hv⟩)⟩
  | filter h => exact h.subject
  | verification h => exact h.subject

end GraphTalk.Conversion
