import GraphTalk.Knowledge.Url
import GraphTalk.Proofs.Conversion.Atlas
import GraphTalk.Proofs.Conversion.Steps

/-!
# The shape of questions

A question that has a program is about one entity. Every triple has this entity as its subject and
asks for a condition of it, and the program asks for all these conditions, in the order of the
triples, of the one table that there is.
-/

namespace GraphTalk.Conversion

open Rdf Sparql Knowledge

/-! ### Codes -/

/-- A code starts with a letter, so it is not the name of a variable. -/
lemma dropStart?_of_isCode {s : String} (h : isCode s = true) :
    Text.dropStart? "?" s = none := by
  have hchars : ∀ cs, isCodeChars cs = true → ∃ c rest, cs = c :: rest ∧ c ≠ '?' := by
    intro cs hcs
    unfold isCodeChars at hcs
    split at hcs
    · rename_i letter d ds
      refine ⟨letter, d :: ds, rfl, ?_⟩
      rintro rfl
      simp at hcs
    · cases hcs
  have hstart : ∃ c rest, s.toList = c :: rest ∧ c ≠ '?' := by
    simp only [isCode, Bool.or_eq_true, Bool.and_eq_true] at h
    rcases h with h | ⟨_, h⟩
    · exact hchars _ h
    · obtain ⟨c, rest, hrest, hc⟩ := hchars _ h
      cases hs : s.toList with
      | nil => simp [hs] at hrest
      | cons d ds =>
        cases ds with
        | nil => simp [hs] at hrest
        | cons d' ds' =>
          simp only [hs, List.dropLast_cons_cons, List.cons.injEq] at hrest
          exact ⟨d, d' :: ds', rfl, hrest.1 ▸ hc⟩
  obtain ⟨c, rest, hs, hc⟩ := hstart
  simp [Text.dropStart?, hs, Ne.symm hc]

/-! ### What is asked is asked of an entity -/

variable {sc : Scope Id} {T : List Triple} {ts ts' : Tables}

/-- A table of which something is asked is that of an entity, and no variable stands for a field
of it. -/
structure AskedOfEntity (sc : Scope Id) (t : Table) : Prop where
  unprojected : t.verifications ≠ [] → t.projections = []
  identity : t.verifications ≠ [] → ∃ i, Returns (identity sc t.subject) i

lemma AskedOfEntity.of_verifications_eq_nil {t : Table} (h : t.verifications = []) :
    AskedOfEntity sc t :=
  ⟨fun hne => absurd h hne, fun hne => absurd h hne⟩

lemma Update.askedOfEntity {t t' : Table} (h : Update sc T t t') (ht : AskedOfEntity sc t) :
    AskedOfEntity sc t' := by
  cases h with
  | same => exact ht
  | identity | filter | bound =>
    exact ⟨by simpa using ht.unprojected, by simpa using ht.identity⟩
  | type _ _ _ _ _ _ h =>
    rw [(Table.setName_eq_ok h).2]
    exact ⟨ht.unprojected, ht.identity⟩
  | projection _ _ _ _ _ h =>
    obtain ⟨hv, rfl⟩ := Table.addProjection_eq_ok h
    exact .of_verifications_eq_nil hv
  | verification _ hi _ h =>
    obtain ⟨hp, rfl⟩ := Table.addVerification_eq_ok h
    exact ⟨fun _ => hp, fun _ => hi⟩

lemma Steps.askedOfEntity (h : Steps sc T [] ts) : ∀ t ∈ ts, AskedOfEntity sc t := by
  refine h.forall_tables ?_ (fun _ _ hup => hup.askedOfEntity) (by simp)
  intro s t hnew
  obtain ⟨name, rfl⟩ := newTable_eq hnew
  exact .of_verifications_eq_nil rfl

/-! ### One table all along -/

/-- All tables are of one subject, and no variable stands for a field of them. -/
def On (s : String) (ts : Tables) : Prop := ∀ t ∈ ts, t.subject = s ∧ t.projections = []

/-- Tables that end up on one subject have been so at every step. -/
lemma On.of_steps {s : String} (hn : (ts.map Table.subject).Nodup) (h : Steps sc T ts ts')
    (hon : On s ts') : On s ts := by
  intro t ht
  obtain ⟨t', ht', hsub, hproj⟩ := h.grows hn t ht
  obtain ⟨hs, hp⟩ := hon t' ht'
  exact ⟨hsub ▸ hs, List.prefix_nil.mp (hp ▸ hproj)⟩

/-- The one table of a question: that of an entity, with the identity of the entity as its only
filter. -/
def AskedTable (sc : Scope Id) (s : String) (i : Condition) (vs : List Condition)
    (ts : Tables) : Prop :=
  ∃ t₀, Returns (newTable sc s) t₀ ∧ ts = [{ t₀ with filters := [i], verifications := vs }]

/-- What has been asked so far: nothing at all, or conditions of one table. -/
def Asked (sc : Scope Id) (s : String) (i : Condition) (vs : List Condition) (ts : Tables) :
    Prop :=
  (ts = [] ∧ vs = []) ∨ AskedTable sc s i vs ts

variable {s : String} {i : Condition} {vs : List Condition}

lemma Asked.nodup (h : Asked sc s i vs ts) : (ts.map Table.subject).Nodup := by
  rcases h with ⟨rfl, _⟩ | ⟨t₀, _, rfl⟩
  · exact List.nodup_nil
  · exact List.nodup_singleton _

/-- The identity of the entity is added once. -/
lemma Opened.askedTable {tr : Triple} {ts₁ : Tables} {t : Table}
    (hi : Returns (identity sc s) i) (hts : Asked sc s i vs ts)
    (hs : tr.subject.entity? = some s) (h : Opened sc ts tr ts₁ t) :
    AskedTable sc s i vs (ts₁.put t) := by
  cases h with
  | ofVariable hv _ => simp [hv, Term.entity?] at hs
  | @ofEntity e _ t i' he hopen hi' =>
    obtain rfl : e = s := by
      rw [he, Option.some.injEq] at hs
      exact hs
    obtain rfl := hi.unique hi'
    rcases hts with ⟨rfl, rfl⟩ | ⟨t₀, hnew, rfl⟩
    · rcases openTable_iff.mp hopen with ⟨hf, _⟩ | ⟨_, hnew, rfl⟩
      · simp [Tables.find?] at hf
      · obtain ⟨name, rfl⟩ := newTable_eq hnew
        exact ⟨_, hnew, by simp [Tables.put, Table.addFilter]⟩
    · obtain ⟨name, rfl⟩ := newTable_eq hnew
      refine ⟨_, hnew, ?_⟩
      simp only [openTable_iff, Tables.find?, List.find?_cons, beq_self_eq_true,
        reduceCtorEq, false_and, or_false] at hopen
      obtain ⟨ht, rfl⟩ := hopen
      obtain rfl := Option.some.inj ht
      simp [Tables.put, Table.addFilter, same_identity hi]

lemma subject_entity_of_key {t : Term} (hcode : Text.dropStart? "?" s = none)
    (h : subjectKey t = .ok s) : t.entity? = some s := by
  rcases subjectKey_iff.mp h with ⟨v, _, rfl⟩ | he
  · rw [Text.dropStart?_append] at hcode
    cases hcode
  · exact he

/-- A triple is about an entity, and its object is known. -/
def AsksOf (s : String) (tr : Triple) : Prop :=
  tr.subject.entity? = some s ∧ tr.object.isVariable = false

/-- A triple of a question asks for a condition of the entity. -/
lemma TripleRule.askedTable {tr : Triple} {a : Option Atom}
    (hcode : Text.dropStart? "?" s = none) (hq : sc.isQuestion = true)
    (hi : Returns (identity sc s) i) (hts : Asked sc s i vs ts)
    (h : TripleRule sc ts tr ts' a) (hon : On s ts') :
    AsksOf s tr ∧
      ∃ c, States sc tr s c ∧ a = some ⟨s, c, true⟩ ∧ AskedTable sc s i vs ts' := by
  cases h with
  | @projection p v field ts₁ t t' hopen hp ho hf h =>
    obtain ⟨_, rfl⟩ := Table.addProjection_eq_ok h
    have hproj := (hon _ (hopen.mem_put rfl)).2
    simp at hproj
  | @type v name ts₁ t t' hopen hp hs ho hn h =>
    obtain ⟨_, rfl⟩ := Table.setName_eq_ok h
    have hsub : t.subject = s := (hon _ (hopen.mem_put rfl)).1
    have he := subject_entity_of_key hcode (hsub ▸ hopen.key)
    simp [hs, Term.entity?] at he
  | @condition s' c ts₁ t hopen h =>
    have hsub : t.subject = s := (hon _ (hopen.mem_put rfl)).1
    have hkey : subjectKey tr.subject = .ok s := hsub ▸ hopen.key
    obtain rfl : s = s' := Except.ok.inj (hkey.symm.trans h.key)
    have he := subject_entity_of_key hcode hkey
    refine ⟨⟨he, h.object⟩, c, h, ?_, hopen.askedTable hi hts he⟩
    simp [isVariable_eq_false_of_entity he, hq]

/-- The triples of a question ask for conditions of the entity, one each. -/
lemma foldTriples_asked {trs : List Triple} {as : List Atom}
    (hcode : Text.dropStart? "?" s = none) (hq : sc.isQuestion = true)
    (hi : Returns (identity sc s) i) (hts : Asked sc s i vs ts)
    (h : Returns (foldTriples sc ts trs) (ts', as)) (hon : On s ts') :
    (∀ tr ∈ trs, AsksOf s tr) ∧
      ∃ cs, List.Forall₂ (fun tr c => States sc tr s c) trs cs ∧
        as = cs.map (fun c => ⟨s, c, true⟩) ∧
        (trs = [] ∧ ts' = ts ∨ AskedTable sc s i vs ts') := by
  induction trs generalizing ts as with
  | nil =>
    obtain ⟨rfl, rfl⟩ := foldTriples_nil.mp h
    exact ⟨by simp, [], .nil, rfl, .inl ⟨rfl, rfl⟩⟩
  | cons tr trs ih =>
    obtain ⟨ts₁, a, as', hrule, hrest, rfl⟩ := foldTriples_cons h
    -- the tables are on one subject in the end, and hence already after the first triple
    have hn : (ts₁.map Table.subject).Nodup :=
      (hrule.steps (List.mem_singleton_self tr)).1.nodup hts.nodup
    have hon₁ : On s ts₁ := .of_steps hn (foldTriples_steps (fun _ ht => ht) hrest).1 hon
    obtain ⟨he, c, hc, rfl, hts₁⟩ := hrule.askedTable hcode hq hi hts hon₁
    obtain ⟨hes, cs, hcs, rfl, hts'⟩ := ih (.inr hts₁) hrest
    refine ⟨?_, c :: cs, .cons hc hcs, rfl, .inr ?_⟩
    · intro t ht
      rcases List.mem_cons.mp ht with rfl | ht
      · exact he
      · exact hes t ht
    · rcases hts' with ⟨_, rfl⟩ | hts'
      · exact hts₁
      · exact hts'

lemma attach_askedTable {c : Condition} (hts : AskedTable sc s i vs ts)
    (h : Returns (attach sc ts ⟨s, c, true⟩) ts') : AskedTable sc s i (vs ++ [c]) ts' := by
  obtain ⟨t₀, hnew, rfl⟩ := hts
  obtain ⟨name, rfl⟩ := newTable_eq hnew
  refine ⟨_, hnew, ?_⟩
  simp only [attach_iff, openTable_iff, Tables.find?, List.find?_cons, beq_self_eq_true,
    reduceCtorEq, false_and, or_false, true_and] at h
  obtain ⟨ts₁, t, ⟨ht, rfl⟩, t', hadd, rfl⟩ := h
  obtain rfl := Option.some.inj ht
  obtain ⟨_, rfl⟩ := Table.addVerification_eq_ok hadd
  simp [Tables.put]

lemma attachAll_askedTable {cs : List Condition} (hts : AskedTable sc s i vs ts)
    (h : Returns (attachAll sc ts (cs.map fun c => ⟨s, c, true⟩)) ts') :
    AskedTable sc s i (vs ++ cs) ts' := by
  induction cs generalizing ts vs with
  | nil =>
    obtain rfl := attachAll_nil.mp h
    simpa using hts
  | cons c cs ih =>
    obtain ⟨ts₁, hattach, hrest⟩ := attachAll_cons.mp h
    have hts' := ih (attach_askedTable hts hattach) hrest
    rwa [List.append_assoc, List.singleton_append] at hts'

/-! ### Clauses -/

/-- The conditions that a clause of a question asks for of an entity: one for each triple, or one
for a union. -/
inductive Verified (sc : Scope Id) (s : String) : Clause → List Condition → Prop where
  | basic {trs : List Triple} {cs : List Condition}
      (h : List.Forall₂ (fun tr c => States sc tr s c) trs cs) : Verified sc s (.basic trs) cs
  | widened {bs : List Branch} {tr : Triple} {c : Condition} (hw : widenedTriple? bs = some tr)
      (h : States sc tr s c) : Verified sc s (.union bs) [c]
  | union {left right : List Triple} {c d : Condition} {cs ds : List Condition}
      (hw : widenedTriple? [.single (.basic left), .single (.basic right)] = none)
      (hl : List.Forall₂ (fun tr c => States sc tr s c) left (c :: cs))
      (hr : List.Forall₂ (fun tr c => States sc tr s c) right (d :: ds)) :
      Verified sc s (.union [.single (.basic left), .single (.basic right)])
        [.any [.conj c cs, .conj d ds]]

lemma foldBasic_asked {trs : List Triple}
    (hcode : Text.dropStart? "?" s = none) (hq : sc.isQuestion = true)
    (hi : Returns (identity sc s) i) (hts : Asked sc s i vs ts)
    (h : Returns (foldBasic sc ts trs) ts') (hon : On s ts') :
    (∀ tr ∈ trs, AsksOf s tr) ∧
      ∃ cs, List.Forall₂ (fun tr c => States sc tr s c) trs cs ∧
        Asked sc s i (vs ++ cs) ts' := by
  obtain ⟨ts₁, as, htriples, hattach⟩ := foldBasic_iff.mp h
  obtain ⟨hsteps, hground⟩ := foldTriples_steps (fun _ ht => ht) htriples
  have hon₁ : On s ts₁ := .of_steps (hsteps.nodup hts.nodup) (attachAll_steps hground hattach) hon
  obtain ⟨hes, cs, hcs, rfl, hts₁⟩ := foldTriples_asked hcode hq hi hts htriples hon₁
  refine ⟨hes, cs, hcs, ?_⟩
  rcases hts₁ with ⟨rfl, rfl⟩ | hts₁
  · obtain rfl := List.forall₂_nil_left_iff.mp hcs
    obtain rfl := attachAll_nil.mp hattach
    simpa using hts
  · exact .inr (attachAll_askedTable hts₁ hattach)

lemma foldBranches_asked {left right : List Triple}
    (hcode : Text.dropStart? "?" s = none) (hq : sc.isQuestion = true)
    (hi : Returns (identity sc s) i) (hts : Asked sc s i vs ts)
    (h : Returns (foldBranches sc ts left right) ts') (hon : On s ts') :
    (∀ tr ∈ left ++ right, AsksOf s tr) ∧
      ∃ c cs d ds, List.Forall₂ (fun tr c => States sc tr s c) left (c :: cs) ∧
        List.Forall₂ (fun tr c => States sc tr s c) right (d :: ds) ∧
        AskedTable sc s i (vs ++ [.any [.conj c cs, .conj d ds]]) ts' := by
  obtain ⟨ts₁, a, as, ts₂, b, bs, hl, hr, hsub, hattach⟩ := foldBranches_iff.mp h
  obtain ⟨hsteps₁, has⟩ := foldTriples_steps (T := left ++ right)
    (fun _ ht => List.mem_append_left _ ht) hl
  obtain ⟨hsteps₂, hbs⟩ := foldTriples_steps (T := left ++ right)
    (fun _ ht => List.mem_append_right _ ht) hr
  have hn₁ := hsteps₁.nodup hts.nodup
  have hon₂ : On s ts₂ :=
    .of_steps (hsteps₂.nodup hn₁) (attach_union_steps has hbs hsub hattach) hon
  obtain ⟨hel, cs, hcs, hcs', hts₁⟩ :=
    foldTriples_asked hcode hq hi hts hl (.of_steps hn₁ hsteps₂ hon₂)
  obtain ⟨c, cs, rfl, rfl, rfl⟩ := List.map_eq_cons_iff.mp hcs'.symm
  have hts₁ : AskedTable sc s i vs ts₁ := hts₁.resolve_left (by rintro ⟨rfl, _⟩; cases hcs)
  obtain ⟨her, ds, hds, hds', hts₂⟩ := foldTriples_asked hcode hq hi (.inr hts₁) hr hon₂
  obtain ⟨d, ds, rfl, rfl, rfl⟩ := List.map_eq_cons_iff.mp hds'.symm
  have hts₂ : AskedTable sc s i vs ts₂ := hts₂.resolve_left (by rintro ⟨rfl, _⟩; cases hds)
  refine ⟨?_, c, cs, d, ds, hcs, hds, attach_askedTable hts₂ ?_⟩
  · intro tr ht
    rcases List.mem_append.mp ht with ht | ht
    · exact hel tr ht
    · exact her tr ht
  · have hconds : ∀ cs : List Condition,
        (cs.map fun c => (⟨s, c, true⟩ : Atom)).map Atom.condition = cs := by
      intro cs
      simp [Function.comp_def]
    simpa [unionAtom, branchCondition, hconds] using hattach

lemma foldClause_asked {c : Clause}
    (hcode : Text.dropStart? "?" s = none) (hq : sc.isQuestion = true)
    (hi : Returns (identity sc s) i) (hts : Asked sc s i vs ts)
    (h : Returns (foldClause sc ts c) ts') (hon : On s ts') :
    (∀ tr ∈ c.folded, AsksOf s tr) ∧
      ∃ ws, Verified sc s c ws ∧ Asked sc s i (vs ++ ws) ts' := by
  cases c with
  | basic trs =>
    obtain ⟨hes, cs, hcs, hts'⟩ := foldBasic_asked hcode hq hi hts h hon
    exact ⟨by simpa using hes, cs, .basic hcs, hts'⟩
  | union bs =>
    rcases foldUnion_cases h with ⟨tr, hw, hbasic⟩ | ⟨hw, left, right, rfl, hbranches⟩
    · obtain ⟨hes, cs, hcs, hts'⟩ := foldBasic_asked hcode hq hi hts hbasic hon
      obtain ⟨c, _, hc, hnil, rfl⟩ := List.forall₂_cons_left_iff.mp hcs
      obtain rfl := List.forall₂_nil_left_iff.mp hnil
      exact ⟨by simpa [Clause.folded_widened hw] using hes, [c], .widened hw hc, hts'⟩
    · obtain ⟨hes, c, cs, d, ds, hcs, hds, hts'⟩ :=
        foldBranches_asked hcode hq hi hts hbranches hon
      exact ⟨by rwa [Clause.folded_union hw], _, .union hw hcs hds, .inr hts'⟩
  | filter e => exact absurd h returns_refuse

lemma foldClauses_asked {cs : List Clause}
    (hcode : Text.dropStart? "?" s = none) (hq : sc.isQuestion = true)
    (hi : Returns (identity sc s) i) (hts : Asked sc s i vs ts)
    (h : Returns (foldClauses sc ts cs) ts') (hon : On s ts') :
    (∀ tr ∈ cs.flatMap Clause.folded, AsksOf s tr) ∧
      ∃ wss, List.Forall₂ (Verified sc s) cs wss ∧ Asked sc s i (vs ++ wss.flatten) ts' := by
  induction cs generalizing ts vs with
  | nil =>
    obtain rfl := foldClauses_nil.mp h
    exact ⟨by simp, [], .nil, by simpa using hts⟩
  | cons c cs ih =>
    obtain ⟨ts₁, hc, hcs⟩ := foldClauses_cons.mp h
    have hn : (ts₁.map Table.subject).Nodup :=
      (foldClause_steps (fun _ ht => ht) hc).nodup hts.nodup
    have hon₁ : On s ts₁ := .of_steps hn (foldClauses_steps (fun _ ht => ht) hcs) hon
    obtain ⟨hec, ws, hws, hts₁⟩ := foldClause_asked hcode hq hi hts hc hon₁
    obtain ⟨hecs, wss, hwss, hts'⟩ := ih hts₁ hcs
    refine ⟨?_, ws :: wss, .cons hws hwss, ?_⟩
    · intro tr ht
      rw [List.flatMap_cons] at ht
      rcases List.mem_append.mp ht with ht | ht
      · exact hec tr ht
      · exact hecs tr ht
    · rwa [List.append_assoc, ← List.flatten_cons] at hts'

/-! ### Questions -/

lemma generate_ask {c : Context} {q : Query} {p : Program} (hq : q.kind = .ask)
    (h : generate c q = .ok p) :
    ∃ t v vs, c.tables = [t] ∧ t.verifications = v :: vs ∧
      ∀ f, t.filters = [f] →
        p.statement = .question (baseTable t.name) (.all (f :: t.verifications)) := by
  have hask : q.isQuestion = true := by simp [Query.isQuestion, hq]
  simp only [generate, hask, if_true, generateAsk] at h
  split at h
  · simp [Except.map] at h
  · rename_i t hsingle
    unfold single at hsingle
    split at hsingle
    · cases hsingle
    · rename_i t' hts
      obtain rfl : t' = t := Except.ok.inj hsingle
      cases hv : t'.verifications with
      | nil => simp [hv, Except.map] at h
      | cons v vs =>
        refine ⟨t', v, vs, hts, hv, ?_⟩
        intro f hf
        simp only [hv, hf, Except.map, Except.ok.injEq] at h
        simp [← h, hv, Condition.conj]
    · cases hsingle

lemma projections_ne_nil_of_fieldFor? {t : Table} {v field : String}
    (h : t.fieldFor? v = some field) : t.projections ≠ [] := by
  intro hp
  simp [Table.fieldFor?, hp] at h

/-- Conditions on groups need a variable that stands for a field. -/
lemma foldHavings_on (sc : Scope Id) {cs : List HavingCondition}
    (hn : (ts.map Table.subject).Nodup) (h : foldHavings ts cs = .ok ts') (hon : On s ts') :
    cs = [] ∧ ts' = ts := by
  cases cs with
  | nil =>
    cases h
    exact ⟨rfl, rfl⟩
  | cons c cs =>
    obtain ⟨ts₁, hc, _⟩ := foldHavings_cons.mp h
    obtain ⟨t, hmem, _, hbounds, _⟩ := foldHaving_eq_ok hc
    have hsteps : Steps sc [] ts ts' := foldHavings_steps h
    have hon₀ : On s ts := .of_steps hn hsteps hon
    cases hbounds with
    | count _ _ _ _ _ hf => exact absurd (hon₀ t hmem).2 (projections_ne_nil_of_fieldFor? hf)

/-- A knowledge base that has labels for codes only. -/
def LabelsCodes (lookups : Lookups Id) : Prop :=
  ∀ e l, Id.run (lookups.label e) = .ok (some l) → isCode e = true

/-- A question that has a program is about one entity. Every triple has this entity as its subject
and no variable as its object, and there are no conditions on groups. The entity has the only
table, whose only filter is the identity of the entity. The program asks for the identity and for
the conditions of the clauses, in their order. -/
theorem question_shape {settings : Settings} {lookups : Lookups Id} {q : Query}
    {keywords : List String} {c : Context} {p : Program} (hlabels : LabelsCodes lookups)
    (hq : q.kind = .ask) (hfold : Returns (fold settings lookups q keywords) c)
    (hgen : generate c q = .ok p) :
    ∃ s d t, q.having = [] ∧
      (∀ tr ∈ q.folded, tr.subject.entity? = some s ∧ tr.object.isVariable = false) ∧
      c.tables = [t] ∧ t.subject = s ∧ t.projections = [] ∧
      t.filters = [.atom "id" "==" (.entity s genericEntityType d)] ∧
      t.verifications ≠ [] ∧
      (∃ wss, List.Forall₂ (Verified (queryScope settings lookups q keywords) s) q.clauses wss ∧
        t.verifications = wss.flatten) ∧
      p.statement = .question (baseTable t.name)
        (.all (.atom "id" "==" (.entity s genericEntityType d) :: t.verifications)) := by
  obtain ⟨t, v, vs, htables, hv, hstatement⟩ := generate_ask hq hgen
  have hne : t.verifications ≠ [] := by simp [hv]
  have hasked := (fold_steps hfold).askedOfEntity t (by simp [htables])
  obtain ⟨i, hi⟩ := hasked.identity hne
  have hon : On t.subject c.tables := by
    intro u hu
    obtain rfl : u = t := by simpa [htables] using hu
    exact ⟨rfl, hasked.unprojected hne⟩
  obtain ⟨ts, ts', hclauses, hgroups, rfl⟩ := fold_iff.mp hfold
  obtain ⟨hhaving, rfl⟩ := foldHavings_on (queryScope settings lookups q keywords)
    ((foldClauses_steps (fun _ ht => ht) hclauses).nodup List.nodup_nil)
    (foldGroups_eq_ok hgroups) hon
  -- what is asked is asked of an entity with a label, and that is a code
  obtain ⟨d, hd, rfl⟩ := identity_iff.mp hi
  obtain ⟨l, hl⟩ := label_of_display hd
  have hcode := dropStart?_of_isCode (hlabels _ l hl)
  have hask : q.isQuestion = true := by simp [Query.isQuestion, hq]
  obtain ⟨hes, wss, hwss, hts⟩ :=
    foldClauses_asked hcode hask hi (.inl ⟨rfl, rfl⟩) hclauses hon
  rcases hts with ⟨hnil, _⟩ | ⟨t₀, hnew, hts⟩
  · cases htables.symm.trans hnil
  · obtain ⟨name, rfl⟩ := newTable_eq hnew
    have ht := List.singleton_inj.mp (htables.symm.trans hts)
    have hfilters := congrArg Table.filters ht
    exact ⟨t.subject, d, t, hhaving, hes, htables, rfl, hasked.unprojected hne, hfilters, hne,
      ⟨wss, hwss, congrArg Table.verifications ht⟩, hstatement _ hfilters⟩

namespace Atlas

/-- Whether France is in Europe, and in Africa or Europe. -/
def frenchContinents : Query where
  kind := .ask
  clauses :=
    [.basic [fact (.iri (entityNamespace ++ "Q142")) "P30" "Q46"],
     .union
       [.single (.basic [fact (.iri (entityNamespace ++ "Q142")) "P30" "Q15"]),
        .single (.basic [fact (.iri (entityNamespace ++ "Q142")) "P30" "Q46"])]]

/-- The identity of France. -/
def isFrance : Condition := .atom "id" "==" (.entity "Q142" genericEntityType "France")

/-- What the question asks for. -/
def frenchConditions : List Condition :=
  [onContinent "Q46" "Europe", .any [onContinent "Q15" "Africa", onContinent "Q46" "Europe"]]

/-- The table of France. -/
def frenchTable : Table where
  subject := "Q142"
  name := "country"
  filters := [isFrance]
  verifications := frenchConditions

/-- Only codes have names in the atlas. -/
lemma labelsCodes_lookups : LabelsCodes lookups := by
  intro e l h
  have hname : name? e ≠ none := by
    intro hnone
    have hl : Id.run (lookups.label e) = .ok none := by
      simp [lookups, Lookups.pure, hnone]
    rw [h] at hl
    cases hl
  unfold name? at hname
  split at hname
  · decide
  · decide
  · decide
  · exact absurd rfl hname

/-- A question about France asks for its identity, for the continent of the first clause and for
the union of the second. -/
theorem question_shape_french :
    Returns (fold settings lookups frenchContinents []) ⟨[], true, [frenchTable]⟩ ∧
      generate ⟨[], true, [frenchTable]⟩ frenchContinents =
        .ok ⟨.question (baseTable "country") (.all (isFrance :: frenchConditions))⟩ ∧
      (∀ tr ∈ frenchContinents.folded, tr.subject.entity? = some "Q142") ∧
      ∃ wss, List.Forall₂ (Verified (queryScope settings lookups frenchContinents []) "Q142")
        frenchContinents.clauses wss ∧ frenchConditions = wss.flatten := by
  have hfold : Returns (fold settings lookups frenchContinents [])
      ⟨[], true, [frenchTable]⟩ := rfl
  have hgen : generate ⟨[], true, [frenchTable]⟩ frenchContinents =
      .ok ⟨.question (baseTable "country") (.all (isFrance :: frenchConditions))⟩ := rfl
  obtain ⟨s, d, t, _, hes, htables, hs, _, _, _, hwss, _⟩ :=
    question_shape labelsCodes_lookups rfl hfold hgen
  obtain rfl : frenchTable = t := List.singleton_inj.mp htables
  obtain rfl : "Q142" = s := hs
  exact ⟨hfold, hgen, fun tr htr => (hes tr htr).1, hwss⟩

end Atlas

end GraphTalk.Conversion
