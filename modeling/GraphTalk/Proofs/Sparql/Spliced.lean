import GraphTalk.Proofs.Rdf.Simplification
import GraphTalk.Proofs.Result
import GraphTalk.Proofs.Sparql.Flattening
import GraphTalk.Proofs.Sparql.Readers
import GraphTalk.Proofs.Sparql.TripleOrder
import GraphTalk.Sparql.Parse

/-!
# Paths of queries

No path of a query has a sequence among the steps of a sequence, however brackets are nested in the
text that the query is read from (`Query.spliced_of_parse`). A reader finds no other paths if the
readers for what stands in brackets find no others, and patterns are put together without new ones.
-/

namespace GraphTalk.Sparql

open Rdf Reader

/-! ### Patterns -/

/-- The predicates of triples are spliced. -/
def SplicedTriples (ts : List Triple) : Prop := ∀ t ∈ ts, t.predicate.Spliced

/-- All triples of a pattern are spliced, at any depth. -/
def Algebra.Spliced : Algebra → Prop
  | .basic ts => SplicedTriples ts
  | .join l r => l.Spliced ∧ r.Spliced
  | .union l r => l.Spliced ∧ r.Spliced
  | .leftJoin l r => l.Spliced ∧ r.Spliced
  | .minus l r => l.Spliced ∧ r.Spliced
  | .filter _ p => p.Spliced
  | .extend _ _ p => p.Spliced
  | .graph p => p.Spliced
  | .group _ p => p.Spliced
  | .aggregateJoin _ p => p.Spliced
  | .orderBy _ p => p.Spliced
  | .project p => p.Spliced
  | .distinct p => p.Spliced
  | .slice _ _ p => p.Spliced
  | .multiset => True
  | .service => True

/-- All triples of a part of a group are spliced. -/
def GroupPart.Spliced : GroupPart → Prop
  | .triples ts => SplicedTriples ts
  | .pattern p => p.Spliced
  | .optional p => p.Spliced
  | .minus p => p.Spliced
  | .filter _ => True
  | .bind _ _ => True

section

variable {ts us : List Triple} {p l r : Algebra} {parts : List GroupPart}

lemma splicedTriples_nil : SplicedTriples [] := List.forall_mem_nil _

lemma splicedTriples_append (hts : SplicedTriples ts) (hus : SplicedTriples us) :
    SplicedTriples (ts ++ us) :=
  List.forall_mem_append.mpr ⟨hts, hus⟩

lemma splicedTriples_reorder (h : SplicedTriples ts) : SplicedTriples (reorder ts) :=
  fun t ht => h t ((reorder_perm ts).mem_iff.mp ht)

lemma Algebra.spliced_joined (hl : l.Spliced) (hr : r.Spliced) : (l.joined r).Spliced := by
  unfold joined
  split
  · exact hr
  · exact hl
  · exact ⟨hl, hr⟩

lemma Algebra.spliced_filtered (h : p.Spliced) (es : List Expression) :
    (p.filtered es).Spliced := by
  unfold filtered
  split
  · exact h
  · split
    · exact h
    · exact h
  · exact h

lemma Algebra.spliced_ofAlternatives {ps : List Algebra} (h : ∀ p ∈ ps, p.Spliced) :
    (ofAlternatives ps).Spliced := by
  cases ps with
  | nil => exact splicedTriples_nil
  | cons p ps =>
    obtain ⟨hp, hps⟩ := List.forall_mem_cons.mp h
    rw [ofAlternatives]
    clear h
    induction ps generalizing p with
    | nil => exact hp
    | cons q ps ih =>
      obtain ⟨hq, hps⟩ := List.forall_mem_cons.mp hps
      exact ih (p.union q) ⟨hp, hq⟩ hps

lemma GroupPart.spliced_mergeTriples (h : ∀ part ∈ parts, part.Spliced) :
    ∀ part ∈ mergeTriples parts, part.Spliced := by
  induction parts with
  | nil => exact h
  | cons part rest ih =>
    obtain ⟨hpart, hrest⟩ := List.forall_mem_cons.mp h
    have hmerged := ih hrest
    cases part with
    | triples ts =>
      have hts := splicedTriples_reorder hpart
      rw [mergeTriples]
      split
      · rename_i us rest' hrun
        rw [hrun] at hmerged
        obtain ⟨hus, hrest'⟩ := List.forall_mem_cons.mp hmerged
        exact List.forall_mem_cons.mpr ⟨splicedTriples_append hts hus, hrest'⟩
      · exact List.forall_mem_cons.mpr ⟨hts, hmerged⟩
    | filter => exact hmerged
    | _ => exact List.forall_mem_cons.mpr ⟨hpart, hmerged⟩

lemma GroupPart.spliced_attach {part : GroupPart} (hp : p.Spliced) (hpart : part.Spliced) :
    (attach p part).Spliced := by
  cases part with
  | triples ts => exact Algebra.spliced_joined hp (splicedTriples_reorder hpart)
  | pattern q => exact Algebra.spliced_joined hp hpart
  | optional q => exact ⟨hp, hpart⟩
  | minus q => exact ⟨hp, hpart⟩
  | filter => exact hp
  | bind => exact hp

lemma Algebra.spliced_ofGroup (h : ∀ part ∈ parts, part.Spliced) : (ofGroup parts).Spliced := by
  refine spliced_filtered ?_ _
  have hmerged := GroupPart.spliced_mergeTriples h
  exact List.foldlRecOn _ _ splicedTriples_nil fun p hp part hpart =>
    GroupPart.spliced_attach hp (hmerged part hpart)

end

/-! ### Readers of what may nest -/

/-- What stands in brackets is spliced. -/
structure Nested.Splices (inner : Nested) : Prop where
  path : inner.path.Yields Path.Spliced
  node (paths : Bool) : (inner.node paths).Yields fun x => SplicedTriples x.2
  group : inner.group.Yields fun g => g.algebra.Spliced

section

variable {inner : Nested} {paths : Bool}

/-! #### Paths -/

lemma yields_negatedSet : negatedSet.Yields Path.Spliced := by
  refine .orElse (.andThen fun p => .pure ?_) (.andThen fun choices => ?_)
  · exact Path.spliced_of_not_isSequence nofun
  · cases choices with
    | some ps => exact .pure (Path.spliced_of_not_isSequence nofun)
    | none => exact .andThen fun _ => .pure (Path.spliced_of_not_isSequence nofun)

lemma yields_pathPrimary (h : inner.Splices) : (pathPrimary inner).Yields Path.Spliced := by
  refine .orElse (.map (.any _) fun i _ => ?_) (.orElse ?_ (.orElse (h.path.between _ _) .failure))
  · exact Path.spliced_of_not_isSequence nofun
  · exact .andThen fun _ => yields_negatedSet

lemma yields_pathElement (h : inner.Splices) : (pathElement inner).Yields Path.Spliced := by
  refine (yields_pathPrimary h).bind fun p hp => .andThen fun times => ?_
  cases times with
  | some times => exact .pure (Path.spliced_of_not_isSequence nofun)
  | none => exact .pure hp

lemma yields_pathStep (h : inner.Splices) : (pathStep inner).Yields Path.Spliced := by
  refine .orElse (yields_pathElement h) (.andThen fun _ => .andThen fun p => ?_)
  exact .pure (Path.spliced_of_not_isSequence nofun)

lemma yields_pathSequence (h : inner.Splices) : (pathSequence inner).Yields Path.Spliced := by
  refine ((yields_pathStep h).separated "/").bind fun ps hps => ?_
  split
  · exact .pure (hps _ List.mem_cons_self)
  · exact .pure (Path.spliced_seq hps)

lemma yields_path (h : inner.Splices) : (path inner).Yields Path.Spliced := by
  refine ((yields_pathSequence h).separated "|").bind fun ps hps => ?_
  split
  · exact .pure (hps _ List.mem_cons_self)
  · exact .pure (Path.spliced_of_not_isSequence nofun)

/-! #### Triples -/

lemma yields_verb (h : inner.Splices) : (verb inner paths).Yields Predicate.Spliced := by
  unfold verb
  split
  · exact .orElse ((yields_path h).map fun p hp => Predicate.spliced_path hp)
      (.map (.any _) fun v _ => Predicate.spliced_variable v)
  · exact .orElse (.map (.any _) fun v _ => Predicate.spliced_variable v)
      (.andThen fun i => .pure (Predicate.spliced_iri i))

lemma yields_objects (h : inner.Splices) {s : Term} {pr : Predicate} (hpr : pr.Spliced) :
    (objects inner paths s pr).Yields SplicedTriples := by
  refine ((h.node paths).separated ",").bind fun found hfound => .pure ?_
  intro t ht
  obtain ⟨⟨o, inside⟩, ho, ht⟩ := List.mem_flatMap.mp ht
  rcases List.mem_cons.mp ht with rfl | ht
  · exact hpr
  · exact hfound _ ho t ht

lemma splicedTriples_getD {found : Option (List Triple)} (h : ∀ ts ∈ found, SplicedTriples ts) :
    SplicedTriples (found.getD []) := by
  cases found with
  | none => exact splicedTriples_nil
  | some ts => exact h ts rfl

lemma yields_properties (h : inner.Splices) (s : Term) :
    (properties inner paths s).Yields SplicedTriples := by
  have hmore : (do objects inner false s (← verb inner paths)).Yields SplicedTriples :=
    (yields_verb h).bind fun pr hpr => yields_objects h hpr
  refine (yields_verb h).bind fun pr hpr => (yields_objects h hpr).bind fun first hfirst => ?_
  refine (Yields.many (.andThen fun _ => hmore.maybe.bind fun found hfound =>
    .pure (splicedTriples_getD hfound))).bind fun more hmore => .pure ?_
  exact splicedTriples_append hfirst (List.forall_mem_flatten.mpr hmore)

lemma yields_listCells {items : List (Term × List Triple)}
    (h : ∀ x ∈ items, SplicedTriples x.2) :
    (listCells items).Yields fun x => SplicedTriples x.2 := by
  induction items with
  | nil => exact .pure splicedTriples_nil
  | cons item rest ih =>
    obtain ⟨hitem, hrest⟩ := List.forall_mem_cons.mp h
    refine .andThen fun cell => (ih hrest).bind fun x hx => .pure ?_
    refine List.forall_mem_cons.mpr ⟨Predicate.spliced_iri _, ?_⟩
    exact List.forall_mem_cons.mpr ⟨Predicate.spliced_iri _, splicedTriples_append hx hitem⟩

lemma yields_bracketNode (h : inner.Splices) :
    (bracketNode inner paths).Yields fun x => SplicedTriples x.2 := by
  refine .orElse (.andThen fun _ => .andThen fun node => ?_) ?_
  · exact (yields_properties h node).bind fun ts hts => .andThen fun _ => .pure hts
  · exact ((h.node paths).some1.between "(" ")").bind fun items hitems => yields_listCells hitems

lemma yields_node (h : inner.Splices) :
    (node inner paths).Yields fun x => SplicedTriples x.2 :=
  .orElse (.andThen fun _ => .pure splicedTriples_nil) (yields_bracketNode h)

lemma yields_subjectTriples (h : inner.Splices) :
    (subjectTriples inner paths).Yields SplicedTriples := by
  refine .orElse (.andThen fun s => yields_properties h s) ?_
  refine (yields_bracketNode h).bind fun x hx => ?_
  refine (yields_properties h x.1).maybe.bind fun found hfound => .pure ?_
  exact splicedTriples_append hx (splicedTriples_getD hfound)

lemma yields_triplesBlock (h : inner.Splices) :
    (triplesBlock inner paths).Yields SplicedTriples := by
  have hmore : (do symbol "."; subjectTriples inner paths).Yields SplicedTriples :=
    .andThen fun _ => yields_subjectTriples h
  refine (yields_subjectTriples h).bind fun first hfirst => hmore.many.bind fun more hmore => ?_
  exact .andThen fun _ => .pure (splicedTriples_append hfirst (List.forall_mem_flatten.mpr hmore))

/-! #### Groups -/

lemma yields_triplesPart (h : inner.Splices) :
    (triplesPart inner).Yields fun x => x.1.Spliced :=
  (yields_triplesBlock h).bind fun _ hts => .pure hts

lemma yields_otherPart (h : inner.Splices) :
    (otherPart inner).Yields fun x => x.1.Spliced := by
  refine .firstOf ?_
  simp only [List.forall_mem_cons]
  refine ⟨?_, ?_, ?_, ?_, ?_, ?_, ?_, ?_, nofun⟩
  · refine (h.group.separatedBy _).bind fun gs hgs => .pure ?_
    exact Algebra.spliced_ofAlternatives (List.forall_mem_map.mpr hgs)
  · exact .andThen fun _ => h.group.bind fun g hg => .pure hg
  · exact .andThen fun _ => h.group.bind fun g hg => .pure hg
  · exact .andThen fun _ => .andThen fun _ => h.group.bind fun g hg => .pure hg
  · exact .andThen fun _ => .andThen fun _ => .andThen fun _ => .andThen fun _ => .pure trivial
  · exact .andThen fun _ => .andThen fun _ => .pure trivial
  · exact .andThen fun _ => .andThen fun _ => .pure trivial
  · exact .andThen fun _ => .andThen fun _ => .pure trivial

lemma yields_groupParts (h : inner.Splices) :
    (groupParts inner).Yields fun g => g.algebra.Spliced := by
  refine (yields_triplesPart h).maybe.bind fun first hfirst => ?_
  refine (Yields.many (P := fun xs => ∀ x ∈ xs, x.1.Spliced) ?_).bind fun rest hrest => .pure ?_
  · refine (yields_otherPart h).bind fun part hpart => .andThen fun _ => ?_
    refine (yields_triplesPart h).maybe.bind fun ts hts => .pure ?_
    exact List.forall_mem_cons.mpr ⟨hpart, by simpa using hts⟩
  · refine Algebra.spliced_ofGroup (List.forall_mem_map.mpr (List.forall_mem_append.mpr ⟨?_, ?_⟩))
    · simpa using hfirst
    · exact List.forall_mem_flatten.mpr hrest

lemma yields_group (h : inner.Splices) : (group inner).Yields fun g => g.algebra.Spliced := by
  refine Yields.between (.orElse ?_ (yields_groupParts h)) _ _
  exact .andThen fun _ => .andThen fun _ => .andThen fun _ => .andThen fun _ => .pure trivial

end

/-! ### Queries -/

lemma splices_ofDepth (depth : Nat) : (Nested.ofDepth depth).Splices := by
  induction depth with
  | zero => exact ⟨.failure, fun _ => .failure, .failure⟩
  | succ depth ih => exact ⟨yields_path ih, fun _ => yields_node ih, yields_group ih⟩

section

variable {inner : Nested}

lemma yields_queryBody (h : inner.Splices) (form : Form) :
    (queryBody inner form).Yields fun q => q.pattern.algebra.Spliced :=
  .andThen fun _ => (Yields.andThen fun _ => h.group).bind fun _ hg => .andThen fun _ => .pure hg

lemma spliced_none : GroupPattern.none.algebra.Spliced := splicedTriples_nil

lemma yields_constructQuery (h : inner.Splices) :
    (constructQuery inner).Yields fun q => q.pattern.algebra.Spliced := by
  refine .andThen fun _ => .orElse (.andThen fun _ => yields_queryBody h _) ?_
  exact .andThen fun _ => .andThen fun _ => .andThen fun _ => .andThen fun _ => .pure spliced_none

lemma yields_describeQuery (h : inner.Splices) :
    (describeQuery inner).Yields fun q => q.pattern.algebra.Spliced := by
  refine .andThen fun _ => .andThen fun _ => .andThen fun _ => ?_
  refine (Yields.maybe (.andThen fun _ => h.group)).bind fun found hfound => ?_
  refine .andThen fun _ => .pure ?_
  cases found with
  | none => exact spliced_none
  | some g => exact hfound g rfl

lemma yields_queryText (h : inner.Splices) :
    (queryText inner).Yields fun q => q.pattern.algebra.Spliced := by
  have hform : (firstOf [selectQuery inner, constructQuery inner, describeQuery inner,
      askQuery inner]).Yields fun q => q.pattern.algebra.Spliced := by
    refine .firstOf ?_
    simp only [List.forall_mem_cons]
    refine ⟨?_, yields_constructQuery h, yields_describeQuery h, ?_, nofun⟩
    · exact .andThen fun x => yields_queryBody h _
    · exact .andThen fun _ => yields_queryBody h _
  refine .andThen fun _ => hform.bind fun q hq => .andThen fun _ => .andThen fun c => ?_
  split
  · exact .pure hq
  · exact .failure

end

/-! #### Modifiers -/

namespace Algebra

variable {p : Algebra}

lemma spliced_extendAll (h : p.Spliced) (values : List (String × Expression)) :
    (p.extendAll values).Spliced :=
  List.foldlRecOn _ _ h fun _ hq _ _ => hq

lemma spliced_ite {c : Prop} [Decidable c] {q : Algebra} (hp : p.Spliced) (hq : q.Spliced) :
    (if c then p else q).Spliced := by
  split
  · exact hp
  · exact hq

lemma spliced_having (h : p.Spliced) (es : List Expression) : (p.having es).Spliced := by
  cases es <;> exact h

lemma spliced_extendWith (h : p.Spliced) (key : GroupKey) : (key.extendWith p).Spliced := by
  cases key <;> exact h

lemma spliced_modified (h : p.Spliced) (distinct : Bool) (items : List ProjectionItem)
    (m : SolutionModifiers) : (modified p distinct items m).Spliced := by
  unfold modified
  extract_lets order
  split
  rename_i q items' order' hgrouped
  have hq : q.Spliced := by
    split at hgrouped
    · cases hgrouped
      refine spliced_having (spliced_extendAll ?_ _) _
      exact List.foldlRecOn _ _ h fun p hp key _ => spliced_extendWith hp key
    · cases hgrouped
      exact spliced_having h _
  -- the modifiers behind the computed values only put operators around the pattern `q₂`
  extract_lets q₁ q₂ q₃ q₄ q₅
  have hq₂ : q₂.Spliced :=
    spliced_extendAll (spliced_ite (spliced_joined hq (r := multiset) trivial) hq) _
  have hq₅ : q₅.Spliced := spliced_ite (spliced_ite hq₂ hq₂) (spliced_ite hq₂ hq₂)
  exact spliced_ite hq₅ hq₅

lemma spliced_peel {q : Algebra} {found found' : Modifiers} (h : p.Spliced)
    (hp : p.peel found = .ok (found', q)) : q.Spliced := by
  induction p generalizing found with
  | slice start length p ih =>
    rw [peel] at hp
    split at hp
    · cases hp
    · exact ih h hp
  | distinct p ih => exact ih h hp
  | project p ih => exact ih h hp
  | orderBy keys p ih => exact ih h hp
  | extend name value p ih => exact ih h hp
  | aggregateJoin aggregates p ih => exact ih h hp
  | group keys p ih => exact ih h hp
  | filter e p ih =>
    rw [peel] at hp
    split at hp
    · exact ih h hp
    · cases hp
      exact h
  | _ =>
    cases hp
    exact h

lemma Spliced.triples (h : p.Spliced) : SplicedTriples p.triples := by
  induction p with
  | basic ts =>
    have hts : SplicedTriples ts := h
    simpa [Algebra.triples, reached, ownTriples] using hts
  | join l r ihl ihr =>
    simpa [Algebra.triples, reached, ownTriples] using splicedTriples_append (ihl h.1) (ihr h.2)
  | union l r ihl ihr =>
    simpa [Algebra.triples, reached, ownTriples] using splicedTriples_append (ihl h.1) (ihr h.2)
  | filter e p ih => simpa [Algebra.triples, reached, ownTriples] using ih h
  | _ => simp [Algebra.triples, reached, ownTriples, SplicedTriples]

end Algebra

namespace Query

variable {namespaces : Namespaces} {text : String} {q : Query}

lemma spliced_of_ofAlgebra {kind : QueryKind} {vars : List String} {root : Algebra}
    (hroot : root.Spliced) (h : ofAlgebra kind vars root = .ok q) :
    SplicedTriples (clauseTriples q.clauses) := by
  obtain ⟨⟨found, p⟩, hp, h⟩ := bind_eq_ok_iff.mp h
  obtain ⟨cs, hcs, h⟩ := bind_eq_ok_iff.mp h
  obtain ⟨aggregates, -, h⟩ := bind_eq_ok_iff.mp h
  obtain rfl := Except.ok.inj h
  rw [(Algebra.triples_law.holds p).1 cs (mapError_eq_ok_iff.mp hcs)]
  exact (Algebra.spliced_peel hroot hp).triples

lemma spliced_of_readQuery? {t : QueryText} {c : Cursor}
    (h : readQuery? namespaces text = some (t, c)) : t.pattern.algebra.Spliced := by
  unfold readQuery? at h
  split at h
  · cases h
  · exact yields_queryText (splices_ofDepth _) _ _ _ h

/-- No path of a query has a sequence among the steps of a sequence. -/
lemma spliced_of_parse (h : parse namespaces text = .ok q) :
    SplicedTriples (clauseTriples q.clauses) := by
  unfold parse at h
  split at h
  · cases h
  · rename_i t cursor hread
    have hpattern := spliced_of_readQuery? hread
    split at h
    · cases h
    · split at h
      · cases h
      · cases h
      · cases h
      · split at h
        · cases h
        · exact spliced_of_ofAlgebra (Algebra.spliced_modified hpattern _ _ _) h
      · split at h
        · cases h
        · exact spliced_of_ofAlgebra (Algebra.spliced_modified hpattern _ _ _) h

end Query

end GraphTalk.Sparql
