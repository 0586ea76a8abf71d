import GraphTalk.Proofs.Conversion.Visibility

/-!
# Where the parts of conditions come from

The parts of a condition are the comparisons of fields with values and the bounds on aggregates that
it is made of, at any depth. Each part of a folded clause is stated by a triple or is the identity
of an entity (`foldClauses_leaves`), and each part of a program is one of a table
(`generate_leaves`).
-/

namespace GraphTalk

/-! ### Parts -/

mutual

/-- The comparisons and bounds in a condition, at any depth. -/
def Condition.leaves : Condition → List Condition
  | .all cs => leavesOf cs
  | .any cs => leavesOf cs
  | c => [c]

/-- The comparisons and bounds in several conditions. -/
def Condition.leavesOf : List Condition → List Condition
  | [] => []
  | c :: cs => c.leaves ++ leavesOf cs

end

namespace Condition

lemma mem_leavesOf {g : Condition} {cs : List Condition} :
    g ∈ leavesOf cs ↔ ∃ c ∈ cs, g ∈ c.leaves := by
  induction cs with
  | nil => simp [leavesOf]
  | cons c cs ih => simp [leavesOf, ih]

lemma mem_leaves_conj {g c : Condition} {cs : List Condition} :
    g ∈ (conj c cs).leaves ↔ ∃ d ∈ c :: cs, g ∈ d.leaves := by
  unfold conj
  split
  · rename_i hcs
    simp [List.isEmpty_iff.mp hcs]
  · rw [leaves, mem_leavesOf]

end Condition

namespace TableExpression

/-- The comparisons and bounds in the conditions of an expression. -/
def leaves : TableExpression → List Condition
  | .invocation _ _ => []
  | .filter e c => e.leaves ++ c.leaves
  | .projection e _ => e.leaves
  | .aggregation e _ _ => e.leaves
  | .question e c => e.leaves ++ c.leaves
  | .sort e _ _ => e.leaves
  | .index e _ => e.leaves

end TableExpression

namespace Conversion

open Rdf Sparql Knowledge

variable {sc : Scope Id} {cl : Clause} {ts : Tables} {t : Table} {q : Query} {s : String}
  {f g : Condition} {e e' : TableExpression}

/-! ### Clauses -/

lemma States.leaves_eq {tr : Triple} (h : States sc tr s f) : f.leaves = [f] := by
  obtain ⟨p, _, hc⟩ := h.condition
  obtain ⟨field, v, _, _, rfl⟩ := atom_iff.mp hc
  simp [Condition.leaves]

/-- All parts of the condition that a clause yields are stated by its triples. -/
lemma Yields.leaves (h : Yields sc s cl f) :
    ∀ g ∈ f.leaves, ∃ tr ∈ cl.folded, States sc tr s g := by
  have hstated : ∀ {tr : Triple} {f : Condition}, tr ∈ cl.folded → States sc tr s f →
      ∀ g ∈ f.leaves, ∃ tr ∈ cl.folded, States sc tr s g := by
    intro tr f htr hstates g hg
    rw [hstates.leaves_eq, List.mem_singleton] at hg
    exact ⟨tr, htr, hg ▸ hstates⟩
  cases h with
  | basic ht h => exact hstated (by simpa using ht) h
  | widened hw h => exact hstated (by simp [Clause.folded_widened hw]) h
  | @union left right c d cs ds hw hl hr =>
    intro g hg
    rw [Condition.leaves, Condition.mem_leavesOf] at hg
    obtain ⟨branch, hbranch, hg⟩ := hg
    rcases List.mem_pair.mp hbranch with rfl | rfl
    · obtain ⟨e, he, hg⟩ := Condition.mem_leaves_conj.mp hg
      obtain ⟨tr, htr, hstates⟩ := (hl e).mp he
      exact hstated (by simp [Clause.folded_union hw, htr]) hstates g hg
    · obtain ⟨e, he, hg⟩ := Condition.mem_leaves_conj.mp hg
      obtain ⟨tr, htr, hstates⟩ := (hr e).mp he
      exact hstated (by simp [Clause.folded_union hw, htr]) hstates g hg

/-- All parts of what clauses are folded into are identities of entities or stated by triples. -/
lemma foldClauses_leaves {cls : List Clause} (h : Returns (foldClauses sc [] cls) ts) :
    ∀ t ∈ ts, ∀ f ∈ t.filters ++ t.verifications, ∀ g ∈ f.leaves,
      Returns (identity sc t.subject) g ∨
        ∃ tr ∈ cls.flatMap Clause.folded, States sc tr t.subject g := by
  intro t ht f hf g hg
  obtain ⟨ess, hess, hperform⟩ := foldClauses_iff.mp h
  have hn := foldClauses_nodup h
  have hrec := ((performAll_record Tables.record_nil hperform).present _ _
    (Tables.find?_of_mem hn ht)).2
  rw [List.nil_append] at hrec
  have hyield : ∀ {cl : Clause}, cl ∈ cls → Yields sc t.subject cl f →
      ∃ tr ∈ cls.flatMap Clause.folded, States sc tr t.subject g := by
    intro cl hcl hyields
    obtain ⟨tr, htr, hstates⟩ := hyields.leaves g hg
    exact ⟨tr, List.mem_flatMap.mpr ⟨cl, hcl, htr⟩, hstates⟩
  rcases List.mem_append.mp hf with hf | hf
  · obtain ⟨cl, hcl, harises⟩ := exists_arises hess (mem_changesOf.mp (hrec.filters f hf))
    cases harises with
    | identity _ _ hi =>
      obtain ⟨d, _, rfl⟩ := identity_iff.mp hi
      obtain rfl : g = _ := by simpa [Condition.leaves] using hg
      exact .inl hi
    | filter hyields => exact .inr (hyield hcl hyields)
  · obtain ⟨cl, hcl, harises⟩ :=
      exists_arises hess (mem_changesOf.mp (hrec.mem_verifications.mp hf))
    cases harises with
    | verification hyields => exact .inr (hyield hcl hyields)

/-! ### Programs -/

lemma leaves_filtered (h : g ∈ (filtered t (baseTable t.name)).leaves) :
    ∃ f ∈ t.filters, g ∈ f.leaves := by
  unfold filtered at h
  split at h
  · cases h
  · rename_i f fs hfs
    rw [TableExpression.leaves, baseTable, TableExpression.leaves, List.nil_append] at h
    rw [hfs]
    exact Condition.mem_leaves_conj.mp h

/-- Only filters of the table are in the program of a selection. -/
lemma leaves_generateFrom (h : generateFrom t q = .ok e) (hg : g ∈ e.leaves) :
    ∃ f ∈ t.filters, g ∈ f.leaves := by
  obtain ⟨e', hordered, rfl⟩ := generateFrom_eq_ok h
  have hlimited : (limited q.limit (aggregated t q e')).leaves = e'.leaves := by
    unfold limited aggregated
    split <;> split <;> rfl
  have hsorted : e'.leaves = (projected t q).leaves := by
    rcases ordered_eq_ok hordered with ⟨-, rfl⟩ | ⟨_, _, _, -, -, -, rfl⟩
    · rfl
    · rfl
  have hprojected : (projected t q).leaves = (filtered t (baseTable t.name)).leaves := by
    by_cases hp : Projects t q
    · rw [projected_of_projects hp]
      rfl
    · rw [projected_of_not_projects hp]
  rw [hlimited, hsorted, hprojected] at hg
  exact leaves_filtered hg

/-- Only filters and what is asked for are in the program of a question. -/
lemma leaves_generateAsk (h : generateAsk ts = .ok e) :
    ∃ t ∈ ts, ∀ g ∈ e.leaves, ∃ f ∈ t.filters ++ t.verifications, g ∈ f.leaves := by
  unfold generateAsk at h
  cases hsingle : single ts with
  | error f => simp [hsingle] at h
  | ok t =>
    obtain rfl := single_eq_ok hsingle
    refine ⟨t, by simp, fun g hg => ?_⟩
    simp only [hsingle] at h
    cases hv : t.verifications with
    | nil => simp [hv] at h
    | cons v vs =>
      simp only [hv] at h
      cases hf : t.filters with
      | nil =>
        simp only [hf, Except.ok.injEq] at h
        subst h
        simpa [TableExpression.leaves, baseTable, Condition.mem_leaves_conj] using hg
      | cons f fs =>
        simp only [hf, Except.ok.injEq] at h
        subst h
        simpa [TableExpression.leaves, baseTable, Condition.mem_leaves_conj] using hg

/-- All parts of a program are parts of the conditions of one table. -/
lemma generate_leaves {c : Context} {p : Program} (h : generate c q = .ok p) :
    ∃ t ∈ c.tables, ∀ g ∈ p.statement.leaves, ∃ f ∈ t.filters ++ t.verifications,
      g ∈ f.leaves := by
  cases hkind : q.kind with
  | select =>
    obtain ⟨t, hout, hfrom⟩ := generate_select hkind h
    refine ⟨t, (outputFields_ne_nil_iff hout).1, fun g hg => ?_⟩
    obtain ⟨f, hf, hgf⟩ := leaves_generateFrom hfrom hg
    exact ⟨f, List.mem_append_left _ hf, hgf⟩
  | ask =>
    simp only [generate, Query.isQuestion, hkind, beq_self_eq_true, if_true] at h
    cases hask : generateAsk c.tables with
    | error f => simp [hask, Except.map] at h
    | ok e =>
      simp only [hask, Except.map, Except.ok.injEq] at h
      subst h
      exact leaves_generateAsk hask

end Conversion

end GraphTalk
