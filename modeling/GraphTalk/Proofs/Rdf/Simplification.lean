import Mathlib.Data.List.Basic
import Mathlib.Tactic.Common
import GraphTalk.Rdf.Term

/-!
# Simplified predicates

A path is read as a property if it is a direct property, the types of an entity with all classes
above them, or the places that an entity lies in, one inside the other (`Path.Reads`). These are the
paths that are simplified to a direct property (`Path.reads_iff`).

A path that is simplified twice is simplified once, since no step of a sequence is itself a
sequence: what is not yet the path to all types does not become it when its steps are simplified
(`Path.eq_typeSteps_of_map_simplify`).
-/

namespace GraphTalk.Rdf

namespace Path

/-! ### Shapes of paths -/

/-- The path of a direct property. -/
def direct (id : String) : Path := .iri (propertyNamespace ++ id)

/-- The steps to the types of an entity and to all classes above them. -/
def typeSteps : List Path := [direct instanceOf, .repeated (direct "P279") .star]

/-- The places that an entity lies in, one inside the other. -/
def places : Path := .repeated (direct "P131") .plus

/-- A path of several steps. -/
def IsSequence (p : Path) : Prop := ∃ steps, p = .sequence steps

/-- No step of a sequence is a sequence: `seq` takes the steps of such a one over. -/
def Spliced (p : Path) : Prop := ∀ steps, p = .sequence steps → ∀ step ∈ steps, ¬ step.IsSequence

variable {p : Path} {ps steps : List Path} {id : String}

lemma property?_eq_some_iff : p.property? = some id ↔ p = direct id := by
  cases p with
  | iri i => rw [property?, Text.dropStart?_eq_some_iff, direct, iri.injEq]
  | _ => simp [property?, direct]

lemma isProperty_iff : p.isProperty id = true ↔ p = direct id := by
  rw [isProperty, beq_iff_eq, property?_eq_some_iff]

lemma isSubclassClosure_iff :
    p.isSubclassClosure = true ↔ p = .repeated (direct "P279") .star := by
  cases p with
  | repeated q times => cases times <;> simp [isSubclassClosure, isProperty_iff]
  | _ => simp [isSubclassClosure]

lemma direct_inj {id' : String} : direct id = direct id' ↔ id = id' := by simp [direct]

/-! ### Sequences -/

/-- What a path adds to the steps of a sequence. -/
def parts : Path → List Path
  | .sequence steps => steps
  | p => [p]

lemma seq_eq (ps : List Path) : seq ps = .sequence (ps.flatMap parts) := rfl

lemma parts_of_not_isSequence (h : ¬ p.IsSequence) : p.parts = [p] := by
  cases p with
  | sequence steps => exact absurd ⟨steps, rfl⟩ h
  | _ => rfl

/-- Steps that are no sequences are put together as they are. -/
lemma seq_of_not_isSequence (h : ∀ p ∈ ps, ¬ p.IsSequence) : seq ps = .sequence ps := by
  have hparts : ps.flatMap parts = ps.flatMap fun p => [p] :=
    List.flatMap_congr fun p hp => parts_of_not_isSequence (h p hp)
  rw [seq_eq, hparts, List.flatMap_singleton']

/-- What is put together has no sequence as a step. -/
lemma spliced_seq (h : ∀ p ∈ ps, p.Spliced) : (seq ps).Spliced := by
  intro steps hsteps step hstep
  rw [seq_eq, sequence.injEq] at hsteps
  rw [← hsteps] at hstep
  obtain ⟨p, hp, hpart⟩ := List.mem_flatMap.mp hstep
  by_cases hseq : p.IsSequence
  · obtain ⟨inner, rfl⟩ := hseq
    exact h _ hp inner rfl step hpart
  · rw [parts_of_not_isSequence hseq, List.mem_singleton] at hpart
    exact hpart ▸ hseq

lemma spliced_of_not_isSequence (h : ¬ p.IsSequence) : p.Spliced :=
  fun steps hsteps => absurd ⟨steps, hsteps⟩ h

/-! ### Simplified paths -/

lemma simplifyAll_eq (ps : List Path) : simplifyAll ps = ps.map simplify := by
  induction ps with
  | nil => rfl
  | cons p ps ih => rw [simplifyAll, ih, List.map_cons]

lemma simplify_typeSteps : (sequence typeSteps).simplify = direct instanceOf := by
  have hfirst : (direct instanceOf).isProperty instanceOf = true := isProperty_iff.mpr rfl
  have hsecond : (repeated (direct "P279") .star).isSubclassClosure = true :=
    isSubclassClosure_iff.mpr rfl
  rw [typeSteps, simplify, hfirst, hsecond]
  rfl

/-- Every other sequence is simplified step by step. -/
lemma simplify_sequence (h : steps ≠ typeSteps) :
    (sequence steps).simplify = seq (steps.map simplify) := by
  match steps with
  | [] => rfl
  | [p] => rfl
  | [first, second] =>
    rw [simplify, if_neg]
    · rfl
    · intro hboth
      rw [Bool.and_eq_true, isProperty_iff, isSubclassClosure_iff] at hboth
      exact h (by rw [hboth.1, hboth.2, typeSteps])
  | p :: q :: r :: rest => rw [simplify, simplifyAll_eq]; simp

/-- A path that is no sequence is the path to all places, or is left as it is. -/
lemma simplify_of_not_isSequence (h : ¬ p.IsSequence) :
    (p = places ∧ p.simplify = direct "P131") ∨ (p ≠ places ∧ p.simplify = p) := by
  cases p with
  | sequence steps => exact absurd ⟨steps, rfl⟩ h
  | repeated q times =>
    cases times with
    | plus =>
      by_cases hq : q.isProperty "P131" = true
      · obtain rfl := isProperty_iff.mp hq
        exact .inl ⟨rfl, by rw [simplify, if_pos hq]⟩
      · refine .inr ⟨fun hplaces => hq ?_, by rw [simplify, if_neg hq]⟩
        rw [places, repeated.injEq] at hplaces
        exact isProperty_iff.mpr hplaces.1
    | _ => exact .inr ⟨nofun, rfl⟩
  | _ => exact .inr ⟨nofun, rfl⟩

lemma simplify_direct (id : String) : (direct id).simplify = direct id := rfl

lemma not_isSequence_simplify (h : ¬ p.IsSequence) : ¬ p.simplify.IsSequence := by
  rcases simplify_of_not_isSequence h with ⟨-, hp⟩ | ⟨-, hp⟩
  · rw [hp]
    rintro ⟨steps, hsteps⟩
    cases hsteps
  · rwa [hp]

/-! ### Simplifying twice -/

/-- No step becomes another one than the property of the path to all places. -/
lemma eq_of_simplify_eq {q : Path} (h : ¬ p.IsSequence) (hq : q ≠ direct "P131")
    (hp : p.simplify = q) : p = q := by
  rcases simplify_of_not_isSequence h with ⟨-, hplaces⟩ | ⟨-, hself⟩
  · exact absurd (hp.symm.trans hplaces) hq
  · exact hself.symm.trans hp

/-- Steps that are simplified to those of all types were these steps before. -/
lemma eq_typeSteps_of_map_simplify (h : ∀ p ∈ steps, ¬ p.IsSequence)
    (hsteps : steps.map simplify = typeSteps) : steps = typeSteps := by
  obtain ⟨p, rest, rfl, hp, hrest⟩ := List.map_eq_cons_iff.mp hsteps
  obtain ⟨q, rest, rfl, hq, hnil⟩ := List.map_eq_cons_iff.mp hrest
  obtain rfl := List.map_eq_nil_iff.mp hnil
  have hfirst : p = direct instanceOf :=
    eq_of_simplify_eq (h p (by simp)) (by rw [Ne, direct_inj]; decide) hp
  have hsecond : q = repeated (direct "P279") .star :=
    eq_of_simplify_eq (h q (by simp)) nofun hq
  rw [hfirst, hsecond, typeSteps]

lemma simplify_simplify_of_not_isSequence (h : ¬ p.IsSequence) :
    p.simplify.simplify = p.simplify := by
  rcases simplify_of_not_isSequence h with ⟨-, hp⟩ | ⟨-, hp⟩
  · rw [hp, simplify_direct]
  · rw [hp, hp]

/-- A path that is simplified is left as it is by simplifying it again. -/
lemma Spliced.simplify_simplify (h : p.Spliced) : p.simplify.simplify = p.simplify := by
  by_cases hseq : p.IsSequence
  · obtain ⟨steps, rfl⟩ := hseq
    have hsteps : ∀ step ∈ steps, ¬ step.IsSequence := h steps rfl
    by_cases htypes : steps = typeSteps
    · rw [htypes, simplify_typeSteps, simplify_direct]
    · have hmap : ∀ step ∈ steps.map simplify, ¬ step.IsSequence :=
        List.forall_mem_map.mpr fun step hstep => not_isSequence_simplify (hsteps step hstep)
      have htwice : (steps.map simplify).map simplify = steps.map simplify := by
        rw [List.map_map]
        exact List.map_congr_left fun step hstep =>
          simplify_simplify_of_not_isSequence (hsteps step hstep)
      rw [simplify_sequence htypes, seq_of_not_isSequence hmap,
        simplify_sequence fun heq => htypes (eq_typeSteps_of_map_simplify hsteps heq), htwice,
        seq_of_not_isSequence hmap]
  · exact simplify_simplify_of_not_isSequence hseq

/-- A sequence among the steps would be taken over when it is simplified, and complete the path. -/
example :
    let p : Path := sequence [sequence typeSteps, repeated (direct "P279") .star]
    p.simplify.simplify.same p.simplify = false := by
  decide +kernel

/-! ### What is read -/

/-- A path is read as a property. -/
inductive Reads : Path → String → Prop where
  | property (id : String) : Reads (direct id) id
  | types : Reads (sequence typeSteps) instanceOf
  | places : Reads places "P131"

lemma reads_iff : p.Reads id ↔ p.simplify.property? = some id := by
  rw [property?_eq_some_iff]
  constructor
  · intro h
    cases h with
    | property => exact simplify_direct id
    | types => exact simplify_typeSteps
    | places => rfl
  · intro h
    by_cases hseq : p.IsSequence
    · obtain ⟨steps, rfl⟩ := hseq
      by_cases htypes : steps = typeSteps
      · rw [htypes, simplify_typeSteps, direct_inj] at h
        rw [htypes, ← h]
        exact .types
      · rw [simplify_sequence htypes] at h
        cases h
    · rcases simplify_of_not_isSequence hseq with ⟨rfl, hp⟩ | ⟨-, hp⟩
      · rw [hp, direct_inj] at h
        rw [← h]
        exact .places
      · rw [← hp, h]
        exact .property id

end Path

/-! ### Predicates -/

namespace Predicate

variable {pr : Predicate}

/-- A predicate is read as a property. -/
def Reads (pr : Predicate) (id : String) : Prop := ∃ p, pr = .path p ∧ p.Reads id

/-- A predicate whose path has no sequence among the steps of a sequence. -/
def Spliced (pr : Predicate) : Prop := ∀ p, pr = .path p → p.Spliced

lemma property?_eq_some_iff {id : String} : pr.property? = some id ↔ pr.Reads id := by
  match pr with
  | .variable v => simp [property?, Reads]
  | .path p => simp [property?, Reads, Path.reads_iff]

lemma spliced_variable (v : String) : Spliced (.variable v) := nofun

lemma spliced_path {p : Path} (h : p.Spliced) : Spliced (.path p) := by
  rintro q hq
  obtain rfl := path.inj hq
  exact h

lemma spliced_iri (i : String) : Spliced (.path (.iri i)) :=
  spliced_path (Path.spliced_of_not_isSequence nofun)

end Predicate

end GraphTalk.Rdf
