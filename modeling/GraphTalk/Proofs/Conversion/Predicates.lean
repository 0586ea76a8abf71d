import GraphTalk.Proofs.Conversion.Atlas
import GraphTalk.Proofs.Sparql.Spliced

/-!
# Which predicates are read

A triple is folded by the property that its predicate is read as, and refused if there is none
(`predicates_read`).
-/

namespace GraphTalk.Conversion

open Rdf Sparql

/-! ### Triples -/

section

variable {m : Type → Type} [Monad m] {sc : Scope m} {ts : Tables} {tr : Triple} {id : String}

/-- A triple is folded by what its predicate is read as. -/
lemma foldTriple_of_reads (h : tr.predicate.Reads id) :
    foldTriple sc ts tr = foldTriple sc ts { tr with predicate := .path (.direct id) } := by
  have hdirect : (Predicate.path (.direct id)).Reads id := ⟨_, rfl, .property id⟩
  rw [← Predicate.property?_eq_some_iff] at h hdirect
  simp only [foldTriple, h, hdirect]

/-- Why a triple with a predicate that is not read is refused. -/
def predicateRefusal (tr : Triple) : Unsupported :=
  match subjectKey tr.subject with
  | .ok _ => .foreignPredicate tr.predicate
  | .error reason => reason

/-- A triple with any other predicate is refused, at the latest for its predicate. -/
lemma foldTriple_of_not_reads [LawfulMonad m] (h : ∀ id, ¬ tr.predicate.Reads id) :
    foldTriple sc ts tr = refuse (predicateRefusal tr) := by
  have hnone : tr.predicate.property? = none := by
    rw [Option.eq_none_iff_forall_ne_some]
    exact fun id hid => h id (Predicate.property?_eq_some_iff.mp hid)
  rw [foldTriple, predicateRefusal, hnone]
  cases subjectKey tr.subject with
  | ok s => simp [supported]
  | error reason => simp [supported, refuse]

end

/-- A path that is simplified is left as it is by simplifying it again, if no step of a sequence is
a sequence; the paths of queries are such. The property that a predicate is simplified to is the one
that it is read as: only direct properties and the paths to all types and to all places are read. A
triple is folded as one with that property, and is refused if there is none. -/
theorem predicates_read (pr : Predicate) :
    (∀ p, pr = .path p → p.Spliced → p.simplify.simplify = p.simplify) ∧
    (∀ namespaces text q, Query.parse namespaces text = .ok q →
      ∀ tr ∈ clauseTriples q.clauses, tr.predicate = pr → pr.Spliced) ∧
    (∀ id, pr.property? = some id ↔ pr.Reads id) ∧
    ∀ (m : Type → Type) [Monad m] [LawfulMonad m] (sc : Scope m) (ts : Tables) (s o : Term),
      (∀ id, pr.Reads id →
        foldTriple sc ts ⟨s, pr, o⟩ = foldTriple sc ts ⟨s, .path (.direct id), o⟩) ∧
      ((∀ id, ¬ pr.Reads id) →
        foldTriple sc ts ⟨s, pr, o⟩ = refuse (predicateRefusal ⟨s, pr, o⟩)) := by
  refine ⟨fun p _ hp => hp.simplify_simplify, ?_, fun id => Predicate.property?_eq_some_iff, ?_⟩
  · rintro namespaces text q hq tr htr rfl
    exact Query.spliced_of_parse hq tr htr
  · intro m _ _ sc ts s o
    exact ⟨fun id h => foldTriple_of_reads h, fun h => foldTriple_of_not_reads h⟩

namespace Atlas

/-- A path to all places and from there to all types is a sequence of three steps, of which the
first is simplified. It is not read, though its two parts are. -/
theorem predicates_read_joined :
    let sc : Scope Id := { settings, lookups, spans := [] }
    let joined : Path := .seq [.places, .sequence Path.typeSteps]
    let tr : Triple := ⟨.variable "x", .path joined, .variable "y"⟩
    joined.Spliced ∧ joined.simplify = .sequence (.direct "P131" :: Path.typeSteps) ∧
    joined.simplify.simplify = joined.simplify ∧
    (∀ id, ¬ tr.predicate.Reads id) ∧
    foldTriple sc [] tr = refuse (.foreignPredicate (.path joined)) ∧
    (Predicate.path .places).Reads "P131" ∧
    foldTriple sc [] { tr with predicate := .path .places } =
      foldTriple sc [] { tr with predicate := .path (.direct "P131") } := by
  intro sc joined tr
  have hspliced : joined.Spliced := by
    refine Path.spliced_seq (List.forall_mem_cons.mpr ⟨?_, List.forall_mem_singleton.mpr ?_⟩)
    · exact Path.spliced_of_not_isSequence nofun
    · intro steps hsteps
      obtain rfl := Path.sequence.inj hsteps
      simp [Path.typeSteps, Path.IsSequence, Path.direct]
  obtain ⟨htwice, -, hread, hfold⟩ := predicates_read (.path joined)
  have hunread : ∀ id, ¬ tr.predicate.Reads id := by
    intro id h
    cases (hread id).mpr h
  obtain ⟨-, -, hplaces, hplacesFold⟩ := predicates_read (.path .places)
  have hp : (Predicate.path .places).Reads "P131" := (hplaces "P131").mp (by decide +kernel)
  exact ⟨hspliced, rfl, htwice joined rfl hspliced, hunread, (hfold Id sc [] _ _).2 hunread, hp,
    (hplacesFold Id sc [] _ _).1 "P131" hp⟩

end Atlas

end GraphTalk.Conversion
