import Mathlib.Tactic.Common
import GraphTalk.Sparql.Query

/-!
# Triples of clauses

The triples that stand anywhere in a clause, and those that a conversion folds: of a union that
only widens a triple, that triple alone.
-/

namespace GraphTalk.Sparql

open Rdf

mutual

/-- The triples of a clause, at any depth, in order. -/
def Clause.triples : Clause → List Triple
  | .basic ts => ts
  | .union bs => branchTriples bs
  | .filter _ => []

/-- The triples of a branch, at any depth, in order. -/
def Branch.triples : Branch → List Triple
  | .single c => c.triples
  | .group cs => clauseTriples cs

/-- The triples of branches. -/
def branchTriples : List Branch → List Triple
  | [] => []
  | b :: bs => b.triples ++ branchTriples bs

/-- The triples of clauses. -/
def clauseTriples : List Clause → List Triple
  | [] => []
  | c :: cs => c.triples ++ clauseTriples cs

end

lemma mem_branchTriples {t : Triple} {bs : List Branch} :
    t ∈ branchTriples bs ↔ ∃ b ∈ bs, t ∈ b.triples := by
  induction bs with
  | nil => simp [branchTriples]
  | cons b bs ih => simp [branchTriples, ih]

@[simp] lemma Clause.triples_basic (ts : List Triple) : (Clause.basic ts).triples = ts := by
  simp [Clause.triples]

@[simp] lemma Branch.triples_basic (ts : List Triple) :
    (Branch.single (.basic ts)).triples = ts := by
  simp [Branch.triples]

@[simp] lemma Clause.mem_triples_union {t : Triple} {bs : List Branch} :
    t ∈ (Clause.union bs).triples ↔ ∃ b ∈ bs, t ∈ b.triples := by
  simp [Clause.triples, mem_branchTriples]

/-- The triples of a clause that are folded. -/
def Clause.folded : Clause → List Triple
  | .union bs => match widenedTriple? bs with
    | some t => [t]
    | none => branchTriples bs
  | c => c.triples

/-- The triples of a query that are folded. -/
def Query.folded (q : Query) : List Triple := q.clauses.flatMap Clause.folded

@[simp] lemma Clause.folded_basic (ts : List Triple) : (Clause.basic ts).folded = ts := by
  simp [Clause.folded]

lemma Clause.folded_widened {bs : List Branch} {t : Triple} (h : widenedTriple? bs = some t) :
    (Clause.union bs).folded = [t] := by
  simp [Clause.folded, h]

lemma Clause.folded_union {left right : List Triple}
    (h : widenedTriple? [.single (.basic left), .single (.basic right)] = none) :
    (Clause.union [.single (.basic left), .single (.basic right)]).folded = left ++ right := by
  simp [Clause.folded, h, branchTriples]

/-- A union that widens a triple has a branch whose predicate is no property. -/
lemma widenedTriple?_eq_some {bs : List Branch} {t : Triple} (h : widenedTriple? bs = some t) :
    ∃ t' steps, bs = [.single (.basic [t]), .single (.basic [t'])] ∧
      t'.predicate = .path (.sequence steps) := by
  unfold widenedTriple? at h
  split at h
  · rename_i first second
    split at h
    · split at h
      · rename_i hp hq
        split at h
        · cases h
          exact ⟨second, _, rfl, hq⟩
        · cases h
      · cases h
    · cases h
  · cases h

end GraphTalk.Sparql
