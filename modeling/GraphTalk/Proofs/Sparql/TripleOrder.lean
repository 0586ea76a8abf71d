import Mathlib.Tactic.Common
import GraphTalk.Sparql.TripleOrder

/-!
# The triples of an ordered pattern

A pattern that is put in order keeps its triples, each as often as it had it (`reorder_perm`).
-/

namespace GraphTalk.Rdf

/-! ### Sorted ranks -/

lemma insertRank_perm (r : Rank) (rs : List Rank) : (insertRank r rs).Perm (r :: rs) := by
  induction rs with
  | nil => exact .refl _
  | cons s rest ih =>
    rw [insertRank]
    split
    · exact .refl _
    · exact (ih.cons s).trans (.swap r s rest)

lemma sortRanks_perm (rs : List Rank) : (sortRanks rs).Perm rs := by
  suffices h : ∀ sorted : List Rank,
      (rs.foldl (fun sorted r => insertRank r sorted) sorted).Perm (sorted ++ rs) from h []
  induction rs with
  | nil => intro sorted; rw [List.append_nil]; exact .refl _
  | cons r rs ih =>
    intro sorted
    exact (ih _).trans (((insertRank_perm r sorted).append_right rs).trans List.perm_middle.symm)

/-! ### Patterns -/

lemma map_triple_rank (all known : List Unknown) (ts : List Triple) :
    (ts.map (Triple.rank all known)).map Rank.triple = ts := by
  rw [List.map_map]
  apply List.map_id''
  intro t
  rfl

lemma reorderFrom_perm (all : List Unknown) (fuel : Nat) (known : List Unknown)
    (ts : List Triple) : (reorderFrom all fuel known ts).Perm ts := by
  induction fuel generalizing known ts with
  | zero => exact .refl _
  | succ fuel ih =>
    have hsorted := (sortRanks_perm (ts.map (Triple.rank all known))).map Rank.triple
    rw [map_triple_rank] at hsorted
    rw [reorderFrom]
    split
    · rename_i hnil
      rwa [hnil] at hsorted
    · rename_i first rest hcons
      rw [hcons, List.map_cons] at hsorted
      exact ((ih _ _).cons first.triple).trans hsorted

/-- The order of a pattern keeps its triples. -/
lemma reorder_perm (ts : List Triple) : (reorder ts).Perm ts := reorderFrom_perm _ _ _ _

end GraphTalk.Rdf
