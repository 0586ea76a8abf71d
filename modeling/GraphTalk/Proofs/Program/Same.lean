import Mathlib.Tactic.Common
import GraphTalk.Program.Basic

/-!
# Equality by value

Conditions are equal if they have the same shape and their values are equal, numbers by what they
stand for. A condition is equal to itself unless a number in it is not one.
-/

namespace GraphTalk

lemma Number.same_self {n : Number} (h : n ≠ .float .nan) : n.same n = true := by
  cases n with
  | int n => simp [same, toRat?]
  | float x =>
    cases x with
    | nan => exact absurd rfl h
    | infinity negative => simp [same]
    | finite negative mantissa exponent => simp [same, toRat?, Double.toRat?]

namespace Condition

lemma sameAll_self {cs : List Condition} (h : ∀ c ∈ cs, c.same c = true) :
    sameAll cs cs = true := by
  induction cs with
  | nil => simp [sameAll]
  | cons c cs ih =>
    obtain ⟨hc, hcs⟩ := List.forall_mem_cons.mp h
    simp [sameAll, hc, ih hcs]

lemma same_conj_self {c : Condition} {cs : List Condition} (h : ∀ d ∈ c :: cs, d.same d = true) :
    (conj c cs).same (conj c cs) = true := by
  unfold conj
  split
  · exact h c (by simp)
  · rw [same]
    exact sameAll_self h

/-- In lists of equal conditions, every condition of one list has an equal one in the other. -/
lemma exists_same_of_sameAll {cs ds : List Condition} (h : sameAll cs ds = true) :
    (∀ c ∈ cs, ∃ d ∈ ds, c.same d = true) ∧ ∀ d ∈ ds, ∃ c ∈ cs, c.same d = true := by
  induction cs generalizing ds with
  | nil =>
    cases ds with
    | nil => simp
    | cons d ds => simp [sameAll] at h
  | cons c cs ih =>
    cases ds with
    | nil => simp [sameAll] at h
    | cons d ds =>
      simp only [sameAll, Bool.and_eq_true] at h
      obtain ⟨hleft, hright⟩ := ih h.2
      constructor
      · intro c' hc'
        rcases List.mem_cons.mp hc' with rfl | hc'
        · exact ⟨d, by simp, h.1⟩
        · obtain ⟨d', hd', hsame⟩ := hleft c' hc'
          exact ⟨d', List.mem_cons_of_mem _ hd', hsame⟩
      · intro d' hd'
        rcases List.mem_cons.mp hd' with rfl | hd'
        · exact ⟨c, by simp, h.1⟩
        · obtain ⟨c', hc', hsame⟩ := hright d' hd'
          exact ⟨c', List.mem_cons_of_mem _ hc', hsame⟩

/-- What equals a disjunction of two conditions is one of two equal conditions. -/
lemma same_any_pair {c l r : Condition} (h : c.same (.any [l, r]) = true) :
    ∃ l' r', c = .any [l', r'] ∧ l'.same l = true ∧ r'.same r = true := by
  cases c with
  | any cs =>
    match cs with
    | [] => simp [same, sameAll] at h
    | [l'] => simp [same, sameAll] at h
    | [l', r'] =>
      simp only [same, sameAll, Bool.and_true, Bool.and_eq_true] at h
      exact ⟨l', r', rfl, h⟩
    | l' :: r' :: d :: ds => simp [same, sameAll] at h
  | _ => simp [same] at h

end Condition

end GraphTalk
