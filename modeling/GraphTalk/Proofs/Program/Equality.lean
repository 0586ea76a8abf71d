import Mathlib.Data.List.Forall2
import GraphTalk.Proofs.Program.Same

/-!
# Equal conditions

Two conditions are equal if they have the same shape, names and texts, and each number has the same
value in both, whether it is an integer or a double (`Condition.Equal`). This is what the comparison
of conditions decides (`Condition.same_iff_equal`). Equality is symmetric, and a condition is equal
to itself unless a number in it is not one (`Condition.Definite.equal_self`).
-/

namespace GraphTalk

/-! ### Numbers and values -/

/-- Numbers are equal: the same infinity, or finite numbers of one value. -/
inductive Number.Equal : Number → Number → Prop where
  | infinite (negative : Bool) :
      Equal (.float (.infinity negative)) (.float (.infinity negative))
  | finite {m n : Number} {q : Rat} (hm : m.toRat? = some q) (hn : n.toRat? = some q) : Equal m n

/-- Values are equal: the same entity or text, or equal numbers. -/
inductive Value.Equal : Value → Value → Prop where
  | refl {v : Value} (h : ∀ n, v ≠ .number n) : Equal v v
  | number {m n : Number} (h : m.Equal n) : Equal (.number m) (.number n)

lemma Number.Equal.symm {m n : Number} (h : m.Equal n) : n.Equal m := by
  cases h with
  | infinite negative => exact .infinite negative
  | finite hm hn => exact .finite hn hm

lemma Number.same_iff_equal {m n : Number} : m.same n = true ↔ m.Equal n := by
  constructor
  · intro h
    unfold same at h
    split at h
    · rw [beq_iff_eq] at h
      exact h ▸ .infinite _
    · split at h
      · rename_i hm hn
        rw [beq_iff_eq] at h
        exact .finite hm (h ▸ hn)
      · cases h
  · intro h
    cases h with
    | infinite negative => simp [same]
    | finite hm hn =>
      unfold same
      split
      · cases hm
      · rw [hm, hn]
        exact beq_self_eq_true _

lemma Value.Equal.symm {v w : Value} (h : v.Equal w) : w.Equal v := by
  cases h with
  | refl h => exact .refl h
  | number h => exact .number h.symm

lemma Value.same_iff_equal {v w : Value} : v.same w = true ↔ v.Equal w := by
  constructor
  · intro h
    unfold same at h
    split at h
    · exact .number (Number.same_iff_equal.mp h)
    · cases h
    · cases h
    · rename_i hleft hright
      rw [beq_iff_eq] at h
      subst h
      exact .refl hleft
  · intro h
    cases h with
    | refl h =>
      unfold same
      split
      · exact absurd rfl (h _)
      · exact absurd rfl (h _)
      · exact absurd rfl (h _)
      · exact beq_self_eq_true _
    | number h => exact Number.same_iff_equal.mpr h

/-! ### Conditions -/

namespace Condition

/-- Conditions are equal: the same but for numbers, which are equal. -/
inductive Equal : Condition → Condition → Prop where
  | atom {field operator : String} {v w : Value} (h : v.Equal w) :
      Equal (.atom field operator v) (.atom field operator w)
  | all {cs ds : List Condition} (h : List.Forall₂ Equal cs ds) : Equal (.all cs) (.all ds)
  | any {cs ds : List Condition} (h : List.Forall₂ Equal cs ds) : Equal (.any cs) (.any ds)
  | aggregate {function field operator : String} {m n : Number} (h : m.Equal n) :
      Equal (.aggregate function field operator m) (.aggregate function field operator n)

mutual

lemma same_iff_equal {c d : Condition} : c.same d = true ↔ c.Equal d := by
  match c with
  | .atom field operator v =>
    constructor
    · intro h
      cases d with
      | atom =>
        simp only [same, Bool.and_eq_true, beq_iff_eq, Value.same_iff_equal] at h
        obtain ⟨⟨rfl, rfl⟩, h⟩ := h
        exact .atom h
      | _ => cases h
    · intro h
      cases h with
      | atom h => simp [same, Value.same_iff_equal.mpr h]
  | .aggregate function field operator n =>
    constructor
    · intro h
      cases d with
      | aggregate =>
        simp only [same, Bool.and_eq_true, beq_iff_eq, Number.same_iff_equal] at h
        obtain ⟨⟨⟨rfl, rfl⟩, rfl⟩, h⟩ := h
        exact .aggregate h
      | _ => cases h
    · intro h
      cases h with
      | aggregate h => simp [same, Number.same_iff_equal.mpr h]
  | .all cs =>
    constructor
    · intro h
      cases d with
      | all ds => exact .all (sameAll_iff_equal.mp h)
      | _ => cases h
    · intro h
      cases h with
      | all h => exact sameAll_iff_equal.mpr h
  | .any cs =>
    constructor
    · intro h
      cases d with
      | any ds => exact .any (sameAll_iff_equal.mp h)
      | _ => cases h
    · intro h
      cases h with
      | any h => exact sameAll_iff_equal.mpr h

lemma sameAll_iff_equal {cs ds : List Condition} :
    sameAll cs ds = true ↔ List.Forall₂ Equal cs ds := by
  match cs, ds with
  | [], [] => simp [sameAll]
  | [], d :: ds => simp [sameAll]
  | c :: cs, [] => simp [sameAll]
  | c :: cs, d :: ds =>
    rw [sameAll, Bool.and_eq_true, List.forall₂_cons, same_iff_equal, sameAll_iff_equal]

end

mutual

lemma Equal.symm {c d : Condition} (h : c.Equal d) : d.Equal c := by
  match c, h with
  | _, .atom h => exact .atom h.symm
  | _, .aggregate h => exact .aggregate h.symm
  | .all _, .all h => exact .all (forall₂_equal_symm h)
  | .any _, .any h => exact .any (forall₂_equal_symm h)

lemma forall₂_equal_symm {cs ds : List Condition} (h : List.Forall₂ Equal cs ds) :
    List.Forall₂ Equal ds cs := by
  match cs, h with
  | [], .nil => exact .nil
  | _ :: _, .cons hc hcs => exact .cons hc.symm (forall₂_equal_symm hcs)

end

end Condition

/-! ### Conditions without undefined numbers -/

/-- A value is no number, or one that is defined. -/
def Value.Definite (v : Value) : Prop := v ≠ .number (.float .nan)

namespace Condition

/-- Every number of a condition is defined. -/
inductive Definite : Condition → Prop where
  | atom {field operator : String} {v : Value} (h : v.Definite) :
      Definite (.atom field operator v)
  | all {cs : List Condition} (h : ∀ c ∈ cs, Definite c) : Definite (.all cs)
  | any {cs : List Condition} (h : ∀ c ∈ cs, Definite c) : Definite (.any cs)
  | aggregate {function field operator : String} {n : Number} (h : n ≠ .float .nan) :
      Definite (.aggregate function field operator n)

/-- A condition whose numbers are defined is equal to itself. -/
lemma Definite.equal_self {c : Condition} (h : c.Definite) : c.Equal c := by
  induction h with
  | @atom field operator v h =>
    refine .atom ?_
    cases v with
    | number n =>
      have hn : n ≠ .float .nan := by simpa [Value.Definite] using h
      exact .number (Number.same_iff_equal.mp (Number.same_self hn))
    | _ => exact .refl nofun
  | all _ ih => exact .all (List.forall₂_same.mpr ih)
  | any _ ih => exact .any (List.forall₂_same.mpr ih)
  | aggregate h => exact .aggregate (Number.same_iff_equal.mp (Number.same_self h))

end Condition

end GraphTalk
