import Mathlib.Data.List.Forall2
import Mathlib.Tactic.Common

/-!
# Results that may be missing

How a computation that may fail succeeds, and which failure it has, when it is put together from
others.
-/

namespace GraphTalk

variable {α β γ ε : Type}

/-! ### Success -/

lemma bind_eq_ok_iff {x : Except ε α} {g : α → Except ε β} {b : β} :
    (x >>= g) = .ok b ↔ ∃ a, x = .ok a ∧ g a = .ok b := by
  cases x with
  | error e => simp [bind, Except.bind]
  | ok a => simp [bind, Except.bind]

lemma map_eq_ok_iff {x : Except ε α} {f : α → β} {b : β} :
    x.map f = .ok b ↔ ∃ a, x = .ok a ∧ f a = b := by
  cases x <;> simp [Except.map]

/-- Two results put together succeed if both do. -/
lemma combine_eq_ok_iff {x : Except ε α} {y : Except ε β} {f : α → β → γ} {c : γ} :
    (do return f (← x) (← y)) = .ok c ↔ ∃ a b, x = .ok a ∧ y = .ok b ∧ f a b = c := by
  simp only [bind_eq_ok_iff, pure, Except.pure, Except.ok.injEq]
  constructor
  · rintro ⟨a, ha, b, hb, rfl⟩
    exact ⟨a, b, ha, hb, rfl⟩
  · rintro ⟨a, b, ha, hb, rfl⟩
    exact ⟨a, ha, b, hb, rfl⟩

/-- A traversal succeeds exactly if it does at every item. -/
lemma mapM_eq_ok_iff {f : α → Except ε β} {as : List α} {bs : List β} :
    as.mapM f = .ok bs ↔ List.Forall₂ (fun a b => f a = .ok b) as bs := by
  induction as generalizing bs with
  | nil => simp [pure, Except.pure, eq_comm]
  | cons a as ih =>
    simp only [List.mapM_cons, bind_eq_ok_iff, ih, List.forall₂_cons_left_iff, pure, Except.pure,
      Except.ok.injEq]
    constructor
    · rintro ⟨b, hb, bs, hbs, rfl⟩
      exact ⟨b, bs, hb, hbs, rfl⟩
    · rintro ⟨b, bs, hb, hbs, rfl⟩
      exact ⟨b, hb, bs, hbs, rfl⟩

/-- What fails in one case only succeeds in all others. -/
lemma exists_eq_ok_iff {x : Except ε α} {P : Prop} {e : ε}
    (h : ∀ e', x = .error e' ↔ P ∧ e' = e) : (∃ a, x = .ok a) ↔ ¬ P := by
  cases x with
  | ok a =>
    have hP : ¬ P := fun hP => by simpa using (h e).mpr ⟨hP, rfl⟩
    simpa using hP
  | error e' =>
    have hP : P := ((h e').mp rfl).1
    simpa using hP

/-- To change what failures tell does not change successes. -/
lemma mapError_eq_ok_iff {ε' : Type} {x : Except ε α} {f : ε → ε'} {a : α} :
    x.mapError f = .ok a ↔ x = .ok a := by
  cases x <;> simp [Except.mapError]

/-! ### Failure -/

lemma mapError_eq_error_iff {ε' : Type} {x : Except ε α} {f : ε → ε'} {e : ε'} :
    x.mapError f = .error e ↔ ∃ e', x = .error e' ∧ f e' = e := by
  cases x <;> simp [Except.mapError]

/-- Why a result is missing. -/
def failure? : Except ε α → Option ε
  | .ok _ => none
  | .error e => some e

lemma failure?_eq_none_iff {x : Except ε α} : failure? x = none ↔ ∃ a, x = .ok a := by
  cases x <;> simp [failure?]

lemma failure?_eq_some_iff {x : Except ε α} {e : ε} : failure? x = some e ↔ x = .error e := by
  cases x <;> simp [failure?]

lemma failure?_map (x : Except ε α) (f : α → β) : failure? (x.map f) = failure? x := by
  cases x <;> rfl

/-- Of two results put together the first failure counts. -/
lemma failure?_combine (x : Except ε α) (y : Except ε β) (f : α → β → γ) :
    failure? (do return f (← x) (← y)) = (failure? x).or (failure? y) := by
  cases x with
  | error e => rfl
  | ok a => cases y <;> rfl

end GraphTalk
