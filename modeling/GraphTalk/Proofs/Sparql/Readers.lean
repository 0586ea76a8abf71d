import Mathlib.Data.Option.Basic
import Mathlib.Tactic.Common
import GraphTalk.Sparql.Grammar.Basic

/-!
# What readers find

What a reader finds has a property if what its parts find has one that leads to it. There is one
lemma for each way in which readers are put together.
-/

namespace GraphTalk.Sparql.Reader

variable {α β : Type} {P : α → Prop} {Q : β → Prop} {p q : Reader α}

/-- What a reader finds has a property. -/
def Yields (p : Reader α) (P : α → Prop) : Prop := ∀ c a c', p c = some (a, c') → P a

namespace Yields

lemma any (p : Reader α) : p.Yields fun _ => True := fun _ _ _ _ => trivial

lemma failure : (failure : Reader α).Yields P := nofun

lemma pure {a : α} (h : P a) : (pure a : Reader α).Yields P := by
  intro c b c' hb
  obtain ⟨rfl, -⟩ := Prod.mk.inj (Option.some.inj hb)
  exact h

lemma bind {k : α → Reader β} (hp : p.Yields P) (hk : ∀ a, P a → (k a).Yields Q) :
    (p >>= k).Yields Q := by
  intro c b c' hb
  obtain ⟨⟨a, d⟩, ha, hb⟩ := Option.bind_eq_some_iff.mp hb
  exact hk a (hp c a d ha) d b c' hb

/-- What is found first does not matter. -/
lemma andThen {k : β → Reader α} {q : Reader β} (hk : ∀ b, (k b).Yields P) :
    (q >>= k).Yields P :=
  (any q).bind fun b _ => hk b

lemma map {f : α → β} (hp : p.Yields P) (hf : ∀ a, P a → Q (f a)) : (f <$> p).Yields Q := by
  rw [map_eq_pure_bind]
  exact hp.bind fun a ha => pure (hf a ha)

lemma orElse (hp : p.Yields P) (hq : q.Yields P) : (p <|> q).Yields P := by
  intro c a c' ha
  rcases (Option.orElse_eq_some _ _ _).mp ha with ha | ⟨-, ha⟩
  · exact hp c a c' ha
  · exact hq c a c' ha

lemma firstOf {ps : List (Reader α)} (h : ∀ p ∈ ps, p.Yields P) : (firstOf ps).Yields P := by
  induction ps with
  | nil => exact failure
  | cons p ps ih =>
    obtain ⟨hp, hps⟩ := List.forall_mem_cons.mp h
    exact hp.orElse (ih hps)

lemma maybe (hp : p.Yields P) : (maybe p).Yields fun found => ∀ a ∈ found, P a :=
  (hp.map fun a ha => by simpa using ha).orElse (pure (by simp))

lemma upTo (hp : p.Yields P) (n : Nat) : (upTo n p).Yields fun as => ∀ a ∈ as, P a := by
  induction n with
  | zero => exact pure (by simp)
  | succ n ih =>
    refine (hp.bind fun a ha => ih.bind fun as has => pure ?_).orElse (pure (by simp))
    exact List.forall_mem_cons.mpr ⟨ha, has⟩

lemma many (hp : p.Yields P) : (many p).Yields fun as => ∀ a ∈ as, P a :=
  fun c => hp.upTo c.rest.length c

lemma some1 (hp : p.Yields P) : (some1 p).Yields fun as => ∀ a ∈ as, P a :=
  hp.bind fun _ ha => hp.many.bind fun _ has => pure (List.forall_mem_cons.mpr ⟨ha, has⟩)

lemma separatedBy (hp : p.Yields P) (mark : Reader Unit) :
    (separatedBy mark p).Yields fun as => ∀ a ∈ as, P a :=
  hp.bind fun _ ha => (many (andThen fun _ => hp)).bind fun _ has =>
    pure (List.forall_mem_cons.mpr ⟨ha, has⟩)

lemma separated (hp : p.Yields P) (mark : String) :
    (separated mark p).Yields fun as => ∀ a ∈ as, P a :=
  hp.separatedBy (symbol mark)

lemma between (hp : p.Yields P) (opening closing : String) :
    (between opening closing p).Yields P :=
  andThen fun _ => hp.bind fun _ ha => andThen fun _ => pure ha

end Yields

end GraphTalk.Sparql.Reader
