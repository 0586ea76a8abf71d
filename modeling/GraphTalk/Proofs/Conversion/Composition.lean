import Mathlib.Tactic.Common
import GraphTalk.Conversion.Generate

/-!
# Conversions are composed

A conversion asks a knowledge base for the words that entities are shown by and for their domains.
All else in it is composed: steps follow one another, or the conversion is refused for one of four
reasons (`Failure.IsRefusal`).

So a property of computations that composition keeps (`Composed`) holds of every conversion in which
it holds of these two questions (`Composed.convertQuery`).
-/

namespace GraphTalk.Conversion

open Rdf Sparql Knowledge

/-- The failures by which a conversion refuses a query. -/
inductive Failure.IsRefusal : Failure → Prop where
  | unsupported (reason : Unsupported) : IsRefusal (.unsupported reason)
  | ambiguousSubject (first second : String) : IsRefusal (.ambiguousSubject first second)
  | crossTable (subjects : List String) : IsRefusal (.crossTable subjects)
  | unresolvedLabel (entity : String) : IsRefusal (.unresolvedLabel entity)

/-! ### Refusals without questions -/

lemma sameSubject_refusal {s : String} {as : List Atom} {f : Failure}
    (h : sameSubject s as = .error f) : f.IsRefusal := by
  induction as with
  | nil => cases h
  | cons a as ih =>
    simp only [sameSubject] at h
    split at h
    · exact ih h
    · cases h
      exact .ambiguousSubject _ _

lemma foldHaving_refusal {ts : Tables} {c : HavingCondition} {f : Failure}
    (h : foldHaving ts c = .error f) : f.IsRefusal := by
  simp only [foldHaving] at h
  split at h
  · split at h
    · cases h
      exact .unsupported _
    · split at h
      · cases h
        exact .unsupported _
      · cases h
  · cases h
    exact .unsupported _

lemma foldHavings_refusal {ts : Tables} {cs : List HavingCondition} {f : Failure}
    (h : foldHavings ts cs = .error f) : f.IsRefusal := by
  induction cs generalizing ts with
  | nil => cases h
  | cons c cs ih =>
    simp only [foldHavings] at h
    split at h
    · rename_i g hc
      cases h
      exact foldHaving_refusal hc
    · exact ih h

lemma foldGroups_refusal {ts : Tables} {q : Query} {f : Failure}
    (h : foldGroups ts q = .error f) : f.IsRefusal := by
  simp only [foldGroups] at h
  split at h
  · cases h
    exact .unsupported _
  · exact foldHavings_refusal h

lemma single_refusal {ts : List Table} {f : Failure} (h : single ts = .error f) :
    f.IsRefusal := by
  simp only [single] at h
  split at h
  · cases h
    exact .unsupported _
  · cases h
  · cases h
    exact .crossTable _

lemma ordered_refusal {t : Table} {q : Query} {e : TableExpression} {f : Failure}
    (h : ordered t q e = .error f) : f.IsRefusal := by
  simp only [ordered] at h
  split at h
  · cases h
  · split at h
    · cases h
    · cases h
      exact .unsupported _
  · cases h
    exact .unsupported _

lemma generateAsk_refusal {ts : Tables} {f : Failure} (h : generateAsk ts = .error f) :
    f.IsRefusal := by
  simp only [generateAsk] at h
  split at h
  · rename_i g hsingle
    cases h
    exact single_refusal hsingle
  · split at h
    · cases h
      exact .unsupported _
    · split at h <;> cases h

lemma generateFrom_refusal {t : Table} {q : Query} {f : Failure}
    (h : generateFrom t q = .error f) : f.IsRefusal := by
  simp only [generateFrom] at h
  split at h
  · rename_i g hordered
    cases h
    exact ordered_refusal hordered
  · cases h

lemma generateSelect_refusal {ts : Tables} {q : Query} {f : Failure}
    (h : generateSelect ts q = .error f) : f.IsRefusal := by
  simp only [generateSelect] at h
  split at h
  · cases h
    exact .unsupported _
  · split at h
    · cases h
      exact .unsupported _
    · split at h
      · rename_i g hsingle
        cases h
        exact single_refusal hsingle
      · exact generateFrom_refusal h

lemma generate_refusal {c : Context} {q : Query} {f : Failure} (h : generate c q = .error f) :
    f.IsRefusal := by
  simp only [generate] at h
  split at h
  · cases he : generateAsk c.tables with
    | error g =>
      simp only [he, Except.map, Except.error.injEq] at h
      exact h ▸ generateAsk_refusal he
    | ok e => simp [he, Except.map] at h
  · cases he : generateSelect c.tables q with
    | error g =>
      simp only [he, Except.map, Except.error.injEq] at h
      exact h ▸ generateSelect_refusal he
    | ok e => simp [he, Except.map] at h

/-! ### Properties that composition keeps -/

variable {m : Type → Type} [Monad m]

lemma ofExcept_ok {ε α : Type} (a : α) :
    (ExceptT.mk (pure (.ok a)) : ExceptT ε m α) = pure a := rfl

/-- A property of computations that holds of results and refusals and that composition keeps. -/
structure Composed (P : ∀ ⦃α : Type⦄, ExceptT Failure m α → Prop) : Prop where
  pure {α : Type} (a : α) : P (pure a)
  bind {α β : Type} {x : ExceptT Failure m α} {g : α → ExceptT Failure m β} (hx : P x)
    (hg : ∀ a, P (g a)) : P (x >>= g)
  throw {α : Type} {f : Failure} (hf : f.IsRefusal) : P (throw f : ExceptT Failure m α)

/-- A property holds of all that a conversion asks a knowledge base. -/
structure Answered (P : ∀ ⦃α : Type⦄, ExceptT Failure m α → Prop) (sc : Scope m) : Prop where
  display (e : String) : P (display sc e)
  domain (e : String) : P (ask (sc.lookups.domain e))

namespace Composed

variable {P : ∀ ⦃α : Type⦄, ExceptT Failure m α → Prop} {α : Type} {sc : Scope m}

lemma refuse (hP : Composed P) (reason : Unsupported) :
    P (Conversion.refuse reason : ExceptT Failure m α) :=
  hP.throw (.unsupported reason)

lemma ofExcept (hP : Composed P) {r : Except Failure α} (hr : ∀ f, r = .error f → f.IsRefusal) :
    P (ExceptT.mk (Pure.pure r)) := by
  cases r with
  | ok a => exact hP.pure a
  | error f => exact hP.throw (hr f rfl)

lemma supported (hP : Composed P) (r : Except Unsupported α) : P (Conversion.supported r) := by
  cases r with
  | ok a => exact hP.pure a
  | error reason => exact hP.refuse reason

variable (hP : Composed P) (hsc : Answered P sc)

include hP hsc

lemma value (type : FieldType) (o : Term) : P (Conversion.value sc type o) := by
  simp only [Conversion.value]
  split
  · split
    · exact hP.throw (.unsupported _)
    · exact hP.bind (hsc.display _) fun _ => hP.pure _
  · split
    · exact hP.pure _
    · exact hP.throw (.unsupported _)

lemma atom (p : String) (o : Term) : P (Conversion.atom sc p o) := by
  simp only [Conversion.atom]
  split
  · exact hP.throw (.unsupported _)
  · exact hP.bind (hP.value hsc _ o) fun v => hP.pure _

lemma identity (e : String) : P (Conversion.identity sc e) :=
  hP.bind (hsc.display e) fun _ => hP.pure _

lemma newTable (s : String) : P (Conversion.newTable sc s) := by
  simp only [Conversion.newTable]
  split
  · exact hP.pure _
  · refine hP.bind (hsc.domain s) fun domain => ?_
    split
    · exact hP.pure _
    · exact hP.pure _

lemma openTable (ts : Tables) (s : String) : P (Conversion.openTable sc ts s) := by
  simp only [Conversion.openTable]
  split
  · exact hP.pure _
  · exact hP.bind (hP.newTable hsc s) fun t => hP.pure _

lemma attach (ts : Tables) (a : Atom) : P (Conversion.attach sc ts a) := by
  refine hP.bind (hP.openTable hsc ts a.subject) ?_
  rintro ⟨ts, t⟩
  simp only
  split
  · exact hP.bind (hP.supported _) fun t => hP.pure _
  · exact hP.pure _

lemma attachAll (ts : Tables) (as : List Atom) : P (Conversion.attachAll sc ts as) := by
  induction as generalizing ts with
  | nil => exact hP.pure ts
  | cons a as ih => exact hP.bind (hP.attach hsc ts a) ih

lemma openSubject (ts : Tables) (o : Term) (s : String) :
    P (Conversion.openSubject sc ts o s) := by
  refine hP.bind (hP.openTable hsc ts s) ?_
  rintro ⟨ts, t⟩
  simp only
  split
  · exact hP.pure _
  · exact hP.bind (hP.identity hsc s) fun i => hP.pure _

omit hsc in
lemma setType (t : Table) (o : Term) : P (Conversion.setType sc t o) := by
  simp only [Conversion.setType]
  split
  · exact hP.supported _
  · exact hP.refuse _

lemma foldTriple (ts : Tables) (tr : Triple) : P (Conversion.foldTriple sc ts tr) := by
  refine hP.bind (hP.supported _) fun s => ?_
  split
  · exact hP.refuse _
  · refine hP.bind (hP.openSubject hsc ts tr.subject s) ?_
    rintro ⟨ts, t⟩
    simp only
    split
    · split
      · exact hP.refuse _
      · exact hP.bind (hP.supported _) fun t => hP.pure _
    · split
      · exact hP.bind (hP.setType t _) fun t => hP.pure _
      · exact hP.bind (hP.atom hsc _ _) fun c => hP.pure _

lemma foldTriples (ts : Tables) (trs : List Triple) : P (Conversion.foldTriples sc ts trs) := by
  induction trs generalizing ts with
  | nil => exact hP.pure _
  | cons tr trs ih =>
    refine hP.bind (hP.foldTriple hsc ts tr) ?_
    rintro ⟨ts, a⟩
    exact hP.bind (ih ts) fun r => hP.pure _

lemma foldBasic (ts : Tables) (trs : List Triple) : P (Conversion.foldBasic sc ts trs) := by
  refine hP.bind (hP.foldTriples hsc ts trs) ?_
  rintro ⟨ts, as⟩
  exact hP.attachAll hsc ts as

lemma foldBranch (ts : Tables) (trs : List Triple) : P (Conversion.foldBranch sc ts trs) := by
  refine hP.bind (hP.foldTriples hsc ts trs) ?_
  rintro ⟨ts, as⟩
  cases as with
  | nil => exact hP.refuse _
  | cons a as => exact hP.pure _

lemma foldBranches (ts : Tables) (left right : List Triple) :
    P (Conversion.foldBranches sc ts left right) := by
  refine hP.bind (hP.foldBranch hsc ts left) ?_
  rintro ⟨ts, a, as⟩
  refine hP.bind (hP.ofExcept fun f => sameSubject_refusal) fun _ => ?_
  refine hP.bind (hP.foldBranch hsc ts right) ?_
  rintro ⟨ts, b, bs⟩
  exact hP.bind (hP.ofExcept fun f => sameSubject_refusal) fun _ => hP.attach hsc ts _

lemma foldUnion (ts : Tables) (bs : List Branch) : P (Conversion.foldUnion sc ts bs) := by
  simp only [Conversion.foldUnion]
  split
  · exact hP.foldBasic hsc ts _
  · split
    · exact hP.foldBranches hsc ts _ _
    · exact hP.refuse _

lemma foldClause (ts : Tables) (c : Clause) : P (Conversion.foldClause sc ts c) := by
  cases c with
  | basic trs => exact hP.foldBasic hsc ts trs
  | union bs => exact hP.foldUnion hsc ts bs
  | filter e => exact hP.refuse _

lemma foldClauses (ts : Tables) (cs : List Clause) : P (Conversion.foldClauses sc ts cs) := by
  induction cs generalizing ts with
  | nil => exact hP.pure ts
  | cons c cs ih => exact hP.bind (hP.foldClause hsc ts c) ih

omit hsc in
/-- What composition keeps and holds of the two questions holds of the whole conversion. -/
lemma convertQuery {settings : Settings} {lookups : Lookups m} {q : Query}
    {keywords : List String}
    (hsc : Answered P ⟨settings, lookups, Utterance.keywordSpans keywords, q.isQuestion⟩) :
    P (Conversion.convertQuery settings lookups q keywords) := by
  refine hP.bind ?_ fun c => hP.ofExcept fun f => generate_refusal
  refine hP.bind (hP.foldClauses hsc [] q.clauses) fun ts => ?_
  exact hP.bind (hP.ofExcept fun f => foldGroups_refusal) fun ts => hP.pure _

end Composed

end GraphTalk.Conversion
