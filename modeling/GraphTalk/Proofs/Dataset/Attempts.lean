import Mathlib
import GraphTalk.Dataset.Batch
import GraphTalk.Proofs.Conversion.Atlas
import GraphTalk.Proofs.Knowledge.Calls
import GraphTalk.Proofs.Result

/-!
# Attempts at examples

To convert an example is to attempt its program and then to settle what becomes of the example. The
attempts of a run follow each other, since each finds the knowledge base as the ones before have
left it. The outcomes of the run are settled from them, one by one, up to the first that cannot be
settled (`convertAll_run`).
-/

namespace GraphTalk.Dataset

open Conversion Knowledge

/-! ### Traversals -/

section

variable {α β : Type}

/-- Items have partners if and only if each of them has one. -/
lemma exists_forall₂_iff {R : α → β → Prop} {as : List α} :
    (∃ bs, List.Forall₂ R as bs) ↔ ∀ a ∈ as, ∃ b, R a b := by
  induction as with
  | nil => simp
  | cons a as ih =>
    rw [List.forall_mem_cons, ← ih]
    simp only [List.forall₂_cons_left_iff]
    constructor
    · rintro ⟨_, b, bs, hb, hbs, rfl⟩
      exact ⟨⟨b, hb⟩, bs, hbs⟩
    · rintro ⟨⟨b, hb⟩, bs, hbs⟩
      exact ⟨_, b, bs, hb, hbs, rfl⟩

end

/-! ### Examples -/

/-- An outcome is that of an example: a row has its id and its wording with single spaces, and a
record repeats its id, its wording and its query. -/
def Outcome.IsOf (e : Example) : Outcome → Prop
  | .row id utterance _ => id = e.id ∧
    ∃ u, e.utterance = .text u ∧ utterance = Text.joinWords (Text.words u)
  | .dropped d => d.id = e.id ∧ d.utterance = e.utterance ∧ d.sparql = e.sparql

/-- What an attempt at the program of an example comes to. With a failure stands whether the
knowledge base was failing meanwhile. -/
abbrev Attempt := Except (Failure × Bool) Program

/-- What becomes of an example after an attempt at its program. -/
def settle (e : Example) : Attempt → Except Document.Mismatch Outcome
  | .ok p => e.utterance.asText.map (convertedRow e.id p)
  | .error (f, unavailable) => .ok (.dropped
    { id := e.id, utterance := e.utterance, sparql := e.sparql, failure := f
      kind := classify f unavailable })

/-- An example that has a program is settled with its row, which takes a wording. -/
lemma settle_ok_eq_ok_iff {e : Example} {p : Program} {o : Outcome} :
    settle e (.ok p) = .ok o ↔ ∃ u, e.utterance = .text u ∧ o = convertedRow e.id p u := by
  cases h : e.utterance <;> simp [settle, h, Document.asText, Except.map, eq_comm]

/-- Only the outcome of an example that has a program but no wording cannot be settled. -/
lemma exists_settle_iff {e : Example} {r : Attempt} :
    (∃ o, settle e r = .ok o) ↔ (∃ u, e.utterance = .text u) ∨ ∃ f, r = .error f := by
  cases r with
  | error f => simp [settle]
  | ok p => simp [settle_ok_eq_ok_iff]

section

variable {m : Type → Type} [Monad m] {settings : Settings} {source : Source m} {e : Example}

/-- Attempts the program of an example. -/
def attempt (settings : Settings) (source : Source m) (e : Example) : m Attempt := do
  let before ← source.failureCount
  match ← (program settings source.lookups e).run with
  | .ok p => return .ok p
  | .error f =>
    let after ← source.failureCount
    return .error (f, before < after)

lemma convertExample_eq [LawfulMonad m] :
    convertExample settings source e = settle e <$> attempt settings source e := by
  simp only [convertExample, attempt, map_bind]
  refine bind_congr fun before => bind_congr fun result => ?_
  cases result with
  | ok p => simp [settle]
  | error f => simp [settle]

end

/-! ### Runs -/

section

variable {S : Type} {settings : Settings} {source : Source (StateM S)} {s : S} {e : Example}
  {es : List Example} {xs : List (Example × Attempt)} {os : List Outcome}

/-- Examples with the attempts at them, one after the other from a state of the knowledge base
on. -/
def attempts (settings : Settings) (source : Source (StateM S)) (s : S) :
    List Example → List (Example × Attempt)
  | [] => []
  | e :: es =>
    let run := (attempt settings source e).run s
    (e, run.1) :: attempts settings source run.2 es

lemma map_fst_attempts (settings : Settings) (source : Source (StateM S)) (s : S)
    (es : List Example) : (attempts settings source s es).map Prod.fst = es := by
  induction es generalizing s with
  | nil => rfl
  | cons e es ih => rw [attempts, List.map_cons, ih]

/-- Every attempt is at one of the examples, in some state of the knowledge base. -/
lemma exists_of_mem_attempts {x : Example × Attempt} (h : x ∈ attempts settings source s es) :
    x.1 ∈ es ∧ ∃ s', x.2 = ((attempt settings source x.1).run s').1 := by
  induction es generalizing s with
  | nil => simp [attempts] at h
  | cons e es ih =>
    rcases List.mem_cons.mp h with rfl | h
    · exact ⟨List.mem_cons_self, s, rfl⟩
    · obtain ⟨he, hs⟩ := ih h
      exact ⟨List.mem_cons_of_mem e he, hs⟩

/-- What becomes of examples after the attempts at them. -/
def settleAll (xs : List (Example × Attempt)) : Except Document.Mismatch (List Outcome) :=
  xs.mapM fun x => settle x.1 x.2

lemma settleAll_eq_ok_iff :
    settleAll xs = .ok os ↔ List.Forall₂ (fun x o => settle x.1 x.2 = .ok o) xs os :=
  mapM_eq_ok_iff

lemma exists_settleAll_iff :
    (∃ os, settleAll xs = .ok os) ↔
      ∀ x ∈ xs, (∃ u, x.1.utterance = .text u) ∨ ∃ f, x.2 = .error f := by
  simp only [settleAll_eq_ok_iff, exists_forall₂_iff, exists_settle_iff]

/-- What a run comes to is settled from its attempts. -/
theorem convertAll_run :
    ((convertAll settings source es).run s).1 = settleAll (attempts settings source s es) := by
  induction es generalizing s with
  | nil => rfl
  | cons e es ih =>
    have hrun : (settle e <$> attempt settings source e).run s =
        (settle e ((attempt settings source e).run s).1,
          ((attempt settings source e).run s).2) := rfl
    rw [attempts, settleAll, List.mapM_cons, ← settleAll, ← ih, convertAll, convertExample_eq,
      run_bind_of_run hrun]
    cases settle e ((attempt settings source e).run s).1 with
    | error f => rfl
    | ok o => rfl

end

/-! ### All countries -/

namespace Atlas

open Conversion.Atlas Sparql

/-- The names of places, always at hand. -/
def source : Source (StateM Unit) where
  lookups := .pure name? (fun _ => []) fun _ => none
  failureCount := pure 0

/-- A question for all countries, in whatever words. -/
def countries (utterance : Document) : Example where
  id := "1"
  utterance
  sparql := .text "SELECT ?x WHERE { ?x wdt:P31 wd:Q6256 }"
  keywords := [.text "countries"]

lemma parse_countries :
    Query.parse defaultNamespaces "SELECT ?x WHERE { ?x wdt:P31 wd:Q6256 }" =
      .ok { kind := .select, vars := ["x"]
            clauses := [.basic [fact (.variable "x") "P31" "Q6256"]] } := by
  cbv

/-- Whatever the words are, the question is converted. -/
lemma attempts_countries (utterance : Document) :
    attempts settings source () [countries utterance] =
      [(countries utterance, .ok ⟨baseTable "country"⟩)] := by
  have hprogram : program settings source.lookups (countries utterance) =
      pure ⟨baseTable "country"⟩ := by
    simp only [program, countries, readQuery, parse_countries]
    rfl
  rw [attempts, attempt, hprogram]
  rfl

end Atlas

end GraphTalk.Dataset
