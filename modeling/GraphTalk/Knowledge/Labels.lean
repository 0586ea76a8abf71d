import GraphTalk.Knowledge.Remote

/-!
# Labels of many entities

Labels are asked for in batches, and those that are found are kept in the cache. An entity that
comes back under another code is a redirection and is not kept.
-/

namespace GraphTalk.Knowledge

/-- How many entities can be asked for at once. -/
def batchSize : Nat := 50

/-- A list in batches of `n + 1` items; the last may be shorter. -/
def batches {α : Type} (n : Nat) : List α → List (List α)
  | [] => []
  | x :: xs => (x :: xs.take n) :: batches n (xs.drop n)
termination_by xs => xs.length
decreasing_by rw [List.length_drop, List.length_cons]; omega

/-- Batches hold every item once, in order. -/
@[simp] theorem flatten_batches {α : Type} (n : Nat) (xs : List α) :
    (batches n xs).flatten = xs := by
  fun_induction batches n xs with
  | case1 => rfl
  | case2 x xs ih => simp [ih, List.take_append_drop]

/-- Each code once, in the order of first occurrence. Texts that are no codes are left out. -/
def distinctCodes (codes : List String) : List String :=
  (codes.foldl (fun seen c => if seen.contains c then seen else seen ++ [c]) []).filter isCode

/-- Labels by code, in the order in which the codes were asked for. -/
abbrev LabelTable := List (String × Document)

/-- The labels of codes that the cache has, with the codes it does not have left empty. -/
def cachedLabels (c : Cache) (codes : List String) : LabelTable :=
  codes.map fun code => match c.labels.row? code with
    | some row => (code, columnDocument row.value)
    | none => (code, .null)

/-- The codes that the cache does not have. -/
def uncached (c : Cache) (codes : List String) : List String :=
  codes.filter fun code => (c.labels.row? code).isNone

/-- The label of an entity that may lack every part on the way to it. -/
def optionalLabel (entity : Document) : Except Document.Mismatch Document := do
  let labels := (← entity.memberD "labels" .null).orElse (.object [])
  let english := (← labels.memberD "en" .null).orElse (.object [])
  english.memberD "value" .null

/-- Whether an entity is the one that it was asked for as. -/
def isItself (code : String) (entity : Document) : Except Document.Mismatch Bool := do
  return (← entity.memberD "id" .null).same (.text code)

section

variable {σ : Type}

/-- Goes on unless a document does not fit. -/
def fitting {α : Type} (r : Except Document.Mismatch α) : Step σ α := ExceptT.mk (pure (reaching r))

/-- Writes a label into the cache, if a column can hold it. -/
def storeLabel (code : String) (label : Document) : Step σ Unit :=
  match columnText label with
  | .ok value => ExceptT.mk do
    store .labels { key := some code, value }
    return .ok ()
  | .error reason => throw (.unstorable reason)

/-- Takes the label of an entity over, unless it was not asked for or is a redirection. -/
def takeLabel (table : LabelTable) (code : String) (entity : Document) : Step σ LabelTable :=
  if (table.lookup code).isNone then return table
  else do
    if ← fitting (isItself code entity) then
      let label ← fitting (optionalLabel entity)
      storeLabel code label
      return setMember table code label
    else return table

/-- Takes the labels of entities over one after the other. -/
def takeLabels (table : LabelTable) : List (String × Document) → Step σ LabelTable
  | [] => return table
  | (code, entity) :: rest => do takeLabels (← takeLabel table code entity) rest

/-- Asks for the labels of one batch. -/
def askBatch (r : Remote σ) (table : LabelTable) (batch : List String) : Step σ LabelTable := do
  match ← request r.network (entitiesUrl batch .labels) with
  | none => return table
  | some d =>
    if ← fitting (d.holds "entities") then
      takeLabels table (← fitting do (← d.part "entities").members)
    else return table

/-- Asks for the labels of batches one after the other. -/
def askBatches (r : Remote σ) (table : LabelTable) : List (List String) → Step σ LabelTable
  | [] => return table
  | b :: bs => do askBatches r (← askBatch r table b) bs

/-- The labels of many entities: from the cache, and for the others in batches. -/
def Remote.labelsByBatch (r : Remote σ) (codes : List String) : Step σ LabelTable := do
  let codes := distinctCodes codes
  let cache := (← get).cache
  askBatches r (cachedLabels cache codes) (batches (batchSize - 1) (uncached cache codes))

end

end GraphTalk.Knowledge
