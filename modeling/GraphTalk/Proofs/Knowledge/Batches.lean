import GraphTalk.Proofs.Knowledge.Labels

/-!
# Labels in batches

The entities that a reply tells about are taken over one after the other (`LabelTaken`,
`LabelsTaken`). So a lookup of many labels asks for the codes without a row of labels, each once and
in batches that are full but for the last, and only entities that were told under their own code
supply labels (`labelsByBatch_asks_once`).
-/

namespace GraphTalk.Knowledge

/-! ### Batches -/

section

variable {α : Type} {n : Nat} {items batch : List α}

lemma length_of_mem_batches (h : batch ∈ batches n items) :
    1 ≤ batch.length ∧ batch.length ≤ n + 1 := by
  fun_induction batches n items with
  | case1 => cases h
  | case2 x items ih =>
    rcases List.mem_cons.mp h with rfl | h
    · rw [List.length_cons, List.length_take]
      omega
    · exact ih h

/-- Every batch but the last is full. -/
lemma length_of_mem_dropLast_batches (h : batch ∈ (batches n items).dropLast) :
    batch.length = n + 1 := by
  fun_induction batches n items with
  | case1 => cases h
  | case2 x items ih =>
    cases hrest : batches n (items.drop n) with
    | nil =>
      rw [hrest] at h
      cases h
    | cons first rest =>
      -- something is left for another batch, so this one is full
      have hlong : n < items.length := by
        by_contra hshort
        rw [List.drop_of_length_le (not_lt.mp hshort), batches] at hrest
        cases hrest
      rw [hrest, List.dropLast_cons_cons, ← hrest] at h
      rcases List.mem_cons.mp h with rfl | h
      · rw [List.length_cons, List.length_take, Nat.min_eq_left hlong.le]
      · exact ih h

end

/-- Texts are seen one after the other: those that were not seen before, each once. -/
lemma foldl_seen_eq (codes seen : List String) :
    codes.foldl (fun seen c => if seen.contains c then seen else seen ++ [c]) seen =
      seen ++ (codes.filter fun c => !seen.contains c).eraseDups := by
  induction codes generalizing seen with
  | nil => simp
  | cons c codes ih =>
    rw [List.foldl_cons, ih, List.filter_cons]
    cases hc : seen.contains c with
    | true => simp
    | false =>
      simp only [Bool.false_eq_true, if_false, Bool.not_false, if_true, List.eraseDups_cons,
        List.filter_filter, List.append_assoc, List.singleton_append]
      congr 3
      refine List.filter_congr fun d _ => ?_
      by_cases hdc : d = c
      · simp [hdc]
      · simp [hdc]

/-- The codes among texts, each once in the order of first occurrence. -/
lemma distinctCodes_eq (codes : List String) :
    distinctCodes codes = codes.eraseDups.filter isCode := by
  rw [distinctCodes, foldl_seen_eq]
  simp

/-! ### Entities that are taken over -/

/-- The label of an entity that was told under a code is taken over into a table and into rows,
unless the code was not asked for or the entity is another one. -/
inductive LabelTaken (code : String) (entity : Document) :
    LabelTable → Rows → LabelTable → Rows → Prop where
  | skipped {table : LabelTable} {rows : Rows}
      (h : table.lookup code = none ∨ isItself code entity = .ok false) :
      LabelTaken code entity table rows table rows
  | taken {table : LabelTable} {rows : Rows} {label : Document} {value : Option String}
      (hcode : table.lookup code ≠ none) (hitself : isItself code entity = .ok true)
      (hlabel : optionalLabel entity = .ok label) (hvalue : columnText label = .ok value) :
      LabelTaken code entity table rows (setMember table code label)
        (rows.insert ⟨some code, value⟩)

/-- The labels of entities are taken over one after the other. -/
inductive LabelsTaken :
    List (String × Document) → LabelTable → Rows → LabelTable → Rows → Prop where
  | nil {table : LabelTable} {rows : Rows} : LabelsTaken [] table rows table rows
  | cons {code : String} {entity : Document} {rest : List (String × Document)}
      {table table₁ table₂ : LabelTable} {rows rows₁ rows₂ : Rows}
      (h : LabelTaken code entity table rows table₁ rows₁)
      (hrest : LabelsTaken rest table₁ rows₁ table₂ rows₂) :
      LabelsTaken ((code, entity) :: rest) table rows table₂ rows₂

/-- A session with other rows of labels. -/
def Session.withLabels {σ : Type} (s : Session σ) (rows : Rows) : Session σ :=
  { s with cache := { s.cache with labels := rows } }

section

variable {σ : Type} {s s' : Session σ} {table table' : LabelTable} {code : String}
  {entity : Document}

lemma run_storeLabel_eq_ok_iff {label : Document} :
    (storeLabel code label : Step σ Unit).run.run s = (.ok (), s') ↔
      ∃ value, columnText label = .ok value ∧
        s' = s.withLabels (s.cache.labels.insert ⟨some code, value⟩) := by
  rw [storeLabel]
  cases hvalue : columnText label with
  | error reason =>
    refine iff_of_false (fun h => ?_) (by simp)
    cases h
  | ok value =>
    constructor
    · intro h
      cases h
      exact ⟨value, rfl, rfl⟩
    · rintro ⟨_, h, rfl⟩
      cases h
      rfl

/-- Taking one label over returns in the two ways of `LabelTaken`, and changes nothing but
labels. -/
lemma run_takeLabel_eq_ok_iff :
    (takeLabel table code entity : Step σ LabelTable).run.run s = (.ok table', s') ↔
      ∃ rows, LabelTaken code entity table s.cache.labels table' rows ∧
        s' = s.withLabels rows := by
  simp only [takeLabel, Option.isNone_iff_eq_none]
  split
  · rename_i hnone
    rw [run_pure_eq_ok_iff]
    constructor
    · rintro ⟨rfl, rfl⟩
      exact ⟨_, .skipped (.inl hnone), rfl⟩
    · rintro ⟨rows, htaken, rfl⟩
      cases htaken with
      | skipped => exact ⟨rfl, rfl⟩
      | taken hcode => exact absurd hnone hcode
  · rename_i hcode
    simp only [run_bind_eq_ok_iff, run_fitting_eq_ok_iff]
    constructor
    · rintro ⟨itself, s₁, ⟨hitself, rfl⟩, h⟩
      cases itself with
      | false =>
        obtain ⟨rfl, rfl⟩ := run_pure_eq_ok_iff.mp h
        exact ⟨_, .skipped (.inr hitself), rfl⟩
      | true =>
        simp only [if_true, run_bind_eq_ok_iff, run_fitting_eq_ok_iff, run_pure_eq_ok_iff] at h
        obtain ⟨label, _, ⟨hlabel, rfl⟩, ⟨⟩, _, hstore, rfl, rfl⟩ := h
        obtain ⟨value, hvalue, rfl⟩ := run_storeLabel_eq_ok_iff.mp hstore
        exact ⟨_, .taken hcode hitself hlabel hvalue, rfl⟩
    · rintro ⟨rows, htaken, rfl⟩
      cases htaken with
      | skipped h =>
        exact ⟨false, s, ⟨h.resolve_left hcode, rfl⟩, run_pure_eq_ok_iff.mpr ⟨rfl, rfl⟩⟩
      | taken _ hitself hlabel hvalue =>
        refine ⟨true, s, ⟨hitself, rfl⟩, ?_⟩
        simp only [if_true, run_bind_eq_ok_iff, run_fitting_eq_ok_iff, run_pure_eq_ok_iff]
        exact ⟨_, s, ⟨hlabel, rfl⟩, (), _, run_storeLabel_eq_ok_iff.mpr ⟨_, hvalue, rfl⟩, rfl, rfl⟩

lemma run_takeLabels_eq_ok_iff {entities : List (String × Document)} :
    (takeLabels table entities : Step σ LabelTable).run.run s = (.ok table', s') ↔
      ∃ rows, LabelsTaken entities table s.cache.labels table' rows ∧ s' = s.withLabels rows := by
  induction entities generalizing table s with
  | nil =>
    rw [takeLabels, run_pure_eq_ok_iff]
    constructor
    · rintro ⟨rfl, rfl⟩
      exact ⟨_, .nil, rfl⟩
    · rintro ⟨rows, htaken, rfl⟩
      cases htaken
      exact ⟨rfl, rfl⟩
  | cons e entities ih =>
    simp only [takeLabels, run_bind_eq_ok_iff, run_takeLabel_eq_ok_iff]
    constructor
    · rintro ⟨table₁, _, ⟨rows₁, hlabel, rfl⟩, hrest⟩
      obtain ⟨rows, hlabels, rfl⟩ := ih.mp hrest
      exact ⟨rows, .cons hlabel hlabels, rfl⟩
    · rintro ⟨rows, htaken, rfl⟩
      cases htaken with
      | cons hlabel hlabels => exact ⟨_, _, ⟨_, hlabel, rfl⟩, ih.mpr ⟨rows, hlabels, rfl⟩⟩

end

/-! ### What is supplied -/

/-- A code identifies an entity: the entity is an object, and its member of the name id is the
code. -/
def Identifies (code : String) (entity : Document) : Prop :=
  ∃ members, entity = .object members ∧ members.lookup "id" = some (.text code)

/-- An entity is taken for itself exactly if it is identified by the code. -/
lemma isItself_eq_ok_true_iff {code : String} {entity : Document} :
    isItself code entity = .ok true ↔ Identifies code entity := by
  cases entity with
  | object members =>
    cases hid : members.lookup "id" with
    | none =>
      simp [isItself, Identifies, Document.memberD, Document.member?, Document.members, Except.map,
        bind, Except.bind, pure, Except.pure, hid, Document.same]
    | some d =>
      cases d <;> simp [isItself, Identifies, Document.memberD, Document.member?, Document.members,
        Except.map, bind, Except.bind, pure, Except.pure, hid, Document.same]
  | _ => simp [isItself, Identifies, Document.memberD, Document.member?, Document.members,
      Except.map, bind, Except.bind]

/-- No entity among those that were told under a code is identified by it: none was told, or all are
redirections. -/
def Unsupplied (code : String) (entities : List (String × Document)) : Prop :=
  ∀ entity, (code, entity) ∈ entities → ¬ Identifies code entity

section

variable {code c : String} {entity label : Document} {entities : List (String × Document)}
  {table table' : LabelTable} {rows rows' : Rows}

lemma lookup_ne_none_iff : table.lookup code ≠ none ↔ code ∈ table.map Prod.fst := by
  simp only [Ne, List.lookup_eq_none_iff, List.mem_map]
  grind

lemma LabelTaken.map_fst (h : LabelTaken code entity table rows table' rows') :
    table'.map Prod.fst = table.map Prod.fst := by
  cases h with
  | skipped => rfl
  | taken hcode => rw [Document.map_fst_setMember, if_pos (lookup_ne_none_iff.mp hcode)]

/-- What is known of a code changes only when an entity is taken over under it. -/
lemma LabelTaken.same (h : LabelTaken code entity table rows table' rows')
    (hc : c = code → isItself code entity ≠ .ok true) :
    table'.lookup c = table.lookup c ∧ rows'.row? c = rows.row? c := by
  cases h with
  | skipped => exact ⟨rfl, rfl⟩
  | taken _ hitself =>
    have hne : c ≠ code := fun heq => hc heq hitself
    exact ⟨(Document.lookup_setMember _ _ _ _).trans (if_neg hne), Rows.row?_insert_of_ne hne⟩

/-- An entity that was told under its own code supplies a label. -/
lemma LabelTaken.supplied (h : LabelTaken code entity table rows table' rows')
    (hcode : table.lookup code ≠ none) (hitself : isItself code entity = .ok true) :
    ∃ label row, optionalLabel entity = .ok label ∧ table'.lookup code = some label ∧
      rows'.row? code = some row := by
  cases h with
  | skipped h =>
    rcases h with h | h
    · exact absurd h hcode
    · rw [hitself] at h
      cases h
  | taken _ _ hlabel _ =>
    obtain ⟨row, hrow⟩ := rows.exists_row?_insert code _
    exact ⟨_, row, hlabel, (Document.lookup_setMember _ _ _ _).trans (if_pos rfl), hrow⟩

lemma LabelsTaken.map_fst (h : LabelsTaken entities table rows table' rows') :
    table'.map Prod.fst = table.map Prod.fst := by
  induction h with
  | nil => rfl
  | cons h _ ih => rw [ih, h.map_fst]

lemma LabelsTaken.same (h : LabelsTaken entities table rows table' rows')
    (hc : Unsupplied c entities) :
    table'.lookup c = table.lookup c ∧ rows'.row? c = rows.row? c := by
  induction h with
  | nil => exact ⟨rfl, rfl⟩
  | cons h _ ih =>
    obtain ⟨hlookup, hrow⟩ := h.same fun heq hitself =>
      hc _ (heq ▸ List.mem_cons_self) (heq ▸ isItself_eq_ok_true_iff.mp hitself)
    obtain ⟨hlookup', hrow'⟩ := ih fun e he => hc e (List.mem_cons_of_mem _ he)
    exact ⟨hlookup'.trans hlookup, hrow'.trans hrow⟩

lemma LabelsTaken.append {others : List (String × Document)} {table₁ : LabelTable} {rows₁ : Rows}
    (h : LabelsTaken entities table rows table₁ rows₁)
    (h' : LabelsTaken others table₁ rows₁ table' rows') :
    LabelsTaken (entities ++ others) table rows table' rows' := by
  induction h with
  | nil => exact h'
  | cons h _ ih => exact .cons h (ih h')

/-- The last entity that was told under its own code is the one that supplies the label. -/
lemma LabelsTaken.supplied {before after : List (String × Document)}
    (h : LabelsTaken (before ++ (code, entity) :: after) table rows table' rows')
    (hcode : table.lookup code ≠ none) (hitself : Identifies code entity)
    (hafter : Unsupplied code after) :
    ∃ label row, optionalLabel entity = .ok label ∧ table'.lookup code = some label ∧
      rows'.row? code = some row := by
  induction before generalizing table rows with
  | nil =>
    cases h with
    | cons h hrest =>
      obtain ⟨label, row, hlabel, hlookup, hrow⟩ :=
        h.supplied hcode (isItself_eq_ok_true_iff.mpr hitself)
      obtain ⟨hlookup', hrow'⟩ := hrest.same hafter
      exact ⟨label, row, hlabel, hlookup'.trans hlookup, hrow'.trans hrow⟩
  | cons e before ih =>
    cases h with
    | cons h hrest =>
      refine ih hrest ?_
      rw [lookup_ne_none_iff, h.map_fst, ← lookup_ne_none_iff]
      exact hcode

end

/-! ### Lists of requests -/

/-- The state of a network, and the URLs of the requests that were made with what they came to, the
oldest first. A request is listed also if it was answered from the cache. -/
structure Listed (σ : Type) where
  state : σ
  asked : List (String × Option Document)

section

variable {σ : Type}

/-- A session with a list of requests. -/
def Session.listing (s : Session σ) (asked : List (String × Option Document)) :
    Session (Listed σ) :=
  { network := ⟨s.network, asked⟩, cache := s.cache, failures := s.failures,
    requests := s.requests }

/-- A session without its list of requests. -/
def Session.unlisted (s : Session (Listed σ)) : Session σ :=
  { network := s.network.state, cache := s.cache, failures := s.failures, requests := s.requests }

/-- A request that is listed. -/
def listedRequest (net : Network σ) (url : String) : Step (Listed σ) (Option Document) :=
  ExceptT.mk fun s =>
    let (result, s') := (request net url).run.run s.unlisted
    (result, s'.listing (s.network.asked ++ [(url, result.toOption.join)]))

/-- The entities that a reply tells about. -/
def entitiesIn : Option Document → Except Document.Mismatch (List (String × Document))
  | none => .ok []
  | some d => do if ← d.holds "entities" then entitiesOf d else return []

/-- The entities that were told about in all, in the order in which they were told. -/
def told (asked : List (String × Option Document)) : List (String × Document) :=
  asked.flatMap fun a => (entitiesIn a.2).toOption.getD []

/-- Asks for the labels of one batch, for any way in which replies are retrieved. -/
def askBatchVia (retrieve : String → Step σ (Option Document)) (table : LabelTable)
    (batch : List String) : Step σ LabelTable := do
  takeLabels table (← fitting (entitiesIn (← retrieve (entitiesUrl batch .labels))))

/-- Asks for the labels of batches one after the other, for any way in which replies are
retrieved. -/
def askBatchesVia (retrieve : String → Step σ (Option Document)) (table : LabelTable) :
    List (List String) → Step σ LabelTable
  | [] => return table
  | b :: bs => do askBatchesVia retrieve (← askBatchVia retrieve table b) bs

/-- The lookup of many labels, for any way in which replies are retrieved. -/
def labelsVia (retrieve : String → Step σ (Option Document)) (codes : List String) :
    Step σ LabelTable := do
  let codes := distinctCodes codes
  let cache := (← get).cache
  askBatchesVia retrieve (cachedLabels cache codes)
    (batches (batchSize - 1) (uncached cache codes))

end

section

variable {σ : Type} {net : Network σ} {s s' : Session σ} {table table' : LabelTable}

lemma askBatchVia_request (r : Remote σ) (table : LabelTable) (batch : List String) :
    askBatchVia (request r.network) table batch = askBatch r table batch := by
  rw [askBatch_eq]
  refine bind_congr fun reply => ?_
  cases reply with
  | none => rfl
  | some d =>
    simp only [takeReply, entitiesIn]
    cases d.holds "entities" with
    | error mismatch => rfl
    | ok holds =>
      cases holds with
      | false => rfl
      | true => rfl

lemma askBatchesVia_request (r : Remote σ) (table : LabelTable) (batches : List (List String)) :
    askBatchesVia (request r.network) table batches = askBatches r table batches := by
  induction batches generalizing table with
  | nil => rfl
  | cons batch batches ih =>
    rw [askBatchesVia, askBatches, askBatchVia_request]
    exact bind_congr fun table => ih table

/-- The lookup of many labels retrieves replies by requests. -/
theorem labelsVia_request (r : Remote σ) (codes : List String) :
    labelsVia (request r.network) codes = r.labelsByBatch codes :=
  bind_congr fun _ => askBatchesVia_request r _ _

lemma run_listedRequest {url : String} {reply : Option Document}
    (h : (request net url).run.run s = (.ok reply, s')) (before : List (String × Option Document)) :
    (listedRequest net url).run.run (s.listing before) =
      (.ok reply, s'.listing (before ++ [(url, reply)])) := by
  have hlisted : (listedRequest net url).run.run (s.listing before) =
      (((request net url).run.run s).1, ((request net url).run.run s).2.listing
        (before ++ [(url, ((request net url).run.run s).1.toOption.join)])) := rfl
  rw [hlisted, h]
  rfl

lemma run_askBatchVia_eq_ok_iff {retrieve : String → Step σ (Option Document)}
    {batch : List String} :
    (askBatchVia retrieve table batch).run.run s = (.ok table', s') ↔
      ∃ reply s₁ entities rows, (retrieve (entitiesUrl batch .labels)).run.run s = (.ok reply, s₁) ∧
        entitiesIn reply = .ok entities ∧
        LabelsTaken entities table s₁.cache.labels table' rows ∧ s' = s₁.withLabels rows := by
  simp only [askBatchVia, run_bind_eq_ok_iff, run_fitting_eq_ok_iff, run_takeLabels_eq_ok_iff]
  constructor
  · rintro ⟨reply, s₁, hretrieve, entities, _, ⟨hentities, rfl⟩, rows, htaken, rfl⟩
    exact ⟨reply, _, entities, rows, hretrieve, hentities, htaken, rfl⟩
  · rintro ⟨reply, s₁, entities, rows, hretrieve, hentities, htaken, rfl⟩
    exact ⟨reply, s₁, hretrieve, entities, s₁, ⟨hentities, rfl⟩, rows, htaken, rfl⟩

/-- One batch is one request, and the entities that it comes to are taken over. -/
lemma run_askBatchVia_listed {batch : List String}
    (h : (askBatchVia (request net) table batch).run.run s = (.ok table', s')) :
    ∃ reply, LabelsTaken (told [(entitiesUrl batch .labels, reply)]) table s.cache.labels table'
        s'.cache.labels ∧
      ∀ before, (askBatchVia (listedRequest net) table batch).run.run (s.listing before) =
        (.ok table', s'.listing (before ++ [(entitiesUrl batch .labels, reply)])) := by
  obtain ⟨reply, s₁, entities, rows, hrequest, hentities, htaken, rfl⟩ :=
    run_askBatchVia_eq_ok_iff.mp h
  have hlabels := (Requested.of_run hrequest).labels_eq
  refine ⟨reply, ?_, fun before => ?_⟩
  · have htold : told [(entitiesUrl batch .labels, reply)] = entities := by
      simp [told, hentities, Except.toOption]
    rw [htold, ← hlabels]
    exact htaken
  · exact run_askBatchVia_eq_ok_iff.mpr
      ⟨reply, _, entities, rows, run_listedRequest hrequest before, hentities, htaken, rfl⟩

/-- The batches are asked for one after the other, each by one request. -/
lemma run_askBatchesVia_listed {batches : List (List String)}
    (h : (askBatchesVia (request net) table batches).run.run s = (.ok table', s')) :
    ∃ asked, asked.map Prod.fst = batches.map (entitiesUrl · .labels) ∧
      LabelsTaken (told asked) table s.cache.labels table' s'.cache.labels ∧
      ∀ before, (askBatchesVia (listedRequest net) table batches).run.run (s.listing before) =
        (.ok table', s'.listing (before ++ asked)) := by
  induction batches generalizing table s with
  | nil =>
    obtain ⟨rfl, rfl⟩ := run_pure_eq_ok_iff.mp h
    refine ⟨[], rfl, .nil, fun before => ?_⟩
    rw [List.append_nil]
    rfl
  | cons batch batches ih =>
    obtain ⟨table₁, s₁, hbatch, hbatches⟩ := run_bind_eq_ok_iff.mp h
    obtain ⟨reply, htaken, hlisted⟩ := run_askBatchVia_listed hbatch
    obtain ⟨asked, hurls, htaken', hlisted'⟩ := ih hbatches
    refine ⟨(entitiesUrl batch .labels, reply) :: asked, by simp [hurls], ?_, fun before => ?_⟩
    · have htold : told ((entitiesUrl batch .labels, reply) :: asked) =
          told [(entitiesUrl batch .labels, reply)] ++ told asked := by
        simp [told]
      rw [htold]
      exact htaken.append htaken'
    · rw [List.append_cons]
      exact run_bind_eq_ok_iff.mpr ⟨table₁, _, hlisted before, hlisted' _⟩

end

/-! ### Lookups of many labels -/

lemma map_fst_cachedLabels (c : Cache) (codes : List String) :
    (cachedLabels c codes).map Prod.fst = codes := by
  rw [cachedLabels_eq, map_fst_tableOf]

/-- A code without a row of labels has no label at first. -/
lemma lookup_cachedLabels {c : Cache} {codes : List String} {code : String} (h : code ∈ codes)
    (hrow : c.labels.row? code = none) : (cachedLabels c codes).lookup code = some .null := by
  simp only [cachedLabels_eq, lookup_tableOf h, hrow]

/-- A lookup of many labels that returns gives a table with the codes that were asked for, each
once. Its requests, listed by the same lookup with requests that are listed, are one for each of
some batches, which hold the codes that had no row of labels at the start, each once and in order,
and which are full but for the last. Such a code keeps no label and gets no row, unless an entity
was told under it that is identified by it; then the last such entity supplies the label, and there
is a row. -/
theorem labelsByBatch_asks_once {σ : Type} (r : Remote σ) (codes : List String) {s s' : Session σ}
    {table : LabelTable} (h : (r.labelsByBatch codes).run.run s = (.ok table, s')) :
    let ids := codes.eraseDups.filter isCode
    let missing := ids.filter fun code => (s.cache.labels.row? code).isNone
    labelsVia (request r.network) codes = r.labelsByBatch codes ∧
    table.map Prod.fst = ids ∧ ids.Nodup ∧
    ∃ (asked : List (String × Option Document)) (batches : List (List String)),
      (labelsVia (listedRequest r.network) codes).run.run (s.listing []) =
        (.ok table, s'.listing asked) ∧
      asked.map Prod.fst = batches.map (entitiesUrl · .labels) ∧
      batches.flatten = missing ∧
      (∀ batch ∈ batches, 1 ≤ batch.length ∧ batch.length ≤ 50) ∧
      (∀ batch ∈ batches.dropLast, batch.length = 50) ∧
      ∀ code ∈ missing,
        (Unsupplied code (told asked) →
          table.lookup code = some .null ∧ s'.cache.labels.row? code = none) ∧
        ∀ before entity after, told asked = before ++ (code, entity) :: after →
          Identifies code entity → Unsupplied code after →
          ∃ label row, optionalLabel entity = .ok label ∧ table.lookup code = some label ∧
            s'.cache.labels.row? code = some row := by
  intro ids missing
  have hids : distinctCodes codes = ids := distinctCodes_eq codes
  rw [← labelsVia_request] at h
  obtain ⟨_, _, hget, hbatches⟩ := run_bind_eq_ok_iff.mp h
  cases hget
  obtain ⟨asked, hurls, htaken, hlisted⟩ := run_askBatchesVia_listed hbatches
  rw [hids] at htaken
  refine ⟨labelsVia_request r codes, ?_, hids ▸ nodup_distinctCodes codes, asked,
    batches (batchSize - 1) missing, ?_, ?_, flatten_batches _ _, ?_, ?_, ?_⟩
  · rw [htaken.map_fst, map_fst_cachedLabels]
  · exact run_bind_eq_ok_iff.mpr ⟨_, _, rfl, hlisted []⟩
  · rw [hurls, hids]
    rfl
  · exact fun batch hbatch => length_of_mem_batches hbatch
  · exact fun batch hbatch => length_of_mem_dropLast_batches hbatch
  · intro code hcode
    -- without a row at the start, only what was told can have given it a label or a row
    obtain ⟨hmem, hnone⟩ := List.mem_filter.mp hcode
    rw [Option.isNone_iff_eq_none] at hnone
    have hstart := lookup_cachedLabels hmem hnone
    constructor
    · intro hunsupplied
      obtain ⟨hlookup, hrow⟩ := htaken.same hunsupplied
      exact ⟨hlookup.trans hstart, hrow.trans hnone⟩
    · intro before entity after htold hitself hafter
      rw [htold] at htaken
      exact htaken.supplied (by simp [hstart]) hitself hafter

/-- A code that occurs twice is asked for once. It comes back as another one, so it keeps no label
and gets no row. -/
theorem labelsByBatch_asks_once_redirected :
    let body :=
      "\x7b\"entities\":\x7b\"Q1\":\x7b\"id\":\"Q2\"\x7d,\"Q3\":\x7b\"id\":\"Q3\"\x7d\x7d\x7d"
    let r : Remote Unit := { network := .constant fun _ => .answer 200 body }
    let s : Session Unit := { network := () }
    ∃ table s', (r.labelsByBatch ["Q1", "Q3", "Q1"]).run.run s = (.ok table, s') ∧
      table.map Prod.fst = ["Q1", "Q3"] ∧
      (∃ batches : List (List String), batches.flatten = ["Q1", "Q3"] ∧
        ∀ batch ∈ batches, 1 ≤ batch.length ∧ batch.length ≤ 50) ∧
      table.lookup "Q1" = some .null ∧ s'.cache.labels.row? "Q1" = none := by
  intro body r s
  have hok : ((r.labelsByBatch ["Q1", "Q3", "Q1"]).run.run s).1.toOption.isSome = true := by
    decide +kernel
  have hunsupplied : ∀ e ∈ told ((labelsVia (listedRequest r.network) ["Q1", "Q3", "Q1"]).run.run
      (s.listing [])).2.network.asked, e.1 = "Q1" → isItself "Q1" e.2 ≠ .ok true := by
    decide +kernel
  obtain ⟨result, s', hrun⟩ : ∃ result s',
    (r.labelsByBatch ["Q1", "Q3", "Q1"]).run.run s = (result, s') := ⟨_, _, rfl⟩
  rw [hrun] at hok
  cases result with
  | error fault => cases hok
  | ok table =>
    obtain ⟨-, hkeys, -, asked, batches, hlisted, -, hflatten, hsizes, -, hlabels⟩ :=
      labelsByBatch_asks_once r _ hrun
    rw [hlisted] at hunsupplied
    obtain ⟨hlookup, hrow⟩ := (hlabels "Q1" (by decide)).1 fun entity hentity hitself =>
      hunsupplied _ hentity rfl (isItself_eq_ok_true_iff.mpr hitself)
    exact ⟨table, s', hrun, hkeys.trans (by decide),
      ⟨batches, hflatten.trans (by decide), hsizes⟩, hlookup, hrow⟩

end GraphTalk.Knowledge
