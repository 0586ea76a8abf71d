import GraphTalk.Proofs.Knowledge.Outcomes
import GraphTalk.Proofs.Knowledge.Urls

/-!
# What the cache holds

Whatever a knowledge base is asked, every row of its cache comes from a reply that was given
(`Session.Sound`), and as long as the cache is kept its tables only grow at their ends (`Grows`).
The outcomes of a request and the storing of a label are looked at once each, and what holds of them
holds of all calls and of all sequences of calls.
-/

namespace GraphTalk.Knowledge

open Conversion (Settings)

/-! ### Replies that were given -/

section

variable {σ : Type} {net : Network σ}

/-- What the state of a network tells of the replies that it gave: each reply is remembered from
the moment when it is given. -/
structure Network.Memory (net : Network σ) where
  /-- A reply to a URL was given, as a state tells. -/
  Given : σ → String → Reply → Prop
  given (n : σ) (url : String) : Given ((net url).run n).2 url ((net url).run n).1
  keeps {n : σ} {url : String} {reply : Reply} (other : String) (h : Given n url reply) :
    Given ((net other).run n).2 url reply

/-- The replies that a network may give, whatever its state. -/
def Network.possible (net : Network σ) : net.Memory where
  Given _ url reply := ∃ n, ((net url).run n).1 = reply
  given n _ := ⟨n, rfl⟩
  keeps _ h := h

/-- The replies of a request that succeeded, with what they hold. -/
def Retrieved (given : String → Reply → Prop) (url body : String) (d : Document) : Prop :=
  ∃ status, given url (.answer status body) ∧ isSuccess status = true ∧
    Document.parse? body = some d

lemma Retrieved.mono {given given' : String → Reply → Prop} {url body : String} {d : Document}
    (h : Retrieved given url body d) (hgiven : ∀ url reply, given url reply → given' url reply) :
    Retrieved given' url body d := by
  obtain ⟨status, hreply, hstatus, hd⟩ := h
  exact ⟨status, hgiven _ _ hreply, hstatus, hd⟩

end

/-! ### Rows that come from replies -/

/-- A row holds the body of a reply under the URL that was asked for. -/
def Row.IsReply (given : String → Reply → Prop) (row : Row) : Prop :=
  ∃ url body d, row = ⟨some url, some body⟩ ∧ Text.normalizeBlanks url = url ∧
    Retrieved given url body d

/-- A row holds the label of an entity that a document is about, under the code that is both the
name of the entity there and its own. -/
def Row.IsTold (d : Document) (row : Row) : Prop :=
  ∃ entities code entity label, entitiesOf d = .ok entities ∧ (code, entity) ∈ entities ∧
    entity.part "id" = .ok (.text code) ∧ optionalLabel entity = .ok label ∧
    row.key = some code ∧ columnText label = .ok row.value

/-- A row holds a label out of a reply about entities. -/
def Row.IsLabel (given : String → Reply → Prop) (row : Row) : Prop :=
  ∃ batch body d, IsBatch batch ∧ Retrieved given (entitiesUrl batch .labels) body d ∧ row.IsTold d

section

variable {given given' : String → Reply → Prop} {row : Row}

lemma Row.IsReply.mono (h : row.IsReply given)
    (hgiven : ∀ url reply, given url reply → given' url reply) : row.IsReply given' := by
  obtain ⟨url, body, d, hrow, hurl, hd⟩ := h
  exact ⟨url, body, d, hrow, hurl, hd.mono hgiven⟩

lemma Row.IsLabel.mono (h : row.IsLabel given)
    (hgiven : ∀ url reply, given url reply → given' url reply) : row.IsLabel given' := by
  obtain ⟨batch, body, d, hbatch, hd, hrow⟩ := h
  exact ⟨batch, body, d, hbatch, hd.mono hgiven, hrow⟩

end

/-- An entity that is the one it was asked for as says so itself. -/
lemma part_of_isItself {code : String} {entity : Document} (h : isItself code entity = .ok true) :
    entity.part "id" = .ok (.text code) := by
  cases entity with
  | object members =>
    cases hid : members.lookup "id" with
    | none =>
      simp [isItself, Document.memberD, Document.member?, Document.members, Except.map, hid,
        Document.same] at h
    | some id =>
      have hsame : id.same (.text code) = true := by
        simpa [isItself, Document.memberD, Document.member?, Document.members, Except.map, hid]
          using h
      cases id with
      | text id =>
        obtain rfl : id = code := by simpa [Document.same] using hsame
        simp [Document.part, hid]
      | _ => simp [Document.same] at hsame
  | _ => cases h

/-! ### Tables -/

namespace Rows

variable {rows rows' : Rows} {row : Row} {key : String}

lemma prefix_insert (rows : Rows) (row : Row) : rows <+: rows.insert row := by
  simp only [insert]
  split
  · split
    · exact List.prefix_refl _
    · exact List.prefix_append _ _
  · exact List.prefix_append _ _

lemma mem_of_mem_insert (row : Row) {r : Row} (h : r ∈ rows.insert row) : r ∈ rows ∨ r = row := by
  simp only [insert] at h
  split at h
  · split at h
    · exact .inl h
    · simpa using h
  · simpa using h

/-- The first row with a key stays the first one when rows are added. -/
lemma IsFirst.mono (hrow : rows.IsFirst key row) (h : rows <+: rows') :
    rows'.IsFirst key row := by
  obtain ⟨rest, rfl⟩ := h
  obtain ⟨hkey, before, after, rfl, hbefore⟩ := hrow
  exact ⟨hkey, before, after ++ rest, by simp, hbefore⟩

/-- What is found is still found when rows are added. -/
lemma row?_mono (h : rows <+: rows') (hrow : rows.row? key = some row) :
    rows'.row? key = some row :=
  row?_eq_some_iff.mpr ((row?_eq_some_iff.mp hrow).mono h)

/-- What is found under other keys is the same when a row is written. -/
lemma row?_insert_of_ne {other : String} {value : Option String} (h : other ≠ key) :
    (rows.insert ⟨some key, value⟩).row? other = rows.row? other := by
  simp only [insert]
  split
  · rfl
  · simp [row?, find?, List.find?_append, Row.get, h.symm]

lemma exists_row?_insert (rows : Rows) (key : String) (value : Option String) :
    ∃ row, (rows.insert ⟨some key, value⟩).row? key = some row := by
  cases h : rows.row? key with
  | none => exact ⟨_, row?_insert_self value h⟩
  | some old =>
    rw [insert_of_row? value h]
    exact ⟨old, h⟩

/-- A key is not written twice. -/
lemma nodup_insert {value : Option String} (h : (rows.map Row.key).Nodup) :
    ((rows.insert ⟨some key, value⟩).map Row.key).Nodup := by
  simp only [insert]
  split
  · exact h
  · rename_i hrow
    have hnone : rows.row? key = none := by simpa using hrow
    have hnew : some key ∉ rows.map Row.key := by simpa using row?_eq_none_iff.mp hnone
    rw [List.map_append, List.nodup_append]
    refine ⟨h, by simp, ?_⟩
    rintro _ ha _ hb rfl
    obtain rfl := List.mem_singleton.mp hb
    exact hnew ha

end Rows

variable {σ : Type} {net : Network σ} {M : net.Memory} {s s₁ s₂ : Session σ} {types : TypeIndex}

/-! ### Sound sessions -/

/-- Every row of the cache comes from a reply that was given, and no key has two rows. -/
structure Session.Sound (M : net.Memory) (s : Session σ) : Prop where
  replies_nodup : (s.cache.replies.map Row.key).Nodup
  labels_nodup : (s.cache.labels.map Row.key).Nodup
  isReply : ∀ row ∈ s.cache.replies, row.IsReply (M.Given s.network)
  isLabel : ∀ row ∈ s.cache.labels, row.IsLabel (M.Given s.network)

/-- An empty cache holds nothing that was not given. -/
lemma Session.sound_of_empty (h : s.cache = {}) : s.Sound M := by
  constructor <;> simp [h]

/-- A sound cache holds what any row with the URL for a key has, as there is no other such row. -/
theorem Session.Sound.holds_iff {url : String} {d : Document} (hs : s.Sound M) :
    s.cache.Holds url d ↔ ∃ row ∈ s.cache.replies, row.key = some url ∧
      ∃ text, row.value = some text ∧ Document.parse? text = some d ∧ d ≠ .null := by
  simp only [Cache.Holds, Rows.isFirst_iff_mem hs.replies_nodup]
  constructor
  · rintro ⟨row, text, ⟨hmem, hkey⟩, htext⟩
    exact ⟨row, hmem, hkey, text, htext⟩
  · rintro ⟨row, hmem, hkey, text, htext⟩
    exact ⟨row, text, ⟨hmem, hkey⟩, htext⟩

/-- A document in the cache was retrieved. -/
lemma Session.Sound.retrieved {url : String} {d : Document} (hs : s.Sound M)
    (h : s.cache.document? url = some d) :
    ∃ body, Retrieved (M.Given s.network) url body d := by
  obtain ⟨row, hrow, hd⟩ := Option.bind_eq_some_iff.mp h
  obtain ⟨u, body, e, rfl, -, hreply⟩ := hs.isReply row (List.mem_of_find?_eq_some hrow)
  obtain rfl : u = url := by simpa [Row.get] using List.find?_some hrow
  obtain ⟨status, hgiven, hstatus, he⟩ := hreply
  refine ⟨body, status, hgiven, hstatus, ?_⟩
  cases e with
  | null => simp [he, Document.something?] at hd
  | _ => simpa [he, Document.something?] using hd

/-- A session is followed by one that is sound and has lost nothing. -/
structure Grows (M : net.Memory) (s s' : Session σ) : Prop where
  sound : s'.Sound M
  replies : s.cache.replies <+: s'.cache.replies
  labels : s.cache.labels <+: s'.cache.labels
  given : ∀ url reply, M.Given s.network url reply → M.Given s'.network url reply

lemma Grows.refl (hs : s.Sound M) : Grows M s s :=
  ⟨hs, List.prefix_refl _, List.prefix_refl _, fun _ _ => id⟩

lemma Grows.trans (h : Grows M s s₁) (h' : Grows M s₁ s₂) : Grows M s s₂ :=
  ⟨h'.sound, h.replies.trans h'.replies, h.labels.trans h'.labels,
    fun url reply => h'.given url reply ∘ h.given url reply⟩

/-- If a session is sound, it grows into another one. -/
def Continues (M : net.Memory) (s s' : Session σ) : Prop := s.Sound M → Grows M s s'

lemma Continues.refl (s : Session σ) : Continues M s s := Grows.refl

lemma Continues.trans (h : Continues M s s₁) (h' : Continues M s₁ s₂) : Continues M s s₂ :=
  fun hs => (h hs).trans (h' (h hs).sound)

/-! ### Steps -/

/-- What was given before an attempt is still given after it. -/
lemma Network.Memory.keeps_run (M : net.Memory) {n n' : σ} {url other : String}
    {reply reply' : Reply} (h : (net url).run n = (reply, n')) (hgiven : M.Given n other reply') :
    M.Given n' other reply' := by
  have hkept := M.keeps url hgiven
  rwa [h] at hkept

lemma Network.Memory.keeps_retries (M : net.Memory) {n n' : σ} {url other : String}
    {again reply : Reply} (h : net.Retries url n again n') (hgiven : M.Given n other reply) :
    M.Given n' other reply := by
  obtain ⟨_, _, hfirst, -, hsecond⟩ := h
  exact M.keeps_run hsecond (M.keeps_run hfirst hgiven)

lemma Network.Memory.keeps_delivers (M : net.Memory) {n n' : σ} {url body other : String}
    {d : Document} {sent : List String} {reply : Reply} (h : net.Delivers url n body d sent n')
    (hgiven : M.Given n other reply) : M.Given n' other reply := by
  cases h with
  | first h _ => exact M.keeps_run h hgiven
  | second h _ => exact M.keeps_retries h hgiven

lemma Reply.Delivers.retrieved {given : String → Reply → Prop} {url body : String}
    {reply : Reply} {d : Document} (h : reply.Delivers body d) (hgiven : given url reply) :
    Retrieved given url body d := by
  cases h with
  | answer hmin hmax hd => exact ⟨_, hgiven, isSuccess_iff.mpr ⟨hmin, hmax⟩, hd⟩

/-- A document that was delivered was given just now. -/
lemma Network.Delivers.retrieved {n n' : σ} {url body : String} {d : Document}
    {sent : List String} (h : net.Delivers url n body d sent n') :
    Retrieved (M.Given n') url body d := by
  have hgiven : ∀ {n n' : σ} {reply : Reply}, (net url).run n = (reply, n') →
      M.Given n' url reply := by
    intro n n' reply h
    have hrun := M.given n url
    rwa [h] at hrun
  cases h with
  | first h hreply => exact hreply.retrieved (hgiven h)
  | second h hagain =>
    obtain ⟨_, _, -, -, hsecond⟩ := h
    exact hagain.retrieved (hgiven hsecond)

/-- What becomes of the network, the failures and the requests does not matter to the cache, as
long as the network remembers what it gave. -/
lemma continues_network {n : σ} (requests failures : List String)
    (hkeeps : ∀ url reply, M.Given s.network url reply → M.Given n url reply) :
    Continues M s { s with network := n, requests, failures } := by
  intro hs
  refine ⟨⟨hs.replies_nodup, hs.labels_nodup, ?_, ?_⟩, List.prefix_refl _, List.prefix_refl _,
    hkeeps⟩
  · exact fun row hrow => (hs.isReply row hrow).mono hkeeps
  · exact fun row hrow => (hs.isLabel row hrow).mono hkeeps

lemma continues_storeReply {url body : String} {d : Document}
    (hurl : Text.normalizeBlanks url = url) (hd : Retrieved (M.Given s.network) url body d) :
    Continues M s { s with cache := s.cache.insert .replies ⟨some url, some body⟩ } := by
  intro hs
  refine ⟨⟨Rows.nodup_insert hs.replies_nodup, hs.labels_nodup, ?_, hs.isLabel⟩,
    Rows.prefix_insert s.cache.replies ⟨some url, some body⟩, List.prefix_refl _, fun _ _ => id⟩
  intro row hrow
  rcases Rows.mem_of_mem_insert ⟨some url, some body⟩ hrow with hrow | rfl
  · exact hs.isReply row hrow
  · exact ⟨url, body, d, rfl, hurl, hd⟩

lemma continues_storeLabel {code : String} {value : Option String}
    (hlabel : Row.IsLabel (M.Given s.network) ⟨some code, value⟩) :
    Continues M s { s with cache := s.cache.insert .labels ⟨some code, value⟩ } := by
  intro hs
  refine ⟨⟨hs.replies_nodup, Rows.nodup_insert hs.labels_nodup, hs.isReply, ?_⟩,
    List.prefix_refl _, Rows.prefix_insert s.cache.labels ⟨some code, value⟩, fun _ _ => id⟩
  intro row hrow
  rcases Rows.mem_of_mem_insert ⟨some code, value⟩ hrow with hrow | rfl
  · exact hs.isLabel row hrow
  · exact hlabel

/-! ### Requests -/

/-- Whatever a request comes to, the session goes on from it. -/
lemma Requested.continues {url : String} {caching : Bool}
    {result : Except Fault (Option Document)} (hurl : Text.normalizeBlanks url = url)
    (h : Requested net url caching s result s₁) : Continues M s s₁ := by
  cases h with
  | hit => exact Continues.refl s
  | @success body d sent n hmiss hd =>
    have hnetwork : Continues M s { s with network := n, requests := s.requests ++ sent } :=
      continues_network _ s.failures fun _ _ => M.keeps_delivers hd
    rw [← Cache.withReply_eq]
    cases caching with
    | true => exact hnetwork.trans (continues_storeReply hurl hd.retrieved)
    | false => exact hnetwork
  | failure hmiss h hagain => exact continues_network _ _ fun _ _ => M.keeps_retries h
  | breakdown hmiss h => exact continues_network _ _ fun _ _ => M.keeps_retries h

lemma continues_request (url : String) (caching : Bool) :
    Leads (Continues M) (request net url caching).run := by
  intro s
  exact (Requested.of_run rfl).continues (Text.normalizeBlanks_normalizeBlanks url)

/-- What a request returns was retrieved, now or before. -/
lemma retrieved_of_request {url : String} {caching : Bool} {d : Document} (hs : s.Sound M)
    (h : (request net url caching).run.run s = (.ok (some d), s₁)) :
    ∃ body, Retrieved (M.Given s₁.network) (Text.normalizeBlanks url) body d := by
  rcases (Requested.of_run h).hit_or_success with ⟨-, hd, rfl⟩ | ⟨body, _, _, -, -, hd, rfl⟩
  · exact hs.retrieved (Cache.document?_eq_some_iff.mpr hd)
  · exact ⟨body, hd.retrieved⟩

/-! ### Labels of many entities -/

/-- A label of a retrieved reply is stored. -/
lemma continues_takeReply {batch : List String} {body : String} {d : Document}
    (hbatch : IsBatch batch) (table : LabelTable)
    (hd : Retrieved (M.Given s.network) (entitiesUrl batch .labels) body d) :
    Continues M s ((takeReply table d : Step σ LabelTable).run.run s).2 := by
  -- the reply stays given while its labels are stored one after the other
  let R (s s' : Session σ) : Prop :=
    s.Sound M ∧ Retrieved (M.Given s.network) (entitiesUrl batch .labels) body d → Grows M s s'
  have hrefl : ∀ s, R s s := fun s hs => Grows.refl hs.1
  have htrans : ∀ {s s₁ s₂}, R s s₁ → R s₁ s₂ → R s s₂ := fun h h' hs =>
    (h hs).trans (h' ⟨(h hs).sound, hs.2.mono (h hs).given⟩)
  have htake : Leads R (takeReply table d : Step σ LabelTable).run := by
    refine (leads_sequential hrefl htrans).takeReply ?_ table
    intro entities hentities e he label hitself hlabel
    simp only [storeLabel]
    split
    · rename_i value hvalue
      intro s hs
      refine continues_storeLabel ⟨batch, body, d, hbatch, hs.2, ?_⟩ hs.1
      exact ⟨entities, e.1, e.2, label, hentities, he, part_of_isItself hitself, hlabel, rfl,
        hvalue⟩
    · exact hrefl
  exact fun hs => htake s ⟨hs, hd⟩

lemma continues_askBatch (types : TypeIndex) (table : LabelTable) {batch : List String}
    (hbatch : IsBatch batch) :
    Leads (Continues M) (askBatch { network := net, types } table batch).run := by
  intro s hs
  obtain ⟨result, s₁, hrequest⟩ : ∃ result s₁,
    (request net (entitiesUrl batch .labels)).run.run s = (result, s₁) := ⟨_, _, rfl⟩
  have hs₁ : Grows M s s₁ := by
    simpa [hrequest] using continues_request (M := M) (entitiesUrl batch .labels) true s hs
  rw [askBatch_eq, ExceptT.run_bind, run_bind_of_run hrequest]
  cases result with
  | error fault => exact hs₁
  | ok found =>
    cases found with
    | none => exact hs₁
    | some d =>
      obtain ⟨body, hd⟩ := retrieved_of_request hs hrequest
      rw [normalizeBlanks_entitiesUrl] at hd
      exact hs₁.trans (continues_takeReply hbatch table hd hs₁.sound)

/-! ### Calls -/

/-- With a call that does not lose the cache a sound session grows. -/
lemma Call.grows (hs : s.Sound M) (call : Call) (h : call.losesCache = false) :
    Grows M s (call.after { network := net, types } s) := by
  have hkept : ∀ storage, call = .close storage ∨ call = .reopen storage → storage = .file := by
    intro storage hcall
    cases storage with
    | file => rfl
    | memory => rcases hcall with rfl | rfl <;> cases h
  have hcall : Continues M s (call.after { network := net, types } s) := by
    apply Call.leads Continues.refl Continues.trans
    case hrequest => exact continues_request
    case hask => exact fun table _ => continues_askBatch types table
    case hclose =>
      intro storage hclose
      rw [hkept storage (.inl hclose)]
      exact Continues.refl s
    case hreopen =>
      intro storage hreopen
      rw [hkept storage (.inr hreopen)]
      exact continues_network _ [] fun _ _ => id
  exact hcall hs

/-- A call that loses the cache leaves nothing in it. -/
lemma Call.cache_eq_empty {r : Remote σ} {call : Call} (h : call.losesCache = true) :
    (call.after r s).cache = {} := by
  cases call with
  | close storage => cases storage with
    | memory => rfl
    | file => cases h
  | reopen storage => cases storage with
    | memory => rfl
    | file => cases h
  | _ => cases h

lemma Call.sound (hs : s.Sound M) (call : Call) :
    (call.after { network := net, types } s).Sound M := by
  cases h : call.losesCache with
  | true => exact Session.sound_of_empty (Call.cache_eq_empty h)
  | false => exact (call.grows hs h).sound

/-- All calls that a knowledge base can be given leave it sound. -/
lemma Session.Sound.after (hs : s.Sound M) (calls : List (TypeIndex × Call)) :
    (s.after net calls).Sound M := by
  induction calls generalizing s with
  | nil => exact hs
  | cons call calls ih => exact ih (call.2.sound hs)

/-- While the cache is kept a sound session grows. -/
lemma Session.Sound.grows (hs : s.Sound M) {calls : List (TypeIndex × Call)}
    (h : ∀ call ∈ calls, call.2.losesCache = false) : Grows M s (s.after net calls) := by
  induction calls generalizing s with
  | nil => exact Grows.refl hs
  | cons call calls ih =>
    obtain ⟨hcall, hcalls⟩ := List.forall_mem_cons.mp h
    have hgrows : Grows M s (call.2.after { network := net, types := call.1 } s) :=
      call.2.grows hs hcall
    exact hgrows.trans (ih hgrows.sound hcalls)

end GraphTalk.Knowledge
