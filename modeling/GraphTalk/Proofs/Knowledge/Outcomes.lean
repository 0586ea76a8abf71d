import GraphTalk.Proofs.Knowledge.Calls

/-!
# Outcomes of requests

A request ends in one of four ways (`Requested`): the cache has the document; the network delivers
it at the first attempt or at the second; both attempts fail; or the second one breaks down. Each
way has one result and one effect on the session, and these are all that there is to a request
(`request_outcome_iff`).
-/

namespace GraphTalk.Knowledge

/-! ### Replies -/

/-- A reply delivers a document: its status says that the request succeeded, and its body is the
document. -/
inductive Reply.Delivers : Reply → String → Document → Prop where
  | answer {status : Int} {body : String} {d : Document} (hmin : 200 ≤ status)
      (hmax : status < 300) (hd : Document.parse? body = some d) :
      Delivers (.answer status body) body d

/-- A reply is that of a failed request: the status does not say that it succeeded, the body is no
document, or there was no reply. -/
inductive Reply.Fails : Reply → Prop where
  | status {status : Int} {body : String} (h : ¬(200 ≤ status ∧ status < 300)) :
      Fails (.answer status body)
  | malformed {status : Int} {body : String} (h : Document.parse? body = none) :
      Fails (.answer status body)
  | unreachable : Fails .unreachable

section

variable {reply : Reply} {body : String} {d : Document}

lemma isSuccess_iff {status : Int} : isSuccess status = true ↔ 200 ≤ status ∧ status < 300 := by
  simp [isSuccess]

lemma Reply.Delivers.attempt_eq (h : reply.Delivers body d) :
    reply.attempt = .success body d := by
  obtain ⟨hmin, hmax, hd⟩ := h
  simp [attempt, isSuccess_iff.mpr ⟨hmin, hmax⟩, hd]

lemma Reply.Fails.attempt_eq (h : reply.Fails) : reply.attempt = .failure := by
  cases h with
  | status h =>
    rw [← isSuccess_iff] at h
    simp [attempt, h]
  | malformed h => simp [attempt, h]
  | unreachable => rfl

/-- A reply delivers a document, fails, or is a breakdown. -/
lemma Reply.delivers_or_fails (reply : Reply) :
    (∃ body d, reply.Delivers body d) ∨ reply.Fails ∨ reply = .breakdown := by
  cases reply with
  | unreachable => exact .inr (.inl .unreachable)
  | breakdown => exact .inr (.inr rfl)
  | answer status body =>
    by_cases hstatus : 200 ≤ status ∧ status < 300
    · cases hd : Document.parse? body with
      | some d => exact .inl ⟨body, d, .answer hstatus.1 hstatus.2 hd⟩
      | none => exact .inr (.inl (.malformed hd))
    · exact .inr (.inl (.status hstatus))

end

variable {σ : Type} {net : Network σ} {url : String} {caching : Bool} {s s' : Session σ}
  {result : Except Fault (Option Document)}

/-! ### Attempts -/

/-- A first attempt does not succeed, and `again` is what a second one is replied. -/
def Network.Retries (net : Network σ) (url : String) (n : σ) (again : Reply) (n₂ : σ) : Prop :=
  ∃ reply n₁, (net url).run n = (reply, n₁) ∧ (reply.Fails ∨ reply = .breakdown) ∧
    (net url).run n₁ = (again, n₂)

/-- A document is delivered within two attempts, for which the URL is asked for once or twice. -/
inductive Network.Delivers (net : Network σ) (url : String) (n : σ) (body : String)
    (d : Document) : List String → σ → Prop where
  | first {reply : Reply} {n₁ : σ} (h : (net url).run n = (reply, n₁))
      (hreply : reply.Delivers body d) : Delivers net url n body d [url] n₁
  | second {again : Reply} {n₂ : σ} (h : net.Retries url n again n₂)
      (hagain : again.Delivers body d) : Delivers net url n body d [url, url] n₂

/-- The URL is asked for at least once. -/
lemma Network.Delivers.sent_pos {n n' : σ} {body : String} {d : Document} {sent : List String}
    (h : net.Delivers url n body d sent n') : 0 < sent.length := by
  cases h with
  | first => exact Nat.zero_lt_one
  | second => exact Nat.zero_lt_two

lemma run_send_of_run {reply : Reply} {n₁ : σ} (h : (net url).run s.network = (reply, n₁)) :
    (send net url).run s = (reply, { s with network := n₁, requests := s.requests ++ [url] }) := by
  have hsend : (send net url).run s = (((net url).run s.network).1,
    { s with network := ((net url).run s.network).2, requests := s.requests ++ [url] }) := rfl
  rw [hsend, h]

lemma run_fetch_of_delivers {reply : Reply} {n₁ : σ} {body : String} {d : Document}
    (h : (net url).run s.network = (reply, n₁)) (hreply : reply.Delivers body d) :
    (fetch net url).run s =
      (.success body d, { s with network := n₁, requests := s.requests ++ [url] }) := by
  rw [fetch, run_bind_of_run (run_send_of_run h), hreply.attempt_eq]
  rfl

lemma run_fetch_of_retries {again : Reply} {n₂ : σ} (h : net.Retries url s.network again n₂) :
    (fetch net url).run s =
      (again.attempt, { s with network := n₂, requests := s.requests ++ [url, url] }) := by
  obtain ⟨reply, n₁, hfirst, hreply, hsecond⟩ := h
  have hsend : (send net url).run { s with network := n₁, requests := s.requests ++ [url] } =
      (again, { s with network := n₂, requests := s.requests ++ [url, url] }) := by
    rw [run_send_of_run hsecond, List.append_assoc]
    rfl
  rw [fetch, run_bind_of_run (run_send_of_run hfirst)]
  rcases hreply with hreply | rfl
  · rw [hreply.attempt_eq]
    simp only [run_bind_of_run hsend]
    rfl
  · simp only [Reply.attempt, run_bind_of_run hsend]
    rfl

/-! ### The cache -/

/-- A row is the first one of its table with a key. -/
def Rows.IsFirst (rows : Rows) (key : String) (row : Row) : Prop :=
  row.key = some key ∧
    ∃ before after, rows = before ++ row :: after ∧ ∀ r ∈ before, r.key ≠ some key

lemma Rows.row?_eq_some_iff {rows : Rows} {key : String} {row : Row} :
    rows.row? key = some row ↔ rows.IsFirst key row := by
  simp [row?, find?, List.find?_eq_some_iff_append, Row.get, IsFirst]

lemma Rows.row?_eq_none_iff {rows : Rows} {key : String} :
    rows.row? key = none ↔ ∀ row ∈ rows, row.key ≠ some key := by
  simp [row?, find?, Row.get]

/-- Where no key stands twice, the first row with a key is the only one. -/
lemma Rows.isFirst_iff_mem {rows : Rows} {key : String} {row : Row}
    (h : (rows.map Row.key).Nodup) :
    rows.IsFirst key row ↔ row ∈ rows ∧ row.key = some key := by
  constructor
  · rintro ⟨hkey, before, after, rfl, -⟩
    exact ⟨by simp, hkey⟩
  · rintro ⟨hmem, hkey⟩
    obtain ⟨before, after, rfl⟩ := List.append_of_mem hmem
    refine ⟨hkey, before, after, rfl, fun r hr hrkey => ?_⟩
    rw [List.map_append, List.nodup_append] at h
    exact h.2.2 _ (List.mem_map_of_mem hr) _ (by simp) (hrkey.trans hkey.symm)

/-- The cache holds a document other than the empty one under a URL: the first row with that key
has a text that reads as the document. -/
def Cache.Holds (c : Cache) (url : String) (d : Document) : Prop :=
  ∃ row text, c.replies.IsFirst url row ∧ row.value = some text ∧
    Document.parse? text = some d ∧ d ≠ .null

/-- The cache with a reply written under its URL, if it is to be kept and no row has that key. -/
def Cache.withReply (c : Cache) (caching : Bool) (url body : String) : Cache :=
  if caching = true ∧ ∀ row ∈ c.replies, row.key ≠ some url then
    { c with replies := c.replies ++ [⟨some url, some body⟩] }
  else c

lemma something?_eq_some_iff {d e : Document} : d.something? = some e ↔ d = e ∧ e ≠ .null := by
  cases d with
  | null =>
    constructor
    · nofun
    · rintro ⟨rfl, h⟩
      exact absurd rfl h
  | _ =>
    constructor
    · intro h
      cases h
      exact ⟨rfl, nofun⟩
    · rintro ⟨rfl, -⟩
      rfl

lemma Cache.document?_eq_some_iff {c : Cache} {d : Document} :
    c.document? url = some d ↔ c.Holds url d := by
  simp only [document?, Option.bind_eq_some_iff, something?_eq_some_iff, Rows.row?_eq_some_iff,
    Holds]
  constructor
  · rintro ⟨row, hrow, text, htext, _, hd, rfl, hnull⟩
    exact ⟨row, text, hrow, htext, hd, hnull⟩
  · rintro ⟨row, text, hrow, htext, hd, hnull⟩
    exact ⟨row, hrow, text, htext, d, hd, rfl, hnull⟩

lemma Cache.withReply_eq (c : Cache) (caching : Bool) (url body : String) :
    (if caching = true then c.insert .replies ⟨some url, some body⟩ else c) =
      c.withReply caching url body := by
  cases caching with
  | false => rfl
  | true =>
    simp only [withReply, ← Rows.row?_eq_none_iff]
    cases hrow : c.replies.row? url with
    | none => simp [insert, Rows.insert, hrow]
    | some row => simp [insert, Rows.insert, hrow]

/-! ### Outcomes -/

/-- What a request for a URL in its normal form comes to, and the session then. -/
inductive Requested (net : Network σ) (url : String) (caching : Bool) (s : Session σ) :
    Except Fault (Option Document) → Session σ → Prop where
  /-- What the cache holds is returned, and nothing changes. -/
  | hit {d : Document} (hcaching : caching = true) (h : s.cache.Holds url d) :
      Requested net url caching s (.ok (some d)) s
  /-- What the network delivers is returned, and written into the cache. -/
  | success {body : String} {d : Document} {sent : List String} {n : σ}
      (hmiss : caching = true → ∀ d, ¬ s.cache.Holds url d)
      (h : net.Delivers url s.network body d sent n) :
      Requested net url caching s (.ok d.something?)
        { s with network := n, requests := s.requests ++ sent,
                 cache := s.cache.withReply caching url body }
  /-- The second attempt fails: the URL is noted down. -/
  | failure {again : Reply} {n : σ} (hmiss : caching = true → ∀ d, ¬ s.cache.Holds url d)
      (h : net.Retries url s.network again n) (hagain : again.Fails) :
      Requested net url caching s (.ok none)
        { s with network := n, requests := s.requests ++ [url, url],
                 failures := s.failures ++ [url] }
  /-- The second attempt breaks down, and so does the request. -/
  | breakdown {n : σ} (hmiss : caching = true → ∀ d, ¬ s.cache.Holds url d)
      (h : net.Retries url s.network .breakdown n) :
      Requested net url caching s (.error .breakdown)
        { s with network := n, requests := s.requests ++ [url, url] }

lemma cached_eq_none_iff :
    (if caching = true then s.cache.document? url else none) = none ↔
      (caching = true → ∀ d, ¬ s.cache.Holds url d) := by
  cases caching with
  | false => simp
  | true => simp [← Cache.document?_eq_some_iff, Option.eq_none_iff_forall_ne_some]

/-- A request that is sent comes to what was fetched. -/
lemma run_request_of_miss {attempt : Attempt} {s₁ : Session σ}
    (hmiss : caching = true → ∀ d, ¬ s.cache.Holds (Text.normalizeBlanks url) d)
    (hfetch : (fetch net (Text.normalizeBlanks url)).run s = (attempt, s₁)) :
    (request net url caching).run.run s = match attempt with
      | .success body d =>
        (.ok d.something?,
          { s₁ with cache := s₁.cache.withReply caching (Text.normalizeBlanks url) body })
      | .failure => (.ok none, { s₁ with failures := s₁.failures ++ [Text.normalizeBlanks url] })
      | .breakdown => (.error .breakdown, s₁) := by
  rw [run_request, cached_eq_none_iff.mpr hmiss]
  simp only [run_retrieve_of_fetch hfetch]
  cases attempt with
  | success body d =>
    simp only [← Cache.withReply_eq]
    cases caching <;> rfl
  | failure => rfl
  | breakdown => rfl

lemma Requested.run_eq (h : Requested net (Text.normalizeBlanks url) caching s result s') :
    (request net url caching).run.run s = (result, s') := by
  cases h with
  | hit hcaching h =>
    rw [run_request, if_pos hcaching, Cache.document?_eq_some_iff.mpr h]
  | success hmiss h =>
    cases h with
    | first h hreply => exact run_request_of_miss hmiss (run_fetch_of_delivers h hreply)
    | second h hagain =>
      have hfetch := run_fetch_of_retries h
      rw [hagain.attempt_eq] at hfetch
      exact run_request_of_miss hmiss hfetch
  | failure hmiss h hagain =>
    have hfetch := run_fetch_of_retries h
    rw [hagain.attempt_eq] at hfetch
    exact run_request_of_miss hmiss hfetch
  | breakdown hmiss h => exact run_request_of_miss hmiss (run_fetch_of_retries h)

/-- One of the outcomes there always is. -/
lemma exists_requested (net : Network σ) (url : String) (caching : Bool) (s : Session σ) :
    ∃ result s', Requested net url caching s result s' := by
  by_cases hhit : caching = true ∧ ∃ d, s.cache.Holds url d
  · obtain ⟨hcaching, d, hd⟩ := hhit
    exact ⟨_, _, .hit hcaching hd⟩
  have hmiss : caching = true → ∀ d, ¬ s.cache.Holds url d :=
    fun hcaching d hd => hhit ⟨hcaching, d, hd⟩
  obtain ⟨reply, n₁, hfirst⟩ : ∃ reply n₁, (net url).run s.network = (reply, n₁) := ⟨_, _, rfl⟩
  rcases reply.delivers_or_fails with ⟨body, d, hreply⟩ | hreply
  · exact ⟨_, _, .success hmiss (.first hfirst hreply)⟩
  obtain ⟨again, n₂, hsecond⟩ : ∃ again n₂, (net url).run n₁ = (again, n₂) := ⟨_, _, rfl⟩
  have hretries : net.Retries url s.network again n₂ := ⟨reply, n₁, hfirst, hreply, hsecond⟩
  rcases again.delivers_or_fails with ⟨body, d, hagain⟩ | hagain | rfl
  · exact ⟨_, _, .success hmiss (.second hretries hagain)⟩
  · exact ⟨_, _, .failure hmiss hretries hagain⟩
  · exact ⟨_, _, .breakdown hmiss hretries⟩

lemma Requested.of_run (h : (request net url caching).run.run s = (result, s')) :
    Requested net (Text.normalizeBlanks url) caching s result s' := by
  obtain ⟨result', s'', houtcome⟩ := exists_requested net (Text.normalizeBlanks url) caching s
  obtain ⟨rfl, rfl⟩ := Prod.mk.inj (h.symm.trans houtcome.run_eq)
  exact houtcome

/-- Requests leave the labels alone. -/
lemma Requested.labels_eq (h : Requested net url caching s result s') :
    s'.cache.labels = s.cache.labels := by
  cases h with
  | success =>
    simp only [Cache.withReply]
    split <;> rfl
  | _ => rfl

/-- A document that is returned was in the cache, or the network delivered it. -/
lemma Requested.hit_or_success {d : Document}
    (h : Requested net url caching s (.ok (some d)) s') :
    (caching = true ∧ s.cache.Holds url d ∧ s' = s) ∨
    ∃ body sent n, (caching = true → ∀ d, ¬ s.cache.Holds url d) ∧ d ≠ .null ∧
      net.Delivers url s.network body d sent n ∧
      s' = { s with network := n, requests := s.requests ++ sent,
                    cache := s.cache.withReply caching url body } := by
  generalize hresult : Except.ok (some d) = result at h
  cases h with
  | hit hcaching hd =>
    obtain rfl := Option.some.inj (Except.ok.inj hresult)
    exact .inl ⟨hcaching, hd, rfl⟩
  | success hmiss hd =>
    obtain ⟨rfl, hnull⟩ := something?_eq_some_iff.mp (Except.ok.inj hresult).symm
    exact .inr ⟨_, _, _, hmiss, hnull, hd, rfl⟩
  | failure => cases hresult
  | breakdown => cases hresult

/-- In every session and on every network, what a request comes to and what it does to the session
is exactly one of its four outcomes. -/
theorem request_outcome_iff (net : Network σ) (url : String) (caching : Bool) (s : Session σ)
    (result : Except Fault (Option Document)) (s' : Session σ) :
    (request net url caching).run.run s = (result, s') ↔
      Requested net (Text.normalizeBlanks url) caching s result s' := by
  constructor
  · exact Requested.of_run
  · exact Requested.run_eq

end GraphTalk.Knowledge
