import GraphTalk.Proofs.Knowledge.Growth

/-!
# Documents that are kept

A document that a request has returned is returned by every later request for it without another
word to the network, unless the cache had the empty document under its URL before
(`request_retained_iff`). The empty document is stored like any other but counts as none, and a row
is never changed, so what comes after it is fetched again and again (`request_not_retained`).
-/

namespace GraphTalk.Knowledge

variable {σ : Type} {net : Network σ} {s s₁ : Session σ} {c c' : Cache} {url : String}
  {d : Document}

/-! ### The empty document -/

/-- The cache holds the empty document under a URL. -/
def Cache.HoldsNull (c : Cache) (url : String) : Prop :=
  ∃ body, c.replies.IsFirst url ⟨some url, some body⟩ ∧ Document.parse? body = some .null

lemma Cache.HoldsNull.document?_eq_none (h : c.HoldsNull url) : c.document? url = none := by
  obtain ⟨body, hrow, hbody⟩ := h
  simp [document?, Rows.row?_eq_some_iff.mpr hrow, hbody, Document.something?]

lemma Cache.HoldsNull.mono (h : c.HoldsNull url) (hrows : c.replies <+: c'.replies) :
    c'.HoldsNull url := by
  obtain ⟨body, hrow, hbody⟩ := h
  exact ⟨body, hrow.mono hrows, hbody⟩

/-- A document stays in the cache as rows are added. -/
lemma Cache.document?_mono (h : c.document? url = some d)
    (hrows : c.replies <+: c'.replies) : c'.document? url = some d := by
  obtain ⟨row, hrow, hd⟩ := Option.bind_eq_some_iff.mp h
  simpa [document?, Rows.row?_mono hrows hrow] using hd

/-- Where a sound cache has no document, it has the empty one or no row. -/
lemma Session.Sound.row?_eq_none {M : net.Memory} (hs : s.Sound M)
    (hnone : s.cache.document? url = none) (hnull : ¬ s.cache.HoldsNull url) :
    s.cache.replies.row? url = none := by
  by_contra hrow
  obtain ⟨row, hrow⟩ := Option.ne_none_iff_exists'.mp hrow
  obtain ⟨u, body, e, rfl, -, -, -, -, he⟩ := hs.isReply row (List.mem_of_find?_eq_some hrow)
  obtain rfl : u = url := by simpa [Row.get] using List.find?_some hrow
  simp only [Cache.document?, hrow, Option.bind_some, he] at hnone
  cases e with
  | null => exact hnull ⟨body, Rows.row?_eq_some_iff.mp hrow, he⟩
  | _ => cases hnone

/-! ### Requests -/

/-- A document that the cache does not have is sent for and stored. -/
lemma request_of_document?_eq_none (hnone : s.cache.document? (Text.normalizeBlanks url) = none)
    (h : (request net url).run.run s = (.ok (some d), s₁)) :
    s.requests.length < s₁.requests.length ∧
      ∃ body, Document.parse? body = some d ∧ d.something? = some d ∧
        s₁.cache = s.cache.insert .replies ⟨some (Text.normalizeBlanks url), some body⟩ := by
  rcases (Requested.of_run h).hit_or_success with
    ⟨-, hd, -⟩ | ⟨body, sent, n, -, hnull, hd, rfl⟩
  · rw [Cache.document?_eq_some_iff.mpr hd] at hnone
    cases hnone
  · obtain ⟨-, -, -, hbody⟩ := hd.retrieved (M := net.possible)
    have hsent := hd.sent_pos
    refine ⟨?_, body, hbody, something?_eq_some_iff.mpr ⟨rfl, hnull⟩,
      (Cache.withReply_eq s.cache true _ body).symm⟩
    rw [List.length_append]
    omega

/-- What a request has returned is in the cache then, unless the empty document was. -/
lemma document?_of_request {M : net.Memory} (hs : s.Sound M)
    (hnull : ¬ s.cache.HoldsNull (Text.normalizeBlanks url))
    (h : (request net url).run.run s = (.ok (some d), s₁)) :
    s₁.cache.document? (Text.normalizeBlanks url) = some d := by
  cases hcached : s.cache.document? (Text.normalizeBlanks url) with
  | some e =>
    rw [run_request, if_pos rfl, hcached] at h
    cases h
    exact hcached
  | none =>
    obtain ⟨-, body, hbody, hd, hcache⟩ := request_of_document?_eq_none hcached h
    have hrow := Rows.row?_insert_self (some body) (hs.row?_eq_none hcached hnull)
    rw [hcache]
    simp [Cache.document?, Cache.insert, hrow, hbody, hd]

/-! ### Retention -/

/-- After any calls, a document that a request returns is returned by all later requests for it,
which leave the session as it is, exactly if the cache did not hold the empty document under its
URL. The cache may be closed and opened again in between, as long as it is kept. -/
theorem request_retained_iff (net : Network σ) (start : σ) (before : List (TypeIndex × Call))
    (url : String) (d : Document) (s₁ : Session σ)
    (h : (request net url).run.run (Session.after net { network := start } before) =
      (.ok (some d), s₁)) :
    (∀ later : List (TypeIndex × Call), (∀ call ∈ later, call.2.losesCache = false) →
      ∀ url', Text.normalizeBlanks url' = Text.normalizeBlanks url →
        (request net url').run.run (s₁.after net later) = (.ok (some d), s₁.after net later)) ↔
    ¬ (Session.after net { network := start } before).cache.HoldsNull
      (Text.normalizeBlanks url) := by
  have hs : (Session.after net { network := start } before).Sound net.possible :=
    (Session.sound_of_empty rfl).after before
  have hgrows := continues_request (M := net.possible) url true _ hs
  rw [h] at hgrows
  constructor
  · -- with the empty document in the cache the next request goes out
    intro hretained hnull
    have hagain := hretained [] (by simp) url rfl
    have hlonger := (request_of_document?_eq_none
      (hnull.mono hgrows.replies).document?_eq_none hagain).1
    exact Nat.lt_irrefl _ hlonger
  · intro hnull later hlater url' hurl
    have hdocument := document?_of_request hs hnull h
    have hlater := Cache.document?_mono hdocument (hgrows.sound.grows hlater).replies
    rw [run_request, hurl, if_pos rfl, hlater]

/-- A network that replies a number once and is out of reach then: the number is still there when
the session was opened again. -/
theorem request_retained_reopened :
    let start : Script := [{ contains := ["x.org"], replies := [.answer 200 "1", .unreachable] }]
    let s₁ := ((request .scripted "https://x.org/a").run.run { network := start }).2
    let s₂ := s₁.after .scripted [([], .reopen .file)]
    (request .scripted "https://x.org/a").run.run
        (Session.after .scripted { network := start } []) = (.ok (some (.int 1)), s₁) ∧
      (request .scripted " https://x.org/a").run.run s₂ = (.ok (some (.int 1)), s₂) := by
  intro start s₁ s₂
  have h : (request .scripted "https://x.org/a").run.run
      (Session.after .scripted { network := start } []) = (.ok (some (.int 1)), s₁) := rfl
  refine ⟨h, (request_retained_iff .scripted start [] _ _ s₁ h).mpr ?_ _ ?_ _ ?_⟩
  · rintro ⟨body, ⟨-, older, newer, hrows, -⟩, -⟩
    have hempty : ([] : Rows) = older ++ _ :: newer := hrows
    simp at hempty
  · decide
  · decide +kernel

/-- A network that replies the empty document and then a number: the number is returned, and is
sent for again by the next request. -/
theorem request_not_retained :
    let start : Script :=
      [{ contains := ["x.org"], replies := [.answer 200 "null", .answer 200 "1"] }]
    let s := Session.after .scripted { network := start } [([], .request "https://x.org/a" true)]
    let s₁ := ((request .scripted "https://x.org/a").run.run s).2
    ((request .scripted "https://x.org/a").run.run s).1 = .ok (some (.int 1)) ∧
      ((request .scripted "https://x.org/a").run.run s₁).2.requests =
        s₁.requests ++ ["https://x.org/a"] :=
  ⟨rfl, rfl⟩

end GraphTalk.Knowledge
