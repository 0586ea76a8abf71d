import GraphTalk.Proofs.Knowledge.Growth

/-!
# Networks that answer

On a network that always delivers a document of one kind under a URL, each request for that URL
returns such a document (`Network.Answers.request`): from the cache, which holds nothing but what
the network has delivered, or from the network.
-/

namespace GraphTalk.Knowledge

variable {σ : Type} {net : Network σ} {url body : String} {s : Session σ} {d : Document}
  {P : Document → Prop}

/-- Whenever a network is asked for a URL, one of two attempts delivers a document, and every
document that it delivers there is of one kind. -/
structure Network.Answers (net : Network σ) (url : String) (P : Document → Prop) : Prop where
  delivers (n : σ) : ∃ body d sent n', net.Delivers url n body d sent n'
  kind {n n' : σ} {reply : Reply} {body : String} {d : Document}
    (h : (net url).run n = (reply, n')) (hd : reply.Delivers body d) : P d

namespace Network.Answers

/-- What the network delivers is of the kind. -/
lemma of_delivers (h : net.Answers url P) {n n' : σ} {sent : List String}
    (hd : net.Delivers url n body d sent n') : P d := by
  cases hd with
  | first hreply hdelivers => exact h.kind hreply hdelivers
  | second hretries hdelivers =>
    obtain ⟨_, _, -, -, hreply⟩ := hretries
    exact h.kind hreply hdelivers

/-- What was retrieved from the network is of the kind. -/
lemma of_retrieved (h : net.Answers url P) {n : σ}
    (hd : Retrieved (net.possible.Given n) url body d) : P d := by
  obtain ⟨status, ⟨n, hreply⟩, hstatus, hbody⟩ := hd
  have hrun : (net url).run n = (.answer status body, ((net url).run n).2) := Prod.ext hreply rfl
  obtain ⟨hmin, hmax⟩ := isSuccess_iff.mp hstatus
  exact h.kind hrun (.answer hmin hmax hbody)

/-- A request returns a document of the kind, and the session stays sound. -/
lemma request (h : net.Answers url P) (hurl : Text.normalizeBlanks url = url) (hnull : ¬ P .null)
    (hs : s.Sound net.possible) :
    ∃ d s', (Knowledge.request net url).run.run s = (.ok (some d), s') ∧ P d ∧
      s'.Sound net.possible := by
  have houtcome : ∃ d s', Requested net (Text.normalizeBlanks url) true s (.ok (some d)) s' ∧
      P d := by
    rw [hurl]
    by_cases hhit : ∃ d, s.cache.Holds url d
    · obtain ⟨d, hd⟩ := hhit
      obtain ⟨body, hretrieved⟩ := hs.retrieved (Cache.document?_eq_some_iff.mpr hd)
      exact ⟨d, s, .hit rfl hd, h.of_retrieved hretrieved⟩
    · obtain ⟨body, d, sent, n', hd⟩ := h.delivers s.network
      have hkind : P d := h.of_delivers hd
      have hsome : d.something? = some d :=
        something?_eq_some_iff.mpr ⟨rfl, fun heq => hnull (heq ▸ hkind)⟩
      have hsuccess : Requested net url true s (.ok d.something?) _ :=
        .success (fun _ d hd => hhit ⟨d, hd⟩) hd
      rw [hsome] at hsuccess
      exact ⟨d, _, hsuccess, hkind⟩
  obtain ⟨d, s', hrequested, hd⟩ := houtcome
  have hrun := hrequested.run_eq
  have hgrows := continues_request (M := net.possible) url true s hs
  rw [hrun] at hgrows
  exact ⟨d, s', hrun, hd, hgrows.sound⟩

end Network.Answers

end GraphTalk.Knowledge
