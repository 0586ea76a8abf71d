import GraphTalk.Proofs.Knowledge.Growth

/-!
# The cache as a record of the network

A network can be watched: its replies are written down as it gives them (`Network.recorded`). What
the cache of a knowledge base holds is then found in the record that was made since the cache was
empty, whatever the knowledge base was asked (`cache_integrity`).
-/

namespace GraphTalk.Knowledge

variable {σ : Type} {net : Network σ}

/-! ### Recorded networks -/

/-- The state of a network with the replies that it gave, the oldest first. -/
structure Recorded (σ : Type) where
  state : σ
  replies : List (String × Reply) := []

/-- A reply to a URL is in the record. -/
def Recorded.Holds (n : Recorded σ) (url : String) (reply : Reply) : Prop :=
  (url, reply) ∈ n.replies

/-- A network whose replies are recorded. -/
def Network.recorded (net : Network σ) : Network (Recorded σ) := fun url n =>
  let (reply, state) := (net url).run n.state
  (reply, { state, replies := n.replies ++ [(url, reply)] })

/-- What is in the record was given. -/
def Network.record (net : Network σ) : net.recorded.Memory where
  Given := Recorded.Holds
  given _ _ := List.mem_append_right _ (List.mem_singleton.mpr rfl)
  keeps _ h := List.mem_append_left _ h

/-- The session after a call to a recorded network. The record is thrown away with the cache. -/
def Call.afterRecorded (net : Network σ) (types : TypeIndex) (s : Session (Recorded σ))
    (call : Call) : Session (Recorded σ) :=
  let s' := call.after { network := net.recorded, types } s
  if call.losesCache then { s' with network := { s'.network with replies := [] } } else s'

/-- The session after calls to a recorded network, each of them with a type index. -/
def Session.afterRecorded (net : Network σ) (s : Session (Recorded σ))
    (calls : List (TypeIndex × Call)) : Session (Recorded σ) :=
  calls.foldl (fun s call => call.2.afterRecorded net call.1 s) s

/-! ### Integrity -/

lemma Call.afterRecorded_of_keeps {types : TypeIndex} {s : Session (Recorded σ)} {call : Call}
    (h : call.losesCache = false) :
    call.afterRecorded net types s = call.after { network := net.recorded, types } s := by
  simp [afterRecorded, h]

lemma Call.sound_afterRecorded {types : TypeIndex} {s : Session (Recorded σ)}
    (hs : s.Sound net.record) (call : Call) :
    (call.afterRecorded net types s).Sound net.record := by
  cases h : call.losesCache with
  | true =>
    refine Session.sound_of_empty ?_
    simpa [afterRecorded, h] using Call.cache_eq_empty h
  | false =>
    rw [Call.afterRecorded_of_keeps h]
    exact call.sound hs

lemma Session.Sound.afterRecorded {s : Session (Recorded σ)} (hs : s.Sound net.record)
    (calls : List (TypeIndex × Call)) : (s.afterRecorded net calls).Sound net.record := by
  induction calls generalizing s with
  | nil => exact hs
  | cons call calls ih => exact ih (call.2.sound_afterRecorded hs)

lemma Session.Sound.grows_afterRecorded {s : Session (Recorded σ)} (hs : s.Sound net.record)
    {calls : List (TypeIndex × Call)} (h : ∀ call ∈ calls, call.2.losesCache = false) :
    Grows net.record s (s.afterRecorded net calls) := by
  induction calls generalizing s with
  | nil => exact Grows.refl hs
  | cons call calls ih =>
    obtain ⟨hcall, hcalls⟩ := List.forall_mem_cons.mp h
    have hgrows : Grows net.record s (call.2.afterRecorded net call.1 s) := by
      rw [Call.afterRecorded_of_keeps hcall]
      exact call.2.grows hs hcall
    exact hgrows.trans (ih hgrows.sound hcalls)

/-- After any calls to a new knowledge base on any network, no URL and no code has two rows in its
cache, every row of replies holds a document that was given for its URL in the life of the cache,
and every row of labels is taken from such a reply about an entity that is not a redirection. Calls
that do not lose the cache add rows at the ends of the tables and do nothing else to them. -/
theorem cache_integrity (net : Network σ) (start : σ) (calls later : List (TypeIndex × Call)) :
    let s := Session.afterRecorded net { network := { state := start } } calls
    let s' := s.afterRecorded net later
    (s.cache.replies.map Row.key).Nodup ∧ (s.cache.labels.map Row.key).Nodup ∧
    (∀ row ∈ s.cache.replies, row.IsReply s.network.Holds) ∧
    (∀ row ∈ s.cache.labels, row.IsLabel s.network.Holds) ∧
    ((∀ call ∈ later, call.2.losesCache = false) →
      s.cache.replies <+: s'.cache.replies ∧ s.cache.labels <+: s'.cache.labels) := by
  intro s s'
  have hs : s.Sound net.record :=
    (Session.sound_of_empty (M := net.record) rfl).afterRecorded calls
  refine ⟨hs.replies_nodup, hs.labels_nodup, hs.isReply, hs.isLabel, fun hlater => ?_⟩
  have hgrows : Grows net.record s s' := hs.grows_afterRecorded hlater
  exact ⟨hgrows.replies, hgrows.labels⟩

/-- Of a reply about two entities, the first of them a redirection, the label of the second is
stored and stays when the session is opened again. -/
theorem cache_integrity_redirected :
    let body :=
      "\x7b\"entities\":\x7b\"Q1\":\x7b\"id\":\"Q2\"\x7d,\"Q3\":\x7b\"id\":\"Q3\"\x7d\x7d\x7d"
    let net := Network.constant fun _ => .answer 200 body
    let s := Session.afterRecorded net { network := { state := () } }
      [([], .labelsByBatch ["Q1", "Q3"])]
    let s' := s.afterRecorded net [([], .reopen .file)]
    s.cache.labels = [⟨some "Q3", none⟩] ∧ s.cache.labels <+: s'.cache.labels := by
  intro body net s s'
  have hlater : ∀ call ∈ [(([], .reopen .file) : TypeIndex × Call)], call.2.losesCache = false := by
    decide
  refine ⟨?_, ((cache_integrity net () _ _).2.2.2.2 hlater).2⟩
  decide +kernel

end GraphTalk.Knowledge
