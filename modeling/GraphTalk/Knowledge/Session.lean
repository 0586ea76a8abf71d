import GraphTalk.Knowledge.Cache
import GraphTalk.Knowledge.Lookups
import GraphTalk.Knowledge.Network

/-!
# Requests

A session retrieves documents from a network. What has been retrieved is kept in the cache, a
request that fails is tried once more, and one that fails twice is noted down.
-/

namespace GraphTalk.Knowledge

/-- The state of a knowledge base on a network. -/
structure Session (σ : Type) where
  /-- The state of the network. -/
  network : σ
  cache : Cache := {}
  /-- The URLs of the requests that failed, the oldest first. -/
  failures : List String := []
  /-- The URLs of all requests that went out, the oldest first. -/
  requests : List String := []

/-- A step of a session, which may end in a fault. What was done before a fault stays done. -/
abbrev Step (σ α : Type) := ExceptT Fault (StateM (Session σ)) α

namespace Session

/-! ### Closing -/

/-- Where a cache is kept. -/
inductive Storage where
  /-- In memory, until the session is closed. -/
  | memory
  /-- In a file, which lasts. -/
  | file
deriving DecidableEq, Repr

/-- What a cache is after the session that used it was closed. -/
def Storage.keep : Storage → Cache → Cache
  | .memory, _ => {}
  | .file, c => c

variable {σ : Type}

/-- Closes a session; it can be used on. -/
def close (storage : Storage) (s : Session σ) : Session σ :=
  { s with cache := storage.keep s.cache }

/-- Closes a session and opens another one, which has no failures. -/
def reopen (storage : Storage) (s : Session σ) : Session σ :=
  { s.close storage with failures := [] }

end Session

/-! ### Requests -/

section

variable {σ : Type}

/-- Sends a request. -/
def send (net : Network σ) (url : String) : StateM (Session σ) Reply := fun s =>
  let (reply, network) := (net url).run s.network
  (reply, { s with network, requests := s.requests ++ [url] })

/-- Tries to retrieve a document, and once more if that does not succeed. -/
def fetch (net : Network σ) (url : String) : StateM (Session σ) Attempt := do
  match (← send net url).attempt with
  | .success body d => return .success body d
  | _ => return (← send net url).attempt

/-- The document in the cache under a URL. The empty document counts as none. -/
def Cache.document? (c : Cache) (url : String) : Option Document :=
  (c.replies.row? url).bind fun row => row.value.bind fun text =>
    (Document.parse? text).bind Document.something?

/-- Notes a failure down. -/
def noteFailure (url : String) : StateM (Session σ) Unit :=
  modify fun s => { s with failures := s.failures ++ [url] }

/-- Writes a row into the cache. -/
def store (t : Cache.Table) (r : Row) : StateM (Session σ) Unit :=
  modify fun s => { s with cache := s.cache.insert t r }

/-- Retrieves a document from the network. -/
def retrieve (net : Network σ) (url : String) (caching : Bool) : Step σ (Option Document) :=
  ExceptT.mk do
    match ← fetch net url with
    | .success body d =>
      if caching then store .replies { key := some url, value := some body }
      return .ok d.something?
    | .failure =>
      noteFailure url
      return .ok none
    | .breakdown => return .error .breakdown

/-- The document under a URL, from the cache or else from the network. There is none if it cannot
be retrieved, and the empty document counts as none. -/
def request (net : Network σ) (url : String) (caching : Bool := true) :
    Step σ (Option Document) :=
  let url := Text.normalizeBlanks url
  ExceptT.mk do
    let cache := (← get).cache
    match if caching then cache.document? url else none with
    | some d => return .ok (some d)
    | none => (retrieve net url caching).run

end

end GraphTalk.Knowledge
