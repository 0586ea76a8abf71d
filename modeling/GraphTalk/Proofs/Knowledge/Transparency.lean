import GraphTalk.Proofs.Knowledge.Outcomes
import GraphTalk.Proofs.Knowledge.Urls

/-!
# The cache is transparent

On a network that always makes the same of a URL, it does not matter to a lookup or a conversion
what earlier ones have left in the cache: it has the same result and notes the same failures down
as with an empty cache (`cache_transparent`).

All that requests put into the cache is what the network replies (`Cache.Mirrors`). Over such a
cache a request has one result, and so has whatever is composed of requests (`Steady`). Which one
that is follows for lookups and displays from what the network makes of their URLs (`SettlesOn`).
-/

namespace GraphTalk.Knowledge

open Conversion (Composed Settings convert)

variable {f : String → Reply} {c : Cache} {url : String}

/-! ### Caches that mirror a network -/

/-- Every reply in the cache is the one that the network makes. -/
def Cache.Mirrors (f : String → Reply) (c : Cache) : Prop :=
  ∀ row ∈ c.replies, ∃ url body d, row = ⟨some url, some body⟩ ∧ (f url).attempt = .success body d

namespace Cache

lemma mirrors_empty : Mirrors f {} := by
  intro row hrow
  cases hrow

lemma Mirrors.insert_reply {body : String} {d : Document} (h : c.Mirrors f)
    (hreply : (f url).attempt = .success body d) :
    (c.insert .replies ⟨some url, some body⟩).Mirrors f := by
  intro row hrow
  simp only [insert, Rows.insert] at hrow
  split at hrow
  · exact h row hrow
  · rcases List.mem_append.mp hrow with hrow | hrow
    · exact h row hrow
    · exact ⟨url, body, d, List.mem_singleton.mp hrow, hreply⟩

lemma Mirrors.insert_label (h : c.Mirrors f) (row : Row) : (c.insert .labels row).Mirrors f := h

lemma Mirrors.keep (h : c.Mirrors f) (storage : Session.Storage) : (storage.keep c).Mirrors f := by
  cases storage with
  | memory => exact mirrors_empty
  | file => exact h

end Cache

/-- A document in the cache is the one that the network has. -/
lemma Cache.Mirrors.attempt_eq {d : Document} (h : c.Mirrors f) (hd : c.document? url = some d) :
    ∃ body e, (f url).attempt = .success body e ∧ e.something? = some d := by
  obtain ⟨row, hrow, hdocument⟩ := Option.bind_eq_some_iff.mp hd
  obtain ⟨u, body, e, rfl, hreply⟩ := h row (List.mem_of_find?_eq_some hrow)
  obtain rfl : u = url := by simpa [Row.get] using List.find?_some hrow
  obtain ⟨_, -, -, he⟩ := Reply.eq_answer_of_attempt hreply
  exact ⟨body, e, hreply, by simpa [he] using hdocument⟩

/-! ### Steady computations -/

variable {α β : Type}

/-- Over every cache that mirrors the network a computation has one result and notes one list of
failures down. The cache still mirrors the network then. -/
def SettlesOn (f : String → Reply) (x : StateM (Session Unit) α) (a : α) (noted : List String) :
    Prop :=
  ∀ s : Session Unit, s.cache.Mirrors f →
    ∃ s', x.run s = (a, s') ∧ s'.failures = s.failures ++ noted ∧ s'.cache.Mirrors f

/-- A computation whose result and failures do not depend on the cache. -/
def Steady (f : String → Reply) ⦃α : Type⦄ (x : StateM (Session Unit) α) : Prop :=
  ∃ a noted, SettlesOn f x a noted

lemma SettlesOn.pure (a : α) : SettlesOn f (pure a) a [] :=
  fun s hs => ⟨s, rfl, by simp, hs⟩

lemma SettlesOn.bind {x : StateM (Session Unit) α} {g : α → StateM (Session Unit) β} {a : α} {b : β}
    {noted noted' : List String} (hx : SettlesOn f x a noted) (hg : SettlesOn f (g a) b noted') :
    SettlesOn f (x >>= g) b (noted ++ noted') := by
  intro s hs
  obtain ⟨s₁, hrun, hfailures, hs₁⟩ := hx s hs
  obtain ⟨s₂, hrun', hfailures', hs₂⟩ := hg s₁ hs₁
  refine ⟨s₂, ?_, ?_, hs₂⟩
  · rw [run_bind_of_run hrun, hrun']
  · rw [hfailures', hfailures, List.append_assoc]

lemma SettlesOn.map {x : StateM (Session Unit) α} {a : α} {noted : List String} (g : α → β)
    (h : SettlesOn f x a noted) : SettlesOn f (g <$> x) (g a) noted := by
  rw [map_eq_pure_bind, ← List.append_nil noted]
  exact h.bind (.pure _)

lemma steady_sequential : Sequential (Steady f) where
  pure a := ⟨a, [], .pure a⟩
  bind hx hg := by
    obtain ⟨a, _, hx⟩ := hx
    obtain ⟨b, _, hg⟩ := hg a
    exact ⟨b, _, hx.bind hg⟩

/-! ### Requests -/

/-- What a request comes to by the attempt to retrieve a document. -/
def Attempt.result : Attempt → Except Fault (Option Document)
  | .success _ d => .ok d.something?
  | .failure => .ok none
  | .breakdown => .error .breakdown

/-- What is noted down of an attempt to retrieve the document under a URL. -/
def Attempt.noted (url : String) : Attempt → List String
  | .failure => [url]
  | _ => []

/-- What is delivered is what the network always makes of the URL. -/
lemma Network.Delivers.attempt_eq {n n' : Unit} {body : String} {d : Document}
    {sent : List String} (h : (Network.constant f).Delivers url n body d sent n') :
    (f url).attempt = .success body d := by
  cases h with
  | first h hreply =>
    rw [← hreply.attempt_eq]
    exact congrArg (·.1.attempt) h
  | second h hagain =>
    obtain ⟨_, _, -, -, hsecond⟩ := h
    rw [← hagain.attempt_eq]
    exact congrArg (·.1.attempt) hsecond

/-- A request comes to what the network makes of it, whether it is in the cache or not. -/
lemma settlesOn_request (url : String) (caching : Bool) :
    let attempt := (f (Text.normalizeBlanks url)).attempt
    SettlesOn f (request (.constant f) url caching).run attempt.result
      (attempt.noted (Text.normalizeBlanks url)) := by
  intro attempt s hs
  obtain ⟨result, s', h⟩ :=
    exists_requested (.constant f) (Text.normalizeBlanks url) caching s
  suffices hsettles : result = attempt.result ∧
      s'.failures = s.failures ++ attempt.noted (Text.normalizeBlanks url) ∧ s'.cache.Mirrors f by
    obtain ⟨rfl, hfailures, hs'⟩ := hsettles
    exact ⟨s', h.run_eq, hfailures, hs'⟩
  cases h with
  | hit hcaching hd =>
    obtain ⟨body, e, hattempt, he⟩ := hs.attempt_eq (Cache.document?_eq_some_iff.mpr hd)
    simp [attempt, hattempt, Attempt.result, Attempt.noted, he, hs]
  | success hmiss hd =>
    have hattempt := hd.attempt_eq
    refine ⟨by simp [attempt, hattempt, Attempt.result],
      by simp [attempt, hattempt, Attempt.noted], ?_⟩
    rw [← Cache.withReply_eq]
    split
    · exact hs.insert_reply hattempt
    · exact hs
  | @failure again _ hmiss h hagain =>
    obtain ⟨_, _, -, -, hsecond⟩ := h
    have hattempt : attempt = .failure := by
      rw [← hagain.attempt_eq]
      exact congrArg (·.1.attempt) hsecond
    simp [hattempt, Attempt.result, Attempt.noted, hs]
  | breakdown hmiss h =>
    obtain ⟨_, _, -, -, hsecond⟩ := h
    have hattempt : attempt = .breakdown := congrArg (·.1.attempt) hsecond
    simp [hattempt, Attempt.result, Attempt.noted, hs]

lemma steady_request (url : String) (caching : Bool) :
    Steady f (request (.constant f) url caching).run :=
  ⟨_, _, settlesOn_request url caching⟩

/-- A knowledge base on a network that always makes the same of a URL. -/
abbrev Remote.constant (f : String → Reply) (types : TypeIndex) : Remote Unit where
  network := .constant f
  types := types

lemma steady_requesting (f : String → Reply) (types : TypeIndex) :
    Requesting (Remote.constant f types).network (Steady f) :=
  { steady_sequential with request := steady_request }

/-! ### Names -/

section

variable {types : TypeIndex} {code : String} {noted : List String}
  {found : Except Fault (Option Document)}

end

/-! ### Entities that nothing mentions -/

section

open Conversion

variable {sc : Scope (StateM (Session Unit))} {code : String} {noted noted' : List String}

end

/-! ### Histories -/

/-- The session after calls to a new knowledge base. When a session is opened again its type index
may be another one, so each call is made with one. -/
def afterCalls (f : String → Reply) (calls : List (TypeIndex × Call)) : Session Unit :=
  calls.foldl (fun s call => call.2.after (.constant f call.1) s) { network := () }

/-- If the cache mirrored the network, it still does. -/
def KeepsMirror (f : String → Reply) (s s' : Session Unit) : Prop :=
  s.cache.Mirrors f → s'.cache.Mirrors f

lemma KeepsMirror.refl (s : Session Unit) : KeepsMirror f s s := id

lemma KeepsMirror.trans {s s₁ s₂ : Session Unit} (h : KeepsMirror f s s₁)
    (h' : KeepsMirror f s₁ s₂) : KeepsMirror f s s₂ :=
  h' ∘ h

lemma Steady.keepsMirror {x : StateM (Session Unit) α} (h : Steady f x) :
    Leads (KeepsMirror f) x := by
  intro s hs
  obtain ⟨_, _, h⟩ := h
  obtain ⟨s', hrun, _, hs'⟩ := h s hs
  rw [hrun]
  exact hs'

lemma keepsMirror_requesting (f : String → Reply) (types : TypeIndex) :
    Requesting (Remote.constant f types).network (Leads (KeepsMirror f)) :=
  { leads_sequential KeepsMirror.refl KeepsMirror.trans with
    request := fun url caching => (steady_request url caching).keepsMirror }

lemma keepsMirror_storeLabel (code : String) (label : Document) :
    Leads (KeepsMirror f) (storeLabel code label : Step Unit Unit).run := by
  simp only [storeLabel]
  split
  · exact fun s hs => hs.insert_label _
  · exact fun s => KeepsMirror.refl s

lemma Call.mirrors {types : TypeIndex} {s : Session Unit} (call : Call) (hs : s.cache.Mirrors f) :
    (call.after (.constant f types) s).cache.Mirrors f := by
  have hrequesting := keepsMirror_requesting f types
  have hmirror : KeepsMirror f s (call.after (.constant f types) s) :=
    Call.leads KeepsMirror.refl KeepsMirror.trans hrequesting.request
      (fun table batch _ => hrequesting.askBatch keepsMirror_storeLabel table batch) s call
      (fun storage _ hs => hs.keep storage) (fun storage _ hs => hs.keep storage)
  exact hmirror hs

/-- Whatever has been asked of a network, the cache holds nothing but its replies. -/
lemma afterCalls_mirrors (f : String → Reply) (calls : List (TypeIndex × Call)) :
    (afterCalls f calls).cache.Mirrors f := by
  have hcalls : ∀ s : Session Unit, s.cache.Mirrors f →
      (calls.foldl (fun s call => call.2.after (.constant f call.1) s) s).cache.Mirrors f := by
    induction calls with
    | nil => exact fun s hs => hs
    | cons call calls ih => exact fun s hs => ih _ (call.2.mirrors hs)
  exact hcalls _ Cache.mirrors_empty

/-- With the cache of a session a computation has the same result and notes the same failures down
as with an empty cache. -/
def Transparent (s : Session Unit) (x : StateM (Session Unit) α) : Prop :=
  (x.run s).1 = (x.run { s with cache := {} }).1 ∧
    ∃ noted, (x.run s).2.failures = s.failures ++ noted ∧
      (x.run { s with cache := {} }).2.failures = s.failures ++ noted

lemma Steady.transparent {x : StateM (Session Unit) α} {s : Session Unit} (h : Steady f x)
    (hs : s.cache.Mirrors f) : Transparent s x := by
  obtain ⟨a, noted, h⟩ := h
  obtain ⟨s₁, hrun₁, hfailures₁, _⟩ := h s hs
  obtain ⟨s₂, hrun₂, hfailures₂, _⟩ := h { s with cache := {} } Cache.mirrors_empty
  refine ⟨?_, noted, ?_, ?_⟩
  · rw [hrun₁, hrun₂]
  · rw [hrun₁, hfailures₁]
  · rw [hrun₂, hfailures₂]

/-- After any calls to a knowledge base on a network that always makes the same of a URL, its cache
is transparent to every lookup about an entity and to every conversion. -/
theorem cache_transparent (f : String → Reply) (types : TypeIndex)
    (calls : List (TypeIndex × Call)) :
    let r := Remote.constant f types
    let s := afterCalls f calls
    (∀ entity property, Transparent s (r.propertyValues entity property).run) ∧
    (∀ entity, Transparent s (r.domain entity).run) ∧
    (∀ code, Transparent s (r.label code).run) ∧
    (∀ code, Transparent s (r.altLabels code).run) ∧
    ∀ settings sparql keywords,
      Transparent s (convert settings r.lookups sparql keywords).run := by
  intro r s
  have hs : s.cache.Mirrors f := afterCalls_mirrors f calls
  have hsteady := steady_requesting f types
  refine ⟨?_, ?_, ?_, ?_, ?_⟩
  · exact fun entity property => (hsteady.propertyValues entity property).transparent hs
  · exact fun entity => (hsteady.domain entity).transparent hs
  · exact fun code => (hsteady.label code).transparent hs
  · exact fun code => (hsteady.altLabels code).transparent hs
  · exact fun settings sparql keywords => (hsteady.convert settings sparql keywords).transparent hs

-- What does depend on the cache is which requests go out: here the second one does not.
example :
    (afterCalls (fun _ => .answer 200 "1")
      [([], .request "u" true), ([], .request "u" true)]).requests = ["u"] := by
  rfl

end GraphTalk.Knowledge
