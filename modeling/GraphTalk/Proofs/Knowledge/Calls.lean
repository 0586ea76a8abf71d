import GraphTalk.Knowledge.Labels
import GraphTalk.Knowledge.TypeIndex
import GraphTalk.Proofs.Conversion.Composition

/-!
# Calls to a knowledge base

What can be done with a knowledge base, and what it is composed of. Every lookup is a sequence of
requests and of steps that leave the session alone, and so is every conversion. A property of
computations that sequences keep (`Sequential`) thus holds of all of them once it holds of requests
(`Requesting`). Labels of many entities are written to the cache as well.
-/

namespace GraphTalk.Knowledge

open Conversion (Composed Settings convert)

/-! ### Sequences -/

section

variable {m : Type → Type} [Monad m] {Q : ∀ ⦃α : Type⦄, m α → Prop} {ε α β : Type}

/-- A property of computations that holds of results and of sequences. -/
structure Sequential (Q : ∀ ⦃α : Type⦄, m α → Prop) : Prop where
  pure {α : Type} (a : α) : Q (pure a)
  bind {α β : Type} {x : m α} {g : α → m β} (hx : Q x) (hg : ∀ a, Q (g a)) : Q (x >>= g)

lemma Sequential.andThen (hQ : Sequential Q) {x : ExceptT ε m α} {g : α → ExceptT ε m β}
    (hx : Q x.run) (hg : ∀ a, Q (g a).run) : Q (x >>= g).run := by
  rw [ExceptT.run_bind]
  refine hQ.bind hx fun r => ?_
  cases r with
  | ok a => exact hg a
  | error e => exact hQ.pure _

/-- Failures are results too, so conversions are sequences. -/
lemma Sequential.composed (hQ : Sequential Q) :
    Composed fun α (x : ExceptT Conversion.Failure m α) => Q x.run where
  pure _ := hQ.pure _
  bind hx hg := hQ.andThen hx hg
  throw _ := hQ.pure _

lemma Sequential.ask (hQ : Sequential Q) {question : m (Except Fault α)} (h : Q question) :
    Q (Conversion.ask question).run := by
  refine hQ.bind h fun r => ?_
  cases r with
  | ok a => exact hQ.pure _
  | error fault => exact hQ.pure _

end

variable {σ : Type} {net : Network σ} {r : Remote σ} {α β : Type}
  {Q : ∀ ⦃α : Type⦄, StateM (Session σ) α → Prop}

lemma run_bind_of_run {S : Type} {x : StateM S α} {g : α → StateM S β} {s s' : S} {a : α}
    (h : x.run s = (a, s')) : (x >>= g).run s = (g a).run s' := by
  rw [StateT.run_bind, h]
  rfl

lemma run_pure_eq_ok_iff {s s' : Session σ} {a b : α} :
    (pure a : Step σ α).run.run s = (.ok b, s') ↔ a = b ∧ s = s' := by
  constructor
  · intro h
    cases h
    exact ⟨rfl, rfl⟩
  · rintro ⟨rfl, rfl⟩
    rfl

/-- A sequence of steps that returns returned at each of them. -/
lemma run_bind_eq_ok_iff {s s' : Session σ} {x : Step σ α} {g : α → Step σ β} {b : β} :
    (x >>= g).run.run s = (.ok b, s') ↔
      ∃ a s₁, x.run.run s = (.ok a, s₁) ∧ (g a).run.run s₁ = (.ok b, s') := by
  obtain ⟨result, s₁, hrun⟩ : ∃ result s₁, x.run.run s = (result, s₁) := ⟨_, _, rfl⟩
  rw [ExceptT.run_bind, run_bind_of_run hrun, hrun]
  cases result with
  | ok a =>
    constructor
    · intro h
      exact ⟨a, s₁, rfl, h⟩
    · rintro ⟨_, _, heq, h⟩
      cases heq
      exact h
  | error fault =>
    constructor
    · intro h
      cases h
    · rintro ⟨_, _, heq, -⟩
      cases heq

/-! ### Requests -/

/-- An attempt succeeds when there is an answer that says so and holds a document. -/
lemma Reply.eq_answer_of_attempt {reply : Reply} {body : String} {d : Document}
    (h : reply.attempt = .success body d) :
    ∃ status, reply = .answer status body ∧ isSuccess status = true ∧
      Document.parse? body = some d := by
  cases reply with
  | unreachable => cases h
  | breakdown => cases h
  | answer status text =>
    simp only [attempt] at h
    split at h
    · rename_i hstatus
      split at h
      · rename_i hd
        cases h
        exact ⟨status, rfl, hstatus, hd⟩
      · cases h
    · cases h

/-- What retrieving comes to, by what was fetched. -/
lemma run_retrieve_of_fetch {url : String} {caching : Bool} {attempt : Attempt}
    {s s₁ : Session σ} (h : (fetch net url).run s = (attempt, s₁)) :
    (retrieve net url caching).run.run s = match attempt with
      | .success body d =>
        (.ok d.something?, if caching
          then { s₁ with cache := s₁.cache.insert .replies ⟨some url, some body⟩ } else s₁)
      | .failure => (.ok none, { s₁ with failures := s₁.failures ++ [url] })
      | .breakdown => (.error .breakdown, s₁) := by
  rw [retrieve, ExceptT.run_mk, run_bind_of_run h]
  cases attempt with
  | success body d => cases caching <;> rfl
  | failure => rfl
  | breakdown => rfl

/-- What a request comes to, by what the cache holds. -/
lemma run_request (url : String) (caching : Bool) (s : Session σ) :
    (request net url caching).run.run s =
      match if caching then s.cache.document? (Text.normalizeBlanks url) else none with
      | some d => (.ok (some d), s)
      | none => (retrieve net (Text.normalizeBlanks url) caching).run.run s := by
  have hget : (get : StateM (Session σ) (Session σ)).run s = (s, s) := rfl
  rw [request, ExceptT.run_mk, run_bind_of_run hget]
  simp only
  cases if caching then s.cache.document? (Text.normalizeBlanks url) else none <;> rfl

/-! ### Lookups -/

/-- A property of computations that holds of results, of sequences and of requests. -/
structure Requesting (net : Network σ) (Q : ∀ ⦃α : Type⦄, StateM (Session σ) α → Prop) : Prop
    extends Sequential Q where
  request (url : String) (caching : Bool) : Q (request net url caching).run

namespace Requesting

variable (hQ : Requesting r.network Q)

include hQ

lemma query (sparql : String) : Q (r.query sparql).run :=
  hQ.andThen (hQ.request _ _) fun _ => hQ.pure _

lemma propertyValues (entity property : String) : Q (r.propertyValues entity property).run := by
  refine hQ.andThen (hQ.query _) fun rows => ?_
  cases rows with
  | none => exact hQ.pure _
  | some rows => exact hQ.pure _

lemma mostFrequentType (entity first : String) : Q (r.mostFrequentType entity first).run := by
  refine hQ.andThen (hQ.query _) fun rows => ?_
  cases rows with
  | none => exact hQ.pure _
  | some rows =>
    simp only
    split
    · exact hQ.pure _
    · exact hQ.pure _

lemma domain (entity : String) : Q (r.domain entity).run := by
  have hdeclared : Q (Remote.domain.declared r entity).run := by
    refine hQ.andThen (hQ.propertyValues _ _) fun values => ?_
    cases values with
    | nil => exact hQ.pure _
    | cons first others =>
      simp only
      split
      · exact hQ.pure _
      · exact hQ.andThen (hQ.mostFrequentType _ _) fun _ => hQ.pure _
  simp only [Remote.domain]
  split
  · split
    · exact hdeclared
    · exact hQ.pure _
  · exact hdeclared

lemma entity? (code : String) (part : EntityPart) : Q (r.entity? code part).run := by
  simp only [Remote.entity?]
  split
  · refine hQ.andThen (hQ.request _ _) fun d => ?_
    cases d with
    | none => exact hQ.pure _
    | some d => exact hQ.pure _
  · exact hQ.pure _

lemma label (code : String) : Q (r.label code).run :=
  hQ.andThen (hQ.entity? _ _) fun _ => hQ.pure _

lemma altLabels (code : String) : Q (r.altLabels code).run := by
  refine hQ.andThen (hQ.entity? _ _) fun entity => ?_
  cases entity with
  | none => exact hQ.pure _
  | some entity => exact hQ.pure _

/-! ### Conversions -/

lemma ask_domain (code : String) : Q (Conversion.ask (r.lookups.domain code)).run := by
  refine hQ.ask (hQ.bind (hQ.domain code) fun d => ?_)
  split
  · exact hQ.pure _
  · exact hQ.pure _
  · exact hQ.pure _

lemma display (settings : Settings) (spans : List String) (isQuestion : Bool) (entity : String) :
    Q (Conversion.display ⟨settings, r.lookups, spans, isQuestion⟩ entity).run := by
  refine hQ.andThen (hQ.ask (hQ.bind (hQ.label entity) fun _ => hQ.pure _)) fun label => ?_
  cases label with
  | none => exact hQ.pure _
  | some label =>
    refine hQ.andThen (hQ.pure _) fun span => ?_
    cases span with
    | some span => exact hQ.pure _
    | none =>
      refine hQ.andThen (hQ.ask (hQ.bind (hQ.altLabels entity) fun _ => hQ.pure _)) fun others => ?_
      refine hQ.andThen (hQ.pure _) fun span => ?_
      cases span with
      | some span => exact hQ.pure _
      | none => exact hQ.pure _

lemma convertQuery (settings : Settings) (q : Sparql.Query) (keywords : List String) :
    Q (Conversion.convertQuery settings r.lookups q keywords).run :=
  hQ.composed.convertQuery ⟨hQ.display settings _ _, hQ.ask_domain⟩

lemma convert (settings : Settings) (sparql : String) (keywords : List String) :
    Q (Conversion.convert settings r.lookups sparql keywords).run :=
  hQ.andThen (hQ.pure _) fun q => hQ.convertQuery settings q keywords

end Requesting

/-! ### Labels of many entities -/

/-- Different codes that are asked for at once. -/
structure IsBatch (batch : List String) : Prop where
  ne_nil : batch ≠ []
  nodup : batch.Nodup
  isCode : ∀ code ∈ batch, isCode code = true

lemma isBatch_of_mem_batches (n : Nat) {codes batch : List String} (hnodup : codes.Nodup)
    (hcodes : ∀ code ∈ codes, isCode code = true) (h : batch ∈ batches n codes) :
    IsBatch batch := by
  fun_induction batches n codes with
  | case1 => cases h
  | case2 code codes ih =>
    have htake : (code :: codes.take n).Sublist (code :: codes) :=
      (codes.take_sublist n).cons_cons _
    have hdrop : (codes.drop n).Sublist (code :: codes) := (codes.drop_sublist n).cons _
    rcases List.mem_cons.mp h with rfl | h
    · exact ⟨List.cons_ne_nil _ _, hnodup.sublist htake, fun c hc => hcodes c (htake.subset hc)⟩
    · exact ih (hnodup.sublist hdrop) (fun c hc => hcodes c (hdrop.subset hc)) h

/-- The codes that were seen are different, and they are those that there are. -/
lemma seenCodes (codes seen : List String) (h : seen.Nodup) :
    let all := codes.foldl (fun seen c => if seen.contains c then seen else seen ++ [c]) seen
    all.Nodup ∧ ∀ code, code ∈ all ↔ code ∈ seen ∨ code ∈ codes := by
  induction codes generalizing seen with
  | nil => simp [h]
  | cons c codes ih =>
    simp only [List.foldl_cons, List.contains_eq_mem, decide_eq_true_eq] at ih ⊢
    split
    · rename_i hc
      refine ⟨(ih seen h).1, fun code => ?_⟩
      rw [(ih seen h).2]
      grind
    · rename_i hc
      have hnodup : (seen ++ [c]).Nodup := by grind
      refine ⟨(ih _ hnodup).1, fun code => ?_⟩
      rw [(ih _ hnodup).2]
      grind

lemma nodup_distinctCodes (codes : List String) : (distinctCodes codes).Nodup :=
  (seenCodes codes [] List.nodup_nil).1.filter _

lemma mem_distinctCodes {code : String} {codes : List String} :
    code ∈ distinctCodes codes ↔ code ∈ codes ∧ isCode code = true := by
  rw [distinctCodes, List.mem_filter, (seenCodes codes [] List.nodup_nil).2]
  simp

lemma isBatch_of_mem_uncached (c : Cache) {n : Nat} {codes batch : List String}
    (h : batch ∈ batches n (uncached c (distinctCodes codes))) : IsBatch batch := by
  have hsublist := List.filter_sublist (p := fun code => (c.labels.row? code).isNone)
    (l := distinctCodes codes)
  exact isBatch_of_mem_batches n ((nodup_distinctCodes codes).sublist hsublist)
    (fun code hcode => (mem_distinctCodes.mp (hsublist.subset hcode)).2) h

lemma fitting_ok (a : α) : (fitting (.ok a) : Step σ α) = pure a := rfl

lemma run_fitting_eq_ok_iff {s s' : Session σ} {r : Except Document.Mismatch α} {a : α} :
    (fitting r : Step σ α).run.run s = (.ok a, s') ↔ r = .ok a ∧ s' = s := by
  cases r with
  | ok b =>
    constructor
    · intro h
      cases h
      exact ⟨rfl, rfl⟩
    · rintro ⟨h, rfl⟩
      cases h
      rfl
  | error e =>
    refine iff_of_false (fun h => ?_) (by simp)
    cases h

/-- The entities in a reply about entities. -/
def entitiesOf (d : Document) : Except Document.Mismatch (List (String × Document)) := do
  (← d.part "entities").members

/-- Takes the labels in a reply over. -/
def takeReply (table : LabelTable) (d : Document) : Step σ LabelTable := do
  if ← fitting (d.holds "entities") then takeLabels table (← fitting (entitiesOf d))
  else return table

lemma askBatch_eq (table : LabelTable) (batch : List String) :
    askBatch r table batch = (do
      match ← request r.network (entitiesUrl batch .labels) with
      | none => return table
      | some d => takeReply table d) := rfl

namespace Sequential

variable (hQ : Sequential Q)

include hQ

lemma takeLabel {code : String} {entity : Document}
    (hstore : ∀ label, isItself code entity = .ok true → optionalLabel entity = .ok label →
      Q (storeLabel code label : Step σ Unit).run) (table : LabelTable) :
    Q (takeLabel table code entity : Step σ LabelTable).run := by
  simp only [Knowledge.takeLabel]
  split
  · exact hQ.pure _
  · cases hitself : isItself code entity with
    | error mismatch => exact hQ.pure _
    | ok itself =>
      cases itself with
      | false => exact hQ.pure _
      | true =>
        cases hlabel : optionalLabel entity with
        | error mismatch => exact hQ.pure _
        | ok label =>
          simp only [fitting_ok, pure_bind, if_true]
          exact hQ.andThen (hstore label hitself hlabel) fun _ => hQ.pure _

lemma takeLabels {entities : List (String × Document)}
    (hstore : ∀ e ∈ entities, ∀ label, isItself e.1 e.2 = .ok true →
      optionalLabel e.2 = .ok label → Q (storeLabel e.1 label : Step σ Unit).run)
    (table : LabelTable) : Q (takeLabels table entities : Step σ LabelTable).run := by
  induction entities generalizing table with
  | nil => exact hQ.pure _
  | cons entity entities ih =>
    refine hQ.andThen (hQ.takeLabel (hstore entity List.mem_cons_self) table) fun table => ?_
    exact ih (fun e he => hstore e (List.mem_cons_of_mem _ he)) table

lemma takeReply {d : Document}
    (hstore : ∀ entities, entitiesOf d = .ok entities → ∀ e ∈ entities, ∀ label,
      isItself e.1 e.2 = .ok true → optionalLabel e.2 = .ok label →
        Q (storeLabel e.1 label : Step σ Unit).run)
    (table : LabelTable) : Q (takeReply table d : Step σ LabelTable).run := by
  refine hQ.andThen (hQ.pure _) fun holds => ?_
  split
  · cases hentities : entitiesOf d with
    | error mismatch => exact hQ.pure _
    | ok entities =>
      simp only [fitting_ok, pure_bind]
      exact hQ.takeLabels (hstore entities hentities) table
  · exact hQ.pure _

lemma askBatches {batches : List (List String)} (hbatches : ∀ batch ∈ batches, IsBatch batch)
    (hask : ∀ table batch, IsBatch batch → Q (askBatch r table batch).run) (table : LabelTable) :
    Q (askBatches r table batches).run := by
  induction batches generalizing table with
  | nil => exact hQ.pure _
  | cons batch batches ih =>
    obtain ⟨hbatch, hbatches⟩ := List.forall_mem_cons.mp hbatches
    exact hQ.andThen (hask table batch hbatch) (ih hbatches)

lemma labelsByBatch (hget : Q (get : Step σ (Session σ)).run)
    (hask : ∀ table batch, IsBatch batch → Q (askBatch r table batch).run) (codes : List String) :
    Q (r.labelsByBatch codes).run :=
  hQ.andThen hget fun s => hQ.askBatches (fun _ => isBatch_of_mem_uncached s.cache) hask _

end Sequential

/-- Labels of one batch, when labels can be stored at any time. -/
lemma Requesting.askBatch (hQ : Requesting r.network Q)
    (hstore : ∀ code label, Q (storeLabel code label : Step σ Unit).run) (table : LabelTable)
    (batch : List String) : Q (askBatch r table batch).run := by
  rw [askBatch_eq]
  refine hQ.andThen (hQ.request _ _) fun d => ?_
  cases d with
  | none => exact hQ.pure _
  | some d => exact hQ.takeReply (fun _ _ _ _ _ _ _ => hstore _ _) table

/-! ### Calls -/

/-- What can be done with a knowledge base. -/
inductive Call where
  | request (url : String) (caching : Bool)
  | query (sparql : String)
  | propertyValues (entity property : String)
  | domain (entity : String)
  | label (code : String)
  | altLabels (code : String)
  | labelsByBatch (codes : List String)
  | convert (settings : Settings) (sparql : String) (keywords : List String)
  | close (storage : Session.Storage)
  | reopen (storage : Session.Storage)

/-- The session after a call, whatever the call comes to. -/
def Call.after {σ : Type} (r : Remote σ) (s : Session σ) : Call → Session σ
  | .request url caching => ((Knowledge.request r.network url caching).run.run s).2
  | .query sparql => ((r.query sparql).run.run s).2
  | .propertyValues entity property => ((r.propertyValues entity property).run.run s).2
  | .domain entity => ((r.domain entity).run.run s).2
  | .label code => ((r.label code).run.run s).2
  | .altLabels code => ((r.altLabels code).run.run s).2
  | .labelsByBatch codes => ((r.labelsByBatch codes).run.run s).2
  | .convert settings sparql keywords =>
    ((Conversion.convert settings r.lookups sparql keywords).run.run s).2
  | .close storage => s.close storage
  | .reopen storage => s.reopen storage

/-- Whether the cache is lost with a call. -/
def Call.losesCache : Call → Bool
  | .close storage => storage == .memory
  | .reopen storage => storage == .memory
  | _ => false

/-- The session after calls. When a session is opened again its type index may be another one, so
each call is made with one. -/
def Session.after (net : Network σ) (s : Session σ) (calls : List (TypeIndex × Call)) : Session σ :=
  calls.foldl (fun s call => call.2.after { network := net, types := call.1 } s) s

/-- A computation leads from every session to one that is related to it. -/
def Leads (R : Session σ → Session σ → Prop) ⦃α : Type⦄ (x : StateM (Session σ) α) : Prop :=
  ∀ s, R s (x.run s).2

section

variable {R : Session σ → Session σ → Prop} (hrefl : ∀ s, R s s)
  (htrans : ∀ {s s₁ s₂}, R s s₁ → R s₁ s₂ → R s s₂)

include hrefl htrans

lemma leads_sequential : Sequential (Leads R) where
  pure _ s := hrefl s
  bind hx hg s := htrans (hx s) (hg _ _)

/-- Where requests and batches lead, every call leads. -/
lemma Call.leads (hrequest : ∀ url caching, Leads R (Knowledge.request r.network url caching).run)
    (hask : ∀ table batch, IsBatch batch → Leads R (askBatch r table batch).run) (s : Session σ)
    (call : Call)
    (hclose : ∀ storage, call = .close storage → R s (s.close storage))
    (hreopen : ∀ storage, call = .reopen storage → R s (s.reopen storage)) :
    R s (call.after r s) := by
  have hsequential := leads_sequential hrefl htrans
  have hrequesting : Requesting r.network (Leads R) := { hsequential with request := hrequest }
  cases call with
  | request url caching => exact hrequest url caching s
  | query sparql => exact hrequesting.query sparql s
  | propertyValues entity property => exact hrequesting.propertyValues entity property s
  | domain entity => exact hrequesting.domain entity s
  | label code => exact hrequesting.label code s
  | altLabels code => exact hrequesting.altLabels code s
  | labelsByBatch codes => exact hsequential.labelsByBatch hrefl hask codes s
  | convert settings sparql keywords => exact hrequesting.convert settings sparql keywords s
  | close storage => exact hclose storage rfl
  | reopen storage => exact hreopen storage rfl

end

end GraphTalk.Knowledge
