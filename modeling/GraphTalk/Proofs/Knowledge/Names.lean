import GraphTalk.Proofs.Document.RoundTrip
import GraphTalk.Proofs.Knowledge.Outcomes
import GraphTalk.Proofs.Knowledge.Urls
import GraphTalk.Proofs.Result

/-!
# Names that are always given

On a network that never breaks down, asking for the label or for the other names of an entity gives
an answer whatever is replied, with one exception: an object that has entities which are no object
(`names_given_iff`). Nothing in the reply after that can go wrong.
-/

namespace GraphTalk.Knowledge

/-- The entities in a document are there, but they are no object. -/
def Misshapen (d : Document) : Prop :=
  ∃ members entities, d = .object members ∧ members.lookup "entities" = some entities ∧
    ∀ inner, entities ≠ .object inner

/-- The first entity is looked for in vain, or found, or the entities are misshapen. -/
lemma firstEntity?_eq_error_iff {d : Document} {mismatch : Document.Mismatch} :
    firstEntity? d = .error mismatch ↔ Misshapen d ∧ mismatch = .wrongKind := by
  cases d with
  | object members =>
    cases hentities : members.lookup "entities" with
    | none => simp [firstEntity?, Document.part, hentities, Misshapen]
    | some entities =>
      cases entities with
      | object inner =>
        simp [firstEntity?, Document.part, hentities, Misshapen, Document.members, Except.map]
      | _ =>
        simp [firstEntity?, Document.part, hentities, Misshapen, Document.members, Except.map,
          eq_comm]
  | _ => simp [firstEntity?, Document.part, Misshapen]

variable {σ : Type} {net : Network σ} {r : Remote σ} {url : String} {s : Session σ}
  {code : String} {part : EntityPart}

/-- A network always replies, or is out of reach. -/
def Network.NeverBreaks (net : Network σ) : Prop := ∀ url n, ((net url).run n).1 ≠ .breakdown

/-- On a network that never breaks down a request has a result. -/
lemma Network.NeverBreaks.request_ok (hnet : net.NeverBreaks) (url : String) (s : Session σ) :
    ∃ d s', (request net url).run.run s = (.ok d, s') := by
  obtain ⟨result, s', houtcome⟩ := exists_requested net (Text.normalizeBlanks url) true s
  cases result with
  | ok d => exact ⟨d, s', houtcome.run_eq⟩
  | error fault =>
    cases houtcome with
    | breakdown _ h =>
      obtain ⟨_, n₁, -, -, hagain⟩ := h
      exact absurd (congrArg Prod.fst hagain) (hnet _ n₁)

/-- An entity is asked for, and what the cache or the network has is misshapen. -/
def Remote.Misled (r : Remote σ) (s : Session σ) (code : String) (part : EntityPart) : Prop :=
  isCode code = true ∧
    ∃ d s', Requested r.network (entitiesUrl [code] part) true s (.ok (some d)) s' ∧ Misshapen d

/-- Whether a knowledge base is misled shows in what its request returns. -/
lemma misled_iff {found : Option Document} {s' : Session σ} (hcode : isCode code = true)
    (h : (request r.network (entitiesUrl [code] part)).run.run s = (.ok found, s')) :
    r.Misled s code part ↔ ∃ d, found = some d ∧ Misshapen d := by
  have hrequested : Requested r.network (entitiesUrl [code] part) true s (.ok found) s' := by
    simpa using Requested.of_run h
  constructor
  · rintro ⟨-, d, s'', hd, hmisshapen⟩
    rw [← normalizeBlanks_entitiesUrl] at hd
    obtain ⟨hfound, -⟩ := Prod.mk.inj (h.symm.trans hd.run_eq)
    exact ⟨d, Except.ok.inj hfound, hmisshapen⟩
  · rintro ⟨d, rfl, hmisshapen⟩
    exact ⟨hcode, d, s', hrequested, hmisshapen⟩

/-- What is asked for about an entity cannot be told exactly if the knowledge base is misled. -/
lemma entity?_eq_error_iff (hnet : r.network.NeverBreaks) {fault : Fault} :
    ((r.entity? code part).run.run s).1 = .error fault ↔
      r.Misled s code part ∧ fault = .mismatch .wrongKind := by
  cases hcode : isCode code with
  | false =>
    rw [Remote.entity?, hcode]
    simp only [Remote.Misled, hcode, Bool.false_eq_true, if_false, false_and, iff_false]
    intro h
    cases h
  | true =>
    obtain ⟨found, s', hrequest⟩ := hnet.request_ok (entitiesUrl [code] part) s
    rw [misled_iff hcode hrequest, Remote.entity?, if_pos hcode, ExceptT.run_bind,
      run_bind_of_run hrequest]
    cases found with
    | none =>
      simp only [reduceCtorEq, false_and, exists_false, iff_false]
      intro h
      cases h
    | some d =>
      show reaching (firstEntity? d) = .error fault ↔ _
      cases hentity : firstEntity? d with
      | ok entity =>
        have hshape : ¬ Misshapen d := fun h => by
          rw [firstEntity?_eq_error_iff.mpr ⟨h, rfl⟩] at hentity
          cases hentity
        simp [reaching, Except.mapError, hshape]
      | error mismatch =>
        obtain ⟨hshape, rfl⟩ := firstEntity?_eq_error_iff.mp hentity
        simp [reaching, Except.mapError, hshape, eq_comm]

/-- A lookup that goes on from the entity without a fault has a fault where that has one. -/
lemma fault_of_bind {α β : Type} {x : Step σ α} {g : α → Step σ β}
    (hg : ∀ a, ∃ b, g a = pure b) (fault : Fault) :
    ((x >>= g).run.run s).1 = .error fault ↔ (x.run.run s).1 = .error fault := by
  obtain ⟨result, s', hx⟩ : ∃ result s', x.run.run s = (result, s') := ⟨_, _, rfl⟩
  rw [ExceptT.run_bind, run_bind_of_run hx, hx]
  cases result with
  | error e =>
    show (.error e : Except Fault β) = .error fault ↔ (.error e : Except Fault α) = .error fault
    simp only [Except.error.injEq]
  | ok a =>
    obtain ⟨b, hb⟩ := hg a
    simp only [hb]
    exact iff_of_false nofun nofun

lemma label_eq_error_iff (hnet : r.network.NeverBreaks) {fault : Fault} :
    ((r.label code).run.run s).1 = .error fault ↔
      r.Misled s code .labels ∧ fault = .mismatch .wrongKind := by
  rw [← entity?_eq_error_iff hnet]
  exact fault_of_bind (fun entity => ⟨Option.bind entity entityLabel?, rfl⟩) fault

lemma altLabels_eq_error_iff (hnet : r.network.NeverBreaks) {fault : Fault} :
    ((r.altLabels code).run.run s).1 = .error fault ↔
      r.Misled s code .aliases ∧ fault = .mismatch .wrongKind := by
  rw [← entity?_eq_error_iff hnet]
  refine fault_of_bind (fun entity => ?_) fault
  cases entity with
  | none => exact ⟨[], rfl⟩
  | some entity => exact ⟨entityAliases entity, rfl⟩

/-- On a network that never breaks down, in every session, the label and the other names of an
entity are given exactly if the knowledge base is not misled about it; there is one kind of
fault. -/
theorem names_given_iff (net : Network σ) (hnet : net.NeverBreaks) (types : TypeIndex)
    (s : Session σ) (code : String) :
    let r : Remote σ := { network := net, types }
    ((∃ name, ((r.label code).run.run s).1 = .ok name) ↔ ¬ r.Misled s code .labels) ∧
    ((∃ names, ((r.altLabels code).run.run s).1 = .ok names) ↔ ¬ r.Misled s code .aliases) ∧
    ∀ fault, ((r.label code).run.run s).1 = .error fault ∨
      ((r.altLabels code).run.run s).1 = .error fault → fault = .mismatch .wrongKind := by
  intro r
  refine ⟨exists_eq_ok_iff fun fault => label_eq_error_iff hnet,
    exists_eq_ok_iff fun fault => altLabels_eq_error_iff hnet, fun fault hfault => ?_⟩
  rcases hfault with hfault | hfault
  · exact ((label_eq_error_iff hnet).mp hfault).2
  · exact ((altLabels_eq_error_iff hnet).mp hfault).2

/-! ### Networks with one document -/

/-- The network that replies a document to everything. -/
def Network.always (d : Document) : Network Unit := .constant fun _ => .answer 200 d.write

section

variable {d : Document} {types : TypeIndex}

lemma neverBreaks_always (d : Document) : (Network.always d).NeverBreaks := by
  intro url n h
  cases h

/-- A network with one document misleads if it is misshapen. -/
lemma misled_always_iff (hd : d.IsProper) (hnull : d ≠ .null) (hcode : isCode code = true) :
    Remote.Misled { network := Network.always d, types } { network := () } code part ↔
      Misshapen d := by
  have hmiss : ∀ url, true = true → ∀ e,
      ¬ ({ network := () } : Session Unit).cache.Holds url e := by
    rintro url - e ⟨_, _, ⟨-, _, _, hrows, -⟩, -⟩
    simp at hrows
  have houtcome : Requested (Network.always d) (Text.normalizeBlanks (entitiesUrl [code] part))
      true { network := () } (.ok d.something?) _ :=
    .success (hmiss _) (.first rfl (.answer (by decide) (by decide) (Document.parse?_write hd)))
  have hrun := houtcome.run_eq
  rw [something?_eq_some_iff.mpr ⟨rfl, hnull⟩] at hrun
  rw [misled_iff (r := { network := Network.always d, types }) hcode hrun]
  simp only [Option.some.injEq, exists_eq_left']

end

/-- A network that replies a text where an entity should be: there is no label, and no fault. -/
theorem names_given_iff_worded :
    let r : Remote Unit :=
      { network := .always (.object [("entities", .object [("Q46", .text "Europe")])]) }
    r.network.NeverBreaks ∧ ¬ r.Misled { network := () } "Q46" .labels ∧
      ∃ name, ((r.label "Q46").run.run { network := () }).1 = .ok name := by
  intro r
  have hentities := Document.IsProper.single (.text "Europe") "Q46"
  have hmisled : ¬ r.Misled { network := () } "Q46" .labels := by
    rw [misled_always_iff (hentities.single "entities") Document.noConfusion (by decide)]
    rintro ⟨_, _, hd, hentities, hforeign⟩
    cases hd
    cases hentities
    exact hforeign _ rfl
  have hnet : r.network.NeverBreaks := neverBreaks_always _
  exact ⟨hnet, hmisled, (names_given_iff r.network hnet [] _ _).1.mpr hmisled⟩

/-- A network that replies a list where the entities should be: neither the label nor the other
names are given. -/
theorem names_not_given :
    let r : Remote Unit := { network := .always (.object [("entities", .array [])]) }
    ((r.label "Q46").run.run { network := () }).1 = .error (.mismatch .wrongKind) ∧
      ((r.altLabels "Q46").run.run { network := () }).1 = .error (.mismatch .wrongKind) := by
  intro r
  have hentities : (Document.array []).IsProper := .array (by simp)
  have hmisled : ∀ part, r.Misled { network := () } "Q46" part := by
    intro part
    rw [misled_always_iff (hentities.single "entities") Document.noConfusion (by decide)]
    refine ⟨_, .array [], rfl, rfl, fun inner h => ?_⟩
    cases h
  have hnet : r.network.NeverBreaks := neverBreaks_always _
  exact ⟨(label_eq_error_iff hnet).mpr ⟨hmisled .labels, rfl⟩,
    (altLabels_eq_error_iff hnet).mpr ⟨hmisled .aliases, rfl⟩⟩

end GraphTalk.Knowledge
