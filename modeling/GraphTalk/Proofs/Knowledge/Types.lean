import GraphTalk.Proofs.Document.RoundTrip
import GraphTalk.Proofs.Knowledge.Answers
import GraphTalk.Proofs.Result

/-!
# The type of an entity

Where a network tells the declared types of an entity and how many instances they have, the type of
the entity is one of the declared ones, with one exception: counting reads the first value as the
address of an entity without asking whether it is one (`domain_declared_iff`).
-/

namespace GraphTalk.Knowledge

open Rdf (instanceOf)
open Remote (evidentType?)

variable {σ : Type} {net : Network σ} {url : String} {s : Session σ}

/-! ### Replies to queries -/

/-- A row of a reply tells a value for its variable. -/
def TellsValue (row : Document) (value : String) : Prop :=
  ∃ binding, row.part "v" = .ok binding ∧ binding.part "value" = .ok (.text value)

/-- A document tells values: it is the reply to a query, with a row for each of them. -/
def TellsValues (values : List String) (d : Document) : Prop :=
  ∃ results rows, d.part "results" = .ok results ∧ results.part "bindings" = .ok (.array rows) ∧
    List.Forall₂ TellsValue rows values

/-- A text without the characters that addresses start with, whatever they are. -/
def pastAddress (value : String) : String :=
  String.ofList (value.toList.drop entityAddress.length)

/-- A text is the address of an entity. -/
def IsAddress (value : String) : Prop := ∃ code, value = entityAddress ++ code

section

variable {row : Document} {rows : List Document} {value : String} {values : List String}
  {d : Document}

lemma TellsValue.rowValue_eq (h : TellsValue row value) : rowValue row = .ok (.text value) := by
  obtain ⟨binding, hbinding, hvalue⟩ := h
  rw [rowValue, hbinding]
  exact hvalue

lemma TellsValues.bindings?_eq (h : TellsValues values d) :
    ∃ rows, bindings? d = some (.array rows) ∧ List.Forall₂ TellsValue rows values := by
  obtain ⟨results, rows, hresults, hrows, hvalues⟩ := h
  refine ⟨rows, ?_, hvalues⟩
  simp only [bindings?, hresults, hrows]
  rfl

lemma not_tellsValues_null : ¬ TellsValues values .null := by
  rintro ⟨_, _, hresults, -, -⟩
  cases hresults

lemma rowValues_eq (h : List.Forall₂ TellsValue rows values) :
    rowValues (.array rows) = .ok (values.map codeOfAddress) := by
  refine mapM_eq_ok_iff.mpr ?_
  rw [List.forall₂_map_right_iff]
  refine h.imp fun row value hvalue => ?_
  rw [hvalue.rowValue_eq]
  rfl

lemma firstRowCode_eq (h : TellsValue row value) :
    firstRowCode (.array (row :: rows)) = .ok (.text (pastAddress value)) := by
  show (rowValue row >>= Document.dropParts entityAddress.length) = _
  rw [h.rowValue_eq]
  rfl

@[simp] lemma codeOfAddress_append (code : String) :
    codeOfAddress (entityAddress ++ code) = code := by
  rw [codeOfAddress, Text.dropStart?_append, Option.getD_some]

/-- Both ways of reading a value agree on addresses. -/
lemma IsAddress.codeOfAddress_eq (h : IsAddress value) :
    codeOfAddress value = pastAddress value := by
  obtain ⟨code, rfl⟩ := h
  simp [pastAddress, ← String.length_toList]

end

/-! ### The choice of a type -/

/-- Counting decides between the types: there are several, and none that is preferred to others. -/
def NeedsCounting (types : List String) : Prop :=
  2 ≤ types.length ∧ human ∉ types ∧ taxon ∉ types

/-- The type with the most instances, or the first one if nothing was counted. -/
def countedType (first : String) (counts : List String) : String :=
  (counts.head?.map pastAddress).getD first

/-- The type of an entity with the given types. -/
def chosenType? (types counts : List String) : Option String :=
  types.head?.map fun first => (evidentType? types).getD (countedType first counts)

section

variable {types counts : List String} {type : String}

lemma evidentType?_of_human (h : human ∈ types) : evidentType? types = some human := by
  simp [evidentType?, h]

lemma evidentType?_of_taxon (hhuman : human ∉ types) (h : taxon ∈ types) :
    evidentType? types = some taxon := by
  match types with
  | [type] =>
    obtain rfl := List.mem_singleton.mp h
    simp [evidentType?, hhuman]
  | first :: second :: others => simp_all [evidentType?]

lemma mem_of_evidentType? (h : evidentType? types = some type) : type ∈ types := by
  simp only [evidentType?] at h
  split at h
  · rename_i hhuman
    obtain rfl := Option.some.inj h
    simpa using hhuman
  · split at h
    · obtain rfl := Option.some.inj h
      exact List.mem_singleton_self _
    · split at h
      · rename_i htaxon
        obtain rfl := Option.some.inj h
        simpa using htaxon
      · cases h

lemma evidentType?_eq_none_iff (hne : types ≠ []) :
    evidentType? types = none ↔ NeedsCounting types := by
  constructor
  · intro h
    have hhuman : human ∉ types := fun hmem => by simp [evidentType?_of_human hmem] at h
    have htaxon : taxon ∉ types := fun hmem => by simp [evidentType?_of_taxon hhuman hmem] at h
    refine ⟨?_, hhuman, htaxon⟩
    match types with
    | [type] => simp [evidentType?, hhuman] at h
    | first :: second :: others => simp
  · rintro ⟨hlength, hhuman, htaxon⟩
    match types with
    | first :: second :: others => simp_all [evidentType?]

lemma chosenType?_of_evident (h : evidentType? types = some type) :
    chosenType? types counts = some type := by
  cases types with
  | nil => exact absurd (mem_of_evidentType? h) List.not_mem_nil
  | cons first others =>
    show some ((evidentType? (first :: others)).getD (countedType first counts)) = some type
    rw [h]
    rfl

/-- The chosen type is one of the types unless counting brings up something else. -/
lemma chosenType?_mem_iff (hne : types ≠ []) :
    (∃ type ∈ types, chosenType? types counts = some type) ↔
      (NeedsCounting types → ∀ value, counts.head? = some value → pastAddress value ∈ types) := by
  cases h : evidentType? types with
  | some type =>
    have hcounting : ¬ NeedsCounting types := fun hcounting => by
      rw [(evidentType?_eq_none_iff hne).mpr hcounting] at h
      cases h
    exact iff_of_true ⟨type, mem_of_evidentType? h, chosenType?_of_evident h⟩
      fun hneeds => absurd hneeds hcounting
  | none =>
    obtain ⟨first, others, rfl⟩ := List.exists_cons_of_ne_nil hne
    have hcounting := (evidentType?_eq_none_iff hne).mp h
    have hchosen : chosenType? (first :: others) counts = some (countedType first counts) := by
      show some ((evidentType? (first :: others)).getD _) = _
      rw [h]
      rfl
    rw [hchosen]
    cases counts with
    | nil => simp [countedType, hcounting]
    | cons value counts => simp [countedType, hcounting]

end

/-! ### Lookups that are answered -/

section

variable {r : Remote σ} {raw counts values : List String}

/-- A query is answered by rows with the values. -/
lemma query_answered {sparql : String}
    (h : r.network.Answers (queryUrl sparql) (TellsValues values))
    (hs : s.Sound r.network.possible) :
    ∃ rows s', (r.query sparql).run.run s = (.ok (some (.array rows)), s') ∧
      List.Forall₂ TellsValue rows values ∧ s'.Sound r.network.possible := by
  obtain ⟨d, s', hrequest, hd, hs'⟩ :=
    h.request (normalizeBlanks_queryUrl sparql) not_tellsValues_null hs
  obtain ⟨rows, hrows, hvalues⟩ := hd.bindings?_eq
  refine ⟨rows, s', ?_, hvalues, hs'⟩
  rw [Remote.query, ExceptT.run_bind, run_bind_of_run hrequest, ← hrows]
  rfl

lemma propertyValues_answered {entity property : String}
    (h : r.network.Answers (queryUrl (valuesQuery entity property)) (TellsValues raw))
    (hs : s.Sound r.network.possible) :
    ∃ s', (r.propertyValues entity property).run.run s = (.ok (raw.map codeOfAddress), s') ∧
      s'.Sound r.network.possible := by
  obtain ⟨rows, s', hquery, hrows, hs'⟩ := query_answered h hs
  refine ⟨s', ?_, hs'⟩
  rw [Remote.propertyValues, ExceptT.run_bind, run_bind_of_run hquery]
  show (reaching (rowValues (.array rows)), s') = _
  rw [rowValues_eq hrows]
  rfl

lemma mostFrequentType_answered {entity : String} (first : String)
    (h : r.network.Answers (queryUrl (typeCountQuery entity)) (TellsValues counts))
    (hs : s.Sound r.network.possible) :
    ((r.mostFrequentType entity first).run.run s).1 = .ok (.text (countedType first counts)) := by
  obtain ⟨rows, s', hquery, hrows, -⟩ := query_answered h hs
  rw [Remote.mostFrequentType, ExceptT.run_bind, run_bind_of_run hquery]
  cases hrows with
  | nil => rfl
  | @cons row value rows counts hvalue =>
    show reaching (firstRowCode (.array (row :: rows))) = _
    rw [firstRowCode_eq hvalue]
    rfl

/-- The type of an entity is chosen from its types and their counts. -/
lemma domain_answered {entity : String}
    (hindex : ∀ type, r.types.lookup entity = some type → type = "")
    (hraw : r.network.Answers (queryUrl (valuesQuery entity instanceOf)) (TellsValues raw))
    (hcounts : r.network.Answers (queryUrl (typeCountQuery entity)) (TellsValues counts))
    (hs : s.Sound r.network.possible) :
    ((r.domain entity).run.run s).1 =
      .ok ((chosenType? (raw.map codeOfAddress) counts).map .text) := by
  have hdomain : r.domain entity = Remote.domain.declared r entity := by
    rw [Remote.domain]
    split
    · rename_i type htype
      rw [if_pos (by simpa using hindex type htype)]
    · rfl
  obtain ⟨s', hvalues, hs'⟩ := propertyValues_answered hraw hs
  rw [hdomain, Remote.domain.declared, ExceptT.run_bind, run_bind_of_run hvalues]
  cases raw.map codeOfAddress with
  | nil => rfl
  | cons first others =>
    simp only [chosenType?, List.head?_cons, Option.map_some]
    cases evidentType? (first :: others) with
    | some type => rfl
    | none =>
      obtain ⟨result, s'', hcounted⟩ : ∃ result s'',
        (r.mostFrequentType entity first).run.run s' = (result, s'') := ⟨_, _, rfl⟩
      have hresult := mostFrequentType_answered first hcounts hs'
      rw [hcounted] at hresult
      obtain rfl : result = _ := hresult
      simp only
      rw [ExceptT.run_bind, run_bind_of_run hcounted]
      rfl

end

/-! ### Types -/

/-- Whatever was asked before, the type of an entity that the type index does not have, on a network
that tells its types and their counts: it is missing exactly if the entity has none, it is that of
people or else of taxa if the entity has that type, and it is one of the types exactly if, where
counting decides, the first value that is counted is an address or is one of the types once it is
cut. -/
theorem domain_declared_iff (net : Network σ) (types : TypeIndex) (entity : String)
    (raw counts : List String)
    (hindex : ∀ type, types.lookup entity = some type → type = "")
    (hraw : net.Answers (queryUrl (valuesQuery entity instanceOf)) (TellsValues raw))
    (hcounts : net.Answers (queryUrl (typeCountQuery entity)) (TellsValues counts))
    (hsubset : ∀ value ∈ counts, value ∈ raw) (start : σ) (calls : List (TypeIndex × Call)) :
    let s := Session.after net { network := start } calls
    let r : Remote σ := { network := net, types }
    let values := raw.map codeOfAddress
    ((r.propertyValues entity instanceOf).run.run s).1 = .ok values ∧
    ∃ type, ((r.domain entity).run.run s).1 = .ok type ∧
      (type = none ↔ values = []) ∧
      (human ∈ values → type = some (.text human)) ∧
      (human ∉ values → taxon ∈ values → type = some (.text taxon)) ∧
      ((values ≠ [] → ∃ value ∈ values, type = some (.text value)) ↔
        (NeedsCounting values → ∀ value, counts.head? = some value →
          IsAddress value ∨ pastAddress value ∈ values)) := by
  intro s r values
  have hs : s.Sound net.possible := (Session.sound_of_empty rfl).after calls
  obtain ⟨s', hvalues, -⟩ := propertyValues_answered (r := r) hraw hs
  refine ⟨by rw [hvalues], (chosenType? values counts).map .text,
    domain_answered hindex hraw hcounts hs, ?_, fun h => ?_, fun hhuman h => ?_, ?_⟩
  · simp [chosenType?]
  · rw [chosenType?_of_evident (evidentType?_of_human h)]
    rfl
  · rw [chosenType?_of_evident (evidentType?_of_taxon hhuman h)]
    rfl
  · have hmem : ∀ value, counts.head? = some value →
        (IsAddress value ∨ pastAddress value ∈ values ↔ pastAddress value ∈ values) := by
      intro value hvalue
      refine or_iff_right_of_imp fun haddress => ?_
      rw [← haddress.codeOfAddress_eq]
      exact List.mem_map_of_mem (hsubset value (List.mem_of_head? hvalue))
    have htext : ∀ value, (chosenType? values counts).map Document.text = some (.text value) ↔
        chosenType? values counts = some value := by
      intro value
      cases chosenType? values counts <;> simp
    simp only [htext]
    by_cases hne : values = []
    · simp [hne, NeedsCounting]
    · rw [imp_iff_right hne, chosenType?_mem_iff hne]
      exact imp_congr_right fun _ => forall₂_congr fun value hvalue => (hmem value hvalue).symm

/-! ### A network with given types -/

/-- The reply to a query that has the values. -/
def valuesReply (values : List String) : Document :=
  .object [("results", .object [("bindings", .array (values.map fun value =>
    .object [("v", .object [("value", .text value)])]))])]

/-- The network that has given types for an entity, and given counts. -/
def Network.ofTypes (entity : String) (raw counts : List String) : Network Unit :=
  .constant fun url => .answer 200
    (valuesReply (if url = queryUrl (typeCountQuery entity) then counts else raw)).write

lemma isProper_valuesReply (values : List String) : (valuesReply values).IsProper := by
  have hrow : ∀ value : String,
      (Document.object [("v", .object [("value", .text value)])]).IsProper :=
    fun value => (Document.IsProper.single (.text value) "value").single "v"
  refine (Document.IsProper.single (.array fun row h => ?_) "bindings").single "results"
  obtain ⟨value, -, rfl⟩ := List.mem_map.mp h
  exact hrow value

lemma tellsValues_valuesReply (values : List String) : TellsValues values (valuesReply values) := by
  refine ⟨_, _, rfl, rfl, ?_⟩
  rw [List.forall₂_map_left_iff, List.forall₂_same]
  exact fun value _ => ⟨_, rfl, rfl⟩

lemma answers_constant {f : String → Reply} {values : List String}
    (h : f url = .answer 200 (valuesReply values).write) :
    (Network.constant f).Answers url (TellsValues values) := by
  have hd := Document.parse?_write (isProper_valuesReply values)
  constructor
  · intro n
    have hrun : (Network.constant f url).run n = (f url, n) := rfl
    rw [h] at hrun
    exact ⟨_, _, _, _, .first hrun (.answer (by decide) (by decide) hd)⟩
  · intro n n' reply body e hreply hdelivers
    obtain rfl : f url = reply := congrArg Prod.fst hreply
    rw [h] at hdelivers
    cases hdelivers with
    | answer _ _ he =>
      obtain rfl := Option.some.inj (hd.symm.trans he)
      exact tellsValues_valuesReply values

section

variable (entity : String) (raw counts : List String)

lemma ofTypes_counts :
    (Network.ofTypes entity raw counts).Answers (queryUrl (typeCountQuery entity))
      (TellsValues counts) := by
  apply answers_constant
  rw [if_pos rfl]

lemma ofTypes_values (h : Text.normalizeBlanks (valuesQuery entity instanceOf) ≠
      Text.normalizeBlanks (typeCountQuery entity)) :
    (Network.ofTypes entity raw counts).Answers (queryUrl (valuesQuery entity instanceOf))
      (TellsValues raw) := by
  apply answers_constant
  rw [if_neg fun hurl => h (queryUrl_inj.mp hurl)]

end

/-- Counting prefers the second of two types, a big city that is a city. -/
theorem domain_declared_iff_city :
    let types := [entityAddress ++ "Q1549591", entityAddress ++ "Q515"]
    let net := Network.ofTypes "Q456" types types.reverse
    net.Answers (queryUrl (valuesQuery "Q456" instanceOf)) (TellsValues types) ∧
    net.Answers (queryUrl (typeCountQuery "Q456")) (TellsValues types.reverse) ∧
    ∃ type ∈ ["Q1549591", "Q515"],
      ((Remote.domain { network := net } "Q456").run.run { network := () }).1 =
        .ok (some (.text type)) := by
  intro types net
  have hraw := ofTypes_values "Q456" types types.reverse (by decide +kernel)
  have hcounts := ofTypes_counts "Q456" types types.reverse
  refine ⟨hraw, hcounts, ?_⟩
  obtain ⟨-, type, hdomain, -, -, -, hmem⟩ := domain_declared_iff net [] "Q456" types types.reverse
    nofun hraw hcounts (fun _ => List.mem_reverse.mp) () []
  have hvalues : types.map codeOfAddress = ["Q1549591", "Q515"] := by simp [types]
  rw [hvalues] at hmem
  have haddress : ∀ value, types.reverse.head? = some value → IsAddress value := by
    rintro _ ⟨⟩
    exact ⟨"Q515", rfl⟩
  obtain ⟨value, hvalue, rfl⟩ :=
    hmem.mpr (fun _ value hvalue => .inl (haddress value hvalue)) (List.cons_ne_nil _ _)
  exact ⟨value, hvalue, hdomain⟩

/-- Of two types, one of them not known to the knowledge base, counting brings up the latter, and
that is cut as if it were an address. -/
theorem domain_not_declared :
    let unknown := "http://www.wikidata.org/.well-known/genid/b0"
    let types := [entityAddress ++ "Q515", unknown]
    let net := Network.ofTypes "Q1" types types.reverse
    let r : Remote Unit := { network := net }
    net.Answers (queryUrl (valuesQuery "Q1" instanceOf)) (TellsValues types) ∧
    net.Answers (queryUrl (typeCountQuery "Q1")) (TellsValues types.reverse) ∧
    ((r.propertyValues "Q1" instanceOf).run.run { network := () }).1 = .ok ["Q515", unknown] ∧
    ((r.domain "Q1").run.run { network := () }).1 = .ok (some (.text "nown/genid/b0")) ∧
    "nown/genid/b0" ∉ ["Q515", unknown] := by
  intro unknown types net r
  have hraw := ofTypes_values "Q1" types types.reverse (by decide +kernel)
  have hcounts := ofTypes_counts "Q1" types types.reverse
  have hs : ({ network := () } : Session Unit).Sound net.possible := Session.sound_of_empty rfl
  have hunknown : codeOfAddress unknown = unknown := by decide +kernel
  have hvalues : types.map codeOfAddress = ["Q515", unknown] :=
    congrArg₂ List.cons (codeOfAddress_append "Q515") (congrArg ([·]) hunknown)
  have hcut : pastAddress unknown = "nown/genid/b0" := by decide +kernel
  have hevident : evidentType? ["Q515", unknown] = none := by decide +kernel
  refine ⟨hraw, hcounts, ?_, ?_, by decide +kernel⟩
  · obtain ⟨s', hrun, -⟩ := propertyValues_answered (r := r) hraw hs
    rw [hrun, hvalues]
  · rw [domain_answered (r := r) nofun hraw hcounts hs, hvalues, ← hcut]
    simp only [chosenType?, List.head?_cons, Option.map_some, hevident]
    rfl

end GraphTalk.Knowledge
