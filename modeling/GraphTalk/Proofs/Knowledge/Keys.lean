import GraphTalk.Proofs.Knowledge.Outcomes
import GraphTalk.Proofs.Knowledge.Urls

/-!
# Cache keys

A lookup by one request keeps its reply under one key, the normal form of the URL that it requests
(`KeptUnder`). Different lookups have different keys (`keys_apart`): spacing is all that a URL drops
of a query, a URL for entities tells the codes and what is asked for about them, and no URL is of
both kinds.
-/

namespace GraphTalk.Knowledge

/-! ### Keys of lookups -/

section

variable {σ α β : Type} {net : Network σ} {key key' : String}

/-- A lookup reads and writes the cache under one key. -/
structure KeptUnder (x : Step σ α) (key : String) : Prop where
  /-- The network is asked exactly if the cache holds no document under the key. -/
  asks (s : Session σ) : (x.run.run s).2.requests = s.requests ↔ ∃ d, s.cache.Holds key d
  /-- Nothing is written but a reply under the key. -/
  writes (s : Session σ) : (x.run.run s).2.cache = s.cache ∨
    ∃ body, (x.run.run s).2.cache = s.cache.withReply true key body

/-- Two lookups use the same key. -/
def SameKey (x : Step σ α) (y : Step σ β) : Prop := ∃ key, KeptUnder x key ∧ KeptUnder y key

lemma keptUnder_request (net : Network σ) (url : String) :
    KeptUnder (request net url) (Text.normalizeBlanks url) := by
  have hrequested (s : Session σ) := exists_requested net (Text.normalizeBlanks url) true s
  constructor
  · intro s
    obtain ⟨result, s', h⟩ := hrequested s
    rw [h.run_eq]
    cases h with
    | hit _ hd => exact iff_of_true rfl ⟨_, hd⟩
    | success hmiss hd =>
      refine iff_of_false (fun heq => ?_) fun ⟨d, hd⟩ => hmiss rfl d hd
      obtain rfl := List.append_right_eq_self.mp heq
      exact absurd hd.sent_pos (Nat.lt_irrefl 0)
    | failure hmiss => exact iff_of_false (by simp) fun ⟨d, hd⟩ => hmiss rfl d hd
    | breakdown hmiss => exact iff_of_false (by simp) fun ⟨d, hd⟩ => hmiss rfl d hd
  · intro s
    obtain ⟨result, s', h⟩ := hrequested s
    rw [h.run_eq]
    cases h with
    | success => exact .inr ⟨_, rfl⟩
    | _ => exact .inl rfl

/-- What becomes of a reply afterwards does not matter if the session is left alone. -/
lemma KeptUnder.andThen {x : Step σ α} (h : KeptUnder x key) {g : α → Step σ β}
    (hg : ∀ a s, ((g a).run.run s).2 = s) : KeptUnder (x >>= g) key := by
  have hafter (s : Session σ) : ((x >>= g).run.run s).2 = (x.run.run s).2 := by
    obtain ⟨result, s', hrun⟩ : ∃ result s', x.run.run s = (result, s') := ⟨_, _, rfl⟩
    rw [ExceptT.run_bind, run_bind_of_run hrun, hrun]
    cases result with
    | ok a => exact hg a s'
    | error fault => rfl
  exact ⟨fun s => by rw [hafter]; exact h.asks s, fun s => by rw [hafter]; exact h.writes s⟩

/-- A lookup has no second key: it would be answered from a cache that holds nothing else. -/
lemma KeptUnder.unique [Nonempty σ] {x : Step σ α} (h : KeptUnder x key) (h' : KeptUnder x key') :
    key = key' := by
  obtain ⟨n⟩ := ‹Nonempty σ›
  -- the reply under the first key is the only one
  let s : Session σ := { network := n, cache := { replies := [⟨some key, some "0"⟩] } }
  have hdocument : Document.parse? "0" = some (.number (.int 0)) := rfl
  have hrow : s.cache.replies.IsFirst key ⟨some key, some "0"⟩ := ⟨rfl, [], [], rfl, by simp⟩
  have hsilent := (h.asks s).mpr ⟨_, _, _, hrow, rfl, hdocument, by simp⟩
  obtain ⟨_, row, _, ⟨hkey, before, after, hrows, -⟩, -⟩ := (h'.asks s).mp hsilent
  have hmem : row ∈ s.cache.replies := hrows ▸ by simp
  obtain rfl := List.mem_singleton.mp hmem
  exact Option.some.inj hkey

lemma sameKey_iff [Nonempty σ] {x : Step σ α} {y : Step σ β} (hx : KeptUnder x key)
    (hy : KeptUnder y key') : SameKey x y ↔ key = key' := by
  constructor
  · rintro ⟨key'', hx', hy'⟩
    exact (hx.unique hx').trans (hy'.unique hy)
  · rintro rfl
    exact ⟨key, hx, hy⟩

variable {r : Remote σ}

lemma keptUnder_query (r : Remote σ) (sparql : String) :
    KeptUnder (r.query sparql) (Text.normalizeBlanks (queryUrl sparql)) :=
  (keptUnder_request _ _).andThen fun _ _ => rfl

lemma keptUnder_propertyValues (r : Remote σ) (entity property : String) :
    KeptUnder (r.propertyValues entity property)
      (Text.normalizeBlanks (queryUrl (valuesQuery entity property))) := by
  refine (keptUnder_query r _).andThen fun rows s => ?_
  cases rows <;> rfl

lemma keptUnder_entity? (r : Remote σ) {code : String} (hcode : isCode code = true)
    (part : EntityPart) : KeptUnder (r.entity? code part) (entitiesUrl [code] part) := by
  have hrequest := keptUnder_request r.network (entitiesUrl [code] part)
  rw [normalizeBlanks_entitiesUrl] at hrequest
  rw [Remote.entity?, if_pos hcode]
  refine hrequest.andThen fun d s => ?_
  cases d <;> rfl

lemma keptUnder_label (r : Remote σ) {code : String} (hcode : isCode code = true) :
    KeptUnder (r.label code) (entitiesUrl [code] .labels) :=
  (keptUnder_entity? r hcode .labels).andThen fun _ _ => rfl

lemma keptUnder_altLabels (r : Remote σ) {code : String} (hcode : isCode code = true) :
    KeptUnder (r.altLabels code) (entitiesUrl [code] .aliases) := by
  refine (keptUnder_entity? r hcode .aliases).andThen fun entity s => ?_
  cases entity <;> rfl

end

/-! ### Queries for values -/

section

variable {entity entity' property property' : String}

lemma isUnreserved_of_isCodeChars {cs : List Char} (h : isCodeChars cs = true) :
    ∀ c ∈ cs, Text.isUnreserved c = true := by
  match cs with
  | [] => cases h
  | [_] => cases h
  | letter :: d :: ds =>
    simp only [isCodeChars, Bool.and_eq_true, Bool.or_eq_true, beq_iff_eq, List.all_eq_true] at h
    obtain ⟨hletter, hdigits⟩ := h
    refine List.forall_mem_cons.mpr ⟨?_, fun c hc => ?_⟩
    · rcases hletter with rfl | rfl <;> decide
    · have hdigit := hdigits c hc
      simp only [Char.isDigit, Bool.and_eq_true, decide_eq_true_eq] at hdigit
      simp only [Text.isUnreserved, Char.le_def, Bool.or_eq_true, Bool.and_eq_true,
        decide_eq_true_eq]
      exact .inl (.inl (.inl (.inl (.inr hdigit))))

/-- A fixed text that is no blank, and a code after it, are a word. -/
lemma isWord_append_code {start code : String} (hstart : Text.Unspaced start) (hne : start ≠ "")
    (h : isCodeChars code.toList = true) : Text.Chars.IsWord (start ++ code).toList := by
  refine ⟨by simp [hne], hstart.append fun c hc => ?_⟩
  exact Text.isBlank_of_isUnreserved (isUnreserved_of_isCodeChars h c hc)

-- stated of variables, since the fixed texts of a query are too long to be evaluated
lemma append_eq_joinWords {start middle last w₁ w₂ w₃ w₄ start₅ end₅ start₆ end₆ w₇ w₈ : String}
    (hstart : start = w₁ ++ " " ++ w₂ ++ " " ++ w₃ ++ " " ++ w₄ ++ " " ++ start₅)
    (hmiddle : middle = " " ++ start₆) (hlast : last = " " ++ w₇ ++ " " ++ w₈) :
    start ++ end₅ ++ middle ++ end₆ ++ last =
      Text.joinWords [w₁, w₂, w₃, w₄, start₅ ++ end₅, start₆ ++ end₆, w₇, w₈] := by
  subst hstart hmiddle hlast
  simp only [Text.joinWords, String.intercalate_cons_cons, String.intercalate_singleton,
    String.append_assoc]

/-- The words of a query for values. -/
lemma words_valuesQuery (he : isCodeChars entity.toList = true)
    (hp : isCodeChars property.toList = true) :
    Text.words (valuesQuery entity property) =
      ["SELECT", "?v", "WHERE", "\x7b", "wd:" ++ entity, "wdt:" ++ property, "?v.", "\x7d"] := by
  have hjoined : valuesQuery entity property = Text.joinWords
      ["SELECT", "?v", "WHERE", "\x7b", "wd:" ++ entity, "wdt:" ++ property, "?v.", "\x7d"] :=
    append_eq_joinWords (by decide +kernel) (by decide +kernel) (by decide +kernel)
  have hfixed : ∀ w ∈ ["SELECT", "?v", "WHERE", "\x7b", "?v.", "\x7d"],
      w.toList ≠ [] ∧ Text.Unspaced w := by
    decide +kernel
  have hwd : Text.Chars.IsWord ("wd:" ++ entity).toList :=
    isWord_append_code (by decide +kernel) (by decide +kernel) he
  have hwdt : Text.Chars.IsWord ("wdt:" ++ property).toList :=
    isWord_append_code (by decide +kernel) (by decide +kernel) hp
  simp only [List.forall_mem_cons] at hfixed
  obtain ⟨hselect, hvar, hwhere, hopen, hdot, hclose, hnil⟩ := hfixed
  rw [hjoined]
  refine Text.words_joinWords ?_
  simp only [List.forall_mem_cons]
  exact ⟨hselect, hvar, hwhere, hopen, hwd, hwdt, hdot, hclose, nofun⟩

/-- The key of a query for values tells which values of which entity are asked for. -/
lemma valuesQuery_inj (he : isCodeChars entity.toList = true)
    (he' : isCodeChars entity'.toList = true) (hp : isCodeChars property.toList = true)
    (hp' : isCodeChars property'.toList = true) :
    Text.normalizeBlanks (valuesQuery entity property) =
      Text.normalizeBlanks (valuesQuery entity' property') ↔
      entity = entity' ∧ property = property' := by
  constructor
  · intro h
    have hwords := congrArg Text.words h
    rw [Text.words_normalizeBlanks, Text.words_normalizeBlanks, words_valuesQuery he hp,
      words_valuesQuery he' hp'] at hwords
    simpa using hwords
  · rintro ⟨rfl, rfl⟩
    rfl

end

/-! ### URLs of both kinds -/

section

variable {codes codes' : List String} {part part' : EntityPart}

-- stated of variables for the same reason
lemma not_prefix_of_append_eq {start start' s t s' t' u' v' : String}
    (h : ¬ start.toList <+: start'.toList ∧ ¬ start'.toList <+: start.toList)
    (heq : start ++ s ++ t = start' ++ s' ++ t' ++ u' ++ v') : False := by
  have hsame := congrArg String.toList heq
  simp only [String.toList_append, List.append_assoc] at hsame
  have hprefix := List.prefix_append start.toList (s.toList ++ t.toList)
  rw [hsame] at hprefix
  exact (List.prefix_or_prefix_of_prefix hprefix (List.prefix_append _ _)).elim h.1 h.2

/-- Neither name of what is asked for is the end of the other. -/
lemma EntityPart.eq_of_isSuffix (part part' : EntityPart)
    (h : part.name.toList <:+ part'.name.toList) : part = part' := by
  cases part <;> cases part'
  · rfl
  · exact absurd h (by decide)
  · exact absurd h (by decide)
  · rfl

lemma EntityPart.eq_of_append {start start' rest : String} {part part' : EntityPart}
    (h : start ++ part.name ++ rest = start' ++ part'.name ++ rest) : part = part' := by
  have hsame : start.toList ++ part.name.toList = start'.toList ++ part'.name.toList := by
    rw [← String.toList_append, ← String.toList_append]
    exact congrArg String.toList (by simpa using h)
  rcases List.suffix_or_suffix_of_suffix (List.suffix_append start.toList _)
    (hsame ▸ List.suffix_append start'.toList _) with h | h
  · exact eq_of_isSuffix _ _ h
  · exact (eq_of_isSuffix _ _ h).symm

/-- The URL for what is known about entities tells what is asked for. -/
lemma part_eq_of_entitiesUrl_eq (h : entitiesUrl codes part = entitiesUrl codes' part') :
    part = part' :=
  EntityPart.eq_of_append h

/-- No URL is of both kinds: they are requested from different hosts. -/
lemma queryUrl_ne_entitiesUrl (sparql : String) (codes : List String) (part : EntityPart) :
    queryUrl sparql ≠ entitiesUrl codes part := by
  intro h
  have hhosts : ¬ "https://query.wikidata.org/sparql?query=".toList <+:
        "https://www.wikidata.org/w/api.php?action=wbgetentities&ids=".toList ∧
      ¬ "https://www.wikidata.org/w/api.php?action=wbgetentities&ids=".toList <+:
        "https://query.wikidata.org/sparql?query=".toList := by
    decide +kernel
  exact not_prefix_of_append_eq hhosts h

end

/-- A query is kept under the normal form of its URL, which tells the query up to its spacing. What
is known about entities is kept under its URL, which tells the codes and what is asked for. No key
is of both kinds, and the values of a property share their key only with those of the same property
for the same entity. -/
theorem keys_apart {σ : Type} [Nonempty σ] (r : Remote σ) :
    (∀ sparql, KeptUnder (r.query sparql) (Text.normalizeBlanks (queryUrl sparql))) ∧
    (∀ sparql sparql',
      Text.normalizeBlanks (queryUrl sparql) = Text.normalizeBlanks (queryUrl sparql') ↔
        Text.normalizeBlanks sparql = Text.normalizeBlanks sparql') ∧
    (∀ code, isCode code = true → KeptUnder (r.label code) (entitiesUrl [code] .labels) ∧
      KeptUnder (r.altLabels code) (entitiesUrl [code] .aliases)) ∧
    (∀ codes codes' part part', codes ≠ [] → codes' ≠ [] → (∀ code ∈ codes, isCode code = true) →
      (∀ code ∈ codes', isCode code = true) →
      (entitiesUrl codes part = entitiesUrl codes' part' ↔ codes = codes' ∧ part = part')) ∧
    (∀ sparql codes part, queryUrl sparql ≠ entitiesUrl codes part ∧
      Text.normalizeBlanks (queryUrl sparql) ≠ Text.normalizeBlanks (entitiesUrl codes part)) ∧
    ∀ entity entity' property property', isCodeChars entity.toList = true →
      isCodeChars entity'.toList = true → isCodeChars property.toList = true →
      isCodeChars property'.toList = true →
      (SameKey (r.propertyValues entity property) (r.propertyValues entity' property') ↔
        entity = entity' ∧ property = property') := by
  refine ⟨keptUnder_query r, ?_, fun _ h => ⟨keptUnder_label r h, keptUnder_altLabels r h⟩,
    ?_, ?_, ?_⟩
  · intro sparql sparql'
    rw [normalizeBlanks_queryUrl, normalizeBlanks_queryUrl, queryUrl_inj]
  · intro codes codes' part part' hne hne' h h'
    constructor
    · intro heq
      obtain rfl := part_eq_of_entitiesUrl_eq heq
      exact ⟨(entitiesUrl_inj hne hne' h h').mp heq, rfl⟩
    · rintro ⟨rfl, rfl⟩
      rfl
  · intro sparql codes part
    rw [normalizeBlanks_queryUrl, normalizeBlanks_entitiesUrl, and_self]
    exact queryUrl_ne_entitiesUrl sparql codes part
  · intro entity entity' property property' he he' hp hp'
    rw [sameKey_iff (keptUnder_propertyValues r _ _) (keptUnder_propertyValues r _ _),
      normalizeBlanks_queryUrl, normalizeBlanks_queryUrl, queryUrl_inj,
      valuesQuery_inj he he' hp hp']

/-- Codes that run together alike, or stand in another order, are told apart. -/
theorem keys_apart_offline :
    let r : Remote Unit := { network := .offline }
    KeptUnder (r.label "Q1") (entitiesUrl ["Q1"] .labels) ∧
    entitiesUrl ["Q1", "Q2"] .labels ≠ entitiesUrl ["Q2", "Q1"] .labels ∧
    entitiesUrl ["Q1"] .labels ≠ entitiesUrl ["Q1"] .aliases ∧
    ¬ SameKey (r.propertyValues "Q4" "P22") (r.propertyValues "Q42" "P2") ∧
    SameKey (r.propertyValues "Q4" "P22") (r.propertyValues "Q4" "P22") := by
  intro r
  obtain ⟨-, -, hlabel, hentities, -, hvalues⟩ := keys_apart r
  refine ⟨(hlabel "Q1" (by decide)).1, ?_, ?_, ?_, ?_⟩
  · rw [Ne, hentities _ _ _ _ (by simp) (by simp) (by decide) (by decide)]
    decide
  · rw [Ne, hentities _ _ _ _ (by simp) (by simp) (by decide) (by decide)]
    decide
  · rw [hvalues _ _ _ _ (by decide) (by decide) (by decide) (by decide)]
    decide
  · exact (hvalues _ _ _ _ (by decide) (by decide) (by decide) (by decide)).mpr ⟨rfl, rfl⟩

end GraphTalk.Knowledge
