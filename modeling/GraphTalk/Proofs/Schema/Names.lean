import GraphTalk.Proofs.Schema.Declarations

/-!
# Names in a schema

A schema that a manifest declares names its tables and fields by names, and the types of entities
by words (`Schema.named_of_parse`). So what a program takes over from such a schema can be written
down and read again.
-/

namespace GraphTalk

/-- Tables and fields have names, entities have types that are words, and no domain is empty. -/
structure Schema.Named (s : Schema) : Prop where
  tables : ∀ e ∈ s.tables, e.1 ≠ "" ∧ IsName e.2
  fields : ∀ e ∈ s.fields, IsName e.2.name
  types : ∀ e ∈ s.fields, ∀ type, e.2.type.entityType? = some type →
    IsWord FieldType.isTypeChar type

/-! ### Declarations -/

namespace Manifest

/-- What is declared has a name, and a table is declared for a domain. -/
def IsNamed : Declaration → Prop
  | .table name domain => IsName name ∧ domain ≠ ""
  | .field name _ _ => IsName name

lemma IsDeclaration.isNamed {cs : List Char} {d : Declaration} (h : IsDeclaration cs d) :
    IsNamed d := by
  cases h with
  | table _ _ hbinding =>
    obtain ⟨hname⟩ := hbinding
    exact ⟨hname, by simp⟩
  | field _ _ hbinding =>
    obtain ⟨hname⟩ := hbinding
    exact hname

lemma readLine_isNamed {raw : List Char} {d : Declaration} (h : readLine raw = .ok (some d)) :
    IsNamed d := by
  cases readLine_eq_some_iff.mp h with
  | plain h => exact h.isNamed
  | marked _ h => exact h.isNamed

/-! ### Manifests -/

/-- The last declaration of a key is its entry, and no other entry is new. -/
lemma mem_setEntry {α : Type} {entries : List (String × α)} {key : String} {value : α}
    {e : String × α} (h : e ∈ setEntry entries key value) : e = (key, value) ∨ e ∈ entries := by
  induction entries with
  | nil => simpa [setEntry] using h
  | cons first rest ih =>
    obtain ⟨k, v⟩ := first
    unfold setEntry at h
    by_cases hk : k = key
    · subst hk
      simp only [beq_self_eq_true, if_true, List.mem_cons] at h ⊢
      tauto
    · simp only [beq_iff_eq, hk, if_false, List.mem_cons] at h ⊢
      rcases h with rfl | h
      · simp
      · rcases ih h with rfl | h
        · simp
        · simp [h]

lemma declare_named {s s' : Schema} {d : Declaration} (hs : s.Named) (hd : IsNamed d)
    (h : declare s d = .ok s') : s'.Named := by
  cases d with
  | table name domain =>
    obtain ⟨hname, hdomain⟩ := hd
    cases h
    refine ⟨?_, hs.fields, hs.types⟩
    intro e he
    rcases mem_setEntry he with rfl | he
    · exact ⟨hdomain, hname⟩
    · exact hs.tables e he
  | field name property text =>
    simp only [declare] at h
    split at h
    · rename_i t ht
      cases h
      refine ⟨hs.tables, ?_, ?_⟩
      · intro e he
        rcases mem_setEntry he with rfl | he
        · exact hd
        · exact hs.fields e he
      · intro e he type htype
        rcases mem_setEntry he with rfl | he
        · exact FieldType.parse_isWord ht htype
        · exact hs.types e he type htype
    · cases h

lemma addLine_named {s s' : Schema} {raw : List Char} (hs : s.Named)
    (h : addLine s raw = .ok s') : s'.Named := by
  unfold addLine at h
  split at h
  · cases h
  · cases h
    exact hs
  · rename_i d hd
    exact declare_named hs (readLine_isNamed hd) h

lemma addLines_named {s s' : Schema} {ls : List (List Char)} (hs : s.Named)
    (h : addLines s ls = .ok s') : s'.Named := by
  induction ls generalizing s with
  | nil =>
    cases h
    exact hs
  | cons l ls ih =>
    unfold addLines at h
    split at h
    · cases h
    · rename_i s₁ hl
      exact ih (addLine_named hs hl) h

end Manifest

namespace Schema

variable {s : Schema}

/-- A schema that a manifest declares has names all over. -/
theorem named_of_parse {manifest : String} (h : parse manifest = .ok s) : s.Named :=
  Manifest.addLines_named ⟨by simp, by simp, by simp⟩ h

lemma mem_of_lookup {α : Type} {entries : List (String × α)} {key : String} {value : α}
    (h : entries.lookup key = some value) : (key, value) ∈ entries := by
  obtain ⟨l₁, l₂, rfl, _⟩ := List.lookup_eq_some_iff.mp h
  simp

lemma Named.of_tableName? {domain name : String} (hs : s.Named)
    (h : s.tableName? domain = some name) : domain ≠ "" ∧ IsName name :=
  hs.tables _ (mem_of_lookup h)

lemma Named.of_field? {property : String} {f : SchemaField} (hs : s.Named)
    (h : s.field? property = some f) :
    IsName f.name ∧
      ∀ type, f.type.entityType? = some type → IsWord FieldType.isTypeChar type :=
  ⟨hs.fields _ (mem_of_lookup h), hs.types _ (mem_of_lookup h)⟩

/-- An empty text is no domain, so nothing is lost by not looking it up. -/
lemma Named.domainTable?_eq (hs : s.Named) (domain : Option String) :
    s.domainTable? domain = domain.bind s.tableName? := by
  cases domain with
  | none => rfl
  | some d =>
    by_cases hd : d = ""
    · cases h : s.tableName? d with
      | none => simp [domainTable?, Option.filter_some, hd, hd ▸ h]
      | some name => exact absurd hd (hs.of_tableName? h).1
    · simp [domainTable?, Option.filter_some, hd]

end Schema

end GraphTalk
