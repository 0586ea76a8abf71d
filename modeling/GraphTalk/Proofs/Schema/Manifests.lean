import Mathlib.Logic.Relation
import GraphTalk.Proofs.Result
import GraphTalk.Proofs.Schema.Declarations
import GraphTalk.Proofs.Schema.Entries
import GraphTalk.Proofs.Text.Lines
import GraphTalk.Proofs.Text.Trimming

/-!
# Manifests line by line

What a line does to a schema does not depend on the schema: it is refused, or it sets the same
entries in each (`uniform_addLine`), and so do several lines one after the other
(`uniform_addLines`). So a manifest is refused for its first line that is refused, two manifests
with a line feed between them declare what both declare, with the names of the second where it has
some, and lines may be edited in all ways that leave their entries as they are. What a line alone
comes to is read off the grammar (`Line`), and so all that a manifest declares is told
(`parse_linewise`).
-/

namespace GraphTalk

open Text.Chars (Blanks strip lines)

namespace Manifest

/-! ### Changes of schemas -/

/-- Entries that are set in a schema. Fields are set under the properties that they stand for. -/
structure Changes where
  tables : List (String × String) := []
  fields : List (String × SchemaField) := []
  property_eq : ∀ e ∈ fields, e.2.property = e.1 := by simp

namespace Changes

/-- The schema with the entries set. -/
def applyTo (c : Changes) (s : Schema) : Schema where
  tables := setEntries s.tables c.tables
  fields := setEntries s.fields c.fields

/-- The entries of two changes, one after the other. -/
def append (c d : Changes) : Changes where
  tables := c.tables ++ d.tables
  fields := c.fields ++ d.fields
  property_eq := List.forall_mem_append.mpr ⟨c.property_eq, d.property_eq⟩

lemma applyTo_append (c d : Changes) (s : Schema) :
    (c.append d).applyTo s = d.applyTo (c.applyTo s) := by
  simp only [applyTo, append, setEntries_append]

end Changes

/-- Whatever the schema is, it is refused to change it for one reason, or the same entries are
set. -/
inductive Uniform (f : Schema → Except ManifestError Schema) : Prop where
  | refused (e : ManifestError) (h : ∀ s, f s = .error e)
  | changes (c : Changes) (h : ∀ s, f s = .ok (c.applyTo s))

section

variable {f g : Schema → Except ManifestError Schema} {s s' : Schema} {e : ManifestError}

lemma uniform_ok : Uniform .ok := .changes {} fun _ => rfl

/-- One change after another. -/
lemma Uniform.bind (hf : Uniform f) (hg : Uniform g) : Uniform fun s => f s >>= g := by
  cases hf with
  | refused e hf => exact .refused e fun s => by rw [hf s]; rfl
  | changes c hf =>
    have hbind : ∀ s, (f s >>= g) = g (c.applyTo s) := fun s => by rw [hf s]; rfl
    cases hg with
    | refused e hg => exact .refused e fun s => by rw [hbind, hg]
    | changes d hg => exact .changes (c.append d) fun s => by rw [hbind, hg, c.applyTo_append]

lemma Uniform.eq_error_iff (h : Uniform f) (s s' : Schema) :
    f s = .error e ↔ f s' = .error e := by
  cases h with
  | refused e h => rw [h s, h s']
  | changes c h => simp [h s, h s']

lemma Uniform.exists_ok_iff (h : Uniform f) (s s' : Schema) :
    (∃ t, f s = .ok t) ↔ ∃ t, f s' = .ok t := by
  cases h with
  | refused e h => simp [h s, h s']
  | changes c h => simp [h s, h s']

lemma uniform_declare (d : Declaration) : Uniform (declare · d) := by
  cases d with
  | table name domain => exact .changes { tables := [(domain, name)] } fun _ => rfl
  | field name property type =>
    cases htype : FieldType.parse type with
    | ok t =>
      refine .changes { fields := [(property, ⟨name, property, t⟩)] } fun s => ?_
      simp only [declare, htype]
      rfl
    | error e => exact .refused (.type e) fun s => by simp only [declare, htype]

/-- What a line does to a schema does not depend on it. -/
lemma uniform_addLine (raw : List Char) : Uniform (addLine · raw) := by
  cases hread : readLine raw with
  | error e => exact .refused e fun s => by simp only [addLine, hread]
  | ok declared =>
    cases declared with
    | none => simpa only [addLine, hread] using uniform_ok
    | some d => simpa only [addLine, hread] using uniform_declare d

end

/-! ### Lines one after the other -/

section

variable {s s' : Schema} {l : List Char} {ls : List (List Char)} {e : ManifestError}

lemma addLines_cons (s : Schema) (l : List Char) (ls : List (List Char)) :
    addLines s (l :: ls) = addLine s l >>= (addLines · ls) := by
  rw [addLines]
  cases addLine s l <;> rfl

lemma addLines_append (s : Schema) (ls ls' : List (List Char)) :
    addLines s (ls ++ ls') = addLines s ls >>= (addLines · ls') := by
  induction ls generalizing s with
  | nil => rfl
  | cons l ls ih =>
    rw [List.cons_append, addLines_cons, addLines_cons]
    cases addLine s l with
    | error e => rfl
    | ok s₁ => exact ih s₁

/-- What lines do to a schema does not depend on it. -/
lemma uniform_addLines (ls : List (List Char)) : Uniform (addLines · ls) := by
  induction ls with
  | nil => exact uniform_ok
  | cons l ls ih =>
    simp only [addLines_cons]
    exact (uniform_addLine l).bind ih

/-- The first item of a kind is the head, or the head is passed by. -/
lemma exists_first_cons_iff {α : Type} {passed found : α → Prop} {x : α} {xs : List α} :
    (∃ before y after, x :: xs = before ++ y :: after ∧ (∀ b ∈ before, passed b) ∧ found y) ↔
      found x ∨ passed x ∧
        ∃ before y after, xs = before ++ y :: after ∧ (∀ b ∈ before, passed b) ∧ found y := by
  constructor
  · rintro ⟨before, y, after, heq, hbefore, hy⟩
    cases before with
    | nil =>
      obtain ⟨rfl, rfl⟩ := List.cons.inj heq
      exact .inl hy
    | cons b before =>
      obtain ⟨rfl, rfl⟩ := List.cons.inj heq
      obtain ⟨hx, hbefore⟩ := List.forall_mem_cons.mp hbefore
      exact .inr ⟨hx, before, y, after, rfl, hbefore, hy⟩
  · rintro (hx | ⟨hx, before, y, after, rfl, hbefore, hy⟩)
    · exact ⟨[], x, xs, rfl, by simp, hx⟩
    · exact ⟨x :: before, y, after, rfl, List.forall_mem_cons.mpr ⟨hx, hbefore⟩, hy⟩

/-- Lines are refused for the first one that is. -/
lemma addLines_eq_error_iff : addLines s ls = .error e ↔
    ∃ before l after, ls = before ++ l :: after ∧
      (∀ b ∈ before, ∃ t, addLine {} b = .ok t) ∧ addLine {} l = .error e := by
  induction ls generalizing s with
  | nil => simp [addLines]
  | cons l ls ih =>
    rw [addLines_cons, exists_first_cons_iff, ← (uniform_addLine l).eq_error_iff s {},
      ← (uniform_addLine l).exists_ok_iff s {}]
    cases addLine s l with
    | error e' => simp [bind, Except.bind]
    | ok s₁ =>
      rw [← ih (s := s₁)]
      simp [bind, Except.bind]

/-- A line of a manifest is a manifest. -/
lemma parse_line {m : String} (h : l ∈ lines m.toList) :
    Schema.parse (String.ofList l) = addLine {} l := by
  rw [Schema.parse, String.toList_ofList]
  by_cases hl : l = []
  · subst hl
    rfl
  · rw [Text.Chars.lines_of_mem_lines h hl, addLines_cons]
    cases addLine {} l <;> rfl

lemma parse_eq_error_iff {m : String} : Schema.parse m = .error e ↔
    ∃ before l after, lines m.toList = before ++ l :: after ∧
      (∀ b ∈ before, ∃ t, Schema.parse (String.ofList b) = .ok t) ∧
      Schema.parse (String.ofList l) = .error e := by
  rw [Schema.parse, addLines_eq_error_iff]
  refine exists₃_congr fun before l after => and_congr_right fun heq => ?_
  have hl : l ∈ lines m.toList := by simp [heq]
  have hbefore : ∀ b ∈ before, b ∈ lines m.toList := fun b hb => by simp [heq, hb]
  rw [parse_line hl]
  exact and_congr_left' (forall₂_congr fun b hb => by rw [parse_line (hbefore b hb)])

/-- The lines of a second manifest are added to what a first one declares. -/
lemma parse_append (m₁ m₂ : String) :
    Schema.parse (m₁ ++ "\n" ++ m₂) = Schema.parse m₁ >>= (addLines · (lines m₂.toList)) := by
  obtain ⟨blank, hblank, hlines⟩ :=
    Text.Chars.lines_append_line_feed m₁.toList m₂.toList
  have htext : (m₁ ++ "\n" ++ m₂).toList = m₁.toList ++ '\n' :: m₂.toList := by simp
  have hskip : ∀ s ls, addLines s (blank ++ ls) = addLines s ls := by
    rcases hblank with rfl | rfl
    · exact fun s ls => rfl
    · exact fun s ls => addLines_cons s [] ls
  rw [Schema.parse, htext, hlines, addLines_append, Schema.parse]
  simp only [hskip]

end

/-- A manifest that is not refused sets entries in no schema. -/
lemma exists_changes_of_parse {m : String} {s : Schema} (h : Schema.parse m = .ok s) :
    ∃ c : Changes, (∀ t, addLines t (lines m.toList) = .ok (c.applyTo t)) ∧ s = c.applyTo {} := by
  cases uniform_addLines (lines m.toList) with
  | refused e hrefused => cases (hrefused {}).symm.trans h
  | changes c hchanges => exact ⟨c, hchanges, Except.ok.inj (h.symm.trans (hchanges {}))⟩

end Manifest

/-! ### Two manifests -/

namespace Schema

/-- The domains of the tables of a schema, in order. -/
def domains (s : Schema) : List String := entryKeys s.tables

/-- The properties of the fields of a schema, in order. -/
def properties (s : Schema) : List String := entryKeys s.fields

/-- The text that lists the tables of domains and the fields of properties, with what the schema
tells about each. -/
def listing (s : Schema) (domains properties : List String) : String :=
  let tables := domains.filterMap fun domain =>
    (s.tableName? domain).map fun name => "- " ++ name ++ " (" ++ domain ++ ")"
  let fields := properties.filterMap fun property =>
    (s.field? property).map fun f =>
      "- " ++ f.name ++ " (" ++ property ++ "): " ++ f.type.describe
  "TABLES:\n" ++ String.intercalate "\n" tables ++ "\nFIELDS:\n" ++ String.intercalate "\n" fields

/-- A schema declares what two schemas declare: names and types are those of the second one where it
has some, and its new codes are listed after those of the first one. -/
structure Joins (s₁ s₂ s : Schema) : Prop where
  tableName?_eq : ∀ domain, s.tableName? domain =
    if s₂.hasTable domain then s₂.tableName? domain else s₁.tableName? domain
  fieldName?_eq : ∀ property, s.fieldName? property =
    if s₂.hasProperty property then s₂.fieldName? property else s₁.fieldName? property
  fieldType?_eq : ∀ property, s.fieldType? property =
    if s₂.hasProperty property then s₂.fieldType? property else s₁.fieldType? property
  domains_eq : s.domains = s₁.domains ++ s₂.domains.filter (· ∉ s₁.domains)
  properties_eq : s.properties = s₁.properties ++ s₂.properties.filter (· ∉ s₁.properties)
  describe_eq : s.describe = s.listing s.domains s.properties

end Schema

namespace Manifest

/-- What is looked up entry by entry is listed as it stands. -/
lemma filterMap_entryKeys {α β : Type} {entries : List (String × α)} {f : String → α → β}
    (hnodup : (entryKeys entries).Nodup) :
    (entryKeys entries).filterMap (fun key => (entries.lookup key).map (f key)) =
      entries.map fun e => f e.1 e.2 := by
  rw [entryKeys, List.filterMap_map, ← List.filterMap_eq_map]
  refine List.filterMap_congr fun e he => ?_
  simp [lookup_of_mem hnodup he]

/-- A schema made of changes is listed by what it tells about its own codes. -/
lemma Changes.describe_eq (c : Changes) : (c.applyTo {}).describe =
    (c.applyTo {}).listing (c.applyTo {}).domains (c.applyTo {}).properties := by
  have htables : (entryKeys (c.applyTo {}).tables).Nodup := nodup_entryKeys_setEntries c.tables
  have hfields : (entryKeys (c.applyTo {}).fields).Nodup := nodup_entryKeys_setEntries c.fields
  have hproperty : ∀ e ∈ (c.applyTo {}).fields, e.2.property = e.1 := fun e he =>
    c.property_eq e ((mem_setEntries he).resolve_left (by simp))
  simp only [Schema.listing, Schema.domains, Schema.properties, Schema.tableName?, Schema.field?,
    filterMap_entryKeys htables, filterMap_entryKeys hfields, Schema.describe]
  have hlist : (c.applyTo {}).fields.map (fun e => "- " ++ e.2.name ++ " (" ++ e.2.property ++ "): "
      ++ e.2.type.describe) = (c.applyTo {}).fields.map (fun e => "- " ++ e.2.name ++ " (" ++ e.1 ++
      "): " ++ e.2.type.describe) := List.map_congr_left fun e he => by rw [hproperty e he]
  rw [hlist]

lemma or_eq_ite {α : Type} (x y : Option α) : x.or y = if x.isSome then x else y := by
  cases x <;> rfl

/-- Changes of what other changes made join both. -/
lemma Changes.joins (c d : Changes) :
    Schema.Joins (c.applyTo {}) (d.applyTo {}) (d.applyTo (c.applyTo {})) := by
  have hfield : ∀ property, (d.applyTo (c.applyTo {})).field? property =
      if (d.applyTo {}).hasProperty property then (d.applyTo {}).field? property
      else (c.applyTo {}).field? property := fun property =>
    (lookup_setEntries _ d.fields property).trans (or_eq_ite _ _)
  refine ⟨fun domain => ?_, fun property => ?_, fun property => ?_,
    entryKeys_setEntries _ d.tables, entryKeys_setEntries _ d.fields, ?_⟩
  · exact (lookup_setEntries _ d.tables domain).trans (or_eq_ite _ _)
  · rw [Schema.fieldName?, hfield, apply_ite (Option.map SchemaField.name)]
    rfl
  · rw [Schema.fieldType?, hfield, apply_ite (Option.map SchemaField.type)]
    rfl
  · rw [← c.applyTo_append d]
    exact (c.append d).describe_eq

variable {m₁ m₂ : String} {s s₁ s₂ : Schema}

lemma exists_parse_append_iff : (∃ s, Schema.parse (m₁ ++ "\n" ++ m₂) = .ok s) ↔
    (∃ s₁, Schema.parse m₁ = .ok s₁) ∧ ∃ s₂, Schema.parse m₂ = .ok s₂ := by
  simp only [parse_append, bind_eq_ok_iff]
  constructor
  · rintro ⟨s, s₁, h₁, h⟩
    exact ⟨⟨s₁, h₁⟩, ((uniform_addLines _).exists_ok_iff s₁ {}).mp ⟨s, h⟩⟩
  · rintro ⟨⟨s₁, h₁⟩, h₂⟩
    obtain ⟨s, h⟩ := ((uniform_addLines _).exists_ok_iff s₁ {}).mpr h₂
    exact ⟨s, s₁, h₁, h⟩

lemma joins_of_parse (h : Schema.parse (m₁ ++ "\n" ++ m₂) = .ok s)
    (h₁ : Schema.parse m₁ = .ok s₁) (h₂ : Schema.parse m₂ = .ok s₂) : s₁.Joins s₂ s := by
  obtain ⟨c, hc, rfl⟩ := exists_changes_of_parse h₁
  obtain ⟨d, hd, rfl⟩ := exists_changes_of_parse h₂
  have happlied : s = d.applyTo (c.applyTo {}) := by
    rw [parse_append, h₁] at h
    exact Except.ok.inj (h.symm.trans (hd _))
  rw [happlied]
  exact c.joins d

/-! ### Edits of lines -/

/-- Ways to write the lines of a manifest that declare the same. -/
inductive Edit : List (List Char) → List (List Char) → Prop where
  /-- A blank line or a comment is inserted. -/
  | idle (before after : List (List Char)) {l : List Char} (h : IsIdle l) :
      Edit (before ++ after) (before ++ l :: after)
  /-- Blanks are put around a line. -/
  | spaced (before after : List (List Char)) (l : List Char) {ws ws' : List Char} (h : Blanks ws)
      (h' : Blanks ws') : Edit (before ++ l :: after) (before ++ (ws ++ l ++ ws') :: after)
  /-- A dash and a space are put before a declaration. -/
  | marked (before after : List (List Char)) {l : List Char} (h : IsUnmarked l) :
      Edit (before ++ l :: after) (before ++ ('-' :: ' ' :: l) :: after)

section

variable {l l' rest : List Char} {ls ls' : List (List Char)}

/-- Two lines declare the same or are both refused. -/
def ReadAlike (l l' : List Char) : Prop := ∀ declared, readLine l = .ok declared ↔
  readLine l' = .ok declared

lemma readAlike_of_strip_eq (h : strip l = strip l') : ReadAlike l l' := by
  intro declared
  simp only [readLine_eq_ok_iff, IsIdle, h]

/-- Behind a dash stands the line itself, as far as it is trimmed. -/
lemma exists_strip_marked (h : strip l ≠ []) :
    ∃ rest, strip ('-' :: ' ' :: l) = '-' :: ' ' :: rest ∧ strip rest = strip l := by
  obtain ⟨before, after, hbefore, hafter, heq⟩ := Text.Chars.exists_eq_append_strip l
  have htrimmed : Text.Chars.Trimmed ('-' :: ' ' :: (before ++ strip l)) := by
    constructor
    · rintro _ ⟨⟩
      rfl
    · intro c hc
      refine (Text.Chars.trimmed_strip l).last c ?_
      rw [← List.cons_append, ← List.cons_append, List.getLast?_append_of_ne_nil _ h] at hc
      exact hc
  have hmarked : '-' :: ' ' :: l = '-' :: ' ' :: (before ++ strip l) ++ after :=
    congrArg (fun cs => '-' :: ' ' :: cs) heq
  refine ⟨before ++ strip l, ?_, ?_⟩
  · rw [hmarked, Text.Chars.strip_append_right hafter, htrimmed.strip]
  · rw [Text.Chars.strip_append_left hbefore, Text.Chars.strip_strip]

/-- The dash before a declaration is not seen. -/
lemma readAlike_marked (h : IsUnmarked l) : ReadAlike l ('-' :: ' ' :: l) := by
  obtain ⟨c, rest, hstrip, -⟩ := h.exists_cons
  obtain ⟨behind, hmarked, hbehind⟩ := exists_strip_marked (l := l) (by simp [hstrip])
  have hidle : ¬ IsIdle ('-' :: ' ' :: l) := by
    rw [IsIdle, hmarked]
    simp
  have hdash : withoutDash (strip ('-' :: ' ' :: l)) = strip l := by
    rw [hmarked]
    exact hbehind
  intro declared
  simp only [readLine_eq_ok_iff, h.not_isIdle, hidle, h.withoutDash_strip, hdash]

/-- A line that is read alike does the same, unless it is refused. -/
lemma ReadAlike.addLine_iff (h : ReadAlike l l') {s s' : Schema} :
    addLine s l = .ok s' ↔ addLine s l' = .ok s' := by
  cases hl : readLine l with
  | ok declared => simp only [addLine, hl, (h declared).mp hl]
  | error e =>
    cases hl' : readLine l' with
    | ok declared => cases hl.symm.trans ((h declared).mpr hl')
    | error e' => simp [addLine, hl, hl']

lemma addLines_around_iff {before after : List (List Char)} {s s' : Schema} :
    addLines s (before ++ l :: after) = .ok s' ↔
      ∃ s₁ s₂, addLines s before = .ok s₁ ∧ addLine s₁ l = .ok s₂ ∧
        addLines s₂ after = .ok s' := by
  simp only [addLines_append, addLines_cons, bind_eq_ok_iff]
  constructor
  · rintro ⟨s₁, h₁, s₂, h₂, h⟩
    exact ⟨s₁, s₂, h₁, h₂, h⟩
  · rintro ⟨s₁, s₂, h₁, h₂, h⟩
    exact ⟨s₁, h₁, s₂, h₂, h⟩

lemma ReadAlike.addLines_iff (h : ReadAlike l l') {before after : List (List Char)}
    {s s' : Schema} : addLines s (before ++ l :: after) = .ok s' ↔
      addLines s (before ++ l' :: after) = .ok s' := by
  simp only [addLines_around_iff, h.addLine_iff]

/-- An idle line leaves the schema as it is. -/
lemma addLine_of_isIdle (h : IsIdle l) (s : Schema) : addLine s l = .ok s := by
  have hread : readLine l = .ok none := readLine_eq_ok_iff.mpr (.inl ⟨h, rfl⟩)
  rw [addLine, hread]

/-- Edited lines declare the same. -/
lemma Edit.addLines_iff (h : Edit ls ls') {s s' : Schema} :
    addLines s ls = .ok s' ↔ addLines s ls' = .ok s' := by
  cases h with
  | idle before after hidle =>
    simp only [addLines_append, addLines_cons, addLine_of_isIdle hidle]
    rfl
  | spaced before after l hws hws' =>
    exact (readAlike_of_strip_eq (Text.Chars.strip_around hws hws' l).symm).addLines_iff
  | marked before after hl => exact (readAlike_marked hl).addLines_iff

/-- So do lines after any number of edits, each of which may also be taken back. -/
lemma addLines_iff_of_edits (h : Relation.EqvGen Edit ls ls') {s s' : Schema} :
    addLines s ls = .ok s' ↔ addLines s ls' = .ok s' := by
  induction h with
  | rel _ _ h => exact h.addLines_iff
  | refl => exact Iff.rfl
  | symm _ _ _ ih => exact ih.symm
  | trans _ _ _ _ _ ih ih' => exact ih.trans ih'

end

/-! ### Manifests of one line -/

/-- What a manifest of one line comes to. -/
inductive Line (l : List Char) : Except ManifestError Schema → Prop where
  /-- The line declares nothing. -/
  | idle (h : IsIdle l) : Line l (.ok {})
  | table {name domain : String} (h : Declares l (.table name domain)) :
      Line l (.ok { tables := [(domain, name)] })
  | field {name property text : String} {type : FieldType}
      (h : Declares l (.field name property text)) (htype : FieldType.parse text = .ok type) :
      Line l (.ok { fields := [(property, ⟨name, property, type⟩)] })
  /-- The type of a field is none: the part of the text that is refused is told. -/
  | untyped {name property text part : String} (h : Declares l (.field name property text))
      (htype : FieldType.parse text = .error part) : Line l (.error (.type part))
  /-- The line is no declaration: it is told as it stands. -/
  | undeclared (hidle : ¬ IsIdle l) (h : ∀ d, ¬ Declares l d) :
      Line l (.error (.line (String.ofList l)))

section

variable {l : List Char} {result : Except ManifestError Schema}

/-- Each line comes to something. -/
lemma line_addLine (l : List Char) : Line l (addLine {} l) := by
  cases hread : readLine l with
  | error e =>
    obtain rfl := eq_line_of_readLine hread
    simp only [addLine, hread]
    refine .undeclared (fun hidle => ?_) fun d hd => ?_
    · cases hread.symm.trans (readLine_eq_none_iff.mpr hidle)
    · cases hread.symm.trans (readLine_eq_some_iff.mpr hd)
  | ok declared =>
    cases declared with
    | none =>
      simp only [addLine, hread]
      exact .idle (readLine_eq_none_iff.mp hread)
    | some d =>
      have hd := readLine_eq_some_iff.mp hread
      simp only [addLine, hread]
      cases d with
      | table name domain => exact .table hd
      | field name property text =>
        simp only [declare]
        split
        · rename_i htype
          exact .field hd htype
        · rename_i htype
          exact .untyped hd htype

/-- A line comes to nothing else. -/
lemma Line.addLine_eq (h : Line l result) : addLine {} l = result := by
  cases h with
  | idle h => exact addLine_of_isIdle h {}
  | table h => simp [addLine, readLine_eq_some_iff.mpr h, declare, setEntry]
  | field h htype => simp [addLine, readLine_eq_some_iff.mpr h, declare, htype, setEntry]
  | untyped h htype => simp [addLine, readLine_eq_some_iff.mpr h, declare, htype]
  | undeclared hidle h =>
    cases hread : readLine l with
    | error e => simp only [addLine, hread, eq_line_of_readLine hread]
    | ok declared =>
      cases declared with
      | none => exact absurd (readLine_eq_none_iff.mp hread) hidle
      | some d => exact absurd (readLine_eq_some_iff.mp hread) (h d)

lemma parse_line_iff {m : String} (hl : l ∈ lines m.toList) :
    Schema.parse (String.ofList l) = result ↔ Line l result := by
  rw [parse_line hl]
  constructor
  · rintro rfl
    exact line_addLine l
  · exact Line.addLine_eq

end

/-- A manifest is read line by line, and the last declaration of a code wins. Two manifests with a
line feed between them are read if both are, and declare what both declare, with the names of the
second where it has some and its new codes listed behind those of the first. A manifest that is
refused is refused for the first of its lines that is, as for a manifest of that line alone. Blank
lines and comments, blanks around lines and dashes before declarations do not change what is
declared. A manifest of one line declares what stands on it, and nothing else. -/
theorem parse_linewise :
    (∀ m₁ m₂,
      ((∃ s, Schema.parse (m₁ ++ "\n" ++ m₂) = .ok s) ↔
        (∃ s₁, Schema.parse m₁ = .ok s₁) ∧ ∃ s₂, Schema.parse m₂ = .ok s₂) ∧
      ∀ s s₁ s₂, Schema.parse (m₁ ++ "\n" ++ m₂) = .ok s → Schema.parse m₁ = .ok s₁ →
        Schema.parse m₂ = .ok s₂ → s₁.Joins s₂ s) ∧
    (∀ m e, Schema.parse m = .error e ↔
      ∃ before l after, lines m.toList = before ++ l :: after ∧
        (∀ b ∈ before, ∃ t, Schema.parse (String.ofList b) = .ok t) ∧
        Schema.parse (String.ofList l) = .error e) ∧
    (∀ m m', Relation.EqvGen Edit (lines m.toList) (lines m'.toList) →
      ∀ s, Schema.parse m = .ok s ↔ Schema.parse m' = .ok s) ∧
    ∀ m : String, ∀ l ∈ lines m.toList, ∀ result,
      Schema.parse (String.ofList l) = result ↔ Line l result :=
  ⟨fun _ _ => ⟨exists_parse_append_iff, fun _ _ _ => joins_of_parse⟩, fun _ _ => parse_eq_error_iff,
    fun _ _ h _ => addLines_iff_of_edits h, fun _ _ hl _ => parse_line_iff hl⟩

/-- A country is declared twice, and the second manifest is written in two ways. Its declaration is
a table line behind a dash. -/
theorem parse_linewise_twice :
    (⟨[("Q6256", "country")], []⟩ : Schema).Joins
        ⟨[("Q6256", "land")], [("P36", ⟨"capital", "P36", ⟨.entity "city", false⟩⟩)]⟩
        ⟨[("Q6256", "land")], [("P36", ⟨"capital", "P36", ⟨.entity "city", false⟩⟩)]⟩ ∧
      (Schema.parse "table land = Q6256" = .ok ⟨[("Q6256", "land")], []⟩ ↔
        Schema.parse "# lands\u2028\t- table land = Q6256" = .ok ⟨[("Q6256", "land")], []⟩) ∧
      Schema.parse "- table land = Q6256" = .ok ⟨[("Q6256", "land")], []⟩ := by
  refine ⟨?_, ?_, ?_⟩
  · refine (parse_linewise.1 "table country = Q6256\r"
      "- table land = Q6256\x0c\nfield capital = P36:Entity(city)").2 _ _ _ ?_ ?_ ?_ <;> rfl
  · have hmarked : Edit ["table land = Q6256".toList] ["- table land = Q6256".toList] :=
      .marked [] [] (.inl (by decide))
    have hspaced : Edit ["- table land = Q6256".toList] ["\t- table land = Q6256".toList] :=
      .spaced [] [] _ (List.forall_mem_singleton.mpr (by decide)) Text.Chars.blanks_nil
    have hidle : Edit ["\t- table land = Q6256".toList]
        ["# lands".toList, "\t- table land = Q6256".toList] := .idle [] _ (.inr (by decide))
    have hlines : lines "table land = Q6256".toList = ["table land = Q6256".toList] := by
      decide +kernel
    have hlines' : lines "# lands\u2028\t- table land = Q6256".toList =
        ["# lands".toList, "\t- table land = Q6256".toList] := by decide +kernel
    refine parse_linewise.2.2.1 _ _ ?_ _
    rw [hlines, hlines']
    exact .trans _ _ _ (.rel _ _ hmarked) (.trans _ _ _ (.rel _ _ hspaced) (.rel _ _ hidle))
  · have hspace : Blanks [' '] := List.forall_mem_singleton.mpr (by decide)
    have hland : IsName "land" := by decide
    have hdigits : IsWord Char.isDigit "6256" := by decide
    have hbinding : IsBinding 'Q' "land = Q6256".toList "land" "Q6256" :=
      .binding hland hspace hspace hdigits
    have hdash : strip "- table land = Q6256".toList =
        '-' :: ' ' :: "table land = Q6256".toList := by decide +kernel
    have htable : strip "table land = Q6256".toList = "table land = Q6256".toList := by
      decide +kernel
    have hdeclares : Declares "- table land = Q6256".toList (.table "land" "Q6256") :=
      .marked hdash (htable ▸ .table (List.cons_ne_nil _ _) hspace hbinding)
    have hline : "- table land = Q6256".toList ∈ lines "- table land = Q6256".toList := by
      decide +kernel
    exact (parse_linewise.2.2.2 _ _ hline _).mpr (.table hdeclares)

end Manifest

end GraphTalk
