import GraphTalk.Proofs.Program.WellFormed
import GraphTalk.Proofs.Result
import GraphTalk.Proofs.Text.Trimming

/-!
# The grammar of field types

A text, trimmed, is an element type or an array of a text (`IsElement`, `IsArrayOf`), and arrays
may be taken off as long as there are any (`Wraps`). To read a type is to take off all of them and
to read what is left; the number of steps that are allowed is never too small (`readFrom_eq`). So a
text is a type exactly if an element type is left, and to describe a type is to write a text for
which it is read again (`parse_denotes`).
-/

namespace GraphTalk

open Text.Chars (Blanks Trimmed strip)

/-! ### Grammar -/

/-- The text of an element type, without blanks around it. -/
inductive IsElement : List Char → ElementType → Prop where
  | string : IsElement "String".toList .string
  | number : IsElement "Number".toList .number
  | boolean : IsElement "Boolean".toList .boolean
  | date : IsElement "Date".toList .date
  | entity {ws₁ ws₂ ws₃ : List Char} {type : String} (h₁ : Blanks ws₁) (h₂ : Blanks ws₂)
      (h₃ : Blanks ws₃) (htype : IsWord FieldType.isTypeChar type) :
      IsElement ("Entity".toList ++ (ws₁ ++ '(' :: (ws₂ ++ type.toList ++ ws₃ ++ [')'])))
        (.entity type)

/-- The text of an array, without blanks around it, of what another text stands for. That one is on
one line. -/
inductive IsArrayOf : List Char → List Char → Prop where
  | brackets {ws inner : List Char} (hws : Blanks ws) (hne : inner ≠ []) (hline : '\n' ∉ inner) :
      IsArrayOf ("Array".toList ++ (ws ++ '(' :: (inner ++ [')']))) inner

/-- A text is a number of arrays around a text without blanks around it. -/
inductive Wraps : List Char → ℕ → List Char → Prop where
  | none (cs : List Char) : Wraps cs 0 (strip cs)
  | array {cs inner core : List Char} {depth : ℕ} (harray : IsArrayOf (strip cs) inner)
      (h : Wraps inner depth core) : Wraps cs (depth + 1) core

/-- A text from which no array can be taken off. -/
def IsInnermost (core : List Char) : Prop := ∀ inner, ¬ IsArrayOf core inner

lemma isWord_ofList {p : Char → Bool} {cs : List Char} (hne : cs ≠ []) (h : ∀ c ∈ cs, p c = true) :
    IsWord p (String.ofList cs) := by
  constructor
  · simpa using hne
  · simpa using h

namespace FieldType

variable {cs core inner : List Char}

/-! ### Brackets -/

lemma bracketed?_eq_some_iff {word : String} : bracketed? word cs = some inner ↔
    ∃ ws, Blanks ws ∧ cs = word.toList ++ (ws ++ '(' :: (inner ++ [')'])) := by
  constructor
  · intro h
    unfold bracketed? at h
    split at h
    · rename_i hword
      obtain ⟨rest, rfl⟩ := List.isPrefixOf_iff_prefix.mp hword
      rw [List.drop_left] at h
      split at h
      · rename_i behind hbehind
        simp only [Option.ite_none_right_eq_some, Option.some.injEq] at h
        obtain ⟨hlast, rfl⟩ := h
        refine ⟨rest.takeWhile Text.isBlank, fun c hc => List.mem_takeWhile_imp hc, ?_⟩
        rw [List.dropLast_append_getLast? _ hlast, ← hbehind, List.takeWhile_append_dropWhile]
      · cases h
    · cases h
  · rintro ⟨ws, hws, rfl⟩
    have hbracket : ('(' :: (inner ++ [')'])).dropWhile Text.isBlank = '(' :: (inner ++ [')']) :=
      List.dropWhile_cons_of_neg (by decide)
    unfold bracketed?
    rw [if_pos (List.isPrefixOf_iff_prefix.mpr (List.prefix_append _ _)), List.drop_left,
      List.dropWhile_append_of_pos hws, hbracket]
    simp

lemma arrayElement?_eq_some_iff : arrayElement? cs = some inner ↔ IsArrayOf cs inner := by
  constructor
  · intro h
    unfold arrayElement? at h
    split at h
    · rename_i inner' hbrackets
      simp only [Option.ite_none_left_eq_some, Bool.or_eq_true, List.isEmpty_iff,
        List.contains_iff_mem, not_or, Option.some.injEq] at h
      obtain ⟨⟨hne, hline⟩, rfl⟩ := h
      obtain ⟨ws, hws, rfl⟩ := bracketed?_eq_some_iff.mp hbrackets
      exact .brackets hws hne hline
    · cases h
  · rintro ⟨hws, hne, hline⟩
    rw [arrayElement?, bracketed?_eq_some_iff.mpr ⟨_, hws, rfl⟩]
    simp [hne, hline]

lemma arrayElement?_eq_none_iff : arrayElement? cs = none ↔ IsInnermost cs := by
  simp only [IsInnermost, ← arrayElement?_eq_some_iff, Option.eq_none_iff_forall_not_mem,
    Option.mem_def]

/-- The element of an array is shorter than the array. -/
lemma length_lt_of_isArrayOf (h : IsArrayOf cs inner) : inner.length < cs.length := by
  cases h
  simp only [List.length_append, List.length_cons]
  omega

/-! ### Elements -/

/-- Where the characters of the names of types are. -/
lemma bounds_of_isTypeChar {c : Char} (h : isTypeChar c = true) :
    46 ≤ c.toNat ∧ c.toNat ≤ 122 := by
  have hupper : c.isUpper = true → 65 ≤ c.toNat ∧ c.toNat ≤ 90 := fun h => of_decide_eq_true h
  have hlower : c.isLower = true → 97 ≤ c.toNat ∧ c.toNat ≤ 122 := fun h =>
    (Bool.and_eq_true_iff.mp h).imp of_decide_eq_true of_decide_eq_true
  have hdigit : c.isDigit = true → 48 ≤ c.toNat ∧ c.toNat ≤ 57 := fun h =>
    (Bool.and_eq_true_iff.mp h).imp of_decide_eq_true of_decide_eq_true
  simp only [isTypeChar, Bool.or_eq_true, beq_iff_eq] at h
  rcases h with ((h | rfl) | rfl) | rfl
  · rcases Bool.or_eq_true_iff.mp h with h | h
    · rcases Bool.or_eq_true_iff.mp h with h | h
      · exact (hupper h).imp (by omega) (by omega)
      · exact (hlower h).imp (by omega) (by omega)
    · exact (hdigit h).imp (by omega) (by omega)
  all_goals decide

lemma isBlank_of_isTypeChar {c : Char} (h : isTypeChar c = true) : Text.isBlank c = false := by
  obtain ⟨hlow, hhigh⟩ := bounds_of_isTypeChar h
  simp only [Text.isBlank, Bool.or_eq_false_iff, Bool.and_eq_false_iff, decide_eq_false_iff_not,
    beq_eq_false_iff_ne]
  omega

lemma trimmed_of_isWord {type : String} (h : IsWord isTypeChar type) : Trimmed type.toList :=
  ⟨fun c hc => isBlank_of_isTypeChar (h.2 c (List.mem_of_mem_head? hc)),
    fun c hc => isBlank_of_isTypeChar (h.2 c (List.mem_of_mem_getLast? hc))⟩

lemma entityName?_isWord {name : List Char} (h : entityName? cs = some name) :
    IsWord isTypeChar (String.ofList name) := by
  unfold entityName? at h
  split at h
  · rename_i inner hinner
    simp only [Option.ite_none_left_eq_some, Bool.or_eq_true, Bool.not_eq_true',
      Option.some.injEq, not_or] at h
    obtain ⟨⟨hne, hall⟩, rfl⟩ := h
    refine isWord_ofList (by simpa using hne) ?_
    simpa using hall
  · cases h

lemma entityName?_eq_some_iff {type : String} :
    entityName? cs = some type.toList ↔ IsElement cs (.entity type) := by
  constructor
  · intro h
    have hword : IsWord isTypeChar type := by simpa using entityName?_isWord h
    unfold entityName? at h
    split at h
    · rename_i inner hbrackets
      simp only [Option.ite_none_left_eq_some, Option.some.injEq] at h
      obtain ⟨ws, hws, rfl⟩ := bracketed?_eq_some_iff.mp hbrackets
      obtain ⟨before, after, hbefore, hafter, heq⟩ := Text.Chars.exists_eq_append_strip inner
      rw [h.2] at heq
      rw [heq]
      exact .entity hws hbefore hafter hword
    · cases h
  · rintro ⟨⟩
    rename_i ws₁ ws₂ ws₃ h₁ h₂ h₃ hword
    have hstrip : strip (ws₂ ++ type.toList ++ ws₃) = type.toList := by
      rw [Text.Chars.strip_around h₂ h₃, (trimmed_of_isWord hword).strip]
    rw [entityName?, bracketed?_eq_some_iff.mpr ⟨ws₁, h₁, rfl⟩]
    simp only [hstrip]
    simpa [IsWord] using hword

lemma scalar?_eq_some_iff {element : ElementType} :
    ElementType.scalar? cs = some element ↔
      IsElement cs element ∧ ∀ type, element ≠ .entity type := by
  constructor
  · intro h
    unfold ElementType.scalar? at h
    split at h
    case h_5 => cases h
    all_goals
      rename_i hname
      cases h
      rw [← @String.toList_ofList cs, hname]
    · exact ⟨.string, nofun⟩
    · exact ⟨.number, nofun⟩
    · exact ⟨.boolean, nofun⟩
    · exact ⟨.date, nofun⟩
  · rintro ⟨h, hscalar⟩
    cases h with
    | entity => exact absurd rfl (hscalar _)
    | _ => rfl

/-- The element type that a text without blanks around it stands for. -/
def element? (cs : List Char) : Option ElementType :=
  match entityName? cs with
  | some name => some (.entity (String.ofList name))
  | none => ElementType.scalar? cs

lemma element?_eq_some_iff {element : ElementType} :
    element? cs = some element ↔ IsElement cs element := by
  unfold element?
  constructor
  · intro h
    split at h
    · rename_i name hname
      cases h
      exact entityName?_eq_some_iff.mp (by rwa [String.toList_ofList])
    · exact (scalar?_eq_some_iff.mp h).1
  · intro h
    cases h with
    | entity h₁ h₂ h₃ htype =>
      rw [entityName?_eq_some_iff.mpr (.entity h₁ h₂ h₃ htype)]
      exact congrArg (some ∘ ElementType.entity) String.ofList_toList
    | _ => rfl

lemma element?_eq_none_iff : element? cs = none ↔ ∀ element, ¬ IsElement cs element := by
  simp only [← element?_eq_some_iff, Option.eq_none_iff_forall_ne_some, ne_eq]

/-- The text of an element type is no array. -/
lemma isInnermost_of_isElement {element : ElementType} (h : IsElement core element) :
    IsInnermost core := by
  intro inner harray
  have hstart : core.head? = some 'A' := by
    cases harray
    rfl
  cases h <;> cases hstart

lemma trimmed_of_isElement {element : ElementType} (h : IsElement cs element) : Trimmed cs := by
  cases h with
  | entity h₁ h₂ h₃ htype =>
    rename_i ws₁ ws₂ ws₃ type
    have hends : Trimmed ('E' :: (("ntity".toList ++ ws₁ ++ '(' :: (ws₂ ++ type.toList ++ ws₃)) ++
        [')'])) :=
      Text.Chars.trimmed_between (by decide) (by decide) _
    simpa using hends
  | _ =>
    constructor
    · rintro _ ⟨⟩
      rfl
    · rintro _ ⟨⟩
      rfl

/-! ### Reading -/

/-- What is read from a text without arrays in which a number of arrays stood around it. -/
def reading (depth : ℕ) (core : List Char) : Except (List Char) FieldType :=
  match element? core with
  | some element => .ok { element, isArray := decide (0 < depth) }
  | none => .error core

lemma readFrom_of_array {fuel : ℕ} (h : IsArrayOf (strip cs) inner) :
    readFrom (fuel + 1) cs = (readFrom fuel inner).map fun t => { t with isArray := true } := by
  simp only [readFrom, arrayElement?_eq_some_iff.mpr h]
  cases readFrom fuel inner <;> rfl

lemma readFrom_of_innermost {fuel : ℕ} (h : IsInnermost (strip cs)) :
    readFrom (fuel + 1) cs = reading 0 (strip cs) := by
  simp only [readFrom, arrayElement?_eq_none_iff.mpr h, reading, element?]
  cases entityName? (strip cs) with
  | some name => rfl
  | none => cases ElementType.scalar? (strip cs) <;> rfl

lemma map_reading (depth : ℕ) (core : List Char) :
    ((reading depth core).map fun t => { t with isArray := true }) = reading (depth + 1) core := by
  unfold reading
  cases element? core <;> simp [Except.map]

/-- To read a type is to take off all arrays and to read what is left. -/
lemma readFrom_eq {fuel : ℕ} (h : cs.length < fuel) :
    ∃ depth core, Wraps cs depth core ∧ IsInnermost core ∧
      readFrom fuel cs = reading depth core := by
  induction fuel generalizing cs with
  | zero => exact absurd h (Nat.not_lt_zero _)
  | succ fuel ih =>
    by_cases harray : IsInnermost (strip cs)
    · exact ⟨0, strip cs, .none cs, harray, readFrom_of_innermost harray⟩
    · simp only [IsInnermost, not_forall, not_not] at harray
      obtain ⟨inner, harray⟩ := harray
      have hlength : inner.length < fuel := by
        have hshorter := length_lt_of_isArrayOf harray
        have hstrip := Text.Chars.length_strip_le cs
        omega
      obtain ⟨depth, core, hwraps, hcore, hread⟩ := ih hlength
      refine ⟨depth + 1, core, .array harray hwraps, hcore, ?_⟩
      rw [readFrom_of_array harray, hread, map_reading]

end FieldType

/-- All arrays are taken off in one way. -/
lemma Wraps.unique {cs core core' : List Char} {depth depth' : ℕ} (h : Wraps cs depth core)
    (h' : Wraps cs depth' core') (hcore : IsInnermost core) (hcore' : IsInnermost core') :
    depth = depth' ∧ core = core' := by
  induction h generalizing depth' with
  | none cs =>
    cases h' with
    | none => exact ⟨rfl, rfl⟩
    | array harray => exact absurd harray (hcore _)
  | array harray _ ih =>
    cases h' with
    | none => exact absurd harray (hcore' _)
    | array harray' h' =>
      rw [← FieldType.arrayElement?_eq_some_iff] at harray harray'
      obtain rfl := Option.some.inj (harray.symm.trans harray')
      obtain ⟨rfl, rfl⟩ := ih h' hcore
      exact ⟨rfl, rfl⟩

namespace FieldType

variable {text : String} {t : FieldType}

lemma exists_parse_eq (text : String) : ∃ depth core, Wraps text.toList depth core ∧
    IsInnermost core ∧ parse text = (reading depth core).mapError String.ofList := by
  have hlength : text.toList.length < text.length + 1 := by
    rw [String.length_toList]
    exact Nat.lt_succ_self _
  obtain ⟨depth, core, hwraps, hcore, hread⟩ := readFrom_eq hlength
  refine ⟨depth, core, hwraps, hcore, ?_⟩
  rw [parse, hread]
  cases reading depth core <;> rfl

/-- A text with a number of arrays around a text that has none is read as that one is. -/
lemma parse_of_wraps {depth : ℕ} {core : List Char} (h : Wraps text.toList depth core)
    (hcore : IsInnermost core) : parse text = (reading depth core).mapError String.ofList := by
  obtain ⟨depth', core', h', hcore', heq⟩ := exists_parse_eq text
  obtain ⟨rfl, rfl⟩ := h.unique h' hcore hcore'
  exact heq

lemma reading_eq_ok_iff {depth : ℕ} {core : List Char} :
    reading depth core = .ok t ↔ IsElement core t.element ∧ (t.isArray = true ↔ 0 < depth) := by
  rw [reading, ← element?_eq_some_iff]
  cases element? core with
  | none => simp
  | some element =>
    obtain ⟨element', isArray⟩ := t
    simp only [Except.ok.injEq, mk.injEq, Option.some.injEq]
    grind

lemma reading_eq_error_iff {depth : ℕ} {core e : List Char} :
    reading depth core = .error e ↔ (∀ element, ¬ IsElement core element) ∧ core = e := by
  rw [reading, ← element?_eq_none_iff]
  cases element? core <;> simp

lemma parse_eq_ok_iff : parse text = .ok t ↔
    ∃ depth core, Wraps text.toList depth core ∧ IsElement core t.element ∧
      (t.isArray = true ↔ 0 < depth) := by
  constructor
  · intro h
    obtain ⟨depth, core, hwraps, -, heq⟩ := exists_parse_eq text
    refine ⟨depth, core, hwraps, reading_eq_ok_iff.mp ?_⟩
    rwa [heq, mapError_eq_ok_iff] at h
  · rintro ⟨depth, core, hwraps, helement⟩
    rw [parse_of_wraps hwraps (isInnermost_of_isElement helement.1), mapError_eq_ok_iff]
    exact reading_eq_ok_iff.mpr helement

/-- The entities that a text is read as have a word for a type. -/
lemma parse_isWord {type : String} (h : parse text = .ok t) (ht : t.entityType? = some type) :
    IsWord isTypeChar type := by
  obtain ⟨depth, core, -, helement, -⟩ := parse_eq_ok_iff.mp h
  obtain ⟨element, isArray⟩ := t
  cases helement with
  | entity _ _ _ htype =>
    cases ht
    exact htype
  | _ => cases ht

lemma parse_eq_error_iff {e : String} : parse text = .error e ↔
    ∃ depth core, Wraps text.toList depth core ∧ IsInnermost core ∧
      (∀ element, ¬ IsElement core element) ∧ e = String.ofList core := by
  constructor
  · intro h
    obtain ⟨depth, core, hwraps, hcore, heq⟩ := exists_parse_eq text
    rw [heq, mapError_eq_error_iff] at h
    obtain ⟨_, hread, rfl⟩ := h
    obtain ⟨hnone, rfl⟩ := reading_eq_error_iff.mp hread
    exact ⟨depth, _, hwraps, hcore, hnone, rfl⟩
  · rintro ⟨depth, core, hwraps, hcore, hnone, rfl⟩
    rw [parse_of_wraps hwraps hcore, mapError_eq_error_iff]
    exact ⟨core, reading_eq_error_iff.mpr ⟨hnone, rfl⟩, rfl⟩

end FieldType

/-! ### Descriptions -/

/-- The text of an element type in a description. -/
def ElementType.text : ElementType → String
  | .entity type => "Entity(" ++ type ++ ")"
  | element => element.kind

namespace FieldType

variable {cs inner : List Char} {text : String} {t : FieldType}

lemma describe_eq (t : FieldType) :
    t.describe = if t.isArray then "Array(" ++ t.element.text ++ ")" else t.element.text := by
  obtain ⟨element, isArray⟩ := t
  cases element <;> rfl

/-- A type that has a text at all has the text that describes it. -/
lemma isElement_text {element : ElementType} (h : IsElement cs element) :
    IsElement element.text.toList element := by
  cases h with
  | entity h₁ h₂ h₃ htype =>
    have hplain := IsElement.entity Text.Chars.blanks_nil Text.Chars.blanks_nil
      Text.Chars.blanks_nil htype
    simpa [ElementType.text] using hplain
  | string => exact .string
  | number => exact .number
  | boolean => exact .boolean
  | date => exact .date

lemma newline_not_mem_text {element : ElementType} (h : IsElement cs element) :
    '\n' ∉ element.text.toList := by
  cases h with
  | entity h₁ h₂ h₃ htype =>
    have hnewline : ∀ c ∈ _, c ≠ '\n' := fun c hc heq => by
      subst heq
      exact absurd (htype.2 _ hc) (by decide)
    simpa [ElementType.text] using fun hmem => hnewline _ hmem rfl
  | _ => decide

lemma isArrayOf_describe {element : ElementType} (h : IsElement cs element) :
    IsArrayOf ("Array(" ++ element.text ++ ")").toList element.text.toList := by
  have hne : element.text.toList ≠ [] := by
    intro hnil
    have htext := isElement_text h
    rw [hnil] at htext
    cases htext
  simpa using IsArrayOf.brackets Text.Chars.blanks_nil hne (newline_not_mem_text h)

lemma trimmed_of_isArrayOf (h : IsArrayOf cs inner) : Trimmed cs := by
  cases h with
  | brackets hws hne hline =>
    rename_i ws
    have hends : Trimmed ('A' :: (("rray".toList ++ ws ++ '(' :: inner) ++ [')'])) :=
      Text.Chars.trimmed_between (by decide) (by decide) _
    simpa using hends

/-- The text of an element type has no arrays around it. -/
lemma wraps_of_isElement {element : ElementType} (h : IsElement cs element) : Wraps cs 0 cs := by
  have hnone := Wraps.none cs
  rwa [(trimmed_of_isElement h).strip] at hnone

/-- The description of a type stands for it. -/
lemma parse_describe (h : parse text = .ok t) : parse t.describe = .ok t := by
  obtain ⟨_, core, -, hcore, -⟩ := parse_eq_ok_iff.mp h
  have helement := isElement_text hcore
  rw [describe_eq, parse_eq_ok_iff]
  by_cases harray : t.isArray
  · rw [if_pos harray]
    have hbrackets := isArrayOf_describe hcore
    rw [← (trimmed_of_isArrayOf hbrackets).strip] at hbrackets
    exact ⟨1, _, .array hbrackets (wraps_of_isElement helement), helement,
      iff_of_true harray Nat.one_pos⟩
  · rw [if_neg harray]
    exact ⟨0, _, wraps_of_isElement helement, helement, iff_of_false harray (lt_irrefl 0)⟩

/-- A text is a type exactly if it is, trimmed, the text of an element type or an array of such a
text; the element type is the innermost one, and the type is one of arrays if there was an array.
Otherwise it is refused with the innermost part. The description of a type is a text for it. -/
theorem parse_denotes (text : String) :
    (∀ t, parse text = .ok t ↔
      ∃ depth core, Wraps text.toList depth core ∧ IsElement core t.element ∧
        (t.isArray = true ↔ 0 < depth)) ∧
    (∀ e, parse text = .error e ↔
      ∃ depth core, Wraps text.toList depth core ∧ IsInnermost core ∧
        (∀ element, ¬ IsElement core element) ∧ e = String.ofList core) ∧
    ∀ t, parse text = .ok t → parse t.describe = .ok t :=
  ⟨fun _ => parse_eq_ok_iff, fun _ => parse_eq_error_iff, fun _ => parse_describe⟩

/-- A type in nested and oddly spaced arrays. -/
theorem parse_denotes_nested :
    parse " Array\t( Array (Entity ( org.wikidata:p_child\t)) ) " =
        .ok { element := .entity "org.wikidata:p_child", isArray := true } ∧
      parse "Array(Entity(org.wikidata:p_child))" =
        .ok { element := .entity "org.wikidata:p_child", isArray := true } := by
  have hparse : parse " Array\t( Array (Entity ( org.wikidata:p_child\t)) ) " =
      .ok { element := .entity "org.wikidata:p_child", isArray := true } := by rfl
  exact ⟨hparse, (parse_denotes _).2.2 _ hparse⟩

end FieldType

end GraphTalk
