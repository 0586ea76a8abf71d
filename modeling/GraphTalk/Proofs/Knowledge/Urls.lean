import Mathlib.Tactic.Common
import GraphTalk.Knowledge.Url
import GraphTalk.Proofs.Text.Spacing

/-!
# URLs of lookups

A text inside a URL can be read back (`percentEncode_inj`), and an encoded text has no blanks. So
the URL for what is known about entities is in the normal form of spacing, and it tells the entities
that were asked for (`entitiesUrl_inj`).
-/

namespace GraphTalk

/-! ### Percent-encoding -/

namespace Text

/-- A text without blanks. -/
def Unspaced (s : String) : Prop := ∀ c ∈ s.toList, isBlank c = false

instance (s : String) : Decidable (Unspaced s) :=
  List.decidableBAll (isBlank · = false) s.toList

lemma Unspaced.append {s t : String} (hs : Unspaced s) (ht : Unspaced t) : Unspaced (s ++ t) := by
  unfold Unspaced
  rw [String.toList_append, List.forall_mem_append]
  exact ⟨hs, ht⟩

lemma isBlank_of_isUnreserved {c : Char} (h : isUnreserved c = true) : isBlank c = false := by
  simp only [isUnreserved, Char.le_def, UInt32.le_iff_toNat_le, Bool.or_eq_true, Bool.and_eq_true,
    decide_eq_true_eq, beq_iff_eq, Char.ext_iff, ← UInt32.toNat_inj] at h
  simp only [isBlank, Bool.or_eq_false_iff, Bool.and_eq_false_iff, decide_eq_false_iff_not,
    beq_eq_false_iff_ne]
  simp at h
  omega

lemma isBlank_upperHexDigit : ∀ n < 16, isBlank (upperHexDigit n) = false := by decide

lemma isBlank_of_mem_percentByte {b : UInt8} {c : Char} (h : c ∈ percentByte b) :
    isBlank c = false := by
  have hb : b.toNat < 256 := b.toNat_lt
  simp only [percentByte, List.mem_cons, List.not_mem_nil, or_false] at h
  rcases h with rfl | rfl | rfl
  · decide
  · exact isBlank_upperHexDigit _ (by omega)
  · exact isBlank_upperHexDigit _ (by omega)

lemma unspaced_percentEncode {set : Charset} (hset : ∀ c ∈ set.safe, isBlank c = false)
    (s : String) : Unspaced (percentEncode set s) := by
  intro c h
  rw [percentEncode, String.toList_ofList] at h
  obtain ⟨d, _, hc⟩ := List.mem_flatMap.mp h
  simp only [percentChar] at hc
  split at hc
  · rename_i hd
    rw [List.mem_singleton] at hc
    subst hc
    rcases Bool.or_eq_true _ _ ▸ hd with hd | hd
    · exact isBlank_of_isUnreserved hd
    · exact hset c (by simpa using hd)
  · split at hc
    · rw [List.mem_singleton.mp hc]
      decide
    · obtain ⟨b, _, hc⟩ := List.mem_flatMap.mp hc
      exact isBlank_of_mem_percentByte hc

/-- The value of an upper-case hexadecimal digit. -/
def upperHexValue (c : Char) : Nat := if c.isDigit then c.toNat - 48 else c.toNat - 55

/-- The bytes that an encoded text stands for. -/
def percentDecode (plusForSpace : Bool) : List Char → List UInt8
  | [] => []
  | '%' :: a :: b :: rest =>
    UInt8.ofNat (16 * upperHexValue a + upperHexValue b) :: percentDecode plusForSpace rest
  | c :: rest =>
    (if c == '+' && plusForSpace then [32] else String.utf8EncodeChar c) ++
      percentDecode plusForSpace rest

/-- An encoding in which the marks of encoded bytes and spaces do not stand for themselves. -/
def Charset.IsReadable (set : Charset) : Prop := '%' ∉ set.safe ∧ '+' ∉ set.safe

lemma upperHexValue_upperHexDigit : ∀ n < 16, upperHexValue (upperHexDigit n) = n := by decide

lemma percentDecode_percentByte (plus : Bool) (b : UInt8) (rest : List Char) :
    percentDecode plus (percentByte b ++ rest) = b :: percentDecode plus rest := by
  have hb : b.toNat < 256 := b.toNat_lt
  simp only [percentByte, List.cons_append, List.nil_append, percentDecode]
  rw [upperHexValue_upperHexDigit _ (by omega), upperHexValue_upperHexDigit _ (by omega),
    Nat.div_add_mod, UInt8.ofNat_toNat]

lemma percentDecode_percentBytes (plus : Bool) (bs : List UInt8) (rest : List Char) :
    percentDecode plus (bs.flatMap percentByte ++ rest) = bs ++ percentDecode plus rest := by
  induction bs with
  | nil => rfl
  | cons b bs ih =>
    rw [List.flatMap_cons, List.append_assoc, percentDecode_percentByte, ih, List.cons_append]

lemma percentDecode_percentChar {set : Charset} (hset : set.IsReadable) (c : Char)
    (rest : List Char) :
    percentDecode set.plusForSpace (percentChar set c ++ rest) =
      String.utf8EncodeChar c ++ percentDecode set.plusForSpace rest := by
  simp only [percentChar]
  split
  · rename_i hc
    have hpercent : c ≠ '%' := by
      rintro rfl
      simp [hset.1, show isUnreserved '%' = false by decide] at hc
    have hplus : c ≠ '+' := by
      rintro rfl
      simp [hset.2, show isUnreserved '+' = false by decide] at hc
    simp [percentDecode, hpercent, hplus]
  · split
    · rename_i hc
      obtain ⟨hspace, hplus⟩ := Bool.and_eq_true _ _ ▸ hc
      rw [beq_iff_eq.mp hspace, hplus]
      rfl
    · exact percentDecode_percentBytes _ _ rest

lemma percentDecode_percentEncode {set : Charset} (hset : set.IsReadable) (s : String) :
    percentDecode set.plusForSpace (percentEncode set s).toList =
      s.toList.flatMap String.utf8EncodeChar := by
  rw [percentEncode, String.toList_ofList]
  induction s.toList with
  | nil => rfl
  | cons c cs ih =>
    rw [List.flatMap_cons, percentDecode_percentChar hset, ih, List.flatMap_cons]

/-- Different texts are encoded differently. -/
theorem percentEncode_inj {set : Charset} (hset : set.IsReadable) {s t : String} :
    percentEncode set s = percentEncode set t ↔ s = t := by
  refine ⟨fun h => ?_, fun h => h ▸ rfl⟩
  have hbytes :
      s.toList.flatMap String.utf8EncodeChar = t.toList.flatMap String.utf8EncodeChar := by
    rw [← percentDecode_percentEncode hset, h, percentDecode_percentEncode hset]
  rw [← String.ofList_toList (s := s), ← String.ofList_toList (s := t), ← String.toByteArray_inj,
    String.toByteArray_ofList, String.toByteArray_ofList, List.utf8Encode, List.utf8Encode, hbytes]

end Text

/-! ### URLs -/

namespace Knowledge

lemma isReadable_codesCharset : codesCharset.IsReadable := by
  constructor <;> decide

lemma unspaced_entitiesUrl (codes : List String) (part : EntityPart) :
    Text.Unspaced (entitiesUrl codes part) := by
  have hstart : Text.Unspaced "https://www.wikidata.org/w/api.php?action=wbgetentities&ids=" := by
    decide +kernel
  have hname : Text.Unspaced part.name := by cases part <;> decide +kernel
  have hmiddle : Text.Unspaced "&languages=en&props=" := by decide +kernel
  have hend : Text.Unspaced "&format=json" := by decide +kernel
  have hsafe : ∀ c ∈ codesCharset.safe, Text.isBlank c = false := by
    intro c hc
    obtain rfl := List.mem_singleton.mp hc
    rfl
  have hcodes := Text.unspaced_percentEncode hsafe (String.intercalate "|" codes)
  exact (((hstart.append hcodes).append hmiddle).append hname).append hend

/-- The URL for what is known about entities is in the normal form of spacing. -/
@[simp] theorem normalizeBlanks_entitiesUrl (codes : List String) (part : EntityPart) :
    Text.normalizeBlanks (entitiesUrl codes part) = entitiesUrl codes part :=
  Text.normalizeBlanks_of_not_blank (unspaced_entitiesUrl codes part)

lemma unspaced_queryUrl (sparql : String) : Text.Unspaced (queryUrl sparql) := by
  have hstart : Text.Unspaced "https://query.wikidata.org/sparql?query=" := by decide +kernel
  have hend : Text.Unspaced "&format=json" := by decide +kernel
  have hsafe : ∀ c ∈ queryCharset.safe, Text.isBlank c = false := List.forall_mem_nil _
  have hquery := Text.unspaced_percentEncode hsafe (Text.normalizeBlanks sparql)
  exact (hstart.append hquery).append hend

/-- The URL of a query is in the normal form of spacing. -/
@[simp] theorem normalizeBlanks_queryUrl (sparql : String) :
    Text.normalizeBlanks (queryUrl sparql) = queryUrl sparql :=
  Text.normalizeBlanks_of_not_blank (unspaced_queryUrl sparql)

lemma isReadable_queryCharset : queryCharset.IsReadable := by
  constructor <;> decide

-- stated of variables, since the fixed texts of a URL are too long to be evaluated
lemma middle_eq_of_append_eq {start s t rest : String}
    (h : start ++ s ++ rest = start ++ t ++ rest) : s = t := by
  simpa using h

/-- The URL of a query tells the query, up to the spacing. -/
theorem queryUrl_inj {sparql sparql' : String} :
    queryUrl sparql = queryUrl sparql' ↔
      Text.normalizeBlanks sparql = Text.normalizeBlanks sparql' := by
  constructor
  · intro h
    exact (Text.percentEncode_inj isReadable_queryCharset).mp (middle_eq_of_append_eq h)
  · intro h
    unfold queryUrl
    rw [h]

lemma not_mem_of_isCodeChars {cs : List Char} (h : isCodeChars cs = true) : '|' ∉ cs := by
  match cs with
  | [] => cases h
  | [_] => cases h
  | letter :: d :: ds =>
    simp only [isCodeChars, Bool.and_eq_true, Bool.or_eq_true, beq_iff_eq, List.all_eq_true] at h
    intro hmem
    rcases List.mem_cons.mp hmem with rfl | hmem
    · simp at h
    · exact absurd (h.2 _ hmem) (by decide)

/-- A code has no bar in it, so bars keep codes apart. -/
lemma not_mem_of_isCode {code : String} (h : isCode code = true) : '|' ∉ code.toList := by
  simp only [isCode, Bool.or_eq_true, Bool.and_eq_true, beq_iff_eq] at h
  rcases h with h | ⟨hlast, h⟩
  · exact not_mem_of_isCodeChars h
  · obtain ⟨ys, hys⟩ := List.getLast?_eq_some_iff.mp hlast
    rw [hys, List.dropLast_concat] at h
    simp [hys, not_mem_of_isCodeChars h]

-- stated of variables for the same reason
lemma inner_eq_of_append_eq {start s t middle name rest : String}
    (h : start ++ s ++ middle ++ name ++ rest = start ++ t ++ middle ++ name ++ rest) : s = t := by
  simpa using h

/-- The URL for what is known about entities tells which they are. -/
theorem entitiesUrl_inj {codes codes' : List String} {part : EntityPart} (hne : codes ≠ [])
    (hne' : codes' ≠ []) (h : ∀ code ∈ codes, isCode code = true)
    (h' : ∀ code ∈ codes', isCode code = true) :
    entitiesUrl codes part = entitiesUrl codes' part ↔ codes = codes' := by
  refine ⟨fun heq => ?_, fun heq => heq ▸ rfl⟩
  have hsplit : ∀ {codes : List String}, codes ≠ [] → (∀ code ∈ codes, isCode code = true) →
      (String.intercalate "|" codes).toList.splitOn '|' = codes.map String.toList := by
    intro codes hne h
    rw [String.toList_intercalate]
    refine List.splitOn_intercalate '|' (fun l hl => ?_) (by simpa using hne)
    obtain ⟨code, hcode, rfl⟩ := List.mem_map.mp hl
    exact not_mem_of_isCode (h code hcode)
  have hjoined : String.intercalate "|" codes = String.intercalate "|" codes' :=
    (Text.percentEncode_inj isReadable_codesCharset).mp (inner_eq_of_append_eq heq)
  have hmap : codes.map String.toList = codes'.map String.toList := by
    rw [← hsplit hne h, hjoined, hsplit hne' h']
  exact (List.map_inj_right fun _ _ => String.toList_inj.mp).mp hmap

end Knowledge

end GraphTalk
