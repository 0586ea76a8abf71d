import GraphTalk.Proofs.Document.Numerals
import GraphTalk.Rdf.Literal

/-!
# Lexical forms of numbers

The texts that the numeric datatypes allow for their values, as the datatypes define them: digits
with a sign, a point and an exponent, and the words for what is not finite.

Every such text of an integer or a double is read as the number that it denotes
(`Literal.Denotes.number?_eq`). A decimal is read as no number, whatever its value is
(`Literal.DenotesDecimal.number?_eq`).
-/

namespace GraphTalk

open Text (AreDigits digitsValue)

namespace Rdf

/-! ### Forms -/

/-- A sign or none, and what follows it. -/
inductive Signed : Bool → List Char → List Char → Prop where
  | none (cs : List Char) : Signed false cs cs
  | plus (cs : List Char) : Signed false cs ('+' :: cs)
  | minus (cs : List Char) : Signed true cs ('-' :: cs)

/-- An integer: digits, with or without a sign. -/
inductive IntegerForm : List Char → Int → Prop where
  | digits {negative : Bool} {ds cs : List Char} (hs : Signed negative ds cs)
      (hds : AreDigits ds) :
      IntegerForm cs (if negative then -(digitsValue ds : Int) else digitsValue ds)

/-- Digits, with or without a point before, among or behind them. -/
inductive FractionForm : List Char → List Char → List Char → Prop where
  | whole {ds : List Char} (hds : AreDigits ds) : FractionForm ds ds []
  | point {whole fraction : List Char} (hds : AreDigits (whole ++ fraction)) :
      FractionForm (whole ++ '.' :: fraction) whole fraction

/-- An exponent behind its mark, or none. -/
inductive ExponentForm : List Char → Int → Prop where
  | none : ExponentForm [] 0
  | marked {c : Char} {cs : List Char} {e : Int} (hc : c = 'e' ∨ c = 'E')
      (h : IntegerForm cs e) : ExponentForm (c :: cs) e

/-- A double: the one that is nearest to a decimal with an exponent, or one that is not finite. -/
inductive DoubleForm : List Char → Double → Prop where
  | decimal {negative : Bool} {ds es cs whole fraction : List Char} {e : Int}
      (hs : Signed negative (ds ++ es) cs) (hds : FractionForm ds whole fraction)
      (hes : ExponentForm es e) :
      DoubleForm cs (.ofDecimal negative (digitsValue (whole ++ fraction)) (e - fraction.length))
  | infinity {negative : Bool} {cs : List Char} (hs : Signed negative ['I', 'N', 'F'] cs) :
      DoubleForm cs (.infinity negative)
  | nan : DoubleForm ['N', 'a', 'N'] .nan

/-- A decimal: digits with or without a sign and a point. -/
inductive DecimalForm : List Char → ℚ → Prop where
  | digits {negative : Bool} {ds cs whole fraction : List Char} (hs : Signed negative ds cs)
      (hds : FractionForm ds whole fraction) :
      DecimalForm cs ((if negative then -1 else 1) *
        (digitsValue (whole ++ fraction) / 10 ^ fraction.length))

namespace Literal

/-- A literal denotes an integer or a double: it has such a datatype and a form of it. -/
inductive Denotes (l : Literal) : Number → Prop where
  | integer {type : String} {n : Int} (htype : type ∈ integerTypes)
      (hd : l.datatype = some (datatypeNamespace ++ type)) (h : IntegerForm l.text.toList n) :
      Denotes l (.int n)
  | double {type : String} {x : Double} (htype : type ∈ ["double", "float"])
      (hd : l.datatype = some (datatypeNamespace ++ type)) (h : DoubleForm l.text.toList x) :
      Denotes l (.float x)

/-- A literal denotes a decimal. -/
structure DenotesDecimal (l : Literal) (x : ℚ) : Prop where
  datatype : l.datatype = some (datatypeNamespace ++ "decimal")
  form : DecimalForm l.text.toList x

end Literal

/-! ### Digits -/

/-- The value of a digit. -/
def digitOf (c : Char) : Nat := c.toNat - '0'.toNat

lemma isDigit_iff {c : Char} : Text.isDigit c = true ↔ 48 ≤ c.toNat ∧ c.toNat ≤ 57 := by
  simp [Text.isDigit, Char.le_def, UInt32.le_iff_toNat_le]

lemma digitValue?_of_isDigit {c : Char} (h : Text.isDigit c = true) :
    Text.digitValue? c = some (digitOf c) := by
  obtain ⟨_, hhigh⟩ := isDigit_iff.mp h
  have hascii : c.toNat < 0x80 := by omega
  simp only [Text.digitValue?, if_pos hascii, digitOf]
  exact if_pos h

lemma isBlank_of_isDigit {c : Char} (h : Text.isDigit c = true) : Text.isBlank c = false := by
  obtain ⟨hlow, hhigh⟩ := isDigit_iff.mp h
  simp [Text.isBlank]
  omega

lemma ofDigits_map (ds : List Char) : Number.ofDigits (ds.map digitOf) = digitsValue ds := by
  rw [Number.ofDigits, List.foldl_map]
  rfl

/-- A run of digits ends here. -/
def EndsRun (rest : List Char) : Prop :=
  ∀ c ∈ rest.head?, Text.digitValue? c = none ∧ c ≠ '_'

lemma digitRun_of_ends {rest : List Char} (h : EndsRun rest) (inside : Bool) :
    Number.digitRun inside rest = ([], rest) := by
  cases rest with
  | nil => rfl
  | cons c rest =>
    obtain ⟨hnone, hc⟩ := h c rfl
    simp [Number.digitRun, hnone, hc]

lemma digitRun_append {ds rest : List Char} (hds : ∀ c ∈ ds, Text.isDigit c = true)
    (hrest : EndsRun rest) (inside : Bool) :
    Number.digitRun inside (ds ++ rest) = (ds.map digitOf, rest) := by
  induction ds generalizing inside with
  | nil => exact digitRun_of_ends hrest inside
  | cons d ds ih =>
    obtain ⟨hd, hds⟩ := List.forall_mem_cons.mp hds
    simp [Number.digitRun, digitValue?_of_isDigit hd, ih hds]

lemma digitRun_digits {ds : List Char} (hds : ∀ c ∈ ds, Text.isDigit c = true) :
    Number.digitRun false ds = (ds.map digitOf, []) := by
  have hend : EndsRun [] := by simp [EndsRun]
  simpa using digitRun_append hds hend false

/-! ### Signs and blanks -/

lemma Signed.sign_eq {negative : Bool} {ds cs : List Char} (h : Signed negative ds cs)
    (hds : ∀ c ∈ ds.head?, c ≠ '-' ∧ c ≠ '+') : Number.sign cs = (negative, ds) := by
  cases h with
  | none =>
    unfold Number.sign
    split
    · exact absurd rfl (hds '-' rfl).1
    · exact absurd rfl (hds '+' rfl).2
    · rfl
  | plus => rfl
  | minus => rfl

lemma Signed.not_blank {negative : Bool} {ds cs : List Char} (h : Signed negative ds cs)
    (hds : ∀ c ∈ ds, Text.isBlank c = false) : ∀ c ∈ cs, Text.isBlank c = false := by
  cases h with
  | none => exact hds
  | plus => exact List.forall_mem_cons.mpr ⟨by decide, hds⟩
  | minus => exact List.forall_mem_cons.mpr ⟨by decide, hds⟩

lemma strip_of_not_blank {cs : List Char} (h : ∀ c ∈ cs, Text.isBlank c = false) :
    Text.Chars.strip cs = cs := by
  have hkeep : ∀ {ds : List Char}, (∀ c ∈ ds, Text.isBlank c = false) →
      ds.dropWhile Text.isBlank = ds := by
    intro ds hds
    cases ds with
    | nil => rfl
    | cons d ds => simp [hds d (by simp)]
  rw [Text.Chars.strip, hkeep h, Text.Chars.dropWhileEnd, hkeep (by simpa using h),
    List.reverse_reverse]

/-- Digits do not start with a sign. -/
lemma not_sign_of_isDigit {c : Char} (h : Text.isDigit c = true) : c ≠ '-' ∧ c ≠ '+' := by
  constructor
  · rintro rfl
    exact absurd h (by decide)
  · rintro rfl
    exact absurd h (by decide)

/-! ### Integers -/

lemma IntegerForm.not_blank {cs : List Char} {n : Int} (h : IntegerForm cs n) :
    ∀ c ∈ cs, Text.isBlank c = false := by
  cases h with
  | digits hs hds => exact hs.not_blank fun c hc => isBlank_of_isDigit (hds.isDigit c hc)

/-- The sign and the digits of an integer are told apart. -/
lemma IntegerForm.exists_sign {cs : List Char} {n : Int} (h : IntegerForm cs n) :
    ∃ negative d ds, Number.sign cs = (negative, d :: ds) ∧
      Number.digitRun false (d :: ds) = ((d :: ds).map digitOf, []) ∧
      n = if negative then -(Number.ofDigits ((d :: ds).map digitOf) : Int)
        else Number.ofDigits ((d :: ds).map digitOf) := by
  cases h with
  | @digits negative ds _ hs hds =>
    obtain ⟨d, ds, rfl⟩ := List.exists_cons_of_ne_nil hds.ne_nil
    refine ⟨negative, d, ds, hs.sign_eq ?_, digitRun_digits hds.isDigit, by rw [ofDigits_map]⟩
    simpa using not_sign_of_isDigit (hds.isDigit d (by simp))

lemma IntegerForm.readInt?_eq {s : String} {n : Int} (h : IntegerForm s.toList n) :
    Number.readInt? s = some n := by
  obtain ⟨negative, d, ds, hsign, hrun, rfl⟩ := h.exists_sign
  simp only [Number.readInt?, strip_of_not_blank h.not_blank, hsign, hrun]
  rfl

lemma ExponentForm.readExponent?_eq {cs : List Char} {e : Int} (h : ExponentForm cs e) :
    Number.readExponent? cs = some e := by
  cases h with
  | none => rfl
  | @marked c cs e hc h =>
    obtain ⟨negative, d, ds, hsign, hrun, rfl⟩ := h.exists_sign
    have hmark : (c == 'e' || c == 'E') = true := by simpa using hc
    simp only [Number.readExponent?, hmark, if_true, hsign, hrun]
    rfl

/-! ### Doubles -/

lemma ExponentForm.endsRun {cs : List Char} {e : Int} (h : ExponentForm cs e) : EndsRun cs := by
  cases h with
  | none => simp [EndsRun]
  | marked hc _ =>
    intro c' hc'
    obtain rfl : _ = c' := by simpa using hc'
    rcases hc with rfl | rfl
    · exact ⟨by decide, by decide⟩
    · exact ⟨by decide, by decide⟩

lemma ExponentForm.not_blank {cs : List Char} {e : Int} (h : ExponentForm cs e) :
    ∀ c ∈ cs, Text.isBlank c = false := by
  cases h with
  | none => simp
  | marked hc h =>
    refine List.forall_mem_cons.mpr ⟨?_, h.not_blank⟩
    rcases hc with rfl | rfl <;> decide

lemma FractionForm.not_blank {ds whole fraction : List Char} (h : FractionForm ds whole fraction) :
    ∀ c ∈ ds, Text.isBlank c = false := by
  cases h with
  | whole hds => exact fun c hc => isBlank_of_isDigit (hds.isDigit c hc)
  | point hds =>
    obtain ⟨hwhole, hfraction⟩ := List.forall_mem_append.mp hds.isDigit
    refine List.forall_mem_append.mpr ⟨fun c hc => isBlank_of_isDigit (hwhole c hc), ?_⟩
    exact List.forall_mem_cons.mpr ⟨by decide, fun c hc => isBlank_of_isDigit (hfraction c hc)⟩

/-- Digits with a point start with a digit or with the point. -/
lemma FractionForm.exists_cons {ds whole fraction : List Char}
    (h : FractionForm ds whole fraction) :
    ∃ d rest, ds = d :: rest ∧ (Text.isDigit d = true ∨ d = '.') := by
  cases h with
  | whole hds =>
    obtain ⟨d, rest, rfl⟩ := List.exists_cons_of_ne_nil hds.ne_nil
    exact ⟨d, rest, rfl, .inl (hds.isDigit d (by simp))⟩
  | @point whole fraction hds =>
    cases whole with
    | nil => exact ⟨'.', fraction, rfl, .inr rfl⟩
    | cons d whole => exact ⟨d, whole ++ '.' :: fraction, rfl, .inl (hds.isDigit d (by simp))⟩

lemma FractionForm.readDecimal?_eq {ds es whole fraction : List Char} {e : Int}
    (hds : FractionForm ds whole fraction) (hes : ExponentForm es e) :
    Number.readDecimal? (ds ++ es) = some (whole.map digitOf, fraction.map digitOf, e) := by
  cases hds with
  | whole hds =>
    unfold Number.readDecimal?
    simp only [digitRun_append hds.isDigit hes.endsRun]
    have hexponent := hes.readExponent?_eq
    cases hes with
    | none => simp [hexponent, hds.ne_nil]
    | marked hc _ => rcases hc with rfl | rfl <;> simp [hexponent, hds.ne_nil]
  | point hds =>
    obtain ⟨hwhole, hfraction⟩ := List.forall_mem_append.mp hds.isDigit
    have hends : EndsRun ('.' :: (fraction ++ es)) := by
      intro c hc
      obtain rfl : '.' = c := by simpa using hc
      exact ⟨by decide, by decide⟩
    have hne : (whole.isEmpty && fraction.isEmpty) = false := by
      simpa [Bool.and_eq_false_iff, or_iff_not_imp_left] using hds.ne_nil
    unfold Number.readDecimal?
    rw [List.append_assoc, List.cons_append]
    simp only [digitRun_append hwhole hends, digitRun_append hfraction hes.endsRun,
      List.isEmpty_map, hne, Bool.false_eq_true, if_false, hes.readExponent?_eq, Option.map_some]

/-- What starts with a digit or a point is not a word. -/
lemma readWord?_eq_none {negative : Bool} {c : Char} {cs : List Char}
    (hc : Text.isDigit c = true ∨ c = '.') : Number.readWord? negative (c :: cs) = none := by
  have hlower : c.toLower = c := by
    rcases hc with hc | rfl
    · obtain ⟨_, hhigh⟩ := isDigit_iff.mp hc
      unfold Char.toLower
      split
      · rename_i hupper
        have hlow : 65 ≤ c.toNat := hupper.1
        omega
      · rfl
    · decide
  have hne : ∀ (d : Char) (ds : List Char), Text.isDigit d = false → d ≠ '.' →
      String.ofList ((c :: cs).map Char.toLower) ≠ String.ofList (d :: ds) := by
    intro d ds hd hpoint heq
    rw [String.ofList_inj, List.map_cons, hlower] at heq
    obtain ⟨rfl, _⟩ := List.cons.inj heq
    rcases hc with hc | hc
    · rw [hd] at hc
      cases hc
    · exact hpoint hc
  unfold Number.readWord?
  split
  · rename_i heq
    exact absurd heq (hne 'i' ['n', 'f'] (by decide) (by decide))
  · rename_i heq
    exact absurd heq (hne 'i' ['n', 'f', 'i', 'n', 'i', 't', 'y'] (by decide) (by decide))
  · rename_i heq
    exact absurd heq (hne 'n' ['a', 'n'] (by decide) (by decide))
  · rfl

lemma DoubleForm.readDouble?_eq {s : String} {x : Double} (h : DoubleForm s.toList x) :
    Number.readDouble? s = some x := by
  generalize hcs : s.toList = cs at h
  unfold Number.readDouble?
  rw [hcs]
  cases h with
  | @decimal negative ds es _ whole fraction e hs hds hes =>
    have hblank := hs.not_blank
      (List.forall_mem_append.mpr ⟨hds.not_blank, hes.not_blank⟩)
    have hread := hds.readDecimal?_eq hes
    obtain ⟨d, rest, rfl, hd⟩ := hds.exists_cons
    have hsign : Number.sign cs = (negative, d :: rest ++ es) := by
      refine hs.sign_eq ?_
      rcases hd with hd | rfl
      · simpa using not_sign_of_isDigit hd
      · simp
    rw [strip_of_not_blank hblank, hsign]
    simp only [List.cons_append] at hread ⊢
    simp only [readWord?_eq_none hd, hread, Option.map_some, ← List.map_append, ofDigits_map,
      List.length_map]
  | infinity hs =>
    cases hs with
    | none | plus | minus => rfl
  | nan => rfl

/-! ### Literals -/

namespace Literal

lemma valueSpace_append (type : String) :
    valueSpace (some (datatypeNamespace ++ type)) =
      if integerTypes.contains type then .integer
      else if type == "decimal" then .decimal
      else if type == "double" || type == "float" then .double
      else if type == "boolean" then .boolean
      else if type == "string" then .text
      else .other := by
  simp only [valueSpace, Text.dropStart?_append]

/-- A literal of an integer or a double has the number that it denotes. -/
lemma Denotes.number?_eq {l : Literal} {n : Number} (h : l.Denotes n) : l.number? = some n := by
  cases h with
  | integer htype hd h =>
    have hspace : valueSpace l.datatype = .integer := by
      rw [hd, valueSpace_append, if_pos (List.contains_iff_mem.mpr htype)]
    simp [number?, hspace, h.readInt?_eq]
  | double htype hd h =>
    have hspace : valueSpace l.datatype = .double := by
      rw [hd, valueSpace_append]
      rcases List.mem_pair.mp htype with rfl | rfl <;> decide
    simp [number?, hspace, h.readDouble?_eq]

/-- A decimal has no number. -/
lemma DenotesDecimal.number?_eq {l : Literal} {x : ℚ} (h : l.DenotesDecimal x) :
    l.number? = none := by
  have hspace : valueSpace l.datatype = .decimal := by
    rw [h.datatype, valueSpace_append]
    decide
  simp [number?, hspace]

end Literal

end Rdf

end GraphTalk
