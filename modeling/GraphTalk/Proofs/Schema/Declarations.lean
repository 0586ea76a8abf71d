import GraphTalk.Proofs.Schema.FieldTypes

/-!
# The grammar of declarations

A declaration is a word, a name, an equals sign and a code, and for a field a colon and a type
(`IsDeclaration`). The parts are runs of characters with blanks around the signs. As no run goes on
where the next part begins, a text is read as a declaration exactly if it is one
(`declaration?_eq_some_iff`). A line is read as the declaration on it, with blanks around it and a
dash before it or without (`readLine_eq_some_iff`), or as nothing if it is blank or a comment.
-/

namespace GraphTalk.Manifest

open Text.Chars (Blanks strip)

/-! ### Grammar -/

/-- A name, an equals sign and a code, which is a letter and digits. Blanks may stand around the
sign. -/
inductive IsBinding (letter : Char) : List Char → String → String → Prop where
  | binding {ws ws' : List Char} {name digits : String} (hname : IsName name) (hws : Blanks ws)
      (hws' : Blanks ws') (hdigits : IsWord Char.isDigit digits) :
      IsBinding letter (name.toList ++ (ws ++ '=' :: (ws' ++ letter :: digits.toList))) name
        (String.ofList (letter :: digits.toList))

/-- The text of a declaration, without blanks around it. -/
inductive IsDeclaration : List Char → Declaration → Prop where
  | table {ws cs : List Char} {name domain : String} (hne : ws ≠ []) (hws : Blanks ws)
      (h : IsBinding 'Q' cs name domain) :
      IsDeclaration ("table".toList ++ (ws ++ cs)) (.table name domain)
  | field {ws ws₁ ws₂ cs : List Char} {name property type : String} (hne : ws ≠ [])
      (hws : Blanks ws) (h : IsBinding 'P' cs name property) (h₁ : Blanks ws₁) (h₂ : Blanks ws₂)
      (htype : type ≠ "") (hfirst : ∀ c ∈ type.toList.head?, Text.isBlank c = false) :
      IsDeclaration ("field".toList ++ (ws ++ (cs ++ (ws₁ ++ ':' :: (ws₂ ++ type.toList)))))
        (.field name property type)

/-! ### Runs -/

section

variable {p : Char → Bool} {cs taken rest name code : List Char}

/-- A run of characters of a kind ends before a text. -/
def EndsRun (p : Char → Bool) (cs : List Char) : Prop := ∀ c ∈ cs.head?, p c = false

lemma endsRun_nil : EndsRun p [] := by simp [EndsRun]

lemma takeWhile_append_of_endsRun (h : ∀ c ∈ taken, p c = true) (hrest : EndsRun p rest) :
    (taken ++ rest).takeWhile p = taken := by
  rw [List.takeWhile_append_of_pos h]
  cases rest with
  | nil => simp
  | cons c rest => simp [List.takeWhile_cons_of_neg, hrest c rfl]

lemma dropWhile_append_of_endsRun (h : ∀ c ∈ taken, p c = true) (hrest : EndsRun p rest) :
    (taken ++ rest).dropWhile p = rest := by
  rw [List.dropWhile_append_of_pos h]
  cases rest with
  | nil => rfl
  | cons c rest => exact List.dropWhile_cons_of_neg (by simp [hrest c rfl])

/-- A text is a run, which may be empty, and what is left when it is dropped. -/
lemma dropWhile_eq_iff : cs.dropWhile p = rest ↔
    ∃ taken, (∀ c ∈ taken, p c = true) ∧ cs = taken ++ rest ∧ EndsRun p rest := by
  constructor
  · rintro rfl
    exact ⟨cs.takeWhile p, fun c hc => List.mem_takeWhile_imp hc,
      List.takeWhile_append_dropWhile.symm, Text.Chars.head?_dropWhile_not p cs⟩
  · rintro ⟨taken, htaken, rfl, hrest⟩
    exact dropWhile_append_of_endsRun htaken hrest

lemma run?_eq_some_iff : run? p cs = some (taken, rest) ↔
    IsWord p (String.ofList taken) ∧ cs = taken ++ rest ∧ EndsRun p rest := by
  constructor
  · intro h
    unfold run? at h
    split at h
    · cases h
    · rename_i hne
      cases h
      exact ⟨isWord_ofList hne fun c hc => List.mem_takeWhile_imp hc,
        List.takeWhile_append_dropWhile.symm, Text.Chars.head?_dropWhile_not p cs⟩
  · rintro ⟨⟨hne, htaken⟩, rfl, hrest⟩
    rw [String.toList_ofList] at htaken
    rw [run?, takeWhile_append_of_endsRun htaken hrest, dropWhile_append_of_endsRun htaken hrest]
    cases taken with
    | nil => exact absurd rfl hne
    | cons => rfl

lemma afterWord?_eq_some_iff {word : String} : afterWord? word cs = some rest ↔
    ∃ ws, ws ≠ [] ∧ Blanks ws ∧ cs = word.toList ++ (ws ++ rest) ∧ EndsRun Text.isBlank rest := by
  constructor
  · intro h
    unfold afterWord? at h
    split at h
    · rename_i hword
      obtain ⟨behind, rfl⟩ := List.isPrefixOf_iff_prefix.mp hword
      rw [List.drop_left] at h
      split at h
      · rename_i c behind
        simp only [Option.ite_none_right_eq_some, Option.some.injEq] at h
        obtain ⟨hc, h⟩ := h
        obtain ⟨ws, hws, rfl, hrest⟩ := dropWhile_eq_iff.mp h
        exact ⟨c :: ws, List.cons_ne_nil c ws, List.forall_mem_cons.mpr ⟨hc, hws⟩, rfl, hrest⟩
      · cases h
    · cases h
  · rintro ⟨ws, hne, hws, rfl, hrest⟩
    obtain ⟨c, ws, rfl⟩ := List.exists_cons_of_ne_nil hne
    obtain ⟨hc, hws⟩ := List.forall_mem_cons.mp hws
    rw [afterWord?, if_pos (List.isPrefixOf_iff_prefix.mpr (List.prefix_append _ _)),
      List.drop_left]
    simp [hc, dropWhile_append_of_endsRun hws hrest]

lemma afterMark?_eq_some_iff (mark : Char) (hmark : Text.isBlank mark = false) :
    afterMark? mark cs = some rest ↔ ∃ ws ws', Blanks ws ∧ Blanks ws' ∧
      cs = ws ++ mark :: (ws' ++ rest) ∧ EndsRun Text.isBlank rest := by
  constructor
  · intro h
    unfold afterMark? at h
    split at h
    · rename_i c behind hbehind
      simp only [beq_iff_eq, Option.ite_none_right_eq_some, Option.some.injEq] at h
      obtain ⟨rfl, h⟩ := h
      obtain ⟨ws, hws, rfl, -⟩ := dropWhile_eq_iff.mp hbehind
      obtain ⟨ws', hws', rfl, hrest⟩ := dropWhile_eq_iff.mp h
      exact ⟨ws, ws', hws, hws', rfl, hrest⟩
    · cases h
  · rintro ⟨ws, ws', hws, hws', rfl, hrest⟩
    have hends : EndsRun Text.isBlank (mark :: (ws' ++ rest)) := by simpa [EndsRun] using hmark
    rw [afterMark?, dropWhile_append_of_endsRun hws hends]
    simp [dropWhile_append_of_endsRun hws' hrest]

lemma code?_eq_some_iff {letter : Char} : code? letter cs = some (code, rest) ↔
    ∃ digits, IsWord Char.isDigit (String.ofList digits) ∧ code = letter :: digits ∧
      cs = code ++ rest ∧ EndsRun Char.isDigit rest := by
  cases cs with
  | nil =>
    simp only [code?, reduceCtorEq, false_iff]
    rintro ⟨digits, -, rfl, h, -⟩
    cases h
  | cons c cs =>
    simp only [code?, beq_iff_eq, Option.ite_none_right_eq_some, Option.map_eq_some_iff,
      Prod.mk.injEq, Prod.exists, run?_eq_some_iff]
    constructor
    · rintro ⟨rfl, digits, _, ⟨hdigits, rfl, hrest⟩, rfl, rfl⟩
      exact ⟨digits, hdigits, rfl, rfl, hrest⟩
    · rintro ⟨digits, hdigits, rfl, h, hrest⟩
      obtain ⟨rfl, rfl⟩ := List.cons.inj h
      exact ⟨rfl, digits, rest, ⟨hdigits, rfl, hrest⟩, rfl, rfl⟩

end

/-! ### Declarations -/

section

variable {cs rest : List Char} {letter : Char} {name code : List Char} {d : Declaration}

lemma isBlank_of_isNameChar {c : Char} (h : isNameChar c = true) : Text.isBlank c = false := by
  refine FieldType.isBlank_of_isTypeChar ?_
  rcases Bool.or_eq_true_iff.mp h with h | h <;> simp_all [FieldType.isTypeChar]

lemma isBlank_of_isDigit {c : Char} (h : c.isDigit = true) : Text.isBlank c = false :=
  isBlank_of_isNameChar (by simp [isNameChar, Char.isAlphanum, h])

/-- A run of characters that are not blank ends before a mark with blanks around it. -/
lemma endsRun_blanks {p : Char → Bool} {ws : List Char} (mark : Char)
    (hp : ∀ c, p c = true → Text.isBlank c = false) (hmark : p mark = false) (hws : Blanks ws)
    (cs : List Char) : EndsRun p (ws ++ mark :: cs) := by
  cases ws with
  | nil =>
    rintro _ ⟨⟩
    exact hmark
  | cons w ws =>
    rintro _ ⟨⟩
    have hw := hws w List.mem_cons_self
    rw [← Bool.not_eq_true]
    intro hpw
    cases (hp w hpw).symm.trans hw

lemma binding?_eq_some_iff (letter : Char) (hletter : Text.isBlank letter = false) :
    binding? letter cs = some (name, code, rest) ↔ ∃ bound, cs = bound ++ rest ∧
      IsBinding letter bound (String.ofList name) (String.ofList code) ∧
      EndsRun Char.isDigit rest := by
  simp only [binding?, Option.bind_eq_bind, Option.bind_eq_some_iff, Option.pure_def,
    Option.some.injEq, Prod.mk.injEq, Prod.exists, run?_eq_some_iff, code?_eq_some_iff,
    afterMark?_eq_some_iff '=' (by decide)]
  constructor
  · rintro ⟨name, _, ⟨hname, rfl, -⟩, _, ⟨ws, ws', hws, hws', rfl, -⟩, code, rest,
      ⟨digits, hdigits, rfl, rfl, hrest⟩, rfl, rfl, rfl⟩
    refine ⟨name ++ (ws ++ '=' :: (ws' ++ letter :: digits)), by simp, ?_, hrest⟩
    have hbinding : IsBinding letter _ _ _ := .binding hname hws hws' hdigits
    simpa using hbinding
  · rintro ⟨bound, rfl, h, hrest⟩
    generalize hname : String.ofList name = name' at h
    generalize hcode : String.ofList code = code' at h
    cases h with
    | @binding ws ws' _ digits hword hws hws' hdigits =>
      obtain rfl := String.ofList_injective hcode
      obtain rfl : name = name'.toList := by rw [← hname, String.toList_ofList]
      refine ⟨name'.toList, ws ++ '=' :: (ws' ++ letter :: (digits.toList ++ rest)), ⟨?_, ?_, ?_⟩,
        letter :: (digits.toList ++ rest), ⟨ws, ws', hws, hws', rfl, ?_⟩,
        letter :: digits.toList, rest, ⟨digits.toList, ?_, rfl, rfl, hrest⟩, rfl, rfl, rfl⟩
      · simpa using hword
      · simp
      · exact endsRun_blanks '=' (fun _ => isBlank_of_isNameChar) rfl hws _
      · rintro _ ⟨⟩
        exact hletter
      · simpa using hdigits

/-- A binding begins with a name, so blanks before it end there. -/
lemma IsBinding.endsRun {bound : List Char} {name code : String}
    (h : IsBinding letter bound name code) (rest : List Char) :
    EndsRun Text.isBlank (bound ++ rest) := by
  cases h with
  | @binding ws ws' _ digits hword =>
    intro c hc
    have hne : name.toList ≠ [] := by simpa using hword.1
    rw [List.append_assoc, List.head?_append_of_ne_nil _ hne] at hc
    exact isBlank_of_isNameChar (hword.2 c (List.mem_of_mem_head? hc))

lemma table?_eq_some_iff : table? cs = some d ↔
    ∃ name domain, d = .table name domain ∧ IsDeclaration cs d := by
  simp only [table?, Option.bind_eq_bind, Option.bind_eq_some_iff, Option.pure_def,
    Option.ite_none_right_eq_some, Option.some.injEq, Prod.exists, afterWord?_eq_some_iff,
    binding?_eq_some_iff 'Q' (by decide), List.isEmpty_iff]
  constructor
  · rintro ⟨_, ⟨ws, hne, hws, rfl, -⟩, name, domain, _, ⟨bound, rfl, h, -⟩, rfl, rfl⟩
    refine ⟨_, _, rfl, ?_⟩
    rw [List.append_nil]
    exact .table hne hws h
  · rintro ⟨name, domain, rfl, h⟩
    cases h with
    | @table ws bound _ _ hne hws h =>
      refine ⟨bound, ⟨ws, hne, hws, rfl, ?_⟩, name.toList, domain.toList, [],
        ⟨bound, (List.append_nil _).symm, by simpa using h, endsRun_nil⟩, rfl, by simp⟩
      simpa using h.endsRun []

lemma field?_eq_some_iff : field? cs = some d ↔
    ∃ name property type, d = .field name property type ∧ IsDeclaration cs d := by
  simp only [field?, Option.bind_eq_bind, Option.bind_eq_some_iff, Option.pure_def,
    Option.ite_none_left_eq_some, Option.some.injEq, Prod.exists, afterWord?_eq_some_iff,
    binding?_eq_some_iff 'P' (by decide),
    afterMark?_eq_some_iff ':' (by decide), List.isEmpty_iff]
  constructor
  · rintro ⟨_, ⟨ws, hne, hws, rfl, -⟩, name, property, _, ⟨bound, rfl, h, -⟩, type,
      ⟨ws₁, ws₂, h₁, h₂, rfl, hfirst⟩, htype, rfl⟩
    refine ⟨_, _, _, rfl, ?_⟩
    rw [← String.toList_ofList (l := type)] at hfirst
    simpa using IsDeclaration.field hne hws h h₁ h₂ (by simpa using htype) hfirst
  · rintro ⟨name, property, type, rfl, h⟩
    cases h with
    | @field ws ws₁ ws₂ bound _ _ _ hne hws h h₁ h₂ htype hfirst =>
      have hdigits := endsRun_blanks ':' (fun _ => isBlank_of_isDigit) rfl h₁
      exact ⟨bound ++ (ws₁ ++ ':' :: (ws₂ ++ type.toList)), ⟨ws, hne, hws, rfl, h.endsRun _⟩,
        name.toList, property.toList, ws₁ ++ ':' :: (ws₂ ++ type.toList),
        ⟨bound, rfl, by simpa using h, hdigits _⟩, type.toList, ⟨ws₁, ws₂, h₁, h₂, rfl, hfirst⟩,
        by simpa using htype, by simp⟩

/-- Declarations of the two kinds begin with two letters. -/
lemma IsDeclaration.head?_eq (h : IsDeclaration cs d) :
    cs.head? = some (match d with | .table .. => 't' | .field .. => 'f') := by
  cases h <;> rfl

/-- What a text without a dash declares. -/
def declaration? (cs : List Char) : Option Declaration := (table? cs).or (field? cs)

/-- A text is read as what it is the declaration of. -/
lemma declaration?_eq_some_iff : declaration? cs = some d ↔ IsDeclaration cs d := by
  rw [declaration?, Option.or_eq_some_iff, table?_eq_some_iff, field?_eq_some_iff]
  constructor
  · rintro (⟨-, -, -, h⟩ | ⟨-, -, -, -, -, h⟩) <;> exact h
  · intro h
    cases d with
    | table name domain => exact .inl ⟨name, domain, rfl, h⟩
    | field name property type =>
      refine .inr ⟨?_, name, property, type, rfl, h⟩
      rw [Option.eq_none_iff_forall_ne_some]
      intro d' h'
      obtain ⟨_, _, rfl, h'⟩ := table?_eq_some_iff.mp h'
      cases h.head?_eq.symm.trans h'.head?_eq

end

/-! ### Lines -/

/-- A line that declares nothing: it is blank or a comment. -/
def IsIdle (l : List Char) : Prop := strip l = [] ∨ (strip l).head? = some '#'

/-- A line that declares a table or a field and has no dash before it. -/
def IsUnmarked (l : List Char) : Prop := "table".toList <+: strip l ∨ "field".toList <+: strip l

/-- A line declares something: blanks may stand around a declaration, and a dash before it. -/
inductive Declares (l : List Char) (d : Declaration) : Prop where
  | plain (h : IsDeclaration (strip l) d)
  | marked {rest : List Char} (hdash : strip l = '-' :: ' ' :: rest)
      (h : IsDeclaration (strip rest) d)

section

variable {l : List Char} {d : Declaration} {declared : Option Declaration}

/-- A declaration without a dash begins with the letter of its kind. -/
lemma IsUnmarked.exists_cons (h : IsUnmarked l) :
    ∃ c rest, strip l = c :: rest ∧ (c = 't' ∨ c = 'f') := by
  rcases h with ⟨rest, h⟩ | ⟨rest, h⟩
  · exact ⟨'t', _, h.symm, .inl rfl⟩
  · exact ⟨'f', _, h.symm, .inr rfl⟩

lemma IsUnmarked.not_isIdle (h : IsUnmarked l) : ¬ IsIdle l := by
  obtain ⟨c, rest, hstrip, hc⟩ := h.exists_cons
  rw [IsIdle, hstrip]
  rcases hc with rfl | rfl <;> simp

lemma IsUnmarked.withoutDash_strip (h : IsUnmarked l) : withoutDash (strip l) = strip l := by
  obtain ⟨c, rest, hstrip, hc⟩ := h.exists_cons
  rw [hstrip]
  rcases hc with rfl | rfl <;> rfl

lemma IsDeclaration.isUnmarked (h : IsDeclaration (strip l) d) : IsUnmarked l := by
  generalize hcs : strip l = cs at h
  cases h with
  | table => exact .inl (hcs ▸ List.prefix_append _ _)
  | field => exact .inr (hcs ▸ List.prefix_append _ _)

/-- A line is read as nothing if it is idle, and else as what it declares behind a dash. -/
lemma readLine_eq_ok_iff : readLine l = .ok declared ↔
    (IsIdle l ∧ declared = none) ∨
      (¬ IsIdle l ∧ ∃ d, declaration? (withoutDash (strip l)) = some d ∧ declared = some d) := by
  unfold readLine IsIdle
  split
  · rename_i hblank
    simp [hblank, eq_comm]
  · rename_i rest hcomment
    simp [hcomment, eq_comm]
  · rename_i hblank hcomment
    have hidle : ¬ (strip l = [] ∨ (strip l).head? = some '#') := by
      rintro (h | h)
      · exact hblank h
      · obtain ⟨rest, h⟩ := List.head?_eq_some_iff.mp h
        exact hcomment rest h
    simp only [hidle, false_and, not_false_eq_true, true_and, false_or, declaration?]
    cases table? (withoutDash (strip l)) with
    | some d => simp [eq_comm]
    | none => cases field? (withoutDash (strip l)) <;> simp [eq_comm]

lemma declares_iff : Declares l d ↔
    ¬ IsIdle l ∧ declaration? (withoutDash (strip l)) = some d := by
  rw [declaration?_eq_some_iff]
  constructor
  · rintro (h | ⟨hdash, h⟩)
    · rw [h.isUnmarked.withoutDash_strip]
      exact ⟨h.isUnmarked.not_isIdle, h⟩
    · rw [IsIdle, hdash]
      exact ⟨by simp, h⟩
  · rintro ⟨-, h⟩
    unfold withoutDash at h
    split at h
    · rename_i hdash
      exact .marked hdash h
    · exact .plain h

lemma readLine_eq_some_iff : readLine l = .ok (some d) ↔ Declares l d := by
  simp [readLine_eq_ok_iff, declares_iff]

lemma readLine_eq_none_iff : readLine l = .ok none ↔ IsIdle l := by
  simp [readLine_eq_ok_iff]

/-- A line that is refused is told as it stands. -/
lemma eq_line_of_readLine {e : ManifestError} (h : readLine l = .error e) :
    e = .line (String.ofList l) := by
  unfold readLine at h
  split at h
  · cases h
  · cases h
  · simp only at h
    split at h
    · cases h
    · split at h
      · cases h
      · exact (Except.error.inj h).symm

end

end GraphTalk.Manifest
