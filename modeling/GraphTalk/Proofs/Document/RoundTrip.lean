import GraphTalk.Proofs.Document.Proper
import GraphTalk.Proofs.Number.Characters

/-!
# Documents are read back

The text of a proper document is read back as the document (`parse?_write`), and it is one line of
text (`newline_not_mem_write`).
-/

namespace GraphTalk.Document

/-! ### Texts -/

lemma hexDigit?_digitChar : ∀ n < 16, Text.hexDigit? (Nat.digitChar n) = some n := by decide

/-- Four hexadecimal digits. -/
lemma hexPadded_four {n : Nat} (hn : n < 65536) :
    Text.hexPadded 4 n = [Nat.digitChar (n / 4096), Nat.digitChar (n / 256 % 16),
      Nat.digitChar (n / 16 % 16), Nat.digitChar (n % 16)] := by
  have hfew : ∀ {k}, k < 16 → Nat.toDigits 16 k = [Nat.digitChar k] := Nat.toDigits_of_lt_base
  have hmore : ∀ {k}, 16 ≤ k →
      Nat.toDigits 16 k = Nat.toDigits 16 (k / 16) ++ [Nat.digitChar (k % 16)] :=
    Nat.toDigits_of_base_le (by decide)
  have hdiv : n / 16 / 16 = n / 256 := by omega
  have hdiv' : n / 256 / 16 = n / 4096 := by omega
  rcases Nat.lt_or_ge n 16 with h₁ | h₁
  · have hdigits : n / 4096 = 0 ∧ n / 256 = 0 ∧ n / 16 = 0 ∧ n % 16 = n := by omega
    simp [Text.hexPadded, hfew h₁, hdigits, List.replicate]
  rcases Nat.lt_or_ge n 256 with h₂ | h₂
  · have hdigits : n / 4096 = 0 ∧ n / 256 = 0 ∧ n / 16 % 16 = n / 16 := by omega
    simp [Text.hexPadded, hmore h₁, hfew (k := n / 16) (by omega), hdigits, List.replicate]
  rcases Nat.lt_or_ge n 4096 with h₃ | h₃
  · have hdigits : n / 4096 = 0 ∧ n / 256 % 16 = n / 256 := by omega
    simp [Text.hexPadded, hmore h₁, hmore (k := n / 16) (by omega), hdiv,
      hfew (k := n / 256) (by omega), hdigits]
  · simp [Text.hexPadded, hmore h₁, hmore (k := n / 16) (by omega), hdiv,
      hmore (k := n / 256) (by omega), hdiv', hfew (k := n / 4096) (by omega)]

lemma readUnit?_hexPadded {n : Nat} (hn : n < 65536) (rest : List Char) :
    readUnit? (Text.hexPadded 4 n ++ rest) = some (n, rest) := by
  rw [hexPadded_four hn]
  simp only [List.cons_append, List.nil_append, readUnit?]
  rw [hexDigit?_digitChar _ (by omega), hexDigit?_digitChar _ (by omega),
    hexDigit?_digitChar _ (by omega), hexDigit?_digitChar _ (by omega)]
  simp only [Option.some.injEq, Prod.mk.injEq, and_true]
  omega

/-- Characters lie below or above the numbers that are kept for units. -/
lemma toNat_valid (c : Char) : c.toNat < 0xD800 ∨ 0xDFFF < c.toNat ∧ c.toNat < 0x110000 := c.valid

/-- A unit that stands for a character by itself. -/
lemma readEscape?_escapeUnit {c : Char} (hc : c.toNat < 0x10000) (rest : List Char) :
    readEscape? ('u' :: Text.hexPadded 4 c.toNat ++ rest) = some (c, rest) := by
  have hvalid := toNat_valid c
  simp only [List.cons_append, readEscape?, readEscapedUnit?, readUnit?_hexPadded hc]
  rw [if_neg (by simp; omega), if_neg (by simp; omega), Char.ofNat_toNat]

/-- Two units are read together. -/
lemma readEscape?_pair {high low : Nat} (hhigh : 0xD800 ≤ high ∧ high ≤ 0xDBFF)
    (hlow : 0xDC00 ≤ low ∧ low ≤ 0xDFFF) (rest : List Char) :
    readEscape? ('u' :: Text.hexPadded 4 high ++ (escapeUnit low ++ rest)) =
      some (Char.ofNat (0x10000 + (high - 0xD800) * 0x400 + (low - 0xDC00)), rest) := by
  simp only [List.cons_append, readEscape?, readEscapedUnit?, escapeUnit]
  rw [readUnit?_hexPadded (by omega)]
  simp only [readLowUnit?]
  rw [readUnit?_hexPadded (by omega)]
  simp [hhigh, hlow]

/-- Two units that stand for a character together. -/
lemma readEscape?_escapeUnits {c : Char} (hc : 0x10000 ≤ c.toNat) (rest : List Char) :
    readEscape? ('u' :: Text.hexPadded 4 (0xD800 + (c.toNat - 0x10000) / 0x400) ++
      (escapeUnit (0xDC00 + (c.toNat - 0x10000) % 0x400) ++ rest)) = some (c, rest) := by
  have hvalid := toNat_valid c
  have hsum : ∀ {high low}, high = 0xD800 + (c.toNat - 0x10000) / 0x400 →
      low = 0xDC00 + (c.toNat - 0x10000) % 0x400 →
      0x10000 + (high - 0xD800) * 0x400 + (low - 0xDC00) = c.toNat := by
    intro high low hhigh hlow
    omega
  rw [readEscape?_pair (by omega) (by omega), hsum rfl rfl, Char.ofNat_toNat]

lemma readString?_escape {c : Char} {escape rest : List Char} (fuel : Nat)
    (h : readEscape? escape = some (c, rest)) :
    readString? (fuel + 1) ('\\' :: escape) =
      (readString? fuel rest).map fun p => (c :: p.1, p.2) := by
  simp only [readString?, h]
  cases readString? fuel rest <;> rfl

/-- One character of a string is read back. -/
lemma readString?_escapeChar (c : Char) (fuel : Nat) (rest : List Char) :
    readString? (fuel + 1) (escapeChar c ++ rest) =
      (readString? fuel rest).map fun p => (c :: p.1, p.2) := by
  have hchar : ∀ n, c.toNat = n → c = Char.ofNat n := fun n hn => by rw [← hn, Char.ofNat_toNat]
  simp only [escapeChar, beq_iff_eq]
  split
  · exact readString?_escape fuel (by subst c; rfl)
  split
  · exact readString?_escape fuel (by subst c; rfl)
  split
  · exact readString?_escape fuel (by subst c; rfl)
  split
  · exact readString?_escape fuel (by subst c; rfl)
  split
  · exact readString?_escape fuel (by subst c; rfl)
  split
  · exact readString?_escape fuel (by rw [hchar _ ‹_›]; rfl)
  split
  · exact readString?_escape fuel (by rw [hchar _ ‹_›]; rfl)
  split
  · rename_i hquote hbackslash _ _ _ _ _ hprintable
    simp only [Bool.and_eq_true, decide_eq_true_eq] at hprintable
    rw [List.singleton_append, readString?, if_neg (by omega)]
    · cases readString? fuel rest <;> rfl
    · exact hquote
    · exact hbackslash
  split
  · exact readString?_escape fuel (readEscape?_escapeUnit ‹_› rest)
  · rename_i hlarge
    rw [List.append_assoc]
    exact readString?_escape fuel (readEscape?_escapeUnits (by omega) rest)

/-- A string is read back up to its closing quote. -/
lemma readString?_escaped (cs rest : List Char) {fuel : Nat} (h : cs.length < fuel) :
    readString? fuel (cs.flatMap escapeChar ++ '"' :: rest) = some (cs, rest) := by
  induction cs generalizing fuel with
  | nil =>
    obtain ⟨fuel, rfl⟩ := Nat.exists_eq_add_of_lt h
    rfl
  | cons c cs ih =>
    obtain ⟨fuel, rfl⟩ : ∃ k, fuel = k + 1 := ⟨fuel - 1, by omega⟩
    rw [List.flatMap_cons, List.append_assoc, readString?_escapeChar,
      ih (by simpa using h)]
    rfl

lemma length_escapeChar_pos (c : Char) : 0 < (escapeChar c).length := by
  -- if nothing were written of a character, it would not be read back
  refine List.length_pos_of_ne_nil fun hnil => ?_
  have hread := readString?_escapeChar c 1 ['"']
  simp [hnil, readString?] at hread

/-- Escapes do not make a text shorter. -/
lemma length_le_length_escaped (cs : List Char) : cs.length ≤ (cs.flatMap escapeChar).length := by
  induction cs with
  | nil => exact Nat.le_refl _
  | cons c cs ih =>
    have hc := length_escapeChar_pos c
    rw [List.flatMap_cons, List.length_append, List.length_cons]
    omega

/-- The text of a string, read behind its opening quote. -/
lemma readString?_text (s : String) (rest : List Char) :
    readString? ((s.toList.flatMap escapeChar ++ '"' :: rest).length + 1)
      (s.toList.flatMap escapeChar ++ '"' :: rest) = some (s.toList, rest) := by
  refine readString?_escaped _ _ ?_
  have hlength := length_le_length_escaped s.toList
  simp only [List.length_append, List.length_cons]
  omega

/-! ### Values -/

/-- The text of a value starts here: no blank, and nothing that closes a list. -/
def StartsValue (cs : List Char) : Prop :=
  ∃ c rest, cs = c :: rest ∧ isJsonBlank c = false ∧ c ≠ ']' ∧ c ≠ '\x7d'

lemma skipBlanks_cons {c : Char} (hc : isJsonBlank c = false) (rest : List Char) :
    skipBlanks (c :: rest) = c :: rest := by
  simp [skipBlanks, hc]

lemma StartsValue.skipBlanks {cs : List Char} (h : StartsValue cs) : skipBlanks cs = cs := by
  obtain ⟨c, rest, rfl, hc, -, -⟩ := h
  exact skipBlanks_cons hc rest

/-- The first character of a number. -/
def StartsNumber (c : Char) : Prop := Text.isDigit c = true ∨ c = '-' ∨ c = 'N' ∨ c = 'I'

instance (c : Char) : Decidable (StartsNumber c) := inferInstanceAs (Decidable (_ ∨ _))

lemma exists_writeNumber_eq {n : Number} (hn : n.IsProper) (rest : List Char) :
    ∃ c cs, writeNumber n ++ rest = c :: cs ∧ StartsNumber c := by
  have hsigned : ∀ {x : Numeral} (sign : Prop) [Decidable sign], x.WellFormed →
      ∃ c cs, (if sign then ['-'] else []) ++ x.chars ++ rest = c :: cs ∧ StartsNumber c := by
    intro x sign _ hx
    obtain ⟨c, cs, hchars, hc⟩ := Numeral.exists_chars_eq hx rest
    split
    · exact ⟨'-', x.chars ++ rest, rfl, .inr (.inl rfl)⟩
    · exact ⟨c, cs, hchars, .inl hc⟩
  cases n with
  | int n =>
    rw [writeNumber_int]
    exact hsigned _ (Numeral.wellFormed_ofNat _)
  | float x =>
    cases x with
    | nan => exact ⟨_, _, rfl, .inr (.inr (.inl rfl))⟩
    | infinity negative =>
      cases negative with
      | true => exact ⟨_, _, rfl, .inr (.inl rfl)⟩
      | false => exact ⟨_, _, rfl, .inr (.inr (.inr rfl))⟩
    | finite negative m e =>
      rw [writeNumber_finite]
      exact hsigned _ (Numeral.wellFormed_ofMagnitude hn)

/-- Where a number starts, no other value does. -/
lemma readValue?_startsNumber {c : Char} (hc : StartsNumber c) (depth : Nat) (cs : List Char) :
    readValue? (depth + 1) (c :: cs) =
      (readNumber? (c :: cs)).map fun (n, rest) => (.number n, rest) := by
  simp only [readValue?]
  split
  case h_7 => rfl
  all_goals
    rename_i heq
    cases heq
    exact absurd hc (by decide)

lemma startsValue_of_startsNumber {c : Char} (hc : StartsNumber c) (cs : List Char) :
    StartsValue (c :: cs) := by
  have hne : ∀ x, ¬ StartsNumber x → c ≠ x := by
    rintro x hx rfl
    exact hx hc
  refine ⟨c, cs, rfl, ?_, hne _ (by decide), hne _ (by decide)⟩
  simp [isJsonBlank, hne ' ' (by decide), hne '\t' (by decide), hne '\n' (by decide),
    hne '\r' (by decide)]

/-- Every value has a text. -/
lemma startsValue_writeChars {d : Document} (hd : d.IsProper) (rest : List Char) :
    StartsValue (d.writeChars ++ rest) := by
  cases hd with
  | null => exact ⟨_, _, rfl, by decide⟩
  | bool b => cases b <;> exact ⟨_, _, rfl, by decide⟩
  | number hn =>
    obtain ⟨c, cs, heq, hc⟩ := exists_writeNumber_eq hn rest
    rw [writeChars, heq]
    exact startsValue_of_startsNumber hc cs
  | text s => exact ⟨_, _, rfl, by decide⟩
  | array _ => exact ⟨_, _, rfl, by decide⟩
  | object _ _ => exact ⟨_, _, rfl, by decide⟩

lemma endsNumeral_cons {c : Char} (hc : Text.isDigit c = false ∧ c ≠ '.' ∧ c ≠ 'e' ∧ c ≠ 'E')
    (rest : List Char) : EndsNumeral (c :: rest) := by
  rintro _ ⟨⟩
  exact hc

lemma startsValue_writeItems {x : Document} (hx : x.IsProper) (xs : List Document)
    (rest : List Char) : StartsValue (writeItems (x :: xs) ++ rest) := by
  cases xs with
  | nil => exact startsValue_writeChars hx rest
  | cons y xs =>
    rw [writeItems, List.append_assoc]
    exact startsValue_writeChars hx _

lemma startsValue_writeMembers (m : String × Document) (ms : List (String × Document))
    (rest : List Char) : StartsValue (writeMembers (m :: ms) ++ rest) := by
  cases ms with
  | nil => exact ⟨_, _, rfl, by decide⟩
  | cons m' ms => exact ⟨_, _, rfl, by decide⟩

section

variable {name : String} {depth : Nat} {cs rest : List Char} {x : Document}

lemma skipBlanks_colon : skipBlanks (':' :: ' ' :: cs) = ':' :: ' ' :: cs := rfl

lemma skipBlanks_space : skipBlanks (' ' :: cs) = skipBlanks cs := rfl

lemma readMembers?_last (h : readValue? depth (skipBlanks cs) = some (x, '\x7d' :: rest)) :
    readMembers? (depth + 1) (writeText name ++ ':' :: ' ' :: cs) = some ([(name, x)], rest) := by
  simp only [writeText, List.cons_append, List.append_assoc, List.nil_append, readMembers?,
    readString?_text, skipBlanks_colon, skipBlanks_space, String.ofList_toList, h]
  rfl

lemma readMembers?_more (h : readValue? depth (skipBlanks cs) = some (x, ',' :: rest)) :
    readMembers? (depth + 1) (writeText name ++ ':' :: ' ' :: cs) =
      (readMembers? depth (skipBlanks rest)).map fun (ms, rest) => ((name, x) :: ms, rest) := by
  simp only [writeText, List.cons_append, List.append_assoc, List.nil_append, readMembers?,
    readString?_text, skipBlanks_colon, skipBlanks_space, String.ofList_toList, h]
  rfl

end

mutual

/-- A value is read back from its text. -/
lemma readValue?_writeChars {d : Document} (hd : d.IsProper) {depth : Nat} {rest : List Char}
    (hdepth : d.writeChars.length ≤ depth) (hrest : EndsNumeral rest) :
    readValue? depth (d.writeChars ++ rest) = some (d, rest) := by
  match d, depth with
  | .null, depth + 1 => rfl
  | .bool true, depth + 1 => rfl
  | .bool false, depth + 1 => rfl
  | .number n, depth + 1 =>
    cases hd with
    | number hn =>
      obtain ⟨c, cs, heq, hc⟩ := exists_writeNumber_eq hn rest
      rw [writeChars, heq, readValue?_startsNumber hc, ← heq, readNumber?_writeNumber hn hrest]
      rfl
  | .text s, depth + 1 =>
    simp only [writeChars, writeText, List.cons_append, List.append_assoc, List.nil_append,
      readValue?, readString?_text, Option.map_some, String.ofList_toList]
  | .array [], depth + 1 => rfl
  | .array (x :: xs), depth + 1 =>
    cases hd with
    | array hitems =>
      obtain ⟨hx, -⟩ := List.forall_mem_cons.mp hitems
      have hstarts := startsValue_writeItems hx xs (']' :: rest)
      have hread :
          readItems? depth (writeItems (x :: xs) ++ ']' :: rest) = some (x :: xs, rest) := by
        refine readItems?_writeItems hitems ?_
        simp only [writeChars, List.length_cons, List.length_append] at hdepth
        omega
      simp only [writeChars, List.cons_append, List.append_assoc, List.nil_append, readValue?]
      rw [hstarts.skipBlanks]
      obtain ⟨c, cs, heq, -, hc, -⟩ := hstarts
      rw [heq] at hread ⊢
      split
      · rename_i hclose
        exact absurd (List.cons.inj hclose).1 hc
      · rw [hread]
        rfl
  | .object [], depth + 1 => rfl
  | .object (m :: ms), depth + 1 =>
    cases hd with
    | object hnames hmembers =>
      have hstarts := startsValue_writeMembers m ms ('\x7d' :: rest)
      have hread : readMembers? depth (writeMembers (m :: ms) ++ '\x7d' :: rest) =
          some (m :: ms, rest) := by
        refine readMembers?_writeMembers hmembers ?_
        simp only [writeChars, List.length_cons, List.length_append] at hdepth
        omega
      simp only [writeChars, List.cons_append, List.append_assoc, List.nil_append, readValue?]
      rw [hstarts.skipBlanks]
      obtain ⟨c, cs, heq, -, -, hc⟩ := hstarts
      rw [heq] at hread ⊢
      split
      · rename_i hclose
        exact absurd (List.cons.inj hclose).1 hc
      · rw [hread, Option.map_some, ofMembers_of_nodup hnames]
  | d, 0 =>
    obtain ⟨c, cs, heq, -⟩ := startsValue_writeChars hd []
    rw [List.append_nil] at heq
    simp [heq] at hdepth

/-- Items are read back from their text. -/
lemma readItems?_writeItems {x : Document} {xs : List Document}
    (h : ∀ y ∈ x :: xs, IsProper y) {depth : Nat} {rest : List Char}
    (hdepth : (writeItems (x :: xs)).length + 1 ≤ depth) :
    readItems? depth (writeItems (x :: xs) ++ ']' :: rest) = some (x :: xs, rest) := by
  obtain ⟨hx, hxs⟩ := List.forall_mem_cons.mp h
  match depth, xs with
  | depth + 1, [] =>
    rw [writeItems] at hdepth ⊢
    rw [readItems?, readValue?_writeChars hx (by omega) (endsNumeral_cons (by decide) rest)]
    rfl
  | depth + 1, y :: xs =>
    have hskip : skipBlanks (' ' :: (writeItems (y :: xs) ++ ']' :: rest)) =
        writeItems (y :: xs) ++ ']' :: rest :=
      (startsValue_writeItems (hxs y List.mem_cons_self) _ _).skipBlanks
    simp only [writeItems, List.length_append, List.length_cons] at hdepth
    rw [writeItems, List.append_assoc, List.cons_append, List.cons_append, readItems?,
      readValue?_writeChars hx (by omega) (endsNumeral_cons (by decide) _)]
    simp only [skipBlanks_cons (c := ',') (by decide), hskip]
    rw [readItems?_writeItems hxs (by omega)]
    rfl

/-- Members are read back from their text. -/
lemma readMembers?_writeMembers {m : String × Document} {ms : List (String × Document)}
    (h : ∀ n ∈ m :: ms, IsProper n.2) {depth : Nat} {rest : List Char}
    (hdepth : (writeMembers (m :: ms)).length + 1 ≤ depth) :
    readMembers? depth (writeMembers (m :: ms) ++ '\x7d' :: rest) = some (m :: ms, rest) := by
  obtain ⟨hm, hms⟩ := List.forall_mem_cons.mp h
  match depth, m, ms with
  | depth + 1, (name, x), [] =>
    have hx : x.IsProper := hm
    simp only [writeMembers, List.length_append, List.length_cons] at hdepth
    rw [writeMembers, List.append_assoc, List.cons_append, List.cons_append]
    refine readMembers?_last ?_
    rw [(startsValue_writeChars hx _).skipBlanks]
    exact readValue?_writeChars hx (by omega) (endsNumeral_cons (by decide) rest)
  | depth + 1, (name, x), n :: ms =>
    have hskip : skipBlanks (' ' :: (writeMembers (n :: ms) ++ '\x7d' :: rest)) =
        writeMembers (n :: ms) ++ '\x7d' :: rest :=
      (startsValue_writeMembers n ms _).skipBlanks
    have hx : x.IsProper := hm
    simp only [writeMembers, List.length_append, List.length_cons] at hdepth
    have hvalue : readValue? depth (skipBlanks (x.writeChars ++ ',' :: ' ' ::
        (writeMembers (n :: ms) ++ '\x7d' :: rest))) =
        some (x, ',' :: ' ' :: (writeMembers (n :: ms) ++ '\x7d' :: rest)) := by
      rw [(startsValue_writeChars hx _).skipBlanks]
      exact readValue?_writeChars hx (by omega) (endsNumeral_cons (by decide) _)
    rw [writeMembers, List.append_assoc, List.append_assoc, List.cons_append, List.cons_append,
      List.cons_append, List.cons_append, readMembers?_more hvalue, hskip,
      readMembers?_writeMembers hms (by omega)]
    rfl

end

/-- The text of a document is read back as the document. -/
theorem parse?_write {d : Document} (hd : d.IsProper) : parse? d.write = some d := by
  have hstarts := startsValue_writeChars hd []
  have hread : readValue? (d.writeChars.length + 1) (d.writeChars ++ []) = some (d, []) :=
    readValue?_writeChars hd (by omega) (by rintro _ ⟨⟩)
  rw [List.append_nil] at hstarts hread
  simp only [parse?, write, String.toList_ofList, hstarts.skipBlanks, hread]
  rfl

/-! ### Lines -/

lemma newline_not_mem_hexPadded {n : Nat} (hn : n < 65536) : '\n' ∉ Text.hexPadded 4 n := by
  have hdigit : ∀ k < 16, '\n' ≠ Nat.digitChar k := by decide
  simp only [hexPadded_four hn, List.mem_cons, List.not_mem_nil, or_false, not_or]
  exact ⟨hdigit _ (by omega), hdigit _ (by omega), hdigit _ (by omega), hdigit _ (by omega)⟩

lemma newline_not_mem_escapeUnit {n : Nat} (hn : n < 65536) : '\n' ∉ escapeUnit n := by
  simp [escapeUnit, newline_not_mem_hexPadded hn]

lemma newline_not_mem_escapeChar (c : Char) : '\n' ∉ escapeChar c := by
  have hvalid := toNat_valid c
  unfold escapeChar
  split
  · decide
  split
  · decide
  split
  · decide
  split
  · decide
  split
  · decide
  split
  · decide
  split
  · decide
  split
  · rename_i hprintable
    rw [List.mem_singleton]
    rintro rfl
    exact absurd hprintable (by decide)
  split
  · exact newline_not_mem_escapeUnit ‹_›
  · rw [List.mem_append, not_or]
    exact ⟨newline_not_mem_escapeUnit (by omega), newline_not_mem_escapeUnit (by omega)⟩

lemma newline_not_mem_writeText (s : String) : '\n' ∉ writeText s := by
  simp [writeText, newline_not_mem_escapeChar]

lemma newline_not_mem_writeNumber (n : Number) : '\n' ∉ writeNumber n := by
  have hnumeric : ∀ {s : String}, Numeric s → '\n' ∉ s.toList :=
    fun hs hmem => absurd (hs _ hmem) (by decide)
  unfold writeNumber
  split
  · decide
  · split <;> decide
  · cases n with
    | int n => exact hnumeric (numeric_int n)
    | float x => exact hnumeric (Double.numeric_render x)

mutual

lemma newline_not_mem_writeChars (d : Document) : '\n' ∉ d.writeChars := by
  match d with
  | .null => simp [writeChars]
  | .bool true => simp [writeChars]
  | .bool false => simp [writeChars]
  | .number n => exact newline_not_mem_writeNumber n
  | .text s => exact newline_not_mem_writeText s
  | .array items => simp [writeChars, newline_not_mem_writeItems items]
  | .object members => simp [writeChars, newline_not_mem_writeMembers members]

lemma newline_not_mem_writeItems (items : List Document) : '\n' ∉ writeItems items := by
  match items with
  | [] => simp [writeItems]
  | [x] => exact newline_not_mem_writeChars x
  | x :: y :: rest =>
    simp [writeItems, newline_not_mem_writeChars x, newline_not_mem_writeItems (y :: rest)]

lemma newline_not_mem_writeMembers (members : List (String × Document)) :
    '\n' ∉ writeMembers members := by
  match members with
  | [] => simp [writeMembers]
  | [(name, x)] =>
    simp [writeMembers, newline_not_mem_writeText name, newline_not_mem_writeChars x]
  | (name, x) :: m :: rest =>
    simp [writeMembers, newline_not_mem_writeText name, newline_not_mem_writeChars x,
      newline_not_mem_writeMembers (m :: rest)]

end

end GraphTalk.Document
