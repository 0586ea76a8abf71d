import GraphTalk.Document.Parser
import GraphTalk.Document.Printer
import GraphTalk.Proofs.Number.Readback

/-!
# Numbers in documents

A number without its sign is written as a numeral: digits, a fraction or none, and an exponent or
none. A numeral is read as far as it goes (`readUnsigned?_chars`). Every number is written as a
numeral for its value, so that it is read back (`readNumber?_writeNumber`).
-/

namespace GraphTalk

/-! ### Digits -/

namespace Text

/-- Digits and nothing else, but not nothing. -/
structure AreDigits (cs : List Char) : Prop where
  ne_nil : cs ≠ []
  isDigit : ∀ c ∈ cs, isDigit c = true

lemma digitsValue_append (cs ds : List Char) :
    digitsValue (cs ++ ds) = digitsValue cs * 10 ^ ds.length + digitsValue ds := by
  induction ds using List.reverseRecOn with
  | nil => simp [digitsValue]
  | append_singleton ds d ih =>
    have hlast : ∀ cs, digitsValue (cs ++ [d]) = 10 * digitsValue cs + (d.toNat - '0'.toNat) := by
      simp [digitsValue]
    rw [← List.append_assoc, hlast, hlast, ih, List.length_append, List.length_singleton]
    ring

lemma digitsValue_replicate (n : Nat) : digitsValue (List.replicate n '0') = 0 := by
  rw [digitsValue, ← Nat.ofDigitChars, Nat.ofDigitChars_replicate_zero, Nat.mul_zero]

lemma digitsValue_toDigits (n : Nat) : digitsValue (Nat.toDigits 10 n) = n :=
  Nat.ofDigitChars_ten_toDigits

lemma areDigits_toDigits (n : Nat) : AreDigits (Nat.toDigits 10 n) :=
  ⟨Nat.toDigits_ne_nil, fun _ hc => Nat.isDigit_of_mem_toDigits (by decide) (by decide) hc⟩

lemma areDigits_zero : AreDigits ['0'] := ⟨by simp, List.forall_mem_singleton.mpr rfl⟩

lemma areDigits_append {cs ds : List Char} (hcs : AreDigits cs)
    (hds : ∀ c ∈ ds, isDigit c = true) : AreDigits (cs ++ ds) :=
  ⟨by simp [hcs.ne_nil], List.forall_mem_append.mpr ⟨hcs.isDigit, hds⟩⟩

lemma isDigit_of_mem_replicate {n : Nat} : ∀ c ∈ List.replicate n '0', isDigit c = true := by
  intro c hc
  rw [List.eq_of_mem_replicate hc]
  decide

/-- The first digit of a positive number is not zero. -/
lemma head?_toDigits_ne {n : Nat} (hn : 0 < n) : (Nat.toDigits 10 n).head? ≠ some '0' := by
  induction n using Nat.strong_induction_on with
  | _ n ih =>
    rw [Nat.toDigits_eq_if (by decide)]
    split
    · rename_i hlt
      have hdigit : ∀ k < 10, 0 < k → Nat.digitChar k ≠ '0' := by decide
      simpa using hdigit n hlt hn
    · rw [List.head?_append_of_ne_nil _ Nat.toDigits_ne_nil]
      exact ih (n / 10) (by omega) (by omega)

end Text

/-- A number that is kept in the form that reading gives it. -/
def Number.IsProper : Number → Prop
  | .int _ => True
  | .float x => x.IsProper

namespace Document

open Text (AreDigits digitsValue)

/-! ### Numerals -/

/-- A number without its sign as it is written. -/
structure Numeral where
  whole : List Char
  fraction : Option (List Char) := none
  /-- The exponent: whether it is negative, and its digits. -/
  exponent : Option (Bool × List Char) := none

namespace Numeral

/-- The digits behind the point. -/
def decimals (x : Numeral) : List Char := x.fraction.getD []

/-- The exponent as an integer. -/
def power (x : Numeral) : Int :=
  match x.exponent with
  | none => 0
  | some (negative, ds) => if negative then -(digitsValue ds : Int) else digitsValue ds

/-- What follows the digits before the point. -/
def fractionChars : Option (List Char) → List Char
  | none => []
  | some ds => '.' :: ds

/-- What follows the digits behind the point. -/
def exponentChars : Option (Bool × List Char) → List Char
  | none => []
  | some (negative, ds) => 'e' :: (if negative then '-' else '+') :: ds

/-- The characters of a numeral. -/
def chars (x : Numeral) : List Char :=
  x.whole ++ (fractionChars x.fraction ++ exponentChars x.exponent)

/-- The number that a numeral with a sign stands for. -/
def number (negative : Bool) (x : Numeral) : Number :=
  if x.fraction.isNone && x.exponent.isNone then
    .int (if negative then -(digitsValue x.whole : Int) else digitsValue x.whole)
  else .float (.ofDecimal negative (digitsValue (x.whole ++ x.decimals))
    (x.power - x.decimals.length))

/-- Every part that is there has digits, and the digits before the point start with a zero only if
it is the only one. -/
structure WellFormed (x : Numeral) : Prop where
  whole : AreDigits x.whole
  leading : x.whole = ['0'] ∨ x.whole.head? ≠ some '0'
  fraction : ∀ ds ∈ x.fraction, AreDigits ds
  exponent : ∀ p ∈ x.exponent, AreDigits p.2

end Numeral

/-! ### Reading numerals -/

/-- A numeral ends here: what follows could not be a part of it. -/
def EndsNumeral (rest : List Char) : Prop :=
  ∀ c ∈ rest.head?, Text.isDigit c = false ∧ c ≠ '.' ∧ c ≠ 'e' ∧ c ≠ 'E'

/-- A run of digits ends here. -/
def EndsDigits (rest : List Char) : Prop := ∀ c ∈ rest.head?, Text.isDigit c = false

lemma EndsNumeral.endsDigits {rest : List Char} (h : EndsNumeral rest) : EndsDigits rest :=
  fun c hc => (h c hc).1

lemma takeDigits_append {ds rest : List Char} (hds : ∀ c ∈ ds, Text.isDigit c = true)
    (hrest : EndsDigits rest) : takeDigits (ds ++ rest) = (ds, rest) := by
  have htake : rest.takeWhile Text.isDigit = [] ∧ rest.dropWhile Text.isDigit = rest := by
    cases rest with
    | nil => exact ⟨rfl, rfl⟩
    | cons c rest => simp [hrest c rfl]
  rw [takeDigits, List.takeWhile_append_of_pos hds, List.dropWhile_append_of_pos hds, htake.1,
    htake.2, List.append_nil]

lemma readWhole?_append {whole rest : List Char} (hwhole : AreDigits whole)
    (hleading : whole = ['0'] ∨ whole.head? ≠ some '0') (hrest : EndsDigits rest) :
    readWhole? (whole ++ rest) = some (whole, rest) := by
  have htake := takeDigits_append hwhole.isDigit hrest
  rcases hleading with rfl | hleading
  · rfl
  · obtain ⟨d, ds, rfl⟩ := List.exists_cons_of_ne_nil hwhole.ne_nil
    have hd : d ≠ '0' := by simpa using hleading
    rw [readWhole?.eq_def]
    split
    · rename_i heq
      exact absurd (List.cons.inj heq).1 hd
    · rw [htake]

lemma readFraction_append {fraction : Option (List Char)} {rest : List Char}
    (hfraction : ∀ ds ∈ fraction, AreDigits ds) (hrest : EndsDigits rest)
    (hpoint : rest.head? ≠ some '.') :
    readFraction (Numeral.fractionChars fraction ++ rest) = (fraction, rest) := by
  cases fraction with
  | none =>
    cases rest with
    | nil => rfl
    | cons c rest =>
      have hc : c ≠ '.' := by simpa using hpoint
      simp only [Numeral.fractionChars, List.nil_append, readFraction.eq_def]
      split
      · rename_i heq
        exact absurd (List.cons.inj heq).1 hc
      · rfl
  | some ds =>
    have hds := hfraction ds rfl
    obtain ⟨d, ds, rfl⟩ := List.exists_cons_of_ne_nil hds.ne_nil
    simp only [Numeral.fractionChars, List.cons_append, readFraction]
    rw [← List.cons_append, takeDigits_append hds.isDigit hrest]

lemma readExponentPart_append {exponent : Option (Bool × List Char)} {rest : List Char}
    (hexponent : ∀ p ∈ exponent, AreDigits p.2) (hrest : EndsNumeral rest) :
    readExponentPart (Numeral.exponentChars exponent ++ rest) =
      (exponent.map fun p => if p.1 then -(digitsValue p.2 : Int) else digitsValue p.2, rest) := by
  cases exponent with
  | none =>
    cases rest with
    | nil => rfl
    | cons c rest =>
      obtain ⟨-, -, he, hE⟩ := hrest c rfl
      simp [Numeral.exponentChars, readExponentPart, he, hE]
  | some p =>
    obtain ⟨negative, ds⟩ := p
    have hds : AreDigits ds := hexponent (negative, ds) rfl
    have htake := takeDigits_append hds.isDigit hrest.endsDigits
    obtain ⟨d, ds, rfl⟩ := List.exists_cons_of_ne_nil hds.ne_nil
    rw [List.cons_append] at htake
    cases negative with
    | true => simp [Numeral.exponentChars, readExponentPart, Number.sign, htake]
    | false => simp [Numeral.exponentChars, readExponentPart, Number.sign, htake]

lemma endsDigits_exponentChars (exponent : Option (Bool × List Char)) {rest : List Char}
    (hrest : EndsNumeral rest) : EndsDigits (Numeral.exponentChars exponent ++ rest) ∧
      (Numeral.exponentChars exponent ++ rest).head? ≠ some '.' := by
  cases exponent with
  | none => exact ⟨hrest.endsDigits, fun h => (hrest '.' h).2.1 rfl⟩
  | some p =>
    refine ⟨fun c hc => ?_, by simp [Numeral.exponentChars]⟩
    obtain rfl : 'e' = c := by simpa [Numeral.exponentChars] using hc
    decide

lemma endsDigits_fractionChars (fraction : Option (List Char)) {rest : List Char}
    (hrest : EndsDigits rest) : EndsDigits (Numeral.fractionChars fraction ++ rest) := by
  cases fraction with
  | none => exact hrest
  | some ds =>
    intro c hc
    obtain rfl : '.' = c := by simpa [Numeral.fractionChars] using hc
    decide

/-- A numeral is read as far as it goes. -/
theorem readUnsigned?_chars {x : Numeral} (hx : x.WellFormed) (negative : Bool) {rest : List Char}
    (hrest : EndsNumeral rest) :
    readUnsigned? negative (x.chars ++ rest) = some (x.number negative, rest) := by
  obtain ⟨hdigits, hpoint⟩ := endsDigits_exponentChars x.exponent hrest
  simp only [Numeral.chars, List.append_assoc, readUnsigned?]
  rw [readWhole?_append hx.whole hx.leading (endsDigits_fractionChars _ hdigits)]
  simp only [readFraction_append hx.fraction hdigits hpoint,
    readExponentPart_append hx.exponent hrest, Numeral.number, Option.isNone_map]
  split
  · rfl
  · rcases x with ⟨whole, fraction, exponent⟩
    cases exponent <;> rfl

/-! ### Writing numbers -/

lemma toList_toString_nat (n : Nat) : (toString n).toList = Nat.toDigits 10 n := by
  rw [Nat.toString_eq_ofList_toDigits, String.toList_ofList]

/-- The value of a numeral. -/
def Numeral.value (x : Numeral) : ℚ :=
  digitsValue (x.whole ++ x.decimals) * 10 ^ (x.power - x.decimals.length)

/-- A numeral of a whole number. -/
def Numeral.ofNat (n : Nat) : Numeral := { whole := Nat.toDigits 10 n }

lemma Numeral.wellFormed_ofNat (n : Nat) : (Numeral.ofNat n).WellFormed where
  whole := Text.areDigits_toDigits n
  leading := by
    rcases Nat.eq_zero_or_pos n with rfl | hn
    · exact .inl rfl
    · exact .inr (Text.head?_toDigits_ne hn)
  fraction := by simp [Numeral.ofNat]
  exponent := by simp [Numeral.ofNat]

section

variable {d : Nat} {point : Int}

/-- The digits of a positive number, written out with a point. -/
def Numeral.positional (d : Nat) (point : Int) : Numeral :=
  let ds := Nat.toDigits 10 d
  if point ≤ 0 then
    { whole := ['0'], fraction := some (List.replicate (-point).toNat '0' ++ ds) }
  else if ds.length ≤ point.toNat then
    { whole := ds ++ List.replicate (point.toNat - ds.length) '0', fraction := some ['0'] }
  else { whole := ds.take point.toNat, fraction := some (ds.drop point.toNat) }

lemma toList_positional (d : Nat) (point : Int) :
    (Double.positional (toString d) point).toList = (Numeral.positional d point).chars := by
  simp only [Double.positional, Numeral.positional, String.length_toList.symm, toList_toString_nat]
  split
  · simp [Numeral.chars, Numeral.fractionChars, Numeral.exponentChars, Double.fill]
  · split
    · simp [Numeral.chars, Numeral.fractionChars, Numeral.exponentChars, Double.fill]
    · simp [Numeral.chars, Numeral.fractionChars, Numeral.exponentChars]

lemma Numeral.wellFormed_positional (hd : 0 < d) (point : Int) :
    (Numeral.positional d point).WellFormed := by
  have hds := Text.areDigits_toDigits d
  have hhead := Text.head?_toDigits_ne hd
  simp only [Numeral.positional]
  split
  · refine ⟨Text.areDigits_zero, .inl rfl, ?_, by simp⟩
    rintro _ ⟨⟩
    exact ⟨by simp [hds.ne_nil],
      List.forall_mem_append.mpr ⟨Text.isDigit_of_mem_replicate, hds.isDigit⟩⟩
  · split
    · refine ⟨Text.areDigits_append hds Text.isDigit_of_mem_replicate, .inr ?_, ?_, by simp⟩
      · rwa [List.head?_append_of_ne_nil _ hds.ne_nil]
      · rintro _ ⟨⟩
        exact Text.areDigits_zero
    · rename_i hpoint hlength
      refine ⟨⟨?_, fun c hc => hds.isDigit c (List.mem_of_mem_take hc)⟩, .inr ?_, ?_, by simp⟩
      · simp only [ne_eq, List.take_eq_nil_iff, hds.ne_nil, or_false]
        omega
      · rwa [List.head?_take, if_neg (by omega)]
      · rintro _ ⟨⟩
        refine ⟨?_, fun c hc => hds.isDigit c (List.mem_of_mem_drop hc)⟩
        simp only [ne_eq, List.drop_eq_nil_iff]
        exact hlength

lemma Numeral.value_positional (d : Nat) (point : Int) :
    (Numeral.positional d point).value = d * 10 ^ (point - Double.decimalLength d) := by
  have hvalue := Text.digitsValue_toDigits d
  simp only [Numeral.positional, Double.decimalLength]
  generalize Nat.toDigits 10 d = ds at hvalue ⊢
  split
  · simp only [value, decimals, power, Option.getD_some, Text.digitsValue_append,
      Text.digitsValue_replicate, hvalue, List.length_append, List.length_replicate]
    congr 2
    · simp [digitsValue]
    · omega
  · split
    · have hzero : digitsValue ['0'] = 0 := rfl
      obtain ⟨k, hk⟩ : ∃ k : Nat, point.toNat = ds.length + k := Nat.exists_eq_add_of_le ‹_›
      have hexponent : point - (ds.length : Int) = k := by omega
      simp only [value, decimals, power, Option.getD_some, Text.digitsValue_append,
        Text.digitsValue_replicate, hvalue, hzero, List.length_replicate, List.length_singleton,
        hexponent, hk, Nat.add_sub_cancel_left]
      rw [zpow_natCast]
      push_cast
      ring
    · simp only [value, decimals, power, Option.getD_some, List.take_append_drop, hvalue,
        List.length_drop]
      congr 2
      omega

/-- The digits of a positive number with a power of ten behind them. -/
def Numeral.scientific (d : Nat) (point : Int) : Numeral :=
  let ds := Nat.toDigits 10 d
  let size := Nat.toDigits 10 (point - 1).natAbs
  { whole := ds.take 1
    fraction := if ds.length ≤ 1 then none else some (ds.drop 1)
    exponent := some (point - 1 < 0, List.replicate (2 - size.length) '0' ++ size) }

lemma toList_scientific (d : Nat) (point : Int) :
    (Double.scientific Double.layout (toString d) point).toList =
      (Numeral.scientific d point).chars := by
  have hsign : (if point - 1 < 0 then "e-" else "e+").toList =
      ['e', if point - 1 < 0 then '-' else '+'] := by
    split <;> rfl
  have hsize : (toString (point - 1).natAbs).length =
      (Nat.toDigits 10 (point - 1).natAbs).length := by
    rw [← String.length_toList, toList_toString_nat]
  simp only [Double.scientific, Numeral.scientific, Numeral.chars, String.toList_append, hsign,
    Double.fill, String.toList_ofList, hsize, toList_toString_nat]
  rcases hds : Nat.toDigits 10 d with _ | ⟨c, _ | ⟨c', rest⟩⟩
  · exact absurd hds Nat.toDigits_ne_nil
  · simp [Double.layout, Numeral.fractionChars, Numeral.exponentChars]
  · simp [Double.layout, Numeral.fractionChars, Numeral.exponentChars]

lemma Numeral.wellFormed_scientific (hd : 0 < d) (point : Int) :
    (Numeral.scientific d point).WellFormed := by
  have hds := Text.areDigits_toDigits d
  have hhead := Text.head?_toDigits_ne hd
  refine ⟨⟨?_, fun c hc => hds.isDigit c (List.mem_of_mem_take hc)⟩, .inr ?_, ?_, ?_⟩
  · simp [Numeral.scientific]
  · simpa [Numeral.scientific, List.head?_take] using hhead
  · simp only [Numeral.scientific]
    split
    · simp
    · rename_i hlength
      rintro _ ⟨⟩
      refine ⟨?_, fun c hc => hds.isDigit c (List.mem_of_mem_drop hc)⟩
      rw [ne_eq, List.drop_eq_nil_iff]
      exact hlength
  · rintro _ ⟨⟩
    have hsize := Text.areDigits_toDigits (point - 1).natAbs
    exact ⟨by simp, List.forall_mem_append.mpr ⟨Text.isDigit_of_mem_replicate, hsize.isDigit⟩⟩

lemma Numeral.value_scientific (d : Nat) (point : Int) :
    (Numeral.scientific d point).value = d * 10 ^ (point - Double.decimalLength d) := by
  have hpos : 0 < (Nat.toDigits 10 d).length := Nat.length_toDigits_pos
  have hdecimals : (Numeral.scientific d point).decimals = (Nat.toDigits 10 d).drop 1 := by
    simp only [Numeral.scientific, decimals]
    split
    · rename_i hlength
      simp [List.drop_eq_nil_of_le hlength]
    · rfl
  have hpower : (Numeral.scientific d point).power = point - 1 := by
    simp only [Numeral.scientific, power, Text.digitsValue_append, Text.digitsValue_replicate,
      Text.digitsValue_toDigits, decide_eq_true_eq]
    split <;> omega
  have hwhole : (Numeral.scientific d point).whole = (Nat.toDigits 10 d).take 1 := rfl
  rw [value, hdecimals, hpower, hwhole, List.take_append_drop, Text.digitsValue_toDigits,
    List.length_drop, Double.decimalLength]
  congr 2
  omega

/-- The numeral that digits with a point are written as. -/
def Numeral.ofDigits (x : Double.Digits) : Numeral :=
  if Double.layout.positional.1 < x.point ∧ x.point ≤ Double.layout.positional.2 then
    .positional x.digits x.point
  else .scientific x.digits x.point

lemma toList_render_digits (x : Double.Digits) :
    (x.render Double.layout).toList = (Numeral.ofDigits x).chars := by
  by_cases h : Double.layout.positional.1 < x.point ∧ x.point ≤ Double.layout.positional.2
  · rw [Double.Digits.render, if_pos h, Numeral.ofDigits, if_pos h, toList_positional]
  · rw [Double.Digits.render, if_neg h, Numeral.ofDigits, if_neg h, toList_scientific]

lemma Numeral.wellFormed_ofDigits {x : Double.Digits} (h : x.digits ≠ 0) :
    (Numeral.ofDigits x).WellFormed := by
  have hpos := Nat.pos_of_ne_zero h
  unfold ofDigits
  split
  · exact wellFormed_positional hpos _
  · exact wellFormed_scientific hpos _

lemma Numeral.value_ofDigits (x : Double.Digits) : (Numeral.ofDigits x).value = x.value := by
  unfold ofDigits
  split
  · exact value_positional _ _
  · exact value_scientific _ _

/-- Digits with a point are never written as an integer. -/
lemma Numeral.number_ofDigits (negative : Bool) (x : Double.Digits) :
    (Numeral.ofDigits x).number negative =
      .float (.ofDecimal negative
        (digitsValue ((Numeral.ofDigits x).whole ++ (Numeral.ofDigits x).decimals))
        ((Numeral.ofDigits x).power - (Numeral.ofDigits x).decimals.length)) := by
  have hsome : ((Numeral.ofDigits x).fraction.isNone && (Numeral.ofDigits x).exponent.isNone) =
      false := by
    simp only [ofDigits, positional, scientific]
    grind
  simp [number, hsome]

/-- The digits of a positive double, read with a sign, are the double. -/
lemma Numeral.number_shortest {m : Nat} {e : Int} (hm : Double.IsCanonical m e) (hpos : m ≠ 0)
    (negative : Bool) :
    (Numeral.ofDigits (Double.shortest m e)).number negative = .float (.finite negative m e) := by
  have hrounds := (Double.shortest_roundsTo hm hpos).2
  rw [← Numeral.value_ofDigits] at hrounds
  rw [Numeral.number_ofDigits, Double.ofDecimal_eq hm hpos hrounds]

end

/-! ### Reading numbers back -/

lemma Numeral.exists_chars_eq {x : Numeral} (hx : x.WellFormed) (rest : List Char) :
    ∃ c cs, x.chars ++ rest = c :: cs ∧ Text.isDigit c = true := by
  obtain ⟨d, ds, hwhole⟩ := List.exists_cons_of_ne_nil hx.whole.ne_nil
  refine ⟨d, ds ++ (fractionChars x.fraction ++ exponentChars x.exponent) ++ rest, ?_,
    hx.whole.isDigit d (by simp [hwhole])⟩
  rw [chars, hwhole, List.cons_append, List.cons_append]

section

variable {x : Numeral} {rest : List Char}

lemma readNumber?_chars (hx : x.WellFormed) (hrest : EndsNumeral rest) :
    readNumber? (x.chars ++ rest) = some (x.number false, rest) := by
  have hread := readUnsigned?_chars hx false hrest
  obtain ⟨c, cs, hchars, hc⟩ := Numeral.exists_chars_eq hx rest
  rw [hchars] at hread ⊢
  rw [readNumber?.eq_def]
  split
  · rename_i heq
    cases heq
    cases hc
  · rename_i heq
    cases heq
    cases hc
  · rename_i heq
    cases heq
    cases hc
  · exact hread

lemma readNumber?_negative (hx : x.WellFormed) (hrest : EndsNumeral rest) :
    readNumber? ('-' :: x.chars ++ rest) = some (x.number true, rest) := by
  have hread := readUnsigned?_chars hx true hrest
  obtain ⟨c, cs, hchars, hc⟩ := Numeral.exists_chars_eq hx rest
  have hword : readWord? "Infinity" (c :: cs) = none := by
    have hne : 'I' ≠ c := by
      rintro rfl
      cases hc
    simp [readWord?, hne]
  rw [List.cons_append, readNumber?]
  rw [hchars] at hread ⊢
  rw [hword, hread]

end

/-- The numeral of a double without its sign. -/
def Numeral.ofMagnitude (m : Nat) (e : Int) : Numeral :=
  if m = 0 then { whole := ['0'], fraction := some ['0'] } else .ofDigits (Double.shortest m e)

lemma Numeral.wellFormed_ofMagnitude {m : Nat} {e : Int} (hm : Double.IsCanonical m e) :
    (Numeral.ofMagnitude m e).WellFormed := by
  unfold ofMagnitude
  split
  · refine ⟨Text.areDigits_zero, .inl rfl, ?_, by simp⟩
    rintro _ ⟨⟩
    exact Text.areDigits_zero
  · rename_i hpos
    exact wellFormed_ofDigits (Double.shortest_roundsTo hm hpos).1

lemma Numeral.number_ofMagnitude {m : Nat} {e : Int} (hm : Double.IsCanonical m e)
    (negative : Bool) :
    (Numeral.ofMagnitude m e).number negative = .float (.finite negative m e) := by
  unfold ofMagnitude
  split
  · rename_i hzero
    obtain rfl : e = Double.leastExponent := hm.normal.resolve_right (by simp [hzero])
    rw [hzero]
    rfl
  · rename_i hpos
    exact number_shortest hm hpos negative

lemma writeNumber_finite (negative : Bool) (m : Nat) (e : Int) :
    writeNumber (.float (.finite negative m e)) =
      (if negative then ['-'] else []) ++ (Numeral.ofMagnitude m e).chars := by
  simp only [writeNumber, Number.describe, Double.render, String.toList_append,
    Numeral.ofMagnitude]
  congr 1
  · cases negative <;> rfl
  · split
    · rfl
    · exact toList_render_digits _

lemma writeNumber_int (n : Int) :
    writeNumber (.int n) = (if n < 0 then ['-'] else []) ++ (Numeral.ofNat n.natAbs).chars := by
  have hchars : ∀ k, (Numeral.ofNat k).chars = Nat.toDigits 10 k := by
    simp [Numeral.ofNat, Numeral.chars, Numeral.fractionChars, Numeral.exponentChars]
  simp only [writeNumber, Number.describe, hchars, Int.toString_eq_repr, Int.repr_eq_if]
  split
  · rename_i hn
    rw [if_neg (by omega), ← Nat.toString_eq_repr, toList_toString_nat, List.nil_append]
    congr 1
    omega
  · rename_i hn
    rw [if_pos (by omega), String.toList_append, ← Nat.toString_eq_repr, toList_toString_nat]
    congr 2
    omega

/-- A number is read back from its text. -/
theorem readNumber?_writeNumber {n : Number} (hn : n.IsProper) {rest : List Char}
    (hrest : EndsNumeral rest) : readNumber? (writeNumber n ++ rest) = some (n, rest) := by
  cases n with
  | int n =>
    have hx := Numeral.wellFormed_ofNat n.natAbs
    have hvalue : digitsValue (Numeral.ofNat n.natAbs).whole = n.natAbs :=
      Text.digitsValue_toDigits _
    rw [writeNumber_int]
    split
    · rename_i hneg
      rw [List.singleton_append, readNumber?_negative hx hrest, Numeral.number, hvalue]
      simp only [Numeral.ofNat, Option.isNone_none, Bool.and_self, if_true]
      congr 3
      omega
    · rename_i hpos
      rw [List.nil_append, readNumber?_chars hx hrest, Numeral.number, hvalue]
      simp only [Numeral.ofNat, Option.isNone_none, Bool.and_self, if_true]
      congr 3
      exact Int.natAbs_of_nonneg (by omega)
  | float x =>
    cases x with
    | nan => rfl
    | infinity negative => cases negative <;> rfl
    | finite negative m e =>
      have hx := Numeral.wellFormed_ofMagnitude hn
      rw [writeNumber_finite, ← Numeral.number_ofMagnitude hn]
      cases negative with
      | true => exact readNumber?_negative hx hrest
      | false => exact readNumber?_chars hx hrest

end Document

end GraphTalk
