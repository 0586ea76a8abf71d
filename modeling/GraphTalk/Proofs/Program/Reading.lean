import GraphTalk.Proofs.Number.Characters
import GraphTalk.Proofs.Program.WellFormed

/-!
# Reading parts of programs

The text of a part is read from the left: what is proved of every kind of part is that it can be
told where its text ends, and what the part is, whatever follows (`Told`). What may follow is
limited for those parts that do not end with a bracket or a quote of their own.

Here are the parts without nesting: words, quoted texts, numbers and values.
-/

namespace GraphTalk

/-! ### Texts with something behind them -/

/-- What follows a text, if anything does, starts with a character of a class. -/
def Follows (p : Char → Bool) (r : List Char) : Prop := ∀ c ∈ r.head?, p c = true

@[simp] lemma follows_cons {p : Char → Bool} {c : Char} {r : List Char} :
    Follows p (c :: r) ↔ p c = true := by simp [Follows]

lemma Follows.mono {p q : Char → Bool} (h : ∀ c, p c = true → q c = true) {r : List Char}
    (hr : Follows p r) : Follows q r :=
  fun c hc => h c (hr c hc)

/-- Whatever follows within limits, the text of `a` is told apart from that of everything that is
not like `a`, and from what follows. -/
def Told {α : Type} (text : α → List Char) (Valid : α → Prop) (Alike : α → α → Prop)
    (Limit : List Char → Prop) (a : α) : Prop :=
  ∀ ⦃b : α⦄ ⦃r r' : List Char⦄, Valid b → Limit r → Limit r' → text a ++ r = text b ++ r' →
    Alike a b ∧ r = r'

/-- A run of characters of a class ends where another character stands. -/
lemma run_append_inj {p : Char → Bool} {as bs r r' : List Char} (has : ∀ c ∈ as, p c = true)
    (hbs : ∀ c ∈ bs, p c = true) (hr : Follows (!p ·) r) (hr' : Follows (!p ·) r')
    (h : as ++ r = bs ++ r') : as = bs ∧ r = r' := by
  induction as generalizing bs with
  | nil =>
    cases bs with
    | nil => exact ⟨rfl, h⟩
    | cons b bs =>
      simp only [List.nil_append, List.cons_append] at h
      simp [h, hbs b (by simp)] at hr
  | cons a as ih =>
    cases bs with
    | nil =>
      simp only [List.nil_append, List.cons_append] at h
      simp [← h, has a (by simp)] at hr'
    | cons b bs =>
      simp only [List.cons_append, List.cons.injEq] at h
      obtain ⟨rfl, h⟩ := h
      obtain ⟨rfl, hrest⟩ := ih (fun c hc => has c (by simp [hc]))
        (fun c hc => hbs c (by simp [hc])) h
      exact ⟨rfl, hrest⟩

/-- A word ends where another character stands. -/
lemma IsWord.append_inj {p : Char → Bool} {s t : String} (hs : IsWord p s) (ht : IsWord p t)
    {r r' : List Char} (hr : Follows (!p ·) r) (hr' : Follows (!p ·) r')
    (h : s.toList ++ r = t.toList ++ r') : s = t ∧ r = r' := by
  obtain ⟨hst, hrest⟩ := run_append_inj hs.2 ht.2 hr hr' h
  exact ⟨String.toList_inj.mp hst, hrest⟩

/-- No word starts with a character of another class. -/
lemma IsWord.append_ne_cons {p : Char → Bool} {s : String} (hs : IsWord p s) {c : Char}
    (hc : p c = false) {r r' : List Char} : s.toList ++ r ≠ c :: r' := by
  intro h
  cases hchars : s.toList with
  | nil => exact hs.1 (String.toList_eq_nil_iff.mp hchars)
  | cons d ds =>
    rw [hchars, List.cons_append, List.cons.injEq] at h
    have hd := hs.2 d (by simp [hchars])
    rw [h.1, hc] at hd
    cases hd

/-- The first character that is in no name. -/
def mark (s : List Char) : Option Char := s.find? (!Manifest.isNameChar ·)

lemma mark_cons {c : Char} (hc : Manifest.isNameChar c = false) (r : List Char) :
    mark (c :: r) = some c := by
  simp [mark, hc]

lemma IsWord.mark_append {s : String} (hs : IsName s) (r : List Char) :
    mark (s.toList ++ r) = mark r := by
  have hnone : s.toList.find? (!Manifest.isNameChar ·) = none := by
    simpa using hs.2
  simp [mark, List.find?_append, hnone]

/-- Parts that are told apart within limits are so in a row behind separators, if what follows the
row is no separator. -/
lemma told_row {α : Type} {text : α → List Char} {Valid : α → Prop} {Alike : α → α → Prop}
    {Limit : List Char → Prop} {sep : List Char} (hsep : ∀ s, Limit (sep ++ s)) {as bs : List α}
    (has : ∀ a ∈ as, Told text Valid Alike Limit a) (hbs : ∀ b ∈ bs, Valid b) {r r' : List Char}
    (hr : Limit r) (hr' : Limit r') (hne : ∀ s, r ≠ sep ++ s) (hne' : ∀ s, r' ≠ sep ++ s)
    (h : as.flatMap (fun a => sep ++ text a) ++ r = bs.flatMap (fun b => sep ++ text b) ++ r') :
    List.Forall₂ Alike as bs ∧ r = r' := by
  have hlimit : ∀ (xs : List α) {r : List Char}, Limit r →
      Limit (xs.flatMap (fun x => sep ++ text x) ++ r) := by
    intro xs r hr
    cases xs with
    | nil => exact hr
    | cons x xs =>
      rw [List.flatMap_cons, List.append_assoc, List.append_assoc]
      exact hsep _
  induction as generalizing bs with
  | nil =>
    cases bs with
    | nil => exact ⟨.nil, h⟩
    | cons b bs =>
      rw [List.flatMap_cons, List.append_assoc, List.append_assoc] at h
      exact absurd h (hne _)
  | cons a as ih =>
    cases bs with
    | nil =>
      rw [List.flatMap_cons, List.append_assoc, List.append_assoc] at h
      exact absurd h.symm (hne' _)
    | cons b bs =>
      obtain ⟨ha, has⟩ := List.forall_mem_cons.mp has
      obtain ⟨hb, hbs⟩ := List.forall_mem_cons.mp hbs
      simp only [List.flatMap_cons, List.append_assoc, List.append_cancel_left_eq] at h
      obtain ⟨hab, hrest⟩ := ha hb (hlimit as hr) (hlimit bs hr') h
      obtain ⟨habs, hr⟩ := ih has hbs hrest
      exact ⟨.cons hab habs, hr⟩

/-- The first of several texts, and the others behind separators. -/
lemma intercalate_cons_eq (sep a : List Char) (as : List (List Char)) :
    sep.intercalate (a :: as) = a ++ as.flatMap (sep ++ ·) := by
  induction as generalizing a with
  | nil => simp
  | cons b bs ih => rw [List.intercalate_cons_cons, ih, List.flatMap_cons, List.append_assoc,
      List.append_assoc]

/-! ### Quoted texts -/

lemma toList_quoteText (s : String) :
    (quoteText s).toList = '"' :: (s.toList.flatMap quoteText.escape ++ ['"']) := by
  simp [quoteText]

lemma escape_append_inj {c d : Char} {r r' : List Char}
    (h : quoteText.escape c ++ r = quoteText.escape d ++ r') : c = d ∧ r = r' := by
  unfold quoteText.escape at h
  split at h
  · split at h
    · simpa using h
    · rename_i hd
      simp only [List.cons_append, List.nil_append, List.cons.injEq] at h
      simp [← h.1] at hd
  · split at h
    · rename_i hc _
      simp only [List.cons_append, List.nil_append, List.cons.injEq] at h
      simp [h.1] at hc
    · simpa using h

lemma escape_ne_quote {c : Char} {r r' : List Char} : quoteText.escape c ++ r ≠ '"' :: r' := by
  unfold quoteText.escape
  split
  · simp
  · rename_i hc
    simp only [List.cons_append, List.nil_append, ne_eq, List.cons.injEq]
    rintro ⟨rfl, _⟩
    simp at hc

/-- A quoted text ends with the first quote that is not escaped. -/
lemma quoteText_append_inj {s t : String} {r r' : List Char}
    (h : (quoteText s).toList ++ r = (quoteText t).toList ++ r') : s = t ∧ r = r' := by
  have hchars : ∀ cs ds : List Char, cs.flatMap quoteText.escape ++ '"' :: r =
      ds.flatMap quoteText.escape ++ '"' :: r' → cs = ds ∧ r = r' := by
    intro cs
    induction cs with
    | nil =>
      intro ds h
      cases ds with
      | nil => simpa using h
      | cons d ds =>
        rw [List.flatMap_cons, List.append_assoc] at h
        exact absurd h.symm escape_ne_quote
    | cons c cs ih =>
      intro ds h
      cases ds with
      | nil =>
        rw [List.flatMap_cons, List.append_assoc] at h
        exact absurd h escape_ne_quote
      | cons d ds =>
        rw [List.flatMap_cons, List.flatMap_cons, List.append_assoc, List.append_assoc] at h
        obtain ⟨rfl, hrest⟩ := escape_append_inj h
        obtain ⟨rfl, hr⟩ := ih ds hrest
        exact ⟨rfl, hr⟩
  rw [toList_quoteText, toList_quoteText] at h
  obtain ⟨hst, hr⟩ := hchars s.toList t.toList (by simpa using h)
  exact ⟨String.toList_inj.mp hst, hr⟩

/-! ### Values -/

/-- The characters that may follow a condition. -/
def isClose (c : Char) : Bool := c == ')' || c == ']' || c == ';'

/-- The characters that may follow a value: a condition may go on with another operand. -/
def isBreak (c : Char) : Bool := isClose c || c == ' '

lemma isBreak_of_isClose (c : Char) (h : isClose c = true) : isBreak c = true := by
  simp [isBreak, h]

lemma not_isNumberChar_of_isBreak (c : Char) (h : isBreak c = true) :
    (!isNumberChar c) = true := by
  simp only [isBreak, isClose, Bool.or_eq_true, beq_iff_eq] at h
  rcases h with ((rfl | rfl) | rfl) | rfl
  all_goals decide

/-- A number ends where a bracket, a semicolon or a blank stands. -/
lemma number_append_inj {m n : Number} {r r' : List Char} (hr : Follows isBreak r)
    (hr' : Follows isBreak r') (h : m.render.toList ++ r = n.render.toList ++ r') :
    m.render = n.render ∧ r = r' := by
  obtain ⟨hmn, hr⟩ := run_append_inj m.numeric_render n.numeric_render
    (hr.mono not_isNumberChar_of_isBreak) (hr'.mono not_isNumberChar_of_isBreak) h
  exact ⟨String.toList_inj.mp hmn, hr⟩

/-- No number starts with a quote. -/
lemma number_ne_quoteText {n : Number} {s : String} {r r' : List Char} (hr : Follows isBreak r) :
    n.render.toList ++ r ≠ (quoteText s).toList ++ r' := by
  intro h
  rw [toList_quoteText, List.cons_append, ← List.nil_append ('"' :: _)] at h
  obtain ⟨_, rfl⟩ := run_append_inj n.numeric_render (by simp)
    (hr.mono not_isNumberChar_of_isBreak) (follows_cons.mpr (by decide)) h
  exact absurd (follows_cons.mp hr) (by decide)

namespace Value

/-- The text of a value. -/
def text (v : Value) : List Char := v.render.toList

lemma text_entity (code type display : String) (r : List Char) :
    (entity code type display).text ++ r =
      (quoteText code).toList ++ '^' :: '^' :: (type.toList ++ '(' ::
        ((quoteText display).toList ++ ')' :: r)) := by
  simp [text, render]

lemma told {v : Value} (hv : v.WellFormed) :
    Told text WellFormed Alike (Follows isBreak) v := by
  intro w r r' hw hr hr' h
  cases v with
  | entity code type display =>
    rw [text_entity] at h
    cases w with
    | entity code' type' display' =>
      rw [text_entity] at h
      obtain ⟨rfl, h₁⟩ := quoteText_append_inj h
      simp only [List.cons.injEq, true_and] at h₁
      obtain ⟨rfl, h₂⟩ := IsWord.append_inj hv hw (follows_cons.mpr (by decide))
        (follows_cons.mpr (by decide)) h₁
      obtain ⟨rfl, h₃⟩ := quoteText_append_inj (List.cons.inj h₂).2
      exact ⟨.refl _, (List.cons.inj h₃).2⟩
    | string s =>
      obtain ⟨_, rfl⟩ := quoteText_append_inj h
      exact absurd (follows_cons.mp hr') (by decide)
    | number n => exact absurd h.symm (number_ne_quoteText hr')
  | string s =>
    cases w with
    | entity code' type' display' =>
      rw [text_entity] at h
      obtain ⟨_, rfl⟩ := quoteText_append_inj h
      exact absurd (follows_cons.mp hr) (by decide)
    | string s' =>
      obtain ⟨rfl, hrest⟩ := quoteText_append_inj h
      exact ⟨.refl _, hrest⟩
    | number n => exact absurd h.symm (number_ne_quoteText hr')
  | number n =>
    cases w with
    | entity code' type' display' =>
      rw [text_entity] at h
      exact absurd h (number_ne_quoteText hr)
    | string s' => exact absurd h (number_ne_quoteText hr)
    | number n' =>
      obtain ⟨hn, hrest⟩ := number_append_inj hr hr' h
      exact ⟨.number hn, hrest⟩

end Value

end GraphTalk
