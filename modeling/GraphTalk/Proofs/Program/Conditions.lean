import GraphTalk.Proofs.Program.Reading

/-!
# Reading conditions

Every well-formed condition is told apart from every other, as a whole and as an operand
(`WellFormed.told`). A condition without operands starts with a word that says which one it is; one
with operands stands in brackets where it is an operand itself, so that the operands in a row end
where a bracket closes.
-/

namespace GraphTalk

/-! ### Conditions without operands -/

/-- A name ends where a character stands that is in no name. -/
lemma follows_name {c : Char} (hc : Manifest.isNameChar c = false) (r : List Char) :
    Follows (!Manifest.isNameChar ·) (c :: r) :=
  follows_cons.mpr (by simp [hc])

lemma isName_of_mem_aggregateFunctions {s : String} (h : s ∈ aggregateFunctions) : IsName s := by
  simp only [aggregateFunctions, List.mem_cons, List.not_mem_nil, or_false] at h
  rcases h with rfl | rfl | rfl | rfl | rfl
  all_goals decide

lemma length_of_mem_comparisons {s : String} (h : s ∈ comparisons) : s.toList.length = 2 := by
  simp only [comparisons, List.mem_cons, List.not_mem_nil, or_false] at h
  rcases h with rfl | rfl | rfl
  all_goals rfl

/-- All comparisons are equally long. -/
lemma comparison_append_inj {s t : String} (hs : s ∈ comparisons) (ht : t ∈ comparisons)
    {r r' : List Char} (h : s.toList ++ r = t.toList ++ r') : s = t ∧ r = r' := by
  obtain ⟨hst, hr⟩ := List.append_inj h
    ((length_of_mem_comparisons hs).trans (length_of_mem_comparisons ht).symm)
  exact ⟨String.toList_inj.mp hst, hr⟩

namespace Condition

/-- The text of a condition. -/
def text (c : Condition) : List Char := c.render.toList

lemma text_contains (field : String) (v : Value) (r : List Char) :
    (atom field "contains" v).text ++ r =
      "contains".toList ++ '(' :: (field.toList ++ ',' :: ' ' :: (v.text ++ ')' :: r)) := by
  simp [text, render, Value.text]

lemma text_comparison {operator : String} (h : operator ∈ comparisons) (field : String)
    (v : Value) (r : List Char) : (atom field operator v).text ++ r =
      field.toList ++ ' ' :: (operator.toList ++ ' ' :: (v.text ++ r)) := by
  have hne : operator ≠ "contains" := by
    rintro rfl
    exact absurd h (by decide)
  simp [text, render, Value.text, hne]

lemma text_aggregate (function field operator : String) (n : Number) (r : List Char) :
    (aggregate function field operator n).text ++ r =
      function.toList ++ '(' :: (field.toList ++ ')' :: ' ' ::
        (operator.toList ++ ' ' :: (n.render.toList ++ r))) := by
  simp [text, render]

/-- The conditions without operands, by the word that they start with: `contains`, a field, or a
function. -/
inductive Simple : Condition → Prop where
  | contains {field : String} {v : Value} (hf : IsName field) (hv : v.WellFormed) :
      Simple (.atom field "contains" v)
  | comparison {field operator : String} {v : Value} (hf : IsName field)
      (hop : operator ∈ comparisons) (hv : v.WellFormed) : Simple (.atom field operator v)
  | aggregate {function field operator : String} {n : Number}
      (hfn : function ∈ aggregateFunctions) (hf : IsName field) (hop : operator ∈ comparisons) :
      Simple (.aggregate function field operator n)

lemma Simple.isCompound {c : Condition} (h : c.Simple) : c.isCompound = false := by
  cases h with
  | _ => rfl

lemma WellFormed.simple {c : Condition} (hc : c.WellFormed) (h : c.isCompound = false) :
    c.Simple := by
  cases hc with
  | atom hf hop hv =>
    rcases hop with rfl | hop
    · exact .contains hf hv
    · exact .comparison hf hop hv
  | all | any => cases h
  | aggregate hfn hf hop => exact .aggregate hfn hf hop

/-- A condition without operands starts with a word. -/
lemma Simple.lead {c : Condition} (h : c.Simple) (r : List Char) :
    ∃ w m t, IsName w ∧ c.text ++ r = w.toList ++ m :: t ∧ (m = '(' ∨ m = ' ') := by
  cases h with
  | contains => exact ⟨"contains", '(', _, by decide, text_contains _ _ r, .inl rfl⟩
  | comparison hf hop => exact ⟨_, ' ', _, hf, text_comparison hop _ _ r, .inr rfl⟩
  | aggregate hfn =>
    exact ⟨_, '(', _, isName_of_mem_aggregateFunctions hfn, text_aggregate _ _ _ _ r, .inl rfl⟩

lemma Simple.ne_paren {c : Condition} (h : c.Simple) {r r' : List Char} :
    c.text ++ r ≠ '(' :: r' := by
  obtain ⟨w, m, t, hw, htext, _⟩ := h.lead r
  rw [htext]
  exact hw.append_ne_cons (by decide)

lemma Simple.mark_text {c : Condition} (h : c.Simple) (r : List Char) :
    mark (c.text ++ r) = some '(' ∨ mark (c.text ++ r) = some ' ' := by
  obtain ⟨w, m, t, hw, htext, rfl | rfl⟩ := h.lead r
  · rw [htext, hw.mark_append]
    exact .inl (mark_cons (by decide) t)
  · rw [htext, hw.mark_append]
    exact .inr (mark_cons (by decide) t)

/-- A field that is compared has a blank behind it, and a function has a bracket. -/
lemma comparison_ne_call {field w : String} (hf : IsName field) (hw : IsName w)
    {r r' : List Char} : field.toList ++ ' ' :: r ≠ w.toList ++ '(' :: r' := by
  intro h
  have hmark := congrArg mark h
  rw [hf.mark_append, hw.mark_append, mark_cons (by decide), mark_cons (by decide)] at hmark
  cases hmark

lemma contains_told {field : String} {v : Value} (hf : IsName field) (hv : v.WellFormed) :
    Told text Simple Alike (Follows isBreak) (atom field "contains" v) := by
  have hcontains : IsName "contains" := by decide
  intro d r r' hd _ _ h
  rw [text_contains] at h
  cases hd with
  | contains hf' hv' =>
    rw [text_contains, List.append_cancel_left_eq, List.cons.injEq] at h
    obtain ⟨rfl, h₁⟩ := hf.append_inj hf' (follows_name (by decide) _)
      (follows_name (by decide) _) h.2
    simp only [List.cons.injEq, true_and] at h₁
    obtain ⟨hvw, h₂⟩ := Value.told hv hv' (follows_cons.mpr (by decide))
      (follows_cons.mpr (by decide)) h₁
    exact ⟨.atom hvw, (List.cons.inj h₂).2⟩
  | comparison hf' hop' _ =>
    rw [text_comparison hop'] at h
    exact absurd h.symm (comparison_ne_call hf' hcontains)
  | aggregate hfn' =>
    rw [text_aggregate] at h
    obtain ⟨rfl, _⟩ := hcontains.append_inj (isName_of_mem_aggregateFunctions hfn')
      (follows_name (by decide) _) (follows_name (by decide) _) h
    exact absurd hfn' (by decide)

lemma comparison_told {field operator : String} {v : Value} (hf : IsName field)
    (hop : operator ∈ comparisons) (hv : v.WellFormed) :
    Told text Simple Alike (Follows isBreak) (atom field operator v) := by
  intro d r r' hd hr hr' h
  rw [text_comparison hop] at h
  cases hd with
  | contains =>
    rw [text_contains] at h
    exact absurd h (comparison_ne_call hf (by decide))
  | comparison hf' hop' hv' =>
    rw [text_comparison hop'] at h
    obtain ⟨rfl, h₁⟩ := hf.append_inj hf' (follows_name (by decide) _)
      (follows_name (by decide) _) h
    obtain ⟨rfl, h₂⟩ := comparison_append_inj hop hop' (List.cons.inj h₁).2
    obtain ⟨hvw, h₃⟩ := Value.told hv hv' hr hr' (List.cons.inj h₂).2
    exact ⟨.atom hvw, h₃⟩
  | aggregate hfn' =>
    rw [text_aggregate] at h
    exact absurd h (comparison_ne_call hf (isName_of_mem_aggregateFunctions hfn'))

lemma aggregate_told {function field operator : String} {n : Number}
    (hfn : function ∈ aggregateFunctions) (hf : IsName field) (hop : operator ∈ comparisons) :
    Told text Simple Alike (Follows isBreak) (aggregate function field operator n) := by
  have hfnName := isName_of_mem_aggregateFunctions hfn
  intro d r r' hd hr hr' h
  rw [text_aggregate] at h
  cases hd with
  | contains =>
    rw [text_contains] at h
    obtain ⟨rfl, _⟩ := hfnName.append_inj (t := "contains") (by decide)
      (follows_name (by decide) _) (follows_name (by decide) _) h
    exact absurd hfn (by decide)
  | comparison hf' hop' _ =>
    rw [text_comparison hop'] at h
    exact absurd h.symm (comparison_ne_call hf' hfnName)
  | aggregate hfn' hf' hop' =>
    rw [text_aggregate] at h
    obtain ⟨rfl, h₁⟩ := hfnName.append_inj (isName_of_mem_aggregateFunctions hfn')
      (follows_name (by decide) _) (follows_name (by decide) _) h
    obtain ⟨rfl, h₂⟩ := hf.append_inj hf' (follows_name (by decide) _)
      (follows_name (by decide) _) (List.cons.inj h₁).2
    simp only [List.cons.injEq, true_and] at h₂
    obtain ⟨rfl, h₃⟩ := comparison_append_inj hop hop' h₂
    obtain ⟨hn, h₄⟩ := number_append_inj hr hr' (List.cons.inj h₃).2
    exact ⟨.aggregate hn, h₄⟩

lemma Simple.told {c : Condition} (h : c.Simple) :
    Told text Simple Alike (Follows isBreak) c := by
  cases h with
  | contains hf hv => exact contains_told hf hv
  | comparison hf hop hv => exact comparison_told hf hop hv
  | aggregate hfn hf hop => exact aggregate_told hfn hf hop

/-! ### Compound conditions -/

/-- The text of a condition that is an operand of another. -/
def operandText (c : Condition) : List Char := (bracketed c.isCompound c.render).toList

lemma operandText_simple {c : Condition} (h : c.isCompound = false) : c.operandText = c.text := by
  simp [operandText, bracketed, h, text]

lemma operandText_compound {c : Condition} (h : c.isCompound = true) (r : List Char) :
    c.operandText ++ r = '(' :: (c.text ++ ')' :: r) := by
  simp [operandText, bracketed, h, text]

lemma map_toList_renderOperands (cs : List Condition) :
    (renderOperands cs).map String.toList = cs.map operandText := by
  induction cs with
  | nil => simp [renderOperands]
  | cons c cs ih => simp [renderOperands, operandText, ih]

/-- The two ways of making a condition of operands. -/
inductive Junction where
  | all
  | any

/-- The condition that is made of operands. -/
def Junction.join : Junction → List Condition → Condition
  | .all => Condition.all
  | .any => Condition.any

/-- What stands between two operands, but for the blank before it. -/
def Junction.sign : Junction → List Char
  | .all => "&& ".toList
  | .any => "|| ".toList

/-- The first operand, and the others behind separators. -/
lemma text_join (j : Junction) (c : Condition) (cs : List Condition) (r : List Char) :
    (j.join (c :: cs)).text ++ r =
      c.operandText ++ (cs.flatMap (fun d => ' ' :: j.sign ++ d.operandText) ++ r) := by
  have hrow : ∀ sep : String, (sep.intercalate (renderOperands (c :: cs))).toList ++ r =
      c.operandText ++ (cs.flatMap (fun d => sep.toList ++ d.operandText) ++ r) := by
    intro sep
    rw [String.toList_intercalate, map_toList_renderOperands, List.map_cons, intercalate_cons_eq,
      List.flatMap_map, List.append_assoc]
  cases j with
  | all =>
    rw [Junction.join, text, render]
    exact hrow " && "
  | any =>
    rw [Junction.join, text, render]
    exact hrow " || "

lemma Junction.alike_join (j : Junction) {cs ds : List Condition} (h : List.Forall₂ Alike cs ds) :
    (j.join cs).Alike (j.join ds) := by
  cases j with
  | all => exact .all h
  | any => exact .any h

/-- A well-formed condition is simple, or it has two operands or more. -/
lemma WellFormed.shape {c : Condition} (hc : c.WellFormed) :
    c.Simple ∨ ∃ j c₁ c₂ cs, c = Junction.join j (c₁ :: c₂ :: cs) ∧
      ∀ d ∈ c₁ :: c₂ :: cs, Condition.WellFormed d := by
  have htwo : ∀ cs : List Condition, 2 ≤ cs.length → ∃ c₁ c₂ ds, cs = c₁ :: c₂ :: ds := by
    intro cs hlen
    match cs, hlen with
    | c₁ :: c₂ :: ds, _ => exact ⟨c₁, c₂, ds, rfl⟩
  cases hc with
  | atom hf hop hv => exact .inl (WellFormed.simple (.atom hf hop hv) rfl)
  | aggregate hfn hf hop => exact .inl (.aggregate hfn hf hop)
  | @all cs hlen h =>
    obtain ⟨c₁, c₂, ds, rfl⟩ := htwo cs hlen
    exact .inr ⟨.all, c₁, c₂, ds, rfl, h⟩
  | @any cs hlen h =>
    obtain ⟨c₁, c₂, ds, rfl⟩ := htwo cs hlen
    exact .inr ⟨.any, c₁, c₂, ds, rfl, h⟩

/-- A condition that is told apart as an operand of another one. -/
abbrev OperandTold : Condition → Prop := Told operandText WellFormed Alike (Follows isBreak)

/-- A condition that is told apart as a whole. -/
abbrev WholeTold : Condition → Prop := Told text WellFormed Alike (Follows isClose)

lemma Simple.operandTold {c : Condition} (hc : c.Simple) : c.OperandTold := by
  intro d r r' hd hr hr' h
  rw [operandText_simple hc.isCompound] at h
  cases hcomp : d.isCompound with
  | false =>
    rw [operandText_simple hcomp] at h
    exact hc.told (hd.simple hcomp) hr hr' h
  | true =>
    rw [operandText_compound hcomp] at h
    exact absurd h hc.ne_paren

lemma WholeTold.operandTold {c : Condition} (hcomp : c.isCompound = true) (hc : c.WholeTold) :
    c.OperandTold := by
  intro d r r' hd hr hr' h
  rw [operandText_compound hcomp] at h
  cases hcomp' : d.isCompound with
  | false =>
    rw [operandText_simple hcomp'] at h
    exact absurd h.symm (hd.simple hcomp').ne_paren
  | true =>
    rw [operandText_compound hcomp', List.cons.injEq] at h
    obtain ⟨hcd, hrest⟩ := hc hd (follows_cons.mpr (by decide)) (follows_cons.mpr (by decide)) h.2
    exact ⟨hcd, (List.cons.inj hrest).2⟩

/-- Operands in a row are told apart if what follows closes the condition. -/
lemma operands_told {sep : List Char} {c d : Condition} {cs ds : List Condition}
    (hcs : ∀ e ∈ c :: cs, e.OperandTold) (hds : ∀ e ∈ d :: ds, e.WellFormed) {r r' : List Char}
    (hr : Follows isClose r) (hr' : Follows isClose r')
    (h : c.operandText ++ (cs.flatMap (fun e => ' ' :: sep ++ e.operandText) ++ r) =
      d.operandText ++ (ds.flatMap (fun e => ' ' :: sep ++ e.operandText) ++ r')) :
    List.Forall₂ Alike (c :: cs) (d :: ds) ∧ r = r' := by
  obtain ⟨hc, hcs⟩ := List.forall_mem_cons.mp hcs
  obtain ⟨hd, hds⟩ := List.forall_mem_cons.mp hds
  have hblank : ∀ s, Follows isBreak (' ' :: sep ++ s) := fun s => follows_cons.mpr (by decide)
  have hne : ∀ {r s : List Char}, Follows isClose r → r ≠ ' ' :: sep ++ s := by
    rintro r s hr rfl
    exact absurd (follows_cons.mp hr) (by decide)
  have hrow : ∀ (es : List Condition) {r : List Char}, Follows isClose r →
      Follows isBreak (es.flatMap (fun e => ' ' :: sep ++ e.operandText) ++ r) := by
    intro es r hr
    cases es with
    | nil => exact hr.mono isBreak_of_isClose
    | cons e es => exact follows_cons.mpr (by decide)
  obtain ⟨hcd, hrest⟩ := hc hd (hrow cs hr) (hrow ds hr') h
  obtain ⟨hall, hr⟩ := told_row hblank hcs hds (hr.mono isBreak_of_isClose)
    (hr'.mono isBreak_of_isClose) (fun s => hne hr) (fun s => hne hr') hrest
  exact ⟨.cons hcd hall, hr⟩

lemma Simple.wholeTold {c : Condition} (hc : c.Simple) : c.WholeTold := by
  intro d r r' hd hr hr' h
  have hbreak := hr.mono isBreak_of_isClose
  rw [← operandText_simple hc.isCompound] at h
  rcases hd.shape with hsimple | ⟨j, d₁, d₂, ds, rfl, hds⟩
  · rw [← operandText_simple hsimple.isCompound] at h
    exact hc.operandTold hd hbreak (hr'.mono isBreak_of_isClose) h
  · -- the other condition goes on behind its first operand, and this one does not
    rw [text_join] at h
    obtain ⟨_, rfl⟩ := hc.operandTold (hds d₁ (by simp)) hbreak (follows_cons.mpr (by decide)) h
    exact absurd (follows_cons.mp hr) (by decide)

lemma Junction.wholeTold (j : Junction) {c₁ c₂ : Condition} {cs : List Condition}
    (hcs : ∀ c ∈ c₁ :: c₂ :: cs, c.OperandTold) : (j.join (c₁ :: c₂ :: cs)).WholeTold := by
  intro d r r' hd hr hr' h
  have hfirst := hcs c₁ (by simp)
  rw [text_join] at h
  rcases hd.shape with hsimple | ⟨j', d₁, d₂, ds, rfl, hds⟩
  · rw [← operandText_simple hsimple.isCompound] at h
    obtain ⟨_, rfl⟩ := hfirst hd (follows_cons.mpr (by decide)) (hr'.mono isBreak_of_isClose) h
    exact absurd (follows_cons.mp hr') (by decide)
  · rw [text_join] at h
    obtain ⟨_, hrest⟩ := hfirst (hds d₁ (by simp)) (follows_cons.mpr (by decide))
      (follows_cons.mpr (by decide)) h
    obtain rfl : j = j' := by
      cases j with
      | all =>
        cases j' with
        | all => rfl
        | any => simp [sign] at hrest
      | any =>
        cases j' with
        | all => simp [sign] at hrest
        | any => rfl
    obtain ⟨halike, hr⟩ := operands_told hcs hds hr hr' h
    exact ⟨j.alike_join halike, hr⟩

/-- Every well-formed condition is told apart, as an operand and as a whole. -/
lemma WellFormed.told {c : Condition} (hc : c.WellFormed) : c.OperandTold ∧ c.WholeTold := by
  induction hc with
  | atom hf hop hv =>
    have hsimple := WellFormed.simple (.atom hf hop hv) rfl
    exact ⟨hsimple.operandTold, hsimple.wholeTold⟩
  | @aggregate function field operator n hfn hf hop =>
    have hsimple := Simple.aggregate (n := n) hfn hf hop
    exact ⟨hsimple.operandTold, hsimple.wholeTold⟩
  | @all cs hlen _ ih =>
    match cs, hlen with
    | c₁ :: c₂ :: cs, _ =>
      have hwhole := Junction.all.wholeTold fun c hc => (ih c hc).1
      exact ⟨hwhole.operandTold rfl, hwhole⟩
  | @any cs hlen _ ih =>
    match cs, hlen with
    | c₁ :: c₂ :: cs, _ =>
      have hwhole := Junction.any.wholeTold fun c hc => (ih c hc).1
      exact ⟨hwhole.operandTold rfl, hwhole⟩

/-- The first character of a condition that is in no name is a bracket or a blank. -/
lemma WellFormed.mark_text {c : Condition} (hc : c.WellFormed) (r : List Char) :
    mark (c.text ++ r) = some '(' ∨ mark (c.text ++ r) = some ' ' := by
  rcases hc.shape with hsimple | ⟨j, c₁, c₂, cs, rfl, hcs⟩
  · exact hsimple.mark_text r
  · rw [text_join]
    cases hcomp : c₁.isCompound with
    | false =>
      rw [operandText_simple hcomp]
      exact ((hcs c₁ (by simp)).simple hcomp).mark_text _
    | true =>
      rw [operandText_compound hcomp]
      exact .inl (mark_cons (by decide) _)

end Condition

end GraphTalk
