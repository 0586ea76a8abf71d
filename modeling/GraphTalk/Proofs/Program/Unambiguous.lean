import Mathlib
import GraphTalk.Proofs.Program.Conditions

/-!
# Texts of programs are unambiguous

Two well-formed programs have the same text if and only if they are alike
(`render_eq_iff_alike`). An expression that is no call stands in brackets inside of another one, and
a call ends with a bracket of its own: so an inner expression is told apart whatever follows it, and
a whole expression if what follows it closes it.
-/

namespace GraphTalk

/-! ### Texts of table expressions -/

namespace TableExpression

/-- The text of a table expression. -/
def text (e : TableExpression) : List Char := e.render.toList

/-- The text of a table expression inside of another. -/
def innerText (e : TableExpression) : List Char := (bracketed (!e.isCall) e.render).toList

lemma innerText_call {e : TableExpression} (h : e.isCall = true) : e.innerText = e.text := by
  simp [innerText, bracketed, h, text]

lemma innerText_bracketed {e : TableExpression} (h : e.isCall = false) (r : List Char) :
    e.innerText ++ r = '(' :: (e.text ++ ')' :: r) := by
  simp [innerText, bracketed, h, text]

section

attribute [local simp] render

lemma text_invocation (domain className : String) (r : List Char) :
    (invocation domain className).text ++ r =
      '@' :: (className.toList ++ '.' :: domain.toList ++ '(' :: ')' :: r) := by
  simp [text]

lemma text_sort (e : TableExpression) (field direction : String) (r : List Char) :
    (sort e field direction).text ++ r =
      "sort".toList ++ '(' :: (field.toList ++ ' ' :: (direction.toList ++ ' ' :: 'o' :: 'f' ::
        ' ' :: (e.innerText ++ ')' :: r))) := by
  simp [text, innerText]

lemma text_aggregation_field {field : String} (h : IsName field) (e : TableExpression)
    (function : String) (r : List Char) :
    (aggregation e function (some field)).text ++ r =
      function.toList ++ '(' :: (field.toList ++ ' ' :: 'o' :: 'f' :: ' ' ::
        (e.innerText ++ ')' :: r)) := by
  simp [text, fieldOrNone, h.1, innerText]

lemma text_aggregation_rows (e : TableExpression) (function : String) (r : List Char) :
    (aggregation e function none).text ++ r =
      function.toList ++ '(' :: (e.text ++ ')' :: r) := by
  simp [text, fieldOrNone]

/-- The text of an aggregation is its function, and its argument in brackets. -/
lemma text_aggregation {field : Option String} (hf : ∀ f ∈ field, IsName f)
    (e : TableExpression) (function : String) : ∃ s, ∀ r,
      (aggregation e function field).text ++ r = function.toList ++ '(' :: (s ++ ')' :: r) := by
  cases field with
  | none => exact ⟨e.text, text_aggregation_rows e function⟩
  | some f =>
    refine ⟨f.toList ++ " of ".toList ++ e.innerText, fun r => ?_⟩
    rw [text_aggregation_field (hf f rfl)]
    simp

lemma text_filter (e : TableExpression) (c : Condition) (r : List Char) :
    (filter e c).text ++ r = e.innerText ++ (' ' :: ("filter ".toList ++ (c.text ++ r))) := by
  simp [text, innerText, Condition.text]

lemma text_index (e : TableExpression) (limit : Int) (r : List Char) :
    (index e limit).text ++ r =
      e.innerText ++ ('[' :: '1' :: ':' :: ((toString limit).toList ++ ']' :: r)) := by
  simp [text, innerText]

lemma text_question (e : TableExpression) (c : Condition) (r : List Char) :
    (question e c).text ++ r =
      '[' :: (c.text ++ ']' :: (" of ".toList ++ (e.innerText ++ r))) := by
  simp [text, innerText, Condition.text]

lemma text_projection (e : TableExpression) (field : String) (fields : List String)
    (r : List Char) :
    (projection e (field :: fields)).text ++ r =
      '[' :: (field.toList ++ (fields.flatMap (fun f => [',', ' '] ++ f.toList) ++
        ']' :: (" of ".toList ++ (e.innerText ++ r)))) := by
  have hfields : (", ".intercalate (field :: fields)).toList =
      field.toList ++ fields.flatMap (fun f => [',', ' '] ++ f.toList) := by
    rw [String.toList_intercalate, List.map_cons, intercalate_cons_eq, List.flatMap_map]
    rfl
  simp [text, innerText, hfields]

end

/-- A call that is told apart from every other call. -/
abbrev CallTold : TableExpression → Prop :=
  Told text (fun e => e.WellFormed ∧ e.isCall = true) Alike fun _ => True

/-- A table expression that is told apart inside of another one. -/
abbrev InnerTold : TableExpression → Prop := Told innerText WellFormed Alike fun _ => True

/-- A table expression that is told apart as a whole. -/
abbrev WholeTold : TableExpression → Prop := Told text WellFormed Alike (Follows isClose)

/-- The first character of an inner expression that is in no name is `@` or a bracket. -/
lemma WellFormed.mark_innerText {e : TableExpression} (he : e.WellFormed) (r : List Char) :
    mark (e.innerText ++ r) = some '@' ∨ mark (e.innerText ++ r) = some '(' := by
  cases hcall : e.isCall with
  | false =>
    rw [innerText_bracketed hcall]
    exact .inr (mark_cons (by decide) _)
  | true =>
    rw [innerText_call hcall]
    cases he with
    | filter | projection | question | index => cases hcall
    | invocation =>
      rw [text_invocation]
      exact .inl (mark_cons (by decide) _)
    | sort =>
      rw [text_sort]
      exact .inr rfl
    | @aggregation e function field _ hfn hf =>
      obtain ⟨s, htext⟩ := text_aggregation hf e function
      rw [htext, (isName_of_mem_aggregateFunctions hfn).mark_append]
      exact .inr (mark_cons (by decide) _)

lemma WellFormed.innerText_ne_bracket {e : TableExpression} (he : e.WellFormed)
    {r r' : List Char} : e.innerText ++ r ≠ '[' :: r' := by
  intro h
  have hmark := he.mark_innerText r
  rw [h, mark_cons (by decide)] at hmark
  simp at hmark

/-- A well-formed expression is a call, or another expression stands first in it and something
follows, or it starts with a bracket. -/
lemma WellFormed.shape {e : TableExpression} (he : e.WellFormed) :
    e.isCall = true ∨
      (∃ e₀ c, e = .filter e₀ c ∧ WellFormed e₀ ∧ c.WellFormed) ∨
      (∃ e₀ limit, e = .index e₀ limit ∧ WellFormed e₀) ∨
      (∃ e₀ f fs, e = .projection e₀ (f :: fs) ∧ WellFormed e₀ ∧ ∀ g ∈ f :: fs, IsName g) ∨
      ∃ e₀ c, e = .question e₀ c ∧ WellFormed e₀ ∧ c.WellFormed := by
  cases he with
  | invocation | aggregation | sort => exact .inl rfl
  | filter he hc => exact .inr (.inl ⟨_, _, rfl, he, hc⟩)
  | index limit he => exact .inr (.inr (.inl ⟨_, _, rfl, he⟩))
  | projection he hne hf =>
    obtain ⟨f, fs, rfl⟩ := List.exists_cons_of_ne_nil hne
    exact .inr (.inr (.inr (.inl ⟨_, f, fs, rfl, he, hf⟩)))
  | question he hc => exact .inr (.inr (.inr (.inr ⟨_, _, rfl, he, hc⟩)))

/-- No table expression starts with a name and a blank. -/
lemma WellFormed.text_ne_field {e : TableExpression} (he : e.WellFormed) {field : String}
    (hf : IsName field) {r r' : List Char} : e.text ++ r ≠ field.toList ++ ' ' :: r' := by
  have hinner : ∀ {e₀ : TableExpression} {r : List Char}, e₀.WellFormed →
      e₀.innerText ++ r ≠ field.toList ++ ' ' :: r' := by
    intro e₀ r he₀ h
    have hmark := he₀.mark_innerText r
    rw [h, hf.mark_append, mark_cons (by decide)] at hmark
    simp at hmark
  rcases he.shape with hcall | ⟨e₀, c, rfl, he₀, _⟩ | ⟨e₀, limit, rfl, he₀⟩ |
    ⟨e₀, f, fs, rfl, _⟩ | ⟨e₀, c, rfl, _⟩
  · rw [← innerText_call hcall]
    exact hinner he
  · rw [text_filter]
    exact hinner he₀
  · rw [text_index]
    exact hinner he₀
  · rw [text_projection]
    exact (hf.append_ne_cons (by decide)).symm
  · rw [text_question]
    exact (hf.append_ne_cons (by decide)).symm

/-! ### Calls are told apart -/

lemma isClassChar_of_isNameChar {c : Char} (h : Manifest.isNameChar c = true) :
    isClassChar c = true := by
  simp [isClassChar, h]

/-- The name of a class ends with the last point. -/
lemma class_append_inj {domain domain' className className' : String} (hd : IsName domain)
    (hd' : IsName domain') (hc : IsWord isClassChar className)
    (hc' : IsWord isClassChar className') {r r' : List Char}
    (h : className.toList ++ '.' :: domain.toList ++ '(' :: r =
      className'.toList ++ '.' :: domain'.toList ++ '(' :: r') :
    className = className' ∧ domain = domain' ∧ r = r' := by
  have hchars : ∀ {c d : String}, IsWord isClassChar c → IsName d →
      ∀ x ∈ c.toList ++ '.' :: d.toList, isClassChar x = true := by
    intro c d hc hd x hx
    simp only [List.mem_append, List.mem_cons] at hx
    rcases hx with hx | rfl | hx
    · exact hc.2 x hx
    · decide
    · exact isClassChar_of_isNameChar (hd.2 x hx)
  obtain ⟨hpath, hrest⟩ := run_append_inj (hchars hc hd) (hchars hc' hd')
    (follows_cons.mpr (by decide)) (follows_cons.mpr (by decide)) h
  -- read backwards, the domain is a run of characters of names
  have hback := congrArg List.reverse hpath
  simp only [List.reverse_append, List.reverse_cons, List.append_assoc, List.singleton_append]
    at hback
  have hreverse : ∀ {d : String}, IsName d →
      ∀ x ∈ d.toList.reverse, Manifest.isNameChar x = true :=
    fun hd x hx => hd.2 x (List.mem_reverse.mp hx)
  obtain ⟨hdomain, hclass⟩ := run_append_inj (hreverse hd) (hreverse hd')
    (follows_name (by decide) _) (follows_name (by decide) _) hback
  simp only [List.cons.injEq, List.reverse_inj, true_and] at hdomain hclass
  exact ⟨String.toList_inj.mp hclass, String.toList_inj.mp hdomain, (List.cons.inj hrest).2⟩

lemma invocation_callTold {domain className : String} (hd : IsName domain)
    (hc : IsWord isClassChar className) : (invocation domain className).CallTold := by
  rintro e r r' ⟨he, hcall⟩ _ _ h
  rw [text_invocation] at h
  cases he with
  | filter | projection | question | index => cases hcall
  | invocation hd' hc' =>
    rw [text_invocation, List.cons.injEq] at h
    obtain ⟨rfl, rfl, hrest⟩ := class_append_inj hd hd' hc hc' h.2
    exact ⟨.invocation, (List.cons.inj hrest).2⟩
  | sort =>
    rw [text_sort] at h
    simp at h
  | @aggregation e function field _ hfn hf =>
    obtain ⟨s, htext⟩ := text_aggregation hf e function
    rw [htext] at h
    exact absurd h.symm ((isName_of_mem_aggregateFunctions hfn).append_ne_cons (by decide))

lemma isName_of_mem_directions {s : String} (h : s ∈ directions) : IsName s := by
  simp only [directions, List.mem_cons, List.not_mem_nil, or_false] at h
  rcases h with rfl | rfl
  all_goals decide

/-- No function that aggregates is called `sort`. -/
lemma function_ne_sort {function : String} (hfn : function ∈ aggregateFunctions)
    {r r' : List Char} : function.toList ++ '(' :: r ≠ "sort".toList ++ '(' :: r' := by
  intro h
  obtain ⟨rfl, _⟩ := (isName_of_mem_aggregateFunctions hfn).append_inj (t := "sort") (by decide)
    (follows_name (by decide) _) (follows_name (by decide) _) h
  exact absurd hfn (by decide)

lemma sort_callTold {e : TableExpression} {field direction : String} (hf : IsName field)
    (hd : direction ∈ directions) (he : e.InnerTold) : (sort e field direction).CallTold := by
  rintro e' r r' ⟨he', hcall⟩ _ _ h
  rw [text_sort] at h
  cases he' with
  | filter | projection | question | index => cases hcall
  | invocation =>
    rw [text_invocation] at h
    simp at h
  | sort he₀ hf' hd' =>
    rw [text_sort, List.append_cancel_left_eq, List.cons.injEq] at h
    obtain ⟨rfl, h₁⟩ := hf.append_inj hf' (follows_name (by decide) _)
      (follows_name (by decide) _) h.2
    obtain ⟨rfl, h₂⟩ := (isName_of_mem_directions hd).append_inj (isName_of_mem_directions hd')
      (follows_name (by decide) _) (follows_name (by decide) _) (List.cons.inj h₁).2
    simp only [List.cons.injEq, true_and] at h₂
    obtain ⟨halike, h₃⟩ := he he₀ trivial trivial h₂
    exact ⟨.sort halike, (List.cons.inj h₃).2⟩
  | @aggregation e₀ function _ _ hfn hf' =>
    obtain ⟨s, htext⟩ := text_aggregation hf' e₀ function
    rw [htext] at h
    exact absurd h.symm (function_ne_sort hfn)

/-- An aggregation has the same argument whatever follows it: the field and the expression, or the
expression alone. -/
lemma argument_told {e e' : TableExpression} {function : String} {field field' : Option String}
    (he : e.WellFormed) (he' : e'.WellFormed) (hf : ∀ f ∈ field, IsName f)
    (hf' : ∀ f ∈ field', IsName f) (hinner : e.InnerTold) (hwhole : e.WholeTold)
    {r r' : List Char} (h : (aggregation e function field).text ++ r =
      (aggregation e' function field').text ++ r') :
    (aggregation e function field).Alike (aggregation e' function field') ∧ r = r' := by
  cases field with
  | none =>
    rw [text_aggregation_rows] at h
    cases field' with
    | none =>
      rw [text_aggregation_rows, List.append_cancel_left_eq, List.cons.injEq] at h
      obtain ⟨halike, hrest⟩ := hwhole he' (follows_cons.mpr (by decide))
        (follows_cons.mpr (by decide)) h.2
      exact ⟨.aggregation halike, (List.cons.inj hrest).2⟩
    | some f' =>
      rw [text_aggregation_field (hf' f' rfl), List.append_cancel_left_eq, List.cons.injEq] at h
      exact absurd h.2 (he.text_ne_field (hf' f' rfl))
  | some f =>
    rw [text_aggregation_field (hf f rfl)] at h
    cases field' with
    | none =>
      rw [text_aggregation_rows, List.append_cancel_left_eq, List.cons.injEq] at h
      exact absurd h.2.symm (he'.text_ne_field (hf f rfl))
    | some f' =>
      rw [text_aggregation_field (hf' f' rfl), List.append_cancel_left_eq, List.cons.injEq] at h
      obtain ⟨rfl, h₁⟩ := (hf f rfl).append_inj (hf' f' rfl) (follows_name (by decide) _)
        (follows_name (by decide) _) h.2
      simp only [List.cons.injEq, true_and] at h₁
      obtain ⟨halike, hrest⟩ := hinner he' trivial trivial h₁
      exact ⟨.aggregation halike, (List.cons.inj hrest).2⟩

lemma aggregation_callTold {e : TableExpression} {function : String} {field : Option String}
    (he : e.WellFormed) (hfn : function ∈ aggregateFunctions) (hf : ∀ f ∈ field, IsName f)
    (hinner : e.InnerTold) (hwhole : e.WholeTold) : (aggregation e function field).CallTold := by
  rintro e' r r' ⟨he', hcall⟩ _ _ h
  have hfnName := isName_of_mem_aggregateFunctions hfn
  obtain ⟨s, htext⟩ := text_aggregation hf e function
  cases he' with
  | filter | projection | question | index => cases hcall
  | invocation =>
    rw [htext, text_invocation] at h
    exact absurd h (hfnName.append_ne_cons (by decide))
  | sort =>
    rw [htext, text_sort] at h
    exact absurd h (function_ne_sort hfn)
  | @aggregation e₀ function' field' he₀ hfn' hf' =>
    obtain ⟨s', htext'⟩ := text_aggregation hf' e₀ function'
    have hfunction : function = function' := by
      rw [htext, htext'] at h
      exact (hfnName.append_inj (isName_of_mem_aggregateFunctions hfn')
        (follows_name (by decide) _) (follows_name (by decide) _) h).1
    subst hfunction
    exact argument_told he he₀ hf hf' hinner hwhole h

/-! ### Inner expressions are told apart -/

/-- A call starts with no bracket. -/
lemma WellFormed.call_ne_paren {e : TableExpression} (he : e.WellFormed)
    (hcall : e.isCall = true) {r r' : List Char} : e.text ++ r ≠ '(' :: r' := by
  cases he with
  | filter | projection | question | index => cases hcall
  | invocation =>
    rw [text_invocation]
    simp
  | sort =>
    rw [text_sort]
    simp
  | @aggregation e function _ _ hfn hf =>
    obtain ⟨s, htext⟩ := text_aggregation hf e function
    rw [htext]
    exact (isName_of_mem_aggregateFunctions hfn).append_ne_cons (by decide)

lemma CallTold.innerTold {e : TableExpression} (hcall : e.isCall = true) (he : e.WellFormed)
    (htold : e.CallTold) : e.InnerTold := by
  intro e' r r' he' _ _ h
  rw [innerText_call hcall] at h
  cases hcall' : e'.isCall with
  | true =>
    rw [innerText_call hcall'] at h
    exact htold ⟨he', hcall'⟩ trivial trivial h
  | false =>
    rw [innerText_bracketed hcall'] at h
    exact absurd h (he.call_ne_paren hcall)

lemma WholeTold.innerTold {e : TableExpression} (hcall : e.isCall = false)
    (htold : e.WholeTold) : e.InnerTold := by
  intro e' r r' he' _ _ h
  rw [innerText_bracketed hcall] at h
  cases hcall' : e'.isCall with
  | true =>
    rw [innerText_call hcall'] at h
    exact absurd h.symm (he'.call_ne_paren hcall')
  | false =>
    rw [innerText_bracketed hcall', List.cons.injEq] at h
    obtain ⟨halike, hrest⟩ := htold he' (follows_cons.mpr (by decide))
      (follows_cons.mpr (by decide)) h.2
    exact ⟨halike, (List.cons.inj hrest).2⟩

/-! ### Whole expressions are told apart -/

/-- What starts like an expression inside of it is a call, or it starts with such an expression. -/
lemma WellFormed.shape_of_inner {e e₀ : TableExpression} (he : e.WellFormed)
    (he₀ : e₀.WellFormed) {r r' : List Char} (h : e₀.innerText ++ r = e.text ++ r') :
    e.isCall = true ∨ (∃ e₁ c, e = .filter e₁ c ∧ WellFormed e₁ ∧ c.WellFormed) ∨
      ∃ e₁ limit, e = .index e₁ limit ∧ WellFormed e₁ := by
  rcases he.shape with hcall | hfilter | hindex | ⟨e₁, f, fs, rfl, _⟩ | ⟨e₁, c, rfl, _⟩
  · exact .inl hcall
  · exact .inr (.inl hfilter)
  · exact .inr (.inr hindex)
  · rw [text_projection] at h
    exact absurd h he₀.innerText_ne_bracket
  · rw [text_question] at h
    exact absurd h he₀.innerText_ne_bracket

/-- What starts with a bracket is a projection or a question. -/
lemma WellFormed.shape_of_bracket {e : TableExpression} (he : e.WellFormed) {r r' : List Char}
    (h : '[' :: r = e.text ++ r') :
    (∃ e₁ f fs, e = .projection e₁ (f :: fs) ∧ WellFormed e₁ ∧ ∀ g ∈ f :: fs, IsName g) ∨
      ∃ e₁ c, e = .question e₁ c ∧ WellFormed e₁ ∧ c.WellFormed := by
  rcases he.shape with hcall | ⟨e₁, c, rfl, he₁, _⟩ | ⟨e₁, limit, rfl, he₁⟩ | hprojection |
    hquestion
  · rw [← innerText_call hcall] at h
    exact absurd h.symm he.innerText_ne_bracket
  · rw [text_filter] at h
    exact absurd h.symm he₁.innerText_ne_bracket
  · rw [text_index] at h
    exact absurd h.symm he₁.innerText_ne_bracket
  · exact .inl hprojection
  · exact .inr hquestion

/-- What stands behind the first expression in a whole one, if it is not the whole itself, is a
blank or a bracket that opens, and neither closes anything. -/
lemma not_follows_isClose {c : Char} {r : List Char} (hc : c = ' ' ∨ c = '[') :
    ¬ Follows isClose (c :: r) := by
  rcases hc with rfl | rfl
  all_goals simp [isClose]

lemma call_wholeTold {e : TableExpression} (he : e.WellFormed) (hcall : e.isCall = true)
    (hinner : e.InnerTold) : e.WholeTold := by
  intro e' r r' he' hr _ h
  rw [← innerText_call hcall] at h
  rcases he'.shape_of_inner he h with hcall' | ⟨e₁, c, rfl, he₁, _⟩ | ⟨e₁, limit, rfl, he₁⟩
  · rw [← innerText_call hcall'] at h
    exact hinner he' trivial trivial h
  · rw [text_filter] at h
    obtain ⟨_, rfl⟩ := hinner he₁ trivial trivial h
    exact absurd hr (not_follows_isClose (.inl rfl))
  · rw [text_index] at h
    obtain ⟨_, rfl⟩ := hinner he₁ trivial trivial h
    exact absurd hr (not_follows_isClose (.inr rfl))

lemma filter_wholeTold {e : TableExpression} {c : Condition} (he : e.WellFormed)
    (hinner : e.InnerTold) (hc : c.WholeTold) : (filter e c).WholeTold := by
  intro e' r r' he' hr hr' h
  rw [text_filter] at h
  rcases he'.shape_of_inner he h with hcall' | ⟨e₁, c', rfl, he₁, hc'⟩ | ⟨e₁, limit, rfl, he₁⟩
  · rw [← innerText_call hcall'] at h
    obtain ⟨_, rfl⟩ := hinner he' trivial trivial h
    exact absurd hr' (not_follows_isClose (.inl rfl))
  · rw [text_filter] at h
    obtain ⟨halike, h₁⟩ := hinner he₁ trivial trivial h
    rw [List.cons.injEq, List.append_cancel_left_eq] at h₁
    obtain ⟨hcc', hrest⟩ := hc hc' hr hr' h₁.2
    exact ⟨.filter halike hcc', hrest⟩
  · rw [text_index] at h
    obtain ⟨_, h₁⟩ := hinner he₁ trivial trivial h
    simp at h₁

lemma index_wholeTold {e : TableExpression} {limit : Int} (he : e.WellFormed)
    (hinner : e.InnerTold) : (index e limit).WholeTold := by
  intro e' r r' he' _ hr' h
  rw [text_index] at h
  rcases he'.shape_of_inner he h with hcall' | ⟨e₁, c', rfl, he₁, _⟩ | ⟨e₁, limit', rfl, he₁⟩
  · rw [← innerText_call hcall'] at h
    obtain ⟨_, rfl⟩ := hinner he' trivial trivial h
    exact absurd hr' (not_follows_isClose (.inr rfl))
  · rw [text_filter] at h
    obtain ⟨_, h₁⟩ := hinner he₁ trivial trivial h
    simp at h₁
  · rw [text_index] at h
    obtain ⟨halike, h₁⟩ := hinner he₁ trivial trivial h
    simp only [List.cons.injEq, true_and] at h₁
    -- a limit is written as a number is, and ends with the bracket
    obtain ⟨hlimit, hrest⟩ := number_append_inj (m := .int limit) (n := .int limit')
      (follows_cons.mpr (by decide)) (follows_cons.mpr (by decide)) h₁
    obtain rfl : limit = limit' := Int.repr_inj.mp hlimit
    exact ⟨.index halike, (List.cons.inj hrest).2⟩

lemma toList_told {field : String} (hf : IsName field) :
    Told String.toList IsName Eq (Follows (!Manifest.isNameChar ·)) field :=
  fun _ _ _ hg hr hr' h => hf.append_inj hg hr hr' h

/-- What follows a field of a projection: another one, or the end of the list. -/
lemma mark_fields (fs : List String) (r : List Char) :
    mark (fs.flatMap (fun f => [',', ' '] ++ f.toList) ++ ']' :: r) = some ',' ∨
      mark (fs.flatMap (fun f => [',', ' '] ++ f.toList) ++ ']' :: r) = some ']' := by
  cases fs with
  | nil => exact .inr (mark_cons (by decide) _)
  | cons f fs => exact .inl (mark_cons (by decide) _)

/-- A list of fields is no condition. -/
lemma fields_ne_condition {f : String} (hf : IsName f) {c : Condition} (hc : c.WellFormed)
    {fs : List String} {r r' : List Char} :
    f.toList ++ (fs.flatMap (fun f => [',', ' '] ++ f.toList) ++ ']' :: r) ≠ c.text ++ r' := by
  intro h
  have hfields := mark_fields fs r
  rw [← hf.mark_append, h] at hfields
  rcases hc.mark_text r' with hmark | hmark
  all_goals simp [hmark] at hfields

lemma projection_wholeTold {e : TableExpression} {f : String} {fs : List String}
    (hf : ∀ g ∈ f :: fs, IsName g) (hinner : e.InnerTold) :
    (projection e (f :: fs)).WholeTold := by
  intro e' r r' he' _ _ h
  rw [text_projection] at h
  rcases he'.shape_of_bracket h with ⟨e₁, f', fs', rfl, he₁, hf'⟩ | ⟨e₁, c', rfl, _, hc'⟩
  · rw [text_projection, List.cons.injEq] at h
    obtain ⟨hf, hfs⟩ := List.forall_mem_cons.mp hf
    obtain ⟨hf', hfs'⟩ := List.forall_mem_cons.mp hf'
    have hlimit : ∀ (gs : List String) (r : List Char), Follows (!Manifest.isNameChar ·)
        (gs.flatMap (fun g => [',', ' '] ++ g.toList) ++ ']' :: r) := by
      intro gs r
      cases gs with
      | nil => exact follows_name (by decide) _
      | cons g gs => exact follows_name (by decide) _
    obtain ⟨rfl, h₁⟩ := hf.append_inj hf' (hlimit fs _) (hlimit fs' _) h.2
    obtain ⟨hrow, h₂⟩ := told_row (fun s => follows_name (by decide) _)
      (fun g hg => toList_told (hfs g hg)) hfs' (follows_name (by decide) _)
      (follows_name (by decide) _) (by simp) (by simp) h₁
    rw [List.forall₂_eq_eq_eq] at hrow
    subst hrow
    rw [List.cons.injEq, List.append_cancel_left_eq] at h₂
    obtain ⟨halike, hrest⟩ := hinner he₁ trivial trivial h₂.2
    exact ⟨.projection halike, hrest⟩
  · rw [text_question, List.cons.injEq] at h
    exact absurd h.2 (fields_ne_condition (hf f (by simp)) hc')

lemma question_wholeTold {e : TableExpression} {c : Condition} (hc : c.WellFormed)
    (hinner : e.InnerTold) : (question e c).WholeTold := by
  intro e' r r' he' _ _ h
  rw [text_question] at h
  rcases he'.shape_of_bracket h with ⟨e₁, f', fs', rfl, _, hf'⟩ | ⟨e₁, c', rfl, he₁, hc'⟩
  · rw [text_projection, List.cons.injEq] at h
    exact absurd h.2.symm (fields_ne_condition (hf' f' (by simp)) hc)
  · rw [text_question, List.cons.injEq] at h
    obtain ⟨hcc', h₁⟩ := hc.told.2 hc' (follows_cons.mpr (by decide))
      (follows_cons.mpr (by decide)) h.2
    rw [List.cons.injEq, List.append_cancel_left_eq] at h₁
    obtain ⟨halike, hrest⟩ := hinner he₁ trivial trivial h₁.2
    exact ⟨.question halike hcc', hrest⟩

/-- Every well-formed expression is told apart, inside of another one and as a whole. -/
lemma WellFormed.told {e : TableExpression} (he : e.WellFormed) : e.InnerTold ∧ e.WholeTold := by
  have hcalls : ∀ {e : TableExpression}, e.WellFormed → e.isCall = true → e.CallTold →
      e.InnerTold ∧ e.WholeTold := by
    intro e he hcall htold
    have hinner := htold.innerTold hcall he
    exact ⟨hinner, call_wholeTold he hcall hinner⟩
  have hothers : ∀ {e : TableExpression}, e.isCall = false → e.WholeTold →
      e.InnerTold ∧ e.WholeTold := fun hcall htold => ⟨htold.innerTold hcall, htold⟩
  -- a call is told apart inside of others first, and anything else as a whole
  induction he with
  | invocation hd hc => exact hcalls (.invocation hd hc) rfl (invocation_callTold hd hc)
  | sort he hf hd ih => exact hcalls (.sort he hf hd) rfl (sort_callTold hf hd ih.1)
  | aggregation he hfn hf ih =>
    exact hcalls (.aggregation he hfn hf) rfl (aggregation_callTold he hfn hf ih.1 ih.2)
  | filter he hc ih => exact hothers rfl (filter_wholeTold he ih.1 hc.told.2)
  | index limit he ih => exact hothers rfl (index_wholeTold he ih.1)
  | projection he hne hf ih =>
    obtain ⟨f, fs, rfl⟩ := List.exists_cons_of_ne_nil hne
    exact hothers rfl (projection_wholeTold hf ih.1)
  | question he hc ih => exact hothers rfl (question_wholeTold hc ih.1)

end TableExpression

/-! ### Programs that are alike have the same text -/

lemma Value.Alike.render_eq {v w : Value} (h : v.Alike w) : v.render = w.render := by
  cases h with
  | refl => rfl
  | number h => exact h

namespace Condition

lemma Alike.isCompound_eq {c d : Condition} (h : c.Alike d) : c.isCompound = d.isCompound := by
  cases h with
  | _ => rfl

lemma renderOperands_eq {cs ds : List Condition} (h : List.Forall₂ Alike cs ds)
    (hrender : ∀ c ∈ cs, ∀ d, c.Alike d → c.render = d.render) :
    renderOperands cs = renderOperands ds := by
  induction h with
  | nil => rfl
  | @cons c d cs ds hcd _ ih =>
    obtain ⟨hc, hcs⟩ := List.forall_mem_cons.mp hrender
    rw [renderOperands, renderOperands, hcd.isCompound_eq, hc d hcd, ih hcs]

lemma WellFormed.render_eq {c : Condition} (hc : c.WellFormed) :
    ∀ d, c.Alike d → c.render = d.render := by
  induction hc with
  | atom hf hop hv =>
    rintro _ ⟨hvw⟩
    rw [render, render, hvw.render_eq]
  | all hlen _ ih =>
    rintro _ ⟨⟩
    rename_i hds
    rw [render, render, renderOperands_eq hds ih]
  | any hlen _ ih =>
    rintro _ ⟨⟩
    rename_i hds
    rw [render, render, renderOperands_eq hds ih]
  | aggregate =>
    rintro _ ⟨⟩
    rename_i hn
    rw [render, render, hn]

end Condition

namespace TableExpression

lemma Alike.isCall_eq {e e' : TableExpression} (h : e.Alike e') : e.isCall = e'.isCall := by
  cases h with
  | _ => rfl

lemma Alike.render_eq {e e' : TableExpression} (h : e.Alike e') (he : e.WellFormed) :
    e.render = e'.render := by
  induction h with
  | invocation => rfl
  | filter halike hcc' ih =>
    cases he with
    | filter he hc => rw [render, render, halike.isCall_eq, ih he, hc.render_eq _ hcc']
  | projection halike ih =>
    cases he with
    | projection he => rw [render, render, halike.isCall_eq, ih he]
  | aggregation halike ih =>
    cases he with
    | aggregation he => rw [render, render, halike.isCall_eq, ih he]
  | question halike hcc' ih =>
    cases he with
    | question he hc => rw [render, render, halike.isCall_eq, ih he, hc.render_eq _ hcc']
  | sort halike ih =>
    cases he with
    | sort he => rw [render, render, halike.isCall_eq, ih he]
  | index halike ih =>
    cases he with
    | index _ he => rw [render, render, halike.isCall_eq, ih he]

end TableExpression

/-! ### Programs -/

namespace Program

lemma toList_render (p : Program) : p.render.toList = p.statement.text ++ [';'] := by
  simp [render, TableExpression.text]

/-- Two well-formed programs have the same text if and only if they are the same but for numbers
that are written alike. -/
theorem render_eq_iff_alike {p q : Program} (hp : p.WellFormed) (hq : q.WellFormed) :
    p.render = q.render ↔ p.Alike q := by
  constructor
  · intro h
    have htext := congrArg String.toList h
    rw [toList_render, toList_render] at htext
    exact ((TableExpression.WellFormed.told hp).2 hq (follows_cons.mpr (by decide))
      (follows_cons.mpr (by decide)) htext).1
  · intro h
    rw [render, render, TableExpression.Alike.render_eq h hp]

/-- Whether a text that looks like a program is in the name of a country where one of two
conditions holds. -/
def asked (n : Number) : Program where
  statement := .aggregation
    (.question
      (.sort
        (.filter (baseTable "country")
          (.any [.atom "capital" "==" (.entity "Q90" "org.wikidata:city" "\") && (a of b)"),
            .all [.atom "population" ">=" (.number n), .aggregate "count" "member" "<=" n]]))
        "population" "desc")
      (.atom "name" "contains" (.string "] of \\")))
    "count" none

lemma asked_wellFormed (n : Number) : (asked n).WellFormed := by
  have hcity : IsWord FieldType.isTypeChar "org.wikidata:city" := by decide
  have hboth : Condition.WellFormed
      (.all [.atom "population" ">=" (.number n), .aggregate "count" "member" "<=" n]) := by
    refine .all le_rfl (List.forall_mem_cons.mpr ⟨?_, List.forall_mem_singleton.mpr ?_⟩)
    · exact .atom (by decide) (by decide) trivial
    · exact .aggregate (by decide) (by decide) (by decide)
  refine .aggregation (.question (.sort (.filter ?_ (.any le_rfl ?_)) ?_ ?_) ?_) (by decide)
    (by simp)
  · exact .invocation (by decide) (by decide)
  · exact List.forall_mem_cons.mpr
      ⟨.atom (by decide) (by decide) hcity, List.forall_mem_singleton.mpr hboth⟩
  · decide
  · decide
  · exact .atom (by decide) (by decide) trivial

/-- An integer and a double of the same value are written alike, and other numbers are not. -/
theorem render_eq_iff_alike_asked :
    (asked (.int 5)).Alike (asked (.float (.ofRatio false 5 1))) ∧
      ¬ (asked (.int 5)).Alike (asked (.int 50)) :=
  ⟨(render_eq_iff_alike (asked_wellFormed _) (asked_wellFormed _)).mp (by decide +kernel),
    fun h => absurd ((render_eq_iff_alike (asked_wellFormed _) (asked_wellFormed _)).mpr h)
      (by decide +kernel)⟩

end Program

end GraphTalk
