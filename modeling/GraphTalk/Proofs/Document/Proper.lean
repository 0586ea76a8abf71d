import GraphTalk.Document.Access
import GraphTalk.Proofs.Document.Numerals

/-!
# Proper documents

What can be read as a document: no name occurs twice in an object, and doubles have the form that
rounding gives them. Whatever is read is proper (`isProper_of_parse?`), and so is what is reached
inside a proper document.
-/

namespace GraphTalk.Document

/-- A document that can be read: no name occurs twice in an object, and all numbers are proper. -/
inductive IsProper : Document → Prop
  | null : IsProper .null
  | bool (b : Bool) : IsProper (.bool b)
  | number {n : Number} (h : n.IsProper) : IsProper (.number n)
  | text (s : String) : IsProper (.text s)
  | array {items : List Document} (h : ∀ x ∈ items, IsProper x) : IsProper (.array items)
  | object {members : List (String × Document)} (hnames : (members.map Prod.fst).Nodup)
      (h : ∀ m ∈ members, IsProper m.2) : IsProper (.object members)

/-! ### Members -/

section

variable {α : Type} {members : List (String × α)} {name : String}

lemma setMember_of_not_mem (value : α) (h : name ∉ members.map Prod.fst) :
    setMember members name value = members ++ [(name, value)] := by
  induction members with
  | nil => rfl
  | cons m rest ih =>
    obtain ⟨hname, hrest⟩ : name ≠ m.1 ∧ name ∉ rest.map Prod.fst := by simpa using h
    simp [setMember, hname.symm, ih hrest]

/-- The names that there are when one is set. -/
lemma map_fst_setMember (members : List (String × α)) (name : String) (value : α) :
    (setMember members name value).map Prod.fst =
      if name ∈ members.map Prod.fst then members.map Prod.fst
      else members.map Prod.fst ++ [name] := by
  induction members with
  | nil => rfl
  | cons m rest ih =>
    by_cases hname : m.1 = name
    · simp [setMember, hname]
    · simp only [setMember, beq_iff_eq, hname, if_false, List.map_cons, ih, List.mem_cons,
        Ne.symm hname, false_or]
      split <;> rfl

lemma lookup_cons_eq (members : List (String × α)) (name other : String) (value : α) :
    List.lookup other ((name, value) :: members) =
      if other = name then some value else members.lookup other := by
  by_cases hother : other = name
  · simp [hother]
  · simp [List.lookup_cons, hother, beq_eq_false_iff_ne.mpr hother]

/-- What is found under a name when a member is set. -/
lemma lookup_setMember (members : List (String × α)) (name other : String) (value : α) :
    (setMember members name value).lookup other =
      if other = name then some value else members.lookup other := by
  induction members with
  | nil => exact lookup_cons_eq [] name other value
  | cons m rest ih =>
    obtain ⟨first, _⟩ := m
    simp only [setMember, beq_iff_eq]
    by_cases hfirst : first = name
    · rw [if_pos hfirst, hfirst, lookup_cons_eq, lookup_cons_eq]
      split <;> rfl
    · rw [if_neg hfirst, lookup_cons_eq, lookup_cons_eq, ih]
      by_cases hother : other = first
      · rw [if_pos hother, if_pos hother, if_neg (hother ▸ hfirst)]
      · rw [if_neg hother, if_neg hother]

lemma nodup_setMember (value : α) (h : (members.map Prod.fst).Nodup) :
    ((setMember members name value).map Prod.fst).Nodup := by
  rw [map_fst_setMember]
  split
  · exact h
  · rename_i hname
    exact List.nodup_append.mpr ⟨h, by simp, by rintro _ ha _ hb rfl; simp_all⟩

lemma mem_of_mem_setMember {value : α} {m : String × α} (h : m ∈ setMember members name value) :
    m ∈ members ∨ m.2 = value := by
  induction members with
  | nil => exact .inr (by simp_all [setMember])
  | cons n rest ih =>
    simp only [setMember] at h
    split at h
    · rcases List.mem_cons.mp h with rfl | h
      · exact .inr rfl
      · exact .inl (List.mem_cons_of_mem _ h)
    · rcases List.mem_cons.mp h with rfl | h
      · exact .inl List.mem_cons_self
      · exact (ih h).imp (List.mem_cons_of_mem _) id

end

/-- Members with different names make the object that they are. -/
lemma ofMembers_of_nodup {members : List (String × Document)} (h : (members.map Prod.fst).Nodup) :
    ofMembers members = .object members := by
  have hfold : ∀ (done rest : List (String × Document)), ((done ++ rest).map Prod.fst).Nodup →
      rest.foldl (fun ms m => setMember ms m.1 m.2) done = done ++ rest := by
    intro done rest
    induction rest generalizing done with
    | nil => simp
    | cons m rest ih =>
      intro hnodup
      have hnew : m.1 ∉ done.map Prod.fst := by
        rw [List.map_append, List.map_cons, List.nodup_append] at hnodup
        exact fun hmem => hnodup.2.2 _ hmem _ List.mem_cons_self rfl
      rw [List.foldl_cons, setMember_of_not_mem _ hnew, ih _ (by simpa using hnodup)]
      simp
  rw [ofMembers, hfold [] members h, List.nil_append]

/-- An object with one member is proper if its value is. -/
lemma IsProper.single {d : Document} (hd : d.IsProper) (name : String) :
    (Document.object [(name, d)]).IsProper :=
  .object (by simp) (List.forall_mem_singleton.mpr hd)

/-- Members with proper values make a proper object, even if a name comes twice. -/
lemma isProper_ofMembers {members : List (String × Document)} (h : ∀ m ∈ members, IsProper m.2) :
    (ofMembers members).IsProper := by
  have hfold : ∀ (rest done : List (String × Document)), (∀ m ∈ rest, IsProper m.2) →
      IsProper (.object done) →
      IsProper (.object (rest.foldl (fun ms m => setMember ms m.1 m.2) done)) := by
    intro rest
    induction rest with
    | nil => exact fun done _ hdone => hdone
    | cons m rest ih =>
      intro done hrest hdone
      obtain ⟨hm, hrest⟩ := List.forall_mem_cons.mp hrest
      cases hdone with
      | object hnames hdone =>
        refine ih _ hrest (.object (nodup_setMember _ hnames) fun n hn => ?_)
        rcases mem_of_mem_setMember hn with hn | hn
        · exact hdone n hn
        · exact hn ▸ hm
  exact hfold members [] h (.object List.nodup_nil (by simp))

/-! ### Reading -/

lemma isProper_of_readUnsigned? {negative : Bool} {cs rest : List Char} {n : Number}
    (h : readUnsigned? negative cs = some (n, rest)) : n.IsProper := by
  simp only [readUnsigned?] at h
  split at h
  · cases h
  · split at h
    · cases h
      trivial
    · cases h
      exact Double.isProper_ofDecimal _ _ _

lemma isProper_of_readNumber? {cs rest : List Char} {n : Number}
    (h : readNumber? cs = some (n, rest)) : n.IsProper := by
  rw [readNumber?.eq_def] at h
  split at h
  · split at h
    · cases h
      trivial
    · exact isProper_of_readUnsigned? h
  · obtain ⟨_, _, heq⟩ := Option.map_eq_some_iff.mp h
    cases heq
    trivial
  · obtain ⟨_, _, heq⟩ := Option.map_eq_some_iff.mp h
    cases heq
    trivial
  · exact isProper_of_readUnsigned? h

mutual

lemma isProper_of_readValue? {depth : Nat} {cs rest : List Char} {d : Document}
    (h : readValue? depth cs = some (d, rest)) : d.IsProper := by
  match depth with
  | 0 => cases h
  | depth + 1 =>
    simp only [readValue?] at h
    split at h
    · obtain ⟨_, _, heq⟩ := Option.map_eq_some_iff.mp h
      cases heq
      exact .text _
    · split at h
      · cases h
        exact .array (by simp)
      · obtain ⟨_, hitems, heq⟩ := Option.map_eq_some_iff.mp h
        cases heq
        exact .array (isProper_of_readItems? hitems)
    · split at h
      · cases h
        exact .object List.nodup_nil (by simp)
      · obtain ⟨_, hmembers, heq⟩ := Option.map_eq_some_iff.mp h
        cases heq
        exact isProper_ofMembers (isProper_of_readMembers? hmembers)
    · obtain ⟨_, _, heq⟩ := Option.map_eq_some_iff.mp h
      cases heq
      exact .null
    · obtain ⟨_, _, heq⟩ := Option.map_eq_some_iff.mp h
      cases heq
      exact .bool _
    · obtain ⟨_, _, heq⟩ := Option.map_eq_some_iff.mp h
      cases heq
      exact .bool _
    · obtain ⟨_, hnumber, heq⟩ := Option.map_eq_some_iff.mp h
      cases heq
      exact .number (isProper_of_readNumber? hnumber)

lemma isProper_of_readItems? {depth : Nat} {cs rest : List Char} {xs : List Document}
    (h : readItems? depth cs = some (xs, rest)) : ∀ x ∈ xs, IsProper x := by
  match depth with
  | 0 => cases h
  | depth + 1 =>
    simp only [readItems?] at h
    split at h
    · cases h
    · rename_i x rest' hvalue
      have hx := isProper_of_readValue? hvalue
      split at h
      · cases h
        simpa using hx
      · obtain ⟨_, hitems, heq⟩ := Option.map_eq_some_iff.mp h
        cases heq
        exact List.forall_mem_cons.mpr ⟨hx, isProper_of_readItems? hitems⟩
      · cases h

lemma isProper_of_readMembers? {depth : Nat} {cs rest : List Char}
    {ms : List (String × Document)} (h : readMembers? depth cs = some (ms, rest)) :
    ∀ m ∈ ms, IsProper m.2 := by
  match depth with
  | 0 => cases h
  | depth + 1 =>
    simp only [readMembers?] at h
    split at h
    · split at h
      · cases h
      · split at h
        · split at h
          · cases h
          · rename_i x rest' hvalue
            have hx := isProper_of_readValue? hvalue
            split at h
            · cases h
              simpa using hx
            · obtain ⟨_, hmembers, heq⟩ := Option.map_eq_some_iff.mp h
              cases heq
              exact List.forall_mem_cons.mpr ⟨hx, isProper_of_readMembers? hmembers⟩
            · cases h
        · cases h
    · cases h

end

lemma IsProper.memberD {d default v : Document} {name : String} (hd : d.IsProper)
    (hdefault : default.IsProper) (h : d.memberD name default = .ok v) : v.IsProper := by
  cases hd with
  | object hnames hmembers =>
    rename_i members
    obtain rfl : (members.lookup name).getD default = v := Except.ok.inj h
    cases hlookup : members.lookup name with
    | none => exact hdefault
    | some x =>
      obtain ⟨before, after, hsplit, -⟩ := List.lookup_eq_some_iff.mp hlookup
      exact hmembers (name, x) (by simp [hsplit])
  | _ => cases h

lemma IsProper.orElse {d other : Document} (hd : d.IsProper) (hother : other.IsProper) :
    (d.orElse other).IsProper := by
  unfold Document.orElse
  split
  · exact hd
  · exact hother

lemma IsProper.parts {d : Document} {ps : List Document} (hd : d.IsProper)
    (h : d.parts = .ok ps) : ∀ p ∈ ps, p.IsProper := by
  have htexts : ∀ {α : Type} (f : α → String) (xs : List α),
      ∀ p ∈ xs.map fun x => Document.text (f x), p.IsProper := by
    intro α f xs p hp
    obtain ⟨x, -, rfl⟩ := List.mem_map.mp hp
    exact .text _
  cases hd with
  | array hitems =>
    cases h
    exact hitems
  | object _ _ =>
    cases h
    exact htexts _ _
  | text s =>
    cases h
    exact htexts _ _
  | _ => cases h

end GraphTalk.Document
