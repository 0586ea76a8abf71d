import GraphTalk.Proofs.Conversion.Invariants
import GraphTalk.Proofs.Program.Equality

/-!
# Histories of a table

A table is called any number of times, and calls that fail are skipped. What it holds then is what
the calls that have succeeded left in it (`Reflects`): a call keeps this, and so does a run
(`reflects_after`). Later calls take nothing back (`grows_run`). Which calls fail depends on those
that succeeded before and on nothing else (`Refused`).

`lawful_after` puts this together for every history of a new table.
-/

namespace GraphTalk.Conversion

namespace Table

/-! ### Calls -/

/-- A call on a table. -/
inductive Call where
  | setName (name : String)
  | addFilter (condition : Condition)
  | addProjection (projection : Projection)
  | addVerification (condition : Condition)
  /-- The question which field a variable stands for. -/
  | fieldFor (name : String)

namespace Call

/-- The change that a call makes. A question makes none. -/
def change : Call → Change
  | setName name => .type name
  | addFilter c => .filter c
  | addProjection p => .projection p
  | addVerification c => .verification c
  | fieldFor _ => .presence

/-- The projection that a call adds. -/
def projection? (c : Call) : Option Projection := c.change.projection?

/-- The condition that a call asks for. -/
def verification? (c : Call) : Option Condition := c.change.verification?

/-- The field that a call makes a variable stand for. -/
def field? (v : String) : Call → Option String
  | addProjection p => if p.name = v then some p.field else none
  | _ => none

end Call

/-- The table after a call, unless the call fails. -/
def call (t : Table) : Call → Except Unsupported Table
  | .setName name => t.setName name
  | .addFilter c => .ok (t.addFilter c)
  | .addProjection p => t.addProjection p
  | .addVerification c => t.addVerification c
  | .fieldFor _ => .ok t

/-- The table after a call, which is skipped if it fails. -/
def next (t : Table) (c : Call) : Table :=
  match t.call c with
  | .ok t' => t'
  | .error _ => t

/-- The calls that succeed when all are made one after the other. -/
def successes (t : Table) : List Call → List Call
  | [] => []
  | c :: cs => match t.call c with
    | .ok t' => c :: t'.successes cs
    | .error _ => t.successes cs

/-- A new table of a subject after calls, one after the other. -/
def after (s : String) (cs : List Call) : Table := cs.foldl next { subject := s }

/-- The calls on a new table of a subject that succeed. -/
def done (s : String) (cs : List Call) : List Call := successes { subject := s } cs

variable {s v f : String} {t t' : Table} {c : Call} {cs ds : List Call} {e : Unsupported}

/-! ### One call -/

lemma call_eq_ok_iff : t.call c = .ok t' ↔ t.Admits c.change ∧ t' = t.changed c.change := by
  have hcall : t.call c = t.change c.change := by cases c <;> rfl
  rw [hcall, change_eq_ok_iff]

lemma next_of_ok (h : t.call c = .ok t') : t.next c = t' := by rw [next, h]

lemma next_of_error (h : t.call c = .error e) : t.next c = t := by rw [next, h]

lemma setName_eq_error_iff {name : String} : t.setName name = .error e ↔
    t.typed = true ∧ t.name ≠ name ∧ e = .conflictingDomains t.subject t.name name := by
  unfold setName
  split
  · rename_i hconflict
    rw [Bool.and_eq_true, bne_iff_ne] at hconflict
    rw [Except.error.injEq]
    exact ⟨fun he => ⟨hconflict.1, hconflict.2, he.symm⟩, fun he => he.2.2.symm⟩
  · rename_i hfree
    rw [Bool.and_eq_true, bne_iff_ne] at hfree
    exact ⟨nofun, fun he => absurd ⟨he.1, he.2.1⟩ hfree⟩

/-- What is done only while nothing is in a list fails once something is. -/
lemma whileEmpty_eq_error_iff {α : Type} {xs : List α} {e' : Unsupported} :
    (if xs.isEmpty then Except.ok t else .error e') = .error e ↔ xs ≠ [] ∧ e = e' := by
  cases xs with
  | nil => exact ⟨nofun, fun he => absurd rfl he.1⟩
  | cons x xs =>
    constructor
    · intro he
      exact ⟨List.cons_ne_nil x xs, (Except.error.inj he).symm⟩
    · rintro ⟨-, rfl⟩
      rfl

lemma addProjection_eq_error_iff {p : Projection} : t.addProjection p = .error e ↔
    t.verifications ≠ [] ∧ e = .projectionOnVerified t.subject p :=
  whileEmpty_eq_error_iff

lemma addVerification_eq_error_iff {c : Condition} : t.addVerification c = .error e ↔
    t.projections ≠ [] ∧ e = .verificationOnProjected t.subject c :=
  whileEmpty_eq_error_iff

/-! ### Later tables hold more -/

/-- A table holds all that an earlier one does, in the same order, and keeps its name. -/
structure Grows (t t' : Table) : Prop where
  projections : t.projections <+: t'.projections
  filters : t.filters <+: t'.filters
  verifications : t.verifications <+: t'.verifications
  named : t.typed = true → t'.typed = true ∧ t'.name = t.name

lemma Grows.refl (t : Table) : t.Grows t :=
  ⟨List.prefix_rfl, List.prefix_rfl, List.prefix_rfl, fun h => ⟨h, rfl⟩⟩

lemma Grows.trans {u : Table} (h : t.Grows t') (h' : t'.Grows u) : t.Grows u where
  projections := h.projections.trans h'.projections
  filters := h.filters.trans h'.filters
  verifications := h.verifications.trans h'.verifications
  named := by
    intro htyped
    obtain ⟨htyped', hname⟩ := h.named htyped
    obtain ⟨hlast, hname'⟩ := h'.named htyped'
    exact ⟨hlast, hname'.trans hname⟩

lemma grows_changed {d : Change} (h : t.Admits d) : t.Grows (t.changed d) where
  projections := changed_projections t d ▸ List.prefix_append _ _
  filters := t.filters_prefix_changed d
  verifications := changed_verifications t d ▸ List.prefix_append _ _
  named := changed_typed h

lemma grows_next (t : Table) (c : Call) : t.Grows (t.next c) := by
  cases h : t.call c with
  | ok t' =>
    obtain ⟨hadmits, rfl⟩ := call_eq_ok_iff.mp h
    rw [next_of_ok h]
    exact grows_changed hadmits
  | error e =>
    rw [next_of_error h]
    exact .refl t

lemma grows_run (t : Table) (cs : List Call) : t.Grows (cs.foldl next t) := by
  induction cs generalizing t with
  | nil => exact .refl t
  | cons c cs ih => exact (t.grows_next c).trans (ih _)

/-- The field that a variable stands for stays the same. -/
lemma Grows.fieldFor? (h : t.Grows t') (hf : t.fieldFor? v = some f) : t'.fieldFor? v = some f := by
  obtain ⟨more, hmore⟩ := h.projections
  obtain ⟨p, hp, rfl⟩ := Option.map_eq_some_iff.mp hf
  rw [Table.fieldFor?, ← hmore, List.find?_append, hp]
  rfl

/-! ### What the calls have left -/

/-- A table of a subject holds what calls that succeeded have left in it. -/
structure Reflects (s : String) (ds : List Call) (t : Table) : Prop where
  subject : t.subject = s
  projections : t.projections = ds.filterMap Call.projection?
  verifications : t.verifications = ds.filterMap Call.verification?
  exclusive : t.projections = [] ∨ t.verifications = []
  named : ∀ name, .setName name ∈ ds → t.typed = true ∧ t.name = name
  unnamed : (∀ name, .setName name ∉ ds) → t.typed = false ∧ t.name = defaultTable
  kept : ∀ c, .addFilter c ∈ ds → ∃ g ∈ t.filters, g = c ∨ g.Equal c
  given : ∀ g ∈ t.filters, .addFilter g ∈ ds
  distinct : t.Distinct

lemma reflects_new (s : String) : Reflects s [] { subject := s } where
  subject := rfl
  projections := rfl
  verifications := rfl
  exclusive := .inl rfl
  named := nofun
  unnamed := fun _ => ⟨rfl, rfl⟩
  kept := nofun
  given := nofun
  distinct := .nil

lemma exclusive_changed {d : Change} (hadmits : t.Admits d)
    (h : t.projections = [] ∨ t.verifications = []) :
    (t.changed d).projections = [] ∨ (t.changed d).verifications = [] := by
  rw [changed_projections, changed_verifications]
  cases d with
  | projection p =>
    have hnone : t.verifications = [] := hadmits
    exact .inr (by rw [hnone]; rfl)
  | verification v =>
    have hnone : t.projections = [] := hadmits
    exact .inl (by rw [hnone]; rfl)
  | _ => simpa [Change.projection?, Change.verification?] using h

/-- One more call that succeeds leaves its own. -/
lemma Reflects.step (h : Reflects s ds t) (hc : t.call c = .ok t') :
    Reflects s (ds ++ [c]) t' := by
  obtain ⟨hadmits, rfl⟩ := call_eq_ok_iff.mp hc
  exact
    { subject := by rw [changed_subject, h.subject]
      projections := by rw [changed_projections, h.projections, filterMap_concat]; rfl
      verifications := by rw [changed_verifications, h.verifications, filterMap_concat]; rfl
      exclusive := exclusive_changed hadmits h.exclusive
      named := by
        intro name hname
        rcases List.mem_append.mp hname with hname | hname
        · obtain ⟨htyped, rfl⟩ := h.named name hname
          exact changed_typed hadmits htyped
        · obtain rfl := List.mem_singleton.mp hname
          exact ⟨rfl, rfl⟩
      unnamed := by
        intro hnone
        have hchange : ∀ name, c.change ≠ .type name := by
          intro name hname
          cases c with
          | setName name => exact hnone name (by simp)
          | _ => cases hname
        obtain ⟨htyped, hname⟩ := changed_untyped (t := t) hchange
        rw [htyped, hname]
        exact h.unnamed fun name hmem => hnone name (List.mem_append_left _ hmem)
      kept := by
        intro g hg
        rcases List.mem_append.mp hg with hg | hg
        · obtain ⟨g', hg', heq⟩ := h.kept g hg
          exact ⟨g', filters_subset_changed t _ hg', heq⟩
        · obtain rfl := List.mem_singleton.mp hg
          obtain ⟨g', hg', heq⟩ := t.exists_mem_addFilter g
          exact ⟨g', hg', heq.imp_right Condition.same_iff_equal.mp⟩
      given := by
        intro g hg
        rcases mem_filters_changed hg with hg | hchange
        · exact List.mem_append_left _ (h.given g hg)
        · cases c with
          | addFilter g' =>
            obtain rfl := Change.filter.inj hchange
            simp
          | _ => cases hchange
      distinct := h.distinct.changed _ }

/-- A table after calls holds what those of them that succeeded have left. -/
lemma Reflects.run (h : Reflects s ds t) (cs : List Call) :
    Reflects s (ds ++ t.successes cs) (cs.foldl next t) := by
  induction cs generalizing t ds with
  | nil => simpa [successes] using h
  | cons c cs ih =>
    rw [List.foldl_cons, successes]
    cases hc : t.call c with
    | ok t' =>
      rw [next_of_ok hc]
      simpa using ih (h.step hc)
    | error e =>
      rw [next_of_error hc]
      exact ih h

lemma reflects_after (s : String) (cs : List Call) : Reflects s (done s cs) (after s cs) :=
  (reflects_new s).run cs

/-! ### What is read off the calls -/

lemma Call.projection?_eq_some_iff {p : Projection} :
    c.projection? = some p ↔ c = .addProjection p := by
  cases c <;> simp [projection?, change, Change.projection?]

lemma Call.verification?_eq_some_iff {v : Condition} :
    c.verification? = some v ↔ c = .addVerification v := by
  cases c <;> simp [verification?, change, Change.verification?]

/-- Something is read off calls exactly if there is a call that it is read off. -/
lemma filterMap_ne_nil_iff {α : Type} {read : Call → Option α} {made : α → Call}
    (hread : ∀ {c a}, read c = some a ↔ c = made a) :
    ds.filterMap read ≠ [] ↔ ∃ a, made a ∈ ds := by
  constructor
  · intro hne
    obtain ⟨a, ha⟩ := List.exists_mem_of_ne_nil _ hne
    obtain ⟨c, hc, ha⟩ := List.mem_filterMap.mp ha
    exact ⟨a, hread.mp ha ▸ hc⟩
  · rintro ⟨a, ha⟩
    exact List.ne_nil_of_mem (List.mem_filterMap.mpr ⟨_, ha, hread.mpr rfl⟩)

lemma Reflects.projections_ne_nil_iff (h : Reflects s ds t) :
    t.projections ≠ [] ↔ ∃ p, .addProjection p ∈ ds := by
  rw [h.projections]
  exact filterMap_ne_nil_iff Call.projection?_eq_some_iff

lemma Reflects.verifications_ne_nil_iff (h : Reflects s ds t) :
    t.verifications ≠ [] ↔ ∃ v, .addVerification v ∈ ds := by
  rw [h.verifications]
  exact filterMap_ne_nil_iff Call.verification?_eq_some_iff

lemma Reflects.typed_iff (h : Reflects s ds t) :
    t.typed = true ↔ .setName t.name ∈ ds := by
  constructor
  · intro htyped
    by_contra hnone
    have hunnamed : ∀ name, .setName name ∉ ds := by
      intro name hname
      obtain ⟨-, rfl⟩ := h.named name hname
      exact hnone hname
    rw [(h.unnamed hunnamed).1] at htyped
    cases htyped
  · exact fun hname => (h.named _ hname).1

/-- A variable stands for the field of the first call that says so. -/
lemma Reflects.fieldFor?_eq (h : Reflects s ds t) :
    t.fieldFor? v = ds.findSome? (Call.field? v) := by
  rw [fieldFor?, h.projections]
  clear h
  induction ds with
  | nil => rfl
  | cons c ds ih =>
    cases c with
    | addProjection p =>
      by_cases hp : p.name = v
      · simp [Call.projection?, Call.change, Change.projection?, Call.field?, hp]
      · simpa [Call.projection?, Call.change, Change.projection?, Call.field?, hp] using ih
    | _ => exact ih

/-! ### Refusals -/

/-- Why a call fails after calls that have succeeded. -/
inductive Refused (s : String) (ds : List Call) : Call → Unsupported → Prop where
  /-- The table has another name. -/
  | setName {old new : String} (h : .setName old ∈ ds) (hne : old ≠ new) :
      Refused s ds (.setName new) (.conflictingDomains s old new)
  /-- Something is asked for. -/
  | addProjection {p : Projection} {c : Condition} (h : .addVerification c ∈ ds) :
      Refused s ds (.addProjection p) (.projectionOnVerified s p)
  /-- A variable stands for a field. -/
  | addVerification {c : Condition} {p : Projection} (h : .addProjection p ∈ ds) :
      Refused s ds (.addVerification c) (.verificationOnProjected s c)

lemma Reflects.call_eq_error_iff (h : Reflects s ds t) :
    t.call c = .error e ↔ Refused s ds c e := by
  obtain rfl := h.subject
  constructor
  · intro hc
    cases c with
    | setName new =>
      obtain ⟨htyped, hne, rfl⟩ := setName_eq_error_iff.mp hc
      exact .setName (h.typed_iff.mp htyped) hne
    | addProjection p =>
      obtain ⟨hne, rfl⟩ := addProjection_eq_error_iff.mp hc
      obtain ⟨v, hv⟩ := h.verifications_ne_nil_iff.mp hne
      exact .addProjection hv
    | addVerification v =>
      obtain ⟨hne, rfl⟩ := addVerification_eq_error_iff.mp hc
      obtain ⟨p, hp⟩ := h.projections_ne_nil_iff.mp hne
      exact .addVerification hp
    | _ => cases hc
  · intro hc
    cases hc with
    | setName hold hne =>
      obtain ⟨htyped, rfl⟩ := h.named _ hold
      exact setName_eq_error_iff.mpr ⟨htyped, hne, rfl⟩
    | addProjection hv =>
      exact addProjection_eq_error_iff.mpr ⟨h.verifications_ne_nil_iff.mpr ⟨_, hv⟩, rfl⟩
    | addVerification hp =>
      exact addVerification_eq_error_iff.mpr ⟨h.projections_ne_nil_iff.mpr ⟨_, hp⟩, rfl⟩

/-! ### Filters -/

/-- Calls that add a filter never fail. -/
lemma mem_successes_addFilter {g : Condition} (h : .addFilter g ∈ cs) :
    .addFilter g ∈ t.successes cs := by
  induction cs generalizing t with
  | nil => cases h
  | cons c cs ih =>
    rw [successes]
    rcases List.mem_cons.mp h with rfl | h
    · exact List.mem_cons_self
    · split
      · exact List.mem_cons_of_mem _ (ih h)
      · exact ih h

/-! ### Every history -/

/-- What holds of a new table of a subject after calls. -/
structure Lawful (s : String) (cs : List Call) : Prop where
  /-- The calls that fail next are those that an earlier one excludes. -/
  refused_iff (c : Call) (e : Unsupported) :
    (after s cs).call c = .error e ↔ Refused s (done s cs) c e
  /-- A call that fails leaves the table as it was. -/
  unchanged (c : Call) (e : Unsupported) (h : (after s cs).call c = .error e) :
    after s (cs ++ [c]) = after s cs
  /-- Nothing is asked of a table in which a variable stands for a field. -/
  exclusive : (after s cs).projections = [] ∨ (after s cs).verifications = []
  /-- A name that was set stays, whatever is called later. -/
  named (name : String) (h : .setName name ∈ done s cs) (later : List Call) :
    (after s (cs ++ later)).name = name
  unnamed (h : ∀ name, .setName name ∉ done s cs) : (after s cs).name = defaultTable
  /-- Lists only grow at their ends. -/
  grows (later : List Call) : (after s cs).Grows (after s (cs ++ later))
  projections : (after s cs).projections = (done s cs).filterMap Call.projection?
  verifications : (after s cs).verifications = (done s cs).filterMap Call.verification?
  /-- No two filters are equal. -/
  distinct : (after s cs).filters.Pairwise fun f g => ¬ f.Equal g ∧ ¬ g.Equal f
  /-- Every filter that was ever added is there, or an equal one is. -/
  kept (c : Condition) (h : .addFilter c ∈ cs) :
    (∃ f ∈ (after s cs).filters, f = c ∨ f.Equal c) ∧
      (c.Definite → ∃ f ∈ (after s cs).filters, f.Equal c)
  given (f : Condition) (h : f ∈ (after s cs).filters) : .addFilter f ∈ cs
  /-- A variable stands for the field of the first projection that was added for it. -/
  field (v : String) : (after s cs).fieldFor? v = (done s cs).findSome? (Call.field? v)
  /-- A field that a variable stands for stays, whatever is called later. -/
  field_stays (v f : String) (h : (after s cs).fieldFor? v = some f) (later : List Call) :
    (after s (cs ++ later)).fieldFor? v = some f

lemma after_append (s : String) (cs later : List Call) :
    after s (cs ++ later) = later.foldl next (after s cs) :=
  List.foldl_append

lemma successes_subset (t : Table) (cs : List Call) : t.successes cs ⊆ cs := by
  induction cs generalizing t with
  | nil => exact List.Subset.refl _
  | cons c cs ih =>
    rw [successes]
    split
    · exact List.cons_subset_cons _ (ih _)
    · exact List.subset_cons_of_subset _ (ih t)

/-- After any calls a new table is lawful. -/
theorem lawful_after (s : String) (cs : List Call) : Lawful s cs := by
  have h := reflects_after s cs
  have hgrows (later : List Call) : (after s cs).Grows (after s (cs ++ later)) :=
    after_append s cs later ▸ grows_run _ later
  exact
    { refused_iff := fun c e => h.call_eq_error_iff
      unchanged := fun c e hc => by
        rw [after_append, List.foldl_cons, next_of_error hc, List.foldl_nil]
      exclusive := h.exclusive
      named := fun name hname later => by
        obtain ⟨htyped, rfl⟩ := h.named name hname
        exact ((hgrows later).named htyped).2
      unnamed := fun hnone => (h.unnamed hnone).2
      grows := hgrows
      projections := h.projections
      verifications := h.verifications
      distinct := h.distinct.imp fun hfg => by
        rw [← Bool.not_eq_true, Condition.same_iff_equal] at hfg
        exact ⟨hfg, fun hgf => hfg hgf.symm⟩
      kept := fun c hc => by
        obtain ⟨f, hf, hfc⟩ := h.kept c (mem_successes_addFilter hc)
        refine ⟨⟨f, hf, hfc⟩, fun hdefinite => ⟨f, hf, ?_⟩⟩
        rcases hfc with rfl | hfc
        · exact hdefinite.equal_self
        · exact hfc
      given := fun f hf => successes_subset _ _ (h.given f hf)
      field := fun v => h.fieldFor?_eq
      field_stays := fun v f hf later => (hgrows later).fieldFor? hf }

end Table

namespace Atlas

open Table

/-- The condition of having a number of inhabitants. -/
def inhabitedBy (n : Number) : Condition := .atom "population" "==" (.number n)

/-- Calls of all kinds, of which the third and the fifth fail. -/
def interleaved : List Call :=
  [.addFilter (inhabitedBy (.int 5)), .setName "country", .setName "city",
    .addProjection ⟨"c", "continent"⟩, .addVerification (inhabitedBy (.int 5)),
    .addProjection ⟨"c", "capital"⟩, .addFilter (inhabitedBy (.float (.ofRatio false 5 1))),
    .fieldFor "c"]

lemma done_interleaved : done "?x" interleaved =
    [.addFilter (inhabitedBy (.int 5)), .setName "country", .addProjection ⟨"c", "continent"⟩,
      .addProjection ⟨"c", "capital"⟩, .addFilter (inhabitedBy (.float (.ofRatio false 5 1))),
      .fieldFor "c"] :=
  rfl

/-- Of two names and of two fields of one variable the first stays, and what is asked for after them
is refused. Five is one filter, as an integer and as a double. -/
theorem lawful_after_interleaved :
    let t := after "?x" interleaved
    let asked : Condition := inhabitedBy (.int 5)
    t.name = "country" ∧ t.fieldFor? "c" = some "continent" ∧
    t.call (.addVerification asked) = .error (.verificationOnProjected "?x" asked) ∧
    after "?x" (interleaved ++ [.addVerification asked]) = t ∧
    (∃ f ∈ t.filters, f.Equal (inhabitedBy (.float (.ofRatio false 5 1)))) ∧
    t.filters.length = 1 := by
  intro t asked
  have h := lawful_after "?x" interleaved
  have hname := h.named "country" (by simp [done_interleaved]) []
  rw [List.append_nil] at hname
  have hfield : t.fieldFor? "c" = some "continent" := by
    rw [h.field, done_interleaved]
    rfl
  have hprojected : Call.addProjection ⟨"c", "continent"⟩ ∈ done "?x" interleaved := by
    simp [done_interleaved]
  have hrefused := (h.refused_iff (.addVerification asked) _).mpr (.addVerification hprojected)
  have hdefinite : (inhabitedBy (.float (.ofRatio false 5 1))).Definite :=
    .atom (by rw [Value.Definite]; decide)
  exact ⟨hname, hfield, hrefused, h.unchanged _ _ hrefused,
    (h.kept _ (by simp [interleaved])).2 hdefinite, by decide +kernel⟩

end Atlas

end GraphTalk.Conversion
