import GraphTalk.Proofs.Result
import GraphTalk.Proofs.Sparql.Triples

/-!
# Flattening of patterns

A pattern is read from its root through joins, unions and filters down to basic patterns. Any other
operator that is met on the way is why it has no clauses. Otherwise the clauses keep everything:
every triple and every condition, in order, and a nest of unions is one union of the patterns that
it has for alternatives (`flattening_keeps_all`).
-/

namespace GraphTalk.Sparql

open Rdf

/-! ### What is met in a pattern -/

namespace Algebra

/-- Whether an operator is one that clauses are made of. -/
def isSupported : Algebra → Bool
  | .basic _ => true
  | .join _ _ => true
  | .union _ _ => true
  | .filter _ _ => true
  | _ => false

/-- The operators met from the root through joins, unions and filters: the parts of each from left
to right, and then the operator itself. -/
def reached : Algebra → List Algebra
  | .join l r => l.reached ++ r.reached ++ [.join l r]
  | .union l r => l.reached ++ r.reached ++ [.union l r]
  | .filter e p => p.reached ++ [.filter e p]
  | p => [p]

/-- The triples of a basic pattern. -/
def ownTriples : Algebra → List Triple
  | .basic ts => ts
  | _ => []

/-- The condition of a filter. -/
def ownCondition? : Algebra → Option Expression
  | .filter e _ => some e
  | _ => none

/-- The triples of all basic patterns that are met, from left to right. -/
def triples (p : Algebra) : List Triple := p.reached.flatMap ownTriples

/-- The conditions of all filters that are met, those inside a filter before its own. -/
def conditions (p : Algebra) : List Expression := p.reached.filterMap ownCondition?

/-- The first operator met that clauses cannot be made of. -/
def unsupported? (p : Algebra) : Option Algebra := p.reached.find? fun n => !n.isSupported

/-- A pattern is no union. -/
def IsLeaf (p : Algebra) : Prop := ∀ l r, p ≠ .union l r

/-- The patterns that a nest of unions chooses from, from left to right. -/
def alternatives : Algebra → List Algebra
  | .union l r => l.alternatives ++ r.alternatives
  | p => [p]

end Algebra

/-! ### What is in clauses -/

mutual

/-- A clause with all clauses inside it, at any depth. -/
def Clause.parts : Clause → List Clause
  | .basic ts => [.basic ts]
  | .union bs => branchParts bs ++ [.union bs]
  | .filter e => [.filter e]

/-- The clauses of a branch, at any depth. -/
def Branch.parts : Branch → List Clause
  | .single c => c.parts
  | .group cs => clauseParts cs

/-- The clauses of branches, at any depth. -/
def branchParts : List Branch → List Clause
  | [] => []
  | b :: bs => b.parts ++ branchParts bs

/-- Clauses with all clauses inside them, at any depth. -/
def clauseParts : List Clause → List Clause
  | [] => []
  | c :: cs => c.parts ++ clauseParts cs

end

/-- The condition of a clause that is one. -/
def Clause.condition? : Clause → Option Expression
  | .filter e => some e
  | _ => none

/-- The conditions in clauses, at any depth. -/
def clauseConditions (cs : List Clause) : List Expression :=
  (clauseParts cs).filterMap Clause.condition?

/-- A basic pattern has triples, and a union has branches to choose from. -/
inductive Clause.IsProper : Clause → Prop where
  | basic {ts : List Triple} (h : ts ≠ []) : IsProper (.basic ts)
  | union {bs : List Branch} (h : 2 ≤ bs.length) : IsProper (.union bs)
  | filter (e : Expression) : IsProper (.filter e)

section

variable {cs ds : List Clause} {bs bs' : List Branch}

@[simp] lemma clauseParts_append :
    clauseParts (cs ++ ds) = clauseParts cs ++ clauseParts ds := by
  induction cs with
  | nil => rfl
  | cons c cs ih => simp [clauseParts, ih]

@[simp] lemma branchParts_append :
    branchParts (bs ++ bs') = branchParts bs ++ branchParts bs' := by
  induction bs with
  | nil => rfl
  | cons b bs ih => simp [branchParts, ih]

@[simp] lemma clauseTriples_append :
    clauseTriples (cs ++ ds) = clauseTriples cs ++ clauseTriples ds := by
  induction cs with
  | nil => rfl
  | cons c cs ih => simp [clauseTriples, ih]

@[simp] lemma branchTriples_append :
    branchTriples (bs ++ bs') = branchTriples bs ++ branchTriples bs' := by
  induction bs with
  | nil => rfl
  | cons b bs ih => simp [branchTriples, ih]

@[simp] lemma Branch.parts_ofClauses : (ofClauses cs).parts = clauseParts cs := by
  match cs with
  | [] => rfl
  | [c] => simp [ofClauses, parts, clauseParts]
  | _ :: _ :: _ => rfl

@[simp] lemma Branch.triples_ofClauses : (ofClauses cs).triples = clauseTriples cs := by
  match cs with
  | [] => rfl
  | [c] => simp [ofClauses, triples, clauseTriples]
  | _ :: _ :: _ => rfl

end

/-! ### The shape of flattened patterns -/

mutual

/-- The clauses that a pattern is flattened to. A nest of unions has one branch for each of the
patterns that it chooses from. -/
inductive Algebra.Flattens : Algebra → List Clause → Prop where
  | nothing : Flattens (.basic []) []
  | basic {ts : List Triple} (h : ts ≠ []) : Flattens (.basic ts) [.basic ts]
  | join {l r : Algebra} {cs ds : List Clause} (hl : Flattens l cs) (hr : Flattens r ds) :
      Flattens (.join l r) (cs ++ ds)
  | filter {p : Algebra} {cs : List Clause} (e : Expression) (hp : Flattens p cs) :
      Flattens (.filter e p) (cs ++ [.filter e])
  | union {l r : Algebra} {bs : List Branch}
      (h : List.Forall₂ Algebra.IsBranch (l.alternatives ++ r.alternatives) bs) :
      Flattens (.union l r) [.union bs]

/-- The branch that a pattern becomes, which is no union itself: a clause if it is flattened to
exactly one. -/
inductive Algebra.IsBranch : Algebra → Branch → Prop where
  | single {p : Algebra} {c : Clause} (hp : p.IsLeaf) (h : Algebra.Flattens p [c]) :
      IsBranch p (.single c)
  | group {p : Algebra} {cs : List Clause} (hp : p.IsLeaf) (h : Algebra.Flattens p cs)
      (hlength : cs.length ≠ 1) : IsBranch p (.group cs)

end

namespace Algebra

variable {p l r : Algebra} {cs : List Clause}

lemma IsLeaf.isBranch (hp : p.IsLeaf) (h : p.Flattens cs) : p.IsBranch (.ofClauses cs) := by
  match cs with
  | [] => exact .group hp h (by simp)
  | [c] => exact .single hp h
  | _ :: _ :: _ => exact .group hp h (by simp)

lemma IsLeaf.alternatives_eq (hp : p.IsLeaf) : p.alternatives = [p] := by
  cases p with
  | union l r => exact absurd rfl (hp l r)
  | _ => rfl

/-! ### What can be read off a flattened pattern -/

/-- A pattern that is no union is one branch. -/
lemma IsLeaf.branches_eq (hp : p.IsLeaf) :
    p.branches = p.clauses.map fun cs => [.ofClauses cs] := by
  cases p with
  | union l r => exact absurd rfl (hp l r)
  | basic ts => rfl
  | join l r =>
    rw [branches, clauses]
    cases l.clauses with
    | error e => rfl
    | ok cs => cases r.clauses <;> rfl
  | filter e p =>
    rw [branches, clauses]
    cases p.clauses <;> rfl
  | _ => rfl

lemma clauses_filter (e : Expression) :
    (filter e p).clauses = p.clauses.map (· ++ [.filter e]) := by
  rw [clauses]
  cases p.clauses <;> rfl

/-- A property `P` of patterns with their clauses, and `Q` of patterns with their branches, that the
two recursions keep. -/
structure FlatteningLaw (P : Algebra → List Clause → Prop) (Q : Algebra → List Branch → Prop) :
    Prop where
  nothing : P (.basic []) []
  basic {ts : List Triple} (h : ts ≠ []) : P (.basic ts) [.basic ts]
  join {l r : Algebra} {cs ds : List Clause} (hl : P l cs) (hr : P r ds) :
    P (.join l r) (cs ++ ds)
  filter {p : Algebra} {cs : List Clause} (e : Expression) (hp : P p cs) :
    P (.filter e p) (cs ++ [.filter e])
  union {l r : Algebra} {bs bs' : List Branch} (hl : Q l bs) (hr : Q r bs') :
    P (.union l r) [.union (bs ++ bs')]
  /-- A pattern that is no union becomes one branch. -/
  branch {p : Algebra} {cs : List Clause} (hp : p.IsLeaf) (h : P p cs) :
    Q p [.ofClauses cs]
  /-- The branches of a union inside a union are branches of the outer one. -/
  nested {l r : Algebra} {bs bs' : List Branch} (hl : Q l bs) (hr : Q r bs') :
    Q (.union l r) (bs ++ bs')

lemma FlatteningLaw.holds {P : Algebra → List Clause → Prop} {Q : Algebra → List Branch → Prop}
    (law : FlatteningLaw P Q) (p : Algebra) :
    (∀ cs, p.clauses = .ok cs → P p cs) ∧ ∀ bs, p.branches = .ok bs → Q p bs := by
  -- the branches of a pattern that is no union are read off its clauses
  have hleaf : ∀ {p : Algebra}, p.IsLeaf → (∀ cs, p.clauses = .ok cs → P p cs) →
      (∀ cs, p.clauses = .ok cs → P p cs) ∧ ∀ bs, p.branches = .ok bs → Q p bs := by
    intro p hp hclauses
    refine ⟨hclauses, fun bs hbs => ?_⟩
    rw [hp.branches_eq] at hbs
    obtain ⟨cs, hcs, rfl⟩ := map_eq_ok_iff.mp hbs
    exact law.branch hp (hclauses cs hcs)
  induction p with
  | basic ts =>
    refine hleaf nofun fun cs hcs => ?_
    cases ts with
    | nil =>
      obtain rfl : [] = cs := by simpa [clauses] using hcs
      exact law.nothing
    | cons t ts =>
      obtain rfl : [.basic (t :: ts)] = cs := by simpa [clauses] using hcs
      exact law.basic (List.cons_ne_nil t ts)
  | join l r ihl ihr =>
    refine hleaf nofun fun cs hcs => ?_
    obtain ⟨ls, rs, hls, hrs, rfl⟩ := combine_eq_ok_iff.mp hcs
    exact law.join (ihl.1 ls hls) (ihr.1 rs hrs)
  | filter e p ih =>
    refine hleaf nofun fun cs hcs => ?_
    rw [clauses_filter] at hcs
    obtain ⟨ps, hps, rfl⟩ := map_eq_ok_iff.mp hcs
    exact law.filter e (ih.1 ps hps)
  | union l r ihl ihr =>
    constructor
    · intro cs hcs
      obtain ⟨ls, rs, hls, hrs, rfl⟩ :=
        (combine_eq_ok_iff (f := fun ls rs => [Clause.union (ls ++ rs)])).mp hcs
      exact law.union (ihl.2 ls hls) (ihr.2 rs hrs)
    · intro bs hbs
      obtain ⟨ls, rs, hls, hrs, rfl⟩ := combine_eq_ok_iff.mp hbs
      exact law.nested (ihl.2 ls hls) (ihr.2 rs hrs)
  | _ => exact hleaf nofun nofun

/-! ### What flattening keeps -/

lemma flattens_law : FlatteningLaw Flattens
    fun p bs => List.Forall₂ IsBranch p.alternatives bs where
  nothing := .nothing
  basic h := .basic h
  join hl hr := .join hl hr
  filter e hp := .filter e hp
  union hl hr := .union (List.rel_append hl hr)
  branch hp h := by
    rw [hp.alternatives_eq]
    exact .cons (hp.isBranch h) .nil
  nested hl hr := List.rel_append hl hr

lemma triples_law : FlatteningLaw (fun p cs => clauseTriples cs = p.triples)
    fun p bs => branchTriples bs = p.triples where
  nothing := rfl
  basic {ts} _ := by simp [clauseTriples, triples, reached, ownTriples]
  join hl hr := by simp [hl, hr, triples, reached, ownTriples]
  filter e hp := by simp [hp, clauseTriples, Clause.triples, triples, reached, ownTriples]
  union hl hr := by simp [hl, hr, clauseTriples, Clause.triples, triples, reached, ownTriples]
  branch _ h := by simp [h, branchTriples]
  nested hl hr := by simp [hl, hr, triples, reached, ownTriples]

lemma conditions_law : FlatteningLaw (fun p cs => clauseConditions cs = p.conditions)
    fun p bs => (branchParts bs).filterMap Clause.condition? = p.conditions where
  nothing := rfl
  basic _ := rfl
  join hl hr := by
    rw [clauseConditions] at hl hr
    simp [hl, hr, clauseConditions, conditions, reached, ownCondition?]
  filter e hp := by
    rw [clauseConditions] at hp
    simp [hp, clauseConditions, clauseParts, Clause.parts, Clause.condition?, conditions, reached,
      ownCondition?]
  union hl hr := by
    simp only [clauseConditions, clauseParts, Clause.parts, branchParts_append, conditions, reached,
      List.append_nil, List.filterMap_append, hl, hr]
    rfl
  branch _ h := by
    rw [clauseConditions] at h
    simp [h, branchParts]
  nested hl hr := by simp [hl, hr, conditions, reached, ownCondition?]

/-- Branches are counted along, since a union has to have two of them. -/
lemma proper_law : FlatteningLaw (fun _ cs => ∀ c ∈ clauseParts cs, c.IsProper)
    fun _ bs => bs ≠ [] ∧ ∀ c ∈ branchParts bs, c.IsProper where
  nothing := by simp [clauseParts]
  basic h := by simpa [clauseParts, Clause.parts] using Clause.IsProper.basic h
  join hl hr := by
    intro c hc
    rw [clauseParts_append, List.mem_append] at hc
    exact hc.elim (hl c) (hr c)
  filter e hp := by
    intro c hc
    simp only [clauseParts_append, clauseParts, Clause.parts, List.append_nil, List.mem_append,
      List.mem_singleton] at hc
    rcases hc with hc | rfl
    · exact hp c hc
    · exact .filter e
  union {l r bs bs'} hl hr := by
    have hlength : 2 ≤ (bs ++ bs').length := by
      have hbs := List.length_pos_of_ne_nil hl.1
      have hbs' := List.length_pos_of_ne_nil hr.1
      rw [List.length_append]
      omega
    intro c hc
    simp only [clauseParts, Clause.parts, branchParts_append, List.append_nil, List.mem_append,
      List.mem_singleton] at hc
    rcases hc with (hc | hc) | rfl
    · exact hl.2 c hc
    · exact hr.2 c hc
    · exact .union hlength
  branch _ h := ⟨by simp, by simpa [branchParts] using h⟩
  nested hl hr := by
    refine ⟨by simp [hl.1], fun c hc => ?_⟩
    rw [branchParts_append, List.mem_append] at hc
    exact hc.elim (hl.2 c) (hr.2 c)

/-! ### What is not supported -/

lemma unsupported?_join : (join l r).unsupported? = l.unsupported?.or r.unsupported? := by
  simp [unsupported?, reached, List.find?_append, isSupported]

lemma unsupported?_union : (union l r).unsupported? = l.unsupported?.or r.unsupported? := by
  simp [unsupported?, reached, List.find?_append, isSupported]

lemma unsupported?_filter (e : Expression) : (filter e p).unsupported? = p.unsupported? := by
  simp [unsupported?, reached, List.find?_append, isSupported]

/-- The first operator that is not supported is told. -/
lemma failure?_clauses (p : Algebra) :
    failure? p.clauses = p.unsupported?.map name ∧
      failure? p.branches = p.unsupported?.map name := by
  have hleaf : ∀ {p : Algebra}, p.IsLeaf →
      failure? p.clauses = p.unsupported?.map name →
      failure? p.clauses = p.unsupported?.map name ∧
        failure? p.branches = p.unsupported?.map name := by
    intro p hp h
    refine ⟨h, ?_⟩
    rw [hp.branches_eq, failure?_map, h]
  induction p with
  | basic ts => exact hleaf nofun rfl
  | join l r ihl ihr =>
    refine hleaf nofun ?_
    rw [clauses, failure?_combine, ihl.1, ihr.1, unsupported?_join, Option.map_or]
  | filter e p ih =>
    refine hleaf nofun ?_
    rw [clauses_filter, failure?_map, ih.1, unsupported?_filter]
  | union l r ihl ihr =>
    constructor
    · rw [clauses, failure?_combine _ _ fun ls rs => [Clause.union (ls ++ rs)], ihl.2, ihr.2,
        unsupported?_union, Option.map_or]
    · rw [branches, failure?_combine, ihl.2, ihr.2, unsupported?_union, Option.map_or]
  | _ => exact hleaf nofun rfl

end Algebra

/-! ### Flattening -/

/-- A pattern has clauses exactly if every operator that is met is supported; otherwise the first
one that is not is told. Its clauses hold its triples and its conditions in order, no basic pattern
among them is empty and no union has fewer than two branches, and they have the shape of the
pattern: a nest of unions is one union with a branch for each alternative, and a branch is a clause
by itself if the alternative was flattened to exactly one. -/
theorem flattening_keeps_all (p : Algebra) :
    ((∃ cs, p.clauses = .ok cs) ↔ ∀ n ∈ p.reached, n.isSupported = true) ∧
    (∀ name, p.clauses = .error name ↔ p.unsupported?.map Algebra.name = some name) ∧
    ∀ cs, p.clauses = .ok cs →
      clauseTriples cs = p.triples ∧
      clauseConditions cs = p.conditions ∧
      (∀ c ∈ clauseParts cs, c.IsProper) ∧
      p.Flattens cs := by
  have hfailure := (Algebra.failure?_clauses p).1
  refine ⟨?_, fun name => ?_, fun cs hcs => ?_⟩
  · rw [← failure?_eq_none_iff, hfailure, Option.map_eq_none_iff, Algebra.unsupported?]
    simp
  · rw [← failure?_eq_some_iff, hfailure]
  · exact ⟨(Algebra.triples_law.holds p).1 cs hcs, (Algebra.conditions_law.holds p).1 cs hcs,
      (Algebra.proper_law.holds p).1 cs hcs, (Algebra.flattens_law.holds p).1 cs hcs⟩

/-- A triple beside a union in a union, one branch of which has a condition and one of which is
empty; and a pattern in which two operators are not supported. -/
theorem flattening_keeps_all_nested :
    let t (object : String) : Triple := ⟨.variable "x", .variable "p", .iri object⟩
    let inner : Algebra := .union (.basic [t "b"]) (.filter (.variable "y") (.basic [t "c"]))
    let p : Algebra := .join (.basic [t "a"]) (.union inner (.basic []))
    let branches : List Branch :=
      [.single (.basic [t "b"]), .group [.basic [t "c"], .filter (.variable "y")], .group []]
    p.clauses = .ok [.basic [t "a"], .union branches] ∧
      clauseTriples [.basic [t "a"], .union branches] = [t "a", t "b", t "c"] ∧
      clauseConditions [.basic [t "a"], .union branches] = [.variable "y"] ∧
      p.Flattens [.basic [t "a"], .union branches] ∧
      (Algebra.filter (.variable "y") (.union p (.minus p (.graph p)))).clauses =
        .error "Minus" := by
  intro t inner p branches
  have hclauses : p.clauses = .ok [.basic [t "a"], .union branches] := rfl
  obtain ⟨htriples, hconditions, -, hflattens⟩ := (flattening_keeps_all p).2.2 _ hclauses
  exact ⟨hclauses, htriples, hconditions, hflattens, ((flattening_keeps_all _).2.1 _).mpr rfl⟩

end GraphTalk.Sparql
