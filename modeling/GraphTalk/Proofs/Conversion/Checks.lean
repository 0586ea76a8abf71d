import GraphTalk.Program.Render
import GraphTalk.Proofs.Conversion.Composition
import GraphTalk.Proofs.Conversion.Selection

/-!
# No conversion meets a defect

A conversion takes conjunctions of lists that have conditions, reads the fields of its output off a
table that has some, and writes programs whose parts are of the right sorts. Here these are
checked: in `Checked.convertQuery` a list without conditions, a union without a subject, an output
without fields or a part of the wrong sort stops the conversion as a defect.

The checked conversion comes to what the conversion comes to (`Checked.convertQuery_eq`), so no
check ever fails. With texts for all labels and a measure of similarity that exists, a conversion
ends with a text or refuses the query (`convertQuery_text_or_refusal`).
-/

namespace GraphTalk

/-! ### Sorted nodes -/

/-- A table expression as a node. -/
def TableExpression.toNode : TableExpression → Node
  | .invocation domain className => .invocation domain className
  | .filter e c => .filter e.toNode c.toNode
  | .projection e fields => .projection e.toNode fields
  | .aggregation e function field => .aggregation e.toNode function field
  | .question e c => .question e.toNode c.toNode
  | .sort e field direction => .sort e.toNode field direction
  | .index e limit => .index e.toNode limit

@[simp] lemma Value.toValue_toNode (v : Value) : v.toNode.toValue = .ok v := by
  cases v <;> rfl

mutual

@[simp] lemma Condition.toCondition_toNode (c : Condition) : c.toNode.toCondition = .ok c := by
  cases c with
  | atom field operator v => simp [toNode, Node.toCondition]
  | all cs => simp [toNode, Node.toCondition, Condition.toConditions_toNodes cs]
  | any cs => simp [toNode, Node.toCondition, Condition.toConditions_toNodes cs]
  | aggregate => simp [toNode, Node.toCondition]

lemma Condition.toConditions_toNodes (cs : List Condition) :
    Node.toConditions (toNodes cs) = .ok cs := by
  cases cs with
  | nil => simp [toNodes, Node.toConditions]
  | cons c cs =>
    simp [toNodes, Node.toConditions, Condition.toCondition_toNode c,
      Condition.toConditions_toNodes cs, bind, Except.bind, pure, Except.pure]

end

/-- The parts of a table expression are of the sorts that they are written as. -/
lemma TableExpression.toExpression_toNode (e : TableExpression) :
    e.toNode.toExpression = .ok e := by
  induction e with
  | invocation => rfl
  | filter e c ih => simp [toNode, Node.toExpression, ih, bind, Except.bind, pure, Except.pure]
  | projection e fields ih => simp [toNode, Node.toExpression, ih]
  | aggregation e function field ih => simp [toNode, Node.toExpression, ih]
  | question e c ih => simp [toNode, Node.toExpression, ih, bind, Except.bind, pure, Except.pure]
  | sort e field direction ih => simp [toNode, Node.toExpression, ih]
  | index e limit ih => simp [toNode, Node.toExpression, ih]

namespace Conversion

open Rdf Sparql Knowledge

/-! ### A conversion with checks -/

/-- What a conversion must not come to. -/
inductive Defect where
  /-- A conjunction of no conditions. -/
  | emptyConjunction
  /-- A condition on no subject. -/
  | noSubject
  /-- An output of which no fields are known. -/
  | noFields (subject : String)
  /-- A part of a program of the wrong sort. -/
  | wrongSort (error : Node.SortError)

/-- Why a conversion with checks stops. -/
inductive Stop where
  | failure (failure : Failure)
  | defect (defect : Defect)

/-! A definition here does what the one of the same name does without checks. -/

namespace Checked

/-- The conjunction of conditions, of which there must be one. -/
def conjunction (cs : List Condition) : Except Stop Condition :=
  match Condition.conjunction? cs with
  | some c => .ok c
  | none => .error (.defect .emptyConjunction)

/-- What is known of the branches of a union that have been folded. -/
structure Gathered where
  subject : Option String := none
  verification : Bool := false
  operands : List Condition := []

namespace Gathered

/-- Takes a condition of a branch in, which must be on the subject of the ones before. -/
def add (g : Gathered) (a : Atom) : Except Stop Gathered :=
  match g.subject with
  | none => .ok
    { g with subject := some a.subject, verification := g.verification || a.verification }
  | some s =>
    if a.subject == s then .ok { g with verification := g.verification || a.verification }
    else .error (.failure (.ambiguousSubject s a.subject))

/-- Takes conditions in one after the other. -/
def addAll (g : Gathered) : List Atom → Except Stop Gathered
  | [] => .ok g
  | a :: as => match g.add a with
    | .error stop => .error stop
    | .ok g => g.addAll as

end Gathered

section

variable {m : Type → Type} [Monad m]

/-- A computation that makes no checks. -/
def unchecked {α : Type} (x : ExceptT Failure m α) : ExceptT Stop m α :=
  ExceptT.mk (Except.mapError Stop.failure <$> x.run)

/-- Folds a branch and adds the conjunction of its conditions to the operands. -/
def gatherBranch (sc : Scope m) (ts : Tables) (g : Gathered) (triples : List Triple) :
    ExceptT Stop m (Tables × Gathered) := do
  let (ts, as) ← unchecked (foldTriples sc ts triples)
  if as.isEmpty then unchecked (refuse (.branchWithoutFilter triples))
  else do
    let g ← ExceptT.mk (pure (g.addAll as))
    let operand ← ExceptT.mk (pure (conjunction (as.map Atom.condition)))
    return (ts, { g with operands := g.operands ++ [operand] })

def gatherBranches (sc : Scope m) (ts : Tables) (g : Gathered) :
    List (List Triple) → ExceptT Stop m (Tables × Gathered)
  | [] => return (ts, g)
  | b :: bs => do
    let (ts, g) ← gatherBranch sc ts g b
    gatherBranches sc ts g bs

/-- Folds branches and adds the disjunction of their conditions to the table of their subject. -/
def foldBranches (sc : Scope m) (ts : Tables) (branches : List (List Triple)) :
    ExceptT Stop m Tables := do
  let (ts, g) ← gatherBranches sc ts {} branches
  match g.subject with
  | none => throw (.defect .noSubject)
  | some subject =>
    unchecked (attach sc ts
      { subject, condition := .any g.operands, verification := g.verification })

def foldUnion (sc : Scope m) (ts : Tables) (branches : List Branch) : ExceptT Stop m Tables :=
  match widenedTriple? branches with
  | some t => unchecked (foldBasic sc ts [t])
  | none => match branches.map Branch.basic? with
    | [some left, some right] => foldBranches sc ts [left, right]
    | _ => unchecked (refuse (.union branches))

def foldClause (sc : Scope m) (ts : Tables) : Clause → ExceptT Stop m Tables
  | .basic triples => unchecked (foldBasic sc ts triples)
  | .union branches => foldUnion sc ts branches
  | .filter e => unchecked (refuse (.filter e))

def foldClauses (sc : Scope m) (ts : Tables) : List Clause → ExceptT Stop m Tables
  | [] => return ts
  | c :: cs => do foldClauses sc (← foldClause sc ts c) cs

end

def generateAsk (ts : Tables) : Except Stop TableExpression :=
  match single ts with
  | .error f => .error (.failure f)
  | .ok t =>
    if t.verifications.isEmpty then .error (.failure (.unsupported (.nothingToVerify t.subject)))
    else (conjunction (t.filters ++ t.verifications)).map (.question (baseTable t.name))

def filtered (t : Table) (e : TableExpression) : Except Stop TableExpression :=
  if t.filters.isEmpty then .ok e else (conjunction t.filters).map (.filter e)

def generateFrom (t : Table) (fields : List String) (q : Query) : Except Stop TableExpression := do
  let aggregate := q.aggregates.head?
  let field := aggregate.bind (aggregateField? t)
  let e ← filtered t (baseTable t.name)
  let e := if fields != ["id"] && field.isNone then .projection e fields else e
  let e ← (ordered t q e).mapError .failure
  let e := match aggregate with
    | some a => .aggregation e a.function field
    | none => e
  return match q.limit with
    | some n => .index e n
    | none => e

/-- The tables that a selection asks for something of, each with the fields that it asks for. -/
def outputs (selected : List String) (ts : Tables) : List (Table × List String) :=
  (ts.map fun t => (t, outputFields selected t)).filter fun o => !o.2.isEmpty

/-- The program of a selection. The fields of the one table that is output are looked up. -/
def generateSelect (ts : Tables) (q : Query) : Except Stop TableExpression :=
  if q.aggregates.length > 1 then .error (.failure
    (.unsupported (.manyAggregates (q.aggregates.map ProjectedAggregate.name))))
  else if !q.aggregates.isEmpty && !q.group.isEmpty then
    .error (.failure (.unsupported (.aggregateOverGroups q.group)))
  else
    let outputs := outputs (selectedVariables q) ts
    match single (outputs.map Prod.fst) with
    | .error f => .error (.failure f)
    | .ok t => match outputs.find? fun o => o.1.subject == t.subject with
      | none => .error (.defect (.noFields t.subject))
      | some o => generateFrom t o.2 q

def generate (c : Context) (q : Query) : Except Stop Program :=
  (if q.isQuestion then generateAsk c.tables else generateSelect c.tables q).map Program.mk

/-- A program as text, if its parts are of the right sorts. -/
def render (p : Program) : Except Stop String :=
  match p.statement.toNode.toExpression with
  | .ok e => .ok (Program.render ⟨e⟩)
  | .error error => .error (.defect (.wrongSort error))

def convertQuery {m : Type → Type} [Monad m] (settings : Settings) (lookups : Lookups m)
    (q : Query) (keywords : List String) : ExceptT Stop m String := do
  let spans := Utterance.keywordSpans keywords
  let sc : Scope m := { settings, lookups, spans, isQuestion := q.isQuestion }
  let ts ← foldClauses sc [] q.clauses
  let ts ← unchecked (ExceptT.mk (pure (foldGroups ts q)))
  let p ← ExceptT.mk (pure (generate { spans, isQuestion := q.isQuestion, tables := ts } q))
  ExceptT.mk (pure (render p))

/-! ### Checks never fail -/

lemma conjunction_cons (c : Condition) (cs : List Condition) :
    conjunction (c :: cs) = .ok (.conj c cs) := rfl

section

variable {m : Type → Type} [Monad m] [LawfulMonad m] {α β : Type}

lemma unchecked_ofExcept (r : Except Failure α) :
    unchecked (ExceptT.mk (pure r) : ExceptT Failure m α) =
      ExceptT.mk (pure (r.mapError Stop.failure)) := by
  simp [unchecked, ExceptT.mk, ExceptT.run]

lemma unchecked_pure (a : α) : unchecked (pure a : ExceptT Failure m α) = pure a :=
  unchecked_ofExcept (.ok a)

lemma unchecked_bind (x : ExceptT Failure m α) (g : α → ExceptT Failure m β) :
    unchecked (x >>= g) = unchecked x >>= fun a => unchecked (g a) := by
  apply ExceptT.ext
  simp only [unchecked, ExceptT.run_mk, ExceptT.run_bind, map_bind, bind_map_left]
  congr 1
  funext r
  cases r with
  | ok a => rfl
  | error f => simp [Except.mapError]

lemma unchecked_refuse (reason : Unsupported) :
    unchecked (refuse reason : ExceptT Failure m α) = throw (.failure (.unsupported reason)) :=
  unchecked_ofExcept (.error (.unsupported reason))

lemma ofExcept_map (r : Except Stop α) (k : α → β) :
    (ExceptT.mk (pure (r.map k)) : ExceptT Stop m β) = k <$> ExceptT.mk (pure r) := by
  apply ExceptT.ext
  cases r <;> simp [Except.map]

variable (sc : Scope m) (ts : Tables)

lemma addAll_eq {g : Gathered} {s : String} (hs : g.subject = some s) (as : List Atom) :
    g.addAll as = ((sameSubject s as).mapError Stop.failure).map fun _ =>
      { g with verification := g.verification || as.any Atom.verification } := by
  induction as generalizing g with
  | nil => simp [Gathered.addAll, sameSubject, Except.mapError, Except.map]
  | cons a as ih =>
    simp only [Gathered.addAll, Gathered.add, hs, sameSubject]
    by_cases ha : a.subject = s
    · simp only [ha, beq_self_eq_true, if_true]
      rw [ih rfl]
      simp [Bool.or_assoc]
    · simp [ha, Except.mapError, Except.map]

/-- The first condition of a branch may give the subject. -/
lemma addAll_cons (g : Gathered) (a : Atom) (as : List Atom) :
    g.addAll (a :: as) =
      ((sameSubject (g.subject.getD a.subject) (a :: as)).mapError Stop.failure).map fun _ =>
        { subject := some (g.subject.getD a.subject)
          verification := g.verification || (a :: as).any Atom.verification
          operands := g.operands } := by
  cases hs : g.subject with
  | some s =>
    rw [addAll_eq hs]
    simp [hs]
  | none =>
    simp only [Gathered.addAll, Gathered.add, hs, Option.getD_none, sameSubject, beq_self_eq_true,
      if_true]
    rw [addAll_eq rfl]
    simp [Bool.or_assoc]

/-- Folding a branch gathers its conjunction, if all its conditions are on the subject so far. -/
lemma gatherBranch_eq (g : Gathered) (trs : List Triple) :
    gatherBranch sc ts g trs = do
      let (ts, a, as) ← unchecked (foldBranch sc ts trs)
      let s := g.subject.getD a.subject
      let _ ← unchecked (ExceptT.mk (pure (sameSubject s (a :: as))))
      return (ts, { subject := some s
                    verification := g.verification || (a :: as).any Atom.verification
                    operands := g.operands ++ [branchCondition a as] }) := by
  simp only [gatherBranch, foldBranch, unchecked_bind, bind_assoc]
  congr 1
  funext x
  obtain ⟨ts, as⟩ := x
  cases as with
  | nil => simp [unchecked_refuse]
  | cons a as =>
    simp only [List.isEmpty_cons, Bool.false_eq_true, if_false, unchecked_pure, pure_bind,
      unchecked_ofExcept, addAll_cons, ofExcept_map, bind_map_left, List.map_cons, conjunction_cons,
      ofExcept_ok]
    rfl

lemma foldBranches_eq (left right : List Triple) :
    foldBranches sc ts [left, right] =
      unchecked (Conversion.foldBranches sc ts left right) := by
  simp only [foldBranches, gatherBranches, gatherBranch_eq, Conversion.foldBranches, unchecked_bind,
    bind_assoc]
  congr 1
  funext x
  obtain ⟨ts, a, as⟩ := x
  simp [sameSubject, Bool.or_assoc]

lemma foldUnion_eq (bs : List Branch) :
    foldUnion sc ts bs = unchecked (Conversion.foldUnion sc ts bs) := by
  simp only [foldUnion, Conversion.foldUnion]
  cases widenedTriple? bs with
  | some tr => rfl
  | none =>
    simp only
    split
    · simp [*, foldBranches_eq]
    · simp

lemma foldClause_eq (c : Clause) :
    foldClause sc ts c = unchecked (Conversion.foldClause sc ts c) := by
  cases c with
  | union bs => exact foldUnion_eq sc ts bs
  | _ => rfl

lemma foldClauses_eq (cs : List Clause) :
    foldClauses sc ts cs = unchecked (Conversion.foldClauses sc ts cs) := by
  induction cs generalizing ts with
  | nil => exact (unchecked_pure ts).symm
  | cons c cs ih =>
    simp only [foldClauses, Conversion.foldClauses, unchecked_bind, foldClause_eq, ih]

end

lemma generateAsk_eq (ts : Tables) :
    generateAsk ts = (Conversion.generateAsk ts).mapError Stop.failure := by
  simp only [generateAsk, Conversion.generateAsk]
  cases single ts with
  | error f => rfl
  | ok t =>
    cases hv : t.verifications with
    | nil => simp [hv, Except.mapError]
    | cons v vs =>
      cases hf : t.filters with
      | nil => simp [hv, hf, conjunction_cons, Except.map, Except.mapError]
      | cons f fs => simp [hv, hf, conjunction_cons, Except.map, Except.mapError]

lemma filtered_eq (t : Table) (e : TableExpression) :
    filtered t e = .ok (Conversion.filtered t e) := by
  simp only [filtered, Conversion.filtered]
  cases t.filters with
  | nil => rfl
  | cons f fs => rfl

lemma generateFrom_eq (t : Table) (q : Query) :
    generateFrom t (outputFields (selectedVariables q) t) q =
      (Conversion.generateFrom t q).mapError Stop.failure := by
  simp only [generateFrom, Conversion.generateFrom, filtered_eq, bind, Except.bind]
  cases ordered t q _ with
  | error f => rfl
  | ok e => rfl

lemma map_fst_outputs (selected : List String) (ts : Tables) :
    (outputs selected ts).map Prod.fst = Conversion.outputs selected ts := by
  simp [outputs, Conversion.outputs, List.filter_map, Function.comp_def]

/-- The one table that is output is found among the outputs, with its fields. -/
lemma find?_outputs {selected : List String} {ts : Tables} {t : Table}
    (h : Conversion.outputs selected ts = [t]) :
    ((outputs selected ts).find? fun o => o.1.subject == t.subject) =
      some (t, outputFields selected t) := by
  have houtputs : outputs selected ts = [(t, outputFields selected t)] := by
    obtain ⟨o, ho, rfl⟩ := List.map_eq_singleton_iff.mp ((map_fst_outputs selected ts).trans h)
    have hmem : o ∈ outputs selected ts := by simp [ho]
    obtain ⟨u, _, rfl⟩ := List.mem_map.mp (List.mem_of_mem_filter hmem)
    exact ho
  simp [houtputs]

lemma generateSelect_eq (ts : Tables) (q : Query) :
    generateSelect ts q = (Conversion.generateSelect ts q).mapError Stop.failure := by
  simp only [generateSelect, Conversion.generateSelect, map_fst_outputs]
  split
  · rfl
  · split
    · rfl
    · cases hsingle : single (Conversion.outputs (selectedVariables q) ts) with
      | error f => rfl
      | ok t => simp only [find?_outputs (single_eq_ok hsingle), generateFrom_eq]

lemma generate_eq (c : Context) (q : Query) :
    generate c q = (Conversion.generate c q).mapError Stop.failure := by
  simp only [generate, Conversion.generate, generateAsk_eq, generateSelect_eq]
  split
  · cases Conversion.generateAsk c.tables <;> rfl
  · cases Conversion.generateSelect c.tables q <;> rfl

lemma render_eq (p : Program) : render p = .ok p.render := by
  rw [render, TableExpression.toExpression_toNode]

/-- A conversion with checks comes to what the conversion comes to: no check fails. -/
lemma convertQuery_eq {m : Type → Type} [Monad m] [LawfulMonad m] (settings : Settings)
    (lookups : Lookups m) (q : Query) (keywords : List String) :
    convertQuery settings lookups q keywords =
      unchecked (Program.render <$> Conversion.convertQuery settings lookups q keywords) := by
  simp only [convertQuery, Conversion.convertQuery, fold, foldClauses_eq, generate_eq, render_eq,
    map_eq_pure_bind, unchecked_bind, bind_assoc, pure_bind, unchecked_pure, unchecked_ofExcept,
    ofExcept_ok]

end Checked

/-! ### Texts and refusals -/

lemma composed_refusal :
    Composed fun α (x : ExceptT Failure Id α) => ∀ f, Id.run x.run = .error f → f.IsRefusal where
  pure a f h := by cases h
  bind {α β x g} hx hg f h := by
    rw [ExceptT.run_bind, Id.run_bind] at h
    cases hr : Id.run x.run with
    | error e =>
      rw [hr] at h
      cases h
      exact hx _ hr
    | ok a =>
      rw [hr] at h
      exact hg a f h
  throw hf f h := by
    cases h
    exact hf

section

variable {settings : Settings} (spans : List String)

lemma closestSpan_text (hmode : (Utterance.Mode.ofName? settings.mode).isSome = true)
    (t : String) : ∃ r, closestSpan settings spans (.text t) = .ok r := by
  obtain ⟨mode, hmode⟩ := Option.isSome_iff_exists.mp hmode
  simp only [closestSpan, hmode]
  split
  · exact ⟨_, rfl⟩
  · exact ⟨_, rfl⟩

lemma firstClosestSpan_texts (hmode : (Utterance.Mode.ofName? settings.mode).isSome = true)
    (ts : List String) : ∃ r, firstClosestSpan settings spans (ts.map .text) = .ok r := by
  induction ts with
  | nil => exact ⟨none, rfl⟩
  | cons t ts ih =>
    obtain ⟨r, hr⟩ := closestSpan_text spans hmode t
    rw [List.map_cons, firstClosestSpan, hr]
    cases r with
    | none => exact ih
    | some span => exact ⟨_, rfl⟩

variable {label domain : String → Option String} {altLabels : String → List String}
  {isQuestion : Bool}

/-- An entity is shown unless it has no label. -/
lemma display_refusal (hmode : (Utterance.Mode.ofName? settings.mode).isSome = true)
    {e : String} {f : Failure}
    (h : Id.run (display ⟨settings, .pure label altLabels domain, spans, isQuestion⟩ e).run =
      .error f) : f.IsRefusal := by
  cases hl : label e with
  | none =>
    simp only [display, ask, Lookups.pure, hl, Option.map_none] at h
    cases h
    exact .unresolvedLabel e
  | some l =>
    obtain ⟨r, hr⟩ := closestSpan_text spans hmode l
    obtain ⟨r', hr'⟩ := firstClosestSpan_texts spans hmode (altLabels e)
    simp only [display, ask, Lookups.pure, hl, Option.map_some, pure_bind, ofExcept_ok,
      hr, hr'] at h
    cases r with
    | some span => cases h
    | none =>
      cases r' with
      | some span => cases h
      | none => cases h

end

/-- A conversion for which all labels are texts and the measure of similarity exists ends with a
program and its text, or refuses the query for one of four reasons. No check of it fails. -/
theorem convertQuery_text_or_refusal (settings : Settings) (label domain : String → Option String)
    (altLabels : String → List String) (q : Query) (keywords : List String)
    (hmode : (Utterance.Mode.ofName? settings.mode).isSome = true) :
    (∃ p, Returns (convertQuery settings (.pure label altLabels domain) q keywords) p ∧
      Id.run (Checked.convertQuery settings (.pure label altLabels domain) q keywords).run =
        .ok p.render) ∨
    ∃ f : Failure, f.IsRefusal ∧
      Id.run (convertQuery settings (.pure label altLabels domain) q keywords).run = .error f ∧
      Id.run (Checked.convertQuery settings (.pure label altLabels domain) q keywords).run =
        .error (.failure f) := by
  have hrefusal : ∀ f : Failure,
      Id.run (convertQuery settings (.pure label altLabels domain) q keywords).run = .error f →
        f.IsRefusal :=
    composed_refusal.convertQuery ⟨fun e f => display_refusal _ hmode, fun e f h => by cases h⟩
  rw [Checked.convertQuery_eq]
  cases hr : Id.run (convertQuery settings (.pure label altLabels domain) q keywords).run with
  | ok p =>
    refine .inl ⟨p, hr, ?_⟩
    simp [Checked.unchecked, hr, Except.mapError, Except.map]
  | error f =>
    refine .inr ⟨f, hrefusal f hr, rfl, ?_⟩
    simp [Checked.unchecked, hr, Except.mapError, Except.map]

namespace Atlas

/-- What is in Europe, or some other thing in Africa. -/
def eitherSubject : Query where
  kind := .select
  vars := ["x"]
  clauses :=
    [.union
      [.single (.basic [fact (.variable "x") "P30" "Q46"]),
       .single (.basic [fact (.variable "y") "P30" "Q15"])]]

/-- The countries of Europe have a text, and a union over two subjects is refused. -/
theorem convertQuery_text_or_refusal_european :
    (Utterance.Mode.ofName? settings.mode).isSome = true ∧
      Id.run (Checked.convertQuery settings lookups european []).run =
        .ok ("@org.wikidata.country() filter contains(continent, " ++
          "\"Q46\"^^org.wikidata:p_continent(\"Europe\"));") ∧
      Id.run (Checked.convertQuery settings lookups eitherSubject []).run =
        .error (.failure (.ambiguousSubject "?x" "?y")) := by
  have hmode : (Utterance.Mode.ofName? settings.mode).isSome = true := rfl
  have htext : Returns (convertQuery settings lookups european [])
      ⟨.filter (baseTable "country") (onContinent "Q46" "Europe")⟩ := rfl
  have hrefused : Id.run (convertQuery settings lookups eitherSubject []).run =
      .error (.ambiguousSubject "?x" "?y") := rfl
  have hends := fun q => convertQuery_text_or_refusal settings name?
    (fun e => if e = "Q142" then some "Q6256" else none) (fun _ => []) q [] hmode
  refine ⟨hmode, ?_, ?_⟩
  · rcases hends european with ⟨p, hp, hchecked⟩ | ⟨f, _, hf, _⟩
    · obtain rfl := hp.unique htext
      exact hchecked
    · cases htext.symm.trans hf
  · rcases hends eitherSubject with ⟨p, hp, _⟩ | ⟨f, _, hf, hchecked⟩
    · cases hrefused.symm.trans hp
    · cases hrefused.symm.trans hf
      exact hchecked

end Atlas

end Conversion

end GraphTalk
