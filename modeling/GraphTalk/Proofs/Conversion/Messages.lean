import Mathlib.Tactic.Common
import GraphTalk.Conversion.Failure

/-!
# What messages show

The phrasing of a message matters only where it shows something: two phrasings that agree on the
blank nodes and on the text from elsewhere that a failure shows put it into the same words
(`Failure.message_congr`). Two readings of one query differ in the labels of its brackets alone, so
a failure that shows none of them is said in the same words after each.
-/

namespace GraphTalk

/-! ### Blank nodes in clauses -/

namespace Rdf

variable {blank blank' : BlankNode → Option String}

/-- The blank node that a term is, if it is one. -/
def Term.blanks : Term → List BlankNode
  | .blank b => [b]
  | _ => []

/-- The blank nodes at the ends of a triple. -/
def Triple.blanks (t : Triple) : List BlankNode := t.subject.blanks ++ t.object.blanks

lemma Term.describe?_congr {t : Term} (h : ∀ b ∈ t.blanks, blank b = blank' b) :
    t.describe? blank = t.describe? blank' := by
  cases t with
  | blank b => exact h b (by simp [Term.blanks])
  | _ => rfl

lemma Triple.describe?_congr {t : Triple} (h : ∀ b ∈ t.blanks, blank b = blank' b) :
    t.describe? blank = t.describe? blank' := by
  obtain ⟨hsubject, hobject⟩ := List.forall_mem_append.mp h
  rw [Triple.describe?, Triple.describe?, Term.describe?_congr hsubject,
    Term.describe?_congr hobject]

end Rdf

namespace Sparql

open Rdf

variable {blank blank' : BlankNode → Option String}

mutual

/-- The blank nodes in the triples of a clause. -/
def Clause.blanks : Clause → List BlankNode
  | .basic ts => ts.flatMap Triple.blanks
  | .union bs => blanksOfBranches bs
  | .filter _ => []

/-- The blank nodes in the triples of a branch. -/
def Branch.blanks : Branch → List BlankNode
  | .single c => c.blanks
  | .group cs => blanksOfClauses cs

/-- The blank nodes in the triples of several branches. -/
def blanksOfBranches : List Branch → List BlankNode
  | [] => []
  | b :: bs => b.blanks ++ blanksOfBranches bs

/-- The blank nodes in the triples of several clauses. -/
def blanksOfClauses : List Clause → List BlankNode
  | [] => []
  | c :: cs => c.blanks ++ blanksOfClauses cs

end

lemma describeBasic?_congr {ts : List Triple}
    (h : ∀ b ∈ ts.flatMap Triple.blanks, blank b = blank' b) :
    describeBasic? blank ts = describeBasic? blank' ts := by
  have htexts : ts.map (Triple.describe? blank) = ts.map (Triple.describe? blank') :=
    List.map_congr_left fun t ht =>
      Triple.describe?_congr fun b hb => h b (List.mem_flatMap_of_mem ht hb)
  rw [describeBasic?, describeBasic?, htexts]

mutual

lemma Clause.describe?_congr (c : Clause) (h : ∀ b ∈ c.blanks, blank b = blank' b) :
    c.describe? blank = c.describe? blank' := by
  match c with
  | .basic ts => exact describeBasic?_congr h
  | .union bs => rw [Clause.describe?, Clause.describe?, describeBranches?_congr bs h]
  | .filter _ => rfl

lemma Branch.describe?_congr (b : Branch) (h : ∀ n ∈ b.blanks, blank n = blank' n) :
    b.describe? blank = b.describe? blank' := by
  match b with
  | .single c => exact Clause.describe?_congr c h
  | .group cs => rw [Branch.describe?, Branch.describe?, describeClauses?_congr cs h]

lemma describeBranches?_congr (bs : List Branch)
    (h : ∀ b ∈ blanksOfBranches bs, blank b = blank' b) :
    describeBranches? blank bs = describeBranches? blank' bs := by
  match bs with
  | [] => rfl
  | b :: bs =>
    obtain ⟨hb, hbs⟩ := List.forall_mem_append.mp h
    rw [describeBranches?, describeBranches?, Branch.describe?_congr b hb,
      describeBranches?_congr bs hbs]

lemma describeClauses?_congr (cs : List Clause)
    (h : ∀ b ∈ blanksOfClauses cs, blank b = blank' b) :
    describeClauses? blank cs = describeClauses? blank' cs := by
  match cs with
  | [] => rfl
  | c :: cs =>
    obtain ⟨hc, hcs⟩ := List.forall_mem_append.mp h
    rw [describeClauses?, describeClauses?, Clause.describe?_congr c hc,
      describeClauses?_congr cs hcs]

end

end Sparql

/-! ### Failures -/

namespace Conversion

open Rdf Sparql

/-- The blank nodes in what a message says about a construct. -/
def Unsupported.blanks : Unsupported → List BlankNode
  | .union bs => (Clause.union bs).blanks
  | .branchWithoutFilter ts => ts.flatMap Triple.blanks
  | .entityExpected _ term => term.blanks
  | .literalExpected _ term => term.blanks
  | .unknownDomain _ term => term.blanks
  | .foreignSubject term => term.blanks
  | _ => []

/-- The blank nodes in what a message says about a failure. -/
def Failure.blanks : Failure → List BlankNode
  | .unsupported reason => reason.blanks
  | _ => []

/-- A phrasing agrees with another one on what the message of a failure takes from them. -/
def Phrasing.AgreeOn (p : Phrasing) (f : Failure) (q : Phrasing) : Prop :=
  (∀ b ∈ f.blanks, p.blank b = q.blank b) ∧ p.foreign f = q.foreign f

variable {blank blank' : BlankNode → Option String} {foreign : Option String}

lemma Unsupported.message_congr {reason : Unsupported}
    (h : ∀ b ∈ reason.blanks, blank b = blank' b) :
    reason.message blank foreign = reason.message blank' foreign := by
  cases reason with
  | union bs =>
    exact congrArg (fun text => about _ (text <|> foreign)) (Clause.describe?_congr (.union bs) h)
  | branchWithoutFilter ts => exact congrArg (about _) (describeBasic?_congr h)
  | entityExpected type term => exact congrArg (about _) (Term.describe?_congr h)
  | literalExpected type term => exact congrArg (about _) (Term.describe?_congr h)
  | unknownDomain domain term => exact congrArg (about _) (Term.describe?_congr h)
  | foreignSubject term => exact congrArg (about _) (Term.describe?_congr h)
  | _ => rfl

lemma Failure.detail_congr {f : Failure} {p q : Phrasing} (h : p.AgreeOn f q) :
    f.detail p = f.detail q := by
  obtain ⟨hblank, hforeign⟩ := h
  cases f with
  | rejected reason => exact congrArg (rejectionMessage · reason) hforeign
  | unsupported reason =>
    exact (congrArg (reason.message p.blank) hforeign).trans (Unsupported.message_congr hblank)
  | notText => exact congrArg (Option.getD · "") hforeign
  | lookup fault => exact congrArg (Option.getD · "") hforeign
  | _ => rfl

/-- Phrasings that agree on what a failure shows put it into the same words. -/
theorem Failure.message_congr {f : Failure} {p q : Phrasing} (h : p.AgreeOn f q) :
    f.message p = f.message q :=
  congrArg (f.kind.word ++ ": " ++ ·) (detail_congr h)

-- A bracket is shown by the label that it has got at this reading.
example : (Failure.unsupported (.foreignSubject (.blank (.fresh 0)))).message
    ⟨fun _ => some "_:n1", fun _ => none⟩ =
      "unsupported_construct: unsupported subject (_:n1)" := by
  rfl

end Conversion

end GraphTalk
