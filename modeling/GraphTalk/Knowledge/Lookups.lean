import GraphTalk.Document.Access
import GraphTalk.Knowledge.Cache

/-!
# What a knowledge base is asked

The questions that a conversion asks a knowledge base. The answers may depend on a state, such as
that of a cache or a network, so they are given in a monad.
-/

namespace GraphTalk.Knowledge

/-- Why a lookup ended without an answer of any kind. -/
inductive Fault where
  /-- A reply had a shape that could not be worked with. -/
  | mismatch (mismatch : Document.Mismatch)
  /-- The network broke down in a way that is not a failed request. -/
  | breakdown
  /-- A reply held something that the cache cannot store. -/
  | unstorable (reason : Unstorable)
deriving DecidableEq, Repr

/-- What reaching into a document comes to, with a shape that does not fit as a fault. -/
def reaching {α : Type} (r : Except Document.Mismatch α) : Except Fault α :=
  r.mapError Fault.mismatch

/-- A label as a knowledge base holds it. -/
inductive Label where
  | text (text : String)
  /-- A remote knowledge base may hold something that is no text. -/
  | foreign

/-- The label that a document is. -/
def Label.ofDocument : Document → Label
  | .text s => .text s
  | _ => .foreign

/-- The answers of a knowledge base. -/
structure Lookups (m : Type → Type) where
  /-- The name of an entity, if it has one. -/
  label : String → m (Except Fault (Option Label))
  /-- The other names of an entity. -/
  altLabels : String → m (Except Fault (List Label))
  /-- The most informative type of an entity, if it has a type. -/
  domain : String → m (Except Fault (Option String))

/-- A knowledge base that always has its answers at hand. -/
def Lookups.pure {m : Type → Type} [Monad m] (label : String → Option String)
    (altLabels : String → List String) (domain : String → Option String) : Lookups m :=
  { label := fun e => Pure.pure (.ok ((label e).map .text))
    altLabels := fun e => Pure.pure (.ok ((altLabels e).map .text))
    domain := fun e => Pure.pure (.ok (domain e)) }

end GraphTalk.Knowledge
