import GraphTalk.Knowledge.Lookups

/-!
# Worlds in memory

A knowledge base that is given as a table. Entities may be out of reach: each attempt to look one
up is noted down as a failure, and has no answer.
-/

namespace GraphTalk.Knowledge

/-- A knowledge base in memory. -/
structure World where
  labels : List (String × String) := []
  altLabels : List (String × List String) := []
  domains : List (String × String) := []
  /-- The entities that are out of reach. -/
  down : List String := []
deriving Repr

namespace World

/-- Looks something up about an entity, unless it is out of reach. -/
def ask {α : Type} (w : World) (code : String) (absent answer : α) :
    StateM (List String) (Except Fault α) := fun failures =>
  if w.down.contains code then (.ok absent, failures ++ [code]) else (.ok answer, failures)

/-- The lookups of a conversion; the state is the failures so far. -/
def lookups (w : World) : Lookups (StateM (List String)) where
  label code := w.ask code none ((w.labels.lookup code).map .text)
  altLabels code := w.ask code [] (((w.altLabels.lookup code).getD []).map .text)
  domain code := w.ask code none (w.domains.lookup code)

end World

end GraphTalk.Knowledge
