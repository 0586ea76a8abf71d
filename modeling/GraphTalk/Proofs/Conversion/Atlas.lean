import Mathlib.Tactic.Common
import GraphTalk.Conversion.Generate

/-!
# A small atlas

A schema of countries and their continents, with the names of a few places. Statements about the
conversion of all queries are shown on queries to it.
-/

namespace GraphTalk.Conversion.Atlas

open Rdf Sparql Knowledge

/-- Countries, and the continents they are on. -/
def settings : Settings where
  schema :=
    { tables := [("Q6256", "country")]
      fields := [("P30", ⟨"continent", "P30", ⟨.entity "org.wikidata:p_continent", true⟩⟩)] }

/-- The manifest that declares them. -/
def manifest : String :=
  "table country = Q6256\nfield continent = P30: Array(Entity(org.wikidata:p_continent))"

theorem parse_manifest : Schema.parse manifest = .ok settings.schema := by rfl

/-- The names of places. -/
def name? : String → Option String
  | "Q15" => some "Africa"
  | "Q46" => some "Europe"
  | "Q142" => some "France"
  | _ => none

/-- Only names and the type of one country are known. -/
def lookups : Lookups Id :=
  .pure name? (fun _ => []) fun e => if e = "Q142" then some "Q6256" else none

/-- The triple that a subject has an entity as a property. -/
def fact (subject : Term) (property object : String) : Triple where
  subject
  predicate := .path (.iri (propertyNamespace ++ property))
  object := .iri (entityNamespace ++ object)

/-- The condition of being on a continent. -/
def onContinent (code name : String) : Condition :=
  .atom "continent" "contains" (.entity code "org.wikidata:p_continent" name)

/-! ### Questions for the places on a continent -/

section

variable {m : Type → Type} [Monad m] [LawfulMonad m] {sc : Scope m}

end

end GraphTalk.Conversion.Atlas
