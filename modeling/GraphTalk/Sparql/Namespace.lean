import GraphTalk.Rdf.Path

/-!
# Namespaces

Prefixes stand for the start of IRIs. A prefix has one namespace and a namespace has one prefix: a
new binding takes the place of the older one on either side.
-/

namespace GraphTalk.Sparql

/-- Prefixes with their namespaces. -/
abbrev Namespaces := List (String × String)

/-- Binds a prefix; older bindings of the prefix or of the namespace are dropped. -/
def Namespaces.bind (ns : Namespaces) (name iri : String) : Namespaces :=
  (name, iri) :: ns.filter fun b => b.1 != name && b.2 != iri

/-- Binds several prefixes, one after the other. -/
def Namespaces.bindAll (ns : Namespaces) (bindings : List (String × String)) : Namespaces :=
  bindings.foldl (fun ns b => ns.bind b.1 b.2) ns

/-- The prefixes of well-known vocabularies, which need no declaration. -/
def wellKnown : Namespaces :=
  [("brick", "https://brickschema.org/schema/Brick#"),
   ("csvw", "http://www.w3.org/ns/csvw#"),
   ("dc", "http://purl.org/dc/elements/1.1/"),
   ("dcat", "http://www.w3.org/ns/dcat#"),
   ("dcmitype", "http://purl.org/dc/dcmitype/"),
   ("dcterms", "http://purl.org/dc/terms/"),
   ("dcam", "http://purl.org/dc/dcam/"),
   ("doap", "http://usefulinc.com/ns/doap#"),
   ("foaf", "http://xmlns.com/foaf/0.1/"),
   ("geo", "http://www.opengis.net/ont/geosparql#"),
   ("odrl", "http://www.w3.org/ns/odrl/2/"),
   ("org", "http://www.w3.org/ns/org#"),
   ("prof", "http://www.w3.org/ns/dx/prof/"),
   ("prov", "http://www.w3.org/ns/prov#"),
   ("qb", "http://purl.org/linked-data/cube#"),
   ("schema", "https://schema.org/"),
   ("sh", "http://www.w3.org/ns/shacl#"),
   ("skos", "http://www.w3.org/2004/02/skos/core#"),
   ("sosa", "http://www.w3.org/ns/sosa/"),
   ("ssn", "http://www.w3.org/ns/ssn/"),
   ("time", "http://www.w3.org/2006/time#"),
   ("vann", "http://purl.org/vocab/vann/"),
   ("void", "http://rdfs.org/ns/void#"),
   ("wgs", "https://www.w3.org/2003/01/geo/wgs84_pos#"),
   ("owl", "http://www.w3.org/2002/07/owl#"),
   ("rdf", "http://www.w3.org/1999/02/22-rdf-syntax-ns#"),
   ("rdfs", "http://www.w3.org/2000/01/rdf-schema#"),
   ("xsd", "http://www.w3.org/2001/XMLSchema#"),
   ("xml", "http://www.w3.org/XML/1998/namespace")]

/-- The prefixes of the knowledge base that queries are about. -/
def defaultNamespaces : Namespaces :=
  [("wd", Rdf.entityNamespace),
   ("wdt", Rdf.propertyNamespace),
   ("p", "http://www.wikidata.org/prop/"),
   ("ps", "http://www.wikidata.org/prop/statement/"),
   ("pq", "http://www.wikidata.org/prop/qualifier/"),
   ("wikibase", "http://wikiba.se/ontology#"),
   ("rdfs", "http://www.w3.org/2000/01/rdf-schema#")]

/-! ### Relative IRIs -/

/-- Splits a text at the first occurrence of a character, which belongs to neither part. -/
def cutAt (c : Char) (cs : List Char) : List Char × Option (List Char) :=
  match cs.dropWhile (· != c) with
  | [] => (cs, none)
  | _ :: rest => (cs.takeWhile (· != c), some rest)

/-- The parts of an IRI or of a reference to one. -/
structure IriParts where
  scheme : List Char := []
  /-- What stands behind the two slashes. -/
  authority : List Char := []
  path : List Char := []
  query : Option (List Char) := none
  fragment : Option (List Char) := none

/-- The parts of what follows the scheme. -/
def IriParts.ofReference (cs : List Char) : IriParts :=
  let (cs, fragment) := cutAt '#' cs
  let (cs, query) := cutAt '?' cs
  match cs with
  | '/' :: '/' :: rest =>
    { authority := rest.takeWhile (· != '/'), path := rest.dropWhile (· != '/'), query, fragment }
  | _ => { path := cs, query, fragment }

/-- The parts of an IRI with a scheme. -/
def IriParts.ofIri (cs : List Char) : IriParts :=
  match cutAt ':' cs with
  | (scheme, some rest) => { IriParts.ofReference rest with scheme }
  | (_, none) => IriParts.ofReference cs

/-- The IRI that parts make up. -/
def IriParts.toChars (p : IriParts) : List Char :=
  (if p.scheme.isEmpty then [] else p.scheme ++ [':']) ++
  (if p.authority.isEmpty then [] else '/' :: '/' :: p.authority) ++ p.path ++
  (match p.query with
    | some (c :: q) => '?' :: c :: q
    | _ => []) ++
  (match p.fragment with
    | some (c :: f) => '#' :: c :: f
    | _ => [])

/-- Resolves the segments `.` and `..` of a path. -/
def resolveSegments (segments : List (List Char)) : List (List Char) :=
  let kept := segments.foldl (fun before s =>
    if s == ['.', '.'] then before.drop 1
    else if s == ['.'] then before
    else s :: before) []
  let kept := match segments.getLast? with
    | some ['.'] => [] :: kept
    | some ['.', '.'] => [] :: kept
    | _ => kept
  kept.reverse

/-- Without the empty segments between the first and the last. -/
def dropEmptyInside : List (List Char) → List (List Char)
  | [] => []
  | first :: rest => match rest.getLast? with
    | none => [first]
    | some last => first :: rest.dropLast.filter (fun s => !s.isEmpty) ++ [last]

/-- A path relative to the path of the base. -/
def resolvePath (base path : List Char) : List Char :=
  let segments := Text.Chars.splitOn ['/'] path
  let all := match path with
    | '/' :: _ => segments
    | _ =>
      let parts := Text.Chars.splitOn ['/'] base
      let parts := if parts.getLast? == some [] then parts else parts.dropLast
      parts ++ segments
  match List.intercalate ['/'] (resolveSegments (dropEmptyInside all)) with
  | [] => ['/']
  | p => p

/-- The schemes whose IRIs have a hierarchy. -/
def hierarchical : List String := ["http", "https", "ftp", "file", "sftp", "ws", "wss", ""]

/-- An IRI that may be relative to a base. One with a colon is not, and neither is any without a
base. -/
def resolveIri (base iri : String) : String :=
  if iri.toList.contains ':' || base == "" then iri
  else if iri == "" then base
  else
    let b := IriParts.ofIri base.toList
    let r := IriParts.ofReference iri.toList
    if !hierarchical.contains (String.ofList b.scheme) then iri
    else
      let whole : IriParts :=
        if !r.authority.isEmpty then { r with scheme := b.scheme }
        else if r.path.isEmpty then
          { b with query := if r.query.isSome then r.query else b.query, fragment := r.fragment }
        else { b with path := resolvePath b.path r.path, query := r.query, fragment := r.fragment }
      let cs := whole.toChars
      let marked := iri.toList.getLast? == some '#' && cs.getLast? != some '#'
      String.ofList (if marked then cs ++ ['#'] else cs)

end GraphTalk.Sparql
