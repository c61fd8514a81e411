import SqlSearch.Schema.Keywords
/-! A session's cache of the mapping and its keywords. The mapping is fetched on first use and
kept only when the fetch and the reading succeed; until then keywords fall back to the
language words and the next use fetches again. Without a source nothing is fetched: the
mapping is an error and the keywords are the language words. Invalidating forgets the mapping.
Fetches are counted; the `n`-th fetch (from zero) gets the source's `n`-th reply. -/
namespace SqlSearch.Schema

/-- Where mappings come from: the reply to the `n`-th fetch, a report or a failure. -/
abbrev MappingSource := Nat → Except String String

/-- The cache: the mapping and keywords once a fetch succeeded, and the fetch count. -/
structure Cache where
  source : Option MappingSource
  cached : Option (Mapping × List String) := none
  fetches : Nat := 0

namespace Cache

/-- Whether a mapping is cached. -/
def populated (c : Cache) : Bool := c.cached.isSome

/-- The mapping, fetched and read if not cached. -/
def mapping (c : Cache) : Except String Mapping × Cache :=
  match c.cached, c.source with
  | some (m, _), _ => (.ok m, c)
  | none, none => (.error "no mapping source configured", c)
  | none, some fetch =>
    let c' := { c with fetches := c.fetches + 1 }
    match fetch c.fetches with
    | .error e => (.error ("failed to fetch mapping: " ++ e), c')
    | .ok raw =>
      match parseMapping raw with
      | .error e => (.error e, c')
      | .ok m => (.ok m, { c' with cached := some (m, keywords (some m)) })

/-- The keywords: of the cached mapping, after fetching it if needed, or the language words
when there is no mapping. -/
def keywordList (c : Cache) : List String × Cache :=
  match c.cached with
  | some (_, ks) => (ks, c)
  | none =>
    let (r, c') := c.mapping
    match r, c'.cached with
    | .ok _, some (_, ks) => (ks, c')
    | _, _ => (baseKeywords, c')

/-- Forgets the cached mapping. -/
def invalidate (c : Cache) : Cache := { c with cached := none }

end Cache

end SqlSearch.Schema
