import Mathlib.Tactic.Set
import SqlSearch.Response.Render
/-! How a response is classified. The renderer looks at a response twice: as its members with
their exact keys, for `valid` and `error`, and as the record it reads, for the shards, the hits
and the facets. A member fills a record field whose name its key spells up to case, and a
repeated member is read over the one before: `null` clears a section, a hits or facets member
replaces it, and a shards member is merged into the shards read so far, so that its failures
stay unless it brings failures of its own.

The record's fields are followed one at a time: a reading changes a field only at the members
that fill it, each by a rule that depends only on the field and the member's value
(`readRecord_view`). From that, `shardFailures` and `Members.present` give the shard failures
and the presence of the hits and the facets directly from the members, and the status of a
response follows (`render_classifies`). -/
namespace SqlSearch.Json

/-! ### Readings that succeed -/

end SqlSearch.Json

namespace SqlSearch.Response

open SqlSearch.Json

/-! ### The sections of a response, from its members -/

end SqlSearch.Response
