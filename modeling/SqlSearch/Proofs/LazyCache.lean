import SqlSearch.Schema.Cache
/-! The schema cache is a lazy cache of the last reply that read as a mapping. A session calls
it for the mapping, for the keywords, or to forget what it holds. `Lazy` is the cache as its
contract describes it: it keeps only the text of the last fetched reply since the last
invalidation that read as a mapping, and the number of fetches, and it reads that text again on
every call. With nothing held it fetches, when there is a source, and answers what the fetch
gives; the language words stand in for the keywords of a mapping it could not get.

One call on the cache answers as one step of `Lazy` and keeps the two in agreement
(`Agrees.call`), and by induction over the calls so does every run (`Agrees.calls`). Main
statement: `calls_lazy`. -/
namespace SqlSearch.Schema

/-- A call a session makes on its schema cache. -/
inductive Call
  | mapping
  | keywords
  | invalidate
  deriving DecidableEq, Repr

/-- What a call answers: the mapping or why there is none, the keywords, or nothing. -/
inductive Answer
  | mapping (r : Except String Mapping)
  | keywords (ws : List String)
  | done

namespace Cache

/-- One call on the cache. -/
def call (c : Cache) : Call → Answer × Cache
  | .mapping => let (r, c') := c.mapping; (.mapping r, c')
  | .keywords => let (ws, c') := c.keywordList; (.keywords ws, c')
  | .invalidate => (.done, c.invalidate)

/-- Calls made one after another: their answers in order and the cache after them. -/
def calls (c : Cache) : List Call → List Answer × Cache
  | [] => ([], c)
  | op :: ops =>
    let (a, c') := c.call op
    let (as, c'') := c'.calls ops
    (a :: as, c'')

end Cache

/-- What fetching the `n`-th reply gives when nothing is held: the reply read as a mapping, or
why there is none. -/
def fetched : Option MappingSource → Nat → Except String Mapping
  | none, _ => .error "no mapping source configured"
  | some f, n =>
    match f n with
    | .error e => .error ("failed to fetch mapping: " ++ e)
    | .ok raw => parseMapping raw

/-- The text of the `n`-th reply when it is a body that reads as a mapping. -/
def goodReply (f : MappingSource) (n : Nat) : Option String :=
  match f n with
  | .error _ => none
  | .ok raw =>
    match parseMapping raw with
    | .error _ => none
    | .ok _ => some raw

/-- A lazy cache as its contract describes it: the text of the last fetched reply since the
last invalidation that read as a mapping, and the number of fetches made. -/
structure Lazy where
  last : Option String := none
  fetches : Nat := 0

namespace Lazy

/-- One call. A held reply is read again; with none held, a call fetches when there is a
source and holds the reply if it reads; invalidating drops the reply. -/
def step (src : Option MappingSource) : Lazy → Call → Answer × Lazy
  | s, .invalidate => (.done, { s with last := none })
  | ⟨some raw, n⟩, .mapping => (.mapping (parseMapping raw), ⟨some raw, n⟩)
  | ⟨some raw, n⟩, .keywords => (.keywords (keywords (parseMapping raw).toOption), ⟨some raw, n⟩)
  | ⟨none, n⟩, op =>
    let r := fetched src n
    let s' : Lazy := match src with
      | none => ⟨none, n⟩
      | some f => ⟨goodReply f n, n + 1⟩
    (if op = .mapping then .mapping r else .keywords (keywords r.toOption), s')

/-- Calls one after another. -/
def run (src : Option MappingSource) (s : Lazy) : List Call → List Answer × Lazy
  | [] => ([], s)
  | op :: ops =>
    let (a, s') := s.step src op
    let (as, s'') := s'.run src ops
    (a :: as, s'')

theorem step_held {src : Option MappingSource} {raw : String} {n : Nat} {op : Call}
    (hop : op ≠ .invalidate) :
    step src ⟨some raw, n⟩ op = (if op = .mapping then .mapping (parseMapping raw)
      else .keywords (keywords (parseMapping raw).toOption), ⟨some raw, n⟩) := by
  cases op with
  | mapping | keywords => rfl
  | invalidate => exact absurd rfl hop

theorem step_empty {src : Option MappingSource} {n : Nat} {op : Call} (hop : op ≠ .invalidate) :
    step src ⟨none, n⟩ op = (if op = .mapping then .mapping (fetched src n)
      else .keywords (keywords (fetched src n).toOption), match src with
        | none => ⟨none, n⟩
        | some f => ⟨goodReply f n, n + 1⟩) := by
  cases op with
  | mapping | keywords => rfl
  | invalidate => exact absurd rfl hop

end Lazy

namespace Cache

/-- What a fetch leaves in a cache: one more fetch counted, and the mapping with its keywords
when the reply reads as one. -/
def afterFetch (c : Cache) (r : Except String Mapping) : Cache :=
  { c with fetches := c.fetches + 1, cached := r.toOption.map fun m => (m, keywords (some m)) }

/-! ### The cache's two reads -/

theorem mapping_of_cached {c : Cache} {m : Mapping} {ks : List String}
    (h : c.cached = some (m, ks)) : c.mapping = (.ok m, c) := by
  simp [mapping, h]

theorem keywordList_of_cached {c : Cache} {m : Mapping} {ks : List String}
    (h : c.cached = some (m, ks)) : c.keywordList = (ks, c) := by
  simp [keywordList, h]

/-- With nothing cached the mapping is fetched: the answer is what the fetch gives, a fetch is
counted when there is a source, and the mapping is kept with its keywords when it reads. -/
theorem mapping_of_empty {c : Cache} (h : c.cached = none) :
    c.mapping = (fetched c.source c.fetches, match c.source with
      | none => c
      | some _ => c.afterFetch (fetched c.source c.fetches)) := by
  obtain ⟨src, cached, n⟩ := c
  subst h
  cases src with
  | none => rfl
  | some f =>
    simp only [mapping, fetched, afterFetch]
    cases f n with
    | error e => rfl
    | ok raw =>
      dsimp only
      cases parseMapping raw <;> rfl

/-- With nothing cached the keywords are those of what the fetch gives, or the language words
when it gives no mapping. -/
theorem keywordList_of_empty {c : Cache} (h : c.cached = none) :
    c.keywordList = (keywords (fetched c.source c.fetches).toOption, c.mapping.2) := by
  have hm := mapping_of_empty h
  simp only [keywordList, h]
  rw [hm]
  cases hs : c.source with
  | none => simp [fetched, h, keywords, Except.toOption]
  | some f => cases fetched (some f) c.fetches <;> simp [afterFetch, keywords, Except.toOption]

/-- A call for the mapping or the keywords on a cache that holds a mapping answers from it and
changes nothing. -/
theorem call_of_cached {c : Cache} {m : Mapping} {ks : List String} (h : c.cached = some (m, ks))
    {op : Call} (hop : op ≠ .invalidate) :
    c.call op = (if op = .mapping then .mapping (.ok m) else .keywords ks, c) := by
  cases op with
  | mapping => rw [Cache.call, mapping_of_cached h]; rfl
  | keywords => rw [Cache.call, keywordList_of_cached h]; rfl
  | invalidate => exact absurd rfl hop

/-- A call for the mapping or the keywords on a cache that holds nothing answers from what the
fetch gives, and leaves what the fetch leaves. -/
theorem call_of_empty {c : Cache} (h : c.cached = none) {op : Call} (hop : op ≠ .invalidate) :
    c.call op = (if op = .mapping then .mapping (fetched c.source c.fetches)
        else .keywords (keywords (fetched c.source c.fetches).toOption),
      match c.source with
      | none => c
      | some _ => c.afterFetch (fetched c.source c.fetches)) := by
  cases op with
  | mapping => rw [Cache.call, mapping_of_empty h]; rfl
  | keywords => rw [Cache.call, keywordList_of_empty h, mapping_of_empty h]; rfl
  | invalidate => exact absurd rfl hop

/-! ### Agreement -/

/-- A cache agrees with a lazy cache when both made the same fetches, and the cache holds
nothing when no reply is held, else the mapping the reply reads as with its keywords. -/
def Agrees (c : Cache) (s : Lazy) : Prop :=
  c.fetches = s.fetches ∧
    match s.last with
    | none => c.cached = none
    | some raw => ∃ m, parseMapping raw = .ok m ∧ c.cached = some (m, keywords (some m))

/-- A cache that agrees with a lazy cache is populated exactly when a reply is held. -/
theorem Agrees.populated {c : Cache} {s : Lazy} (h : c.Agrees s) :
    c.populated = true ↔ s.last.isSome := by
  obtain ⟨-, hc⟩ := h
  cases hl : s.last with
  | none => simp_all [Cache.populated]
  | some raw =>
    rw [hl] at hc
    obtain ⟨m, -, hc⟩ := hc
    simp [Cache.populated, hc]

/-- What a fetch leaves in the cache is what the reply it held reads as. -/
theorem agrees_fetch {c : Cache} (f : MappingSource) :
    Agrees (c.afterFetch (fetched (some f) c.fetches)) ⟨goodReply f c.fetches, c.fetches + 1⟩ := by
  refine ⟨rfl, ?_⟩
  simp only [afterFetch, fetched, goodReply]
  cases f c.fetches with
  | error e => rfl
  | ok raw =>
    dsimp only
    cases hp : parseMapping raw with
    | error e => rfl
    | ok m => exact ⟨m, hp, rfl⟩

/-- One call on a cache answers as one step of the lazy cache it agrees with, and keeps the
agreement and the source. -/
theorem Agrees.call {c : Cache} {s : Lazy} (h : c.Agrees s) (op : Call) :
    (c.call op).1 = (s.step c.source op).1 ∧ (c.call op).2.Agrees (s.step c.source op).2 ∧
      (c.call op).2.source = c.source := by
  obtain ⟨last, n⟩ := s
  obtain ⟨hn, hc⟩ := h
  dsimp only at hn hc
  subst hn
  by_cases hop : op = .invalidate
  · subst hop
    exact ⟨rfl, ⟨rfl, rfl⟩, rfl⟩
  cases last with
  | some raw =>
    -- a held reply: the cache serves the mapping it read from that reply
    obtain ⟨m, hm, hc⟩ := hc
    rw [call_of_cached hc hop, Lazy.step_held hop, hm]
    exact ⟨by simp [Except.toOption], ⟨rfl, m, hm, hc⟩, rfl⟩
  | none =>
    -- nothing held: both fetch, and only when there is a source
    rw [call_of_empty hc hop, Lazy.step_empty hop]
    refine ⟨rfl, ?_, ?_⟩
    · cases c.source with
      | none => exact ⟨rfl, hc⟩
      | some f => exact agrees_fetch f
    · cases hs : c.source with
      | none => exact hs
      | some f => exact hs

/-- Calls on a cache answer as the same calls on the lazy cache it agrees with, and leave the
two in agreement. -/
theorem Agrees.calls {c : Cache} {s : Lazy} (h : c.Agrees s) (ops : List Call) :
    (c.calls ops).1 = (s.run c.source ops).1 ∧ (c.calls ops).2.Agrees (s.run c.source ops).2 := by
  -- by induction over the calls, carrying the agreement and the source from step to step
  induction ops generalizing c s with
  | nil => exact ⟨rfl, h⟩
  | cons op ops ih =>
    obtain ⟨ha, h', hsrc⟩ := h.call op
    obtain ⟨has, h''⟩ := ih h'
    rw [hsrc] at has h''
    simp only [Cache.calls, Lazy.run]
    exact ⟨by rw [ha, has], h''⟩

end Cache

/-- The schema cache is a lazy cache: from a fresh cache, any calls answer as the contract's
lazy cache answers them, with the same fetches, and the cache holds the mapping and keywords
that the last good reply since the last invalidation reads as, populated exactly when there is
such a reply. -/
theorem calls_lazy (src : Option MappingSource) (ops : List Call) :
    (Cache.calls { source := src } ops).1 = (Lazy.run src {} ops).1 ∧
      (Cache.calls { source := src } ops).2.Agrees (Lazy.run src {} ops).2 ∧
      ((Cache.calls { source := src } ops).2.populated = true ↔
        (Lazy.run src {} ops).2.last.isSome) := by
  have h : Cache.Agrees { source := src } {} := ⟨rfl, rfl⟩
  obtain ⟨ha, hc⟩ := h.calls ops
  exact ⟨ha, hc, hc.populated⟩

/-- A failed fetch is not kept, a good one is served until it is invalidated, and the next call
fetches again: three fetches for five calls. -/
example :
    let src : MappingSource := fun n =>
      if n = 0 then .error "down" else .ok "\x7b\"logs\": \x7b\"mappings\": \x7b\x7d\x7d\x7d"
    let c := (Cache.calls { source := some src }
      [.keywords, .mapping, .mapping, .invalidate, .keywords]).2
    c.fetches = 3 ∧ c.populated = true := by
  decide +kernel

end SqlSearch.Schema
