import SqlSearch.Proofs.Translation
/-! The request a statement is translated into, member by member. The body is a map from names to
values: `query` always, and `explain`, `filter`, `facets`, `script_fields`, `fields`, `sort`,
`from` and `size` each exactly when its own clause asks for it, with a value read from that clause
alone (`bodyMember`). Every name stands in the body once. The facets member maps each distinct
facet name to a terms facet on that field.

Translation fails only for want of an index, which a missing statement also is, or for a LIMIT
of more than two numbers. Main statement: `translate_documented`. -/

namespace SqlSearch

namespace Json

theorem foldl_lookup_or (key : String) (ms : List (String × Json)) (acc : Option Json) :
    ms.foldl (fun acc (k, v) => if k = key then some v else acc) acc =
      (lookupLast key ms).or acc := by
  induction ms generalizing acc with
  | nil => rfl
  | cons m ms ih =>
    obtain ⟨k, v⟩ := m
    have hcons : lookupLast key ((k, v) :: ms) =
        (lookupLast key ms).or (if k = key then some v else none) := ih _
    rw [hcons, List.foldl_cons, ih]
    by_cases hk : k = key <;> simp [hk]

@[simp] theorem lookupLast_nil (key : String) : lookupLast key [] = none := rfl

theorem lookupLast_cons (key k : String) (v : Json) (ms : List (String × Json)) :
    lookupLast key ((k, v) :: ms) = (lookupLast key ms).or (if k = key then some v else none) :=
  foldl_lookup_or key ms _

/-- A later member of a key hides every earlier one. -/
theorem lookupLast_append (key : String) (xs ys : List (String × Json)) :
    lookupLast key (xs ++ ys) = (lookupLast key ys).or (lookupLast key xs) := by
  rw [lookupLast, List.foldl_append, foldl_lookup_or]
  rfl

@[simp] theorem lookupLast_singleton (key k : String) (v : Json) :
    lookupLast key [(k, v)] = if k = key then some v else none := by
  rw [lookupLast_cons, lookupLast_nil, Option.none_or]

/-- A key has a value exactly when it names a member. -/
theorem isSome_lookupLast (key : String) (ms : List (String × Json)) :
    (lookupLast key ms).isSome ↔ key ∈ ms.map Prod.fst := by
  induction ms with
  | nil => simp
  | cons m ms ih =>
    obtain ⟨k, v⟩ := m
    rw [lookupLast_cons, List.map_cons, List.mem_cons, ← ih]
    rcases eq_or_ne k key with rfl | hk
    · cases lookupLast k ms <;> simp
    · simp [hk, hk.symm]

end Json

namespace Query

/-- The terms facet on a field. -/
def termsFacet (f : String) : Json := .obj [("terms", .obj [("field", .str f)])]

/-- The member names a body may hold, in the order they are added. -/
def bodyKeys : List String :=
  ["query", "explain", "filter", "facets", "script_fields", "fields", "sort", "from", "size"]

/-- The documented member of the body under each name, read from its own clause only. -/
def bodyMember (q : Statement) (explain : Bool) : String → Option Json
  | "query" => some (match q.query with
    | some c => queryString c
    | none => .obj [("match_all", .obj [])])
  | "explain" => if explain then some (.bool true) else none
  | "filter" => q.filter.map queryString
  | "facets" => if q.facets.isEmpty then none else some (.obj (q.facets.map fun f => (f, termsFacet f)))
  | "script_fields" => q.script.map fun s => .obj [(s.name, .obj [("script", .str s.body)])]
  | "fields" => q.projection.map Json.strs
  | "sort" => if q.order.isEmpty then none
    else some (.arr (q.order.map fun k => .obj [(k.field, .str k.direction)]))
  | "from" => if q.limit.length = 2 then q.limit.head?.map Json.int else none
  | "size" => q.limit.getLast?.map Json.int
  | _ => none

/-- Read as a map, the facets object holds a terms facet under each facet name and nothing
else, so a name given twice stands there once. -/
theorem lookupLast_termsFacets (fs : List String) (f : String) :
    Json.lookupLast f (fs.map fun g => (g, termsFacet g)) =
      if f ∈ fs then some (termsFacet f) else none := by
  induction fs with
  | nil => simp
  | cons g fs ih =>
    rw [List.map_cons, Json.lookupLast_cons, ih]
    by_cases hf : f ∈ fs
    · simp [hf]
    · rcases eq_or_ne g f with rfl | hg
      · simp [hf]
      · simp [hf, hg, hg.symm]


/-- The members whose value is there, in order. -/
def presentMembers (entries : List (String × Option Json)) : List (String × Json) :=
  entries.filterMap fun (k, o) => o.map (k, ·)

@[simp] theorem presentMembers_nil : presentMembers [] = [] := rfl

theorem presentMembers_cons (k : String) (o : Option Json) (es : List (String × Option Json)) :
    presentMembers ((k, o) :: es) = (o.map (k, ·)).toList ++ presentMembers es := by
  cases o <;> rfl

/-- Under distinct names, each name reads back its own value. -/
theorem lookupLast_presentMembers (g : String → Option Json) {keys : List String}
    (hkeys : keys.Nodup) (k : String) :
    Json.lookupLast k (presentMembers (keys.map fun n => (n, g n))) = if k ∈ keys then g k else none := by
  induction keys with
  | nil => simp
  | cons n keys ih =>
    obtain ⟨hn, hkeys⟩ := List.nodup_cons.1 hkeys
    rw [List.map_cons, presentMembers_cons, Json.lookupLast_append, ih hkeys]
    rcases eq_or_ne n k with rfl | hk
    · cases g n <;> simp [hn]
    · cases g n <;> simp [hk, hk.symm]

theorem presentMembers_keys (g : String → Option Json) (keys : List String) :
    ((presentMembers (keys.map fun n => (n, g n))).map Prod.fst).Sublist keys := by
  induction keys with
  | nil => simp
  | cons n keys ih =>
    rw [List.map_cons, presentMembers_cons, List.map_append]
    cases g n
    · exact ih.cons n
    · exact ih.cons_cons n

theorem bodyMember_of_not_mem {q : Statement} {explain : Bool} {k : String} (hk : k ∉ bodyKeys) :
    bodyMember q explain k = none := by
  unfold bodyMember
  split <;> simp_all [bodyKeys]

/-- The body of a translated statement is the documented members that are there, in the order
of `bodyKeys`. -/
theorem translate_eq {q : Statement} (explain validate : Bool) (hi : q.index ≠ "")
    (hl : q.limit.length ≤ 2) :
    translate q explain validate = .ok ⟨requestPath q.index validate, requestParams validate,
      .obj (presentMembers (bodyKeys.map fun k => (k, bodyMember q explain k)))⟩ := by
  have hlm : ∃ lm, limitMembers q.limit = .ok lm := by
    match h : q.limit with
    | [] | [_] | [_, _] => exact ⟨_, rfl⟩
    | _ :: _ :: _ :: _ => simp [h] at hl
  obtain ⟨lm, hlm⟩ := hlm
  -- the documented members, grouped as the body builds them
  have hdoc : presentMembers (bodyKeys.map fun k => (k, bodyMember q explain k)) =
      let m := fun k => ((bodyMember q explain k).map (k, ·)).toList
      ((((((m "query" ++ m "explain") ++ m "filter") ++ m "facets") ++ m "script_fields") ++
        m "fields") ++ m "sort") ++ (m "from" ++ m "size") := by
    simp only [bodyKeys, List.map_cons, List.map_nil, presentMembers_cons, presentMembers_nil,
      List.append_nil, List.append_assoc]
  simp only [translate, hi, hlm, if_false, bind, Except.bind, pure, Except.pure, hdoc]
  -- each member is built from its own clause, so the two sides agree part by part
  refine congrArg (fun ms => (.ok ⟨requestPath q.index validate, requestParams validate, .obj ms⟩ :
    Except TranslateError Request)) ?_
  refine congrArg₂ (· ++ ·) (congrArg₂ (· ++ ·) (congrArg₂ (· ++ ·) (congrArg₂ (· ++ ·)
    (congrArg₂ (· ++ ·) (congrArg₂ (· ++ ·) (congrArg₂ (· ++ ·) ?_ ?_) ?_) ?_) ?_) ?_) ?_) ?_
  · cases h : q.query <;> simp [bodyMember, h]
  · cases explain <;> simp [bodyMember]
  · cases h : q.filter <;> simp [bodyMember, h]
  · cases h : q.facets.isEmpty <;> simp [bodyMember, h, termsFacet]
  · cases h : q.script <;> simp [bodyMember, h]
  · cases h : q.projection <;> simp [bodyMember, h]
  · cases h : q.order.isEmpty <;> simp [bodyMember, h]
  · match h : q.limit with
    | [] | [_] | [_, _] => simp_all [limitMembers, bodyMember]
    | _ :: _ :: _ :: _ => simp [h] at hl

/-- A statement without an index is refused, whatever else it holds. -/
theorem translate_of_index_empty {q : Statement} {explain validate : Bool} (hi : q.index = "") :
    translate q explain validate = .error .missingIndex := by
  simp only [translate, hi, ↓reduceIte]
  rfl

theorem bodyKeys_nodup : bodyKeys.Nodup := by decide

/-- Every name reads back its documented member. -/
theorem lookupLast_documented (q : Statement) (explain : Bool) (k : String) :
    Json.lookupLast k (presentMembers (bodyKeys.map fun n => (n, bodyMember q explain n))) =
      bodyMember q explain k := by
  rw [lookupLast_presentMembers _ bodyKeys_nodup]
  split
  · rfl
  · exact (bodyMember_of_not_mem ‹_›).symm

/-- A statement is translated into exactly the documented request. Translation fails for want of
an index, the statement being missing or its index empty; else for a LIMIT of more than two
numbers, with those numbers. Otherwise the request goes to the index's path, the dots turned
into slashes, with the parameters `pretty` and `explain` only when validating; its body holds
each name once, a name exactly when its clause asks for it, and under it the documented member,
which reads that clause alone; and its facets member maps each facet name, however often it was
given, to one terms facet on that field. -/
theorem translate_documented (q : Option Statement) (explain validate : Bool) :
    (translateOption q explain validate = .error .missingIndex ↔ ∀ s ∈ q, s.index = "") ∧
    ∀ s ∈ q, s.index ≠ "" →
      (∀ e, translateOption q explain validate = .error e ↔
        2 < s.limit.length ∧ e = .malformedLimit s.limit) ∧
      (s.limit.length ≤ 2 → ∃ ms, translateOption q explain validate =
          .ok ⟨String.ofList (s.index.toList.map fun c => if c = '.' then '/' else c) ++
              (if validate then "/_validate/query" else "/search"),
            if validate then some [("pretty", "true"), ("explain", "true")] else none, .obj ms⟩ ∧
        (ms.map Prod.fst).Nodup ∧
        (∀ k, k ∈ ms.map Prod.fst ↔ (bodyMember s explain k).isSome) ∧
        (∀ k, Json.lookupLast k ms = bodyMember s explain k) ∧
        ∀ f, (Json.lookupLast "facets" ms).bind (Json.get? · f) =
          if f ∈ s.facets then some (termsFacet f) else none) := by
  refine ⟨?_, fun s hs hi => ?_⟩
  · cases q with
    | none => simp [translateOption]
    | some s =>
      by_cases hi : s.index = ""
      · simp [translateOption, translate_of_index_empty hi, hi]
      · simp [translateOption, translate_error_iff hi, hi]
  obtain rfl : q = some s := hs
  refine ⟨fun e => translate_error_iff hi, fun hl => ⟨_, translate_eq explain validate hi hl,
    (presentMembers_keys _ bodyKeys).nodup bodyKeys_nodup, fun k => ?_, lookupLast_documented s explain,
    fun f => ?_⟩⟩
  · rw [← Json.isSome_lookupLast, lookupLast_documented]
  · rw [lookupLast_documented]
    by_cases hf : s.facets.isEmpty
    · simp [bodyMember, List.isEmpty_iff.1 hf]
    · simp [bodyMember, hf, Json.get?, lookupLast_termsFacets]

end Query

end SqlSearch
