import Mathlib
import SqlSearch.Response.Render
import SqlSearch.Proofs.CsvRecords
import SqlSearch.Proofs.MappingLayout
/-! The table of hits. The hits print as a header of at most one line, one line per hit in the
order of the hits, a blank line and the total (`hitLines_eq`). With requested fields the header
names them and a hit's line holds, for each field, the hit's own value, else the value in its
`fields` object, else nothing; such a line reads back as one field per requested field
(`readRecord_projectedRow`). Without requested fields the header names the keys of the first
hit's source and a hit's line holds the values of its own source in its own key order
(`readRecord_sourceRow`), or is empty when the hit has no source object.

The total is `0` when it is absent or `null`. An object gives the last number among its members
named `value` up to case, a number or a string that spells one, when no such member holds
another kind of value and one is not `null` (`totalText_eq`); any other total prints as its
text with the blanks around it removed. -/
namespace SqlSearch.Response

open SqlSearch.Json SqlSearch.Text

/-! ### The total -/

/-- What a member named `value` gives a total: a number its literal, a string that spells a
number its text, `null` nothing; any other value gives no total at all. -/
def numberText : Json → Option (Option String)
  | .null => some none
  | .num lit => some (some lit)
  | .str s => if isNumberText s then some (some s) else none
  | _ => none

/-- The total an object gives: the last number its members named `value` give, when each of
them gives one or is `null`. -/
def objectTotal (ms : List (String × Json)) : Option String :=
  ((ms.filter fun m => keyFills m.1 "value").mapM fun m => numberText m.2).bind
    fun vs => (vs.filterMap id).getLast?

/-- The total printed for a value: `0` for `null`, the total an object gives when it gives one,
else the value's text with the blanks around it removed. -/
def totalOf (raw : String) : Json → String
  | .null => "0"
  | .obj ms => (objectTotal ms).getD (trimBlank raw)
  | _ => trimBlank raw

/-! ### Where a value starts -/

theorem isBlank_of_isSpace {c : Char} (h : isSpace c = true) : isBlank c = true := by
  simp only [isSpace, Bool.or_eq_true, decide_eq_true_eq] at h
  rcases h with ((rfl | rfl) | rfl) | rfl <;> decide

theorem isBlank_of_isDigit {c : Char} (h : c.isDigit = true) : isBlank c = false := by
  have hc : 48 ≤ c.toNat ∧ c.toNat ≤ 57 := by
    simp only [Char.isDigit, Bool.and_eq_true, decide_eq_true_eq] at h
    exact ⟨h.1, h.2⟩
  simp only [isBlank, Bool.or_eq_false_iff, decide_eq_false_iff_not]
  omega

/-- Past the JSON blanks, a text that goes on with a character that is no blank at all goes
on with it once all blanks are dropped. -/
theorem dropWhile_isBlank_of_skipSpace {c : Char} {t : List Char} (hc : isBlank c = false) :
    ∀ {cs : List Char}, skipSpace cs = c :: t → cs.dropWhile isBlank = c :: t
  | [], h => by simp [skipSpace] at h
  | d :: cs, h => by
    by_cases hd : isSpace d = true
    · rw [skipSpace, List.dropWhile_cons_of_pos hd] at h
      rw [List.dropWhile_cons_of_pos (isBlank_of_isSpace hd)]
      exact dropWhile_isBlank_of_skipSpace hc h
    · rw [skipSpace, List.dropWhile_cons_of_neg hd] at h
      obtain ⟨rfl, rfl⟩ := List.cons.inj h
      rw [List.dropWhile_cons_of_neg (by simp [hc])]

theorem trimBlank_head {raw : String} {c : Char} {t : List Char}
    (h : skipSpace raw.toList = c :: t) (hc : isBlank c = false) :
    ∃ t', (trimBlank raw).toList = c :: t' := by
  rw [trimBlank_toList, dropWhile_isBlank_of_skipSpace hc h, List.reverse_cons,
    List.dropWhile_append]
  split
  · exact ⟨[], by simp [List.dropWhile, hc]⟩
  · exact ⟨(t.reverse.dropWhile isBlank).reverse, by simp⟩

/-- A text that reads as a value starts, past its blanks, with a character that is no blank,
and that character is a brace exactly when the value is an object. -/
theorem head_of_parse? {raw : String} {j : Json} (h : parse? raw = some j) :
    ∃ c t, skipSpace raw.toList = c :: t ∧ isBlank c = false ∧ (c = '\x7b' ↔ ∃ ms, j = .obj ms) := by
  obtain ⟨c, t, hsk, hc⟩ := parse?_head h
  refine ⟨c, t, hsk, ?_, ?_⟩
  · rcases hc with ⟨rfl, -⟩ | ⟨rfl, -⟩ | ⟨rfl, -⟩ | ⟨rfl, -⟩ | ⟨rfl, -⟩ | ⟨rfl, -⟩ | ⟨rfl | hc, -⟩
    all_goals first | decide | exact isBlank_of_isDigit hc
  · rcases hc with ⟨rfl, ms, rfl⟩ | ⟨rfl, vs, rfl⟩ | ⟨rfl, s, rfl⟩ | ⟨rfl, rfl⟩ | ⟨rfl, rfl⟩ |
      ⟨rfl, rfl⟩ | ⟨hc, lit, rfl⟩
    all_goals try simp
    -- a sign or a digit is no brace
    rcases hc with rfl | hc
    · decide
    · rintro rfl
      exact absurd hc (by decide)

/-- The text of a value with its blanks removed starts with a brace exactly when the value is
an object. -/
theorem startsWith_brace_iff {raw : String} {j : Json} (h : parse? raw = some j) :
    (trimBlank raw).startsWith "\x7b" = true ↔ ∃ ms, j = .obj ms := by
  obtain ⟨c, t, hsk, hc, hobj⟩ := head_of_parse? h
  obtain ⟨t', ht'⟩ := trimBlank_head hsk hc
  rw [String.startsWith_string_iff, ht', ← hobj]
  simp [eq_comm]

/-! ### The value of a total object -/

/-- One member of a total object read: a member named `value` sets the total to the number it
gives, or keeps it when `null`, and any other member keeps it. -/
theorem totalStep_eq {value k v : String} {u : Json} (hu : parse? v = some u) :
    (if keyFills k "value" then
        match parse? v with
        | some (.num lit) => some lit
        | some (.str s) => if isNumberText s then some s else none
        | some .null => some value
        | _ => none
      else some value) =
      if keyFills k "value" then (numberText u).map (·.getD value) else some value := by
  rw [hu]
  split
  · cases u <;> simp [numberText]
  · rfl

/-- Reading the members of a total object one after another keeps the last number given by a
member named `value`, and fails at the first such member that gives none. -/
theorem foldlM_totalStep {step : String → String × String → Option String}
    (hstep : ∀ value k v u, parse? v = some u →
      step value (k, v) = if keyFills k "value" then (numberText u).map (·.getD value)
        else some value)
    {raws : List (String × String)} {ms : List (String × Json)}
    (hall : List.Forall₂ RawMember raws ms) (acc : String) :
    raws.foldlM step acc =
      ((ms.filter fun m => keyFills m.1 "value").mapM fun m => numberText m.2).map
        fun vs => (vs.filterMap id).getLast?.getD acc := by
  induction hall generalizing acc with
  | nil => rfl
  | @cons r m raws ms hm _ ih =>
    obtain ⟨k, v⟩ := r
    obtain ⟨k', u⟩ := m
    obtain ⟨rfl, hu⟩ := hm
    dsimp only at hu ⊢
    rw [List.foldlM_cons, hstep acc k v u hu]
    by_cases hk : keyFills k "value" = true
    · have hfilter : ((k, u) :: ms).filter (fun m => keyFills m.1 "value") =
          (k, u) :: ms.filter (fun m => keyFills m.1 "value") := List.filter_cons_of_pos hk
      rw [if_pos hk, hfilter, List.mapM_cons]
      cases hn : numberText u with
      | none => rfl
      | some o =>
        -- the member's number, when it gives one, is the total unless a later one is given
        simp only [Option.map_some, Option.bind_eq_bind, Option.bind_some, ih]
        cases hr : (ms.filter fun m => keyFills m.1 "value").mapM fun m => numberText m.2 with
        | none => rfl
        | some vs =>
          cases o <;> simp
    · have hfilter : ((k, u) :: ms).filter (fun m => keyFills m.1 "value") =
          ms.filter (fun m => keyFills m.1 "value") := List.filter_cons_of_neg hk
      rw [if_neg hk, hfilter]
      exact ih acc

theorem totalValue_eq {raw : String} {ms : List (String × Json)} (h : parse? raw = some (.obj ms)) :
    totalValue raw =
      ((ms.filter fun m => keyFills m.1 "value").mapM fun m => numberText m.2).map
        fun vs => (vs.filterMap id).getLast?.getD "" := by
  obtain ⟨raws, hraws, hall⟩ := rawMembers?_of_parse? h
  rw [totalValue, hraws, Option.getD_some]
  exact foldlM_totalStep (fun _ _ _ _ hu => totalStep_eq hu) hall ""

/-- Each result of a mapping that succeeds comes from an element. -/
theorem exists_of_mapM_eq_some {α β : Type} {f : α → Option β} :
    ∀ {l : List α} {vs : List β}, l.mapM f = some vs → ∀ b ∈ vs, ∃ a ∈ l, f a = some b
  | [], vs, h => by
    cases h
    simp
  | a :: l, vs, h => by
    rw [List.mapM_cons] at h
    simp only [Option.bind_eq_bind, Option.bind_eq_some_iff, Option.pure_def,
      Option.some.injEq] at h
    obtain ⟨b₀, hb₀, bs, hbs, rfl⟩ := h
    intro b hb
    rcases List.mem_cons.1 hb with rfl | hb
    · exact ⟨a, List.mem_cons_self, hb₀⟩
    · obtain ⟨a', ha', hfa⟩ := exists_of_mapM_eq_some hbs b hb
      exact ⟨a', List.mem_cons_of_mem _ ha', hfa⟩

theorem RawMember.exists_of_mem {raws : List (String × String)} {ms : List (String × Json)}
    (h : List.Forall₂ RawMember raws ms) {m : String × Json} (hm : m ∈ ms) :
    ∃ v, parse? v = some m.2 := by
  induction h with
  | nil => simp at hm
  | cons hr _ ih =>
    rcases List.mem_cons.1 hm with rfl | hm
    · exact ⟨_, hr.2⟩
    · exact ih hm

/-- A number a member gives is never empty. -/
theorem numberText_ne_empty {v s : String} {u : Json} (hu : parse? v = some u)
    (hs : numberText u = some (some s)) : s ≠ "" := by
  cases u with
  | num lit =>
    cases hs
    obtain ⟨r, hr⟩ := parseFirst?_num (parseFirst?_of_parse? hu)
    rintro rfl
    exact (readNumber_chars hr).1 rfl
  | str t =>
    simp only [numberText] at hs
    split at hs
    · cases hs
      rintro rfl
      exact absurd ‹isNumberText "" = true› (by decide)
    · cases hs
  | _ => simp [numberText] at hs

/-- The total printed for a total that reads as a value. -/
theorem totalText_eq {raw : String} {j : Json} (h : parse? raw = some j) :
    totalText (some raw) = totalOf raw j := by
  have hnull := isNullText_iff h
  have hbrace := startsWith_brace_iff h
  cases j with
  | null => simp [totalText, totalOf, hnull]
  | obj ms =>
    have hn : isNullText raw = false := by simpa using hnull
    have hb : (trimBlank raw).startsWith "\x7b" = true := hbrace.2 ⟨ms, rfl⟩
    simp only [totalText, hn, hb, Bool.false_eq_true, if_false, if_true, totalValue_eq h, totalOf,
      objectTotal]
    cases hm : (ms.filter fun m => keyFills m.1 "value").mapM fun m => numberText m.2 with
    | none => rfl
    | some vs =>
      cases hl : (vs.filterMap id).getLast? with
      | none => simp only [Option.map_some, Option.bind_some, hl, Option.getD_none]; rfl
      | some s =>
        -- the last number is a member's, and no member gives an empty one
        have hs : s ≠ "" := by
          obtain ⟨o, ho, hos⟩ := List.mem_filterMap.1 (List.mem_of_getLast? hl)
          obtain ⟨m, hmem, hnum⟩ := exists_of_mapM_eq_some hm o ho
          obtain ⟨raws, -, hall⟩ := rawMembers?_of_parse? h
          obtain ⟨v, hv⟩ := RawMember.exists_of_mem hall (List.mem_filter.1 hmem).1
          cases hos
          exact numberText_ne_empty hv hnum
        simp only [Option.map_some, Option.bind_some, hl, Option.getD_some]
        simp [hs]
  | _ =>
    have hn : isNullText raw = false := by simpa using hnull
    have hb : (trimBlank raw).startsWith "\x7b" = false := by simpa using hbrace
    simp [totalText, totalOf, hn, hb]

/-! ### The lines of the hits -/

/-- The `fields` object of a hit, when it has one. -/
def bucketOf (hit : Option Document) : Option Document :=
  (hit.bind (·.get? "fields")).bind fun raw => (Document.ofText raw).toOption

/-- The value a hit gives a requested field: its own when it has one that is not `null`, else
the one its `fields` object has. -/
def fieldValue (hit : Option Document) (f : String) : Option String :=
  (hit.bind (·.get? f)).or ((bucketOf hit).bind (·.get? f))

/-- The header of the hits: the requested fields, or without them the keys of the first hit's
source when it has one. -/
def hitHeader (docs : List (Option Document)) (fields : List String) : List String :=
  if fields = [] then ((docs.head?.bind sourceOf).map fun s => Csv.encodeStrings s.keys).toList
  else [Csv.encodeStrings fields]

/-- The line of one hit: the values it gives the requested fields, a missing one as `null`;
without requested fields the values of its own source in its own key order, or nothing. -/
def hitRow (fields : List String) (hit : Option Document) : String :=
  if fields = [] then ((sourceOf hit).map fun s => Csv.encodeRow (s.orderedValues.map .raw)).getD ""
  else Csv.encodeRow (fields.map fun f => ((fieldValue hit f).map .raw).getD .null)

theorem projectHit_eq (hit : Option Document) (fields : List String) :
    projectHit hit fields = fields.map fun f => ((fieldValue hit f).map .raw).getD .null := by
  simp only [projectHit, fieldValue, bucketOf]
  refine List.map_congr_left fun f _ => ?_
  cases hit.bind (·.get? f) with
  | some v => rfl
  | none =>
    cases ((hit.bind (·.get? "fields")).bind fun raw => (Document.ofText raw).toOption).bind
      (·.get? f) <;> rfl

theorem hitLines_eq (total : String) (docs : List (Option Document)) (fields : List String) :
    hitLines total docs fields =
      hitHeader docs fields ++ docs.map (hitRow fields) ++ ["", "total:  " ++ total] := by
  by_cases hf : fields = []
  · subst hf
    simp only [hitLines, List.isEmpty_nil, Bool.not_true, Bool.false_eq_true, if_false]
    congr 2
    · -- the header comes from the first hit's source
      rw [hitHeader, if_pos rfl]
      split
      · rename_i first hfirst
        simp only [hfirst, Option.bind]
        cases sourceOf first <;> rfl
      · rename_i hnone
        simp [hnone]
    · -- each line from the hit's own source
      refine List.map_congr_left fun hit _ => ?_
      rw [hitRow, if_pos rfl]
      split <;> simp_all
  · simp [hitLines, hitHeader, hitRow, hf, projectHit_eq]

theorem hitHeader_length_le (docs : List (Option Document)) (fields : List String) :
    (hitHeader docs fields).length ≤ 1 := by
  unfold hitHeader
  split
  · cases (docs.head?.bind sourceOf).map fun s => Csv.encodeStrings s.keys <;> simp
  · simp

/-! ### Reading the lines back -/

theorem readRecord_encodeStrings {values : List String} (hne : values ≠ []) :
    Csv.readRecord (Csv.encodeStrings values) = some values := by
  have h := Csv.readRecord_join (f := Csv.encodeText) (g := fun s => s) hne
    fun s _ => Csv.encodeText_holds s
  rwa [List.map_id'] at h

/-- With requested fields, a hit's line reads back as one field per requested field, each the
text of the value the hit gives it. -/
theorem readRecord_projectedRow {fields : List String} (hne : fields ≠ []) (hit : Option Document) :
    Csv.readRecord (hitRow fields hit) =
      some (fields.map fun f => (((fieldValue hit f).map Csv.Cell.raw).getD Csv.Cell.null).fieldText) := by
  rw [hitRow, if_neg hne, Csv.encodeRow, List.map_map]
  refine Csv.readRecord_join hne fun f _ => Csv.encodeField_holds ?_
  dsimp only
  cases fieldValue hit f with
  | none => rfl
  | some v => exact Csv.isRowable_raw v

/-- Without requested fields, the line of a hit with a source reads back as one field per key of
its source, each the text of the key's value. -/
theorem readRecord_sourceRow {hit : Option Document} {s : Document} (hs : sourceOf hit = some s)
    (hk : s.keys ≠ []) :
    Csv.readRecord (hitRow [] hit) = some (s.orderedValues.map fun v => (Csv.Cell.raw v).fieldText) := by
  rw [hitRow, if_pos rfl, hs, Option.map_some, Option.getD_some, Csv.encodeRow, List.map_map]
  have hne : s.orderedValues ≠ [] := by simpa [Document.orderedValues] using hk
  exact Csv.readRecord_join hne fun v _ => Csv.encodeField_holds (Csv.isRowable_raw v)

/-! ### The table -/

/-- The hits of a result print as a table. The lines are a header of at most one line, one line
per hit in the order of the hits, a blank line and the total, then the facets. The total is
`0` when absent and otherwise given by the value it reads as (`totalOf`). With requested fields
the header reads back as the fields and each hit's line as one field per requested field;
without them a hit's line holds the values of its own source, one field per key. -/
theorem render_hit_table (rawTotal : Option String) (docs : List (Option Document))
    (fs : List Facet) (fields facets : List String) :
    (Shape.rows (some (totalText rawTotal, docs)) fs).render fields facets =
        ⟨hitHeader docs fields ++ docs.map (hitRow fields) ++
          ["", "total:  " ++ totalText rawTotal] ++ facetLines fs facets, .rows⟩ ∧
      (hitHeader docs fields).length ≤ 1 ∧
      (rawTotal = none → totalText rawTotal = "0") ∧
      (∀ raw j, rawTotal = some raw → parse? raw = some j → totalText rawTotal = totalOf raw j) ∧
      (fields ≠ [] → Csv.readRecord (Csv.encodeStrings fields) = some fields ∧
        ∀ hit, Csv.readRecord (hitRow fields hit) =
          some (fields.map fun f => (((fieldValue hit f).map Csv.Cell.raw).getD Csv.Cell.null).fieldText)) ∧
      ∀ hit s, sourceOf hit = some s → s.keys ≠ [] →
        Csv.readRecord (hitRow [] hit) =
          some (s.orderedValues.map fun v => (Csv.Cell.raw v).fieldText) := by
  refine ⟨?_, hitHeader_length_le docs fields, ?_, ?_,
    fun hne => ⟨readRecord_encodeStrings hne, readRecord_projectedRow hne⟩,
    fun _ _ hs hk => readRecord_sourceRow hs hk⟩
  · simp only [Shape.render, hitLines_eq]
  · rintro rfl
    rfl
  · rintro raw j rfl hj
    exact totalText_eq hj

/-- A total with its number and relation, and a hit whose second requested field is in its
`fields` object. -/
theorem render_hit_table_fields_object :
    (∃ j, parse? "\x7b\"value\": 12, \"relation\": \"gte\"\x7d" = some j ∧
      totalText (some "\x7b\"value\": 12, \"relation\": \"gte\"\x7d") =
        totalOf "\x7b\"value\": 12, \"relation\": \"gte\"\x7d" j) ∧
    Csv.readRecord (hitRow ["_id", "level"]
      (some ⟨[("_id", "\"a\""), ("fields", "\x7b\"level\": \"error\"\x7d")]⟩)) =
      some ["a", "error"] := by
  obtain ⟨-, -, -, htotal, hproj, -⟩ :=
    render_hit_table (some "\x7b\"value\": 12, \"relation\": \"gte\"\x7d") [] [] ["_id", "level"] []
  refine ⟨?_, ?_⟩
  · have hshape : (parse? "\x7b\"value\": 12, \"relation\": \"gte\"\x7d").isSome = true := by
      decide +kernel
    have ht := fun j => htotal "\x7b\"value\": 12, \"relation\": \"gte\"\x7d" j rfl
    generalize parse? "\x7b\"value\": 12, \"relation\": \"gte\"\x7d" = p at hshape ht ⊢
    cases p with
    | none => cases hshape
    | some j => exact ⟨j, rfl, ht j rfl⟩
  · refine ((hproj (by decide)).2 _).trans ?_
    decide +kernel

/-- A total object whose `value` is not a number prints as its text, and a member named `Value`
counts as `value`. -/
theorem render_total_of_value_member :
    render "\x7b\"hits\": \x7b\"total\": \x7b\"value\": true\x7d\x7d\x7d" [] [] =
        ⟨["", "total:  \x7b\"value\": true\x7d"], .rows⟩ ∧
      render "\x7b\"hits\": \x7b\"total\": \x7b\"Value\": 5\x7d\x7d\x7d" [] [] =
        ⟨["", "total:  5"], .rows⟩ := by
  decide +kernel

end SqlSearch.Response
