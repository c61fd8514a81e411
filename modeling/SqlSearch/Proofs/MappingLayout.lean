import Mathlib
import SqlSearch.Schema.Mapping
import SqlSearch.Proofs.ObjectDecoding
/-! Reading a mapping report, index by index. The report is read as a map from index names to the
text of their values, and each index's types come from its own value alone, by the layout of
that value (`indexLayout`): a value that is not an object or `null` leaves the index out; a
`mappings` member that is not an object or `null` gives an index without types; a `mappings`
member that is `null`, empty or holds one of the keys of a type mapping is the one typeless
type, and the index is left out if it cannot be read; otherwise each member of `mappings`, or
of the value itself without one, is a type, those that cannot be read left out.

The report is read exactly when it is well formed and a JSON object or `null`
(`parseMapping_ok_iff`), and then each index holds what its own value gives it
(`parseMapping_lookup`), so no index can make the whole report fail or change another. -/
namespace SqlSearch.Json

/-! ### The kind of a value -/

/-- The word for the kind of a value, as messages name it. -/
def kindName : Json → String
  | .null => "null"
  | .bool _ => "bool"
  | .num _ => "number"
  | .str _ => "string"
  | .arr _ => "array"
  | .obj _ => "object"

/-- A text that reads as a value starts, past its blanks, with the character that opens that
kind of value: a bracket, a quote, the first letter of a literal, or a sign or digit. -/
theorem parse?_head {v : String} {j : Json} (h : parse? v = some j) :
    ∃ c t, skipSpace v.toList = c :: t ∧
      ((c = '\x7b' ∧ ∃ ms, j = .obj ms) ∨ (c = '[' ∧ ∃ vs, j = .arr vs) ∨
        (c = '"' ∧ ∃ s, j = .str s) ∨ (c = 't' ∧ j = .bool true) ∨ (c = 'f' ∧ j = .bool false) ∨
        (c = 'n' ∧ j = .null) ∨ ((c = '-' ∨ c.isDigit = true) ∧ ∃ lit, j = .num lit)) := by
  obtain ⟨rest, hread, -⟩ := readValue_of_parse? h
  rcases readValue_succ_cases hread with ⟨_, hsk, hm⟩ | ⟨_, hsk, hm⟩ | ⟨_, s, hsk, -, rfl⟩ |
    ⟨w, hw, hsk⟩ | ⟨lit, hn, rfl⟩
  · obtain ⟨ms, rfl⟩ := readMembers_obj hm
    exact ⟨_, _, hsk, .inl ⟨rfl, ms, rfl⟩⟩
  · obtain ⟨vs, rfl⟩ := readItems_arr hm
    exact ⟨_, _, hsk, .inr (.inl ⟨rfl, vs, rfl⟩)⟩
  · exact ⟨_, _, hsk, .inr (.inr (.inl ⟨rfl, s, rfl⟩))⟩
  · rcases mem_literalWords.1 hw with ⟨rfl, rfl⟩ | ⟨rfl, rfl⟩ | ⟨rfl, rfl⟩
    · exact ⟨_, _, hsk, .inr (.inr (.inr (.inl ⟨rfl, rfl⟩)))⟩
    · exact ⟨_, _, hsk, .inr (.inr (.inr (.inr (.inl ⟨rfl, rfl⟩))))⟩
    · exact ⟨_, _, hsk, .inr (.inr (.inr (.inr (.inr (.inl ⟨rfl, rfl⟩)))))⟩
  · obtain ⟨c, t, hct, hc⟩ := readNumber_head hn
    exact ⟨c, t, hct, .inr (.inr (.inr (.inr (.inr (.inr ⟨hc, _, rfl⟩)))))⟩

/-- A text that reads as a value starts with the kind of that value. -/
theorem kindWord_of_parse? {v : String} {j : Json} (h : parse? v = some j) :
    kindWord v = j.kindName := by
  obtain ⟨c, t, hsk, hc⟩ := parse?_head h
  rcases hc with ⟨rfl, ms, rfl⟩ | ⟨rfl, vs, rfl⟩ | ⟨rfl, s, rfl⟩ | ⟨rfl, rfl⟩ | ⟨rfl, rfl⟩ |
    ⟨rfl, rfl⟩ | ⟨hc, lit, rfl⟩
  all_goals try simp [kindWord, hsk, kindName]
  -- a number starts with a sign or a digit, neither of which opens another kind
  split <;> rcases hc with hc | hc <;> simp_all

/-! ### What the scanner accepts after `n` -/

theorem scanAll_cons (st : ScanState) (c : Char) (cs : List Char) :
    scanAll st (c :: cs) = (scanStep st c).bind fun st' => scanAll st' cs := rfl

/-- A text the scanner accepts ends in a complete value, at once or after one more blank. -/
theorem scanAll_of_syntaxError? {s : String} (h : syntaxError? s = none) :
    ∃ st, scanAll (.beginValue, []) s.toList = .ok st ∧
      (st.1 = .endTop ∨ ∃ st', scanStep st ' ' = .ok st' ∧ st'.1 = .endTop) := by
  unfold syntaxError? at h
  split at h
  · cases h
  · exact ⟨_, ‹_›, .inl rfl⟩
  · rename_i st _ _
    refine ⟨st, ‹_›, .inr ?_⟩
    split at h
    · cases h
    · exact ⟨_, ‹_›, rfl⟩
    · cases h

/-- Blanks before a value leave the scanner waiting for it. -/
theorem scanAll_spaces {sp : List Char} (h : ∀ c ∈ sp, isSpace c = true) (cs : List Char) :
    scanAll (.beginValue, []) (sp ++ cs) = scanAll (.beginValue, []) cs := by
  induction sp with
  | nil => rfl
  | cons c sp ih =>
    have hc := h c List.mem_cons_self
    rw [List.cons_append, scanAll_cons, ← ih fun d hd => h d (List.mem_cons_of_mem _ hd)]
    simp [scanStep, beginValue, hc, Except.bind]

/-- After the top-level value only blanks may follow. -/
theorem scanAll_endTop {st : ScanState} :
    ∀ {cs : List Char}, scanAll (.endTop, []) cs = .ok st → ∀ c ∈ cs, isSpace c = true
  | [], _ => by simp
  | c :: cs, h => by
    rw [scanAll_cons] at h
    by_cases hc : isSpace c = true
    · simp only [scanStep, hc, if_true, Except.bind] at h
      exact List.forall_mem_cons.2 ⟨hc, scanAll_endTop h⟩
    · simp [scanStep, hc, invalid, Except.bind] at h

/-- After a value that closes no container only blanks may follow. -/
theorem scanAll_endValue {st : ScanState} {cs : List Char}
    (h : scanAll (.endValue, []) cs = .ok st) : ∀ c ∈ cs, isSpace c = true := by
  cases cs with
  | nil => simp
  | cons c cs =>
    rw [scanAll_cons] at h
    by_cases hc : isSpace c = true
    · simp only [scanStep, endValue, hc, if_true, Except.bind] at h
      exact List.forall_mem_cons.2 ⟨hc, scanAll_endTop h⟩
    · simp [scanStep, endValue, hc, invalid, Except.bind] at h

/-- Inside a literal the scanner takes exactly the letters still to come, then blanks. -/
theorem scanAll_literal {w : String} {st : ScanState} :
    ∀ {ds cs : List Char}, ds ≠ [] → (∀ d ∈ ds, isSpace d = false) →
      scanAll (.literal w ds, []) cs = .ok st →
      (st.1 = .endTop ∨ ∃ st', scanStep st ' ' = .ok st' ∧ st'.1 = .endTop) →
      ∃ r, cs = ds ++ r ∧ ∀ c ∈ r, isSpace c = true
  | [], _, hds, _, _, _ => absurd rfl hds
  | d :: more, [], _, hsp, h, hend => by
    -- the text ends inside the literal: the blank read at the end does not continue it
    cases h
    have hd : (' ' = d) = False := by
      have := hsp d List.mem_cons_self
      rw [eq_iff_iff, iff_false]
      rintro rfl
      exact absurd this (by decide)
    simp [scanStep, hd, invalid] at hend
  | d :: more, c :: cs, _, hsp, h, hend => by
    rw [scanAll_cons] at h
    by_cases hc : c = d
    · subst hc
      cases more with
      | nil =>
        simp only [scanStep, if_true, List.isEmpty_nil, Except.bind] at h
        exact ⟨cs, rfl, scanAll_endValue h⟩
      | cons d' more =>
        simp only [scanStep, if_true, List.isEmpty_cons, Bool.false_eq_true, if_false,
          Except.bind] at h
        obtain ⟨r, rfl, hr⟩ := scanAll_literal (List.cons_ne_nil _ _)
          (fun x hx => hsp x (List.mem_cons_of_mem _ hx)) h hend
        exact ⟨r, rfl, hr⟩
    · simp [scanStep, hc, invalid, Except.bind] at h

/-- A text that the scanner accepts and that starts with `n` is `null`. -/
theorem parse?_null {raw : String} (hsyn : syntaxError? raw = none) (hk : kindWord raw = "null") :
    parse? raw = some .null := by
  obtain ⟨r, hr⟩ : ∃ r, skipSpace raw.toList = 'n' :: r := by
    unfold kindWord at hk
    split at hk <;> first | exact ⟨_, ‹_›⟩ | exact absurd hk (by decide)
  obtain ⟨st, hst, hend⟩ := scanAll_of_syntaxError? hsyn
  have hsplit : raw.toList = raw.toList.takeWhile isSpace ++ skipSpace raw.toList :=
    List.takeWhile_append_dropWhile.symm
  rw [hsplit, scanAll_spaces (fun c hc => List.mem_takeWhile_imp hc), hr, scanAll_cons] at hst
  simp only [scanStep, beginValue, Except.bind] at hst
  obtain ⟨r', rfl, hsp⟩ := scanAll_literal (by decide) (by decide) hst hend
  have hlit : skipSpace raw.toList = ['n', 'u', 'l', 'l'] ++ r' := hr
  rw [parse?, readPrefix, readValue_literal (f := 2 * raw.toList.length + 1)
    (mem_literalWords.2 (.inr (.inr ⟨rfl, rfl⟩))) hlit]
  simp [skipSpace, List.dropWhile_eq_nil_iff.2 hsp]

end SqlSearch.Json

namespace SqlSearch.Schema

open SqlSearch.Json

/-- The source text of the last member named `k` of an object text; nothing when the object has
no such member or the text is not an object. -/
def memberText (v k : String) : Option String := ((rawMembers? v).getD []).reverse.lookup k

/-! ### Objects read as maps -/

section Replace

variable {step : List (String × String) → String × String → List (String × String)}

theorem lookup_filter_ne (k k' : String) (l : List (String × String)) :
    (l.filter (·.1 ≠ k')).lookup k = if k = k' then none else l.lookup k := by
  induction l with
  | nil => simp
  | cons m l ih =>
    obtain ⟨a, b⟩ := m
    by_cases ha : a = k'
    · -- the member of the dropped key is skipped
      rw [List.filter_cons_of_neg (by simp [ha]), ih]
      split_ifs with hk
      · rfl
      · have hne : (k == a) = false := by simp [ha, hk]
        simp [List.lookup_cons, hne]
    · rw [List.filter_cons_of_pos (by simpa using ha), List.lookup_cons, List.lookup_cons, ih]
      by_cases hk : k = k'
      · subst hk
        have hne : (k == a) = false := by simp [Ne.symm ha]
        simp [hne]
      · simp [hk]

/-- Reading members into a map, each replacing any earlier one of its key, leaves under a key the
value of its last member. -/
theorem foldl_replace_lookup (hstep : ∀ acc k v, step acc (k, v) = acc.filter (·.1 ≠ k) ++ [(k, v)])
    (k : String) : ∀ (ms acc : List (String × String)),
      (ms.foldl step acc).lookup k = (ms.reverse.lookup k).or (acc.lookup k)
  | [], acc => by simp
  | (k', v') :: ms, acc => by
    rw [List.foldl_cons, foldl_replace_lookup hstep k ms, hstep, List.reverse_cons,
      List.lookup_append, List.lookup_append, lookup_filter_ne, Option.or_assoc]
    congr 1
    by_cases hk : k = k'
    · simp [hk]
    · have hne : (k == k') = false := by simp [hk]
      simp [hk, hne]

/-- Reading members into a map keeps each key once. -/
theorem foldl_replace_nodup (hstep : ∀ acc k v, step acc (k, v) = acc.filter (·.1 ≠ k) ++ [(k, v)]) :
    ∀ (ms : List (String × String)) {acc : List (String × String)}, (acc.map Prod.fst).Nodup →
      ((ms.foldl step acc).map Prod.fst).Nodup
  | [], _, h => h
  | (k, v) :: ms, acc, h => by
    rw [List.foldl_cons, hstep]
    refine foldl_replace_nodup hstep ms ?_
    rw [List.map_append, List.nodup_append]
    refine ⟨?_, by simp, ?_⟩
    · exact (List.filter_sublist.map Prod.fst).nodup h
    · intro a ha b hb
      simp only [List.map_cons, List.map_nil, List.mem_singleton] at hb
      obtain ⟨p, hp, rfl⟩ := List.mem_map.1 ha
      simp only [List.mem_filter, decide_eq_true_eq] at hp
      exact hb ▸ hp.2

/-- Reading members into a map gives an empty map only when there are no members: the last one
always stays. -/
theorem foldl_replace_isEmpty (hstep : ∀ acc k v, step acc (k, v) = acc.filter (·.1 ≠ k) ++ [(k, v)])
    (ms : List (String × String)) : (ms.foldl step []).isEmpty = ms.isEmpty := by
  cases hr : ms.reverse with
  | nil => simp [List.reverse_eq_nil_iff.1 hr]
  | cons m rest =>
    have hlast := foldl_replace_lookup hstep m.1 ms []
    rw [hr, List.lookup_cons, beq_self_eq_true] at hlast
    have hms : ms ≠ [] := by
      rintro rfl
      simp at hr
    cases h : ms.foldl step [] with
    | nil => simp [h] at hlast
    | cons _ _ => simpa using hms

end Replace

theorem objectMembers?_null {v : String} (h : parse? v = some .null) : objectMembers? v = some [] := by
  simp [objectMembers?, kindWord_of_parse? h, kindName]

theorem objectMembers?_none {v : String} {j : Json} (h : parse? v = some j)
    (hnull : j.kindName ≠ "null") (hobj : j.kindName ≠ "object") : objectMembers? v = none := by
  unfold objectMembers?
  rw [kindWord_of_parse? h]
  split
  · exact absurd ‹_› hnull
  · exact absurd ‹_› hobj
  · rfl

/-- An object text is read as a map: each key once, under it the text of its last member. -/
theorem objectMembers?_obj {v : String} {ms : List (String × Json)} (h : parse? v = some (.obj ms)) :
    ∃ es, objectMembers? v = some es ∧ (es.map Prod.fst).Nodup ∧
      (∀ k, es.lookup k = memberText v k) ∧ (es.isEmpty = ms.isEmpty) := by
  obtain ⟨raws, hraws, hall⟩ := rawMembers?_of_parse? h
  let step := fun (acc : List (String × String)) (m : String × String) =>
    acc.filter (·.1 ≠ m.1) ++ [m]
  have hstep : ∀ acc k v, step acc (k, v) = acc.filter (·.1 ≠ k) ++ [(k, v)] := fun _ _ _ => rfl
  have hobj : objectMembers? v = some (raws.foldl step []) := by
    simp [objectMembers?, kindWord_of_parse? h, kindName, hraws, step]
  refine ⟨_, hobj, foldl_replace_nodup hstep raws List.nodup_nil, fun k => ?_, ?_⟩
  · rw [foldl_replace_lookup hstep, memberText, hraws]
    simp
  · rw [foldl_replace_isEmpty hstep]
    cases hall <;> rfl

theorem memberText_of_not_obj {v : String} (h : ∀ ms, parse? v ≠ some (.obj ms)) (k : String) :
    memberText v k = none := by
  have hraw : rawMembers? v = none := by
    unfold rawMembers?
    split
    · exact absurd ‹_› (h _)
    · rfl
  simp [memberText, hraw]

/-- The text under a key of an object reads as a value. -/
theorem memberText_parse {v k w : String} {ms : List (String × Json)} (h : parse? v = some (.obj ms))
    (hw : memberText v k = some w) : ∃ u, parse? w = some u := by
  obtain ⟨raws, hraws, hall⟩ := rawMembers?_of_parse? h
  have hread := Response.RawMember.lookup hall k
  rw [memberText, hraws, Option.getD_some] at hw
  rw [hw, Option.map_some] at hread
  cases hm : ms.reverse.lookup k with
  | none => simp [hm] at hread
  | some u => exact ⟨u, by simpa [hm] using hread⟩

theorem find?_key (es : List (String × String)) (k : String) :
    es.find? (·.1 = k) = (es.lookup k).map (k, ·) := by
  induction es with
  | nil => rfl
  | cons e es ih =>
    obtain ⟨a, b⟩ := e
    by_cases hk : a = k
    · subst hk
      simp
    · have hne : (k == a) = false := by simp [Ne.symm hk]
      simp [List.lookup_cons, hk, hne, ih]

theorem lookup_isSome_iff_mem {β : Type} (l : List (String × β)) (k : String) :
    (l.lookup k).isSome ↔ k ∈ l.map Prod.fst := by
  rw [List.lookup_isSome_iff]
  simp only [beq_iff_eq, List.mem_map]
  constructor <;> rintro ⟨p, hp, rfl⟩ <;> exact ⟨p, hp, rfl⟩

theorem any_key_eq (es : List (String × String)) (k : String) :
    es.any (·.1 = k) = (es.lookup k).isSome := by
  rw [Bool.eq_iff_iff, List.any_eq_true, lookup_isSome_iff_mem]
  simp

/-- Keeping the entries of distinct keys whose values a partial reading accepts, each under its
own key, gives every key the reading of its value. -/
theorem lookup_filterMap_read {β : Type} {g : String → Option β}
    {pick : String × String → Option (String × β)} (hpick : ∀ k r, pick (k, r) = (g r).map (k, ·)) :
    ∀ (es : List (String × String)), (es.map Prod.fst).Nodup →
      ((es.filterMap pick).map Prod.fst).Nodup ∧
        ∀ k, (es.filterMap pick).lookup k = (es.lookup k).bind g
  | [], _ => by simp
  | (k', r) :: es, hnd => by
    obtain ⟨hk', hnd'⟩ := List.nodup_cons.1 hnd
    obtain ⟨ihnd, ihlk⟩ := lookup_filterMap_read hpick es hnd'
    -- a later key is never `k'`, so below `k'` the rest holds nothing
    have hrest : (es.filterMap pick).lookup k' = none := by
      rw [ihlk]
      cases h : es.lookup k' with
      | none => rfl
      | some _ => exact absurd ((lookup_isSome_iff_mem _ _).1 (by simp [h])) hk'
    rw [List.filterMap_cons, hpick]
    cases hg : g r with
    | none =>
      refine ⟨ihnd, fun k => ?_⟩
      rw [Option.map_none, ihlk, List.lookup_cons]
      by_cases hk : k = k'
      · subst hk
        simp [hg, ← ihlk, hrest]
      · have hne : (k == k') = false := by simp [hk]
        simp [hne]
    | some b =>
      refine ⟨?_, fun k => ?_⟩
      · rw [Option.map_some, List.map_cons, List.nodup_cons]
        refine ⟨fun hmem => ?_, ihnd⟩
        have := (lookup_isSome_iff_mem _ _).2 hmem
        simp [hrest] at this
      · rw [Option.map_some, List.lookup_cons, List.lookup_cons, ihlk]
        by_cases hk : k = k'
        · subst hk
          simp [hg]
        · have hne : (k == k') = false := by simp [hk]
          simp [hne]

/-- The types an object gives by its own members: each member that reads as a type mapping,
under its key. -/
def typesOf (v : String) : List (String × TypeMapping) := readTypes ((objectMembers? v).getD [])

theorem typesOf_lookup {v : String} {ms : List (String × Json)} (h : parse? v = some (.obj ms)) :
    ((typesOf v).map Prod.fst).Nodup ∧
      ∀ t, (typesOf v).lookup t = (memberText v t).bind fun x => (readTypeMapping x).toOption := by
  obtain ⟨es, hes, hnd, hlk, -⟩ := objectMembers?_obj h
  simp only [typesOf, hes, Option.getD_some, readTypes, ← hlk]
  refine lookup_filterMap_read ?_ es hnd
  intro k r
  rfl

/-! ### The types of one index -/

/-- The document types an index's value gives, read from the decoded value. A value that is
neither an object nor `null` gives none. An object is read by its `mappings` member when it has
one, and by its own members otherwise. A `mappings` value that is `null`, an empty object or an
object with a key of a type mapping is one typeless type, when it reads as a type mapping;
another object gives its members that read as types; any other value gives no types. -/
def indexLayout (v : String) : Option (List (String × TypeMapping)) :=
  match parse? v with
  | some .null => some []
  | some (.obj _) =>
    match memberText v "mappings" with
    | none => some (typesOf v)
    | some w =>
      match parse? w with
      | some .null => (readTypeMapping w).toOption.map fun tm => [(typeless, tm)]
      | some (.obj wms) =>
        if wms = [] ∨ ∃ k ∈ ["properties", "_source", "dynamic", "_meta", "dynamic_templates",
            "_routing"], (memberText w k).isSome then
          (readTypeMapping w).toOption.map fun tm => [(typeless, tm)]
        else some (typesOf w)
      | _ => some []
  | _ => none

/-- Whether the members under `mappings` are a type mapping, read off the decoded object. -/
theorem isTypeMapping_iff {w : String} {wms : List (String × Json)} (h : parse? w = some (.obj wms))
    {ws : List (String × String)} (hws : objectMembers? w = some ws) :
    isTypeMapping ws = true ↔
      wms = [] ∨ ∃ k ∈ ["properties", "_source", "dynamic", "_meta", "dynamic_templates",
        "_routing"], (memberText w k).isSome := by
  obtain ⟨ws', hws', -, hlk, hemp⟩ := objectMembers?_obj h
  cases hws.symm.trans hws'
  simp only [isTypeMapping, Bool.or_eq_true, hemp, List.isEmpty_iff, List.any_eq_true, any_key_eq,
    hlk]

theorem readIndex_eq_indexLayout {v : String} {j : Json} (h : parse? v = some j) :
    readIndex v = indexLayout v := by
  cases j with
  | null => simp [readIndex, indexLayout, h, objectMembers?_null h, readTypes]
  | obj ms =>
    obtain ⟨es, hes, -, hlk, -⟩ := objectMembers?_obj h
    have hfind : es.find? (·.1 = "mappings") = (memberText v "mappings").map ("mappings", ·) := by
      rw [find?_key, hlk]
    cases hm : memberText v "mappings" with
    | none => simp [readIndex, indexLayout, h, hes, hfind, hm, typesOf]
    | some w =>
      obtain ⟨u, hu⟩ := memberText_parse h hm
      cases u with
      | null =>
        simp [readIndex, indexLayout, h, hes, hfind, hm, hu, objectMembers?_null hu, isTypeMapping]
      | obj wms =>
        obtain ⟨ws, hws, -⟩ := objectMembers?_obj hu
        have htm := isTypeMapping_iff hu hws
        simp [readIndex, indexLayout, h, hes, hfind, hm, hu, hws, typesOf, htm]
      | _ =>
        -- a value of another kind under `mappings` has no members and gives no types
        have hnone := objectMembers?_none hu (by simp [kindName]) (by simp [kindName])
        simp [readIndex, indexLayout, h, hes, hfind, hm, hu, hnone]
  | _ =>
    have hnone := objectMembers?_none h (by simp [kindName]) (by simp [kindName])
    simp [readIndex, indexLayout, h, hnone]

/-! ### The whole report -/

/-- A text with members, or with none, is an object or `null`. -/
theorem parse?_of_objectMembers? {raw : String} {es : List (String × String)}
    (hsyn : syntaxError? raw = none) (h : objectMembers? raw = some es) :
    parse? raw = some .null ∨ ∃ ms, parse? raw = some (.obj ms) := by
  unfold objectMembers? at h
  split at h
  · exact .inl (parse?_null hsyn ‹_›)
  · obtain ⟨raws, hraws, -⟩ := Option.map_eq_some_iff.1 h
    unfold rawMembers? at hraws
    split at hraws
    · exact .inr ⟨_, ‹_›⟩
    · cases hraws
  · cases h

/-- A report is read exactly when it is well formed and is an object or `null`. -/
theorem parseMapping_ok_iff (raw : String) :
    (∃ m, parseMapping raw = .ok m) ↔
      syntaxError? raw = none ∧ (parse? raw = some .null ∨ ∃ ms, parse? raw = some (.obj ms)) := by
  constructor
  · rintro ⟨m, hm⟩
    unfold parseMapping at hm
    split at hm
    · cases hm
    · rename_i hsyn
      split at hm
      · cases hm
      · exact ⟨hsyn, parse?_of_objectMembers? hsyn ‹_›⟩
  · rintro ⟨hsyn, hnull | ⟨ms, hobj⟩⟩
    · exact ⟨[], by simp [parseMapping, hsyn, objectMembers?_null hnull]⟩
    · obtain ⟨es, hes, -⟩ := objectMembers?_obj hobj
      unfold parseMapping
      simp only [hsyn, hes]
      exact ⟨_, rfl⟩

/-- A report read gives each key once, and under each key the types of its last value, when
that value gives any: no index depends on another's value. -/
theorem parseMapping_lookup {raw : String} {m : Mapping} (h : parseMapping raw = .ok m) :
    (m.map Prod.fst).Nodup ∧ ∀ k, m.lookup k = (memberText raw k).bind indexLayout := by
  obtain ⟨hsyn, hkind⟩ := (parseMapping_ok_iff raw).1 ⟨m, h⟩
  rcases hkind with hnull | ⟨ms, hobj⟩
  · -- a `null` report has no indices
    simp only [parseMapping, hsyn, objectMembers?_null hnull, List.filterMap_nil,
      Except.ok.injEq] at h
    subst h
    refine ⟨List.nodup_nil, fun k => ?_⟩
    rw [memberText_of_not_obj (fun ms hms => by simp [hnull] at hms) k]
    rfl
  · obtain ⟨es, hes, hnd, hlk, -⟩ := objectMembers?_obj hobj
    simp only [parseMapping, hsyn, hes, Except.ok.injEq] at h
    subst h
    obtain ⟨hmnd, hmlk⟩ := @lookup_filterMap_read _ readIndex (fun p => (readIndex p.2).map (p.1, ·))
      (fun _ _ => rfl) es hnd
    refine ⟨hmnd, fun k => ?_⟩
    rw [hmlk, hlk]
    cases hk : memberText raw k with
    | none => rfl
    | some r =>
      obtain ⟨u, hu⟩ := memberText_parse hobj hk
      exact readIndex_eq_indexLayout hu

/-- Reading a mapping report is tolerant and local to each index. A report is read exactly when
it is well formed and is an object or `null`. The mapping read then has each key of the report
at most once, and under it the types `indexLayout` gives the key's last value, leaving out the
keys whose value gives none: a malformed index is dropped alone and changes no other. -/
theorem parseMapping_tolerant (raw : String) :
    ((∃ m, parseMapping raw = .ok m) ↔
      syntaxError? raw = none ∧ (parse? raw = some .null ∨ ∃ ms, parse? raw = some (.obj ms))) ∧
    ∀ m, parseMapping raw = .ok m →
      (m.map Prod.fst).Nodup ∧ ∀ k, m.lookup k = (memberText raw k).bind indexLayout :=
  ⟨parseMapping_ok_iff raw, fun _ h => parseMapping_lookup h⟩

/-- A report mixing the three layouts with malformed parts: an index that is a number is left
out, a `mappings` value that is a number gives no types, and a type whose properties are a
number is dropped while its sibling stays. -/
theorem parseMapping_tolerant_mixed_report :
    ∃ m, parseMapping "\x7b\"logs\": \x7b\"mappings\": \x7b\"properties\": \x7b\"msg\": \x7b\"type\": \"text\"\x7d\x7d\x7d\x7d, \"bad\": 5, \"odd\": \x7b\"mappings\": 3\x7d, \"old\": \x7b\"doc\": \x7b\"properties\": 1\x7d, \"event\": \x7b\x7d\x7d\x7d" = .ok m ∧
      m.map (fun e => (e.1, e.2.map Prod.fst)) = [("logs", [""]), ("odd", []), ("old", ["event"])] ∧
      (m.map Prod.fst).Nodup ∧
      ∀ k, m.lookup k = (memberText "\x7b\"logs\": \x7b\"mappings\": \x7b\"properties\": \x7b\"msg\": \x7b\"type\": \"text\"\x7d\x7d\x7d\x7d, \"bad\": 5, \"odd\": \x7b\"mappings\": 3\x7d, \"old\": \x7b\"doc\": \x7b\"properties\": 1\x7d, \"event\": \x7b\x7d\x7d\x7d" k).bind indexLayout := by
  obtain ⟨-, hread⟩ := parseMapping_tolerant "\x7b\"logs\": \x7b\"mappings\": \x7b\"properties\": \x7b\"msg\": \x7b\"type\": \"text\"\x7d\x7d\x7d\x7d, \"bad\": 5, \"odd\": \x7b\"mappings\": 3\x7d, \"old\": \x7b\"doc\": \x7b\"properties\": 1\x7d, \"event\": \x7b\x7d\x7d\x7d"
  -- one run of the reader gives the mapping and its shape
  have hnames : (parseMapping "\x7b\"logs\": \x7b\"mappings\": \x7b\"properties\": \x7b\"msg\": \x7b\"type\": \"text\"\x7d\x7d\x7d\x7d, \"bad\": 5, \"odd\": \x7b\"mappings\": 3\x7d, \"old\": \x7b\"doc\": \x7b\"properties\": 1\x7d, \"event\": \x7b\x7d\x7d\x7d").toOption.map
      (fun m => m.map fun e => (e.1, e.2.map Prod.fst)) =
      some [("logs", [""]), ("odd", []), ("old", ["event"])] := by decide +kernel
  generalize hp : parseMapping _ = r at hnames ⊢
  cases r with
  | error e => simp [Except.toOption] at hnames
  | ok m =>
    simp only [Except.toOption, Option.map_some, Option.some.injEq] at hnames
    exact ⟨m, rfl, hnames, hread m hp⟩

end SqlSearch.Schema
