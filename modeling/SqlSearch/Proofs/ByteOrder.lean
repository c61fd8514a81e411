import Mathlib.Data.String.Basic
import SqlSearch.Proofs.NormalSplit
import SqlSearch.Text.Utf8
/-! Texts compare by their UTF-8 bytes. The order of texts is the order of their characters'
code points, one character after another; UTF-8 writes a smaller code point as bytes that are
smaller where the two encodings first differ, before either ends (`utf8EncodeChar_belowAt`).
So comparing two texts character by character and comparing their UTF-8 bytes one byte after
another always agree (`lt_iff_utf8Bytes_lt`), and a list sorted as texts is sorted by bytes. For the
same reason one text starts another exactly when its bytes start the other's bytes
(`starts_iff_utf8Bytes_starts`).

The module also gives what sorting and then dropping repeats makes of a list of texts: each text
once, in strictly increasing byte order (`pairwise_eraseDups_mergeSort`). -/
namespace SqlSearch.Text

/-! ### One character -/

/-- `u` is below `v` at a place both reach: they agree up to a byte that is smaller in `u`. -/
def BelowAt (u v : List UInt8) : Prop :=
  ∃ p c d u' v', u = p ++ c :: u' ∧ v = p ++ d :: v' ∧ c < d

theorem BelowAt.head {c d : UInt8} (u v : List UInt8) (h : c < d) : BelowAt (c :: u) (d :: v) :=
  ⟨[], c, d, u, v, rfl, rfl, h⟩

theorem BelowAt.cons {u v : List UInt8} (c : UInt8) (h : BelowAt u v) :
    BelowAt (c :: u) (c :: v) := by
  obtain ⟨p, c', d, u', v', rfl, rfl, hcd⟩ := h
  exact ⟨c :: p, c', d, u', v', rfl, rfl, hcd⟩

/-- Bytes given by their values compare at the first place the values differ. -/
theorem BelowAt.ofNat_cons {x y : Nat} {u v : List UInt8} (hx : x < 256) (hy : y < 256)
    (hxy : x ≤ y) (h : x = y → BelowAt u v) :
    BelowAt (UInt8.ofNat x :: u) (UInt8.ofNat y :: v) := by
  rcases Nat.lt_or_eq_of_le hxy with hlt | rfl
  · refine .head u v ?_
    rw [UInt8.lt_iff_toNat_lt, UInt8.toNat_ofNat', UInt8.toNat_ofNat']
    omega
  · exact .cons _ (h rfl)

/-- Bytes below at a place both reach stay below whatever follows each. -/
theorem BelowAt.append {u v : List UInt8} (h : BelowAt u v) (x y : List UInt8) :
    u ++ x < v ++ y := by
  obtain ⟨p, c, d, u', v', rfl, rfl, hcd⟩ := h
  simp only [List.append_assoc, List.cons_append]
  exact List.append_left_lt (List.cons_lt_cons_iff.2 (.inl hcd))

/-- UTF-8 writes a smaller code point as smaller bytes, and neither encoding of two different
characters is the start of the other. -/
theorem utf8EncodeChar_belowAt {a b : Char} (h : a < b) :
    BelowAt (String.utf8EncodeChar a) (String.utf8EncodeChar b) := by
  have hv : a.val.toNat < b.val.toNat := by
    rw [Char.lt_def, UInt32.lt_iff_toNat_lt] at h
    exact h
  have ha := Normal.Char.toNat_lt_codeLimit a
  have hb := Normal.Char.toNat_lt_codeLimit b
  simp only [Char.toNat, Normal.codeLimit] at ha hb
  unfold String.utf8EncodeChar
  generalize a.val.toNat = v at *
  generalize b.val.toNat = w at *
  dsimp only
  -- one goal per pair of encoding lengths; each byte is a digit of the code point, so the bytes
  -- agree until the first digit where `v` is below `w`
  split_ifs <;>
    repeat refine BelowAt.ofNat_cons (by omega) (by omega) (by omega) fun _ => ?_
  all_goals omega

/-! ### Texts -/

theorem toList_loop_eq (bs : ByteArray) (i : Nat) (r : List UInt8) :
    ByteArray.toList.loop bs i r = r.reverse ++ bs.data.toList.drop i := by
  fun_induction ByteArray.toList.loop bs i r with
  | case1 i r h ih =>
    have hi : i < bs.data.toList.length := by simpa using h
    rw [ih, List.drop_eq_getElem_cons hi]
    simp [ByteArray.get!, h]
  | case2 i r h =>
    rw [List.drop_eq_nil_of_le (by simpa using Nat.le_of_not_lt h)]
    simp

/-- The bytes of a text are the UTF-8 encodings of its characters, one after another. -/
theorem utf8Bytes_eq (s : String) : utf8Bytes s = s.toList.flatMap String.utf8EncodeChar := by
  rw [utf8Bytes, ByteArray.toList, toList_loop_eq, List.reverse_nil, List.nil_append,
    List.drop_zero, String.toUTF8_eq_toByteArray]
  conv_lhs => rw [← @String.ofList_toList s]
  rw [String.toByteArray_ofList, List.utf8Encode, List.toList_data_toByteArray]

theorem append_lt_append_iff (p : List UInt8) {x y : List UInt8} : p ++ x < p ++ y ↔ x < y := by
  induction p with
  | nil => rfl
  | cons c p ih => simp [ih]

/-- Characters compare as their encodings do, one after another. -/
theorem lt_iff_flatMap_lt : ∀ (l₁ l₂ : List Char),
    l₁ < l₂ ↔ l₁.flatMap String.utf8EncodeChar < l₂.flatMap String.utf8EncodeChar
  | [], [] => by simp
  | [], b :: l₂ => by
    obtain ⟨d, v, hd⟩ := List.exists_cons_of_ne_nil (@String.utf8EncodeChar_ne_nil b)
    simp [hd]
  | _ :: _, [] => by simp
  | a :: l₁, b :: l₂ => by
    simp only [List.flatMap_cons, List.cons_lt_cons_iff]
    rcases lt_trichotomy a b with hab | rfl | hba
    · simp only [hab, true_or, true_iff]
      exact (utf8EncodeChar_belowAt hab).append _ _
    · rw [append_lt_append_iff, ← lt_iff_flatMap_lt l₁ l₂]
      simp
    · have hgt := (utf8EncodeChar_belowAt hba).append (l₂.flatMap String.utf8EncodeChar)
        (l₁.flatMap String.utf8EncodeChar)
      simp only [not_lt_of_gt hba, false_or, ne_of_gt hba, false_and, false_iff]
      exact List.lt_asymm hgt

/-- Two texts compare as their UTF-8 bytes do. -/
theorem lt_iff_utf8Bytes_lt (s t : String) : s < t ↔ utf8Bytes s < utf8Bytes t := by
  rw [String.lt_iff_toList_lt, utf8Bytes_eq, utf8Bytes_eq]
  exact lt_iff_flatMap_lt _ _

/-- Bytes that differ at a place both reach are not the start of one another, whatever follows
each. -/
theorem BelowAt.apart {u v : List UInt8} (h : BelowAt u v) (x y : List UInt8) :
    ¬ u ++ x <+: v ++ y ∧ ¬ v ++ y <+: u ++ x := by
  obtain ⟨p, c, d, u', v', rfl, rfl, hcd⟩ := h
  simp only [List.append_assoc, List.cons_append, List.prefix_append_right_inj,
    List.cons_prefix_cons]
  have hlt := UInt8.lt_iff_toNat_lt.1 hcd
  exact ⟨fun h => by rw [h.1] at hlt; omega, fun h => by rw [h.1] at hlt; omega⟩

/-- One list of characters starts another exactly when its encodings do. -/
theorem starts_iff_flatMap_starts : ∀ (l₁ l₂ : List Char),
    l₁ <+: l₂ ↔ l₁.flatMap String.utf8EncodeChar <+: l₂.flatMap String.utf8EncodeChar
  | [], _ => by simp
  | a :: l₁, [] => by
    obtain ⟨c, v, hc⟩ := List.exists_cons_of_ne_nil (@String.utf8EncodeChar_ne_nil a)
    simp [hc]
  | a :: l₁, b :: l₂ => by
    simp only [List.flatMap_cons, List.cons_prefix_cons]
    rcases lt_trichotomy a b with hab | rfl | hba
    · simp only [ne_of_lt hab, false_and, false_iff]
      exact ((utf8EncodeChar_belowAt hab).apart _ _).1
    · rw [List.prefix_append_right_inj, ← starts_iff_flatMap_starts l₁ l₂]
      simp
    · simp only [ne_of_gt hba, false_and, false_iff]
      exact ((utf8EncodeChar_belowAt hba).apart _ _).2

/-- One text starts another exactly when its UTF-8 bytes start the other's. -/
theorem starts_iff_utf8Bytes_starts (s t : String) :
    s.toList <+: t.toList ↔ utf8Bytes s <+: utf8Bytes t := by
  rw [utf8Bytes_eq, utf8Bytes_eq]
  exact starts_iff_flatMap_starts _ _

/-! ### Sorted words -/

theorem eraseDups_sublist {α : Type} [BEq α] [LawfulBEq α] :
    ∀ (l : List α), l.eraseDups.Sublist l
  | [] => by simp
  | a :: l => by
    rw [List.eraseDups_cons]
    exact ((eraseDups_sublist _).trans List.filter_sublist).cons_cons a
termination_by l => l.length
decreasing_by exact Nat.lt_succ_of_le (List.length_filter_le _ _)

theorem nodup_eraseDups {α : Type} [BEq α] [LawfulBEq α] :
    ∀ (l : List α), l.eraseDups.Nodup
  | [] => by simp
  | a :: l => by
    rw [List.eraseDups_cons, List.nodup_cons, List.mem_eraseDups]
    exact ⟨by simp, nodup_eraseDups _⟩
termination_by l => l.length
decreasing_by exact Nat.lt_succ_of_le (List.length_filter_le _ _)

/-- A fold that appends each item that is wanted and not yet there keeps every item once and
holds what it started with and every wanted item it went over. -/
theorem foldl_appendNew {α : Type} [DecidableEq α] (keep : α → Prop) [DecidablePred keep]
    (step : List α → α → List α)
    (hstep : ∀ acc x, step acc x = if keep x ∧ x ∉ acc then acc ++ [x] else acc) :
    ∀ (xs acc : List α), acc.Nodup →
      (xs.foldl step acc).Nodup ∧ ∀ x, x ∈ xs.foldl step acc ↔ x ∈ acc ∨ x ∈ xs ∧ keep x
  | [], acc, hacc => ⟨hacc, fun x => by simp⟩
  | y :: xs, acc, hacc => by
    rw [List.foldl_cons, hstep]
    by_cases hy : keep y ∧ y ∉ acc
    · rw [if_pos hy]
      have hnd : (acc ++ [y]).Nodup := List.nodup_append.2 ⟨hacc, by simp,
        fun a ha b hb hab => hy.2 (by rw [List.mem_singleton] at hb; rw [← hb, ← hab]; exact ha)⟩
      obtain ⟨hfound, hmem⟩ := foldl_appendNew keep step hstep xs _ hnd
      refine ⟨hfound, fun x => ?_⟩
      rw [hmem]
      by_cases hx : x = y
      · subst hx
        simp [hy.1]
      · simp [hx]
    · rw [if_neg hy]
      obtain ⟨hfound, hmem⟩ := foldl_appendNew keep step hstep xs acc hacc
      refine ⟨hfound, fun x => ?_⟩
      rw [hmem]
      by_cases hx : x = y
      · subst hx
        by_cases hk : keep x
        · have : x ∈ acc := by simpa [hk] using hy
          simp [this]
        · simp [hk]
      · simp [hx]

/-- Merge sort by a text key sorts by that key. -/
theorem pairwise_mergeSort_key {α : Type} (key : α → String) (l : List α) :
    (l.mergeSort fun a b => key a ≤ key b).Pairwise fun a b => key a ≤ key b := by
  have htrans : ∀ a b c : α, decide (key a ≤ key b) → decide (key b ≤ key c) →
      decide (key a ≤ key c) :=
    fun a b c hab hbc => by simpa using le_trans (by simpa using hab) (by simpa using hbc)
  have htotal : ∀ a b : α, (decide (key a ≤ key b) || decide (key b ≤ key a)) = true :=
    fun a b => by simpa using le_total (key a) (key b)
  simpa using @List.pairwise_mergeSort α (fun a b => decide (key a ≤ key b)) htrans htotal l

/-- A list sorted by distinct text keys is strictly increasing in the keys' byte order. -/
theorem pairwise_utf8Bytes_lt {α : Type} {key : α → String} {l : List α}
    (hle : l.Pairwise fun a b => key a ≤ key b) (hnd : (l.map key).Nodup) :
    l.Pairwise fun a b => utf8Bytes (key a) < utf8Bytes (key b) := by
  have hne : l.Pairwise fun a b => key a ≠ key b := List.pairwise_map.1 hnd
  refine (hle.and hne).imp fun ⟨hab, hab'⟩ => ?_
  exact (lt_iff_utf8Bytes_lt _ _).1 (lt_of_le_of_ne hab hab')

/-- Sorting texts and dropping repeats leaves each text once, in strictly increasing byte
order. -/
theorem pairwise_eraseDups_mergeSort (ws : List String) :
    ((ws.mergeSort fun a b => a ≤ b).eraseDups).Pairwise
      fun a b => utf8Bytes a < utf8Bytes b := by
  have hle := (pairwise_mergeSort_key id ws).sublist (eraseDups_sublist _)
  exact @pairwise_utf8Bytes_lt String id _ hle (by simpa using nodup_eraseDups _)

end SqlSearch.Text
