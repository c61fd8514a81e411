import Mathlib
import SqlSearch.Stats.Store
import SqlSearch.Proofs.ByteOrder
/-! The table of invocation counts. Its rows are keyed by mode and day, and the table keeps that
key unique (`KeysUnique`): the upsert adds one to the row of its key, or adds the row with a
count of one. Both aggregates sum the counts of the rows that pass a test on their key
(`sumWhere`), so one lemma says what an upsert does to either (`sumWhere_bump`). After any
increments on an empty table, the count of a mode on a day is the number of its increments on
that day, the total of a mode the number of its increments, and the totals hold one entry for
each counted mode and each mode ever incremented (`counts_after`). -/
namespace SqlSearch.Stats

/-- The primary key of a row: its mode and its day. -/
def Row.key (r : Row) : String × String := (r.mode, r.date)

/-- Each mode and day has at most one row. -/
def KeysUnique (rows : List Row) : Prop := (rows.map Row.key).Nodup

/-- The sum of the counts of the rows whose mode and day pass a test. -/
def sumWhere (q : String → String → Bool) (rows : List Row) : Nat :=
  ((rows.filter fun r => q r.mode r.date).map Row.count).sum

theorem foldl_add_count (rows : List Row) (a : Nat) :
    rows.foldl (fun n r => n + r.count) a = a + (rows.map Row.count).sum := by
  induction rows generalizing a with
  | nil => simp
  | cons r rows ih => simp [ih, Nat.add_assoc]

/-- The count of a day sums the rows of that mode and day. -/
theorem countOn_eq (mode date : String) (rows : List Row) :
    countOn mode date rows = sumWhere (fun m d => m = mode ∧ d = date) rows := by
  simp [countOn, sumWhere, foldl_add_count]

/-- The total of a mode sums the rows of that mode. -/
theorem totalOf_eq (mode : String) (rows : List Row) :
    totalOf mode rows = sumWhere (fun m _ => m = mode) rows := by
  simp [totalOf, sumWhere, foldl_add_count]

/-! ### The upsert -/

section Upsert

variable (mode date : String)

/-- Adding one to the count of the rows that pass a test adds the number of those rows to the
sum of the counts. -/
theorem sum_count_map_bumped (P : Row → Prop) [DecidablePred P] (rows : List Row) :
    ((rows.map fun r => if P r then { r with count := r.count + 1 } else r).map Row.count).sum =
      (rows.map Row.count).sum + (rows.filter fun r => decide (P r)).length := by
  induction rows with
  | nil => rfl
  | cons r rows ih =>
    rw [List.map_cons, List.map_cons, List.sum_cons, ih, List.map_cons, List.sum_cons,
      List.filter_cons]
    by_cases hr : P r
    · simp only [if_pos hr, decide_eq_true hr, ↓reduceIte, List.length_cons]
      omega
    · simp only [if_neg hr, decide_eq_false hr, Bool.false_eq_true, if_false]
      omega

/-- With its key unique, a table that has a row for a mode and day has exactly one. -/
theorem length_filter_key {rows : List Row} (hk : KeysUnique rows)
    (hany : (rows.any fun r => r.mode = mode ∧ r.date = date) = true) :
    (rows.filter fun r => r.mode = mode ∧ r.date = date).length = 1 := by
  have hcount : (rows.map Row.key).count (mode, date) =
      (rows.filter fun r => r.mode = mode ∧ r.date = date).length := by
    rw [List.count_eq_length_filter, List.filter_map, List.length_map]
    congr 2
    funext r
    rw [Bool.eq_iff_iff]
    simp [Row.key]
  have hle := List.nodup_iff_count_le_one.1 hk (mode, date)
  have hpos := List.length_filter_pos_iff.2 (List.any_eq_true.1 hany)
  omega

/-- The upsert keeps the key unique: it changes counts only, or adds the one key missing. -/
theorem bump_keysUnique {rows : List Row} (hk : KeysUnique rows) :
    KeysUnique (bump mode date rows) := by
  unfold bump
  split
  · have hkeys : ((rows.map fun r => if r.mode = mode ∧ r.date = date then
        { r with count := r.count + 1 } else r).map Row.key) = rows.map Row.key := by
      simp only [List.map_map]
      congr 1
      funext r
      by_cases hr : r.mode = mode ∧ r.date = date <;> simp [hr, Row.key]
    rw [KeysUnique, hkeys]
    exact hk
  · next hnone =>
    rw [KeysUnique, List.map_append, List.nodup_append]
    refine ⟨hk, by simp, ?_⟩
    intro k hk' k' hk'' hkk
    simp only [List.map_cons, List.map_nil, List.mem_singleton] at hk''
    obtain ⟨r, hr, rfl⟩ := List.mem_map.1 hk'
    apply hnone
    rw [List.any_eq_true]
    exact ⟨r, hr, by simpa [Row.key, hk''] using hkk⟩

/-- What an upsert does to a sum over a test on mode and day: it adds one when its own mode and
day pass the test. -/
theorem sumWhere_bump (q : String → String → Bool) {rows : List Row} (hk : KeysUnique rows) :
    sumWhere q (bump mode date rows) = sumWhere q rows + if q mode date then 1 else 0 := by
  unfold bump
  split
  · next hany =>
    -- the one row of the key gains one, and it passes the test exactly when the key does
    have hpass : ((rows.filter fun r => q r.mode r.date).filter
        fun r => r.mode = mode ∧ r.date = date).length = if q mode date then 1 else 0 := by
      rw [List.filter_filter]
      by_cases hq : q mode date = true
      · rw [if_pos hq, ← length_filter_key mode date hk hany]
        congr 1
        apply List.filter_congr
        intro r _
        by_cases hr : r.mode = mode ∧ r.date = date
        · simp [hr, hq]
        · simp [hr]
      · rw [if_neg hq, List.length_eq_zero_iff, List.filter_eq_nil_iff]
        intro r _ hr
        simp only [Bool.and_eq_true, decide_eq_true_eq] at hr
        obtain ⟨⟨rfl, rfl⟩, hqr⟩ := hr
        exact hq hqr
    -- the upsert keeps every row's mode and day, so it passes the test as it did
    have hfilter : ((rows.map fun r => if r.mode = mode ∧ r.date = date then
        { r with count := r.count + 1 } else r).filter fun r => q r.mode r.date) =
        (rows.filter fun r => q r.mode r.date).map fun r =>
          if r.mode = mode ∧ r.date = date then { r with count := r.count + 1 } else r := by
      rw [List.filter_map]
      congr 1
      apply List.filter_congr
      intro r _
      by_cases hr : r.mode = mode ∧ r.date = date <;> simp [hr]
    rw [sumWhere, hfilter, sum_count_map_bumped, hpass]
    rfl
  · by_cases hq : q mode date = true <;> simp [sumWhere, hq]

theorem countOn_bump (mode' date' : String) {rows : List Row} (hk : KeysUnique rows) :
    countOn mode' date' (bump mode date rows) =
      countOn mode' date' rows + if mode = mode' ∧ date = date' then 1 else 0 := by
  rw [countOn_eq, countOn_eq, sumWhere_bump mode date _ hk]
  simp

theorem totalOf_bump (mode' : String) {rows : List Row} (hk : KeysUnique rows) :
    totalOf mode' (bump mode date rows) = totalOf mode' rows + if mode = mode' then 1 else 0 := by
  rw [totalOf_eq, totalOf_eq, sumWhere_bump mode date _ hk]
  simp

/-- The modes of the rows after an upsert: those before, and the upsert's. -/
theorem mem_modes_bump (mode' : String) (rows : List Row) :
    mode' ∈ (bump mode date rows).map Row.mode ↔ mode' ∈ rows.map Row.mode ∨ mode' = mode := by
  unfold bump
  split
  · next hany =>
    have hmodes : ((rows.map fun r => if r.mode = mode ∧ r.date = date then
        { r with count := r.count + 1 } else r).map Row.mode) = rows.map Row.mode := by
      simp only [List.map_map]
      congr 1
      funext r
      by_cases hr : r.mode = mode ∧ r.date = date <;> simp [hr]
    rw [hmodes]
    constructor
    · exact .inl
    · rintro (h | rfl)
      · exact h
      · obtain ⟨r, hr, hkey⟩ := List.any_eq_true.1 hany
        simp only [decide_eq_true_eq] at hkey
        exact List.mem_map.2 ⟨r, hr, hkey.1⟩
  · simp

end Upsert

/-! ### Increments -/

/-- The upsert of an increment: its mode, on its day. -/
def bumpStep (rows : List Row) (inc : String × String) : List Row := bump inc.1 inc.2 rows

theorem keysUnique_foldl_bumpStep :
    ∀ (incs : List (String × String)) (rows : List Row), KeysUnique rows →
      KeysUnique (incs.foldl bumpStep rows)
  | [], _, hk => hk
  | inc :: incs, rows, hk =>
    keysUnique_foldl_bumpStep incs (bump inc.1 inc.2 rows) (bump_keysUnique _ _ hk)

/-- Each increment of a mode on a day adds one to its count of that day. -/
theorem countOn_foldl_bumpStep (mode date : String) :
    ∀ (incs : List (String × String)) (rows : List Row), KeysUnique rows →
      countOn mode date (incs.foldl bumpStep rows) = countOn mode date rows + incs.count (mode, date)
  | [], _, _ => rfl
  | inc :: incs, rows, hk => by
    rw [List.foldl_cons, countOn_foldl_bumpStep mode date incs (bumpStep rows inc)
        (bump_keysUnique _ _ hk),
      bumpStep, countOn_bump _ _ _ _ hk, List.count_cons]
    have : (inc.1 = mode ∧ inc.2 = date) ↔ (inc == (mode, date)) = true := by
      rw [beq_iff_eq, Prod.ext_iff]
    by_cases h : inc.1 = mode ∧ inc.2 = date
    · rw [if_pos h, if_pos (this.1 h)]
      omega
    · rw [if_neg h, if_neg (mt this.2 h)]
      omega

/-- Each increment of a mode adds one to its total. -/
theorem totalOf_foldl_bumpStep (mode : String) :
    ∀ (incs : List (String × String)) (rows : List Row), KeysUnique rows →
      totalOf mode (incs.foldl bumpStep rows) =
        totalOf mode rows + incs.countP (fun inc => inc.1 = mode)
  | [], _, _ => rfl
  | inc :: incs, rows, hk => by
    rw [List.foldl_cons, totalOf_foldl_bumpStep mode incs (bumpStep rows inc)
        (bump_keysUnique _ _ hk),
      bumpStep, totalOf_bump _ _ _ hk, List.countP_cons]
    by_cases h : inc.1 = mode
    · simp only [h, if_true, decide_true]
      omega
    · simp only [h, if_false, decide_false, Bool.false_eq_true]
      omega

theorem mem_modes_foldl_bumpStep (mode : String) :
    ∀ (incs : List (String × String)) (rows : List Row),
      mode ∈ (incs.foldl bumpStep rows).map Row.mode ↔
        mode ∈ rows.map Row.mode ∨ mode ∈ incs.map Prod.fst
  | [], _ => by simp
  | inc :: incs, rows => by
    rw [List.foldl_cons, mem_modes_foldl_bumpStep mode incs, bumpStep, mem_modes_bump]
    simp only [List.map_cons, List.mem_cons]
    tauto

/-! ### The totals -/

/-- The modes that are not counted but have rows, each once, in order of first row. -/
theorem extraModes_spec (rows : List Row) :
    let extra := (rows.map (·.mode)).foldl (fun acc md =>
      if modes.contains md ∨ acc.contains md then acc else acc ++ [md]) []
    extra.Nodup ∧ ∀ md, md ∈ extra ↔ md ∈ rows.map Row.mode ∧ md ∉ modes := by
  have h := Text.foldl_appendNew (fun md => md ∉ modes) (fun acc md =>
      if modes.contains md ∨ acc.contains md then acc else acc ++ [md])
    (fun acc md => by
      by_cases hm : md ∈ modes <;> by_cases ha : md ∈ acc <;> simp [hm, ha])
    (rows.map (·.mode)) [] List.nodup_nil
  refine ⟨h.1, fun md => ?_⟩
  rw [h.2]
  simp

/-- The totals hold one entry for each counted mode and each mode with rows, and each entry is
the total of its mode. -/
theorem totalsOf_spec (rows : List Row) :
    ((totalsOf rows).map Prod.fst).Nodup ∧
      ∀ md n, (md, n) ∈ totalsOf rows ↔
        (md ∈ modes ∨ md ∈ rows.map Row.mode) ∧ n = totalOf md rows := by
  obtain ⟨hnd, hmem⟩ := extraModes_spec rows
  have hmodes : modes.Nodup := by decide
  refine ⟨?_, fun md n => ?_⟩
  · simp only [totalsOf, List.map_map]
    refine List.nodup_append.2 ⟨?_, ?_, ?_⟩ |>.map_on (fun x _ y _ h => by simpa using h)
    · exact hmodes
    · exact hnd
    · intro a ha b hb hab
      subst hab
      exact ((hmem a).1 hb).2 ha
  · simp only [totalsOf, List.mem_map, List.mem_append, Prod.mk.injEq, hmem]
    constructor
    · rintro ⟨m, hm, rfl, rfl⟩
      exact ⟨hm.imp id (·.1), rfl⟩
    · rintro ⟨hm, rfl⟩
      refine ⟨md, ?_, rfl, rfl⟩
      by_cases h : md ∈ modes
      · exact .inl h
      · exact .inr ⟨hm.resolve_left h, h⟩

/-- After increments on an empty table, the count of a mode on a day is the number of its
increments on that day, the total of a mode is the number of its increments, and the totals
hold one entry for each counted mode and each mode ever incremented, holding its total. -/
theorem counts_after (incs : List (String × String)) :
    (∀ md d, countOn md d (incs.foldl bumpStep []) = incs.count (md, d)) ∧
    (∀ md, totalOf md (incs.foldl bumpStep []) = incs.countP (fun inc => inc.1 = md)) ∧
    ((totalsOf (incs.foldl bumpStep [])).map Prod.fst).Nodup ∧
    ∀ md n, (md, n) ∈ totalsOf (incs.foldl bumpStep []) ↔
      (md ∈ modes ∨ md ∈ incs.map Prod.fst) ∧ n = incs.countP (fun inc => inc.1 = md) := by
  have hk : KeysUnique [] := List.nodup_nil
  obtain ⟨hnd, hmem⟩ := totalsOf_spec (incs.foldl bumpStep [])
  refine ⟨fun md d => ?_, fun md => ?_, hnd, fun md n => ?_⟩
  · rw [countOn_foldl_bumpStep md d incs [] hk, show countOn md d [] = 0 from rfl, Nat.zero_add]
  · rw [totalOf_foldl_bumpStep md incs [] hk, show totalOf md [] = 0 from rfl, Nat.zero_add]
  · rw [hmem, mem_modes_foldl_bumpStep, totalOf_foldl_bumpStep md incs [] hk]
    simp [totalOf]

end SqlSearch.Stats
