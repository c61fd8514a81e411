import SqlSearch.Host.Memory
import SqlSearch.Proofs.WrittenJson
import SqlSearch.Proofs.CountTable
/-! The invocation store over the model of the system. A row is written as a JSON array on a
line of its own and reads back as itself, so the rows of a store file read back exactly
(`readRows_writeRows`). `StoreFile` says that an open store's file holds a given table with
one row per mode and day; an increment keeps it, with the table bumped on the world's date, and
the reads give the counts of the table (`StoreFile.increment`, `StoreFile.countByDate_run`).
Over any increments from an empty table, each made on its own day, every read agrees with the
increments made (`store_counts_increments`). -/
namespace SqlSearch.Host.World

/-! ### Files of the model -/

theorem find?_filter_key (es : List (String × Entry)) (abs a : String) :
    (es.filter (·.1 ≠ abs)).find? (·.1 = a) = if a = abs then none else es.find? (·.1 = a) := by
  induction es with
  | nil => simp
  | cons x es ih =>
    by_cases hx : x.1 = abs
    · rw [List.filter_cons_of_neg (by simpa using hx), ih]
      by_cases ha : a = abs
      · simp [ha]
      · simp [ha, hx, Ne.symm ha]
    · rw [List.filter_cons_of_pos (by simpa using hx), List.find?_cons, List.find?_cons, ih]
      by_cases ha : a = abs
      · subst ha
        simp [hx]
      · simp [ha]

/-- Setting an entry changes what that path holds and nothing else. -/
theorem lookup_put (w : World) (abs a : String) (e : Entry) :
    (w.put abs e).lookup a = if a = abs then some e else w.lookup a := by
  unfold lookup put
  rw [List.find?_append, find?_filter_key]
  by_cases ha : a = abs
  · simp [ha]
  · simp [ha, Ne.symm ha]

@[simp] theorem cwd_put (w : World) (abs : String) (e : Entry) : (w.put abs e).cwd = w.cwd := rfl

theorem checkParents_ok_iff (w : World) (op path abs : String) :
    w.checkParents op path abs = .ok () ↔ ∀ a ∈ ancestors abs, w.lookup a = some .directory := by
  unfold checkParents
  induction ancestors abs with
  | nil => simp [List.foldlM]; rfl
  | cons a as ih =>
    rw [List.foldlM_cons]
    cases h : w.lookup a with
    | none => simp [h, bind, Except.bind]
    | some e =>
      cases e with
      | directory => simp [h, bind, Except.bind, ih]
      | file c => simp [h, bind, Except.bind]
      | device p => simp [h, bind, Except.bind]

theorem run_bind_of {σ α β : Type} {x : StateM σ α} {f : α → StateM σ β} {s s' : σ} {a : α}
    (h : x.run s = (a, s')) : (x >>= f).run s = (f a).run s' := by
  rw [StateT.run_bind, h]
  rfl

section File

variable {w : World} {path c : String}
  (hp : ∀ a ∈ ancestors (absolutePath w.cwd path), w.lookup a = some .directory)
  (hl : w.lookup (absolutePath w.cwd path) = some (.file c))

include hp hl in
theorem readFile_run (hne : path ≠ "") : (World.host.readFile path).run w = (.ok c, w) := by
  have hpar := (checkParents_ok_iff w "open" path _).2 hp
  simp [World.host, locate, hne, hpar, hl]
  rfl

include hp hl in
/-- Creating a file that exists empties it. -/
theorem createFile_run :
    (World.host.createFile path).run w = (.ok (), w.put (absolutePath w.cwd path) (.file "")) := by
  have hpar := (checkParents_ok_iff w "open" path _).2 hp
  simp [World.host, hpar, hl]
  rfl

include hl in
theorem appendFile_run (text : String) :
    (World.host.appendFile path text).run w =
      (.ok (), w.put (absolutePath w.cwd path) (.file (c ++ text))) := by
  simp [World.host, hl]
  rfl

end File

theorem today_run (w : World) : World.host.today.run w = (w.date, w) := rfl

end SqlSearch.Host.World

namespace SqlSearch.Stats

open SqlSearch.Host SqlSearch.Json

/-! ### Row text -/

theorem Row.text_toList (r : Row) :
    r.text.toList = '[' :: ((quoteString false r.mode).toList ++ ',' ::
      ((quoteString false r.date).toList ++ ',' :: (Nat.toDigits 10 r.count ++ [']']))) := by
  have hnum : (render false (.int r.count)).toList = Nat.toDigits 10 r.count := Nat.toList_repr
  simp [Row.text, render, renderItems, hnum]

theorem parse?_row_text (r : Row) :
    parse? r.text = some (.arr [.str r.mode, .str r.date, .int r.count]) := by
  -- the reader takes the three items in turn and stops at the closing bracket
  have hcount : readItems 2 [.str r.date, .str r.mode] false (Nat.toDigits 10 r.count ++ [']']) =
      some (.arr [.str r.mode, .str r.date, .int r.count], []) :=
    readItems_last ((readValue_skipSpace 1 _).trans
      (readValue_toDigits r.count 0 [] (by decide) (by decide) (by decide))) rfl
  have hdate : readItems 3 [.str r.mode] false
      ((quoteString false r.date).toList ++ ',' :: (Nat.toDigits 10 r.count ++ [']'])) =
      some (.arr [.str r.mode, .str r.date, .int r.count], []) := by
    rw [readItems_next ((readValue_skipSpace 2 _).trans (readValue_quoteString false r.date 1 _)) rfl,
      hcount]
  have hread : readValue 5 (r.text.toList ++ []) =
      some (.arr [.str r.mode, .str r.date, .int r.count], []) := by
    rw [List.append_nil, Row.text_toList, readValue_arr rfl,
      readItems_next ((readValue_skipSpace 3 _).trans (readValue_quoteString false r.mode 2 _)) rfl,
      hdate]
  simpa using parse?_of_readValue hread

/-- A row's text reads back as the row. -/
theorem Row.ofText?_text (r : Row) : Row.ofText? r.text = some r := by
  rw [Row.ofText?, parse?_row_text]
  show (fun c => (⟨r.mode, r.date, c⟩ : Row)) <$> (toString r.count).toNat? = some r
  rw [toNat?_toString]
  rfl

theorem newline_not_mem_text (r : Row) : '\n' ∉ r.text.toList := by
  have hdig : '\n' ∉ Nat.toDigits 10 r.count := fun h =>
    absurd (Nat.isDigit_of_mem_toDigits (by decide) (by decide) h) (by decide)
  rw [Row.text_toList]
  simp [newline_not_mem_quoteString, hdig]

/-! ### The store file -/

theorem writeRows_toList (rows : List Row) :
    (writeRows rows).toList = rows.flatMap fun r => r.text.toList ++ ['\n'] := by
  simp [writeRows, List.flatMap_map]

/-- The lines of a store file are its rows' texts, then the empty text after the last line
feed. -/
theorem splitOn_writeRows (rows : List Row) :
    (writeRows rows).toList.splitOn '\n' = rows.map (·.text.toList) ++ [[]] := by
  rw [writeRows_toList]
  induction rows with
  | nil => rfl
  | cons r rows ih =>
    rw [List.flatMap_cons, List.append_assoc, List.cons_append,
      List.splitOn_append_cons_self_of_not_mem (newline_not_mem_text r), List.nil_append, ih]
    rfl

theorem readRows_writeRows (rows : List Row) : readRows (writeRows rows) = rows := by
  have hempty : Row.ofText? "" = none := rfl
  rw [readRows, splitOn_writeRows]
  simp [List.filterMap_append, Row.ofText?_text, hempty]

/-- The store is open and its file, whose directories all exist, holds the table `rows`, with
one row per mode and day. -/
structure StoreFile (w : World) (s : Store) (rows : List Row) : Prop where
  isOpen : s.isOpen = true
  named : s.path ≠ ""
  parents : ∀ a ∈ ancestors (absolutePath w.cwd s.path), w.lookup a = some .directory
  holds : w.lookup (absolutePath w.cwd s.path) = some (.file (writeRows rows))
  keys : KeysUnique rows

variable {w : World} {s : Store} {rows : List Row}

theorem StoreFile.rows_run (hw : StoreFile w s rows) (context : String) :
    (s.rows World.host context).run w = (.ok rows, w) := by
  have hread := World.readFile_run hw.parents hw.holds hw.named
  simp only [Store.rows, hw.isOpen, Bool.not_true, Bool.false_eq_true, if_false, readIfPresent]
  rw [StateT.run_bind, StateT.run_bind, hread]
  show (Except.ok (readRows (writeRows rows)), w) = _
  rw [readRows_writeRows]

/-- An increment reads the table, empties the file and writes the table bumped on the world's
date. -/
theorem StoreFile.increment_run (hw : StoreFile w s rows) (md : String) :
    (s.increment World.host md).run w =
      (.ok (), (w.put (absolutePath w.cwd s.path) (.file "")).put (absolutePath w.cwd s.path)
        (.file ("" ++ writeRows (bump md w.date rows)))) := by
  have hcreate := World.createFile_run hw.parents hw.holds
  have happend := World.appendFile_run
    (by rw [World.lookup_put, if_pos rfl] : (w.put (absolutePath w.cwd s.path) (.file "")).lookup
      (absolutePath w.cwd s.path) = some (.file "")) (writeRows (bump md w.date rows))
  unfold Store.increment
  dsimp only
  rw [World.run_bind_of (hw.rows_run _)]
  dsimp only
  rw [World.run_bind_of (World.today_run w), World.run_bind_of hcreate]
  dsimp only
  rw [World.run_bind_of happend]
  rfl

/-- After an increment the file holds the table bumped on the world's date. -/
theorem StoreFile.increment (hw : StoreFile w s rows) (md : String) :
    StoreFile ((s.increment World.host md).run w).2 s (bump md w.date rows) := by
  rw [hw.increment_run]
  -- only the store's own path changed, and no directory above it is that path
  have hne : ∀ a ∈ ancestors (absolutePath w.cwd s.path), a ≠ absolutePath w.cwd s.path := by
    rintro a ha rfl
    have hdir := hw.parents _ ha
    rw [hw.holds] at hdir
    cases hdir
  refine ⟨hw.isOpen, hw.named, fun a ha => ?_, ?_, bump_keysUnique md w.date hw.keys⟩
  · simp only [World.cwd_put] at ha ⊢
    rw [World.lookup_put, World.lookup_put, if_neg (hne a ha), if_neg (hne a ha)]
    exact hw.parents a ha
  · simp [World.lookup_put]

/-- Setting the date changes no file. -/
theorem StoreFile.setDate (hw : StoreFile w s rows) (d : String) :
    StoreFile { w with date := d } s rows :=
  ⟨hw.isOpen, hw.named, hw.parents, hw.holds, hw.keys⟩

/-- Increments made one after another, each on its own day: the date is set to the day before
the increment is made. -/
def incrementOn (s : Store) : List (String × String) → StateM World (List (Except String Unit))
  | [] => pure []
  | (md, d) :: incs => do
    modify fun w => { w with date := d }
    let r ← s.increment World.host md
    let rs ← incrementOn s incs
    return r :: rs

/-- Every increment succeeds, and the file ends up holding the table with every increment
bumped in turn. -/
theorem StoreFile.incrementOn_run :
    ∀ (incs : List (String × String)) {w : World} {rows : List Row}, StoreFile w s rows →
      ((incrementOn s incs).run w).1 = incs.map (fun _ => .ok ()) ∧
        StoreFile ((incrementOn s incs).run w).2 s (incs.foldl bumpStep rows)
  | [], _, _, hw => ⟨rfl, hw⟩
  | (md, d) :: incs, w, rows, hw => by
    have hday := hw.setDate d
    have hmod : (modify fun w : World => { w with date := d } : StateM World Unit).run w =
        ((), { w with date := d }) := rfl
    obtain ⟨hrs, hend⟩ := (hday.increment md).incrementOn_run incs
    have hinc : (s.increment World.host md).run { w with date := d } =
        (.ok (), ((s.increment World.host md).run { w with date := d }).2) := by
      rw [hday.increment_run md]
    have hrun : (incrementOn s ((md, d) :: incs)).run w =
        (Except.ok () :: ((incrementOn s incs).run
          ((s.increment World.host md).run { w with date := d }).2).1,
         ((incrementOn s incs).run ((s.increment World.host md).run { w with date := d }).2).2) := by
      rw [incrementOn.eq_2, World.run_bind_of hmod, World.run_bind_of hinc, StateT.run_bind]
      rfl
    rw [hrun, hrs]
    exact ⟨rfl, hend⟩

theorem StoreFile.countByDate_run (hw : StoreFile w s rows) (md d : String) :
    ((s.countByDate World.host md d).run w).1 = .ok (countOn md d rows) := by
  unfold Store.countByDate
  rw [World.run_bind_of (hw.rows_run _)]
  rfl

theorem StoreFile.total_run (hw : StoreFile w s rows) (md : String) :
    ((s.total World.host md).run w).1 = .ok (totalOf md rows) := by
  unfold Store.total
  rw [World.run_bind_of (hw.rows_run _)]
  rfl

theorem StoreFile.totals_run (hw : StoreFile w s rows) :
    ((s.totals World.host).run w).1 = .ok (totalsOf rows) := by
  unfold Store.totals
  rw [World.run_bind_of (hw.rows_run _)]
  rfl

/-! ### Counting increments -/

/-- Over any increments on a store whose table is empty, each made on its own day, every
increment succeeds and every read agrees with the increments made: the count of a mode on a
day is the number of its increments that day, the total of a mode is the number of its
increments, and the totals hold each counted mode and each mode incremented exactly once, with
its total. -/
theorem store_counts_increments (w : World) (s : Store) (hw : StoreFile w s [])
    (incs : List (String × String)) :
    ((incrementOn s incs).run w).1 = incs.map (fun _ => .ok ()) ∧
      (∀ md d, ((s.countByDate World.host md d).run ((incrementOn s incs).run w).2).1 =
        .ok (incs.count (md, d))) ∧
      (∀ md, ((s.total World.host md).run ((incrementOn s incs).run w).2).1 =
        .ok (incs.countP (fun inc => inc.1 = md))) ∧
      ∃ totals, ((s.totals World.host).run ((incrementOn s incs).run w).2).1 = .ok totals ∧
        (totals.map Prod.fst).Nodup ∧
        ∀ md n, (md, n) ∈ totals ↔
          (md ∈ modes ∨ md ∈ incs.map Prod.fst) ∧ n = incs.countP (fun inc => inc.1 = md) := by
  obtain ⟨hrs, hend⟩ := hw.incrementOn_run incs
  obtain ⟨hcount, htotal, hnodup, hmem⟩ := counts_after incs
  refine ⟨hrs, fun md d => ?_, fun md => ?_, totalsOf (incs.foldl bumpStep []), hend.totals_run,
    hnodup, hmem⟩
  · rw [hend.countByDate_run, hcount]
  · rw [hend.total_run, htotal]

/-- A store whose file at the root is empty counts two searches and a run on one day: two
searches that day. -/
theorem store_counts_two_searches :
    StoreFile { entries := [("/", .directory), ("/stats.db", .file "")] } ⟨"/stats.db", true⟩ [] ∧
      ((Store.countByDate World.host ⟨"/stats.db", true⟩ "search" "2024-05-01").run
        ((incrementOn ⟨"/stats.db", true⟩ [("search", "2024-05-01"), ("run", "2024-05-01"),
          ("search", "2024-05-01")]).run { entries := [("/", .directory), ("/stats.db", .file "")] }).2).1 =
        .ok 2 := by
  have habs : absolutePath "/" "/stats.db" = "/stats.db" := by decide +kernel
  have hanc : ancestors "/stats.db" = ["/"] := by decide +kernel
  have hw : StoreFile { entries := [("/", .directory), ("/stats.db", .file "")] }
      ⟨"/stats.db", true⟩ [] := by
    refine ⟨rfl, by decide, fun a ha => ?_, ?_, List.nodup_nil⟩
    · rw [show ({ entries := [("/", .directory), ("/stats.db", .file "")] } : World).cwd = "/" from rfl,
        habs, hanc, List.mem_singleton] at ha
      subst ha
      rfl
    · rw [show ({ entries := [("/", .directory), ("/stats.db", .file "")] } : World).cwd = "/" from rfl,
        habs]
      rfl
  exact ⟨hw, (store_counts_increments _ _ hw _).2.1 "search" "2024-05-01"⟩

end SqlSearch.Stats
