import SqlSearch.Host.Memory
import SqlSearch.Host.Files
import SqlSearch.Proofs.CleanPaths
import SqlSearch.Proofs.CountStore
/-! Walking a directory of a file tree. A world is a tree (`World.Tree`) when every entry sits at
a path of plain names below the root, each path once, with a directory at every path above it,
and no deeper than the walk's fuel. Listing a directory of a tree gives its children by name
(`mem_children`), and walking it with `walkFilesFuel` names every file and device below it
exactly once, by paths that resolve to them, reading nothing and changing nothing
(`walkFilesFuel_run`). The walk is an induction on the fuel; one level is a fold over the
children, carried by `WalkedChildren` from one child to the next. -/
namespace SqlSearch.Host

/-- The kind a directory listing gives an entry. -/
def Entry.kind : Entry → Kind
  | .directory => .directory
  | _ => .file

/-- The text read from an entry; a directory has none. -/
def Entry.text? : Entry → Option String
  | .file c => some c
  | .device _ => some ""
  | .directory => none

theorem Entry.kind_eq_directory {e : Entry} : e.kind = .directory ↔ e = .directory := by
  cases e <;> simp [Entry.kind]

/-- A listing calls an entry a file exactly when it reads as text. -/
theorem Entry.kind_eq_file {e : Entry} : e.kind = .file ↔ e.text?.isSome := by
  cases e <;> simp [Entry.kind, Entry.text?]

namespace World

/-- The files of a world form a tree of names below the root, each path once, every directory
above an entry is there, no entry is more than 4096 names deep, and the working directory is
absolute. -/
structure Tree (w : World) : Prop where
  cwd : w.cwd.startsWith "/" = true
  keys : (w.entries.map Prod.fst).Nodup
  named : ∀ e ∈ w.entries, ∃ ns, (∀ n ∈ ns, PlainName n) ∧ e.1 = absOf ns
  parents : ∀ e ∈ w.entries, ∀ a ∈ ancestors e.1, w.lookup a = some .directory
  shallow : ∀ e ∈ w.entries, (ancestors e.1).length ≤ 4096

variable {w : World}

theorem lookup_of_mem (hw : w.Tree) {p : String} {e : Entry} (h : (p, e) ∈ w.entries) :
    w.lookup p = some e := by
  obtain ⟨x, hx⟩ := Option.isSome_iff_exists.1
    (List.find?_isSome.2 ⟨(p, e), h, by simp⟩ : (w.entries.find? (·.1 = p)).isSome)
  have hx1 : x.1 = p := by simpa using List.find?_some hx
  have hxe : x = (p, e) := List.inj_on_of_nodup_map hw.keys (List.mem_of_find?_eq_some hx) h hx1
  unfold lookup
  rw [hx, hxe]
  rfl

theorem mem_of_lookup {p : String} {e : Entry} (h : w.lookup p = some e) : (p, e) ∈ w.entries := by
  unfold lookup at h
  obtain ⟨⟨q, e'⟩, hfind, rfl⟩ := Option.map_eq_some_iff.1 h
  have hq : q = p := by simpa using List.find?_some hfind
  subst hq
  exact List.mem_of_find?_eq_some hfind

/-- An entry of a tree lies no more than 4096 names below the root. -/
theorem Tree.length_le (hw : w.Tree) {ms : List String} {e : Entry} (hms : ∀ n ∈ ms, PlainName n)
    (hmem : (absOf ms, e) ∈ w.entries) : ms.length ≤ 4096 := by
  have hlen := hw.shallow _ hmem
  rwa [ancestors_absOf hms, List.length_map, List.length_range] at hlen

theorem locate_of_mem (hw : w.Tree) {q p : String} {e : Entry} (hq : q ≠ "")
    (habs : absolutePath w.cwd q = p) (h : (p, e) ∈ w.entries) (op : String) :
    w.locate op q = .ok (p, e) := by
  have hpar : w.checkParents op q p = .ok () := (checkParents_ok_iff w op q p).2 (hw.parents (p, e) h)
  have hempty : q.isEmpty = false := by
    rw [Bool.eq_false_iff, ne_eq, String.isEmpty_iff]
    exact hq
  unfold locate
  simp only [hempty, Bool.false_eq_true, if_false]
  rw [habs, hpar, lookup_of_mem hw h]
  rfl

/-- The entries right below a directory, by name, as listing the directory gives them. -/
def children (w : World) (abs : String) : List (String × Kind) :=
  (w.entries.filterMap fun (p, e) =>
    if p ≠ abs ∧ dirPath p = abs then some (basePath p, e.kind) else none).mergeSort
    fun a b => a.1 ≤ b.1

theorem stat_run (hw : w.Tree) {q p : String} {e : Entry} (hq : q ≠ "")
    (habs : absolutePath w.cwd q = p) (h : (p, e) ∈ w.entries) :
    (World.host.stat q).run w = (.ok e.kind, w) := by
  have hloc := locate_of_mem hw hq habs h "stat"
  simp only [World.host, StateT.run_bind, StateT.run_get, pure_bind, StateT.run_pure, hloc]
  rfl

theorem readFile_run_of_mem (hw : w.Tree) {q p c : String} {e : Entry} (hq : q ≠ "")
    (habs : absolutePath w.cwd q = p) (h : (p, e) ∈ w.entries) (hc : e.text? = some c) :
    (World.host.readFile q).run w = (.ok c, w) := by
  have hloc := locate_of_mem hw hq habs h "open"
  simp only [World.host, StateT.run_bind, StateT.run_get, pure_bind, StateT.run_pure, hloc]
  cases e with
  | file c' =>
    cases hc
    rfl
  | device _ =>
    cases hc
    rfl
  | directory => cases hc

theorem readDir_run (hw : w.Tree) {q p : String} (hq : q ≠ "") (habs : absolutePath w.cwd q = p)
    (h : (p, .directory) ∈ w.entries) :
    (World.host.readDir q).run w = (.ok (w.children p), w) := by
  have hloc := locate_of_mem hw hq habs h "open"
  simp only [World.host, StateT.run_bind, StateT.run_get, pure_bind, StateT.run_pure, hloc]
  rfl

variable {ns : List String}

theorem dirPath_root : dirPath (absOf []) = absOf [] := by decide +kernel

/-- An entry whose directory is a directory of names is that directory with one name more. -/
theorem child_of_dirPath (hw : w.Tree) (hns : ∀ n ∈ ns, PlainName n) {p : String} {e : Entry}
    (h : (p, e) ∈ w.entries) (hne : p ≠ absOf ns) (hdir : dirPath p = absOf ns) :
    PlainName (basePath p) ∧ p = absOf (ns ++ [basePath p]) := by
  obtain ⟨ms, hms, rfl⟩ := hw.named _ h
  rcases List.eq_nil_or_concat ms with rfl | ⟨ms', m, rfl⟩
  · exact absurd (dirPath_root ▸ hdir : absOf [] = absOf ns).symm hne.symm
  rw [List.concat_eq_append] at hms hdir ⊢
  have hms' : ∀ n ∈ ms', PlainName n := fun n hn => hms n (by simp [hn])
  have hm : PlainName m := hms m (by simp)
  rw [dirPath_absOf_append hms' hm] at hdir
  rw [absOf_inj hms' hns hdir, basePath_absOf_append hm]
  exact ⟨hm, rfl⟩

theorem mem_children (hw : w.Tree) (hns : ∀ n ∈ ns, PlainName n) (c : String × Kind) :
    c ∈ w.children (absOf ns) ↔
      ∃ e, (absOf (ns ++ [c.1]), e) ∈ w.entries ∧ PlainName c.1 ∧ c.2 = e.kind := by
  unfold children
  rw [List.mem_mergeSort, List.mem_filterMap]
  constructor
  · rintro ⟨⟨p, e⟩, hmem, hc⟩
    dsimp only at hc
    by_cases hkeep : p ≠ absOf ns ∧ dirPath p = absOf ns
    · rw [if_pos hkeep, Option.some.injEq] at hc
      subst hc
      obtain ⟨hplain, hp⟩ := child_of_dirPath hw hns hmem hkeep.1 hkeep.2
      exact ⟨e, hp ▸ hmem, hplain, rfl⟩
    · rw [if_neg hkeep] at hc
      cases hc
  · rintro ⟨e, hmem, hplain, hkind⟩
    refine ⟨(absOf (ns ++ [c.1]), e), hmem, ?_⟩
    have hne : absOf (ns ++ [c.1]) ≠ absOf ns := fun h => by
      have := congrArg List.length (absOf_inj (by simpa [or_imp, forall_and] using ⟨hns, hplain⟩) hns h)
      simp at this
    dsimp only
    rw [if_pos ⟨hne, dirPath_absOf_append hns hplain⟩, basePath_absOf_append hplain, ← hkind]

/-- A name in a directory's listing belongs to one entry. -/
theorem path_of_mem_listed (hw : w.Tree) (hns : ∀ n ∈ ns, PlainName n) {x : String × Entry}
    (hx : x ∈ w.entries) {n : String}
    (hn : n ∈ (if x.1 ≠ absOf ns ∧ dirPath x.1 = absOf ns then some (basePath x.1, x.2.kind)
      else none).map Prod.fst) : x.1 = absOf (ns ++ [n]) := by
  by_cases hkeep : x.1 ≠ absOf ns ∧ dirPath x.1 = absOf ns
  · rw [if_pos hkeep] at hn
    obtain rfl : basePath x.1 = n := by simpa using hn
    exact (child_of_dirPath hw hns hx hkeep.1 hkeep.2).2
  · rw [if_neg hkeep] at hn
    cases hn

theorem nodup_children_names (hw : w.Tree) (hns : ∀ n ∈ ns, PlainName n) :
    ((w.children (absOf ns)).map Prod.fst).Nodup := by
  unfold children
  rw [((List.mergeSort_perm _ _).map Prod.fst).nodup_iff, List.map_filterMap]
  -- entries have distinct paths, and a listed name gives back its entry's path
  have hpw : w.entries.Pairwise fun x x' => x ∈ w.entries ∧ x' ∈ w.entries ∧ x.1 ≠ x'.1 :=
    List.Pairwise.and_mem.1 (List.pairwise_map.1 hw.keys)
  refine List.Pairwise.filterMap _ ?_ hpw
  rintro x x' ⟨hx, hx', hne⟩ n hn n' hn' rfl
  exact hne ((path_of_mem_listed hw hns hx hn).trans (path_of_mem_listed hw hns hx' hn').symm)

end World

open World

variable {w : World} {ns : List String}

/-! ### Walking a directory -/

/-- The path `x` names the entry `e`, at the names `ms` from the root, and reads as text. -/
structure Names (w : World) (x : String) (ms : List String) (e : Entry) : Prop where
  ne : x ≠ ""
  stack : absStack w.cwd x = ms.reverse
  ext : extension x = extension (absOf ms)
  mem : (absOf ms, e) ∈ w.entries
  text : e.text?.isSome

theorem Names.absolutePath_eq_absOf (hw : w.Tree) {x : String} {ms : List String} {e : Entry}
    (h : Names w x ms e) : absolutePath w.cwd x = absOf ms := by
  rw [absolutePath_eq hw.cwd, h.stack, absOf_eq]

theorem Names.plain {x : String} {ms : List String} {e : Entry} (h : Names w x ms e) :
    ∀ n ∈ ms, PlainName n :=
  fun n hn => absStack_names w.cwd x n (by rw [h.stack]; exact List.mem_reverse.2 hn)

/-- A path names one entry only. -/
theorem Names.unique (hw : w.Tree) {x : String} {ms ms' : List String} {e e' : Entry}
    (h : Names w x ms e) (h' : Names w x ms' e') : ms = ms' ∧ e = e' := by
  have hms : ms = ms' := List.reverse_injective (h.stack.symm.trans h'.stack)
  subst hms
  exact ⟨rfl, Option.some.inj ((lookup_of_mem hw h.mem).symm.trans (lookup_of_mem hw h'.mem))⟩

theorem Names.readFile_run (hw : w.Tree) {x : String} {ms : List String} {e : Entry} {c : String}
    (h : Names w x ms e) (hc : e.text? = some c) : (World.host.readFile x).run w = (.ok c, w) :=
  readFile_run_of_mem hw h.ne (h.absolutePath_eq_absOf hw) h.mem hc

/-- `found` names exactly the files below the children `cs` of the directory at `ns`, each once. -/
structure WalkedChildren (w : World) (ns : List String) (cs : List (String × Kind))
    (found : List String) : Prop where
  sound : ∀ x ∈ found, ∃ c ∈ cs, ∃ ms e, Names w x (ns ++ c.1 :: ms) e
  complete : ∀ c ∈ cs, ∀ ms e, (∀ n ∈ ms, PlainName n) → (absOf (ns ++ c.1 :: ms), e) ∈ w.entries →
    e.text?.isSome → ∃ x ∈ found, absStack w.cwd x = (ns ++ c.1 :: ms).reverse
  nodup : (found.map (absStack w.cwd)).Nodup

theorem WalkedChildren.nil : WalkedChildren w ns [] [] :=
  ⟨by simp, by simp, by simp⟩

theorem WalkedChildren.cons {c : String × Kind} {cs : List (String × Kind)} {m₁ m₂ : List String}
    (h₁ : WalkedChildren w ns [c] m₁) (h₂ : WalkedChildren w ns cs m₂) (hc : c.1 ∉ cs.map Prod.fst) :
    WalkedChildren w ns (c :: cs) (m₁ ++ m₂) := by
  refine ⟨fun x hx => ?_, fun c' hc' ms e hms hmem htext => ?_, ?_⟩
  · rcases List.mem_append.1 hx with hx | hx
    · obtain ⟨c', hc', rest⟩ := h₁.sound x hx
      exact ⟨c', by simp_all, rest⟩
    · obtain ⟨c', hc', rest⟩ := h₂.sound x hx
      exact ⟨c', List.mem_cons_of_mem _ hc', rest⟩
  · rcases List.mem_cons.1 hc' with rfl | hc'
    · obtain ⟨x, hx, hstack⟩ := h₁.complete c' (by simp) ms e hms hmem htext
      exact ⟨x, List.mem_append_left _ hx, hstack⟩
    · obtain ⟨x, hx, hstack⟩ := h₂.complete c' hc' ms e hms hmem htext
      exact ⟨x, List.mem_append_right _ hx, hstack⟩
  · -- the files below different children have different names after `ns`
    rw [List.map_append, List.nodup_append]
    refine ⟨h₁.nodup, h₂.nodup, ?_⟩
    intro a ha b hb hab
    obtain ⟨x, hx, rfl⟩ := List.mem_map.1 ha
    obtain ⟨y, hy, rfl⟩ := List.mem_map.1 hb
    obtain ⟨c₁, hc₁, ms₁, e₁, hn₁⟩ := h₁.sound x hx
    obtain ⟨c₂, hc₂, ms₂, e₂, hn₂⟩ := h₂.sound y hy
    rw [List.mem_singleton] at hc₁
    subst hc₁
    rw [hn₁.stack, hn₂.stack] at hab
    have hnames := List.reverse_injective hab
    simp only [List.append_cancel_left_eq, List.cons.injEq] at hnames
    exact hc (hnames.1 ▸ List.mem_map_of_mem hc₂)

/-- Going over the children of a directory, each of which gives the files below it. -/
theorem foldlM_walked {F : Except IoError (List String) → String × Kind →
      StateM World (Except IoError (List String))} {cs₀ : List (String × Kind)}
    (hchild : ∀ c ∈ cs₀, ∀ found, ∃ more, (F (.ok found) c).run w = (.ok (found ++ more), w) ∧
      WalkedChildren w ns [c] more) :
    ∀ cs, (∀ c ∈ cs, c ∈ cs₀) → (cs.map Prod.fst).Nodup → ∀ found, ∃ more,
      (cs.foldlM F (.ok found)).run w = (.ok (found ++ more), w) ∧ WalkedChildren w ns cs more
  | [], _, _, found => ⟨[], by simp; rfl, WalkedChildren.nil⟩
  | c :: cs, hcs, hnd, found => by
    obtain ⟨m₁, hrun₁, hw₁⟩ := hchild c (hcs c (by simp)) found
    rw [List.map_cons, List.nodup_cons] at hnd
    obtain ⟨m₂, hrun₂, hw₂⟩ := foldlM_walked hchild cs (fun c' hc' => hcs c' (by simp [hc']))
      hnd.2 (found ++ m₁)
    refine ⟨m₁ ++ m₂, ?_, hw₁.cons hw₂ hnd.1⟩
    rw [List.foldlM_cons, World.run_bind_of hrun₁, hrun₂, List.append_assoc]

/-- `paths` names exactly the files below the directory at `ns`, each once. -/
structure Walked (w : World) (ns : List String) (paths : List String) : Prop where
  sound : ∀ x ∈ paths, ∃ ms e, ms ≠ [] ∧ Names w x (ns ++ ms) e
  complete : ∀ ms e, ms ≠ [] → (∀ n ∈ ms, PlainName n) → (absOf (ns ++ ms), e) ∈ w.entries →
    e.text?.isSome → ∃ x ∈ paths, absStack w.cwd x = (ns ++ ms).reverse
  nodup : (paths.map (absStack w.cwd)).Nodup

theorem Walked.nodup_filter {paths : List String} (hwalk : Walked w ns paths) (p : String → Bool) :
    (paths.filter p).Nodup :=
  (List.Nodup.of_map _ hwalk.nodup).filter p

theorem plain_append_cons {ms rest : List String} {m : String} (hms : ∀ n ∈ ms, PlainName n)
    (hm : PlainName m) (hrest : ∀ n ∈ rest, PlainName n) : ∀ n ∈ ms ++ m :: rest, PlainName n := by
  intro n hn
  rcases List.mem_append.1 hn with hn | hn
  · exact hms n hn
  rcases List.mem_cons.1 hn with rfl | hn
  · exact hm
  · exact hrest n hn

/-- An entry with a name below it is a directory. -/
theorem lookup_above (hw : w.Tree) {ms : List String} {e : Entry} {m : String} (rest : List String)
    (hplain : ∀ n ∈ ms ++ m :: rest, PlainName n) (hrest : rest ≠ [])
    (hmem : (absOf (ms ++ m :: rest), e) ∈ w.entries) :
    w.lookup (absOf (ms ++ [m])) = some .directory := by
  refine hw.parents _ hmem _ ((mem_ancestors_absOf hplain fun n hn => hplain n ?_).2
    ⟨rest, hrest, by simp⟩)
  simp only [List.mem_append, List.mem_cons] at hn ⊢
  tauto

/-- Below a file there is nothing. -/
theorem WalkedChildren.file (hw : w.Tree) (hns : ∀ n ∈ ns, PlainName n) {q : String}
    (hq : q ≠ "") (hstack : absStack w.cwd q = ns.reverse) {name : String} {e : Entry}
    (hmem : (absOf (ns ++ [name]), e) ∈ w.entries) (hname : PlainName name)
    (hkind : e.kind = .file) :
    WalkedChildren w ns [(name, .file)] [joinPath q name] := by
  have htext : e.text?.isSome := Entry.kind_eq_file.1 hkind
  refine ⟨fun x hx => ?_, fun c hc ms e' hms hmem' htext' => ?_, by simp⟩
  · rw [List.mem_singleton] at hx
    subst hx
    refine ⟨(name, .file), by simp, [], e, ⟨joinPath_ne_empty hq hname, ?_, ?_, hmem, htext⟩⟩
    · rw [absStack_joinPath _ hq hname, hstack]
      simp
    · rw [extension_joinPath hq hname, extension_absOf_append hname]
  · rw [List.mem_singleton] at hc
    subst hc
    cases ms with
    | nil =>
      refine ⟨joinPath q name, by simp, ?_⟩
      rw [absStack_joinPath _ hq hname, hstack]
      simp
    | cons m rest =>
      -- a name below the file would make the file a directory
      have hdir := lookup_above hw (m :: rest) (plain_append_cons hns hname hms) (by simp) hmem'
      rw [lookup_of_mem hw hmem, Option.some.injEq] at hdir
      subst hdir
      cases hkind

/-- Below a directory are the files below it, one name further down. -/
theorem WalkedChildren.directory (hw : w.Tree) {name : String} {more : List String}
    (hmem : (absOf (ns ++ [name]), .directory) ∈ w.entries) (hwalk : Walked w (ns ++ [name]) more) :
    WalkedChildren w ns [(name, .directory)] more := by
  refine ⟨fun x hx => ?_, fun c hc ms e hms hmem' htext => ?_, hwalk.nodup⟩
  · obtain ⟨ms, e, -, hnames⟩ := hwalk.sound x hx
    exact ⟨(name, .directory), by simp, ms, e, by simpa using hnames⟩
  · rw [List.mem_singleton] at hc
    subst hc
    cases ms with
    | nil =>
      -- the directory itself is no file
      have he := lookup_of_mem hw hmem'
      rw [lookup_of_mem hw hmem, Option.some.injEq] at he
      subst he
      cases htext
    | cons m rest =>
      obtain ⟨x, hx, hstack⟩ := hwalk.complete (m :: rest) e (by simp) hms (by simpa using hmem')
        htext
      exact ⟨x, hx, by simpa using hstack⟩

/-- The children of a directory cover everything below it. -/
theorem Walked.of_children (hw : w.Tree) (hns : ∀ n ∈ ns, PlainName n) {paths : List String}
    (h : WalkedChildren w ns (w.children (absOf ns)) paths) : Walked w ns paths := by
  refine ⟨fun x hx => ?_, fun ms e hms hplain hmem htext => ?_, h.nodup⟩
  · obtain ⟨c, -, ms, e, hnames⟩ := h.sound x hx
    exact ⟨c.1 :: ms, e, by simp, hnames⟩
  · obtain ⟨m, rest, rfl⟩ := List.exists_cons_of_ne_nil hms
    have hm : PlainName m := hplain m (by simp)
    have hrest : ∀ n ∈ rest, PlainName n := fun n hn => hplain n (by simp [hn])
    -- the name right below the directory is one of its children
    obtain ⟨e', hmem'⟩ : ∃ e', (absOf (ns ++ [m]), e') ∈ w.entries := by
      cases rest with
      | nil => exact ⟨e, hmem⟩
      | cons r rs =>
        exact ⟨.directory, mem_of_lookup (lookup_above hw (r :: rs)
          (plain_append_cons hns hm hrest) (by simp) hmem)⟩
    have hc : (m, e'.kind) ∈ w.children (absOf ns) := (mem_children hw hns _).2 ⟨e', hmem', hm, rfl⟩
    exact h.complete (m, e'.kind) hc rest e hrest hmem htext

theorem exists_walked_of_children (hw : w.Tree) (hns : ∀ n ∈ ns, PlainName n)
    {F : Except IoError (List String) → String × Kind → StateM World (Except IoError (List String))}
    (hchild : ∀ c ∈ w.children (absOf ns), ∀ found, ∃ more,
      (F (.ok found) c).run w = (.ok (found ++ more), w) ∧ WalkedChildren w ns [c] more) :
    ∃ paths, ((w.children (absOf ns)).foldlM F (.ok [])).run w = (.ok paths, w) ∧
      Walked w ns paths := by
  obtain ⟨more, hrun, hwc⟩ := foldlM_walked hchild (w.children (absOf ns)) (fun c hc => hc)
    (nodup_children_names hw hns) []
  exact ⟨more, by simpa using hrun, Walked.of_children hw hns hwc⟩

/-- Walking a directory of a tree, with fuel for every level below it, names exactly the files
below it, each once, and changes nothing. -/
theorem walkFilesFuel_run (hw : w.Tree) :
    ∀ (fuel : Nat) {q : String} {ns : List String}, (∀ n ∈ ns, PlainName n) → q ≠ "" →
      absStack w.cwd q = ns.reverse → (absOf ns, .directory) ∈ w.entries →
      (∀ ms e, (absOf (ns ++ ms), e) ∈ w.entries → (∀ n ∈ ms, PlainName n) → ms.length ≤ fuel) →
      ∃ paths, (walkFilesFuel World.host fuel q).run w = (.ok paths, w) ∧ Walked w ns paths
  | 0, q, ns, _, _, _, _, hdepth => by
    refine ⟨[], rfl, ⟨by simp, fun ms e hms hplain hmem _ => ?_, by simp⟩⟩
    have := hdepth ms e hmem hplain
    simp_all
  | fuel + 1, q, ns, hns, hq, hstack, hdir, hdepth => by
    have habs : absolutePath w.cwd q = absOf ns := by rw [absolutePath_eq hw.cwd, hstack, absOf_eq]
    rw [walkFilesFuel.eq_2, World.run_bind_of (readDir_run hw hq habs hdir)]
    refine exists_walked_of_children hw hns ?_
    rintro ⟨name, kind⟩ hc found
    obtain ⟨e, hmem, hname, hkind⟩ := (mem_children hw hns _).1 hc
    cases kind with
    | file => exact ⟨[joinPath q name], rfl, WalkedChildren.file hw hns hq hstack hmem hname hkind.symm⟩
    | directory =>
      -- a directory child is walked with one level less
      have hedir : e = .directory := Entry.kind_eq_directory.1 hkind.symm
      subst hedir
      obtain ⟨more, hrun, hwalk⟩ := walkFilesFuel_run hw fuel (plain_append_cons hns hname (by simp))
        (joinPath_ne_empty hq hname) (by rw [absStack_joinPath _ hq hname, hstack]; simp) hmem
        (fun ms e hmem' hms => by
          have := hdepth (name :: ms) e (by simpa using hmem') (fun n hn => by
            rcases List.mem_cons.1 hn with rfl | hn
            · exact hname
            · exact hms n hn)
          simp at this
          omega)
      refine ⟨more, ?_, WalkedChildren.directory hw hmem hwalk⟩
      dsimp only
      rw [World.run_bind_of hrun]
      rfl

/-- Distinct walked paths name distinct entries. -/
theorem Walked.absolutePath_injOn (hw : w.Tree) {ns paths : List String} (hwalk : Walked w ns paths) :
    ∀ x ∈ paths, ∀ y ∈ paths, absolutePath w.cwd x = absolutePath w.cwd y → x = y := by
  intro x hx y hy hxy
  obtain ⟨msx, ex, -, hnx⟩ := hwalk.sound x hx
  obtain ⟨msy, ey, -, hny⟩ := hwalk.sound y hy
  rw [hnx.absolutePath_eq_absOf hw, hny.absolutePath_eq_absOf hw] at hxy
  have hms := absOf_inj hnx.plain hny.plain hxy
  refine List.inj_on_of_nodup_map hwalk.nodup hx hy ?_
  rw [hnx.stack, hny.stack, hms]

end SqlSearch.Host
