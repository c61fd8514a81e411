import SqlSearch.Scripts.Scan
import SqlSearch.Proofs.DirectoryWalk
import SqlSearch.Proofs.WrittenJson
import SqlSearch.Proofs.ByteOrder
/-! Scanning finds exactly the scripts at a location (`scan_finds_scripts`). Below a local
directory of a tree (`World.Tree`), the walk names every file once, the scan keeps those whose
extension is `.sql` up to case and reads each, and sorting by path leaves them in strictly
increasing byte order: by absolute path they are the entries below the directory
(`scriptsBelow`). Under an object prefix, the listing is followed page by page, one token after
another, until the store says it has no more (`listScriptsFuel_run`); the kept keys are
downloaded in increasing order, each at a path that reads back as its bucket and key
(`parseObjectPath_join`). One file or one key is read whole, whatever its name. -/
namespace SqlSearch.Host

variable {w : World}

/-- The script a path of the world names: the path and the text of its file. -/
def World.fileScript (w : World) (x : String) : SqlSearch.Scripts.Script :=
  ⟨x, ((w.lookup (absolutePath w.cwd x)).bind Entry.text?).getD ""⟩

theorem Names.text_fileScript (hw : w.Tree) {x : String} {ms : List String} {e : Entry}
    (h : Names w x ms e) : e.text? = some (w.fileScript x).content := by
  obtain ⟨c, hc⟩ := Option.isSome_iff_exists.1 h.text
  simp [World.fileScript, h.absolutePath_eq_absOf hw, World.lookup_of_mem hw h.mem, hc]

namespace World

variable {b p k : String}

/-- The keys of a bucket under a prefix, in the order the store keeps them. -/
def prefixKeys (w : World) (b p : String) : List String :=
  (w.bucketKeys b).filter (·.startsWith p)

/-- The text of the object a bucket keeps under a key; empty when there is none. -/
def objectText (w : World) (b k : String) : String :=
  ((w.objects.find? fun o => o.bucket = b ∧ o.key = k).map (·.content)).getD ""

theorem listObjects_run (hl : w.listError = none) (hb : w.hasBucket b = true)
    {token : Option String} {i : Nat} (hi : (token.bind String.toNat?).getD 0 = i) :
    (World.host.listObjects b p token).run w =
      (.ok ⟨((w.prefixKeys b p).drop i).take (max w.pageSize 1),
          if i + max w.pageSize 1 < (w.prefixKeys b p).length then
            some (toString (i + max w.pageSize 1)) else none⟩,
        { w with listCalls := w.listCalls ++ [(b, p, token)] }) := by
  subst hi
  simp [World.host, hl, prefixKeys, bucketKeys]
  split
  · -- the listing reads the buckets of the world it was given
    rename_i h
    change w.hasBucket b = false at h
    simp [hb] at h
  · rfl

theorem getObject_run (he : w.getErrors = []) (hb : w.hasBucket b = true) {o : StoredObject}
    (ho : w.objects.find? (fun o => o.bucket = b ∧ o.key = k) = some o) :
    (World.host.getObject b k).run w = (.ok o.content, { w with getCalls := w.getCalls ++ [(b, k)] }) := by
  simp only [Bool.decide_and] at ho
  simp [World.host, he]
  split
  · rename_i h
    change w.hasBucket b = false at h
    simp [hb] at h
  · rw [ho]
    rfl

theorem find?_object_of_mem (hk : k ∈ w.bucketKeys b) :
    ∃ o, w.objects.find? (fun o => o.bucket = b ∧ o.key = k) = some o := by
  obtain ⟨o, ho, rfl⟩ := List.mem_map.1 hk
  exact Option.isSome_iff_exists.1 (List.find?_isSome.2 ⟨o, (List.mem_filter.1 ho).1,
    by simpa using (List.mem_filter.1 ho).2⟩)

end World

end SqlSearch.Host

namespace SqlSearch.Scripts

open SqlSearch.Host SqlSearch.Host.World SqlSearch.Text

variable {w : World} {b p k : String}

/-! ### Local scripts -/

/-- Reading the files a walk named, one after another: each is read with its text. -/
theorem foldlM_read {G : Except String (List Script) → String →
      StateM World (Except String (List Script))} (hw : w.Tree)
    (hread : ∀ found x text, (World.host.readFile x).run w = (.ok text, w) →
      (G (.ok found) x).run w = (.ok (found ++ [⟨x, text⟩]), w)) :
    ∀ (xs : List String) (found : List Script), (∀ x ∈ xs, ∃ ms e, Names w x ms e) →
      (xs.foldlM G (.ok found)).run w = (.ok (found ++ xs.map w.fileScript), w)
  | [], found, _ => by simp; rfl
  | x :: xs, found, hxs => by
    obtain ⟨ms, e, hx⟩ := hxs x (by simp)
    rw [List.foldlM_cons,
      World.run_bind_of (hread found x _ (hx.readFile_run hw (hx.text_fileScript hw))),
      foldlM_read hw hread xs _ fun y hy => hxs y (by simp [hy])]
    simp [World.fileScript]

/-- Whether a path names a script depends on its extension only. -/
theorem isScriptFile_eq_of_extension {p q : String} (h : extension p = extension q) :
    isScriptFile p = isScriptFile q := by
  unfold isScriptFile
  rw [h]

/-- The scripts read from a walk of the directory at `ns` are, by absolute path, the text
entries below it whose names are script names. -/
theorem mem_read_scripts (hw : w.Tree) {ns paths : List String} (hns : ∀ n ∈ ns, PlainName n)
    (hwalk : Walked w ns paths) (p t : String) :
    (p, t) ∈ (paths.filter isScriptFile).map (fun x => (absolutePath w.cwd x, (w.fileScript x).content)) ↔
      ∃ e, (p, e) ∈ w.entries ∧ absOf ns ∈ ancestors p ∧ isScriptFile p = true ∧
        e.text? = some t := by
  constructor
  · rintro hmem
    obtain ⟨x, hx, heq⟩ := List.mem_map.1 hmem
    obtain ⟨rfl, rfl⟩ := Prod.mk.inj heq
    rw [List.mem_filter] at hx
    obtain ⟨ms₀, e₀, hms₀, hn₀⟩ := hwalk.sound _ hx.1
    rw [hn₀.absolutePath_eq_absOf hw]
    refine ⟨e₀, hn₀.mem, (mem_ancestors_absOf hn₀.plain hns).2 ⟨ms₀, hms₀, rfl⟩, ?_,
      hn₀.text_fileScript hw⟩
    rw [← isScriptFile_eq_of_extension hn₀.ext]
    exact hx.2
  · rintro ⟨e, hmem, hanc, hscript, htext⟩
    obtain ⟨ms, hms, hp⟩ := hw.named _ hmem
    subst hp
    obtain ⟨rest, hrest, rfl⟩ := (mem_ancestors_absOf hms hns).1 hanc
    obtain ⟨x, hx, hstack⟩ := hwalk.complete rest e hrest
      (fun n hn => hms n (List.mem_append_right _ hn)) hmem (by simp [htext])
    obtain ⟨ms₀, e₀, -, hn₀⟩ := hwalk.sound x hx
    have hsame : ns ++ ms₀ = ns ++ rest := List.reverse_injective (hn₀.stack.symm.trans hstack)
    -- the walked path names the entry itself
    have hnx : Names w x (ns ++ rest) e :=
      ⟨hn₀.ne, hstack, hsame ▸ hn₀.ext, hmem, by simp [htext]⟩
    refine List.mem_map.2 ⟨x, ?_, ?_⟩
    · rw [List.mem_filter, isScriptFile_eq_of_extension hnx.ext]
      exact ⟨hx, hscript⟩
    · rw [hnx.absolutePath_eq_absOf hw, ← Option.some.inj (htext.symm.trans (hnx.text_fileScript hw))]

/-- The scripts below a directory of a world, as absolute path and text: every entry with a
text (a file or a device) below it whose name is a script name. -/
def scriptsBelow (w : World) (dir : String) : List (String × String) :=
  w.entries.filterMap fun e =>
    if dir ∈ ancestors e.1 ∧ isScriptFile e.1 = true then e.2.text?.map (e.1, ·) else none

/-- What one entry adds to the scripts below a directory: its path and text, when it is below
the directory, names a script and reads as text. -/
theorem mem_scriptEntry {dir : String} {a : String × Entry} {b : String × String} :
    b ∈ (if dir ∈ ancestors a.1 ∧ isScriptFile a.1 = true then a.2.text?.map (a.1, ·) else none) ↔
      dir ∈ ancestors a.1 ∧ isScriptFile a.1 = true ∧ ∃ t, a.2.text? = some t ∧ b = (a.1, t) := by
  by_cases h : dir ∈ ancestors a.1 ∧ isScriptFile a.1 = true
  · rw [if_pos h, Option.mem_def, Option.map_eq_some_iff]
    simp only [h, true_and]
    exact exists_congr fun t => and_congr_right fun _ => eq_comm
  · rw [if_neg h]
    simp only [Option.not_mem_none, false_iff]
    exact fun h' => h ⟨h'.1, h'.2.1⟩

theorem mem_scriptsBelow {dir p t : String} :
    (p, t) ∈ scriptsBelow w dir ↔
      ∃ e, (p, e) ∈ w.entries ∧ dir ∈ ancestors p ∧ isScriptFile p = true ∧ e.text? = some t := by
  simp only [scriptsBelow, List.mem_filterMap, ← Option.mem_def, mem_scriptEntry]
  constructor
  · rintro ⟨⟨q, e⟩, hmem, hanc, hscript, t', htext, heq⟩
    obtain ⟨rfl, rfl⟩ := Prod.mk.inj heq
    exact ⟨e, hmem, hanc, hscript, htext⟩
  · rintro ⟨e, hmem, hanc, hscript, htext⟩
    exact ⟨(p, e), hmem, hanc, hscript, t, htext, rfl⟩

/-- Each script below a directory is listed once: entries have distinct paths. -/
theorem nodup_scriptsBelow (hw : w.Tree) (dir : String) : (scriptsBelow w dir).Nodup := by
  have hkeys : w.entries.Pairwise (fun a b => a.1 ≠ b.1) := List.pairwise_map.1 hw.keys
  refine hkeys.filterMap _ fun a a' hne b hb b' hb' heq => hne ?_
  obtain ⟨-, -, t, -, rfl⟩ := mem_scriptEntry.1 hb
  obtain ⟨-, -, t', -, rfl⟩ := mem_scriptEntry.1 hb'
  exact (Prod.mk.inj heq).1

/-- The scripts read from a walk are, by absolute path, the scripts below the directory, each
once. -/
theorem perm_scriptsBelow (hw : w.Tree) {ns paths : List String} (hns : ∀ n ∈ ns, PlainName n)
    (hwalk : Walked w ns paths) :
    ((paths.filter isScriptFile).map fun x => (absolutePath w.cwd x, (w.fileScript x).content)).Perm
      (scriptsBelow w (absOf ns)) := by
  refine (List.perm_ext_iff_of_nodup ?_ (nodup_scriptsBelow hw _)).2
    fun ⟨p, t⟩ => (mem_read_scripts hw hns hwalk p t).trans mem_scriptsBelow.symm
  -- distinct paths are distinct absolute paths
  refine (hwalk.nodup_filter _).map_on fun x hx y hy hxy => ?_
  exact hwalk.absolutePath_injOn hw x (List.mem_filter.1 hx).1 y (List.mem_filter.1 hy).1
    (Prod.mk.inj hxy).1

/-- Scanning a directory of a tree reads every script below it once, in strictly increasing
byte order of path. -/
theorem scanDirectory_run (hw : w.Tree) {dir : String} {ns : List String}
    (hns : ∀ n ∈ ns, PlainName n) (hdir : dir ≠ "") (hstack : absStack w.cwd dir = ns.reverse)
    (hmem : (absOf ns, .directory) ∈ w.entries) :
    ∃ scripts, (scanDirectory World.host dir).run w = (.ok scripts, w) ∧
      scripts.Pairwise (fun a b => utf8Bytes a.path < utf8Bytes b.path) ∧
      (scripts.map fun sc => (absolutePath w.cwd sc.path, sc.content)).Perm
        (scriptsBelow w (absOf ns)) := by
  -- the tree is shallow enough for the walk's fuel
  have hdepth : ∀ ms e, (absOf (ns ++ ms), e) ∈ w.entries → (∀ n ∈ ms, PlainName n) →
      ms.length ≤ 4096 := by
    intro ms e hm hms
    have hlen := hw.length_le (fun n hn => (List.mem_append.1 hn).elim (hns n) (hms n)) hm
    rw [List.length_append] at hlen
    omega
  obtain ⟨paths, hrun, hwalk⟩ := walkFilesFuel_run hw 4096 hns hdir hstack hmem hdepth
  unfold scanDirectory walkFiles
  rw [World.run_bind_of hrun]
  dsimp only
  rw [World.run_bind_of (foldlM_read hw ?hread _ [] ?hxs), List.nil_append]
  · set scripts := (paths.filter isScriptFile).map w.fileScript
    have hpaths : scripts.map (·.path) = paths.filter isScriptFile := by
      rw [List.map_map]
      exact List.map_id _
    have hsorted := List.mergeSort_perm scripts fun a b => a.path ≤ b.path
    refine ⟨_, rfl, pairwise_utf8Bytes_lt (pairwise_mergeSort_key Script.path scripts) ?_, ?_⟩
    · rw [(hsorted.map _).nodup_iff, hpaths]
      exact hwalk.nodup_filter _
    refine (hsorted.map _).trans ?_
    rw [List.map_map]
    exact perm_scriptsBelow hw hns hwalk
  case hread =>
    intro found x text hx
    dsimp only
    rw [World.run_bind_of hx]
    rfl
  case hxs =>
    intro x hx
    obtain ⟨ms, e, -, h⟩ := hwalk.sound x (List.mem_filter.1 hx).1
    exact ⟨_, _, h⟩

/-- Scanning a local directory of a tree reads every script below it once, in strictly
increasing byte order of path. -/
theorem scanLocal_directory (hw : w.Tree) {dir : String} (hdir : dir ≠ "")
    (hmem : (absolutePath w.cwd dir, .directory) ∈ w.entries) :
    ∃ scripts, (scanLocal World.host dir).run w = (.ok scripts, w) ∧
      scripts.Pairwise (fun a b => utf8Bytes a.path < utf8Bytes b.path) ∧
      (scripts.map fun sc => (absolutePath w.cwd sc.path, sc.content)).Perm
        (scriptsBelow w (absolutePath w.cwd dir)) := by
  have habs : absolutePath w.cwd dir = absOf (absStack w.cwd dir).reverse := by
    rw [absolutePath_eq hw.cwd, absOf_eq, List.reverse_reverse]
  unfold scanLocal
  rw [World.run_bind_of (stat_run hw hdir rfl hmem)]
  dsimp only [Entry.kind]
  rw [habs] at hmem ⊢
  exact scanDirectory_run hw (fun n hn => absStack_names w.cwd dir n (List.mem_reverse.1 hn)) hdir
    (List.reverse_reverse _).symm hmem

/-- Scanning a local file reads it whole, whatever its name. -/
theorem scanLocal_file (hw : w.Tree) {path c : String} {e : Entry} (hpath : path ≠ "")
    (hmem : (absolutePath w.cwd path, e) ∈ w.entries) (hc : e.text? = some c) :
    (scanLocal World.host path).run w = (.ok [⟨path, c⟩], w) := by
  unfold scanLocal
  rw [World.run_bind_of (stat_run hw hpath rfl hmem), Entry.kind_eq_file.2 (by simp [hc])]
  dsimp only
  rw [World.run_bind_of (readFile_run_of_mem hw hpath rfl hmem hc)]
  rfl

/-! ### Object store scripts -/

theorem download_run (he : w.getErrors = []) (hb : w.hasBucket b = true)
    (hk : k ∈ w.bucketKeys b) :
    (download World.host b k).run w =
      (.ok (w.objectText b k), { w with getCalls := w.getCalls ++ [(b, k)] }) := by
  obtain ⟨o, ho⟩ := find?_object_of_mem hk
  have htext : w.objectText b k = o.content := by rw [objectText, ho]; rfl
  unfold download
  rw [World.run_bind_of (getObject_run he hb ho), htext]
  rfl

/-- Downloading listed keys one after another: each gives the text its object holds. -/
theorem foldlM_download {G : Except String (List Script) → String →
      StateM World (Except String (List Script))}
    (hstep : ∀ (w w' : World) found k text, (download World.host b k).run w = (.ok text, w') →
      (G (.ok found) k).run w = (.ok (found ++ [⟨"s3://" ++ b ++ "/" ++ k, text⟩]), w')) :
    ∀ (keys : List String) (w : World) (found : List Script), w.getErrors = [] →
      w.hasBucket b = true → (∀ k ∈ keys, k ∈ w.bucketKeys b) →
      (keys.foldlM G (.ok found)).run w =
        (.ok (found ++ keys.map fun k => ⟨"s3://" ++ b ++ "/" ++ k, w.objectText b k⟩),
          { w with getCalls := w.getCalls ++ keys.map (b, ·) })
  | [], w, found, _, _, _ => by simp; rfl
  | k :: keys, w, found, he, hb, hks => by
    rw [List.foldlM_cons, World.run_bind_of (hstep _ _ _ _ _ (download_run he hb (hks k (by simp)))),
      foldlM_download hstep keys { w with getCalls := w.getCalls ++ [(b, k)] } _ he hb
        fun k' hk' => hks k' (by simp [hk'])]
    simp [objectText]

/-- Whether a listing keeps a key: a script name that is not a folder. -/
def keptKey (k : String) : Bool := !k.endsWith "/" && isScriptFile k

/-- Following the listing page by page from key `i` on, with fuel for every page left, gathers
the kept keys under the prefix, in increasing order. -/
theorem listScriptsFuel_run (b p : String) :
    ∀ (fuel : Nat) (w : World) (token : Option String) (i : Nat) (found : List String),
      w.listError = none → w.hasBucket b = true → (token.bind String.toNat?).getD 0 = i →
      found = ((w.prefixKeys b p).take i).filter keptKey →
      (w.prefixKeys b p).length ≤ i + fuel * max w.pageSize 1 →
      ∃ calls, (listScriptsFuel World.host b p fuel token found).run w =
        (.ok (((w.prefixKeys b p).filter keptKey).mergeSort (· ≤ ·)),
          { w with listCalls := w.listCalls ++ calls })
  | 0, w, token, i, found, _, _, _, hfound, hlen => by
    refine ⟨[], ?_⟩
    rw [Nat.zero_mul, Nat.add_zero] at hlen
    rw [hfound, List.take_of_length_le hlen]
    simp
    rfl
  | fuel + 1, w, token, i, found, hl, hb, hi, hfound, hlen => by
    rw [listScriptsFuel, World.run_bind_of (listObjects_run hl hb hi)]
    dsimp only
    -- the page carries the kept keys on to the next token
    have hpage : found ++ (((w.prefixKeys b p).drop i).take (max w.pageSize 1)).filter
        (fun k => !k.endsWith "/" && isScriptFile k) =
        ((w.prefixKeys b p).take (i + max w.pageSize 1)).filter keptKey := by
      rw [hfound, List.take_add, List.filter_append]
      rfl
    by_cases hmore : i + max w.pageSize 1 < (w.prefixKeys b p).length
    · rw [if_pos hmore]
      dsimp only
      rw [if_neg (by simp)]
      obtain ⟨calls, hrun⟩ := listScriptsFuel_run b p fuel
        { w with listCalls := w.listCalls ++ [(b, p, token)] } (some (toString (i + max w.pageSize 1)))
        (i + max w.pageSize 1) _ hl hb (by
          show ((toString (i + max w.pageSize 1)).toNat?).getD 0 = _
          rw [SqlSearch.Json.toNat?_toString]; rfl) hpage
        (show (w.prefixKeys b p).length ≤ _ + fuel * max w.pageSize 1 by
          rw [Nat.succ_mul] at hlen; omega)
      refine ⟨(b, p, token) :: calls, ?_⟩
      rw [hrun]
      simp only [List.append_assoc, List.singleton_append]
      rfl
    · rw [if_neg hmore]
      refine ⟨[(b, p, token)], ?_⟩
      rw [hpage, List.take_of_length_le (by omega)]
      rfl

theorem listScripts_run (hl : w.listError = none) (hb : w.hasBucket b = true)
    (hfuel : (w.prefixKeys b p).length ≤ 100000 * max w.pageSize 1) :
    ∃ calls, (listScripts World.host b p).run w =
      (.ok (((w.prefixKeys b p).filter keptKey).mergeSort (· ≤ ·)),
        { w with listCalls := w.listCalls ++ calls }) :=
  listScriptsFuel_run b p 100000 w none 0 [] hl hb rfl (by simp) (by omega)

theorem isObjectPath_join (b k : String) : isObjectPath ("s3://" ++ b ++ "/" ++ k) = true := by
  simp [isObjectPath, String.startsWith_string_iff]

/-- An object path built from a bucket and a key reads back as that bucket and key. -/
theorem parseObjectPath_join (hb : b ≠ "") (hslash : '/' ∉ b.toList) (k : String) :
    parseObjectPath ("s3://" ++ b ++ "/" ++ k) = .ok (b, k) := by
  have hobj := isObjectPath_join b k
  have hrest : ((("s3://" ++ b ++ "/" ++ k).drop 5).toString).toList = b.toList ++ '/' :: k.toList := by
    simp
  have hname : ∀ c ∈ b.toList, decide (c ≠ '/') = true := by
    intro c hc
    simpa using fun h : c = '/' => hslash (h ▸ hc)
  unfold parseObjectPath
  rw [if_neg (by simp [hobj])]
  simp only [hrest, List.takeWhile_append_of_pos hname, List.dropWhile_append_of_pos hname]
  simp [hb]

/-- Scanning a prefix lists the kept keys under it in increasing order and downloads each. -/
theorem scanObjects_prefix (hbne : b ≠ "") (hslash : '/' ∉ b.toList) (hp : p = "" ∨ p.endsWith "/" = true)
    (hl : w.listError = none) (hb : w.hasBucket b = true) (he : w.getErrors = [])
    (hfuel : (w.prefixKeys b p).length ≤ 100000 * max w.pageSize 1) :
    ∃ calls, (scanObjects World.host ("s3://" ++ b ++ "/" ++ p)).run w =
      (.ok ((((w.prefixKeys b p).filter keptKey).mergeSort (· ≤ ·)).map
          fun k => ⟨"s3://" ++ b ++ "/" ++ k, w.objectText b k⟩),
        { w with listCalls := w.listCalls ++ calls,
                 getCalls := w.getCalls ++ (((w.prefixKeys b p).filter keptKey).mergeSort (· ≤ ·)).map (b, ·) }) := by
  obtain ⟨calls, hlist⟩ := listScripts_run hl hb hfuel
  refine ⟨calls, ?_⟩
  unfold scanObjects
  rw [parseObjectPath_join hbne hslash p]
  dsimp only
  -- a prefix is listed, not downloaded
  have hprefix : ¬ ((!p.isEmpty) = true ∧ (!p.endsWith "/") = true) := by
    rintro ⟨h1, h2⟩
    rcases hp with rfl | h
    · simp at h1
    · simp [h] at h2
  rw [if_neg hprefix, World.run_bind_of hlist]
  dsimp only
  rw [foldlM_download ?step _ { w with listCalls := w.listCalls ++ calls } [] he hb ?keys]
  · rfl
  case step =>
    intro w₀ w' found k text h
    dsimp only
    rw [World.run_bind_of h]
    rfl
  case keys =>
    intro k hk
    rw [List.mem_mergeSort, prefixKeys, List.mem_filter, List.mem_filter] at hk
    exact hk.1.1

/-- Scanning one key downloads that object, whatever its name. -/
theorem scanObjects_key (hbne : b ≠ "") (hslash : '/' ∉ b.toList) (hk : k ≠ "")
    (hdir : k.endsWith "/" = false) (hb : w.hasBucket b = true) (he : w.getErrors = [])
    (hmem : k ∈ w.bucketKeys b) :
    (scanObjects World.host ("s3://" ++ b ++ "/" ++ k)).run w =
      (.ok [⟨"s3://" ++ b ++ "/" ++ k, w.objectText b k⟩],
        { w with getCalls := w.getCalls ++ [(b, k)] }) := by
  unfold scanObjects
  rw [parseObjectPath_join hbne hslash k]
  dsimp only
  rw [if_pos ⟨by simp [hk], by simp [hdir]⟩, World.run_bind_of (download_run he hb hmem)]
  rfl

/-- The kept keys in increasing order: strictly increasing by bytes when the listing names each
key once, and exactly the script keys under the prefix that are not folders. -/
theorem sorted_keptKeys (hnd : (w.prefixKeys b p).Nodup) :
    let keys := ((w.prefixKeys b p).filter keptKey).mergeSort (· ≤ ·)
    keys.Pairwise (fun k k' => utf8Bytes k < utf8Bytes k') ∧
      ∀ k, k ∈ keys ↔ k ∈ w.bucketKeys b ∧ k.startsWith p = true ∧ k.endsWith "/" = false ∧
        isScriptFile k = true := by
  have hperm := List.mergeSort_perm ((w.prefixKeys b p).filter keptKey) (· ≤ ·)
  refine ⟨@pairwise_utf8Bytes_lt String id _ (pairwise_mergeSort_key id _)
    (by simpa using hperm.nodup_iff.2 (hnd.filter _)), fun k => ?_⟩
  rw [List.mem_mergeSort, List.mem_filter, prefixKeys, List.mem_filter, keptKey]
  simp [and_assoc]

/-! ### Scanning -/

/-- Scanning finds exactly the scripts at a location. Below a local directory of a tree: every
file or device whose extension is `.sql` up to case, once, with its text, in strictly increasing
byte order of path. Under an object prefix that the store lists once per key: every key under
the prefix that is not a folder and names a script, in strictly increasing byte order, each
with its object's text, at a path that reads back as its bucket and key. A path naming one file
or one key gives that one script, whatever its name. -/
theorem scan_finds_scripts (w : World) (objects : Bool) :
    (w.Tree → ∀ dir, dir ≠ "" → isObjectPath dir = false →
      (absolutePath w.cwd dir, .directory) ∈ w.entries →
      ∃ scripts, (scan World.host objects dir).run w = (.ok scripts, w) ∧
        scripts.Pairwise (fun a c => utf8Bytes a.path < utf8Bytes c.path) ∧
        (scripts.map fun sc => (absolutePath w.cwd sc.path, sc.content)).Perm
          (scriptsBelow w (absolutePath w.cwd dir))) ∧
    (w.Tree → ∀ path e c, path ≠ "" → isObjectPath path = false →
      (absolutePath w.cwd path, e) ∈ w.entries → e.text? = some c →
      (scan World.host objects path).run w = (.ok [⟨path, c⟩], w)) ∧
    (∀ b p, b ≠ "" → '/' ∉ b.toList → (p = "" ∨ p.endsWith "/" = true) →
      w.listError = none → w.hasBucket b = true → w.getErrors = [] →
      (w.prefixKeys b p).Nodup → (w.prefixKeys b p).length ≤ 100000 * max w.pageSize 1 →
      ∃ (keys : List String) (w' : World), (scan World.host true ("s3://" ++ b ++ "/" ++ p)).run w =
          (.ok (keys.map fun k => ⟨"s3://" ++ b ++ "/" ++ k, w.objectText b k⟩), w') ∧
        keys.Pairwise (fun k k' => utf8Bytes k < utf8Bytes k') ∧
        (∀ k, k ∈ keys ↔ k ∈ w.bucketKeys b ∧ k.startsWith p = true ∧
          k.endsWith "/" = false ∧ isScriptFile k = true) ∧
        ∀ k ∈ keys, parseObjectPath ("s3://" ++ b ++ "/" ++ k) = .ok (b, k)) ∧
    (∀ b k, b ≠ "" → '/' ∉ b.toList → k ≠ "" → k.endsWith "/" = false →
      w.hasBucket b = true → w.getErrors = [] → k ∈ w.bucketKeys b →
      ∃ w', (scan World.host true ("s3://" ++ b ++ "/" ++ k)).run w =
        (.ok [⟨"s3://" ++ b ++ "/" ++ k, w.objectText b k⟩], w')) := by
  refine ⟨fun hw dir hdir hlocal hmem => ?_, fun hw path e c hpath hlocal hmem hc => ?_,
    fun b p hbne hslash hp hl hb he hnd hfuel => ?_, fun b k hbne hslash hk hdir hb he hmem => ?_⟩
  · rw [scan, if_neg (by simp [hlocal])]
    exact scanLocal_directory hw hdir hmem
  · rw [scan, if_neg (by simp [hlocal])]
    exact scanLocal_file hw hpath hmem hc
  · obtain ⟨calls, hrun⟩ := scanObjects_prefix hbne hslash hp hl hb he hfuel
    obtain ⟨hsorted, hkeys⟩ := sorted_keptKeys hnd
    rw [scan, if_pos (isObjectPath_join b p), if_pos rfl]
    exact ⟨_, _, hrun, hsorted, hkeys, fun k _ => parseObjectPath_join hbne hslash k⟩
  · rw [scan, if_pos (isObjectPath_join b k), if_pos rfl]
    exact ⟨_, scanObjects_key hbne hslash hk hdir hb he hmem⟩

/-- A small world: the directory `/q` holds one script, and the bucket `b` one under `q/`. -/
def sampleWorld : World :=
  { entries := [("/", .directory), ("/q", .directory), ("/q/a.sql", .file "select 1")],
    objects := [⟨"b", "q/a.sql", "select 2"⟩] }

theorem sampleWorld_tree : sampleWorld.Tree where
  cwd := by decide +kernel
  keys := by decide +kernel
  named := by
    intro e he
    simp only [sampleWorld, List.mem_cons, List.not_mem_nil, or_false] at he
    rcases he with rfl | rfl | rfl
    · exact ⟨[], by simp, by decide +kernel⟩
    · exact ⟨["q"], by unfold PlainName; decide, by decide +kernel⟩
    · exact ⟨["q", "a.sql"], by unfold PlainName; decide, by decide +kernel⟩
  parents := by
    intro e he a ha
    simp only [sampleWorld, List.mem_cons, List.not_mem_nil, or_false] at he
    rcases he with rfl | rfl | rfl
    · rw [show ancestors "/" = [] by decide +kernel] at ha
      cases ha
    · rw [show ancestors "/q" = ["/"] by decide +kernel, List.mem_singleton] at ha
      subst ha
      rfl
    · rw [show ancestors "/q/a.sql" = ["/", "/q"] by decide +kernel] at ha
      simp only [List.mem_cons, List.not_mem_nil, or_false] at ha
      rcases ha with rfl | rfl <;> rfl
  shallow := by decide +kernel

theorem scan_finds_sample_scripts :
    (∃ scripts, (scan World.host true "/q").run sampleWorld = (.ok scripts, sampleWorld)) ∧
      (scan World.host true "/q/a.sql").run sampleWorld =
        (.ok [⟨"/q/a.sql", "select 1"⟩], sampleWorld) ∧
      (∃ (scripts : List Script) (w' : World),
        (scan World.host true ("s3://" ++ "b" ++ "/" ++ "q/")).run sampleWorld = (.ok scripts, w')) ∧
      ∃ w' : World, (scan World.host true ("s3://" ++ "b" ++ "/" ++ "q/a.sql")).run sampleWorld =
        (.ok [⟨"s3://" ++ "b" ++ "/" ++ "q/a.sql", "select 2"⟩], w') := by
  have h := scan_finds_scripts sampleWorld true
  have hdir : (absolutePath sampleWorld.cwd "/q", Entry.directory) ∈ sampleWorld.entries := by
    rw [show absolutePath sampleWorld.cwd "/q" = "/q" by decide +kernel]
    simp [sampleWorld]
  have hfile : (absolutePath sampleWorld.cwd "/q/a.sql", Entry.file "select 1") ∈
      sampleWorld.entries := by
    rw [show absolutePath sampleWorld.cwd "/q/a.sql" = "/q/a.sql" by decide +kernel]
    simp [sampleWorld]
  refine ⟨?_, ?_, ?_, ?_⟩
  · obtain ⟨scripts, hrun, -⟩ := h.1 sampleWorld_tree "/q" (by decide) (by decide +kernel) hdir
    exact ⟨scripts, hrun⟩
  · exact h.2.1 sampleWorld_tree "/q/a.sql" _ "select 1" (by decide) (by decide +kernel) hfile rfl
  · obtain ⟨keys, w', hrun, -⟩ := h.2.2.1 "b" "q/" (by decide) (by decide) (.inr (by decide +kernel))
      rfl rfl rfl (by decide +kernel) (by decide +kernel)
    exact ⟨_, w', hrun⟩
  · exact h.2.2.2 "b" "q/a.sql" (by decide) (by decide) (by decide) (by decide +kernel) rfl rfl
      (by decide +kernel)

end SqlSearch.Scripts
