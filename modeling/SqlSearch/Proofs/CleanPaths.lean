import SqlSearch.Host.Path
import SqlSearch.Proofs.ScriptSplitting
/-! Cleaning paths, read as stacks. The elements of a path (the texts between its slashes) are
pushed one by one on a stack: empty and `.` elements are skipped, `..` takes a name off (and is
dropped at the root of a rooted path) and any other element goes on top; the cleaned path is
the stack written out (`cleanPath_eq`). Pushing elements on any stack is pushing their cleaned
form (`foldl_pushElement_normal`), so the absolute path of a path read from a working directory
is the stack `absStack` written out (`absolutePath_eq`), and joining a name to a path puts the
name on top of it (`absStack_joinPath`). The paths of a tree are lists of names from the root
down (`absOf`): they clean to themselves, and their directory, last name, directories above
and extension are read off the names. -/
namespace SqlSearch.Host

/-! ### Elements and stacks -/

/-- The elements of a path, split at every slash. -/
def pathElems (p : String) : List String := (p.toList.splitOn '/').map String.ofList

/-- The path a stack of cleaned elements (top first) stands for. -/
def renderStack (rooted : Bool) (st : List String) : String :=
  let body := "/".intercalate st.reverse
  if rooted then "/" ++ body else if body.isEmpty then "." else body

theorem cleanPath_eq (p : String) :
    cleanPath p = renderStack (p.startsWith "/")
      ((pathElems p).foldl (pushElement (p.startsWith "/")) []) := rfl

theorem not_mem_of_mem_pathElems {p e : String} (h : e ∈ pathElems p) : '/' ∉ e.toList := by
  obtain ⟨l, hl, rfl⟩ := List.mem_map.1 h
  simpa using (SqlSearch.Query.sublist_of_mem_splitOn hl).2

theorem pathElems_append_slash (a b : String) :
    pathElems (a ++ "/" ++ b) = pathElems a ++ pathElems b := by
  simp [pathElems, List.splitOn_append_cons_self]

theorem pathElems_slash_append (x : String) : pathElems ("/" ++ x) = "" :: pathElems x := by
  have h := pathElems_append_slash "" x
  rwa [String.empty_append, show pathElems "" = [""] from rfl] at h

theorem pathElems_of_not_mem {x : String} (h : '/' ∉ x.toList) : pathElems x = [x] := by
  simp [pathElems, List.splitOn_eq_singleton h]

theorem pathElems_intercalate {st : List String} (hne : st ≠ []) (h : ∀ e ∈ st, '/' ∉ e.toList) :
    pathElems ("/".intercalate st) = st := by
  have hsplit : (['/'].intercalate (st.map String.toList)).splitOn '/' = st.map String.toList :=
    List.splitOn_intercalate '/' (by simpa using h) (by simpa using hne)
  simp [pathElems, hsplit]

/-- What a cleaned stack holds: elements that are not empty, not `.` and have no slash. -/
def Stacked (st : List String) : Prop := ∀ e ∈ st, e ≠ "" ∧ e ≠ "." ∧ '/' ∉ e.toList

/-- A name of a file or directory: an element that is not `..` either. -/
def PlainName (n : String) : Prop := n ≠ "" ∧ n ≠ "." ∧ n ≠ ".." ∧ '/' ∉ n.toList

theorem pushElement_skip {e : String} (h : e = "" ∨ e = ".") (r : Bool) (st : List String) :
    pushElement r st e = st := by
  simp [pushElement, h]

theorem pushElement_name {n : String} (h1 : n ≠ "") (h2 : n ≠ ".") (h3 : n ≠ "..") (r : Bool)
    (st : List String) : pushElement r st n = n :: st := by
  simp [pushElement, h1, h2, h3]

theorem pushElement_stacked {st : List String} (hst : Stacked st) {e : String}
    (he : '/' ∉ e.toList) (r : Bool) : Stacked (pushElement r st e) := by
  unfold pushElement
  by_cases h1 : e = "" ∨ e = "."
  · rw [if_pos h1]
    exact hst
  rw [if_neg h1]
  by_cases h2 : e = ".."
  · rw [if_pos h2]
    subst h2
    -- `..` either goes on the stack or takes its top off
    cases st with
    | nil => cases r <;> simp [Stacked]
    | cons top rest =>
      show Stacked (if top = ".." then ".." :: top :: rest else rest)
      by_cases ht : top = ".."
      · rw [if_pos ht]
        exact fun x hx => by
          rcases List.mem_cons.1 hx with rfl | hx
          · simp
          · exact hst x hx
      · rw [if_neg ht]
        exact fun x hx => hst x (List.mem_cons_of_mem _ hx)
  · rw [if_neg h2]
    intro x hx
    rcases List.mem_cons.1 hx with rfl | hx
    · exact ⟨fun h => h1 (.inl h), fun h => h1 (.inr h), he⟩
    · exact hst x hx

theorem foldl_pushElement_stacked (r : Bool) :
    ∀ (xs st : List String), Stacked st → (∀ e ∈ xs, '/' ∉ e.toList) →
      Stacked (xs.foldl (pushElement r) st)
  | [], _, hst, _ => hst
  | e :: xs, st, hst, hxs =>
    foldl_pushElement_stacked r xs _ (pushElement_stacked hst (hxs e (by simp)) r)
      fun x hx => hxs x (by simp [hx])

/-- Pushing an element on a stack built from a cleaned relative stack is pushing it on that
stack first: so pushing elements on any stack is pushing their cleaned form. -/
theorem pushElement_foldl_reverse (r : Bool) (st : List String) {t : List String}
    (ht : Stacked t) (e : String) :
    pushElement r (t.reverse.foldl (pushElement r) st) e =
      (pushElement false t e).reverse.foldl (pushElement r) st := by
  by_cases h1 : e = "" ∨ e = "."
  · rw [pushElement_skip h1, pushElement_skip h1]
  by_cases h2 : e = ".."
  · subst h2
    cases t with
    | nil => simp [pushElement]
    | cons top rest =>
      by_cases htop : top = ".."
      · have hpush : pushElement false (top :: rest) ".." = ".." :: top :: rest := by
          simp [pushElement, htop]
        rw [hpush]
        simp only [List.reverse_cons, List.foldl_append, List.foldl_cons, List.foldl_nil]
      · -- the top is a name, and `..` takes it off again
        obtain ⟨hne, hdot, -⟩ := ht top (by simp)
        have hpush : pushElement false (top :: rest) ".." = rest := by
          simp [pushElement, htop]
        rw [hpush, List.reverse_cons, List.foldl_append, List.foldl_cons, List.foldl_nil,
          pushElement_name hne hdot htop]
        simp [pushElement, htop]
  · have hne : e ≠ "" := fun h => h1 (.inl h)
    have hdot : e ≠ "." := fun h => h1 (.inr h)
    rw [pushElement_name hne hdot h2 false, List.reverse_cons, List.foldl_append, List.foldl_cons,
      List.foldl_nil]

theorem foldl_pushElement_normal (r : Bool) (st : List String) (xs : List String)
    (hxs : ∀ e ∈ xs, '/' ∉ e.toList) :
    xs.foldl (pushElement r) st = (xs.foldl (pushElement false) []).reverse.foldl (pushElement r) st := by
  induction xs using List.reverseRecOn with
  | nil => rfl
  | append_singleton xs e ih =>
    have hxs' : ∀ x ∈ xs, '/' ∉ x.toList := fun x hx => hxs x (by simp [hx])
    rw [List.foldl_append, List.foldl_append, List.foldl_cons, List.foldl_nil, List.foldl_cons,
      List.foldl_nil, ih hxs',
      pushElement_foldl_reverse r st (foldl_pushElement_stacked false xs [] (by simp [Stacked]) hxs') e]

/-- Names go on the stack one by one. -/
theorem foldl_pushElement_names (r : Bool) :
    ∀ (ns st : List String), (∀ n ∈ ns, PlainName n) → ns.foldl (pushElement r) st = ns.reverse ++ st
  | [], _, _ => rfl
  | n :: ns, st, h => by
    obtain ⟨h1, h2, h3, -⟩ := h n (by simp)
    rw [List.foldl_cons, pushElement_name h1 h2 h3, foldl_pushElement_names r ns _
      fun m hm => h m (by simp [hm])]
    simp

/-- A rooted stack holds names only: `..` at the root is dropped. -/
theorem foldl_pushElement_true_names :
    ∀ (xs st : List String), (∀ n ∈ st, PlainName n) → (∀ e ∈ xs, '/' ∉ e.toList) →
      ∀ n ∈ xs.foldl (pushElement true) st, PlainName n
  | [], _, hst, _ => hst
  | e :: xs, st, hst, hxs => by
    refine foldl_pushElement_true_names xs _ ?_ (fun x hx => hxs x (by simp [hx]))
    have he : '/' ∉ e.toList := hxs e (by simp)
    by_cases h1 : e = "" ∨ e = "."
    · rwa [pushElement_skip h1]
    by_cases h2 : e = ".."
    · subst h2
      -- the top is a name, so `..` takes it off; at the root it is dropped
      cases st with
      | nil => simp [pushElement]
      | cons top rest =>
        have htop : top ≠ ".." := (hst top (by simp)).2.2.1
        have hpush : pushElement true (top :: rest) ".." = rest := by simp [pushElement, htop]
        rw [hpush]
        exact fun n hn => hst n (List.mem_cons_of_mem _ hn)
    · have hne : e ≠ "" := fun h => h1 (.inl h)
      have hdot : e ≠ "." := fun h => h1 (.inr h)
      rw [pushElement_name hne hdot h2]
      intro n hn
      rcases List.mem_cons.1 hn with rfl | hn
      · exact ⟨hne, hdot, h2, he⟩
      · exact hst n hn

theorem intercalate_eq_empty {st : List String} (hst : Stacked st) :
    "/".intercalate st = "" ↔ st = [] := by
  constructor
  · intro h
    cases st with
    | nil => rfl
    | cons e st =>
      have he : e ≠ "" := (hst e (by simp)).1
      cases st with
      | nil => exact absurd (by simpa using h) he
      | cons u l =>
        rw [String.intercalate_cons_of_ne_nil (by simp)] at h
        simp at h
  · rintro rfl
    rfl

theorem Stacked.reverse {st : List String} (h : Stacked st) : Stacked st.reverse :=
  fun e he => h e (List.mem_reverse.1 he)

theorem Stacked.of_names {ns : List String} (h : ∀ n ∈ ns, PlainName n) : Stacked ns :=
  fun n hn => ⟨(h n hn).1, (h n hn).2.1, (h n hn).2.2.2⟩

/-- Reading a cleaned path's elements back onto any stack pushes the cleaned elements. -/
theorem foldl_pathElems_renderStack (r r' : Bool) (st₀ : List String) {st : List String}
    (hst : Stacked st) :
    (pathElems (renderStack r' st)).foldl (pushElement r) st₀ = st.reverse.foldl (pushElement r) st₀ := by
  have hbody : st ≠ [] → pathElems ("/".intercalate st.reverse) = st.reverse := fun hne =>
    pathElems_intercalate (by simpa using hne) fun e he => (hst.reverse e he).2.2
  unfold renderStack
  cases r'
  · by_cases he : st = []
    · subst he
      rfl
    · have hne : ("/".intercalate st.reverse).isEmpty = false := by
        rw [Bool.eq_false_iff, ne_eq, String.isEmpty_iff, intercalate_eq_empty hst.reverse]
        simpa using he
      simp only [hne, Bool.false_eq_true, if_false]
      rw [hbody he]
  · simp only [if_true]
    rw [pathElems_slash_append, List.foldl_cons, pushElement_skip (.inl rfl)]
    by_cases he : st = []
    · subst he
      rfl
    · rw [hbody he]

theorem startsWith_slash_iff (s : String) : s.startsWith "/" = true ↔ s.toList.head? = some '/' := by
  rw [String.startsWith_string_iff]
  cases s.toList <;> simp [eq_comm]

/-- A text that does not start empty starts as its first part does. -/
theorem startsWith_append_of_ne {a : String} (ha : a ≠ "") (b : String) :
    (a ++ b).startsWith "/" = a.startsWith "/" := by
  have hhead : (a ++ b).toList.head? = a.toList.head? := by
    cases hcs : a.toList with
    | nil => exact absurd (String.toList_eq_nil_iff.1 hcs) ha
    | cons c cs => simp [hcs]
  cases h : a.startsWith "/"
  · rw [Bool.eq_false_iff, ne_eq, startsWith_slash_iff, hhead, ← startsWith_slash_iff]
    simp [h]
  · rw [startsWith_slash_iff, hhead, ← startsWith_slash_iff, h]

theorem intercalate_cons_eq_append (e : String) (rest : List String) :
    ∃ x, "/".intercalate (e :: rest) = e ++ x := by
  cases rest with
  | nil => exact ⟨"", by simp⟩
  | cons u l => exact ⟨"/" ++ "/".intercalate (u :: l), by
      rw [String.intercalate_cons_of_ne_nil (by simp), String.append_assoc]⟩

theorem startsWith_renderStack (r : Bool) {st : List String} (hst : Stacked st) :
    (renderStack r st).startsWith "/" = r := by
  unfold renderStack
  cases r
  · simp only [Bool.false_eq_true, if_false]
    cases hrev : st.reverse with
    | nil =>
      rw [Bool.eq_false_iff, ne_eq, startsWith_slash_iff]
      simp
    | cons e rest =>
      obtain ⟨hne, -, hslash⟩ := hst.reverse e (by simp [hrev])
      have hbody : ("/".intercalate (e :: rest)).isEmpty = false := by
        rw [Bool.eq_false_iff, ne_eq, String.isEmpty_iff,
          intercalate_eq_empty (by rw [← hrev]; exact hst.reverse)]
        simp
      simp only [hbody, Bool.false_eq_true, if_false]
      obtain ⟨x, hx⟩ := intercalate_cons_eq_append e rest
      rw [hx, startsWith_append_of_ne hne, Bool.eq_false_iff, ne_eq, startsWith_slash_iff]
      intro h
      exact hslash (List.mem_of_mem_head? h)
  · simp only [if_true]
    rw [startsWith_slash_iff]
    simp

/-! ### Absolute paths -/

/-- The stack of the absolute path a path names from a working directory. -/
def absStack (cwd q : String) : List String :=
  (pathElems q).foldl (pushElement true)
    (if q.startsWith "/" then [] else (pathElems cwd).foldl (pushElement true) [])

theorem startsWith_slash_append {a : String} (ha : a.startsWith "/" = true) (b : String) :
    (a ++ b).startsWith "/" = true := by
  have hne : a ≠ "" := by rintro rfl; simp at ha
  rw [startsWith_append_of_ne hne, ha]

theorem absolutePath_eq {cwd : String} (hcwd : cwd.startsWith "/" = true) (q : String) :
    absolutePath cwd q = renderStack true (absStack cwd q) := by
  unfold absolutePath absStack
  by_cases hq : q.startsWith "/" = true
  · rw [if_pos hq, if_pos hq, cleanPath_eq, hq]
  · rw [if_neg hq, if_neg hq, cleanPath_eq, String.append_assoc, startsWith_slash_append hcwd,
      ← String.append_assoc, pathElems_append_slash, List.foldl_append]

/-- Joining a name to a path cleans the path and puts the name on top. -/
theorem joinPath_eq_renderStack {q n : String} (hq : q ≠ "") (hn : PlainName n) :
    joinPath q n =
      renderStack (q.startsWith "/") (n :: (pathElems q).foldl (pushElement (q.startsWith "/")) []) := by
  obtain ⟨hn1, hn2, hn3, hn4⟩ := hn
  have hroot : (q ++ "/" ++ n).startsWith "/" = q.startsWith "/" := by
    rw [String.append_assoc, startsWith_append_of_ne hq]
  have helems : pathElems (q ++ "/" ++ n) = pathElems q ++ [n] := by
    rw [pathElems_append_slash, pathElems_of_not_mem hn4]
  rw [show joinPath q n = cleanPath (q ++ "/" ++ n) by simp [joinPath, String.isEmpty_iff, hq, hn1],
    cleanPath_eq, hroot, helems, List.foldl_append, List.foldl_cons, List.foldl_nil,
    pushElement_name hn1 hn2 hn3]

/-- An absolute stack holds plain names only: a `..` at the root is dropped. -/
theorem absStack_names (cwd q : String) : ∀ n ∈ absStack cwd q, PlainName n := by
  have hnames : ∀ p : String, ∀ n ∈ (pathElems p).foldl (pushElement true) [], PlainName n :=
    fun p => foldl_pushElement_true_names _ [] (by simp) fun e he => not_mem_of_mem_pathElems he
  unfold absStack
  split
  · exact hnames q
  · exact foldl_pushElement_true_names _ _ (hnames cwd) fun e he => not_mem_of_mem_pathElems he

theorem stacked_cons_pathElems {q n : String} (hn : PlainName n) (r : Bool) :
    Stacked (n :: (pathElems q).foldl (pushElement r) []) := by
  have hstq : Stacked ((pathElems q).foldl (pushElement r) []) :=
    foldl_pushElement_stacked _ _ _ (by simp [Stacked]) fun e he => not_mem_of_mem_pathElems he
  intro e he
  rcases List.mem_cons.1 he with rfl | he
  · exact ⟨hn.1, hn.2.1, hn.2.2.2⟩
  · exact hstq e he

/-- Joining a name to a path pushes the name on the stack of its absolute path. -/
theorem absStack_joinPath (cwd : String) {q n : String} (hq : q ≠ "") (hn : PlainName n) :
    absStack cwd (joinPath q n) = n :: absStack cwd q := by
  have hst := stacked_cons_pathElems (q := q) hn (q.startsWith "/")
  have hjroot : (joinPath q n).startsWith "/" = q.startsWith "/" := by
    rw [joinPath_eq_renderStack hq hn, startsWith_renderStack _ hst]
  unfold absStack
  rw [hjroot, joinPath_eq_renderStack hq hn, foldl_pathElems_renderStack _ _ _ hst,
    List.reverse_cons, List.foldl_append, List.foldl_cons, List.foldl_nil,
    pushElement_name hn.1 hn.2.1 hn.2.2.1]
  congr 1
  -- the cleaned elements of `q` push as `q`'s own elements do
  have hslash : ∀ e ∈ pathElems q, '/' ∉ e.toList := fun e he => not_mem_of_mem_pathElems he
  cases hr : q.startsWith "/"
  · simp only [Bool.false_eq_true, if_false]
    exact (foldl_pushElement_normal true _ _ hslash).symm
  · simp only [if_true]
    have hnames := foldl_pushElement_true_names _ [] (by simp) hslash
    rw [foldl_pushElement_names true _ _ fun n hn => hnames n (List.mem_reverse.1 hn),
      List.reverse_reverse, List.append_nil]

/-! ### Paths of a tree -/

/-- The absolute path of a list of names, from the root down. -/
def absOf (ns : List String) : String := "/" ++ "/".intercalate ns

theorem absOf_eq (ns : List String) : absOf ns = renderStack true ns.reverse := by
  simp [absOf, renderStack]

theorem startsWith_absOf (ns : List String) : (absOf ns).startsWith "/" = true := by
  rw [absOf, startsWith_slash_iff]
  simp

variable {ns ms : List String}

theorem absStack_absOf (cwd : String) (hns : ∀ n ∈ ns, PlainName n) :
    absStack cwd (absOf ns) = ns.reverse := by
  unfold absStack
  rw [if_pos (startsWith_absOf ns), absOf_eq,
    foldl_pathElems_renderStack _ _ _ (Stacked.of_names hns).reverse, List.reverse_reverse,
    foldl_pushElement_names true ns [] hns, List.append_nil]

theorem absolutePath_absOf {cwd : String} (hcwd : cwd.startsWith "/" = true)
    (hns : ∀ n ∈ ns, PlainName n) : absolutePath cwd (absOf ns) = absOf ns := by
  rw [absolutePath_eq hcwd, absStack_absOf _ hns, absOf_eq]

theorem absOf_inj (hns : ∀ n ∈ ns, PlainName n) (hms : ∀ n ∈ ms, PlainName n)
    (h : absOf ns = absOf ms) : ns = ms := by
  have hst := congrArg (absStack "/") h
  rw [absStack_absOf _ hns, absStack_absOf _ hms] at hst
  exact List.reverse_injective hst

theorem pathElems_absOf (hns : ∀ n ∈ ns, PlainName n) :
    (pathElems (absOf ns)).filter (· ≠ "") = ns := by
  rw [absOf, pathElems_slash_append]
  cases ns with
  | nil => rfl
  | cons n rest =>
    rw [pathElems_intercalate (by simp) fun e he => (hns e he).2.2.2]
    have hhead : ("" :: n :: rest).filter (· ≠ "") = (n :: rest).filter (· ≠ "") :=
      List.filter_cons_of_neg (by simp)
    rw [hhead]
    exact List.filter_eq_self.2 fun e he => by simpa using (hns e he).1

/-- The directories above a path of names are the paths of its proper beginnings. -/
theorem ancestors_absOf (hns : ∀ n ∈ ns, PlainName n) :
    ancestors (absOf ns) = (List.range ns.length).map fun i => absOf (ns.take i) := by
  have helems : ((((absOf ns).toList.splitOn '/').map String.ofList).filter (· ≠ "")) = ns :=
    pathElems_absOf hns
  simp only [ancestors, helems]
  rfl

/-- A directory of names is above exactly the paths that go on below it. -/
theorem mem_ancestors_absOf (hms : ∀ n ∈ ms, PlainName n) (hns : ∀ n ∈ ns, PlainName n) :
    absOf ns ∈ ancestors (absOf ms) ↔ ∃ rest, rest ≠ [] ∧ ms = ns ++ rest := by
  rw [ancestors_absOf hms, List.mem_map]
  constructor
  · rintro ⟨i, hi, heq⟩
    have hi' : i < ms.length := List.mem_range.1 hi
    have htake : ns = ms.take i :=
      absOf_inj hns (fun n hn => hms n (List.mem_of_mem_take hn)) heq.symm
    refine ⟨ms.drop i, ?_, by rw [htake, List.take_append_drop]⟩
    simpa [List.drop_eq_nil_iff] using hi'
  · rintro ⟨rest, hrest, rfl⟩
    refine ⟨ns.length, List.mem_range.2 ?_, by simp⟩
    have : rest.length ≠ 0 := by simpa using hrest
    simp only [List.length_append]
    omega

theorem cleanPath_absOf (hns : ∀ n ∈ ns, PlainName n) : cleanPath (absOf ns) = absOf ns := by
  have h := absStack_absOf "/" hns
  unfold absStack at h
  rw [if_pos (startsWith_absOf ns)] at h
  rw [cleanPath_eq, startsWith_absOf, h, absOf_eq]

theorem cleanPath_absOf_slash (hns : ∀ n ∈ ns, PlainName n) :
    cleanPath (absOf ns ++ "/") = absOf ns := by
  have h := absStack_absOf "/" hns
  unfold absStack at h
  rw [if_pos (startsWith_absOf ns)] at h
  have helems : pathElems (absOf ns ++ "/") = pathElems (absOf ns) ++ [""] := by
    have h := pathElems_append_slash (absOf ns) ""
    rwa [String.append_empty, show pathElems "" = [""] from rfl] at h
  rw [cleanPath_eq, startsWith_slash_append (startsWith_absOf ns), helems, List.foldl_append, h,
    List.foldl_cons, List.foldl_nil, pushElement_skip (.inl rfl), absOf_eq]

/-- A text that is empty or ends in a slash: what stands before the last element of a path. -/
def SlashEnd (cs : List Char) : Prop := cs = [] ∨ ∃ xs, cs = xs ++ ['/']

theorem takeWhile_reverse_slashEnd {cs : List Char} (hcs : SlashEnd cs) {n : List Char}
    (hn : '/' ∉ n) : (cs ++ n).reverse.takeWhile (· ≠ '/') = n.reverse := by
  have hall : ∀ c ∈ n.reverse, decide (c ≠ '/') = true := fun c hc => by
    have hne : c ≠ '/' := fun h => hn (by rw [← h]; exact List.mem_reverse.1 hc)
    simpa using hne
  rw [List.reverse_append, List.takeWhile_append_of_pos hall]
  rcases hcs with rfl | ⟨xs, rfl⟩
  · simp
  · simp

theorem dropWhile_reverse_slashEnd {cs : List Char} (hcs : SlashEnd cs) (hne : cs ≠ [])
    {n : List Char} (hn : '/' ∉ n) : (cs ++ n).reverse.dropWhile (· ≠ '/') = cs.reverse := by
  have hall : ∀ c ∈ n.reverse, decide (c ≠ '/') = true := fun c hc => by
    have hne : c ≠ '/' := fun h => hn (by rw [← h]; exact List.mem_reverse.1 hc)
    simpa using hne
  rw [List.reverse_append, List.dropWhile_append_of_pos hall]
  rcases hcs with rfl | ⟨xs, rfl⟩
  · exact absurd rfl hne
  · simp

/-- The text of a path of names: the path above the last name, then the name. -/
theorem absOf_append_name (ns : List String) (n : String) :
    (absOf (ns ++ [n])).toList =
      (if ns = [] then absOf [] else absOf ns ++ "/").toList ++ n.toList := by
  cases ns with
  | nil => simp [absOf]
  | cons m rest =>
    simp only [absOf, reduceCtorEq, if_false]
    rw [String.intercalate_append_of_ne_nil (by simp) (by simp)]
    simp

theorem slashEnd_absOf_dir (ns : List String) :
    SlashEnd (if ns = [] then absOf [] else absOf ns ++ "/").toList := by
  by_cases h : ns = []
  · rw [if_pos h]
    exact .inr ⟨[], rfl⟩
  · rw [if_neg h]
    exact .inr ⟨(absOf ns).toList, by simp⟩

variable {n : String}

theorem dirPath_absOf_append (hns : ∀ m ∈ ns, PlainName m) (hn : PlainName n) :
    dirPath (absOf (ns ++ [n])) = absOf ns := by
  have hne : (if ns = [] then absOf [] else absOf ns ++ "/").toList ≠ [] := by
    by_cases h : ns = [] <;> simp [h, absOf]
  simp only [dirPath]
  rw [absOf_append_name, dropWhile_reverse_slashEnd (slashEnd_absOf_dir ns) hne hn.2.2.2,
    List.reverse_reverse, String.ofList_toList]
  by_cases h : ns = []
  · subst h
    rw [if_pos rfl, cleanPath_absOf (by simp)]
  · rw [if_neg h, cleanPath_absOf_slash hns]

theorem basePath_absOf_append (hn : PlainName n) : basePath (absOf (ns ++ [n])) = n := by
  obtain ⟨hn1, -, -, hn4⟩ := hn
  -- the last character is the name's, so no slash is dropped from the end
  obtain ⟨c, cs, hlast⟩ : ∃ c cs, n.toList.reverse = c :: cs := by
    cases h : n.toList.reverse with
    | nil => exact absurd (String.toList_eq_nil_iff.1 (List.reverse_eq_nil_iff.1 h)) hn1
    | cons c cs => exact ⟨c, cs, rfl⟩
  have hc : c ≠ '/' := fun h => hn4 (List.mem_reverse.1 (by rw [hlast, h]; simp))
  have hkeep : ((absOf (ns ++ [n])).toList.reverse.dropWhile (· = '/')) =
      (absOf (ns ++ [n])).toList.reverse := by
    rw [absOf_append_name, List.reverse_append, hlast, List.cons_append,
      List.dropWhile_cons_of_neg (by simpa using hc)]
  have hne : (absOf (ns ++ [n])).isEmpty = false := by
    rw [Bool.eq_false_iff, ne_eq, String.isEmpty_iff]
    intro h
    have := congrArg String.toList h
    rw [absOf_append_name] at this
    simp at this
    exact hn1 this.2
  simp only [basePath, hne, Bool.false_eq_true, if_false, hkeep, List.reverse_reverse]
  rw [if_neg (by simp [absOf]), absOf_append_name, takeWhile_reverse_slashEnd (slashEnd_absOf_dir ns) hn4,
    List.reverse_reverse, String.ofList_toList]

theorem extension_eq_of_slashEnd {s : String} {cs : List Char} (hcs : SlashEnd cs)
    (hn : '/' ∉ n.toList) (hs : s.toList = cs ++ n.toList) : extension s = extension n := by
  have hlast : s.toList.reverse.takeWhile (· ≠ '/') = n.toList.reverse.takeWhile (· ≠ '/') := by
    have hname := takeWhile_reverse_slashEnd (show SlashEnd ([] : List Char) from .inl rfl) hn
    rw [List.nil_append] at hname
    rw [hs, takeWhile_reverse_slashEnd hcs hn, hname]
  simp only [extension, hlast]

theorem extension_absOf_append (hn : PlainName n) : extension (absOf (ns ++ [n])) = extension n :=
  extension_eq_of_slashEnd (slashEnd_absOf_dir ns) hn.2.2.2 (absOf_append_name ns n)

theorem renderStack_cons_toList (r : Bool) (st : List String) (hn : n ≠ "") :
    ∃ cs, SlashEnd cs ∧ (renderStack r (n :: st)).toList = cs ++ n.toList := by
  unfold renderStack
  simp only [List.reverse_cons]
  by_cases hst : st = []
  · subst hst
    cases r
    · exact ⟨[], .inl rfl, by simp [hn]⟩
    · exact ⟨['/'], .inr ⟨[], rfl⟩, by simp⟩
  · have hsplit : "/".intercalate (st.reverse ++ [n]) = "/".intercalate st.reverse ++ "/" ++ n := by
      rw [String.intercalate_append_of_ne_nil (by simpa using hst) (by simp),
        String.intercalate_singleton]
    rw [hsplit]
    cases r
    · have hbody : ("/".intercalate st.reverse ++ "/" ++ n).isEmpty = false := by simp
      simp only [hbody, Bool.false_eq_true, if_false]
      exact ⟨("/".intercalate st.reverse ++ "/").toList,
        .inr ⟨("/".intercalate st.reverse).toList, by simp⟩, by simp⟩
    · exact ⟨("/" ++ "/".intercalate st.reverse ++ "/").toList,
        .inr ⟨("/" ++ "/".intercalate st.reverse).toList, by simp⟩, by simp⟩

theorem joinPath_ne_empty {q : String} (hq : q ≠ "") (hn : PlainName n) : joinPath q n ≠ "" := by
  obtain ⟨cs, -, hs⟩ := renderStack_cons_toList (q.startsWith "/")
    ((pathElems q).foldl (pushElement (q.startsWith "/")) []) hn.1
  rw [joinPath_eq_renderStack hq hn]
  intro h
  rw [h] at hs
  exact hn.1 (String.toList_eq_nil_iff.1 (List.append_eq_nil_iff.1 hs.symm).2)

theorem extension_joinPath {q : String} (hq : q ≠ "") (hn : PlainName n) :
    extension (joinPath q n) = extension n := by
  obtain ⟨cs, hcs, hs⟩ := renderStack_cons_toList (q.startsWith "/")
    ((pathElems q).foldl (pushElement (q.startsWith "/")) []) hn.1
  rw [joinPath_eq_renderStack hq hn]
  exact extension_eq_of_slashEnd hcs hn.2.2.2 hs

end SqlSearch.Host
