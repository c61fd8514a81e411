import Mathlib.Data.List.Nodup
import SqlSearch.Response.Render
import SqlSearch.Proofs.ByteOrder
import SqlSearch.Proofs.ObjectDecoding
/-! The order of the facet sections. The requested names are taken once each, in order of first
mention (`requestedOnce_eq`); each of them that names a facet of the response brings that
facet (`first_names`), and the facets no request names follow, sorted by name. When the
response's facets have distinct names, as those of a response always do (`readFacets_names`),
every facet is printed exactly once: the two parts together are a permutation of the facets
(`orderFacets_perm`), and the sorted part is strictly increasing in byte order
(`facetLines_order`). -/
namespace SqlSearch.Response

open SqlSearch.Text

/-- The lines of one facet: a blank line, its name with `count`, and a line per term with its
count, in the order the response gives them. -/
def facetSection (f : Facet) : List String :=
  ["", Csv.encodeField (.text f.name) ++ ",count"] ++
    f.terms.map fun t =>
      Csv.encodeField (.raw (t.term.getD "")) ++ "," ++ Csv.encodeField (.raw (t.count.getD ""))

/-- A mapping that succeeds element by element, each result naming its element, names the list. -/
theorem mapM_ok_map {α β ε : Type} {f : α → Except ε β} {g : β → α}
    (hg : ∀ x y, f x = .ok y → g y = x) :
    ∀ {l : List α} {ys : List β}, l.mapM f = .ok ys → ys.map g = l
  | [], ys, h => by
    cases h
    rfl
  | x :: xs, ys, h => by
    rw [List.mapM_cons] at h
    cases hx : f x with
    | error e => simp [hx, bind, Except.bind] at h
    | ok y =>
      cases hxs : xs.mapM f with
      | error e => simp [hx, hxs, bind, Except.bind] at h
      | ok ys' =>
        simp only [hx, hxs, bind, Except.bind, pure, Except.pure, Except.ok.injEq] at h
        rw [← h, List.map_cons, hg x y hx, mapM_ok_map hg hxs]

/-- The facets read from a response are named by the keys of its facets object, so their names
are distinct. -/
theorem readFacets_names {d : Document} {fs : List Facet} (h : readFacets d = .ok fs) :
    fs.map (·.name) = d.keys ∧ (fs.map (·.name)).Nodup := by
  have hnames : fs.map (·.name) = d.keys := by
    refine mapM_ok_map (fun name f hf => ?_) h
    split at hf
    · cases hf
      rfl
    · cases hf
  exact ⟨hnames, hnames ▸ d.keys_nodup⟩

/-- The requested names, each once, in order of first mention. -/
theorem requestedOnce_eq (requested : List String) :
    requested.foldl (fun acc n => if acc.contains n then acc else acc ++ [n]) [] =
      requested.eraseDups := by
  have h := @foldl_firstKeys Unit (fun ks p => if ks.contains p.1 then ks else ks ++ [p.1])
    (fun _ _ _ => rfl) (requested.map fun n => (n, ())) []
  simpa [List.foldl_map, Function.comp_def] using h

section Order

variable {facets : List Facet}

/-- Among facets with distinct names, looking a name up finds the facet of that name. -/
theorem find?_name_eq_some (hnd : (facets.map (·.name)).Nodup) (n : String) (f : Facet) :
    facets.find? (·.name = n) = some f ↔ f ∈ facets ∧ f.name = n := by
  constructor
  · intro h
    exact ⟨List.mem_of_find?_eq_some h, by simpa using List.find?_some h⟩
  · rintro ⟨hf, rfl⟩
    cases hg : facets.find? (·.name = f.name) with
    | none => exact absurd (List.find?_eq_none.1 hg f hf) (by simp)
    | some g =>
      have hname : g.name = f.name := by simpa using List.find?_some hg
      rw [List.inj_on_of_nodup_map hnd (List.mem_of_find?_eq_some hg) hf hname]

theorem find?_name_map (hnd : (facets.map (·.name)).Nodup) (n : String) :
    (facets.find? (·.name = n)).map (·.name) = Option.guard (· ∈ facets.map (·.name)) n := by
  cases hg : facets.find? (·.name = n) with
  | none =>
    have hn : n ∉ facets.map (·.name) := by
      simpa [eq_comm] using List.find?_eq_none.1 hg
    simp [Option.guard, hn]
  | some g =>
    obtain ⟨hmem, rfl⟩ := (find?_name_eq_some hnd n g).1 hg
    simpa [Option.guard] using ⟨g, hmem, rfl⟩

variable (facets) (requested : List String)

theorem orderFacets_eq :
    orderFacets facets requested =
      requested.eraseDups.filterMap (fun n => facets.find? (·.name = n)) ++
        (facets.filter fun f => !requested.eraseDups.contains f.name).mergeSort
          fun a b => a.name ≤ b.name := by
  simp only [orderFacets, requestedOnce_eq]

variable {facets requested}

/-- The requested facets are those of the response whose names the request mentions. -/
theorem mem_requested_facets {f : Facet} (hnd : (facets.map (·.name)).Nodup) :
    f ∈ requested.eraseDups.filterMap (fun n => facets.find? (·.name = n)) ↔
      f ∈ facets ∧ f.name ∈ requested := by
  simp only [List.mem_filterMap, find?_name_eq_some hnd, List.mem_eraseDups]
  constructor
  · rintro ⟨n, hn, hf, rfl⟩
    exact ⟨hf, hn⟩
  · rintro ⟨hf, hn⟩
    exact ⟨f.name, hn, hf, rfl⟩

/-- The requested facets come in the order the request first mentions their names. -/
theorem requested_facets_names (hnd : (facets.map (·.name)).Nodup) :
    (requested.eraseDups.filterMap (fun n => facets.find? (·.name = n))).map (·.name) =
      requested.eraseDups.filter (· ∈ facets.map (·.name)) := by
  rw [List.map_filterMap]
  simp only [find?_name_map hnd]
  exact congrFun List.filterMap_eq_filter _

/-- Each facet of the response is printed exactly once: the requested ones, then the rest. -/
theorem orderFacets_perm (hnd : (facets.map (·.name)).Nodup) :
    (orderFacets facets requested).Perm facets := by
  have hfacets : facets.Nodup := List.Nodup.of_map _ hnd
  have hfirst : (requested.eraseDups.filterMap (fun n => facets.find? (·.name = n))).Nodup := by
    refine List.Nodup.of_map (·.name) ?_
    rw [requested_facets_names hnd]
    exact (nodup_eraseDups _).filter _
  -- the requested facets are those the filter keeps, the sorted rest those it drops
  have hperm : (requested.eraseDups.filterMap fun n => facets.find? (·.name = n)).Perm
      (facets.filter fun f => requested.eraseDups.contains f.name) := by
    refine (List.perm_ext_iff_of_nodup hfirst (hfacets.filter _)).2 fun f => ?_
    rw [mem_requested_facets hnd, List.mem_filter]
    simp
  rw [orderFacets_eq]
  exact (hperm.append (List.mergeSort_perm _ _)).trans (List.filter_append_perm _ _)

end Order

/-- The facet sections. When the response's facets have distinct names, each is printed exactly
once, as a blank line, its header and its terms: first the facets the request names, in the
order of the request's first mention of each name, then the facets it does not name, strictly
increasing in the byte order of their names. No facets give no lines. -/
theorem facetLines_order (facets : List Facet) (requested : List String)
    (hnames : (facets.map (·.name)).Nodup) :
    ∃ first rest : List Facet,
      facetLines facets requested = (first ++ rest).flatMap facetSection ∧
      (first ++ rest).Perm facets ∧
      first.map (·.name) = requested.eraseDups.filter (· ∈ facets.map (·.name)) ∧
      (∀ f ∈ rest, f.name ∉ requested) ∧
      rest.Pairwise fun a b => utf8Bytes a.name < utf8Bytes b.name := by
  set rest := (facets.filter fun f => !requested.eraseDups.contains f.name).mergeSort
    fun a b => a.name ≤ b.name
  have hrest : ∀ f ∈ rest, f ∈ facets ∧ f.name ∉ requested := by
    intro f hf
    simpa using List.mem_mergeSort.1 hf
  have hnd : (rest.map (·.name)).Nodup :=
    ((List.mergeSort_perm _ _).map _).nodup_iff.2 (hnames.sublist (List.filter_sublist.map _))
  refine ⟨_, rest, ?_, orderFacets_eq facets requested ▸ orderFacets_perm hnames,
    requested_facets_names hnames, fun f hf => (hrest f hf).2,
    pairwise_utf8Bytes_lt (pairwise_mergeSort_key _ _) hnd⟩
  rw [facetLines, orderFacets_eq]
  rfl

/-- A request that names a facet twice and a facet the response lacks: the facets named come
once each, in the order first named, and the one not named after them. -/
theorem facetLines_order_repeated_request :
    (([⟨"level", []⟩, ⟨"host", []⟩, ⟨"extra", []⟩] : List Facet).map (·.name)).Nodup ∧
      ∃ first rest : List Facet,
        facetLines [⟨"level", []⟩, ⟨"host", []⟩, ⟨"extra", []⟩] ["host", "nope", "level", "host"] =
          (first ++ rest).flatMap facetSection ∧
        (first ++ rest).Perm [⟨"level", []⟩, ⟨"host", []⟩, ⟨"extra", []⟩] ∧
        first.map (·.name) = ["host", "nope", "level", "host"].eraseDups.filter
          (· ∈ ([⟨"level", []⟩, ⟨"host", []⟩, ⟨"extra", []⟩] : List Facet).map (·.name)) ∧
        (∀ f ∈ rest, f.name ∉ ["host", "nope", "level", "host"]) ∧
        rest.Pairwise fun a b => utf8Bytes a.name < utf8Bytes b.name :=
  ⟨by decide, facetLines_order _ _ (by decide)⟩

end SqlSearch.Response
