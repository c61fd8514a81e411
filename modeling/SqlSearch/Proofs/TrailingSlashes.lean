import SqlSearch.Config.Basic
import SqlSearch.Proofs.ByteOrder
import SqlSearch.Proofs.ConditionShape
/-! Trailing slashes. A slash at the end of a URL belongs to its path, its query or its
fragment, never to its scheme or its authority, and a `/` ends no escape. So when a text reads
as a URL with a scheme and a host, the text without its trailing slashes reads as one too, with
the same scheme and host, and an endpoint that passes the check still passes it once its
trailing slashes are removed (`validateEndpoint_trimTrailingSlashes`). -/
namespace SqlSearch.Url

open SqlSearch.Text

/-! ### Escapes -/

/-- A `/` is no hex digit, so a text whose escapes read with a `/` after it has complete
escapes without it. -/
theorem unescape_go_of_append_slash (mode : Component) :
    ∀ (bs : List UInt8) {r : List UInt8}, unescape.go mode (bs ++ [47]) = .ok r →
      ∃ r', unescape.go mode bs = .ok r'
  | [], _, _ => ⟨[], rfl⟩
  | b :: rest, r, h => by
    rw [List.cons_append, unescape.go.eq_def] at h
    rw [unescape.go.eq_def]
    dsimp only at h ⊢
    by_cases hb : b = 37
    · subst hb
      simp only [↓reduceIte] at h ⊢
      -- a `%` needs two hex digits, and the added `/` cannot be the second
      match rest, h with
      | [], h => cases h
      | [h1], h => simp [isHexByte] at h
      | h1 :: h2 :: more, h =>
        dsimp only [List.cons_append] at h ⊢
        split_ifs at h ⊢
        obtain ⟨m, hm, -⟩ := Query.ok_of_map h
        obtain ⟨r', hr'⟩ := unescape_go_of_append_slash mode more hm
        exact ⟨_, by rw [hr']; rfl⟩
    · simp only [if_neg hb] at h ⊢
      split_ifs at h ⊢
      all_goals
        obtain ⟨m, hm, -⟩ := Query.ok_of_map h
        obtain ⟨r', hr'⟩ := unescape_go_of_append_slash mode rest hm
        exact ⟨_, by rw [hr']; rfl⟩

theorem utf8Bytes_append_slash (s : String) : utf8Bytes (s ++ "/") = utf8Bytes s ++ [47] := by
  rw [utf8Bytes_eq, utf8Bytes_eq, String.toList_append, List.flatMap_append]
  rfl

theorem unescape_of_append_slash {s : String} {mode : Component} {r : List UInt8}
    (h : unescape (utf8Bytes (s ++ "/")) mode = .ok r) :
    ∃ r', unescape (utf8Bytes s) mode = .ok r' := by
  rw [utf8Bytes_append_slash] at h
  exact unescape_go_of_append_slash mode _ h

/-! ### Cutting at a character -/

theorem idxOf?_append (xs ys : List Char) (c : Char) :
    (xs ++ ys).idxOf? c = (xs.idxOf? c).or ((ys.idxOf? c).map (· + xs.length)) :=
  List.findIdx?_append

theorem cut_of_not_mem {s : String} {c : Char} (h : c ∉ s.toList) : cut s c = (s, none) := by
  simp [cut, List.idxOf?_eq_none_iff.mpr h]

theorem cut_snd_of_mem {s : String} {c : Char} (h : c ∈ s.toList) : ∃ p, (cut s c).2 = some p := by
  obtain ⟨i, hi⟩ : ∃ i, s.toList.idxOf? c = some i :=
    Option.isSome_iff_exists.mp (List.isSome_idxOf?.mpr h)
  simp [cut, hi]

/-- Text added after the first `c` lands after the cut. -/
theorem cut_append_of_mem {x : String} {c : Char} (y : String) (h : c ∈ x.toList) :
    cut (x ++ y) c = ((cut x c).1, (cut x c).2.map (· ++ y)) := by
  obtain ⟨i, hi⟩ : ∃ i, x.toList.idxOf? c = some i :=
    Option.isSome_iff_exists.mp (List.isSome_idxOf?.mpr h)
  obtain ⟨hlt, -⟩ := List.idxOf?_eq_some_iff.mp hi
  simp only [cut, String.toList_append, idxOf?_append, hi, Option.some_or,
    List.take_append_of_le_length (Nat.le_of_lt hlt), List.drop_append_of_le_length hlt,
    String.ofList_append, Option.map_some, String.ofList_toList]

theorem cut_append_slash {x : String} (h : '/' ∉ x.toList) : cut (x ++ "/") '/' = (x, some "") := by
  simp [cut, String.toList_append, idxOf?_append, List.idxOf?_eq_none_iff.mpr h]

/-! ### Scheme, query and authority -/

/-- A scheme found in a text is found, at the same place, once a slash is added; the slash
stays with the rest. -/
theorem splitScheme_go_append_slash (x : String) {sch r : String} :
    ∀ (cs : List Char) (i : Nat), i + cs.length = x.toList.length →
      splitScheme.go (x ++ "/") i (cs ++ ['/']) = .ok (sch, r) → sch ≠ "" →
      ∃ r', splitScheme.go x i cs = .ok (sch, r') ∧ r = r' ++ "/"
  | [], i, _, h, hs => by
    simp [splitScheme.go] at h
    exact absurd h.1 hs
  | c :: cs, i, hlen, h, hs => by
    have hnext : i + 1 + cs.length = x.toList.length := by simp at hlen; omega
    simp only [List.cons_append, splitScheme.go] at h ⊢
    split_ifs at h ⊢
    · exact splitScheme_go_append_slash x cs (i + 1) hnext h hs
    · simp at h
      exact absurd h.1 hs
    · exact splitScheme_go_append_slash x cs (i + 1) hnext h hs
    · -- the colon stands before the added slash
      have hlt : i < x.toList.length := by simp at hlen; omega
      simp only [String.toList_append, List.take_append_of_le_length (Nat.le_of_lt hlt),
        List.drop_append_of_le_length hlt, String.ofList_append, Except.ok.injEq,
        Prod.mk.injEq] at h
      exact ⟨_, by rw [h.1], h.2.symm⟩
    · simp at h
      exact absurd h.1 hs

theorem splitScheme_append_slash {x sch r : String} (h : splitScheme (x ++ "/") = .ok (sch, r))
    (hs : sch ≠ "") : ∃ r', splitScheme x = .ok (sch, r') ∧ r = r' ++ "/" := by
  have h' : splitScheme.go (x ++ "/") 0 (x.toList ++ ['/']) = .ok (sch, r) := by
    have hslash : "/".toList = ['/'] := rfl
    simpa only [splitScheme, String.toList_append, hslash] using h
  exact splitScheme_go_append_slash x x.toList 0 (by simp) h' hs

theorem endsWith_iff_suffix (s p : String) : s.endsWith p = true ↔ p.toList <:+ s.toList := by
  rw [String.endsWith_eq_endsWith_toSlice, String.Slice.endsWith_string_iff, String.copy_toSlice]

/-- The text before the query is the text before the first `?`, also when a lone trailing `?`
asks for an empty query. -/
theorem splitQuery_fst (r : String) : (splitQuery r).1 = (cut r '?').1 := by
  unfold splitQuery
  split
  · rename_i h
    obtain ⟨hend, hone⟩ := h
    obtain ⟨l, hl⟩ := (endsWith_iff_suffix r "?").mp hend
    replace hl : r.toList = l ++ ['?'] := hl.symm
    -- the trailing `?` is the only one
    have hnot : '?' ∉ l := by
      intro hmem
      have hcount : ((l ++ ['?']).filter (· = '?')).length = (l.filter (· = '?')).length + 1 := by
        simp [List.filter_append]
      have : 0 < (l.filter (· = '?')).length :=
        List.length_pos_of_mem (List.mem_filter.mpr ⟨hmem, by simp⟩)
      rw [hl] at hone
      omega
    have hidx : (l ++ ['?']).idxOf? '?' = some l.length := by
      simp [idxOf?_append, List.idxOf?_eq_none_iff.mpr hnot]
    simp [cut, hidx, hl]
  · rfl

theorem splitQuery_append_slash (r : String) :
    (splitQuery (r ++ "/")).1 = (splitQuery r).1 ∨
      (splitQuery (r ++ "/")).1 = (splitQuery r).1 ++ "/" := by
  rw [splitQuery_fst, splitQuery_fst]
  by_cases hq : '?' ∈ r.toList
  · exact .inl (by rw [cut_append_of_mem _ hq])
  · have hq' : '?' ∉ (r ++ "/").toList := by simpa [String.toList_append] using hq
    exact .inr (by rw [cut_of_not_mem hq, cut_of_not_mem hq'])

/-- A slash added after the authority's text lands in the path. -/
theorem splitAuthority_append_slash (t : List Char) :
    splitAuthority (t ++ ['/']) = ((splitAuthority t).1, (splitAuthority t).2 ++ "/") := by
  have hs : String.ofList (t ++ ['/']) = String.ofList t ++ "/" := String.ofList_append
  unfold splitAuthority
  rw [hs]
  by_cases hmem : '/' ∈ (String.ofList t).toList
  · rw [cut_append_of_mem _ hmem]
    obtain ⟨p, hp⟩ := cut_snd_of_mem hmem
    rcases hc : cut (String.ofList t) '/' with ⟨a, q⟩
    rw [hc] at hp
    dsimp only at hp
    subst hp
    simp [String.append_assoc]
  · rw [cut_append_slash hmem, cut_of_not_mem hmem]
    rfl

/-! ### The hierarchical part -/

/-- The text before the query is `//`, an authority that reads with that host, and a path
whose escapes read. -/
def Hosted (rest : String) (host : List UInt8) : Prop :=
  ∃ t, rest.toList = '/' :: '/' :: t ∧
    (∃ user, parseAuthority (splitAuthority t).1 = .ok (user, host)) ∧
    ∃ p, unescape (utf8Bytes (splitAuthority t).2) .path = .ok p

theorem withPath_ok {u v : Url} {rest : String} (h : withPath u rest = .ok v) :
    v.scheme = u.scheme ∧ v.host = u.host ∧ ∃ p, unescape (utf8Bytes rest) .path = .ok p := by
  unfold withPath at h
  obtain ⟨p, hp, h⟩ := Query.ok_of_bind h
  cases h
  cases hu : unescape (utf8Bytes rest) .path with
  | error e => simp [hu, Except.mapError] at hp
  | ok q => exact ⟨rfl, rfl, q, rfl⟩

theorem withPath_of_unescape {u : Url} {rest : String} {p : List UInt8}
    (h : unescape (utf8Bytes rest) .path = .ok p) :
    ∃ v, withPath u rest = .ok v ∧ v.scheme = u.scheme ∧ v.host = u.host := by
  simp only [withPath, h, Except.mapError, bind, Except.bind, pure, Except.pure]
  exact ⟨_, rfl, rfl, rfl⟩

theorem startsWith_two_slashes {rest : String} :
    rest.startsWith "//" = true ↔ ∃ t, rest.toList = '/' :: '/' :: t := by
  rw [String.startsWith_string_iff]
  constructor
  · rintro ⟨t, ht⟩
    exact ⟨t, ht.symm⟩
  · rintro ⟨t, ht⟩
    exact ⟨t, ht.symm⟩

/-- Everything reading the hierarchical part can do: the scheme is kept, and the host is kept
or read from an authority after `//`. -/
theorem parseHierarchy_ok {scheme rest : String} {base u : Url}
    (h : parseHierarchy scheme base rest = .ok u) :
    u.scheme = base.scheme ∧ (u.host = base.host ∨ Hosted rest u.host) := by
  unfold parseHierarchy at h
  split_ifs at h with hauth
  · obtain ⟨⟨user, host⟩, ha, h⟩ := Query.ok_of_bind h
    obtain ⟨hsch, hhost, p, hp⟩ := withPath_ok h
    obtain ⟨t, ht⟩ := startsWith_two_slashes.mp hauth.2
    have ht2 : rest.toList.drop 2 = t := by rw [ht]; rfl
    rw [ht2] at ha hp
    exact ⟨hsch, .inr ⟨t, ht, ⟨user, by rw [hhost]; exact ha⟩, p, hp⟩⟩
  all_goals
    -- without an authority the host stays the base's
    obtain ⟨hsch, hhost, -⟩ := withPath_ok h
    exact ⟨hsch, .inl hhost⟩

theorem parseHierarchy_of_hosted {scheme rest : String} {base : Url} {host : List UInt8}
    (hs : scheme ≠ "") (h : Hosted rest host) :
    ∃ u, parseHierarchy scheme base rest = .ok u ∧ u.scheme = base.scheme ∧ u.host = host := by
  obtain ⟨t, ht, ⟨user, ha⟩, p, hp⟩ := h
  have hauth : (scheme ≠ "" ∨ !rest.startsWith "///") ∧ rest.startsWith "//" :=
    ⟨.inl hs, startsWith_two_slashes.mpr ⟨t, ht⟩⟩
  have ht2 : rest.toList.drop 2 = t := by rw [ht]; rfl
  obtain ⟨v, hv, hsch, hhost⟩ := withPath_of_unescape (u := { base with user := user, host := host }) hp
  refine ⟨v, ?_, hsch, hhost⟩
  rw [parseHierarchy, if_pos hauth, ht2, ha]
  exact hv

/-- An authority followed by a slash is the authority followed by a path, so dropping the
slash keeps the host; with nothing before the slash the host would be empty. -/
theorem hosted_of_append_slash {rest : String} {host : List UInt8}
    (h : Hosted (rest ++ "/") host) (hh : host ≠ []) : Hosted rest host := by
  obtain ⟨t, ht, ⟨user, ha⟩, p, hp⟩ := h
  rw [String.toList_append, show "/".toList = ['/'] from rfl] at ht
  match hr : rest.toList, ht with
  | [], ht => simp at ht
  | [c], ht =>
    -- `//` alone: the authority is empty and so is its host
    simp only [List.cons_append, List.nil_append, List.cons.injEq] at ht
    obtain ⟨-, -, rfl⟩ := ht
    have hempty : parseAuthority "" = .ok (none, []) := by
      have : utf8Bytes "" = [] := by simp [utf8Bytes_eq]
      simp [parseAuthority, parseHost, cutLast, this, unescape, unescape.go, Except.mapError]
    rw [show (splitAuthority []).1 = "" from rfl, hempty] at ha
    cases ha
    exact absurd rfl hh
  | c :: d :: t', ht =>
    simp only [List.cons_append, List.cons.injEq] at ht
    obtain ⟨rfl, rfl, rfl⟩ := ht
    rw [splitAuthority_append_slash] at ha hp
    exact ⟨t', hr, ⟨user, ha⟩, unescape_of_append_slash hp⟩

/-! ### The text before the fragment -/

/-- A body read with a scheme and a host: it has no control character, its scheme is read, and
the text after the scheme, up to the query, is hosted. -/
theorem parseBody_hosted {raw : String} {u : Url} (h : parseBody raw = .ok u) (hs : u.scheme ≠ "")
    (hh : u.host ≠ []) :
    raw.any (fun (c : Char) => c.toNat < 0x20 || c.toNat == 0x7f) = false ∧
      ∃ sch r, splitScheme raw = .ok (sch, r) ∧
        u.scheme = String.ofList (sch.toList.map Char.toLower) ∧ Hosted (splitQuery r).1 u.host := by
  unfold parseBody at h
  by_cases hc : raw.any (fun (c : Char) => c.toNat < 0x20 || c.toNat == 0x7f) = true
  · rw [if_pos hc] at h
    simp only [throw, throwThe, MonadExceptOf.throw, bind, Except.bind, reduceCtorEq] at h
  rw [if_neg hc] at h
  by_cases hstar : raw = "*"
  · rw [if_pos hstar] at h
    simp only [pure, Except.pure, Except.ok.injEq] at h
    subst h
    exact absurd rfl hs
  rw [if_neg hstar] at h
  beta_reduce at h
  obtain ⟨⟨sch, r⟩, hsplit, h⟩ := Query.ok_of_bind h
  refine ⟨by simpa using hc, sch, r, hsplit, ?_⟩
  dsimp only at h
  generalize String.ofList (List.map Char.toLower sch.toList) = sc at h ⊢
  -- past a rootless reference and a colon error, the hierarchical part is read
  have hier : ∀ base : Url, base.scheme = sc → base.host = [] →
      parseHierarchy sc base (splitQuery r).1 = .ok u → u.scheme = sc ∧ Hosted (splitQuery r).1 u.host := by
    intro base hb hbh hp
    obtain ⟨hsch, hhost | hosted⟩ := parseHierarchy_ok hp
    · exact absurd (hhost.trans hbh) hh
    · exact ⟨hsch.trans hb, hosted⟩
  split_ifs at h
  · cases h
    exact absurd rfl hh
  · simp only [throw, throwThe, MonadExceptOf.throw, bind, Except.bind, reduceCtorEq] at h
  · exact hier _ rfl rfl h
  · exact hier _ rfl rfl h

theorem ofList_lower_ne_empty {sch : String} :
    String.ofList (sch.toList.map Char.toLower) ≠ "" ↔ sch ≠ "" := by
  rw [ne_eq, String.ofList_eq_empty_iff, List.map_eq_nil_iff, String.toList_eq_nil_iff]

/-- The converse: a hosted text after a scheme reads, with that scheme and host. -/
theorem parseBody_of_hosted {raw sch r : String} {host : List UInt8}
    (hc : raw.any (fun (c : Char) => c.toNat < 0x20 || c.toNat == 0x7f) = false)
    (hsplit : splitScheme raw = .ok (sch, r)) (hs : sch ≠ "") (hh : Hosted (splitQuery r).1 host) :
    ∃ u, parseBody raw = .ok u ∧ u.scheme = String.ofList (sch.toList.map Char.toLower) ∧
      u.host = host := by
  have hstar : raw ≠ "*" := by
    rintro rfl
    have hnone : splitScheme "*" = .ok ("", "*") := rfl
    rw [hnone] at hsplit
    cases hsplit
    exact hs rfl
  have hslash : (splitQuery r).1.startsWith "/" = true := by
    obtain ⟨t, ht, -⟩ := hh
    rw [String.startsWith_string_iff, ht]
    exact ⟨_, rfl⟩
  obtain ⟨u, hu, hsch, hhost⟩ : ∃ u, parseHierarchy (String.ofList (sch.toList.map Char.toLower))
      { scheme := String.ofList (sch.toList.map Char.toLower)
        forceQuery := (splitQuery r).2.1
        rawQuery := (splitQuery r).2.2 } (splitQuery r).1 = .ok u ∧
      u.scheme = String.ofList (sch.toList.map Char.toLower) ∧ u.host = host :=
    parseHierarchy_of_hosted (ofList_lower_ne_empty.mpr hs) hh
  refine ⟨u, ?_, hsch, hhost⟩
  unfold parseBody
  rw [if_neg (by simp [hc]), if_neg hstar]
  beta_reduce
  rw [hsplit]
  dsimp only [bind, Except.bind]
  rw [if_neg (by simp [hslash])]
  exact hu

/-- A text with a slash added that reads with a scheme and a host reads without it, with the
same scheme and host. -/
theorem parseBody_append_slash {x : String} {u : Url} (h : parseBody (x ++ "/") = .ok u)
    (hs : u.scheme ≠ "") (hh : u.host ≠ []) :
    ∃ u', parseBody x = .ok u' ∧ u'.scheme = u.scheme ∧ u'.host = u.host := by
  obtain ⟨hc, sch, r, hsplit, hsch, hosted⟩ := parseBody_hosted h hs hh
  have hsch' : sch ≠ "" := ofList_lower_ne_empty.mp (hsch ▸ hs)
  obtain ⟨r', hsplit', rfl⟩ := splitScheme_append_slash hsplit hsch'
  have hc' : x.any (fun (c : Char) => c.toNat < 0x20 || c.toNat == 0x7f) = false := by
    simp only [String.any, String.contains_bool_eq, String.toList_append, List.any_append,
      Bool.or_eq_false_iff] at hc ⊢
    exact hc.1
  -- the slash went to the query, or it ends the text before the query
  have hosted' : Hosted (splitQuery r').1 u.host := by
    rcases splitQuery_append_slash r' with heq | heq
    · rwa [heq] at hosted
    · rw [heq] at hosted
      exact hosted_of_append_slash hosted hh
  obtain ⟨u', hu', hs', hh'⟩ := parseBody_of_hosted hc' hsplit' hsch' hosted'
  exact ⟨u', hu', hs'.trans hsch.symm, hh'⟩

/-! ### Whole URLs -/

/-- A URL reads when the text before the first `#` reads and the fragment's escapes do; the
fragment changes neither scheme nor host. -/
theorem parse_ok {raw : String} {u : Url} (h : parse raw = .ok u) :
    ∃ u₀, parseBody (cut raw '#').1 = .ok u₀ ∧ u.scheme = u₀.scheme ∧ u.host = u₀.host ∧
      ∀ f, (cut raw '#').2 = some f → f ≠ "" → ∃ fb, unescape (utf8Bytes f) .fragment = .ok fb := by
  unfold parse at h
  rcases hcut : cut raw '#' with ⟨body, frag⟩
  rw [hcut] at h
  dsimp only at h ⊢
  cases hb : parseBody body with
  | error e =>
    rw [hb] at h
    cases h
  | ok u₀ =>
    rw [hb] at h
    dsimp only at h
    refine ⟨u₀, rfl, ?_⟩
    split at h
    · cases h
      exact ⟨rfl, rfl, fun f hf => by cases hf⟩
    · cases h
      exact ⟨rfl, rfl, fun f hf hne => by cases hf; exact absurd rfl hne⟩
    · rename_i f _
      split at h
      · cases h
      · rename_i fb hfb
        cases h
        exact ⟨rfl, rfl, fun f' hf' _ => by cases hf'; exact ⟨fb, hfb⟩⟩

theorem parse_of_parseBody {raw : String} {u₀ : Url} (hb : parseBody (cut raw '#').1 = .ok u₀)
    (hf : ∀ f, (cut raw '#').2 = some f → f ≠ "" → ∃ fb, unescape (utf8Bytes f) .fragment = .ok fb) :
    ∃ u, parse raw = .ok u ∧ u.scheme = u₀.scheme ∧ u.host = u₀.host := by
  unfold parse
  rcases hcut : cut raw '#' with ⟨body, frag⟩
  rw [hcut] at hb hf
  dsimp only at hb hf ⊢
  rw [hb]
  dsimp only
  split
  · exact ⟨u₀, rfl, rfl, rfl⟩
  · exact ⟨u₀, rfl, rfl, rfl⟩
  · rename_i f hne
    obtain ⟨fb, hfb⟩ := hf f rfl (fun h => hne h)
    rw [hfb]
    exact ⟨_, rfl, rfl, rfl⟩

theorem parse_append_slash {x : String} {u : Url} (h : parse (x ++ "/") = .ok u) (hs : u.scheme ≠ "")
    (hh : u.host ≠ []) : ∃ u', parse x = .ok u' ∧ u'.scheme = u.scheme ∧ u'.host = u.host := by
  obtain ⟨u₀, hb, hs₀, hh₀, hf⟩ := parse_ok h
  by_cases hmem : '#' ∈ x.toList
  · -- the slash ends the fragment
    rw [cut_append_of_mem _ hmem] at hb hf
    have hf' : ∀ f, (cut x '#').2 = some f → f ≠ "" →
        ∃ fb, unescape (utf8Bytes f) .fragment = .ok fb := by
      intro f hfx _
      have hne : f ++ "/" ≠ "" := by
        intro he
        simpa [String.toList_append] using congrArg String.toList he
      obtain ⟨fb, hfb⟩ := hf (f ++ "/") (by simp [hfx]) hne
      exact unescape_of_append_slash hfb
    obtain ⟨u', hu', hs', hh'⟩ := parse_of_parseBody hb hf'
    exact ⟨u', hu', hs'.trans hs₀.symm, hh'.trans hh₀.symm⟩
  · -- there is no fragment: the slash ends the body
    have hmem' : '#' ∉ (x ++ "/").toList := by simpa [String.toList_append] using hmem
    rw [cut_of_not_mem hmem'] at hb
    obtain ⟨u₁, hu₁, hs₁, hh₁⟩ := parseBody_append_slash hb (hs₀ ▸ hs) (hh₀ ▸ hh)
    have hb' : parseBody (cut x '#').1 = .ok u₁ := by rw [cut_of_not_mem hmem]; exact hu₁
    have hf' : ∀ f, (cut x '#').2 = some f → f ≠ "" →
        ∃ fb, unescape (utf8Bytes f) .fragment = .ok fb := by
      intro f hfx
      rw [cut_of_not_mem hmem] at hfx
      cases hfx
    obtain ⟨u', hu', hs', hh'⟩ := parse_of_parseBody hb' hf'
    exact ⟨u', hu', by rw [hs', hs₁, hs₀], by rw [hh', hh₁, hh₀]⟩

end SqlSearch.Url

namespace SqlSearch.Config

open SqlSearch.Url

/-- The empty text reads as no URL with a scheme and a host. -/
theorem parse_empty_unhosted {u : Url} (h : Url.parse "" = .ok u) (hs : u.scheme ≠ "")
    (hh : u.host ≠ []) : False := by
  obtain ⟨u₀, hb, hs₀, hh₀, -⟩ := parse_ok h
  obtain ⟨-, sch, r, hsplit, hsch, -⟩ := parseBody_hosted hb (hs₀ ▸ hs) (hh₀ ▸ hh)
  have hnone : splitScheme (cut "" '#').1 = .ok ("", "") := rfl
  rw [hnone] at hsplit
  cases hsplit
  exact hs (hs₀.trans hsch)

/-- The endpoint check passes exactly on the texts that read as an http or https URL with a
host. -/
theorem validateEndpoint_ok_iff {e : String} : validateEndpoint e = .ok () ↔
    ∃ u, Url.parse e = .ok u ∧ (u.scheme = "http" ∨ u.scheme = "https") ∧ u.host ≠ [] := by
  constructor
  · intro h
    unfold validateEndpoint at h
    split at h
    · cases h
    · split at h
      · cases h
      · rename_i u hu
        split_ifs at h with hs hh
        refine ⟨u, hu, ?_, by simpa using hh⟩
        by_contra hn
        exact hs (not_or.mp hn)
  · rintro ⟨u, hu, hs, hh⟩
    have hs' : ¬(u.scheme ≠ "http" ∧ u.scheme ≠ "https") := by
      rcases hs with h | h <;> simp [h]
    have he : e.isEmpty = false := by
      cases hemp : e.isEmpty
      · rfl
      · rw [String.isEmpty_iff.mp hemp] at hu
        exact (parse_empty_unhosted hu (by rcases hs with h | h <;> simp [h]) hh).elim
    have hh' : u.host.isEmpty = false := by simpa using hh
    simp only [validateEndpoint, he, hu, hs', hh', if_false, Bool.false_eq_true]

theorem validateEndpoint_of_append_slash {x : String} (h : validateEndpoint (x ++ "/") = .ok ()) :
    validateEndpoint x = .ok () := by
  obtain ⟨u, hu, hs, hh⟩ := validateEndpoint_ok_iff.mp h
  have hne : u.scheme ≠ "" := by rcases hs with h | h <;> simp [h]
  obtain ⟨u', hu', hs', hh'⟩ := parse_append_slash hu hne hh
  exact validateEndpoint_ok_iff.mpr ⟨u', hu', hs' ▸ hs, hh' ▸ hh⟩

/-- An endpoint that passes the check passes it without its trailing slashes. -/
theorem validateEndpoint_trimTrailingSlashes {e : String} (h : validateEndpoint e = .ok ()) :
    validateEndpoint (trimTrailingSlashes e) = .ok () := by
  -- the slashes come off the end one at a time: induction over the reversed characters
  have peel : ∀ r : List Char, validateEndpoint (String.ofList r.reverse) = .ok () →
      validateEndpoint (String.ofList (r.dropWhile (· = '/')).reverse) = .ok () := by
    intro r
    induction r with
    | nil => exact id
    | cons c r ih =>
      intro hr
      by_cases hc : c = '/'
      · subst hc
        rw [List.dropWhile_cons_of_pos (by simp)]
        apply ih
        apply validateEndpoint_of_append_slash
        rw [List.reverse_cons, String.ofList_append] at hr
        exact hr
      · rw [List.dropWhile_cons_of_neg (by simpa using hc)]
        exact hr
  unfold trimTrailingSlashes
  apply peel
  rw [List.reverse_reverse, String.ofList_toList]
  exact h

end SqlSearch.Config
