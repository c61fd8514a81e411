import SqlSearch.Proofs.UrlHosts
import SqlSearch.Proofs.CleanPaths
import SqlSearch.Proofs.ResourceAttributes
/-! Written URLs. A URL with an http or https scheme and a host, in the form reading gives it
(`HttpUrl`), is written as its scheme, `//`, user information, host, path, query and fragment
(`HttpUrl.text_eq`). Each component is written in its raw form where that is a valid escaped
form reading back as the bytes, else escaped (`writtenForm`). Reading the text back gives the
same URL with its raw path and raw fragment kept only where they are not the escaped forms
(`HttpUrl.parse_text`), and writing that gives the same text again (`HttpUrl.text_reread`).

Every text that reads with an http or https scheme and a host whose zone is ASCII reads in that
form (`parse_httpUrl`); its raw path, when it has one, reads as its path. -/
namespace SqlSearch.Url

open SqlSearch.Text

/-! ### Written forms -/

/-- The written form of a component: its raw text where that is a valid escaped form that reads
back as the bytes, else the bytes escaped. -/
def writtenForm (raw : String) (bs : List UInt8) (mode : Component) : String :=
  let readsBack : Bool := match unescape (utf8Bytes raw) mode with
    | .ok p => p == bs
    | .error _ => false
  if raw != "" && validEncoded (utf8Bytes raw) mode && readsBack then raw else escape bs mode

theorem escapedFragment_eq (u : Url) :
    u.escapedFragment = writtenForm u.rawFragment u.fragment .fragment := rfl

theorem escapedPath_eq {u : Url} (h : u.path ≠ [42]) :
    u.escapedPath = writtenForm u.rawPath u.path .path := by
  conv_lhs =>
    unfold Url.escapedPath
    rw [if_neg h]
  rfl

theorem writtenForm_cases (raw : String) (bs : List UInt8) (mode : Component) :
    (raw ≠ "" ∧ validEncoded (utf8Bytes raw) mode = true ∧ unescape (utf8Bytes raw) mode = .ok bs ∧
      writtenForm raw bs mode = raw) ∨ writtenForm raw bs mode = escape bs mode := by
  unfold writtenForm
  dsimp only
  split_ifs with h
  · simp only [Bool.and_eq_true, bne_iff_ne, ne_eq] at h
    obtain ⟨⟨hne, hval⟩, hrb⟩ := h
    refine .inl ⟨hne, hval, ?_, rfl⟩
    split at hrb
    · rename_i p hp
      rw [hp, eq_of_beq hrb]
    · cases hrb
  · exact .inr rfl

theorem writtenForm_empty (bs : List UInt8) (mode : Component) :
    writtenForm "" bs mode = escape bs mode := by
  simp [writtenForm]

theorem unescape_go_ne_nil {mode : Component} {bs r : List UInt8} (hbs : bs ≠ [])
    (h : unescape.go mode bs = .ok r) : r ≠ [] := by
  fun_induction unescape.go mode bs
  all_goals first
    | exact absurd rfl hbs
    | cases h
    | (obtain ⟨y, -, rfl⟩ := map_eq_ok h; exact List.cons_ne_nil _ _)

/-- No bytes are written as nothing. -/
theorem writtenForm_nil (raw : String) (mode : Component) : writtenForm raw [] mode = "" := by
  rcases writtenForm_cases raw [] mode with ⟨hne, -, hun, -⟩ | he
  · exfalso
    have hbs : utf8Bytes raw ≠ [] := by
      rw [utf8Bytes_eq]
      obtain ⟨c, r, hcr⟩ := List.exists_cons_of_ne_nil (fun h => hne (String.toList_eq_nil_iff.1 h))
      rw [hcr, List.flatMap_cons]
      exact List.append_ne_nil_of_left_ne_nil String.utf8EncodeChar_ne_nil _
    exact unescape_go_ne_nil hbs hun rfl
  · rw [he]
    rfl

/-- A written form reads back as the bytes. -/
theorem unescape_writtenForm {raw : String} {bs : List UInt8} {mode : Component}
    (hrb : ∀ b ∈ bs, readsBack mode b = true) :
    unescape (utf8Bytes (writtenForm raw bs mode)) mode = .ok bs := by
  rcases writtenForm_cases raw bs mode with ⟨-, -, hun, he⟩ | he
  · rw [he]
    exact hun
  · rw [he]
    exact unescape_escape hrb

/-- Reading a written form keeps it as raw text unless it is the bytes escaped; either way the
bytes are written the same again. -/
theorem writtenForm_reread (raw : String) (bs : List UInt8) (mode : Component) :
    writtenForm (if escape bs mode = writtenForm raw bs mode then "" else writtenForm raw bs mode)
      bs mode = writtenForm raw bs mode := by
  rcases writtenForm_cases raw bs mode with ⟨-, -, -, he⟩ | he
  · rw [he]
    by_cases hesc : escape bs mode = raw
    · rw [if_pos hesc, writtenForm_empty, hesc]
    · rw [if_neg hesc, he]
  · rw [he, if_pos rfl, writtenForm_empty]

/-- A raw text that reads as other bytes is no written form of these. -/
theorem writtenForm_of_ne {raw : String} {bs bs' : List UInt8} {mode : Component}
    (h : raw = "" ∨ unescape (utf8Bytes raw) mode = .ok bs') (hne : bs' ≠ bs) :
    writtenForm raw bs mode = escape bs mode := by
  rcases writtenForm_cases raw bs mode with ⟨hraw, -, hun, -⟩ | he
  · rcases h with h | h
    · exact absurd h hraw
    · rw [h] at hun
      cases hun
      exact absurd rfl hne
  · exact he

/-! ### The written text -/

/-- The user information as written before the host, with its `@`. -/
def Url.userPart (u : Url) : String := (u.user.map fun ui => ui.text ++ "@").getD ""

/-- The query as written, with its `?`. -/
def Url.queryPart (u : Url) : String :=
  if u.forceQuery = true ∨ u.rawQuery ≠ "" then "?" ++ u.rawQuery else ""

/-- The fragment as written, with its `#`. -/
def Url.fragmentPart (u : Url) : String :=
  if !u.fragment.isEmpty then "#" ++ u.escapedFragment else ""

/-- The URL a written URL reads as: the same parts, with its raw path and raw fragment kept only
where they are not the escaped forms. -/
def Url.reread (u : Url) : Url :=
  { u with
    rawPath := if escape u.path .path = u.escapedPath then "" else u.escapedPath
    rawFragment := if u.fragment = [] then ""
      else if escape u.fragment .fragment = u.escapedFragment then "" else u.escapedFragment }

/-- Reading keeps the path, so giving a reread URL its own path changes nothing. -/
theorem Url.reread_with_path {u : Url} {p : List UInt8} (h : u.path = p) :
    { u.reread with path := p } = u.reread := by
  subst h
  rfl

/-- A character that is no control character. -/
def Printing (c : Char) : Prop := 0x20 ≤ c.toNat ∧ c.toNat ≠ 0x7f

instance (c : Char) : Decidable (Printing c) := inferInstanceAs (Decidable (_ ∧ _))

/-- The control test reading makes of a whole text. -/
theorem any_control_eq_false_iff {s : String} :
    s.any (fun (c : Char) => c.toNat < 0x20 || c.toNat == 0x7f) = false ↔ ∀ c ∈ s.toList, Printing c := by
  simp only [String.any, String.contains_bool_eq]
  rw [List.any_eq_false]
  refine forall₂_congr fun c _ => ?_
  simp only [Printing, Bool.or_eq_true, decide_eq_true_eq, beq_iff_eq, not_or]
  constructor <;> intro h <;> omega

/-- A URL with an http or https scheme and a host, in the form reading gives it: no rootless
text, a host as `HostBytes` describes, a path that is empty or starts with `/`, a raw path that
does too, and a query without `#` or control characters that is empty when a lone `?` asks for
it. -/
structure HttpUrl (u : Url) : Prop where
  scheme : u.scheme = "http" ∨ u.scheme = "https"
  rootless : u.rootless = ""
  omitHost : u.omitHost = false
  host_ne : u.host ≠ []
  host : HostBytes u.host
  path : u.path = [] ∨ u.path.head? = some 47
  rawPath : u.rawPath = "" ∨ u.rawPath.toList.head? = some '/'
  forceQuery : u.forceQuery = true → u.rawQuery = ""
  query : ∀ c ∈ u.rawQuery.toList, c ≠ '#' ∧ Printing c

namespace HttpUrl

variable {u : Url}

theorem scheme_ne (hu : HttpUrl u) : u.scheme ≠ "" := by
  rcases hu.scheme with h | h <;> rw [h] <;> decide

theorem path_ne_star (hu : HttpUrl u) : u.path ≠ [42] := by
  intro h
  rcases hu.path with hp | hp <;> rw [h] at hp <;> cases hp

/-- The path is written empty or starting with `/`. -/
theorem escapedPath_head (hu : HttpUrl u) :
    u.escapedPath = "" ∨ u.escapedPath.toList.head? = some '/' := by
  rw [escapedPath_eq hu.path_ne_star]
  rcases writtenForm_cases u.rawPath u.path .path with ⟨hne, -, -, he⟩ | he
  · rw [he]
    exact .inr (hu.rawPath.resolve_left hne)
  · rw [he]
    rcases hu.path with hp | hp
    · exact .inl (by rw [hp]; rfl)
    · refine .inr ?_
      rw [toList_escape]
      cases hq : u.path with
      | nil => rw [hq] at hp; cases hp
      | cons b p =>
        rw [hq] at hp
        cases hp
        rw [List.flatMap_cons]
        rfl

/-- Another path that is empty or starts with `/` keeps the form. -/
theorem setPath (hu : HttpUrl u) {p : List UInt8} (hp : p = [] ∨ p.head? = some 47) :
    HttpUrl { u with path := p } :=
  { hu with path := hp }

/-- The text: the scheme, `//`, the user information, the host and the path, then the query
and the fragment. -/
theorem text_eq (hu : HttpUrl u) :
    u.text = u.scheme ++ ":" ++ ("//" ++ u.userPart ++ escape u.host .host ++ u.escapedPath) ++
      u.queryPart ++ u.fragmentPart := by
  have hh : u.host.isEmpty = false := List.isEmpty_eq_false_iff.2 hu.host_ne
  have hdot : ∀ x : String, (u.scheme ++ ":" ++ x).isEmpty = false := by
    intro x
    cases he : (u.scheme ++ ":" ++ x).isEmpty
    · rfl
    · have := congrArg String.length (String.isEmpty_iff.1 he)
      simp [String.length_append] at this
  -- the path needs no `/` of its own and no `./` before it
  rcases hu.escapedPath_head with hE | hE
  · simp only [Url.text, Url.userPart, Url.queryPart, Url.fragmentPart, hu.rootless, hu.omitHost,
      if_pos hu.scheme_ne, ne_eq, not_true_eq_false, if_false, hh, hE, Bool.not_false,
      true_or, or_true, if_true, Bool.false_eq_true, false_and, hdot, String.append_empty]
  · rw [← Host.startsWith_slash_iff] at hE
    simp only [Url.text, Url.userPart, Url.queryPart, Url.fragmentPart, hu.rootless, hu.omitHost,
      if_pos hu.scheme_ne, ne_eq, not_true_eq_false, if_false, hh, hE, Bool.not_false, Bool.not_true,
      true_or, or_true, if_true, Bool.false_eq_true, false_and, and_false, hdot, String.append_empty]

end HttpUrl

/-! ### Reading the pieces back -/

theorem cut_ofList_append {x y : List Char} {c : Char} (hx : c ∉ x) :
    cut (String.ofList (x ++ c :: y)) c = (String.ofList x, some (String.ofList y)) := by
  simp [cut, String.toList_ofList, idxOf?_append, List.idxOf?_eq_none_iff.2 hx, List.idxOf?_cons,
    List.drop_append]

/-- Escaped user information holds only characters user information may hold. -/
theorem escape_userinfo_chars (bs : List UInt8) :
    ∀ c ∈ (escape bs .userPassword).toList,
      (c.isAlphanum || "-._:~!$&'()*+,;=%@".toList.contains c) = true := by
  have hplain : ∀ n < 128, shouldEscape n.toUInt8 .userPassword = false →
      ((Char.ofNat n).isAlphanum || "-._:~!$&'()*+,;=%@".toList.contains (Char.ofNat n)) = true := by
    decide
  intro c hc
  rcases mem_escape hc with rfl | ⟨n, hn, rfl⟩ | rfl | ⟨b, -, hb, hlt, hcb⟩
  · decide
  · exact (show ∀ n < 16, ((hexUpper n).isAlphanum ||
      "-._:~!$&'()*+,;=%@".toList.contains (hexUpper n)) = true by decide) n hn
  · decide
  · have hc' : c = Char.ofNat b.toNat := by rw [← hcb, Char.ofNat_toNat]
    rw [hc']
    exact hplain _ hlt (by rw [show b.toNat.toUInt8 = b from UInt8.ofNat_toNat]; exact hb)

theorem validUserinfo_text (ui : Userinfo) : validUserinfo ui.text = true := by
  simp only [validUserinfo, String.all_bool_eq, List.all_eq_true, Userinfo.text]
  intro c hc
  rw [String.toList_append] at hc
  rcases List.mem_append.1 hc with hc | hc
  · exact escape_userinfo_chars _ c hc
  · cases hp : ui.password with
    | none => rw [hp] at hc; cases hc
    | some p =>
      rw [hp] at hc
      simp only [Option.map_some, Option.getD_some, String.toList_append] at hc
      rcases List.mem_append.1 hc with hc | hc
      · have : c = ':' := by simpa using hc
        subst this
        decide
      · exact escape_userinfo_chars _ c hc

theorem colon_not_mem_escape_userinfo (bs : List UInt8) : ':' ∉ (escape bs .userPassword).toList :=
  not_mem_escape bs (by decide) (by decide) (by decide) (by decide)

theorem cut_userinfo_text (ui : Userinfo) :
    cut ui.text ':' = (escape ui.user .userPassword, ui.password.map (escape · .userPassword)) := by
  cases hp : ui.password with
  | none =>
    simp only [Userinfo.text, hp, Option.map_none, Option.getD_none, String.append_empty]
    exact cut_of_not_mem (colon_not_mem_escape_userinfo _)
  | some p =>
    have htext : ui.text = String.ofList ((escape ui.user .userPassword).toList ++
        ':' :: (escape p .userPassword).toList) := by
      simp [Userinfo.text, hp, String.ofList_append, String.ofList_cons]
    rw [htext, cut_ofList_append (colon_not_mem_escape_userinfo _)]
    simp

theorem unescape_userinfo (bs : List UInt8) :
    unescape (utf8Bytes (escape bs .userPassword)) .userPassword = .ok bs :=
  unescape_escape fun _ _ => rfl

/-- An authority written as user information and a host that reads reads back as both. -/
theorem parseAuthority_written {H : String} {h : List UInt8} (hH : parseHost H = .ok h)
    (hat : '@' ∉ H.toList) (user : Option Userinfo) :
    parseAuthority ((user.map fun ui => ui.text ++ "@").getD "" ++ H) = .ok (user, h) := by
  cases user with
  | none =>
    have hnc : cutLast H '@' = none := by
      rcases cutLast_cases H '@' with ⟨-, hn⟩ | ⟨x, y, hxy, -, -⟩
      · exact hn
      · exact absurd (by simp [hxy]) hat
    simp only [Option.map_none, Option.getD_none, String.empty_append, parseAuthority, hnc, hH]
    rfl
  | some ui =>
    have htext : ui.text ++ "@" ++ H = String.ofList (ui.text.toList ++ '@' :: H.toList) := by
      simp [String.ofList_append, String.ofList_cons, String.append_assoc]
    have hcl : cutLast (ui.text ++ "@" ++ H) '@' = some (ui.text, H) := by
      rw [htext, cutLast_ofList_append hat, String.ofList_toList, String.ofList_toList]
    have hcut := cut_userinfo_text ui
    obtain ⟨user, password⟩ := ui
    cases password with
    | none =>
      simp only [Option.map_some, Option.getD_some, parseAuthority, hcl, hH, validUserinfo_text,
        Bool.not_true, Bool.false_eq_true, if_false, hcut, Option.map_none, unescape_userinfo]
      rfl
    | some p =>
      simp only [Option.map_some, Option.getD_some, parseAuthority, hcl, hH, validUserinfo_text,
        Bool.not_true, Bool.false_eq_true, if_false, hcut, unescape_userinfo]
      rfl

/-- A scheme of letters before a `:` is read as it stands. -/
theorem splitScheme_letters {sch rest : String} (hs : ∀ c ∈ sch.toList, c.isAlpha = true)
    (hne : sch ≠ "") : splitScheme (sch ++ ":" ++ rest) = .ok (sch, rest) := by
  have hgo : ∀ (l : List Char) (i : Nat), (∀ c ∈ l, c.isAlpha = true) →
      splitScheme.go (sch ++ ":" ++ rest) i (l ++ ':' :: rest.toList) =
        splitScheme.go (sch ++ ":" ++ rest) (i + l.length) (':' :: rest.toList) := by
    intro l
    induction l with
    | nil => intro i _; rfl
    | cons c l ih =>
      intro i hl
      rw [List.cons_append, splitScheme.go, if_pos (hl c List.mem_cons_self),
        ih (i + 1) (fun d hd => hl d (List.mem_cons_of_mem _ hd))]
      simp only [List.length_cons]
      congr 1
      omega
  have hlen : sch.toList.length ≠ 0 := by simpa [String.toList_eq_nil_iff] using hne
  unfold splitScheme
  rw [String.toList_append, String.toList_append, List.append_assoc,
    show (":" : String).toList = [':'] from rfl, List.singleton_append, hgo _ 0 hs, Nat.zero_add,
    splitScheme.go]
  simp [hlen, String.toList_append, List.drop_append]

/-- A query written after a text without `?` is read back as written, a lone `?` asking for an
empty query. -/
theorem splitQuery_written {pre rq : String} {fq : Bool} (hpre : '?' ∉ pre.toList)
    (hfq : fq = true → rq = "") :
    splitQuery (pre ++ if fq = true ∨ rq ≠ "" then "?" ++ rq else "") = (pre, fq, rq) := by
  have hnone : (pre.toList.filter (· = '?')).length = 0 := by
    rw [List.length_eq_zero_iff, List.filter_eq_nil_iff]
    intro c hc hq
    rw [decide_eq_true_eq] at hq
    exact hpre (hq ▸ hc)
  by_cases hf : fq = true
  · obtain rfl := hfq hf
    subst hf
    have hend : (pre ++ "?").endsWith "?" = true :=
      (endsWith_iff_suffix _ _).2 (by simp [String.toList_append])
    simp [splitQuery, hend, String.toList_append, List.filter_append, hnone]
  · have hf' : fq = false := by simpa using hf
    subst hf'
    by_cases hr : rq = ""
    · subst hr
      simp [splitQuery, cut_of_not_mem hpre, hnone]
    · have htext : pre ++ "?" ++ rq = String.ofList (pre.toList ++ '?' :: rq.toList) := by
        simp [String.ofList_append, String.ofList_cons, String.append_assoc]
      -- a `?` ending the query would be a second one
      have hnot : ¬((pre ++ "?" ++ rq).endsWith "?" = true ∧
          ((pre ++ "?" ++ rq).toList.filter (· = '?')).length = 1) := by
        rintro ⟨he, hc⟩
        have hsuf : ['?'] <:+ rq.toList :=
          List.suffix_of_suffix_length_le ((endsWith_iff_suffix _ _).1 he)
            (by rw [String.toList_append]; exact List.suffix_append _ _)
            (List.length_pos_of_ne_nil (by simpa [String.toList_eq_nil_iff] using hr))
        have hmem : '?' ∈ rq.toList := hsuf.subset List.mem_cons_self
        have hpos : 0 < (rq.toList.filter (· = '?')).length :=
          List.length_pos_of_mem (List.mem_filter.2 ⟨hmem, by simp⟩)
        have hq : (("?" : String).toList.filter (· = '?')).length = 1 := by decide
        simp only [String.toList_append, List.filter_append, List.length_append, hnone, hq] at hc
        omega
      rw [if_pos (.inr hr), ← String.append_assoc, splitQuery, if_neg hnot, htext,
        cut_ofList_append hpre]
      simp

/-- The text after `//`: an authority without `/`, then a path that is empty or starts with `/`. -/
theorem splitAuthority_written {a : List Char} {p : String} (ha : '/' ∉ a)
    (hp : p = "" ∨ p.toList.head? = some '/') :
    splitAuthority (a ++ p.toList) = (String.ofList a, p) := by
  rcases hp with rfl | hp
  · simp [splitAuthority, cut_of_not_mem (show '/' ∉ (String.ofList a).toList by simpa using ha)]
  · obtain ⟨p', hp'⟩ : ∃ p', p.toList = '/' :: p' := by
      cases hq : p.toList with
      | nil => rw [hq] at hp; cases hp
      | cons c p' => rw [hq] at hp; cases hp; exact ⟨p', rfl⟩
    simp only [splitAuthority, hp', cut_ofList_append ha]
    congr 1
    rw [← String.ofList_toList (s := p), hp']
    simp [String.ofList_cons]

/-- A path whose escapes read is read with its text kept as the raw path unless it is the path
escaped. -/
theorem withPath_written {base : Url} {E : String} {p : List UInt8}
    (hE : unescape (utf8Bytes E) .path = .ok p) :
    withPath base E = .ok { base with path := p, rawPath := if escape p .path = E then "" else E } := by
  simp only [withPath, hE]
  rfl

/-! ### What the written pieces hold -/

/-- Escapes write no control character. -/
theorem printing_of_mem_escape {bs : List UInt8} {mode : Component} {c : Char}
    (hc : c ∈ (escape bs mode).toList) : Printing c := by
  have hplain : ∀ n < 128, shouldEscape n.toUInt8 mode = false → 0x20 ≤ n ∧ n ≠ 0x7f := by
    cases mode <;> decide +kernel
  rcases mem_escape hc with rfl | ⟨n, hn, rfl⟩ | rfl | ⟨b, -, hb, hlt, hcb⟩
  · exact ⟨by decide, by decide⟩
  · exact (show ∀ n < 16, Printing (hexUpper n) by unfold Printing; decide) n hn
  · exact ⟨by decide, by decide⟩
  · unfold Printing
    rw [hcb]
    exact hplain _ hlt (by rw [show b.toNat.toUInt8 = b from UInt8.ofNat_toNat]; exact hb)

/-- A valid escaped path holds no `?`, no `#` and no control character. -/
theorem chars_of_validEncoded {s : String} (h : validEncoded (utf8Bytes s) .path = true) :
    ∀ c ∈ s.toList, c ≠ '?' ∧ c ≠ '#' ∧ Printing c := by
  have hallowed : ∀ n < 128, (byteIn n.toUInt8 "!$&'()*+,;=:@[]%" || !shouldEscape n.toUInt8 .path) = true →
      n ≠ 63 ∧ n ≠ 35 ∧ 0x20 ≤ n ∧ n ≠ 0x7f := by
    decide +kernel
  intro c hc
  by_cases hlt : c.toNat < 128
  · have hb : c.toUInt8 ∈ utf8Bytes s := by
      rw [utf8Bytes_eq]
      exact List.mem_flatMap.2 ⟨c, hc, by rw [utf8EncodeChar_ascii hlt]; exact List.mem_singleton_self _⟩
    have hok := List.all_eq_true.1 h _ hb
    rw [show c.toUInt8 = c.toNat.toUInt8 from UInt8.toNat_inj.1 (by rw [toNat_toUInt8_of_lt hlt]; simp; omega)] at hok
    obtain ⟨h63, h35, h20, h7f⟩ := hallowed _ hlt hok
    exact ⟨fun he => h63 (by rw [he]; rfl), fun he => h35 (by rw [he]; rfl), h20, h7f⟩
  · refine ⟨fun he => hlt (by rw [he]; decide), fun he => hlt (by rw [he]; decide), ?_, ?_⟩ <;> omega

/-- A written path holds no `?`, no `#` and no control character. -/
theorem chars_of_writtenForm_path (raw : String) (bs : List UInt8) :
    ∀ c ∈ (writtenForm raw bs .path).toList, c ≠ '?' ∧ c ≠ '#' ∧ Printing c := by
  rcases writtenForm_cases raw bs .path with ⟨-, hval, -, he⟩ | he
  · rw [he]
    exact chars_of_validEncoded hval
  · rw [he]
    intro c hc
    refine ⟨?_, ?_, printing_of_mem_escape hc⟩ <;> rintro rfl
    · exact not_mem_escape bs (by decide) (by decide) (by decide) (by decide) hc
    · exact not_mem_escape bs (by decide) (by decide) (by decide) (by decide) hc

theorem not_mem_escape_of_delim {c : Char} (hc : c = '/' ∨ c = '?' ∨ c = '#' ∨ c = '@' ∨ c = ':')
    (bs : List UInt8) {mode : Component} (hesc : shouldEscape c.toNat.toUInt8 mode = true) :
    c ∉ (escape bs mode).toList := by
  rcases hc with rfl | rfl | rfl | rfl | rfl <;>
    exact not_mem_escape bs (by decide) (by decide) (by decide) hesc

/-- A written host holds no `/`, `?`, `#` or `@` and no control character. -/
theorem chars_of_escape_host (bs : List UInt8) :
    ∀ c ∈ (escape bs .host).toList, c ≠ '/' ∧ c ≠ '?' ∧ c ≠ '#' ∧ c ≠ '@' ∧ Printing c := by
  intro c hc
  refine ⟨?_, ?_, ?_, ?_, printing_of_mem_escape hc⟩ <;> rintro rfl
  · exact not_mem_escape_of_delim (by simp) bs (by decide) hc
  · exact not_mem_escape_of_delim (by simp) bs (by decide) hc
  · exact not_mem_escape_of_delim (by simp) bs (by decide) hc
  · exact not_mem_escape_of_delim (by simp) bs (by decide) hc

/-- Written user information holds no `/`, `?` or `#` and no control character. -/
theorem chars_of_userPart (u : Url) :
    ∀ c ∈ u.userPart.toList, c ≠ '/' ∧ c ≠ '?' ∧ c ≠ '#' ∧ Printing c := by
  have hesc : ∀ (bs : List UInt8), ∀ c ∈ (escape bs .userPassword).toList,
      c ≠ '/' ∧ c ≠ '?' ∧ c ≠ '#' ∧ Printing c := by
    intro bs c hc
    refine ⟨?_, ?_, ?_, printing_of_mem_escape hc⟩ <;> rintro rfl
    · exact not_mem_escape_of_delim (by simp) bs (by decide) hc
    · exact not_mem_escape_of_delim (by simp) bs (by decide) hc
    · exact not_mem_escape_of_delim (by simp) bs (by decide) hc
  intro c hc
  cases hu : u.user with
  | none => simp [Url.userPart, hu] at hc
  | some ui =>
    simp only [Url.userPart, hu, Option.map_some, Option.getD_some, Userinfo.text,
      String.toList_append, List.mem_append] at hc
    rcases hc with (hc | hc) | hc
    · exact hesc _ c hc
    · cases hp : ui.password with
      | none => simp [hp] at hc
      | some p =>
        simp only [hp, Option.map_some, Option.getD_some, String.toList_append, List.mem_append] at hc
        rcases hc with hc | hc
        · have : c = ':' := by simpa using hc
          subst this
          exact ⟨by decide, by decide, by decide, by decide, by decide⟩
        · exact hesc _ c hc
    · have : c = '@' := by simpa using hc
      subst this
      exact ⟨by decide, by decide, by decide, by decide, by decide⟩

/-! ### Reading a written URL -/

namespace HttpUrl

variable {u : Url}

theorem chars_of_escapedPath (hu : HttpUrl u) :
    ∀ c ∈ u.escapedPath.toList, c ≠ '?' ∧ c ≠ '#' ∧ Printing c := by
  rw [escapedPath_eq hu.path_ne_star]
  exact chars_of_writtenForm_path _ _

/-- The text before the query: `//`, the user information, the host and the path. -/
theorem chars_of_hierPart (hu : HttpUrl u) :
    ∀ c ∈ ("//" ++ u.userPart ++ escape u.host .host ++ u.escapedPath).toList,
      c ≠ '?' ∧ c ≠ '#' ∧ Printing c := by
  intro c hc
  simp only [String.toList_append, List.mem_append] at hc
  rcases hc with ((hc | hc) | hc) | hc
  · have : c = '/' := by simpa using hc
    subst this
    exact ⟨by decide, by decide, by decide, by decide⟩
  · obtain ⟨-, h1, h2, h3⟩ := chars_of_userPart u c hc
    exact ⟨h1, h2, h3⟩
  · obtain ⟨-, h1, h2, -, h3⟩ := chars_of_escape_host u.host c hc
    exact ⟨h1, h2, h3⟩
  · exact hu.chars_of_escapedPath c hc

theorem chars_of_queryPart (hu : HttpUrl u) : ∀ c ∈ u.queryPart.toList, c ≠ '#' ∧ Printing c := by
  intro c hc
  unfold Url.queryPart at hc
  split_ifs at hc
  · simp only [String.toList_append, List.mem_append] at hc
    rcases hc with hc | hc
    · have : c = '?' := by simpa using hc
      subst this
      exact ⟨by decide, by decide, by decide⟩
    · exact hu.query c hc
  · cases hc

/-- Reading the authority and the path back. -/
theorem parseHierarchy_text (hu : HttpUrl u) (base : Url) :
    parseHierarchy u.scheme base ("//" ++ u.userPart ++ escape u.host .host ++ u.escapedPath) =
      .ok { base with
        user := u.user
        host := u.host
        path := u.path
        rawPath := if escape u.path .path = u.escapedPath then "" else u.escapedPath } := by
  have hauth : (u.scheme ≠ "" ∨ !("//" ++ u.userPart ++ escape u.host .host ++ u.escapedPath).startsWith "///") ∧
      ("//" ++ u.userPart ++ escape u.host .host ++ u.escapedPath).startsWith "//" :=
    ⟨.inl hu.scheme_ne, by rw [String.startsWith_string_iff]; simp [String.toList_append]⟩
  have hdrop : ("//" ++ u.userPart ++ escape u.host .host ++ u.escapedPath).toList.drop 2 =
      (u.userPart ++ escape u.host .host).toList ++ u.escapedPath.toList := by
    simp [String.toList_append]
  have hslash : '/' ∉ (u.userPart ++ escape u.host .host).toList := by
    intro hm
    simp only [String.toList_append, List.mem_append] at hm
    rcases hm with hm | hm
    · exact (chars_of_userPart u _ hm).1 rfl
    · exact (chars_of_escape_host u.host _ hm).1 rfl
  have hat : '@' ∉ (escape u.host .host).toList := fun hm => (chars_of_escape_host u.host _ hm).2.2.2.1 rfl
  have hpath : unescape (utf8Bytes u.escapedPath) .path = .ok u.path := by
    rw [escapedPath_eq hu.path_ne_star]
    exact unescape_writtenForm fun _ _ => rfl
  rw [parseHierarchy, if_pos hauth, hdrop, splitAuthority_written hslash hu.escapedPath_head,
    String.ofList_toList]
  simp only [Url.userPart, parseAuthority_written hu.host.parseHost_escape hat]
  exact withPath_written hpath

theorem scheme_letters (hu : HttpUrl u) : ∀ c ∈ u.scheme.toList, c.isAlpha = true := by
  rcases hu.scheme with h | h <;> rw [h] <;> decide

theorem scheme_lower (hu : HttpUrl u) : String.ofList (u.scheme.toList.map Char.toLower) = u.scheme := by
  rcases hu.scheme with h | h <;> rw [h] <;> rfl

/-- Reading the text before the fragment back. -/
theorem parseBody_text (hu : HttpUrl u) :
    parseBody (u.scheme ++ ":" ++ ("//" ++ u.userPart ++ escape u.host .host ++ u.escapedPath) ++
      u.queryPart) =
      .ok { u with
        rawPath := if escape u.path .path = u.escapedPath then "" else u.escapedPath
        fragment := []
        rawFragment := "" } := by
  have hq : '?' ∉ ("//" ++ u.userPart ++ escape u.host .host ++ u.escapedPath).toList :=
    fun h => (hu.chars_of_hierPart _ h).1 rfl
  have hctl : (u.scheme ++ ":" ++ ("//" ++ u.userPart ++ escape u.host .host ++ u.escapedPath) ++
      u.queryPart).any (fun (c : Char) => c.toNat < 0x20 || c.toNat == 0x7f) = false := by
    apply any_control_eq_false_iff.2
    intro c hc
    rw [String.toList_append, String.toList_append, String.toList_append] at hc
    simp only [List.mem_append] at hc
    rcases hc with ((hc | hc) | hc) | hc
    · rcases hu.scheme with hs | hs <;> rw [hs] at hc <;> revert c <;> decide
    · have : c = ':' := by simpa using hc
      subst this
      decide
    · exact (hu.chars_of_hierPart c hc).2.2
    · exact (hu.chars_of_queryPart c hc).2
  have hstar : u.scheme ++ ":" ++ ("//" ++ u.userPart ++ escape u.host .host ++ u.escapedPath) ++
      u.queryPart ≠ "*" := by
    intro h
    have := congrArg String.toList h
    rcases hu.scheme with hs | hs <;> simp [hs, String.toList_append] at this
  have hslash : ("//" ++ u.userPart ++ escape u.host .host ++ u.escapedPath).startsWith "/" = true := by
    rw [String.startsWith_string_iff]
    simp [String.toList_append]
  have hB : u.scheme ++ ":" ++ ("//" ++ u.userPart ++ escape u.host .host ++ u.escapedPath) ++
      u.queryPart = u.scheme ++ ":" ++ (("//" ++ u.userPart ++ escape u.host .host ++ u.escapedPath) ++
      u.queryPart) := String.append_assoc
  unfold parseBody
  rw [if_neg (by simp [hctl]), if_neg hstar]
  beta_reduce
  rw [hB, splitScheme_letters hu.scheme_letters hu.scheme_ne]
  simp only [bind, Except.bind, hu.scheme_lower]
  rw [show u.queryPart = if u.forceQuery = true ∨ u.rawQuery ≠ "" then "?" ++ u.rawQuery else "" from rfl,
    splitQuery_written hq hu.forceQuery]
  simp only [hslash, Bool.not_true, Bool.false_eq_true, if_false, hu.parseHierarchy_text,
    hu.rootless, hu.omitHost]

theorem hash_not_mem_body (hu : HttpUrl u) :
    '#' ∉ (u.scheme ++ ":" ++ ("//" ++ u.userPart ++ escape u.host .host ++ u.escapedPath) ++
      u.queryPart).toList := by
  intro hc
  rw [String.toList_append, String.toList_append, String.toList_append] at hc
  simp only [List.mem_append] at hc
  rcases hc with ((hc | hc) | hc) | hc
  · rcases hu.scheme with hs | hs <;> rw [hs] at hc <;> revert hc <;> decide
  · revert hc; decide
  · exact (hu.chars_of_hierPart _ hc).2.1 rfl
  · exact (hu.chars_of_queryPart _ hc).1 rfl

/-- A URL in the form reading gives, written and read again, comes back with its raw path and
raw fragment kept only where they differ from the escaped forms. -/
theorem parse_text (hu : HttpUrl u) : parse u.text = .ok u.reread := by
  rw [hu.text_eq]
  unfold Url.fragmentPart
  by_cases hf : u.fragment = []
  · simp only [hf, List.isEmpty_nil, Bool.not_true, Bool.false_eq_true, if_false,
      String.append_empty]
    simp only [parse, cut_of_not_mem hu.hash_not_mem_body, hu.parseBody_text, Url.reread, hf]
    rfl
  · have hW : unescape (utf8Bytes u.escapedFragment) .fragment = .ok u.fragment := by
      rw [escapedFragment_eq]
      exact unescape_writtenForm fun _ _ => rfl
    -- a fragment that is written is read: its text is not empty
    have hne : u.escapedFragment ≠ "" := by
      intro he
      have h0 : unescape [] .fragment = .ok [] := rfl
      rw [he, show utf8Bytes "" = [] by simp [utf8Bytes_eq], h0] at hW
      exact hf (Except.ok.inj hW).symm
    have hcut : cut (u.scheme ++ ":" ++ ("//" ++ u.userPart ++ escape u.host .host ++ u.escapedPath) ++
        u.queryPart ++ ("#" ++ u.escapedFragment)) '#' =
        (u.scheme ++ ":" ++ ("//" ++ u.userPart ++ escape u.host .host ++ u.escapedPath) ++ u.queryPart,
          some u.escapedFragment) := by
      have hnot := hu.hash_not_mem_body
      generalize u.scheme ++ ":" ++ ("//" ++ u.userPart ++ escape u.host .host ++ u.escapedPath) ++
        u.queryPart = B at hnot ⊢
      have hx : B ++ ("#" ++ u.escapedFragment) =
          String.ofList (B.toList ++ '#' :: u.escapedFragment.toList) := by
        apply String.toList_injective
        simp [String.toList_append]
      rw [hx, cut_ofList_append hnot, String.ofList_toList, String.ofList_toList]
    simp only [List.isEmpty_eq_false_iff.2 hf, Bool.not_false, if_true, parse, hcut,
      hu.parseBody_text, hW, Url.reread, if_neg hf]

theorem reread_httpUrl (hu : HttpUrl u) : HttpUrl u.reread where
  scheme := hu.scheme
  rootless := hu.rootless
  omitHost := hu.omitHost
  host_ne := hu.host_ne
  host := hu.host
  path := hu.path
  rawPath := by
    simp only [Url.reread]
    split_ifs
    · exact .inl rfl
    · exact hu.escapedPath_head
  forceQuery := hu.forceQuery
  query := hu.query

theorem escapedPath_reread (hu : HttpUrl u) : u.reread.escapedPath = u.escapedPath := by
  have hE := escapedPath_eq hu.path_ne_star
  rw [escapedPath_eq (u := u.reread) hu.path_ne_star]
  show writtenForm (if escape u.path .path = u.escapedPath then "" else u.escapedPath) u.path .path =
    u.escapedPath
  rw [hE]
  exact writtenForm_reread u.rawPath u.path .path

theorem escapedFragment_reread (u : Url) : u.reread.escapedFragment = u.escapedFragment := by
  rw [escapedFragment_eq, escapedFragment_eq]
  by_cases hf : u.fragment = []
  · show writtenForm (if u.fragment = [] then "" else _) u.fragment .fragment = _
    rw [if_pos hf, writtenForm_empty, hf, writtenForm_nil]
    rfl
  · show writtenForm (if u.fragment = [] then "" else _) u.fragment .fragment = _
    rw [if_neg hf]
    exact writtenForm_reread u.rawFragment u.fragment .fragment

/-- A written URL, read again and written, gives the same text. -/
theorem text_reread (hu : HttpUrl u) : u.reread.text = u.text := by
  rw [(reread_httpUrl hu).text_eq, hu.text_eq, escapedPath_reread hu]
  simp only [Url.userPart, Url.queryPart, Url.fragmentPart, escapedFragment_reread]
  rfl

/-- A URL in the form reading gives, with another path that starts with `/`, reads back with
that path; its raw path is kept only where the path is left as it is, otherwise the path is
written escaped. -/
theorem parse_setPath (hu : HttpUrl u)
    (hraw : u.rawPath = "" ∨ unescape (utf8Bytes u.rawPath) .path = .ok u.path) {p : List UInt8}
    (hp : p.head? = some 47) :
    parse ({ u with path := p }).text = .ok ({ u with path := p }).reread ∧
      ({ u with path := p }).reread.escapedPath =
        if p = u.path then u.escapedPath else escape p .path := by
  have hu' := hu.setPath (.inr hp)
  refine ⟨hu'.parse_text, ?_⟩
  rw [hu'.escapedPath_reread]
  split_ifs with he
  · subst he
    rfl
  · rw [escapedPath_eq hu'.path_ne_star]
    exact writtenForm_of_ne hraw (Ne.symm he)

end HttpUrl

/-! ### What reading gives -/

/-- What a scheme is split from keeps the end of the text. -/
theorem splitScheme_suffix {raw sch r : String} (h : splitScheme raw = .ok (sch, r)) :
    r.toList <:+ raw.toList := by
  have hgo : ∀ (cs : List Char) (i : Nat), splitScheme.go raw i cs = .ok (sch, r) →
      r = raw ∨ ∃ j, r = String.ofList (raw.toList.drop j) := by
    intro cs
    induction cs with
    | nil => intro i h; simp only [splitScheme.go, Except.ok.injEq, Prod.mk.injEq] at h; exact .inl h.2.symm
    | cons c cs ih =>
      intro i h
      simp only [splitScheme.go] at h
      split_ifs at h
      all_goals first
        | exact ih _ h
        | (simp only [Except.ok.injEq, Prod.mk.injEq] at h; first | exact .inl h.2.symm | exact .inr ⟨_, h.2.symm⟩)
  rcases hgo raw.toList 0 h with rfl | ⟨j, rfl⟩
  · exact List.suffix_refl _
  · rw [String.toList_ofList]
    exact List.drop_suffix _ _

/-- The query is read from the text it is split from. -/
theorem splitQuery_query_subset (r : String) : ∀ c ∈ (splitQuery r).2.2.toList, c ∈ r.toList := by
  intro c hc
  unfold splitQuery at hc
  split_ifs at hc
  · cases hc
  · rw [cut_eq] at hc
    split_ifs at hc
    · simp only [Option.getD_some, String.toList_ofList] at hc
      exact (List.dropWhile_suffix _).subset ((List.drop_suffix _ _).subset hc)
    · cases hc

/-- A lone `?` asks for an empty query. -/
theorem splitQuery_force (r : String) : (splitQuery r).2.1 = true → (splitQuery r).2.2 = "" := by
  unfold splitQuery
  split_ifs <;> simp

theorem hash_not_mem_cut (e : String) : '#' ∉ (cut e '#').1.toList := by
  rw [cut_eq, String.toList_ofList]
  intro h
  have := List.mem_takeWhile_imp h
  simp at this

/-- An authority that reads has a host that reads. -/
theorem parseHost_of_parseAuthority {a : String} {user : Option Userinfo} {host : List UInt8}
    (h : parseAuthority a = .ok (user, host)) : ∃ H, parseHost H = .ok host := by
  unfold parseAuthority at h
  split at h
  · obtain ⟨h', hh, he⟩ := Query.ok_of_bind h
    cases he
    exact ⟨a, hh⟩
  · rename_i suffix _
    obtain ⟨h', hh, he⟩ := Query.ok_of_bind h
    refine ⟨suffix, ?_⟩
    -- the user information is read after the host and leaves it as it is
    dsimp only at he
    split_ifs at he
    · cases he
    · split at he
      · obtain ⟨n, -, he⟩ := Query.ok_of_bind he
        cases he
        exact hh
      · obtain ⟨n, -, he⟩ := Query.ok_of_bind he
        obtain ⟨p, -, he⟩ := Query.ok_of_bind he
        cases he
        exact hh

theorem withPath_eq_ok {v u : Url} {rest : String} (h : withPath v rest = .ok u) :
    ∃ p, unescape (utf8Bytes rest) .path = .ok p ∧
      u = { v with path := p, rawPath := if escape p .path = rest then "" else rest } := by
  unfold withPath at h
  obtain ⟨p, hp, h⟩ := Query.ok_of_bind h
  exact ⟨p, ok_of_mapError hp, (Except.ok.inj h).symm⟩

/-- A hierarchical part read with a host was `//`, an authority and a path. -/
theorem parseHierarchy_hosted {scheme rest : String} {base u : Url}
    (h : parseHierarchy scheme base rest = .ok u) (hb : base.host = []) (hh : u.host ≠ []) :
    ∃ t p, rest.toList = '/' :: '/' :: t ∧ parseAuthority (splitAuthority t).1 = .ok (u.user, u.host) ∧
      unescape (utf8Bytes (splitAuthority t).2) .path = .ok p ∧
      u = { base with
        user := u.user
        host := u.host
        path := p
        rawPath := if escape p .path = (splitAuthority t).2 then "" else (splitAuthority t).2 } := by
  unfold parseHierarchy at h
  split_ifs at h with hauth
  · obtain ⟨⟨user, host⟩, ha, h⟩ := Query.ok_of_bind h
    obtain ⟨p, hp, rfl⟩ := withPath_eq_ok h
    obtain ⟨t, ht⟩ := startsWith_two_slashes.mp hauth.2
    have ht2 : rest.toList.drop 2 = t := by rw [ht]; rfl
    rw [ht2] at ha hp ⊢
    exact ⟨t, p, ht, ha, hp, rfl⟩
  all_goals
    -- without an authority the host stays the base's, which is empty
    obtain ⟨p, -, rfl⟩ := withPath_eq_ok h
    exact absurd hb hh

/-- A body read with a scheme and a host: no control character, a scheme, and after it `//`, an
authority and a path, then the query. -/
theorem parseBody_hosted_eq {raw : String} {u : Url} (h : parseBody raw = .ok u) (hs : u.scheme ≠ "")
    (hh : u.host ≠ []) :
    raw.any (fun (c : Char) => c.toNat < 0x20 || c.toNat == 0x7f) = false ∧
      ∃ sch r t p, splitScheme raw = .ok (sch, r) ∧ (splitQuery r).1.toList = '/' :: '/' :: t ∧
        parseAuthority (splitAuthority t).1 = .ok (u.user, u.host) ∧
        unescape (utf8Bytes (splitAuthority t).2) .path = .ok p ∧
        u = { scheme := String.ofList (sch.toList.map Char.toLower)
              forceQuery := (splitQuery r).2.1
              rawQuery := (splitQuery r).2.2
              user := u.user
              host := u.host
              path := p
              rawPath := if escape p .path = (splitAuthority t).2 then "" else (splitAuthority t).2 } := by
  unfold parseBody at h
  by_cases hc : raw.any (fun (c : Char) => c.toNat < 0x20 || c.toNat == 0x7f) = true
  · rw [if_pos hc] at h
    cases h
  rw [if_neg hc] at h
  by_cases hstar : raw = "*"
  · rw [if_pos hstar] at h
    cases h
    exact absurd rfl hs
  rw [if_neg hstar] at h
  beta_reduce at h
  obtain ⟨⟨sch, r⟩, hsplit, h⟩ := Query.ok_of_bind h
  refine ⟨by simpa using hc, sch, r, ?_⟩
  dsimp only at h
  -- past a rootless reference and a colon error, the hierarchical part is read
  split_ifs at h
  · cases h
    exact absurd rfl hh
  · cases h
  all_goals
    obtain ⟨t, p, ht, ha, hp, hu⟩ := parseHierarchy_hosted h rfl hh
    exact ⟨t, p, hsplit, ht, ha, hp, hu⟩

/-- The path after an authority is empty or starts with a slash. -/
theorem splitAuthority_path (t : List Char) :
    (splitAuthority t).2 = "" ∨ (splitAuthority t).2.toList.head? = some '/' := by
  unfold splitAuthority
  split <;> simp

/-- A path written empty or from a slash reads empty or from a slash. -/
theorem unescape_path_head {E : String} {p : List UInt8} (h : unescape (utf8Bytes E) .path = .ok p)
    (hE : E = "" ∨ E.toList.head? = some '/') : p = [] ∨ p.head? = some 47 := by
  rcases hE with rfl | hE
  · left
    have h0 : utf8Bytes "" = [] := by simp [utf8Bytes_eq]
    rw [h0] at h
    cases h
    rfl
  · right
    obtain ⟨c, rest, hrest⟩ := List.exists_cons_of_ne_nil (fun h => by simp [h] at hE : E.toList ≠ [])
    have hc : c = '/' := by
      rw [hrest] at hE
      simpa using hE
    have hbytes : utf8Bytes E = 47 :: utf8Bytes (String.ofList rest) := by
      rw [utf8Bytes_of_toList (show E.toList = [c] ++ rest by rw [hrest]; rfl), hc]
      simp [utf8Bytes_eq]
      rfl
    rw [hbytes, unescape, unescape_go_plain _ (by decide) (by decide) (by simp)] at h
    obtain ⟨y, -, rfl⟩ := map_eq_ok h
    rfl

/-- A URL read with its fragment: the body read alone, with a fragment put on it. -/
theorem parse_eq_ok {raw : String} {u : Url} (h : parse raw = .ok u) :
    ∃ u₀, parseBody (cut raw '#').1 = .ok u₀ ∧
      ∃ fb rf, u = { u₀ with fragment := fb, rawFragment := rf } := by
  unfold parse at h
  rcases hcut : cut raw '#' with ⟨body, frag⟩
  rw [hcut] at h
  dsimp only at h ⊢
  cases hb : parseBody body with
  | error e =>
    rw [hb] at h
    cases h
  | ok u₀ =>
    rw [hb] at h
    dsimp only at h
    refine ⟨u₀, rfl, ?_⟩
    split at h
    · cases h
      exact ⟨_, _, rfl⟩
    · cases h
      exact ⟨_, _, rfl⟩
    · split at h
      · cases h
      · cases h
        exact ⟨_, _, rfl⟩

/-- A scheme is read from letters at the start of the text. -/
theorem splitScheme_head {raw sch r : String} (h : splitScheme raw = .ok (sch, r)) (hne : sch ≠ "") :
    ∃ c t, raw.toList = c :: t ∧ c.isAlpha = true := by
  unfold splitScheme at h
  cases hraw : raw.toList with
  | nil =>
    rw [hraw, splitScheme.go] at h
    cases h
    exact absurd rfl hne
  | cons c t =>
    rw [hraw, splitScheme.go] at h
    refine ⟨c, t, rfl, ?_⟩
    by_contra hc
    -- a text that does not start with a letter has no scheme
    simp only [hc, if_false, if_true] at h
    split_ifs at h <;> cases h <;> exact absurd rfl hne

/-- A text read with a scheme and a host starts with a letter. -/
theorem parse_head_alpha {e : String} {u : Url} (h : parse e = .ok u) (hs : u.scheme ≠ "")
    (hh : u.host ≠ []) : ∃ c t, e.toList = c :: t ∧ c.isAlpha = true := by
  obtain ⟨u₀, hb, fb, rf, rfl⟩ := parse_eq_ok h
  obtain ⟨-, sch, r, t, p, hsplit, -, -, -, hu⟩ := parseBody_hosted_eq hb hs hh
  have hsch : sch ≠ "" := by
    rintro rfl
    rw [hu] at hs
    exact hs rfl
  obtain ⟨c, t', hct, hc⟩ := splitScheme_head hsplit hsch
  -- the body is the text up to its first `#`, so the text starts as the body does
  obtain ⟨k, hk⟩ : (cut e '#').1.toList <+: e.toList := by
    rw [cut_eq, String.toList_ofList]
    exact List.takeWhile_prefix _
  exact ⟨c, t' ++ k, by rw [← hk, hct, List.cons_append], hc⟩

/-- A text read with an http or https scheme and a host whose zone is ASCII reads in the form
`HttpUrl` describes, and its raw path, if any, reads as its path. -/
theorem parse_httpUrl {e : String} {u : Url} (h : parse e = .ok u)
    (hs : u.scheme = "http" ∨ u.scheme = "https") (hh : u.host ≠ []) (hz : AsciiZone u.host) :
    HttpUrl u ∧ (u.rawPath = "" ∨ unescape (utf8Bytes u.rawPath) .path = .ok u.path) := by
  obtain ⟨u₀, hb, fb, rf, rfl⟩ := parse_eq_ok h
  have hs₀ : u₀.scheme ≠ "" := by
    rcases hs with hs | hs <;> (rw [show u₀.scheme = _ from hs]; decide)
  obtain ⟨hctl, sch, r, t, p, hsplit, ht, ha, hp, hu⟩ := parseBody_hosted_eq hb hs₀ hh
  -- the query is cut from a body with no fragment mark and no control character
  have hq : ∀ c ∈ (splitQuery r).2.2.toList, c ≠ '#' ∧ Printing c := by
    intro c hc
    have hc' : c ∈ (cut e '#').1.toList :=
      (splitScheme_suffix hsplit).subset (splitQuery_query_subset r c hc)
    exact ⟨fun h => hash_not_mem_cut e (h ▸ hc'), any_control_eq_false_iff.1 hctl c hc'⟩
  obtain ⟨H, hH⟩ := parseHost_of_parseAuthority ha
  have hhost : HostBytes u₀.host := hostBytes_of_parseHost hH hz
  have hE := splitAuthority_path t
  rw [hu] at hs hhost ⊢
  refine ⟨⟨hs, rfl, rfl, hh, hhost, unescape_path_head hp hE, ?_, splitQuery_force r, hq⟩, ?_⟩
  · dsimp only
    split_ifs
    · exact .inl rfl
    · exact hE.imp_left id
  · dsimp only
    split_ifs
    · exact .inl rfl
    · exact .inr hp

end SqlSearch.Url
