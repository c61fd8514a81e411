import SqlSearch.Proofs.UrlEscapes
import SqlSearch.Proofs.TrailingSlashes
/-! Hosts. A host is read in one of two shapes: a name, whose text after its last `:` must be
digits, or a literal in brackets, whose text after the last `]` must be empty or a port, and
whose zone runs from its first `%25` to that bracket. A name and the part of a literal before its
zone may hold escapes of `%` and of bytes past ASCII only; a zone also escapes of ASCII bytes a
host allows and of the blank. `HostBytes` describes the bytes such a host reads as when its zone
is ASCII (`hostBytes_of_parseHost`), and such bytes, written with a host's escapes, read back as
they are (`HostBytes.parseHost_escape`). A zone past ASCII does not: its bytes are written as
escapes that a zone refuses. -/
namespace SqlSearch.Url

open SqlSearch.Text

/-! ### Cutting at the last occurrence -/

theorem cutLast_ofList_append {x y : List Char} {c : Char} (hy : c ∉ y) :
    cutLast (String.ofList (x ++ c :: y)) c = some (String.ofList x, String.ofList y) := by
  have hidx : (x ++ c :: y).reverse.idxOf? c = some y.length := by
    rw [List.reverse_append, List.reverse_cons, List.append_assoc, List.singleton_append,
      idxOf?_append, List.idxOf?_eq_none_iff.2 (by simpa using hy)]
    simp [List.idxOf?_cons]
  simp only [cutLast, String.toList_ofList, hidx, List.length_append, List.length_cons]
  have hi : x.length + (y.length + 1) - 1 - y.length = x.length := by omega
  rw [hi, List.take_left, List.drop_append]
  simp

theorem cutLast_cases (s : String) (c : Char) :
    (c ∉ s.toList ∧ cutLast s c = none) ∨
      ∃ x y, s.toList = x ++ c :: y ∧ c ∉ y ∧ cutLast s c = some (String.ofList x, String.ofList y) := by
  by_cases hc : c ∈ s.toList
  · -- the last `c` is the first one of the reversed text
    obtain ⟨y', x', hy', hrev, -⟩ := List.exists_erase_eq (List.mem_reverse.2 hc)
    have hs : s.toList = x'.reverse ++ c :: y'.reverse := by
      rw [← List.reverse_reverse s.toList, hrev]; simp
    refine .inr ⟨x'.reverse, y'.reverse, hs, by simpa using hy', ?_⟩
    rw [← cutLast_ofList_append (by simpa using hy'), ← hs, String.ofList_toList]
  · refine .inl ⟨hc, ?_⟩
    simp only [cutLast]
    rw [List.idxOf?_eq_none_iff.2 (by simpa using hc)]

/-! ### Zones -/

/-- The text of a zone's start, `%25`. -/
abbrev zoneMark : List Char := ['%', '2', '5']

theorem splitZone_eq_some : ∀ {cs first zone : List Char}, splitZone cs = some (first, zone) →
    cs = first ++ zone ∧ zoneMark <+: zone ∧ ¬zoneMark <:+: first
  | [], _, _, h => by cases h
  | c :: cs, first, zone, h => by
    unfold splitZone at h
    split_ifs at h with hp
    · cases h
      exact ⟨rfl, List.isPrefixOf_iff_prefix.1 hp, fun hi => by simpa using List.eq_nil_of_infix_nil hi⟩
    · obtain ⟨⟨f', z'⟩, hs, he⟩ := Option.map_eq_some_iff.1 h
      cases he
      obtain ⟨rfl, hz, hf⟩ := splitZone_eq_some hs
      refine ⟨rfl, hz, fun hi => ?_⟩
      rcases List.infix_cons_iff.1 hi with hpre | hinf
      · exact hp (List.isPrefixOf_iff_prefix.2 (hpre.trans (List.prefix_append _ _)))
      · exact hf hinf

theorem splitZone_eq_none : ∀ {cs : List Char}, splitZone cs = none → ¬zoneMark <:+: cs
  | [], _, hi => by simpa using List.eq_nil_of_infix_nil hi
  | c :: cs, h, hi => by
    unfold splitZone at h
    split_ifs at h with hp
    rcases List.infix_cons_iff.1 hi with hpre | hinf
    · exact hp (List.isPrefixOf_iff_prefix.2 hpre)
    · exact splitZone_eq_none (Option.map_eq_none_iff.1 h) hinf

theorem splitZone_cons_of_ne {c : Char} (hc : c ≠ '%') (cs : List Char) :
    splitZone (c :: cs) = (splitZone cs).map fun (f, z) => (c :: f, z) := by
  rw [splitZone, if_neg]
  simp [List.isPrefixOf, Ne.symm hc]

theorem splitZone_zoneMark (y : List Char) : splitZone (zoneMark ++ y) = some ([], zoneMark ++ y) := by
  rw [List.cons_append, splitZone, if_pos (by simp [List.isPrefixOf])]

theorem hexUpper_ne_percent : ∀ n < 16, hexUpper n ≠ '%' := by decide

theorem hexUpper_inj : ∀ m < 16, ∀ n < 16, hexUpper m = hexUpper n → m = n := by decide

/-- The characters of a byte other than `%` start no zone. -/
theorem splitZone_escapeChars {b : UInt8} (hb : b ≠ 37) (rest : List Char) :
    splitZone (escapeChars .host b ++ rest) =
      (splitZone rest).map fun (f, z) => (escapeChars .host b ++ f, z) := by
  have hhi : b.toNat / 16 < 16 := by have := b.toNat_lt; omega
  have hlo : b.toNat % 16 < 16 := Nat.mod_lt _ (by decide)
  unfold escapeChars
  split_ifs with hesc hsp
  · exact absurd hsp.2 (by decide)
  · -- an escape `%HL` starts a zone only for `%25`
    have hnot : ¬(hexUpper (b.toNat / 16) = '2' ∧ hexUpper (b.toNat % 16) = '5') := by
      rintro ⟨h2, h5⟩
      have e2 := hexUpper_inj _ hhi 2 (by decide) h2
      have e5 := hexUpper_inj _ hlo 5 (by decide) h5
      exact hb (UInt8.toNat_inj.1 (show b.toNat = 37 by omega))
    simp only [List.cons_append, List.nil_append]
    rw [splitZone, if_neg fun hp => hnot ?_,
      splitZone_cons_of_ne (hexUpper_ne_percent _ hhi), splitZone_cons_of_ne (hexUpper_ne_percent _ hlo)]
    · simp [Option.map_map, Function.comp_def]
    · simp only [List.isPrefixOf_iff_prefix, List.cons_prefix_cons] at hp
      exact ⟨hp.2.1.symm, hp.2.2.1.symm⟩
  · have hlt : b.toNat < 128 := by
      by_contra hge
      exact hesc (shouldEscape_of_le _ (by omega))
    have hc : Char.ofNat b.toNat ≠ '%' := by
      intro he
      have := ofNat_toNat_of_lt hlt
      rw [he] at this
      exact hb (UInt8.toNat_inj.1 (show b.toNat = 37 from this.symm))
    rw [List.singleton_append, splitZone_cons_of_ne hc]
    rfl

/-- A host written without `%` starts no zone: a zone after it is found where it starts. -/
theorem splitZone_escape_append {bs : List UInt8} (h : (37 : UInt8) ∉ bs) (y : List Char) :
    splitZone ((escape bs .host).toList ++ y) =
      (splitZone y).map fun (f, z) => ((escape bs .host).toList ++ f, z) := by
  rw [toList_escape]
  induction bs with
  | nil => simp
  | cons b bs ih =>
    rw [List.flatMap_cons, List.append_assoc,
      splitZone_escapeChars (fun he => h (he ▸ List.mem_cons_self)),
      ih (fun hm => h (List.mem_cons_of_mem _ hm))]
    simp [Option.map_map, Function.comp_def]

/-! ### Brackets and ports -/

theorem startsWith_bracket_iff {s : String} : s.startsWith "[" = true ↔ s.toList.head? = some '[' := by
  rw [String.startsWith_string_iff]
  cases s.toList with
  | nil => simp
  | cons c cs => simp [eq_comm]

/-- A written byte list starts with `[` only where the bytes start with `[`. -/
theorem head_of_escape_bracket {h : List UInt8} {mode : Component}
    (hs : (escape h mode).toList.head? = some '[') : h.head? = some 91 := by
  rw [toList_escape] at hs
  cases h with
  | nil => cases hs
  | cons b h =>
    rw [List.flatMap_cons] at hs
    unfold escapeChars at hs
    split_ifs at hs with hesc hsp
    · cases hs
    · cases hs
    · have hlt : b.toNat < 128 := by
        by_contra hge
        exact hesc (shouldEscape_of_le _ (by omega))
      simp only [List.singleton_append, List.head?_cons, Option.some.injEq] at hs
      have := ofNat_toNat_of_lt hlt
      rw [hs] at this
      exact congrArg some (UInt8.toNat_inj.1 (show b.toNat = 91 from this.symm))

theorem head_bracket_of_utf8Bytes {t : String} (h : (utf8Bytes t).head? = some 91) :
    t.toList.head? = some '[' := by
  rw [utf8Bytes_eq] at h
  cases ht : t.toList with
  | nil => rw [ht] at h; cases h
  | cons c r =>
    rw [ht, List.flatMap_cons] at h
    by_cases hc : c.toNat < 128
    · rw [utf8EncodeChar_ascii hc, List.singleton_append, List.head?_cons, Option.some.injEq] at h
      have := toNat_toUInt8_of_lt hc
      rw [h] at this
      exact congrArg some (Char.toNat_inj.1 this.symm)
    · obtain ⟨b, rest, hbr⟩ := List.exists_cons_of_ne_nil (@String.utf8EncodeChar_ne_nil c)
      rw [hbr, List.cons_append, List.head?_cons, Option.some.injEq] at h
      have := le_of_mem_utf8EncodeChar (Nat.le_of_not_lt hc) (hbr ▸ List.mem_cons_self)
      rw [h] at this
      exact absurd this (by decide)

theorem validHostSuffix_iff {s : String} : validHostSuffix s = true ↔
    s.toList = [] ∨ ∃ ds, s.toList = ':' :: ds ∧ ∀ d ∈ ds, d.isDigit = true := by
  unfold validHostSuffix
  split <;> simp_all

theorem bracket_not_mem_of_validHostSuffix {s : String} (h : validHostSuffix s = true) :
    ']' ∉ s.toList := by
  rcases validHostSuffix_iff.1 h with hs | ⟨ds, hs, hds⟩
  · simp [hs]
  · rw [hs]
    intro hm
    rcases List.mem_cons.1 hm with he | hm
    · cases he
    · exact absurd (hds _ hm) (by decide)

/-- A port suffix is ASCII that a host writes as it is. -/
theorem plain_of_validHostSuffix {s : String} (h : validHostSuffix s = true) :
    ∀ c ∈ s.toList, c.toNat < 128 ∧ shouldEscape c.toUInt8 .host = false := by
  have hdigit : ∀ d : Char, d.isDigit = true → d.toNat < 128 ∧ shouldEscape d.toUInt8 .host = false := by
    intro d hd
    simp only [Char.isDigit, Bool.and_eq_true, decide_eq_true_eq] at hd
    have hlo : 48 ≤ d.toNat := hd.1
    have hhi : d.toNat ≤ 57 := hd.2
    have hb : d.toUInt8 = d.toNat.toUInt8 :=
      UInt8.toNat_inj.1 (by rw [toNat_toUInt8_of_lt (by omega)]; simp; omega)
    have hdec : ∀ n < 58, 48 ≤ n → shouldEscape n.toUInt8 .host = false := by decide
    exact ⟨by omega, hb ▸ hdec _ (by omega) hlo⟩
  rcases validHostSuffix_iff.1 h with hs | ⟨ds, hs, hds⟩
  · simp [hs]
  · rw [hs]
    refine List.forall_mem_cons.2 ⟨by decide, fun d hd => hdigit d (hds d hd)⟩

/-- The closing bracket and a port after it are ASCII that a host writes as it is. -/
theorem plain_of_port {s : String} (hs : validHostSuffix s = true) :
    ∀ c ∈ ("]" ++ s).toList, c.toNat < 128 ∧ shouldEscape c.toUInt8 .host = false := by
  rw [String.toList_append]
  exact List.forall_mem_append.2 ⟨by decide, plain_of_validHostSuffix hs⟩

theorem utf8Bytes_port (s : String) : utf8Bytes ("]" ++ s) = 93 :: utf8Bytes s := by
  simp [utf8Bytes_eq]
  rfl

/-! ### What a host reads -/

theorem head_of_unescape_bracket {x : List Char} {a : List UInt8}
    (h : unescape (utf8Bytes (String.ofList ('[' :: x))) .host = .ok a) : a.head? = some 91 := by
  rw [utf8Bytes_eq, String.toList_ofList, List.flatMap_cons, utf8EncodeChar_ascii (by decide)] at h
  obtain ⟨y, -, rfl⟩ := map_eq_ok ((unescape_go_plain _ (by decide) (by decide) (by decide)).symm.trans h)
  rfl

theorem percent_not_mem_of_unescape {x : List Char} {mode : Component} {a : List UInt8}
    (h : unescape (utf8Bytes (String.ofList x)) mode = .ok a) (hx : ¬zoneMark <:+: x) :
    (37 : UInt8) ∉ a := by
  intro h37
  have hinf := infix_of_percent_mem h h37
  rw [utf8Bytes_eq, String.toList_ofList] at hinf
  exact hx (infix_of_ascii (p := zoneMark) (by decide) (by decide) hinf)

theorem head_of_unescape_zone {z : List Char} {b : List UInt8} (hz : zoneMark <+: z)
    (h : unescape (utf8Bytes (String.ofList z)) .zone = .ok b) : b.head? = some 37 := by
  obtain ⟨z', rfl⟩ := hz
  rw [utf8Bytes_eq, String.toList_ofList, List.flatMap_append,
    flatMap_utf8EncodeChar_ascii (show ∀ c ∈ zoneMark, c.toNat < 128 by decide)] at h
  obtain ⟨y, -, rfl⟩ := map_eq_ok ((unescape_go_escaped _ (by decide) (by decide) (by decide)).symm.trans h)
  rfl

theorem dropWhile_ne_append {x y : List UInt8} {c : UInt8} (hx : c ∉ x) (hy : y.head? = some c) :
    (x ++ y).dropWhile (· ≠ c) = y := by
  induction x with
  | nil =>
    obtain ⟨y', rfl⟩ : ∃ y', y = c :: y' := by
      cases y with
      | nil => cases hy
      | cons d y' => cases hy; exact ⟨y', rfl⟩
    simp
  | cons d x ih =>
    have hd : d ≠ c := fun he => hx (he ▸ List.mem_cons_self)
    rw [List.cons_append, List.dropWhile_cons_of_pos (by simpa using hd),
      ih (fun hm => hx (List.mem_cons_of_mem _ hm))]

/-- The zone of a bracketed host, from its first `%` on, is ASCII. -/
def AsciiZone (h : List UInt8) : Prop :=
  h.head? = some 91 → ∀ b ∈ h.dropWhile (· ≠ 37), b.toNat < 128

/-- The bytes a host reads as when its zone is ASCII: a name, with perhaps a port after its
last `:`, or a literal in brackets, with perhaps a zone from its first `%`, then a port. -/
inductive HostBytes : List UInt8 → Prop
  | name {h : List UInt8} : h.head? ≠ some 91 → (∀ b ∈ h, readsBack .host b = true) →
      ((58 : UInt8) ∉ h ∨ ∃ a s, h = a ++ utf8Bytes s ∧ s ≠ "" ∧ validHostSuffix s = true) →
      HostBytes h
  | literal {a z : List UInt8} {s : String} : a.head? = some 91 → (37 : UInt8) ∉ a →
      (∀ b ∈ a, readsBack .host b = true) → (z = [] ∨ z.head? = some 37) →
      (∀ b ∈ z, b.toNat < 128 ∧ readsBack .zone b = true) → validHostSuffix s = true →
      HostBytes (a ++ z ++ 93 :: utf8Bytes s)

/-- A bracketed host with no zone reads as a literal with an empty zone. -/
theorem HostBytes.of_unzoned {t : String} {x y : List Char} {h : List UInt8}
    (hxy : t.toList = '[' :: x ++ ']' :: y) (hv : validHostSuffix (String.ofList y) = true)
    (hzs : splitZone ('[' :: x) = none) (hu : unescape (utf8Bytes t) .host = .ok h) :
    HostBytes h := by
  have hplain : ∀ d ∈ ']' :: y, d.toNat < 128 ∧ shouldEscape d.toUInt8 .host = false := by
    simpa [String.toList_append] using plain_of_port hv
  obtain ⟨a, ha, rfl⟩ := unescape_split_plain hxy (by decide) hplain hu
  have hy : utf8Bytes (String.ofList (']' :: y)) = 93 :: utf8Bytes (String.ofList y) := by
    rw [← utf8Bytes_port]; simp [String.ofList_cons]
  rw [hy, show a ++ 93 :: utf8Bytes (String.ofList y) = a ++ [] ++ 93 :: utf8Bytes (String.ofList y) by simp]
  exact .literal (head_of_unescape_bracket ha) (percent_not_mem_of_unescape ha (splitZone_eq_none hzs))
    (readsBack_of_unescape_host ha) (.inl rfl) (by simp) hv

/-- A bracketed host with a zone reads as a literal with that zone, when the zone is ASCII. -/
theorem HostBytes.of_zoned {x first zone : List Char} {s : String} {h1 h2 : List UInt8}
    (hzs : splitZone ('[' :: x) = some (first, zone))
    (hh1 : unescape (utf8Bytes (String.ofList first)) .host = .ok h1)
    (hh2 : unescape (utf8Bytes (String.ofList zone)) .zone = .ok h2)
    (hv : validHostSuffix s = true) (hz : AsciiZone (h1 ++ h2 ++ 93 :: utf8Bytes s)) :
    HostBytes (h1 ++ h2 ++ 93 :: utf8Bytes s) := by
  obtain ⟨hx, hzm, hfirst⟩ := splitZone_eq_some hzs
  -- the zone starts with `%`, so the bracket belongs to the part before it
  obtain ⟨f', rfl⟩ : ∃ f', first = '[' :: f' := by
    obtain ⟨z', rfl⟩ := hzm
    cases first with
    | nil => cases hx
    | cons c f' => cases hx; exact ⟨f', rfl⟩
  have hh : (h1 ++ h2 ++ 93 :: utf8Bytes s).head? = some 91 := by
    obtain ⟨h1', rfl⟩ : ∃ h1', h1 = 91 :: h1' := by
      have := head_of_unescape_bracket hh1
      cases h1 with
      | nil => cases this
      | cons b h1' => cases this; exact ⟨h1', rfl⟩
    rfl
  have h37 := percent_not_mem_of_unescape hh1 hfirst
  have hz2 := head_of_unescape_zone hzm hh2
  have hascii : ∀ b ∈ h2, b.toNat < 128 := by
    intro b hb2
    apply hz hh
    rw [List.append_assoc, dropWhile_ne_append h37 (by cases h2 <;> simp_all)]
    exact List.mem_append_left _ hb2
  exact .literal (head_of_unescape_bracket hh1) h37 (readsBack_of_unescape_host hh1) (.inr hz2)
    (fun b hb2 => ⟨hascii b hb2, readsBack_of_unescape_zone hh2 b hb2 (hascii b hb2)⟩) hv

/-- A host that is no literal reads as a name, with perhaps a port after its last `:`. -/
theorem HostBytes.of_name {t : String} {h : List UInt8} (hb : ¬t.startsWith "[" = true)
    (hu : unescape (utf8Bytes t) .host = .ok h)
    (hport : ':' ∉ t.toList ∨
      ∃ x y, t.toList = x ++ ':' :: y ∧ validHostSuffix (":" ++ String.ofList y) = true) :
    HostBytes h := by
  -- a name starts with no bracket, and its bytes start as its text does
  have hhead : h.head? ≠ some 91 := by
    intro hh
    obtain ⟨h', rfl⟩ : ∃ h', h = 91 :: h' := by
      cases h with
      | nil => cases hh
      | cons b h' => cases hh; exact ⟨h', rfl⟩
    exact hb (startsWith_bracket_iff.2 (head_bracket_of_utf8Bytes
      (head_of_unescape_host hu (by decide) (by decide))))
  refine .name hhead (readsBack_of_unescape_host hu) ?_
  rcases hport with hn | ⟨x, y, hxy, hv⟩
  · refine .inl fun h58 => ?_
    rcases mem_of_unescape_host hu 58 h58 with hm | hm | hm
    · rw [utf8Bytes_eq] at hm
      exact hn (mem_of_ascii (c := ':') (by decide) hm)
    · cases hm
    · exact absurd hm (by decide)
  · have hplain : ∀ d ∈ ':' :: y, d.toNat < 128 ∧ shouldEscape d.toUInt8 .host = false := by
      simpa [String.toList_append] using plain_of_validHostSuffix hv
    obtain ⟨a, -, rfl⟩ := unescape_split_plain hxy (by decide) hplain hu
    refine .inr ⟨a, ":" ++ String.ofList y, ?_, by simp [← String.toList_inj], hv⟩
    simp [String.ofList_cons]

/-- What a host reads as, when its zone is ASCII. -/
theorem hostBytes_of_parseHost {t : String} {h : List UInt8} (ht : parseHost t = .ok h)
    (hz : AsciiZone h) : HostBytes h := by
  unfold parseHost at ht
  by_cases hb : t.startsWith "[" = true
  · rw [if_pos hb] at ht
    rcases cutLast_cases t ']' with ⟨-, hn⟩ | ⟨x, y, hxy, -, hc⟩
    · simp [hn] at ht
    rw [hc] at ht
    dsimp only at ht
    have hv : validHostSuffix (String.ofList y) = true := by
      by_contra hv
      rw [Bool.not_eq_true] at hv
      rw [hv] at ht
      cases ht
    simp only [hv, Bool.not_true, Bool.false_eq_true, if_false, String.toList_ofList] at ht
    -- the literal starts with its bracket
    obtain ⟨x', rfl⟩ : ∃ x', x = '[' :: x' := by
      have h0 := startsWith_bracket_iff.1 hb
      rw [hxy] at h0
      cases x with
      | nil => cases h0
      | cons c x' => cases h0; exact ⟨x', rfl⟩
    cases hzs : splitZone ('[' :: x') with
    | none =>
      rw [hzs] at ht
      exact HostBytes.of_unzoned hxy hv hzs (ok_of_mapError ht)
    | some p =>
      obtain ⟨first, zone⟩ := p
      rw [hzs] at ht
      obtain ⟨h1, hh1, ht⟩ := Query.ok_of_bind ht
      obtain ⟨h2, hh2, ht⟩ := Query.ok_of_bind ht
      obtain ⟨h3, hh3, ht⟩ := Query.ok_of_bind ht
      cases ht
      -- the port after the bracket is plain
      have hport : unescape (utf8Bytes ("]" ++ String.ofList y)) .host =
          .ok (93 :: utf8Bytes (String.ofList y)) := by
        rw [unescape_plain (plain_of_port hv), utf8Bytes_port]
      rw [ok_of_mapError hh3] at hport
      cases hport
      exact HostBytes.of_zoned hzs (ok_of_mapError hh1) (ok_of_mapError hh2) hv hz
  · rw [if_neg hb] at ht
    rcases cutLast_cases t ':' with ⟨hn, hc⟩ | ⟨x, y, hxy, -, hc⟩ <;> simp only [hc] at ht
    · exact HostBytes.of_name hb (ok_of_mapError ht) (.inl hn)
    · split_ifs at ht with hv
      · cases ht
      · rw [Bool.not_eq_true', Bool.not_eq_false] at hv
        exact HostBytes.of_name hb (ok_of_mapError ht) (.inr ⟨x, y, hxy, hv⟩)

/-- A host that reads as its bytes is written so that it reads back. -/
theorem HostBytes.parseHost_escape {h : List UInt8} (hh : HostBytes h) :
    parseHost (escape h .host) = .ok h := by
  cases hh with
  | name hhead hrb hport =>
    have hnb : (escape h .host).startsWith "[" = false := by
      cases hs : (escape h .host).startsWith "[" with
      | false => rfl
      | true => exact absurd (head_of_escape_bracket (startsWith_bracket_iff.1 hs)) hhead
    have hread : unescape (utf8Bytes (escape h .host)) .host = .ok h := unescape_escape hrb
    rcases hport with h58 | ⟨a, s, rfl, hne, hv⟩
    · have hnc : cutLast (escape h .host) ':' = none := by
        rcases cutLast_cases (escape h .host) ':' with ⟨-, hn⟩ | ⟨x, y, hxy, -, -⟩
        · exact hn
        · obtain ⟨b, hb, hbn⟩ := mem_of_mem_escape (by decide) (by decide) (by decide)
            (show ':' ∈ (escape h .host).toList by simp [hxy])
          exact absurd (show b = 58 from UInt8.toNat_inj.1 hbn) (fun he => h58 (he ▸ hb))
      simp only [parseHost, hnb, Bool.false_eq_true, if_false, hnc, Except.mapError, hread]
    · obtain ⟨ds, hds, hdig⟩ := (validHostSuffix_iff.1 hv).resolve_left (by simpa using hne)
      have hesc : (escape (a ++ utf8Bytes s) .host).toList = (escape a .host).toList ++ ':' :: ds := by
        rw [escape_append, escape_plain (plain_of_validHostSuffix hv), String.toList_append, hds]
      have hnc : cutLast (escape (a ++ utf8Bytes s) .host) ':' = some (escape a .host, String.ofList ds) := by
        rw [show escape (a ++ utf8Bytes s) .host = String.ofList ((escape a .host).toList ++ ':' :: ds)
          by rw [← hesc, String.ofList_toList], cutLast_ofList_append, String.ofList_toList]
        intro hd
        simpa using hdig ':' hd
      have hv' : validHostSuffix (":" ++ String.ofList ds) = true := by
        rw [show ":" ++ String.ofList ds = s from String.toList_injective (by simp [hds])]
        exact hv
      simp only [parseHost, hnb, Bool.false_eq_true, if_false, hnc, hv', Bool.not_true, Except.mapError, hread]
  | @literal a z s hhead h37 hrb hz hzrb hv =>
    have hesc : escape (a ++ z ++ 93 :: utf8Bytes s) .host =
        String.ofList ((escape a .host ++ escape z .host).toList ++ ']' :: s.toList) := by
      rw [escape_append, escape_append, ← utf8Bytes_port, escape_plain (plain_of_port hv)]
      apply String.toList_injective
      simp [String.toList_append]
    have hnb : (escape (a ++ z ++ 93 :: utf8Bytes s) .host).startsWith "[" = true := by
      obtain ⟨a', rfl⟩ : ∃ a', a = 91 :: a' := by
        cases a with
        | nil => cases hhead
        | cons b a' => cases hhead; exact ⟨a', rfl⟩
      rw [startsWith_bracket_iff, hesc, String.toList_ofList, String.toList_append, toList_escape]
      rfl
    have hnc : cutLast (escape (a ++ z ++ 93 :: utf8Bytes s) .host) ']' =
        some (escape a .host ++ escape z .host, s) := by
      rw [hesc, cutLast_ofList_append, String.ofList_toList, String.ofList_toList]
      exact bracket_not_mem_of_validHostSuffix hv
    have hport : unescape (utf8Bytes ("]" ++ s)) .host = .ok (93 :: utf8Bytes s) := by
      rw [unescape_plain (plain_of_port hv), utf8Bytes_port]
    rcases hz with rfl | hz37
    · have hzone : splitZone (escape a .host ++ escape [] .host).toList = none := by
        rw [String.toList_append, splitZone_escape_append h37]
        rfl
      have hread : unescape (utf8Bytes (escape (a ++ [] ++ 93 :: utf8Bytes s) .host)) .host =
          .ok (a ++ [] ++ 93 :: utf8Bytes s) := by
        refine unescape_escape (List.forall_mem_append.2 ⟨List.forall_mem_append.2 ⟨hrb, by simp⟩, ?_⟩)
        rw [← utf8Bytes_port]
        exact readsBack_of_plain (plain_of_port hv)
      simp only [parseHost, hnb, if_true, hnc, hv, Bool.not_true, Except.mapError, hread, hzone]
      rfl
    · obtain ⟨z', rfl⟩ : ∃ z', z = 37 :: z' := by
        cases z with
        | nil => cases hz37
        | cons b z' => cases hz37; exact ⟨z', rfl⟩
      have hzone : splitZone (escape a .host ++ escape (37 :: z') .host).toList =
          some ((escape a .host).toList, (escape (37 :: z') .host).toList) := by
        have hz' : (escape (37 :: z') .host).toList = zoneMark ++ (escape z' .host).toList := by
          rw [toList_escape, toList_escape, List.flatMap_cons]
          rfl
        rw [String.toList_append, splitZone_escape_append h37, hz', splitZone_zoneMark]
        simp
      have h1 : unescape (utf8Bytes (String.ofList (escape a .host).toList)) .host = .ok a := by
        rw [String.ofList_toList]
        exact unescape_escape hrb
      have h2 : unescape (utf8Bytes (String.ofList (escape (37 :: z') .host).toList)) .zone =
          .ok (37 :: z') := by
        rw [String.ofList_toList, ← escape_zone]
        exact unescape_escape fun b hb => (hzrb b hb).2
      simp only [parseHost, hnb, if_true, hnc, hv, Bool.not_true, Except.mapError, hzone, h1, h2, hport]
      rfl

/-- A host read with an ASCII zone, written with a host's escapes, reads back as it is. -/
theorem parseHost_escape {t : String} {h : List UInt8} (ht : parseHost t = .ok h) (hz : AsciiZone h) :
    parseHost (escape h .host) = .ok h :=
  (hostBytes_of_parseHost ht hz).parseHost_escape

end SqlSearch.Url
