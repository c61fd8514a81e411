import SqlSearch.Proofs.ByteOrder
import SqlSearch.Url.Escape
import Mathlib
/-! Escapes in URLs, byte by byte. An escape writes ASCII only (`utf8Bytes_escape`): each byte
the component allows as itself, any other as `%` and two upper-case hex digits. Reading the
escapes back gives the bytes again (`unescape_escape`) where the component accepts what was
written: a host reads escapes of bytes past ASCII and of `%` only, a zone escapes of `%` and of
the blank, and each byte a host reads is of that kind (`readsBack_of_unescape_host`). Escapes
read in pieces at any byte that is no hex digit (`unescape_go_split`), and a `%` read from
escapes was written `%25` (`infix_of_percent_mem`). Where a text's bytes hold the bytes of ASCII
characters, the text holds those characters (`infix_of_ascii`). -/
namespace SqlSearch.Url

open SqlSearch.Text

/-! ### ASCII in UTF-8 -/

theorem utf8EncodeChar_ascii {c : Char} (h : c.toNat < 128) :
    String.utf8EncodeChar c = [c.toUInt8] :=
  String.utf8EncodeChar_eq_singleton (Char.utf8Size_eq_one_iff.2 (by
    rw [UInt32.le_iff_toNat_le]
    exact Nat.le_of_lt_succ h))

/-- A character past ASCII is written with bytes past ASCII only. -/
theorem le_of_mem_utf8EncodeChar {c : Char} (hc : 128 ≤ c.toNat) {b : UInt8}
    (hb : b ∈ String.utf8EncodeChar c) : 128 ≤ b.toNat := by
  have hlt := Normal.Char.toNat_lt_codeLimit c
  simp only [Char.toNat, Normal.codeLimit] at hc hlt
  unfold String.utf8EncodeChar at hb
  generalize c.val.toNat = v at *
  dsimp only at hb
  split_ifs at hb
  · omega
  all_goals
    simp only [List.mem_cons, List.not_mem_nil, or_false] at hb
    rcases hb with rfl | rfl | rfl | rfl <;> simp <;> omega

theorem toNat_toUInt8_of_lt {c : Char} (hc : c.toNat < 128) : c.toUInt8.toNat = c.toNat := by
  rw [← Char.toUInt8_val, UInt32.toNat_toUInt8]
  simp only [Char.toNat] at hc ⊢
  omega

/-- ASCII characters are written one byte each. -/
theorem flatMap_utf8EncodeChar_ascii {cs : List Char} (h : ∀ c ∈ cs, c.toNat < 128) :
    cs.flatMap String.utf8EncodeChar = cs.map Char.toUInt8 := by
  induction cs with
  | nil => rfl
  | cons c cs ih =>
    rw [List.flatMap_cons, utf8EncodeChar_ascii (h c List.mem_cons_self),
      ih fun d hd => h d (List.mem_cons_of_mem _ hd)]
    rfl

theorem utf8Bytes_ofList_ascii {cs : List Char} (h : ∀ c ∈ cs, c.toNat < 128) :
    utf8Bytes (String.ofList cs) = cs.map Char.toUInt8 := by
  rw [utf8Bytes_eq, String.toList_ofList, flatMap_utf8EncodeChar_ascii h]

/-- Where a text's bytes start with the bytes of ASCII characters, the text starts with them. -/
theorem prefix_of_ascii : ∀ {p cs : List Char}, (∀ c ∈ p, c.toNat < 128) →
    p.map Char.toUInt8 <+: cs.flatMap String.utf8EncodeChar → p <+: cs
  | [], _, _, _ => List.nil_prefix
  | a :: p, [], _, h => by simp at h
  | a :: p, d :: cs, hp, h => by
    have ha := hp a List.mem_cons_self
    rw [List.map_cons, List.flatMap_cons] at h
    by_cases hd : d.toNat < 128
    · rw [utf8EncodeChar_ascii hd, List.singleton_append, List.cons_prefix_cons] at h
      have had : a = d := by
        have := congrArg UInt8.toNat h.1
        rw [toNat_toUInt8_of_lt ha, toNat_toUInt8_of_lt hd] at this
        exact Char.toNat_inj.1 this
      subst had
      exact List.cons_prefix_cons.2 ⟨rfl, prefix_of_ascii (fun c hc => hp c (List.mem_cons_of_mem _ hc)) h.2⟩
    · -- a character past ASCII starts with a byte past ASCII
      obtain ⟨e, es, he⟩ := List.exists_cons_of_ne_nil (@String.utf8EncodeChar_ne_nil d)
      rw [he, List.cons_append, List.cons_prefix_cons] at h
      have hle := le_of_mem_utf8EncodeChar (Nat.le_of_not_lt hd) (he ▸ List.mem_cons_self)
      rw [← h.1, toNat_toUInt8_of_lt ha] at hle
      omega

/-- A run that starts with an element missing from `x` lies, if anywhere in `x ++ y`, in `y`. -/
theorem infix_append_of_not_mem {α : Type} {a : α} {l x y : List α} (hl : l.head? = some a)
    (ha : a ∉ x) (h : l <:+: x ++ y) : l <:+: y := by
  obtain ⟨s, t, hst⟩ := h
  rw [List.append_assoc] at hst
  rcases List.append_eq_append_iff.1 hst with ⟨a', rfl, h'⟩ | ⟨c', rfl, h'⟩
  · cases a' with
    | nil => exact ⟨[], t, by simpa using h'⟩
    | cons e a' =>
      obtain ⟨l', rfl⟩ : ∃ l', l = a :: l' := by
        cases l with
        | nil => cases hl
        | cons b l' => exact ⟨l', by cases hl; rfl⟩
      simp only [List.cons_append, List.cons.injEq] at h'
      exact absurd (h'.1 ▸ List.mem_append_right s List.mem_cons_self) ha
  · exact ⟨c', t, by rw [h', List.append_assoc]⟩

/-- Where a text's bytes hold the bytes of ASCII characters, the text holds the characters. -/
theorem infix_of_ascii {p : List Char} (hp : ∀ c ∈ p, c.toNat < 128) (hp0 : p ≠ []) :
    ∀ {cs : List Char}, p.map Char.toUInt8 <:+: cs.flatMap String.utf8EncodeChar → p <:+: cs
  | [], h => by
    have := List.eq_nil_of_infix_nil h
    simp only [List.map_eq_nil_iff] at this
    exact absurd this hp0
  | d :: cs, h => by
    rw [List.flatMap_cons] at h
    by_cases hd : d.toNat < 128
    · rw [utf8EncodeChar_ascii hd, List.singleton_append, List.infix_cons_iff] at h
      rcases h with h | h
      · exact (prefix_of_ascii hp (by rwa [List.flatMap_cons, utf8EncodeChar_ascii hd])).isInfix
      · exact List.infix_cons (infix_of_ascii hp hp0 h)
    · obtain ⟨a, p', rfl⟩ := List.exists_cons_of_ne_nil hp0
      have ha := hp a List.mem_cons_self
      refine List.infix_cons (infix_of_ascii hp hp0 (infix_append_of_not_mem rfl ?_ h))
      intro hmem
      have hle := le_of_mem_utf8EncodeChar (Nat.le_of_not_lt hd) hmem
      rw [toNat_toUInt8_of_lt ha] at hle
      omega

/-- An ASCII character stands in a text exactly where its byte stands in the text's bytes. -/
theorem mem_of_ascii {c : Char} (hc : c.toNat < 128) {cs : List Char}
    (h : c.toUInt8 ∈ cs.flatMap String.utf8EncodeChar) : c ∈ cs := by
  have hinf : [c] <:+: cs := infix_of_ascii (by simpa using hc) (List.cons_ne_nil _ _)
    ((List.singleton_infix_iff _ _).2 h)
  exact (List.singleton_infix_iff _ _).1 hinf

/-! ### Bytes as written -/

/-- The byte of a hex digit as escapes write it, `0`–`9` and `A`–`F`. -/
def hexByte (n : Nat) : UInt8 := (hexUpper n).toUInt8

/-- The characters one byte is written as in a component. -/
def escapeChars (mode : Component) (b : UInt8) : List Char :=
  if shouldEscape b mode then
    if b = 32 ∧ mode = .queryComponent then ['+']
    else ['%', hexUpper (b.toNat / 16), hexUpper (b.toNat % 16)]
  else [Char.ofNat b.toNat]

theorem toList_escape (bs : List UInt8) (mode : Component) :
    (escape bs mode).toList = bs.flatMap (escapeChars mode) := by
  rw [escape, String.toList_ofList]
  rfl

/-- The bytes one byte is written as in a component. -/
def encodeByte (mode : Component) (b : UInt8) : List UInt8 :=
  if shouldEscape b mode then
    if b = 32 ∧ mode = .queryComponent then [43]
    else [37, hexByte (b.toNat / 16), hexByte (b.toNat % 16)]
  else [b]

theorem hexUpper_lt : ∀ n, n < 16 → (hexUpper n).toNat < 128 := by decide

/-- No byte past ASCII is left as it is. -/
theorem shouldEscape_of_le {b : UInt8} (mode : Component) (hb : 128 ≤ b.toNat) :
    shouldEscape b mode = true := by
  have hin : ∀ s : String, (∀ d ∈ s.toList, d.toNat < 128) → byteIn b s = false := by
    intro s hs
    simp only [byteIn, List.any_eq_false, decide_eq_true_eq]
    intro d hd he
    have := hs d hd
    omega
  have halnum : isAlnumByte b = false := by
    simp only [isAlnumByte, ge_iff_le, UInt8.le_iff_toNat_le, UInt8.reduceToNat]
    simp only [Bool.or_eq_false_iff, Bool.and_eq_false_iff, decide_eq_false_iff_not]
    omega
  unfold shouldEscape
  rw [halnum, hin "-_.~" (by decide), hin "$&+,/:;=?@" (by decide),
    hin "!$&'()*+,;=:[]<>\"" (by decide), hin "!()*" (by decide)]
  simp

theorem utf8EncodeChar_ofNat {b : UInt8} (hb : b.toNat < 128) :
    String.utf8EncodeChar (Char.ofNat b.toNat) = [b] := by
  have hv : b.toNat.isValidChar := .inl (by omega)
  rw [String.utf8EncodeChar_eq_singleton (Char.utf8Size_eq_one_iff.2 ?_)]
  · simp [Char.ofNat, Char.ofNatAux, hv]
  · simp [Char.ofNat, Char.ofNatAux, hv, UInt32.le_iff_toNat_le]
    omega

/-- What one byte is written as is ASCII. -/
theorem flatMap_escapeChars (mode : Component) (b : UInt8) :
    (escapeChars mode b).flatMap String.utf8EncodeChar = encodeByte mode b := by
  have hhi : b.toNat / 16 < 16 := by have := b.toNat_lt; omega
  have hlo : b.toNat % 16 < 16 := Nat.mod_lt _ (by decide)
  unfold escapeChars encodeByte
  by_cases hs : shouldEscape b mode = true
  · rw [if_pos hs, if_pos hs]
    by_cases hq : b = 32 ∧ mode = .queryComponent
    · rw [if_pos hq, if_pos hq]
      rfl
    · rw [if_neg hq, if_neg hq]
      simp [utf8EncodeChar_ascii (hexUpper_lt _ hhi), utf8EncodeChar_ascii (hexUpper_lt _ hlo),
        hexByte]
      rfl
  · have hb : b.toNat < 128 := Nat.lt_of_not_le fun h => hs (shouldEscape_of_le mode h)
    rw [if_neg hs, if_neg hs]
    simp [utf8EncodeChar_ofNat hb]

/-- What an escape writes is ASCII, so its bytes are the bytes it writes. -/
theorem utf8Bytes_escape (bs : List UInt8) (mode : Component) :
    utf8Bytes (escape bs mode) = bs.flatMap (encodeByte mode) := by
  rw [utf8Bytes_eq, toList_escape, List.flatMap_assoc]
  simp only [flatMap_escapeChars]

/-! ### Reading escapes back -/

theorem hexByte_hex : ∀ n, n < 16 → isHexByte (hexByte n) = true ∧ hexValue (hexByte n) = n := by
  decide

/-- `%` is escaped in every component. -/
theorem shouldEscape_percent (mode : Component) : shouldEscape 37 mode = true := by
  cases mode <;> decide

/-- A zone escapes the bytes a host escapes. -/
theorem shouldEscape_zone (b : UInt8) : shouldEscape b .zone = shouldEscape b .host := by
  simp [shouldEscape]

theorem escape_zone (bs : List UInt8) : escape bs .zone = escape bs .host := by
  simp only [escape, shouldEscape_zone, reduceCtorEq, and_false]

/-- The bytes a component reads back as written: a host may only hold escapes of bytes past
ASCII and of `%`, a zone only of `%` and of the blank. -/
def readsBack : Component → UInt8 → Bool
  | .host, b => !shouldEscape b .host || 128 ≤ b.toNat || b = 37
  | .zone, b => !shouldEscape b .host || b = 37 || b = 32
  | _, _ => true

theorem unescape_go_encodeByte {mode : Component} {b : UInt8} (hb : readsBack mode b = true)
    (rest : List UInt8) :
    unescape.go mode (encodeByte mode b ++ rest) = (b :: ·) <$> unescape.go mode rest := by
  unfold encodeByte
  by_cases hs : shouldEscape b mode = true
  · rw [if_pos hs]
    by_cases hq : b = 32 ∧ mode = .queryComponent
    · rw [if_pos hq]
      obtain ⟨rfl, rfl⟩ := hq
      rw [List.singleton_append, unescape.go.eq_def]
      simp
    · rw [if_neg hq]
      have hhi : b.toNat / 16 < 16 := by have := b.toNat_lt; omega
      have hlo : b.toNat % 16 < 16 := Nat.mod_lt _ (by decide)
      obtain ⟨hx1, hv1⟩ := hexByte_hex _ hhi
      obtain ⟨hx2, hv2⟩ := hexByte_hex _ hlo
      rw [List.cons_append, List.cons_append, List.cons_append, unescape.go.eq_def]
      have hv : (b.toNat / 16 * 16 + b.toNat % 16).toUInt8 = b := by
        rw [show b.toNat / 16 * 16 + b.toNat % 16 = b.toNat by omega]
        exact UInt8.ofNat_toNat
      have hpct : b = 37 → hexByte (b.toNat / 16) = 50 ∧ hexByte (b.toNat % 16) = 53 := by
        rintro rfl
        decide
      -- a host reads escapes of bytes past ASCII and of `%`, a zone of `%` and the blank
      have hhost : ¬(mode = .host ∧ b.toNat / 16 < 8 ∧
          (!decide (hexByte (b.toNat / 16) = 50 ∧ hexByte (b.toNat % 16) = 53)) = true) := by
        rintro ⟨rfl, hlt, hnp⟩
        simp only [readsBack, hs, Bool.not_true, Bool.false_or, Bool.or_eq_true,
          decide_eq_true_eq] at hb
        rcases hb with hb | hb
        · omega
        · simp [hpct hb] at hnp
      have hzone : ¬(mode = .zone ∧
          (!decide (hexByte (b.toNat / 16) = 50 ∧ hexByte (b.toNat % 16) = 53)) = true ∧
          b.toNat / 16 * 16 + b.toNat % 16 ≠ 32 ∧
          shouldEscape b Component.host = true) := by
        rintro ⟨rfl, hnp, h32, -⟩
        rw [shouldEscape_zone] at hs
        simp only [readsBack, hs, Bool.not_true, Bool.false_or, Bool.or_eq_true,
          decide_eq_true_eq] at hb
        rcases hb with hb | rfl
        · simp [hpct hb] at hnp
        · exact h32 (by decide)
      simp only [hx1, hx2, hv1, hv2, Bool.and_self, Bool.not_true, Bool.false_eq_true, if_true,
        if_false, if_neg hhost, hv, List.nil_append]
      rw [if_neg hzone]
  · rw [if_neg hs]
    have h37 : b ≠ 37 := fun h => hs (h ▸ shouldEscape_percent mode)
    have hplus : b = 43 → mode ≠ .queryComponent := by
      rintro rfl rfl
      exact hs rfl
    rw [List.singleton_append, unescape.go.eq_def]
    simp only [if_neg h37]
    by_cases h43 : b = 43
    · rw [if_pos h43, if_neg (hplus h43), h43]
    · rw [if_neg h43]
      rw [if_neg fun h => hs h.2.2]

theorem unescape_go_escape {mode : Component} : ∀ {bs : List UInt8},
    (∀ b ∈ bs, readsBack mode b = true) → ∀ rest : List UInt8,
      unescape.go mode (bs.flatMap (encodeByte mode) ++ rest) = (bs ++ ·) <$> unescape.go mode rest
  | [], _, rest => by
    rw [List.flatMap_nil, List.nil_append]
    cases unescape.go mode rest <;> rfl
  | b :: bs, h, rest => by
    rw [List.flatMap_cons, List.append_assoc, unescape_go_encodeByte (h b List.mem_cons_self),
      unescape_go_escape (fun c hc => h c (List.mem_cons_of_mem _ hc)) rest]
    cases unescape.go mode rest <;> rfl

/-- A component written by `escape` reads back as its bytes. -/
theorem unescape_escape {bs : List UInt8} {mode : Component} (h : ∀ b ∈ bs, readsBack mode b = true) :
    unescape (utf8Bytes (escape bs mode)) mode = .ok bs := by
  have hgo := unescape_go_escape h []
  rw [List.append_nil] at hgo
  rw [utf8Bytes_escape, unescape, hgo]
  simp [unescape.go.eq_def, Functor.map, Except.map]

/-! ### What an escaped component holds -/

theorem ofNat_toNat_of_lt {b : UInt8} (hb : b.toNat < 128) : (Char.ofNat b.toNat).toNat = b.toNat := by
  simp [Char.ofNat, Char.ofNatAux, show b.toNat.isValidChar from .inl (by omega), Char.toNat]

/-- The characters one byte is written as: `%` and hex digits, the `+` of a blank, or the
byte itself when the component allows it. -/
theorem mem_escapeChars {c : Char} {mode : Component} {b : UInt8} (h : c ∈ escapeChars mode b) :
    c = '%' ∨ (∃ n < 16, hexUpper n = c) ∨ c = '+' ∨
      (shouldEscape b mode = false ∧ b.toNat < 128 ∧ c.toNat = b.toNat) := by
  unfold escapeChars at h
  split_ifs at h with hs hq
  · exact .inr (.inr (.inl (List.mem_singleton.1 h)))
  · have hhi : b.toNat / 16 < 16 := by have := b.toNat_lt; omega
    rcases List.mem_cons.1 h with h | h
    · exact .inl h
    rcases List.mem_cons.1 h with h | h
    · exact .inr (.inl ⟨_, hhi, h.symm⟩)
    · exact .inr (.inl ⟨_, Nat.mod_lt _ (by decide), (List.mem_singleton.1 h).symm⟩)
  · have hb128 : b.toNat < 128 := Nat.lt_of_not_le fun h => hs (shouldEscape_of_le mode h)
    refine .inr (.inr (.inr ⟨by simpa using hs, hb128, ?_⟩))
    rw [List.mem_singleton.1 h]
    exact ofNat_toNat_of_lt hb128

/-- An escaped component holds `%`, hex digits, the `+` of a blank, and the bytes it leaves as
they are. -/
theorem mem_escape {c : Char} {bs : List UInt8} {mode : Component}
    (h : c ∈ (escape bs mode).toList) :
    c = '%' ∨ (∃ n < 16, hexUpper n = c) ∨ c = '+' ∨
      ∃ b ∈ bs, shouldEscape b mode = false ∧ b.toNat < 128 ∧ c.toNat = b.toNat := by
  rw [toList_escape, List.mem_flatMap] at h
  obtain ⟨b, hb, hc⟩ := h
  rcases mem_escapeChars hc with h | h | h | h
  · exact .inl h
  · exact .inr (.inl h)
  · exact .inr (.inr (.inl h))
  · exact .inr (.inr (.inr ⟨b, hb, h⟩))

/-- A character that the component escapes, and that is neither `%`, a hex digit nor `+`, does
not stand in it. -/
theorem not_mem_escape {c : Char} (bs : List UInt8) {mode : Component} (hpct : c ≠ '%')
    (hhex : ∀ n < 16, hexUpper n ≠ c) (hplus : c ≠ '+')
    (hesc : shouldEscape c.toNat.toUInt8 mode = true) : c ∉ (escape bs mode).toList := by
  intro h
  rcases mem_escape h with h | ⟨n, hn, h⟩ | h | ⟨b, -, hs, -, hcb⟩
  · exact hpct h
  · exact hhex n hn h
  · exact hplus h
  · rw [hcb, show b.toNat.toUInt8 = b from UInt8.ofNat_toNat, hs] at hesc
    cases hesc

/-! ### Reading escapes in pieces -/

theorem map_eq_ok {α β ε : Type} {f : α → β} {e : Except ε α} {x : β} (h : f <$> e = .ok x) :
    ∃ y, e = .ok y ∧ f y = x := by
  cases e with
  | error => cases h
  | ok y => exact ⟨y, rfl, Except.ok.inj h⟩

/-- One escape read: `%` and two hex digits that the component allows. -/
theorem unescape_go_escaped {mode : Component} {h1 h2 : UInt8} (more : List UInt8)
    (hx : ¬(!(isHexByte h1 && isHexByte h2)) = true)
    (hhost : ¬(mode = .host ∧ hexValue h1 < 8 ∧ (!decide (h1 = 50 ∧ h2 = 53)) = true))
    (hzone : ¬(mode = .zone ∧ (!decide (h1 = 50 ∧ h2 = 53)) = true ∧
      hexValue h1 * 16 + hexValue h2 ≠ 32 ∧
      shouldEscape (hexValue h1 * 16 + hexValue h2).toUInt8 .host = true)) :
    unescape.go mode (37 :: h1 :: h2 :: more) =
      ((hexValue h1 * 16 + hexValue h2).toUInt8 :: ·) <$> unescape.go mode more := by
  rw [unescape.go.eq_def]
  simp only [if_true, hx, Bool.false_eq_true, if_false, hhost, hzone]

/-- One byte read as it is: neither `%` nor `+`, and allowed where it stands. -/
theorem unescape_go_plain {mode : Component} {d : UInt8} (rest : List UInt8) (h37 : ¬d = 37)
    (h43 : ¬d = 43)
    (hhost : ¬((mode = .host ∨ mode = .zone) ∧ d < 128 ∧ shouldEscape d mode = true)) :
    unescape.go mode (d :: rest) = (d :: ·) <$> unescape.go mode rest := by
  rw [unescape.go.eq_def]
  simp only [h37, h43, hhost, if_false]

/-- A `+` is a blank in a query component and itself elsewhere. -/
theorem unescape_go_plus {mode : Component} (rest : List UInt8) :
    unescape.go mode (43 :: rest) =
      ((if mode = .queryComponent then 32 else 43) :: ·) <$> unescape.go mode rest := by
  rw [unescape.go.eq_def]
  simp

/-- A prefix whose escapes read on their own reads the same before any text. -/
theorem unescape_go_append {mode : Component} {a x : List UInt8} (h : unescape.go mode a = .ok x)
    (b : List UInt8) : unescape.go mode (a ++ b) = (x ++ ·) <$> unescape.go mode b := by
  fun_induction unescape.go mode a generalizing x with
  | case1 =>
    cases h
    rw [List.nil_append]
    cases unescape.go mode b <;> rfl
  | case2 | case3 | case4 | case6 | case8 => cases h
  | case5 h1 h2 more hx v pct hhost hzone =>
    rename_i ih
    obtain ⟨y, hy, rfl⟩ := map_eq_ok h
    rw [List.cons_append, List.cons_append, List.cons_append, unescape_go_escaped _ hx hhost hzone,
      ih hy]
    cases unescape.go mode b <;> rfl
  | case7 rest h43 ih =>
    obtain ⟨y, hy, rfl⟩ := map_eq_ok h
    rw [List.cons_append, unescape_go_plus, ih hy]
    cases unescape.go mode b <;> rfl
  | case9 c rest h37 h43 hhost ih =>
    obtain ⟨y, hy, rfl⟩ := map_eq_ok h
    rw [List.cons_append, unescape_go_plain _ h37 h43 hhost, ih hy]
    cases unescape.go mode b <;> rfl

/-- Escapes that read past a byte that is neither `%` nor a hex digit are complete before it. -/
theorem unescape_go_prefix {mode : Component} {c : UInt8} (hhex : isHexByte c = false)
    {a b z : List UInt8} (h : unescape.go mode (a ++ c :: b) = .ok z) :
    ∃ x, unescape.go mode a = .ok x := by
  generalize hB : a ++ c :: b = B at h
  fun_induction unescape.go mode B generalizing a z with
  | case1 => simp at hB
  | case2 | case3 | case4 | case6 | case8 => cases h
  | case5 h1 h2 more hx v pct hhost =>
    rename_i hzone ih
    obtain ⟨y, hy, rfl⟩ := map_eq_ok h
    match a, hB with
    | [], _ => exact ⟨[], by rw [unescape.go.eq_def]⟩
    | [_], hB =>
      simp only [List.cons_append, List.nil_append, List.cons.injEq] at hB
      obtain ⟨-, rfl, -⟩ := hB
      simp [hhex] at hx
    | [_, _], hB =>
      simp only [List.cons_append, List.nil_append, List.cons.injEq] at hB
      obtain ⟨-, -, rfl, -⟩ := hB
      simp [hhex] at hx
    | d :: e1 :: e2 :: a', hB =>
      simp only [List.cons_append, List.cons.injEq] at hB
      obtain ⟨rfl, rfl, rfl, hmore⟩ := hB
      obtain ⟨x, hx'⟩ := ih hmore hy
      rw [unescape_go_escaped _ hx hhost hzone, hx']
      exact ⟨_, rfl⟩
  | case7 rest h43 ih =>
    obtain ⟨y, hy, rfl⟩ := map_eq_ok h
    match a, hB with
    | [], _ => exact ⟨[], by rw [unescape.go.eq_def]⟩
    | d :: a', hB =>
      simp only [List.cons_append, List.cons.injEq] at hB
      obtain ⟨rfl, hrest⟩ := hB
      obtain ⟨x, hx⟩ := ih hrest hy
      rw [unescape_go_plus, hx]
      exact ⟨_, rfl⟩
  | case9 d rest h37 h43 hhost ih =>
    obtain ⟨y, hy, rfl⟩ := map_eq_ok h
    match a, hB with
    | [], _ => exact ⟨[], by rw [unescape.go.eq_def]⟩
    | d' :: a', hB =>
      simp only [List.cons_append, List.cons.injEq] at hB
      obtain ⟨rfl, hrest⟩ := hB
      obtain ⟨x, hx⟩ := ih hrest hy
      rw [unescape_go_plain _ h37 h43 hhost, hx]
      exact ⟨_, rfl⟩

/-- Escapes read in two pieces at a byte that is no hex digit. -/
theorem unescape_go_split {mode : Component} {c : UInt8} (hhex : isHexByte c = false)
    {a b z : List UInt8} (h : unescape.go mode (a ++ c :: b) = .ok z) :
    ∃ x y, unescape.go mode a = .ok x ∧ unescape.go mode (c :: b) = .ok y ∧ z = x ++ y := by
  obtain ⟨x, hx⟩ := unescape_go_prefix hhex h
  rw [unescape_go_append hx] at h
  obtain ⟨y, hy, rfl⟩ := map_eq_ok h
  exact ⟨x, y, hx, hy, rfl⟩

theorem hexValue_lt {h : UInt8} (hx : isHexByte h = true) : hexValue h < 16 := by
  simp only [isHexByte, hexValue, ge_iff_le, UInt8.le_iff_toNat_le, UInt8.reduceToNat,
    Bool.or_eq_true, Bool.and_eq_true, decide_eq_true_eq] at hx ⊢
  split_ifs <;> omega

/-- A hex digit of value below ten is that decimal digit. -/
theorem eq_of_hexValue {h : UInt8} (hx : isHexByte h = true) {n : Nat} (hn : n < 10)
    (hv : hexValue h = n) : h.toNat = 48 + n := by
  simp only [isHexByte, hexValue, ge_iff_le, UInt8.le_iff_toNat_le, UInt8.reduceToNat,
    Bool.or_eq_true, Bool.and_eq_true, decide_eq_true_eq] at hx hv
  split_ifs at hv <;> omega

/-- A `%` read from escapes was written `%25`. -/
theorem infix_of_percent_mem {mode : Component} {bs h : List UInt8}
    (hb : unescape.go mode bs = .ok h) (h37 : (37 : UInt8) ∈ h) : [37, 50, 53] <:+: bs := by
  fun_induction unescape.go mode bs generalizing h with
  | case1 => cases hb; cases h37
  | case2 | case3 | case4 | case6 | case8 => cases hb
  | case5 h1 h2 more hx v pct hhost =>
    rename_i hzone ih
    obtain ⟨y, hy, rfl⟩ := map_eq_ok hb
    rcases List.mem_cons.1 h37 with hv | hy37
    · -- the escape itself is `%25`
      simp only [Bool.not_eq_true', Bool.and_eq_false_iff, not_or, Bool.not_eq_false] at hx
      have h1lt := hexValue_lt hx.1
      have h2lt := hexValue_lt hx.2
      have hv' : hexValue h1 * 16 + hexValue h2 = 37 := by
        have hv : (hexValue h1 * 16 + hexValue h2).toUInt8 = 37 := hv.symm
        have := congrArg UInt8.toNat hv
        simp at this
        omega
      have e1 := eq_of_hexValue hx.1 (n := 2) (by decide) (by omega)
      have e2 := eq_of_hexValue hx.2 (n := 5) (by decide) (by omega)
      have : h1 = 50 ∧ h2 = 53 := ⟨UInt8.toNat_inj.1 e1, UInt8.toNat_inj.1 e2⟩
      obtain ⟨rfl, rfl⟩ := this
      exact ⟨[], more, rfl⟩
    · exact (ih hy hy37).trans ⟨[37, h1, h2], [], by simp⟩
  | case7 rest h43 ih =>
    obtain ⟨y, hy, rfl⟩ := map_eq_ok hb
    rcases List.mem_cons.1 h37 with hv | hy37
    · split_ifs at hv <;> cases hv
    · exact List.infix_cons (ih hy hy37)
  | case9 d rest hd h43 hhost ih =>
    obtain ⟨y, hy, rfl⟩ := map_eq_ok hb
    rcases List.mem_cons.1 h37 with hv | hy37
    · exact absurd hv.symm hd
    · exact List.infix_cons (ih hy hy37)

/-- An escape a host reads stands for `%` or for a byte past ASCII. -/
theorem hostEscape_value {h1 h2 : UInt8} (hx : ¬(!(isHexByte h1 && isHexByte h2)) = true)
    (hhost : ¬(Component.host = .host ∧ hexValue h1 < 8 ∧ (!decide (h1 = 50 ∧ h2 = 53)) = true)) :
    (hexValue h1 * 16 + hexValue h2).toUInt8 = 37 ∨
      128 ≤ (hexValue h1 * 16 + hexValue h2).toUInt8.toNat := by
  by_cases hlt : hexValue h1 < 8
  · have hp : h1 = 50 ∧ h2 = 53 := by
      by_contra hn
      exact hhost ⟨rfl, hlt, by simp only [Bool.not_eq_true', decide_eq_false_iff_not]; exact hn⟩
    obtain ⟨rfl, rfl⟩ := hp
    exact .inl (by decide)
  · simp only [Bool.not_eq_true', Bool.and_eq_false_iff, not_or, Bool.not_eq_false] at hx
    have h1lt := hexValue_lt hx.1
    have h2lt := hexValue_lt hx.2
    have hv : (hexValue h1 * 16 + hexValue h2).toUInt8.toNat = (hexValue h1 * 16 + hexValue h2) % 256 := by
      simp
    exact .inr (by omega)

/-- What a host reads, its escapes included, is written back the same way. -/
theorem readsBack_of_unescape_host {bs h : List UInt8} (hb : unescape.go .host bs = .ok h) :
    ∀ b ∈ h, readsBack .host b = true := by
  fun_induction unescape.go .host bs generalizing h with
  | case1 => cases hb; simp
  | case2 | case3 | case4 | case6 | case8 => cases hb
  | case5 h1 h2 more hx v pct hhost =>
    rename_i hzone ih
    obtain ⟨y, hy, rfl⟩ := map_eq_ok hb
    refine List.forall_mem_cons.2 ⟨?_, ih hy⟩
    show readsBack .host (hexValue h1 * 16 + hexValue h2).toUInt8 = true
    rcases hostEscape_value hx hhost with h37 | hge
    · rw [h37]
      decide
    · simp only [readsBack, hge, decide_true, Bool.or_true, Bool.true_or]
  | case7 rest h43 ih =>
    obtain ⟨y, hy, rfl⟩ := map_eq_ok hb
    exact List.forall_mem_cons.2 ⟨by decide, ih hy⟩
  | case9 d rest hd h43 hhost ih =>
    obtain ⟨y, hy, rfl⟩ := map_eq_ok hb
    refine List.forall_mem_cons.2 ⟨?_, ih hy⟩
    simp only [true_or, true_and, not_and, Bool.not_eq_true] at hhost
    by_cases hlt : d < 128
    · simp [readsBack, hhost hlt]
    · simp [readsBack, UInt8.lt_iff_toNat_lt] at hlt ⊢
      omega

/-- A byte a host reads is in its text, or is `%`, or is past ASCII. -/
theorem mem_of_unescape_host {bs h : List UInt8} (hb : unescape.go .host bs = .ok h) :
    ∀ b ∈ h, b ∈ bs ∨ b = 37 ∨ 128 ≤ b.toNat := by
  fun_induction unescape.go .host bs generalizing h with
  | case1 => cases hb; simp
  | case2 | case3 | case4 | case6 | case8 => cases hb
  | case5 h1 h2 more hx v pct hhost =>
    rename_i hzone ih
    obtain ⟨y, hy, rfl⟩ := map_eq_ok hb
    refine List.forall_mem_cons.2 ⟨.inr (hostEscape_value hx hhost), fun b hb => ?_⟩
    rcases ih hy b hb with hm | hm
    · exact .inl (by simp [hm])
    · exact .inr hm
  | case7 rest h43 ih =>
    obtain ⟨y, hy, rfl⟩ := map_eq_ok hb
    refine List.forall_mem_cons.2 ⟨.inl List.mem_cons_self, fun b hb => ?_⟩
    rcases ih hy b hb with hm | hm
    · exact .inl (List.mem_cons_of_mem _ hm)
    · exact .inr hm
  | case9 d rest hd h43 hhost ih =>
    obtain ⟨y, hy, rfl⟩ := map_eq_ok hb
    refine List.forall_mem_cons.2 ⟨.inl List.mem_cons_self, fun b hb => ?_⟩
    rcases ih hy b hb with hm | hm
    · exact .inl (List.mem_cons_of_mem _ hm)
    · exact .inr hm

/-- A host's bytes start with an ASCII byte other than `%` only where its text does. -/
theorem head_of_unescape_host {bs h : List UInt8} {b : UInt8} (hb : unescape.go .host bs = .ok (b :: h))
    (hlt : b.toNat < 128) (h37 : b ≠ 37) : bs.head? = some b := by
  fun_induction unescape.go .host bs with
  | case1 => cases hb
  | case2 | case3 | case4 | case6 | case8 => cases hb
  | case5 h1 h2 more hx v pct hhost =>
    obtain ⟨y, -, hy⟩ := map_eq_ok hb
    cases hy
    rcases hostEscape_value hx hhost with h | h
    · exact absurd h h37
    · exact absurd h (Nat.not_le.2 hlt)
  | case7 rest h43 =>
    obtain ⟨y, -, hy⟩ := map_eq_ok hb
    cases hy
    rfl
  | case9 d rest hd h43 hhost =>
    obtain ⟨y, -, hy⟩ := map_eq_ok hb
    cases hy
    rfl

/-- What a zone reads within ASCII is written back the same way. -/
theorem readsBack_of_unescape_zone {bs h : List UInt8} (hb : unescape.go .zone bs = .ok h) :
    ∀ b ∈ h, b.toNat < 128 → readsBack .zone b = true := by
  fun_induction unescape.go .zone bs generalizing h with
  | case1 => cases hb; simp
  | case2 | case3 | case4 | case6 | case8 => cases hb
  | case5 h1 h2 more hx v pct hhost =>
    rename_i hzone ih
    obtain ⟨y, hy, rfl⟩ := map_eq_ok hb
    refine List.forall_mem_cons.2 ⟨fun _ => ?_, ih hy⟩
    -- an escape in a zone stands for `%`, the blank, or a byte a host allows
    simp only [true_and, not_and, Bool.not_eq_true', decide_eq_false_iff_not] at hzone
    by_cases hp : pct
    · obtain ⟨rfl, rfl⟩ := hp
      decide
    by_cases h32 : v = 32
    · have : v.toUInt8 = 32 := by rw [h32]; rfl
      simp [readsBack, this]
    · simp [readsBack, hzone hp h32]
  | case7 rest h43 ih =>
    obtain ⟨y, hy, rfl⟩ := map_eq_ok hb
    exact List.forall_mem_cons.2 ⟨fun _ => by decide, ih hy⟩
  | case9 d rest hd h43 hhost ih =>
    obtain ⟨y, hy, rfl⟩ := map_eq_ok hb
    refine List.forall_mem_cons.2 ⟨fun hlt => ?_, ih hy⟩
    simp only [or_true, true_and, not_and, Bool.not_eq_true] at hhost
    have hlt' : d < 128 := by rw [UInt8.lt_iff_toNat_lt]; exact hlt
    simp [readsBack, ← shouldEscape_zone, hhost hlt']

/-! ### Plain text -/

theorem escape_append (x y : List UInt8) (mode : Component) :
    escape (x ++ y) mode = escape x mode ++ escape y mode := by
  simp only [escape, List.flatMap_append, String.ofList_append]

theorem escapeChars_plain {c : Char} {mode : Component} (hc : c.toNat < 128)
    (h : shouldEscape c.toUInt8 mode = false) : escapeChars mode c.toUInt8 = [c] := by
  have hv : (Char.ofNat c.toUInt8.toNat) = c := by
    rw [toNat_toUInt8_of_lt hc, Char.ofNat_toNat]
  simp [escapeChars, h, hv]

/-- A text of ASCII characters that need no escape is written as it is. -/
theorem escape_plain {s : String} {mode : Component}
    (h : ∀ c ∈ s.toList, c.toNat < 128 ∧ shouldEscape c.toUInt8 mode = false) :
    escape (utf8Bytes s) mode = s := by
  rw [utf8Bytes_eq, flatMap_utf8EncodeChar_ascii (fun c hc => (h c hc).1)]
  apply String.toList_injective
  rw [toList_escape, List.flatMap_map]
  generalize s.toList = cs at h ⊢
  induction cs with
  | nil => rfl
  | cons c cs ih =>
    rw [List.flatMap_cons, escapeChars_plain (h c List.mem_cons_self).1 (h c List.mem_cons_self).2,
      ih (fun d hd => h d (List.mem_cons_of_mem _ hd))]
    rfl

theorem readsBack_of_shouldEscape {b : UInt8} {mode : Component} (h : shouldEscape b mode = false) :
    readsBack mode b = true := by
  cases mode <;> simp_all [readsBack, ← shouldEscape_zone]

theorem readsBack_of_plain {s : String} {mode : Component}
    (h : ∀ c ∈ s.toList, c.toNat < 128 ∧ shouldEscape c.toUInt8 mode = false) :
    ∀ b ∈ utf8Bytes s, readsBack mode b = true := by
  intro b hb
  rw [utf8Bytes_eq, flatMap_utf8EncodeChar_ascii (fun c hc => (h c hc).1)] at hb
  obtain ⟨c, hc, rfl⟩ := List.mem_map.1 hb
  exact readsBack_of_shouldEscape (h c hc).2

/-- A text of ASCII characters that need no escape reads as its bytes. -/
theorem unescape_plain {s : String} {mode : Component}
    (h : ∀ c ∈ s.toList, c.toNat < 128 ∧ shouldEscape c.toUInt8 mode = false) :
    unescape (utf8Bytes s) mode = .ok (utf8Bytes s) := by
  conv_lhs => rw [← escape_plain h]
  exact unescape_escape (readsBack_of_plain h)

theorem utf8Bytes_of_toList {t : String} {x y : List Char} (h : t.toList = x ++ y) :
    utf8Bytes t = utf8Bytes (String.ofList x) ++ utf8Bytes (String.ofList y) := by
  simp only [utf8Bytes_eq, h, List.flatMap_append, String.toList_ofList]

/-- Escapes read in two pieces before plain characters, the first of them no hex digit. -/
theorem unescape_split_plain {t : String} {x y : List Char} {c : Char} {mode : Component}
    {r : List UInt8} (ht : t.toList = x ++ c :: y) (hc : isHexByte c.toUInt8 = false)
    (hy : ∀ d ∈ (c :: y), d.toNat < 128 ∧ shouldEscape d.toUInt8 mode = false)
    (h : unescape (utf8Bytes t) mode = .ok r) :
    ∃ a, unescape (utf8Bytes (String.ofList x)) mode = .ok a ∧
      r = a ++ utf8Bytes (String.ofList (c :: y)) := by
  have hplain : unescape (utf8Bytes (String.ofList (c :: y))) mode =
      .ok (utf8Bytes (String.ofList (c :: y))) :=
    unescape_plain (by simpa using hy)
  have hbytes : utf8Bytes (String.ofList (c :: y)) = c.toUInt8 :: utf8Bytes (String.ofList y) := by
    rw [utf8Bytes_eq, utf8Bytes_eq, String.toList_ofList, String.toList_ofList, List.flatMap_cons,
      utf8EncodeChar_ascii (hy c List.mem_cons_self).1]
    rfl
  rw [utf8Bytes_of_toList ht, hbytes] at h
  rw [hbytes] at hplain ⊢
  obtain ⟨a, b, ha, hb, rfl⟩ := unescape_go_split hc h
  exact ⟨a, ha, by rw [show unescape.go mode _ = _ from hplain] at hb; cases hb; rfl⟩

/-- An ASCII character that is no part of an escape stands in a written text only where its
byte stands in the bytes. -/
theorem mem_of_mem_escape {c : Char} {bs : List UInt8} {mode : Component} (hpct : c ≠ '%')
    (hhex : ∀ n < 16, hexUpper n ≠ c) (hplus : c ≠ '+') (hc : c ∈ (escape bs mode).toList) :
    ∃ b ∈ bs, b.toNat = c.toNat := by
  rcases mem_escape hc with h | ⟨n, hn, h⟩ | h | ⟨b, hb, -, -, h⟩
  · exact absurd h hpct
  · exact absurd h (hhex n hn)
  · exact absurd h hplus
  · exact ⟨b, hb, h.symm⟩

theorem ok_of_mapError {α ε ε' : Type} {f : ε → ε'} {e : Except ε α} {a : α}
    (h : e.mapError f = .ok a) : e = .ok a := by
  cases e with
  | error => cases h
  | ok b => cases h; rfl

end SqlSearch.Url
