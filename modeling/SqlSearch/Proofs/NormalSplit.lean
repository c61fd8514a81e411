import SqlSearch.Text.Normal
import SqlSearch.Text.Blank
/-! Canonical composition works piece by piece. An inert code point is a starter that is its
own decomposition and is neither half of any composite. It cuts a sequence into pieces that
are put in Normalization Form C one by one (`nfcCodes_split`). The blanks are inert once U+2000
and U+2001 are replaced by the spaces they decompose to, and so are the two quotes. ASCII is
its own normal form (`nfcCodes_ascii`). Composition never makes a quote
(`quote_not_mem_nfcCodes`), so doubling the quotes of a normal text leaves it normal
(`nfcChars_doubleAll`). -/
namespace SqlSearch.Text.Normal

/-- One past the last code point. -/
def codeLimit : Nat := 0x110000

/-- Whether a code point is a starter that is its own decomposition, no Hangul jamo or syllable,
and neither the first nor the second character of a primary composite. -/
def isInert (x : Nat) : Bool :=
  decide (x < codeLimit) && combiningClass x == 0 && decompose x == [x] &&
    decide (x < leadBase ∨ trailBase + trailCount ≤ x) &&
    decide (x < hangulBase ∨ hangulBase + syllableCount ≤ x) &&
    composites.toList.all fun e => e.first != x && e.second != x

/-- Every element written twice where it is `q`. -/
def doubleAll {α : Type} [DecidableEq α] (q : α) (xs : List α) : List α :=
  xs.flatMap fun x => if x = q then [q, q] else [x]

/-- The characters of the normal form of a text, given by its characters. -/
def nfcChars (cs : List Char) : List Char :=
  (nfcCodes (cs.map Char.toNat)).map Char.ofNat

theorem nfc_toList (s : String) : (nfc s).toList = nfcChars s.toList := by
  simp [nfc, nfcChars]

/-! ### The tables -/

theorem findSorted_mem {α : Type} {entries : Array α} {key : α → Nat} {k lo hi : Nat} {e : α}
    (h : findSorted entries key k lo hi = some e) : e ∈ entries.toList ∧ key e = k := by
  fun_induction findSorted entries key k lo hi
  · simp at h
  · rename_i ih
    exact ih h
  · rename_i ih
    exact ih h
  · rename_i e' hmid hlt hgt
    cases h
    exact ⟨Array.mem_toList_iff.2 (Array.mem_of_getElem? hmid), by omega⟩
  · simp at h

theorem findRun_mem {c lo hi : Nat} {r : ClassRun} (h : combiningClass.findRun c lo hi = some r) :
    r ∈ classRuns.toList ∧ r.lo ≤ c ∧ c ≤ r.hi := by
  fun_induction combiningClass.findRun c lo hi
  · simp at h
  · rename_i ih
    exact ih h
  · rename_i ih
    exact ih h
  · rename_i r' hmid hlt hgt
    cases h
    exact ⟨Array.mem_toList_iff.2 (Array.mem_of_getElem? hmid), by omega, by omega⟩
  · simp at h

theorem classRuns_bounded : (classRuns.toList.all fun r => decide (0x300 ≤ r.lo)) = true := by
  decide +kernel

theorem composites_bounded :
    (composites.toList.all fun e => decide (0x300 ≤ e.second) && decide (e.second < codeLimit) &&
      decide (0xC0 ≤ e.code) && decide (e.code < codeLimit) && decide (0x3C ≤ e.first)) = true := by
  decide +kernel

theorem decompositions_bounded :
    (decompositions.toList.all fun d => decide (0xC0 ≤ d.code) &&
      d.parts.all fun p => decide (p < codeLimit) && p != 0x22 && p != 0x27) = true := by
  decide +kernel

theorem composite_bounds {e : Composite} (he : e ∈ composites.toList) :
    0x300 ≤ e.second ∧ e.second < codeLimit ∧ 0xC0 ≤ e.code ∧ e.code < codeLimit ∧
      0x3C ≤ e.first := by
  have := List.all_eq_true.1 composites_bounded e he
  simp only [Bool.and_eq_true, decide_eq_true_eq] at this
  obtain ⟨⟨⟨⟨h1, h2⟩, h3⟩, h4⟩, h5⟩ := this
  exact ⟨h1, h2, h3, h4, h5⟩

theorem decomposition_code {d : Decomposition} (hd : d ∈ decompositions.toList) : 0xC0 ≤ d.code := by
  have := List.all_eq_true.1 decompositions_bounded d hd
  simp only [Bool.and_eq_true, decide_eq_true_eq] at this
  exact this.1

theorem decomposition_part {d : Decomposition} {p : Nat} (hd : d ∈ decompositions.toList)
    (hp : p ∈ d.parts) : p < codeLimit ∧ p ≠ 0x22 ∧ p ≠ 0x27 := by
  have hd' := List.all_eq_true.1 decompositions_bounded d hd
  rw [Bool.and_eq_true] at hd'
  have := List.all_eq_true.1 hd'.2 p hp
  simp only [Bool.and_eq_true, decide_eq_true_eq, bne_iff_ne, ne_eq] at this
  exact ⟨this.1.1, this.1.2, this.2⟩

/-- Below U+0300 every code point has combining class zero: the class table starts there. -/
theorem combiningClass_of_lt {x : Nat} (hx : x < 0x300) : combiningClass x = 0 := by
  unfold combiningClass
  split
  · rename_i r hr
    obtain ⟨hmem, hlo, -⟩ := findRun_mem hr
    have := List.all_eq_true.1 classRuns_bounded r hmem
    simp only [decide_eq_true_eq] at this
    omega
  · rfl

/-- Below U+00C0 every code point is its own decomposition: the decomposition table starts
there. -/
theorem decompose_of_lt {x : Nat} (hx : x < 0xC0) : decompose x = [x] := by
  unfold decompose
  rw [if_neg (by simp only [hangulBase]; omega)]
  split
  · rename_i d hd
    obtain ⟨hmem, hcode⟩ := findSorted_mem hd
    have := decomposition_code hmem
    omega
  · rfl

/-- What a composition can produce: a Hangul syllable or the code of a listed composite. -/
theorem compose_result {a b y : Nat} (h : compose a b = some y) :
    (hangulBase ≤ y ∧ y < codeLimit) ∨ ∃ e ∈ composites.toList, e.code = y := by
  unfold compose at h
  split at h
  · rename_i hab
    simp only [Option.some.injEq] at h
    subst h
    simp only [hangulBase, leadBase, vowelBase, vowelCount, trailCount, codeLimit] at hab ⊢
    omega
  · split at h
    · rename_i hab
      simp only [Option.some.injEq] at h
      subst h
      simp only [hangulBase, syllableCount, trailBase, trailCount, codeLimit] at hab ⊢
      omega
    · obtain ⟨e, he, rfl⟩ := Option.map_eq_some_iff.1 h
      exact .inr ⟨e, (findSorted_mem he).1, rfl⟩

/-- A code point that is no composite's second character composes onto nothing. -/
theorem compose_eq_none_of_second {x y : Nat} (hx : x < codeLimit)
    (hs : composites.toList.all (fun e => e.second != x) = true)
    (hv : ¬ (vowelBase ≤ x ∧ x < vowelBase + vowelCount))
    (ht : ¬ (trailBase < x ∧ x < trailBase + trailCount)) : compose y x = none := by
  unfold compose
  rw [if_neg (fun h => hv ⟨h.2.2.1, h.2.2.2⟩), if_neg (fun h => ht ⟨h.2.2.2.1, h.2.2.2.2⟩)]
  cases hl : lookupSorted composites Composite.key (y * 0x110000 + x) with
  | none => rfl
  | some e =>
    obtain ⟨he, hkey⟩ := findSorted_mem hl
    have hb := composite_bounds he
    have hne := List.all_eq_true.1 hs e he
    simp only [Composite.key, codeLimit] at hkey hb hx
    simp only [bne_iff_ne, ne_eq] at hne
    omega

/-- A code point that is no composite's first character takes no code point onto it. -/
theorem compose_eq_none_of_first {x y : Nat} (hy : y < codeLimit)
    (hf : composites.toList.all (fun e => e.first != x) = true)
    (hl : ¬ (leadBase ≤ x ∧ x < leadBase + 19))
    (hh : ¬ (hangulBase ≤ x ∧ x < hangulBase + syllableCount)) : compose x y = none := by
  unfold compose
  rw [if_neg (fun h => hl ⟨h.1, h.2.1⟩), if_neg (fun h => hh ⟨h.1, h.2.1⟩)]
  cases hk : lookupSorted composites Composite.key (x * 0x110000 + y) with
  | none => rfl
  | some e =>
    obtain ⟨he, hkey⟩ := findSorted_mem hk
    have hb := composite_bounds he
    have hne := List.all_eq_true.1 hf e he
    simp only [Composite.key, codeLimit] at hkey hb hy
    simp only [bne_iff_ne, ne_eq] at hne
    omega

theorem isInert_iff {x : Nat} : isInert x = true ↔ x < codeLimit ∧ combiningClass x = 0 ∧
    decompose x = [x] ∧ (x < leadBase ∨ trailBase + trailCount ≤ x) ∧
    (x < hangulBase ∨ hangulBase + syllableCount ≤ x) ∧
    ∀ e ∈ composites.toList, e.first ≠ x ∧ e.second ≠ x := by
  simp only [isInert, Bool.and_eq_true, decide_eq_true_eq, beq_iff_eq, List.all_eq_true,
    bne_iff_ne, ne_eq, and_assoc]

section Inert

variable {x : Nat} (hx : isInert x = true)
include hx

theorem isInert.spec : x < codeLimit ∧ combiningClass x = 0 ∧ decompose x = [x] ∧
    (x < leadBase ∨ trailBase + trailCount ≤ x) ∧ (x < hangulBase ∨ hangulBase + syllableCount ≤ x) ∧
    ∀ e ∈ composites.toList, e.first ≠ x ∧ e.second ≠ x :=
  isInert_iff.1 hx

theorem isInert.lt : x < codeLimit := (isInert.spec hx).1

theorem isInert.combiningClass : combiningClass x = 0 := (isInert.spec hx).2.1

theorem isInert.decompose : decompose x = [x] := (isInert.spec hx).2.2.1

theorem isInert.compose_left {y : Nat} : compose y x = none := by
  obtain ⟨hlt, -, -, hj, -, hc⟩ := isInert.spec hx
  refine compose_eq_none_of_second hlt (List.all_eq_true.2 fun e he => by simpa using (hc e he).2) ?_ ?_
  · simp only [vowelBase, vowelCount, leadBase, trailBase, trailCount] at hj ⊢; omega
  · simp only [leadBase, trailBase, trailCount] at hj ⊢; omega

theorem isInert.compose_right {y : Nat} (hy : y < codeLimit) : compose x y = none := by
  obtain ⟨-, -, -, hj, hh, hc⟩ := isInert.spec hx
  refine compose_eq_none_of_first hy (List.all_eq_true.2 fun e he => by simpa using (hc e he).1) ?_ ?_
  · simp only [leadBase, trailBase, trailCount] at hj ⊢; omega
  · simp only [hangulBase, syllableCount] at hh ⊢; omega

end Inert

/-- Below `<` every code point is inert: it is below the tables and below both halves of every
composite. -/
theorem isInert_of_lt {x : Nat} (hx : x < 0x3C) : isInert x = true := by
  refine isInert_iff.2 ⟨by simp only [codeLimit]; omega, combiningClass_of_lt (by omega),
    decompose_of_lt (by omega), .inl (by simp only [leadBase]; omega),
    .inl (by simp only [hangulBase]; omega), fun e he => ?_⟩
  have hb := composite_bounds he
  omega

theorem quotes_inert : isInert 0x22 = true ∧ isInert 0x27 = true :=
  ⟨isInert_of_lt (by decide), isInert_of_lt (by decide)⟩

/-- Each blank decomposes to one blank that is a starter and its own decomposition. -/
theorem blank_decompose :
    (blankCodes.all fun k =>
        match decompose k with
        | [y] => blankCodes.contains y && combiningClass y == 0 && decompose y == [y]
        | _ => false) = true := by
  decide +kernel

/-- No blank is either half of a composite. -/
theorem composites_avoid_blanks :
    (composites.toList.all fun e =>
      !isBlank (Char.ofNat e.first) && !isBlank (Char.ofNat e.second)) = true := by
  decide +kernel

/-- A blank that is a starter and its own decomposition is inert. -/
theorem isInert_blank {y : Nat} (hy : y ∈ blankCodes) (hc : combiningClass y = 0)
    (hd : decompose y = [y]) : isInert y = true := by
  have hr : y < codeLimit ∧ (y < leadBase ∨ trailBase + trailCount ≤ y) ∧
      (y < hangulBase ∨ hangulBase + syllableCount ≤ y) := by
    simp only [blankCodes, List.mem_cons, List.not_mem_nil, or_false] at hy
    simp only [codeLimit, leadBase, trailBase, trailCount, hangulBase, syllableCount]
    omega
  refine isInert_iff.2 ⟨hr.1, hc, hd, hr.2.1, hr.2.2, fun e he => ?_⟩
  have hf := List.all_eq_true.1 composites_avoid_blanks e he
  rw [Bool.and_eq_true] at hf
  have hb := isBlank_ofNat_of_mem y hy
  refine ⟨fun h => ?_, fun h => ?_⟩
  · rw [h, hb] at hf
    cases hf.1
  · rw [h, hb] at hf
    cases hf.2

/-- ASCII code points are starters and their own decompositions. -/
theorem ascii_starter (x : Nat) (hx : x < 0x80) : decompose x = [x] ∧ combiningClass x = 0 :=
  ⟨decompose_of_lt (by omega), combiningClass_of_lt (by omega)⟩

theorem ascii_compose {s y : Nat} (hy : y < 0x80) : compose s y = none :=
  compose_eq_none_of_second (by simp only [codeLimit]; omega)
    (List.all_eq_true.2 fun e he => by
      have := (composite_bounds he).1
      simp only [bne_iff_ne, ne_eq]
      omega)
    (by simp only [vowelBase, vowelCount]; omega) (by simp only [trailBase, trailCount]; omega)

theorem Char.toNat_lt_codeLimit (c : Char) : c.toNat < codeLimit := by
  have h := c.valid
  simp only [UInt32.isValidChar, Nat.isValidChar] at h
  simp only [Char.toNat, codeLimit]
  omega

/-- A character made from a code point is that code point, or the null character. -/
theorem Char.eq_of_ofNat {y : Nat} {c : Char} (h : Char.ofNat y = c) :
    y = c.toNat ∨ c = Char.ofNat 0 := by
  subst h
  by_cases hv : y.isValidChar
  · left
    rw [Char.ofNat, dif_pos hv]
    rfl
  · right
    rw [Char.ofNat, dif_neg hv]
    rfl

/-! ### Where the code points of a normal form come from -/

theorem decompose_mem {x y : Nat} (hy : y ∈ decompose x) :
    y = x ∨ (leadBase ≤ y ∧ y < hangulBase) ∨ ∃ d ∈ decompositions.toList, y ∈ d.parts := by
  unfold decompose at hy
  split at hy
  · rename_i hx
    right; left
    simp only at hy
    split at hy <;>
      simp only [List.mem_cons, List.not_mem_nil, or_false] at hy <;>
      simp only [hangulBase, leadBase, vowelBase, trailBase, vowelCount, trailCount,
        syllableCount] at hx hy ⊢ <;>
      omega
  · split at hy
    · rename_i d hd
      exact .inr (.inr ⟨d, (findSorted_mem hd).1, hy⟩)
    · simp only [List.mem_cons, List.not_mem_nil, or_false] at hy
      exact .inl hy

theorem decompose_lt {x y : Nat} (hx : x < codeLimit) (hy : y ∈ decompose x) : y < codeLimit := by
  rcases decompose_mem hy with rfl | h | ⟨d, hd, hp⟩
  · exact hx
  · simp only [hangulBase, codeLimit] at h ⊢; omega
  · exact (decomposition_part hd hp).1

theorem insertMark_mem {m y : Nat} {xs : List Nat} (h : y ∈ insertMark m xs) : y = m ∨ y ∈ xs := by
  induction xs with
  | nil => simpa [insertMark] using h
  | cons x xs ih =>
    unfold insertMark at h
    split at h
    · simpa using h
    · simp only [List.mem_cons] at h ⊢
      rcases h with h | h
      · exact .inr (.inl h)
      · rcases ih h with h | h
        · exact .inl h
        · exact .inr (.inr h)

theorem reorder_mem {y : Nat} : ∀ {run cs : List Nat}, y ∈ reorder run cs → y ∈ run ∨ y ∈ cs
  | _, [], h => .inl h
  | run, c :: cs, h => by
    unfold reorder at h
    split at h
    · simp only [List.mem_append, List.mem_cons] at h
      rcases h with h | rfl | h
      · exact .inl h
      · exact .inr (List.mem_cons_self ..)
      · rcases reorder_mem h with h | h
        · simp at h
        · exact .inr (List.mem_cons_of_mem _ h)
    · rcases reorder_mem h with h | h
      · rcases insertMark_mem h with rfl | h
        · exact .inr (List.mem_cons_self ..)
        · exact .inl h
      · exact .inr (List.mem_cons_of_mem _ h)

/-- One step of composition when the starter and the next character do not compose. -/
theorem composeFrom_of_none {s c last : Nat} {between cs : List Nat} (h : compose s c = none) :
    composeFrom s between last (c :: cs) =
      if combiningClass c = 0 then s :: between.reverse ++ composeFrom c [] 0 cs
      else composeFrom s (c :: between) (combiningClass c) cs := by
  simp [composeFrom, h]

theorem composeAll_cons_of_starter {c : Nat} {cs : List Nat} (h : combiningClass c = 0) :
    composeAll (c :: cs) = composeFrom c [] 0 cs := by
  simp [composeAll, h]

theorem composeAll_cons_of_mark {c : Nat} {cs : List Nat} (h : combiningClass c ≠ 0) :
    composeAll (c :: cs) = c :: composeAll cs := by
  simp [composeAll, h]

theorem composeFrom_mem {y : Nat} : ∀ {s last : Nat} {between cs : List Nat},
    y ∈ composeFrom s between last cs →
      y = s ∨ y ∈ between ∨ y ∈ cs ∨ ∃ a b, compose a b = some y
  | s, _, between, [], h => by
    simp only [composeFrom, List.mem_cons, List.mem_reverse] at h
    rcases h with h | h
    · exact .inl h
    · exact .inr (.inl h)
  | s, last, between, c :: cs, h => by
    cases hD : (compose s c).filter fun _ => between.isEmpty || decide (last < combiningClass c) with
    | some s' =>
      simp only [composeFrom, hD] at h
      have hs' : compose s c = some s' := (Option.filter_eq_some_iff.1 hD).1
      rcases composeFrom_mem h with rfl | h | h | h
      · exact .inr (.inr (.inr ⟨s, c, hs'⟩))
      · exact .inr (.inl h)
      · exact .inr (.inr (.inl (List.mem_cons_of_mem _ h)))
      · exact .inr (.inr (.inr h))
    | none =>
      simp only [composeFrom, hD] at h
      split at h
      · simp only [List.mem_cons, List.mem_append, List.mem_reverse] at h
        rcases h with (h | h) | h
        · exact .inl h
        · exact .inr (.inl h)
        · rcases composeFrom_mem h with rfl | h | h | h
          · exact .inr (.inr (.inl (List.mem_cons_self ..)))
          · simp at h
          · exact .inr (.inr (.inl (List.mem_cons_of_mem _ h)))
          · exact .inr (.inr (.inr h))
      · rcases composeFrom_mem h with rfl | h | h | h
        · exact .inl rfl
        · rcases List.mem_cons.1 h with rfl | h
          · exact .inr (.inr (.inl (List.mem_cons_self ..)))
          · exact .inr (.inl h)
        · exact .inr (.inr (.inl (List.mem_cons_of_mem _ h)))
        · exact .inr (.inr (.inr h))

theorem composeAll_mem {y : Nat} : ∀ {cs : List Nat}, y ∈ composeAll cs →
    y ∈ cs ∨ ∃ a b, compose a b = some y
  | [], h => by simp [composeAll] at h
  | c :: cs, h => by
    by_cases hc : combiningClass c = 0
    · rw [composeAll_cons_of_starter hc] at h
      rcases composeFrom_mem h with rfl | h | h | h
      · exact .inl (List.mem_cons_self ..)
      · simp at h
      · exact .inl (List.mem_cons_of_mem _ h)
      · exact .inr h
    · rw [composeAll_cons_of_mark hc] at h
      rcases List.mem_cons.1 h with rfl | h
      · exact .inl (List.mem_cons_self ..)
      · rcases composeAll_mem h with h | h
        · exact .inl (List.mem_cons_of_mem _ h)
        · exact .inr h

/-- Every code point of a normal form comes from the decomposition of an input or is made by
composition. -/
theorem nfcCodes_mem {y : Nat} {xs : List Nat} (hy : y ∈ nfcCodes xs) :
    (∃ x ∈ xs, y ∈ decompose x) ∨ ∃ a b, compose a b = some y := by
  rcases composeAll_mem hy with h | h
  · rcases reorder_mem h with h | h
    · simp at h
    · exact .inl (List.mem_flatMap.1 h)
  · exact .inr h

/-- Normalisation makes no quote that was not there. -/
theorem quote_not_mem_nfcCodes {q : Nat} (hq : q = 0x22 ∨ q = 0x27) {xs : List Nat} (h : q ∉ xs) :
    q ∉ nfcCodes xs := by
  intro hm
  rcases nfcCodes_mem hm with ⟨x, hx, hd⟩ | ⟨a, b, hab⟩
  · rcases decompose_mem hd with rfl | hj | ⟨d, hd, hp⟩
    · exact h hx
    · simp only [leadBase] at hj; omega
    · have := decomposition_part hd hp
      omega
  · rcases compose_result hab with ⟨hh, -⟩ | ⟨e, he, hcode⟩
    · simp only [hangulBase] at hh; omega
    · have := (composite_bounds he).2.2.1
      omega

/-! ### Splitting at an inert code point -/

theorem reorder_split {x : Nat} (hx : combiningClass x = 0) (ys : List Nat) :
    ∀ run xs : List Nat, reorder run (xs ++ x :: ys) = reorder run xs ++ x :: reorder [] ys
  | run, [] => by simp [reorder, hx]
  | run, c :: cs => by
    simp only [List.cons_append, reorder]
    split
    · rw [reorder_split hx ys [] cs, List.append_assoc, List.cons_append]
    · exact reorder_split hx ys _ cs

section Inert

variable {x : Nat} (hx : isInert x = true)
include hx

/-- After an inert starter nothing composes, so what follows is composed on its own. -/
theorem composeFrom_of_inert : ∀ {last : Nat} {between ys : List Nat},
    (∀ y ∈ ys, y < codeLimit) → composeFrom x between last ys = x :: between.reverse ++ composeAll ys
  | _, _, [], _ => by simp [composeFrom, composeAll]
  | _, between, y :: ys, hys => by
    rw [composeFrom_of_none (isInert.compose_right hx (hys y (List.mem_cons_self ..)))]
    by_cases hy : combiningClass y = 0
    · rw [if_pos hy, composeAll_cons_of_starter hy]
    · rw [if_neg hy, composeFrom_of_inert (fun z hz => hys z (List.mem_cons_of_mem _ hz)),
        composeAll_cons_of_mark hy]
      simp

theorem composeFrom_split {ys : List Nat} (hys : ∀ y ∈ ys, y < codeLimit) :
    ∀ {s last : Nat} {between : List Nat} (zs : List Nat),
      composeFrom s between last (zs ++ x :: ys) = composeFrom s between last zs ++ x :: composeAll ys
  | s, last, between, [] => by
    rw [List.nil_append, composeFrom_of_none (isInert.compose_left hx),
      if_pos (isInert.combiningClass hx), composeFrom_of_inert hx hys]
    simp [composeFrom]
  | s, last, between, z :: zs => by
    cases hD : (compose s z).filter fun _ => between.isEmpty || decide (last < combiningClass z) with
    | some s' =>
      simp only [List.cons_append, composeFrom, hD]
      exact composeFrom_split hys zs
    | none =>
      simp only [List.cons_append, composeFrom, hD]
      split
      · rw [composeFrom_split hys zs]
        simp only [List.cons_append, List.append_assoc]
      · exact composeFrom_split hys zs

theorem composeAll_split {ys : List Nat} (hys : ∀ y ∈ ys, y < codeLimit) :
    ∀ zs : List Nat, composeAll (zs ++ x :: ys) = composeAll zs ++ x :: composeAll ys
  | [] => by
    rw [List.nil_append, composeAll_cons_of_starter (isInert.combiningClass hx),
      composeFrom_of_inert hx hys]
    simp [composeAll]
  | z :: zs => by
    by_cases hz : combiningClass z = 0
    · rw [List.cons_append, composeAll_cons_of_starter hz, composeAll_cons_of_starter hz,
        composeFrom_split hx hys]
    · rw [List.cons_append, composeAll_cons_of_mark hz, composeAll_cons_of_mark hz,
        composeAll_split hys zs, List.cons_append]

end Inert

/-- A code point that decomposes to an inert one cuts the normal form in two. -/
theorem nfcCodes_split {x y : Nat} (hd : decompose x = [y]) (hy : isInert y = true) {ys : List Nat}
    (hys : ∀ z ∈ ys, z < codeLimit) (xs : List Nat) :
    nfcCodes (xs ++ x :: ys) = nfcCodes xs ++ y :: nfcCodes ys := by
  have hv : ∀ z ∈ reorder [] (ys.flatMap decompose), z < codeLimit := by
    intro z hz
    rcases reorder_mem hz with h | h
    · simp at h
    · obtain ⟨w, hw, hzw⟩ := List.mem_flatMap.1 h
      exact decompose_lt (hys w hw) hzw
  unfold nfcCodes
  rw [List.flatMap_append, List.flatMap_cons, hd, List.singleton_append,
    reorder_split (isInert.combiningClass hy), composeAll_split hy hv]

theorem nfcCodes_nil : nfcCodes [] = [] := rfl

/-! ### ASCII -/

theorem composeFrom_ascii : ∀ {s : Nat} {ys : List Nat}, (∀ y ∈ ys, y < 0x80) →
    composeFrom s [] 0 ys = s :: ys
  | _, [], _ => by simp [composeFrom]
  | _, y :: ys, h => by
    have hy := h y (List.mem_cons_self ..)
    rw [composeFrom_of_none (ascii_compose hy), if_pos (ascii_starter y hy).2,
      composeFrom_ascii (fun z hz => h z (List.mem_cons_of_mem _ hz))]
    rfl

theorem flatMap_decompose_ascii : ∀ {xs : List Nat}, (∀ x ∈ xs, x < 0x80) →
    xs.flatMap decompose = xs
  | [], _ => rfl
  | x :: xs, h => by
    rw [List.flatMap_cons, (ascii_starter x (h x (List.mem_cons_self ..))).1,
      flatMap_decompose_ascii (fun y hy => h y (List.mem_cons_of_mem _ hy)), List.singleton_append]

theorem reorder_starters : ∀ {xs : List Nat}, (∀ x ∈ xs, combiningClass x = 0) → reorder [] xs = xs
  | [], _ => rfl
  | x :: xs, h => by
    rw [reorder, if_pos (h x (List.mem_cons_self ..)),
      reorder_starters (fun y hy => h y (List.mem_cons_of_mem _ hy)), List.nil_append]

/-- ASCII is its own normal form. -/
theorem nfcCodes_ascii {xs : List Nat} (h : ∀ x ∈ xs, x < 0x80) : nfcCodes xs = xs := by
  unfold nfcCodes
  rw [flatMap_decompose_ascii h, reorder_starters (fun x hx => (ascii_starter x (h x hx)).2)]
  cases xs with
  | nil => rfl
  | cons x xs =>
    rw [composeAll_cons_of_starter (ascii_starter x (h x (List.mem_cons_self ..))).2,
      composeFrom_ascii (fun y hy => h y (List.mem_cons_of_mem _ hy))]

/-! ### Doubled quotes -/

section Double

variable {α : Type} [DecidableEq α] {q : α}

theorem doubleAll_append (xs ys : List α) : doubleAll q (xs ++ ys) = doubleAll q xs ++ doubleAll q ys :=
  List.flatMap_append

theorem doubleAll_cons_self (xs : List α) : doubleAll q (q :: xs) = q :: q :: doubleAll q xs := by
  simp [doubleAll]

theorem doubleAll_cons_of_ne {x : α} (hx : x ≠ q) (xs : List α) :
    doubleAll q (x :: xs) = x :: doubleAll q xs := by
  simp [doubleAll, hx]

theorem doubleAll_of_not_mem : ∀ {xs : List α}, q ∉ xs → doubleAll q xs = xs
  | [], _ => rfl
  | x :: xs, h => by
    have hx : x ≠ q := fun e => h (e ▸ List.mem_cons_self ..)
    rw [doubleAll_cons_of_ne hx, doubleAll_of_not_mem (fun hm => h (List.mem_cons_of_mem _ hm))]

theorem mem_doubleAll {y : α} {xs : List α} (h : y ∈ doubleAll q xs) : y = q ∨ y ∈ xs := by
  obtain ⟨x, hx, hy⟩ := List.mem_flatMap.1 h
  split at hy
  · simp only [List.mem_cons, List.not_mem_nil, or_false, or_self] at hy
    exact .inl hy
  · simp only [List.mem_cons, List.not_mem_nil, or_false] at hy
    exact .inr (hy ▸ hx)

theorem map_doubleAll {β : Type} [DecidableEq β] {f : α → β} (hf : ∀ x, f x = f q ↔ x = q) :
    ∀ xs : List α, (doubleAll q xs).map f = doubleAll (f q) (xs.map f)
  | [] => rfl
  | x :: xs => by
    by_cases hx : x = q
    · rw [hx, doubleAll_cons_self, List.map_cons, List.map_cons, List.map_cons, doubleAll_cons_self,
        map_doubleAll hf xs]
    · have hfx : f x ≠ f q := fun e => hx ((hf x).1 e)
      rw [doubleAll_cons_of_ne hx, List.map_cons, List.map_cons, doubleAll_cons_of_ne hfx,
        map_doubleAll hf xs]

/-- The first place where `q` stands in a list that holds it. -/
theorem exists_first_split : ∀ {xs : List α}, q ∈ xs → ∃ a b, xs = a ++ q :: b ∧ q ∉ a
  | x :: xs, h => by
    by_cases hx : x = q
    · exact ⟨[], xs, by rw [hx]; rfl, by simp⟩
    · obtain ⟨a, b, rfl, ha⟩ := exists_first_split ((List.mem_cons.1 h).resolve_left (Ne.symm hx))
      exact ⟨x :: a, b, rfl, by simp [ha, Ne.symm hx]⟩

end Double

/-- Doubling a quote commutes with normalisation: the quotes are inert, and normalisation makes
no new ones. The induction is on the length, cutting at the first quote. -/
theorem nfcCodes_doubleAll {q : Nat} (hq : q = 0x22 ∨ q = 0x27) (xs : List Nat)
    (hxs : ∀ x ∈ xs, x < codeLimit) : nfcCodes (doubleAll q xs) = doubleAll q (nfcCodes xs) := by
  have hi : isInert q = true := by
    rcases hq with rfl | rfl
    · exact quotes_inert.1
    · exact quotes_inert.2
  by_cases hm : q ∈ xs
  · obtain ⟨a, b, rfl, ha⟩ := exists_first_split hm
    have hb : ∀ x ∈ b, x < codeLimit := fun x hx => hxs x (by simp [hx])
    have hdb : ∀ x ∈ doubleAll q b, x < codeLimit := fun x hx => by
      rcases mem_doubleAll hx with rfl | hx
      · exact isInert.lt hi
      · exact hb x hx
    have hq' : ∀ x ∈ q :: doubleAll q b, x < codeLimit := fun x hx => by
      rcases List.mem_cons.1 hx with rfl | hx
      · exact isInert.lt hi
      · exact hdb x hx
    have hinner : nfcCodes (q :: doubleAll q b) = q :: nfcCodes (doubleAll q b) := by
      simpa [nfcCodes_nil] using nfcCodes_split (isInert.decompose hi) hi hdb []
    rw [doubleAll_append, doubleAll_cons_self, doubleAll_of_not_mem ha,
      nfcCodes_split (isInert.decompose hi) hi hq' a, hinner, nfcCodes_doubleAll hq b hb,
      nfcCodes_split (isInert.decompose hi) hi hb a, doubleAll_append, doubleAll_cons_self,
      doubleAll_of_not_mem (quote_not_mem_nfcCodes hq ha)]
  · rw [doubleAll_of_not_mem hm, doubleAll_of_not_mem (quote_not_mem_nfcCodes hq hm)]
termination_by xs.length
decreasing_by
  subst_vars
  simp only [List.length_append, List.length_cons]
  omega

/-! ### Characters -/

theorem nfcChars_split {c : Char} {y : Nat} (hd : decompose c.toNat = [y]) (hy : isInert y = true)
    (xs ys : List Char) : nfcChars (xs ++ c :: ys) = nfcChars xs ++ Char.ofNat y :: nfcChars ys := by
  simp only [nfcChars, List.map_append, List.map_cons]
  rw [nfcCodes_split hd hy (fun z hz => by
    obtain ⟨d, -, rfl⟩ := List.mem_map.1 hz
    exact Char.toNat_lt_codeLimit d)]
  simp

/-- A blank cuts the normal form, and stays a blank in it. -/
theorem nfcChars_split_blank {b : Char} (hb : isBlank b = true) (xs ys : List Char) :
    ∃ b', isBlank b' = true ∧ nfcChars (xs ++ b :: ys) = nfcChars xs ++ b' :: nfcChars ys := by
  have h := List.all_eq_true.1 blank_decompose _ (toNat_mem_blankCodes hb)
  split at h
  · rename_i y hd
    simp only [Bool.and_eq_true, List.contains_iff_mem, beq_iff_eq] at h
    obtain ⟨⟨hy, hc⟩, hdy⟩ := h
    exact ⟨Char.ofNat y, isBlank_ofNat_of_mem y hy, nfcChars_split hd (isInert_blank hy hc hdy) xs ys⟩
  · cases h

theorem nfcChars_split_quote {q : Char} (hq : q = '\'' ∨ q = '"') (xs ys : List Char) :
    nfcChars (xs ++ q :: ys) = nfcChars xs ++ q :: nfcChars ys := by
  have hi : isInert q.toNat = true := by
    rcases hq with rfl | rfl
    · exact quotes_inert.2
    · exact quotes_inert.1
  simpa using nfcChars_split (isInert.decompose hi) hi xs ys

/-- A text of ASCII characters is its own normal form. -/
theorem nfcChars_ascii {cs : List Char} (h : ∀ c ∈ cs, c.toNat < 0x80) : nfcChars cs = cs := by
  unfold nfcChars
  rw [nfcCodes_ascii (fun x hx => by
    obtain ⟨c, hc, rfl⟩ := List.mem_map.1 hx
    exact h c hc)]
  simp [Function.comp_def]

/-- A text of ASCII characters is its own normal form. -/
theorem nfc_ascii {s : String} (h : ∀ c ∈ s.toList, c.toNat < 0x80) : nfc s = s :=
  String.toList_injective (by rw [nfc_toList, nfcChars_ascii h])

/-- Doubling the quotes of a normal text gives a normal text. -/
theorem nfcChars_doubleAll {q : Char} (hq : q = '\'' ∨ q = '"') {cs : List Char}
    (h : nfcChars cs = cs) : nfcChars (doubleAll q cs) = doubleAll q cs := by
  have hQ : q.toNat = 0x22 ∨ q.toNat = 0x27 := by
    rcases hq with rfl | rfl
    · exact .inr rfl
    · exact .inl rfl
  have hto : ∀ c : Char, c.toNat = q.toNat ↔ c = q := fun _ => Char.toNat_inj
  have hof : ∀ y : Nat, Char.ofNat y = Char.ofNat q.toNat ↔ y = q.toNat := by
    intro y
    rw [Char.ofNat_toNat]
    constructor
    · intro e
      rcases Char.eq_of_ofNat e with h | h
      · exact h
      · rcases hq with rfl | rfl <;> cases h
    · rintro rfl
      exact Char.ofNat_toNat q
  unfold nfcChars at h ⊢
  rw [map_doubleAll hto, nfcCodes_doubleAll hQ _ (fun x hx => by
      obtain ⟨c, -, rfl⟩ := List.mem_map.1 hx
      exact Char.toNat_lt_codeLimit c),
    map_doubleAll hof, Char.ofNat_toNat, h]

end SqlSearch.Text.Normal
