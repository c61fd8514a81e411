import Mathlib.Data.List.Forall2
import SqlSearch.Proofs.JsonTokens
/-! What the JSON value reader reads. One step of `readValue`, `readMembers` and `readItems` is
said once, by equations for each way a step goes on (`readValue_obj`, `readMembers_next`, ...)
and by an inversion lemma for each reader. From these, by induction on the fuel:

* a reading takes at least one character, and the fuel it needs is at most the number of
  characters it takes (`fuelAt`), so any fuel that large reads the same value;
* a reading looks at nothing past what it takes (`localAt`).

So the characters a value was read from read back, alone, as that value
(`parse?_of_readValue`), and the members of an object text are split into their keys and the
exact source text of their values, in order (`rawMembersFrom_of_readMembers`). -/
namespace SqlSearch.Json

/-! ### Blanks -/

theorem skipSpace_suffix (cs : List Char) : skipSpace cs <:+ cs := List.dropWhile_suffix _

@[simp] theorem skipSpace_skipSpace (cs : List Char) : skipSpace (skipSpace cs) = skipSpace cs := by
  induction cs with
  | nil => rfl
  | cons c cs ih =>
    by_cases hc : isSpace c
    · simpa [skipSpace, List.dropWhile_cons_of_pos hc] using ih
    · simp [skipSpace, List.dropWhile_cons_of_neg hc]

/-- Blanks at the start of a text followed by more characters, where what is left is at least as
long as those, are blanks of the text itself. -/
theorem skipSpace_append_cons {x q rest : List Char} {c : Char} (h : skipSpace (x ++ q) = c :: rest)
    (hq : q.length ≤ rest.length) : ∃ x', skipSpace x = c :: x' ∧ rest = x' ++ q := by
  rw [skipSpace, List.dropWhile_append] at h
  split at h
  · have hle := (skipSpace_suffix q).length_le
    rw [skipSpace, h, List.length_cons] at hle
    omega
  · rename_i hne
    cases hx : x.dropWhile isSpace with
    | nil => simp [hx] at hne
    | cons d x' =>
      rw [hx, List.cons_append, List.cons.injEq] at h
      obtain ⟨rfl, rfl⟩ := h
      exact ⟨x', hx, rfl⟩

/-! ### Where a number starts -/

/-- A number starts with a minus sign or a digit. -/
theorem readNumber_head {cs l r : List Char} (h : readNumber cs = some (l, r)) :
    ∃ c t, cs = c :: t ∧ (c = '-' ∨ c.isDigit = true) := by
  rcases cs with _ | ⟨c, t⟩
  · cases h
  by_cases hm : c = '-'
  · exact ⟨c, t, rfl, .inl hm⟩
  refine ⟨c, t, rfl, .inr ?_⟩
  simp only [readNumber_eq, readSign_of_ne hm, Option.bind_some] at h
  obtain ⟨⟨ip, c₂⟩, hip, -⟩ := Option.bind_eq_some_iff.1 h
  by_cases hz : c = '0'
  · subst hz; decide
  rw [readIntPart_of_ne hz] at hip
  split at hip
  · exact isDigit_of_nonzero ‹_›
  · cases hip

/-- A number takes at least one character. -/
theorem readNumber_shorter {cs l r : List Char} (h : readNumber cs = some (l, r)) :
    r.length < cs.length := by
  obtain ⟨c, t, rfl, -⟩ := readNumber_head h
  have hs := readNumber_consumes h
  refine Nat.lt_of_le_of_ne hs.length_le fun hlen => ?_
  -- a number that took nothing would be read from the empty text
  have heq := hs.eq_of_length hlen
  rw [← heq, ← List.nil_append r] at h
  have := readNumber_local (x := []) (q := r) (y := []) h
  cases this

theorem skipSpace_cons_suffix {cs t : List Char} {c : Char} (h : skipSpace cs = c :: t) :
    t <:+ cs ∧ t.length < cs.length := by
  have hs := skipSpace_suffix cs
  rw [h] at hs
  have hlen := hs.length_le
  rw [List.length_cons] at hlen
  exact ⟨(List.suffix_cons c t).trans hs, by omega⟩

/-! ### One step of each reader -/

/-- The words `true`, `false` and `null`, and the values they stand for. -/
def literalWords : List (List Char × Json) :=
  [(['t', 'r', 'u', 'e'], .bool true), (['f', 'a', 'l', 's', 'e'], .bool false),
    (['n', 'u', 'l', 'l'], .null)]

theorem mem_literalWords {w : List Char} {v : Json} : (w, v) ∈ literalWords ↔
    w = ['t', 'r', 'u', 'e'] ∧ v = .bool true ∨ w = ['f', 'a', 'l', 's', 'e'] ∧ v = .bool false ∨
      w = ['n', 'u', 'l', 'l'] ∧ v = .null := by
  simp only [literalWords, List.mem_cons, Prod.mk.injEq, List.not_mem_nil, or_false]

theorem literalWords_ne_nil {w : List Char} {v : Json} (h : (w, v) ∈ literalWords) : w ≠ [] := by
  rcases mem_literalWords.1 h with ⟨rfl, -⟩ | ⟨rfl, -⟩ | ⟨rfl, -⟩ <;> simp

/-- A key of an object and its colon at the start of `cs`; the value starts at `after`. -/
inductive KeyAt : List Char → String → List Char → Prop
  | mk {cs rest r after : List Char} {key : String} : skipSpace cs = '"' :: rest →
      readString rest = some (key, r) → skipSpace r = ':' :: after → KeyAt cs key after

section Steps

variable {f : Nat} {cs rest r : List Char} {v : Json}

theorem readValue_obj (h : skipSpace cs = '{' :: rest) : readValue (f + 1) cs = readMembers f [] true rest := by
  simp [readValue, h]

theorem readValue_arr (h : skipSpace cs = '[' :: rest) : readValue (f + 1) cs = readItems f [] true rest := by
  simp [readValue, h]

theorem readValue_str (h : skipSpace cs = '"' :: rest) :
    readValue (f + 1) cs = (readString rest).map fun p => (.str p.1, p.2) := by
  simp [readValue, h]

theorem readValue_literal {w : List Char} (hw : (w, v) ∈ literalWords) (h : skipSpace cs = w ++ r) :
    readValue (f + 1) cs = some (v, r) := by
  rcases mem_literalWords.1 hw with ⟨rfl, rfl⟩ | ⟨rfl, rfl⟩ | ⟨rfl, rfl⟩ <;> simp [readValue, h]

theorem readValue_of_readNumber {lit : List Char} (h : readNumber (skipSpace cs) = some (lit, r)) :
    readValue (f + 1) cs = some (.num (String.ofList lit), r) := by
  obtain ⟨c, t, hct, hc⟩ := readNumber_head h
  have hnot : c ≠ '{' ∧ c ≠ '[' ∧ c ≠ '"' ∧ c ≠ 't' ∧ c ≠ 'f' ∧ c ≠ 'n' := by
    rcases hc with rfl | hd
    · decide
    · refine ⟨?_, ?_, ?_, ?_, ?_, ?_⟩ <;> (rintro rfl; revert hd; decide)
  simp only [readValue, hct]
  split <;> simp_all

/-- Every way one step of reading a value can succeed. -/
theorem readValue_succ_cases (h : readValue (f + 1) cs = some (v, r)) :
    (∃ rest, skipSpace cs = '{' :: rest ∧ readMembers f [] true rest = some (v, r)) ∨
    (∃ rest, skipSpace cs = '[' :: rest ∧ readItems f [] true rest = some (v, r)) ∨
    (∃ rest s, skipSpace cs = '"' :: rest ∧ readString rest = some (s, r) ∧ v = .str s) ∨
    (∃ w, (w, v) ∈ literalWords ∧ skipSpace cs = w ++ r) ∨
    (∃ lit, readNumber (skipSpace cs) = some (lit, r) ∧ v = .num (String.ofList lit)) := by
  simp only [readValue] at h
  split at h
  · exact .inl ⟨_, ‹_›, h⟩
  · exact .inr (.inl ⟨_, ‹_›, h⟩)
  · obtain ⟨⟨s, r'⟩, hs, he⟩ := Option.map_eq_some_iff.1 h
    obtain ⟨rfl, rfl⟩ := Prod.mk.inj he
    exact .inr (.inr (.inl ⟨_, s, ‹_›, hs, rfl⟩))
  · obtain ⟨rfl, rfl⟩ := Prod.mk.inj (Option.some.inj h)
    exact .inr (.inr (.inr (.inl ⟨['t', 'r', 'u', 'e'], by simp [literalWords], by simpa using ‹_›⟩)))
  · obtain ⟨rfl, rfl⟩ := Prod.mk.inj (Option.some.inj h)
    exact .inr (.inr (.inr (.inl ⟨['f', 'a', 'l', 's', 'e'], by simp [literalWords], by simpa using ‹_›⟩)))
  · obtain ⟨rfl, rfl⟩ := Prod.mk.inj (Option.some.inj h)
    exact .inr (.inr (.inr (.inl ⟨['n', 'u', 'l', 'l'], by simp [literalWords], by simpa using ‹_›⟩)))
  · obtain ⟨⟨lit, r'⟩, hn, he⟩ := Option.map_eq_some_iff.1 h
    obtain ⟨rfl, rfl⟩ := Prod.mk.inj he
    exact .inr (.inr (.inr (.inr ⟨lit, hn, rfl⟩)))

/-- A value never starts with a closing bracket. -/
theorem readValue_not_close (h : readValue f cs = some (v, r)) (t : List Char) :
    skipSpace cs ≠ ']' :: t := by
  intro hct
  cases f with
  | zero => cases h
  | succ f =>
    rcases readValue_succ_cases h with ⟨_, hsk, -⟩ | ⟨_, hsk, -⟩ | ⟨_, _, hsk, -⟩ | ⟨w, hw, hsk⟩ |
      ⟨lit, hn, -⟩
    · rw [hct] at hsk; cases hsk
    · rw [hct] at hsk; cases hsk
    · rw [hct] at hsk; cases hsk
    · rcases mem_literalWords.1 hw with ⟨rfl, -⟩ | ⟨rfl, -⟩ | ⟨rfl, -⟩ <;> (rw [hct] at hsk; cases hsk)
    · obtain ⟨c, t', hc, hd⟩ := readNumber_head hn
      rw [hct, List.cons.injEq] at hc
      obtain ⟨rfl, -⟩ := hc
      revert hd; decide

section Members

variable {acc : List (String × Json)} {first : Bool} {key : String} {w : Json} {r₂ r₃ r₄ : List Char}

theorem readMembers_close (h : skipSpace cs = '}' :: rest) :
    readMembers (f + 1) acc true cs = some (.obj [], rest) := by
  simp [readMembers, h]

theorem readMembers_next (hk : KeyAt cs key r₂) (hv : readValue f r₂ = some (v, r₃))
    (hs : skipSpace r₃ = ',' :: r₄) :
    readMembers (f + 1) acc first cs = readMembers f ((key, v) :: acc) false r₄ := by
  obtain ⟨hsk, hstr, hcolon⟩ := hk
  simp [readMembers, hsk, hstr, hcolon, hv, hs]

theorem readMembers_last (hk : KeyAt cs key r₂) (hv : readValue f r₂ = some (v, r₃))
    (hs : skipSpace r₃ = '}' :: r₄) :
    readMembers (f + 1) acc first cs = some (.obj ((key, v) :: acc).reverse, r₄) := by
  obtain ⟨hsk, hstr, hcolon⟩ := hk
  simp [readMembers, hsk, hstr, hcolon, hv, hs]

/-- Every way one step of reading members can succeed: the closing brace of an empty object, or
a member followed by a comma and more members, or by the closing brace. -/
theorem readMembers_succ_cases (h : readMembers (f + 1) acc first cs = some (w, r)) :
    (∃ rest, skipSpace cs = '}' :: rest ∧ first = true ∧ w = .obj [] ∧ r = rest) ∨
    ∃ key r₂ v r₃, KeyAt cs key r₂ ∧ readValue f r₂ = some (v, r₃) ∧
      ((∃ r₄, skipSpace r₃ = ',' :: r₄ ∧ readMembers f ((key, v) :: acc) false r₄ = some (w, r)) ∨
        (skipSpace r₃ = '}' :: r ∧ w = .obj ((key, v) :: acc).reverse)) := by
  simp only [readMembers] at h
  split at h
  · rename_i rest hsk
    cases first
    · cases h
    · obtain ⟨rfl, rfl⟩ := Prod.mk.inj (Option.some.inj h)
      exact .inl ⟨rest, hsk, rfl, rfl, rfl⟩
  · rename_i rest hsk
    repeat' split at h
    · rename_i _ key r₁ hstr _ r₂ hcolon _ v r₃ hv _ r₄ hs
      exact .inr ⟨key, r₂, v, r₃, ⟨hsk, hstr, hcolon⟩, hv, .inl ⟨r₄, hs, h⟩⟩
    · rename_i _ key r₁ hstr _ r₂ hcolon _ v r₃ hv _ r₄ hs
      obtain ⟨rfl, rfl⟩ := Prod.mk.inj (Option.some.inj h)
      exact .inr ⟨key, r₂, v, r₃, ⟨hsk, hstr, hcolon⟩, hv, .inr ⟨hs, rfl⟩⟩
    all_goals cases h
  · cases h

end Members

section Items

variable {acc : List Json} {first : Bool} {w : Json} {r₁ r₂ : List Char}

theorem readItems_close (h : skipSpace cs = ']' :: rest) :
    readItems (f + 1) acc true cs = some (.arr [], rest) := by
  simp [readItems, h]

theorem readItems_next (hv : readValue f (skipSpace cs) = some (v, r₁)) (hs : skipSpace r₁ = ',' :: r₂) :
    readItems (f + 1) acc first cs = readItems f (v :: acc) false r₂ := by
  have hne := readValue_not_close hv
  simp only [skipSpace_skipSpace] at hne
  simp only [readItems]
  split
  · exact absurd ‹_› (hne _)
  · simp [hv, hs]

theorem readItems_last (hv : readValue f (skipSpace cs) = some (v, r₁)) (hs : skipSpace r₁ = ']' :: r₂) :
    readItems (f + 1) acc first cs = some (.arr (v :: acc).reverse, r₂) := by
  have hne := readValue_not_close hv
  simp only [skipSpace_skipSpace] at hne
  simp only [readItems]
  split
  · exact absurd ‹_› (hne _)
  · simp [hv, hs]

/-- Every way one step of reading items can succeed: the closing bracket of an empty array, or
an item followed by a comma and more items, or by the closing bracket. -/
theorem readItems_succ_cases (h : readItems (f + 1) acc first cs = some (w, r)) :
    (∃ rest, skipSpace cs = ']' :: rest ∧ first = true ∧ w = .arr [] ∧ r = rest) ∨
    ∃ v r₁, readValue f (skipSpace cs) = some (v, r₁) ∧
      ((∃ r₂, skipSpace r₁ = ',' :: r₂ ∧ readItems f (v :: acc) false r₂ = some (w, r)) ∨
        (skipSpace r₁ = ']' :: r ∧ w = .arr (v :: acc).reverse)) := by
  simp only [readItems] at h
  split at h
  · rename_i rest hsk
    obtain ⟨rfl, rfl⟩ := Prod.mk.inj (Option.some.inj h)
    exact .inl ⟨rest, hsk, rfl, rfl, rfl⟩
  · repeat' split at h
    · rename_i _ v r₁ hv _ r₂ hs
      exact .inr ⟨v, r₁, hv, .inl ⟨r₂, hs, h⟩⟩
    · rename_i _ v r₁ hv _ r₂ hs
      obtain ⟨rfl, rfl⟩ := Prod.mk.inj (Option.some.inj h)
      exact .inr ⟨v, r₁, hv, .inr ⟨hs, rfl⟩⟩
    all_goals cases h

end Items

end Steps

theorem KeyAt.suffix {cs after : List Char} {key : String} (h : KeyAt cs key after) :
    after <:+ cs ∧ after.length < cs.length := by
  obtain ⟨hsk, hstr, hcolon⟩ := h
  obtain ⟨h₁, l₁⟩ := skipSpace_cons_suffix hsk
  obtain ⟨h₂, l₂⟩ := readString_suffix hstr
  obtain ⟨h₃, l₃⟩ := skipSpace_cons_suffix hcolon
  exact ⟨h₃.trans (h₂.trans h₁), by omega⟩

/-! ### Fuel -/

/-- A reading with fuel `f` takes at least one character, and any fuel at least the number of
characters it takes reads the same. -/
def FuelBound {α : Type} (read : Nat → List Char → Option (α × List Char)) (f : Nat) : Prop :=
  ∀ {cs : List Char} {a : α} {r : List Char}, read f cs = some (a, r) →
    r <:+ cs ∧ r.length < cs.length ∧ ∀ g, cs.length - r.length ≤ g → read g cs = some (a, r)

/-- The fuel bound for the three readers at one fuel. -/
structure FuelAt (f : Nat) : Prop where
  value : FuelBound readValue f
  members : ∀ acc first, FuelBound (fun g => readMembers g acc first) f
  items : ∀ acc first, FuelBound (fun g => readItems g acc first) f

theorem fuelAt_zero : FuelAt 0 :=
  ⟨fun h => (nomatch h), fun _ _ _ _ _ h => by simp [readMembers] at h,
    fun _ _ _ _ _ h => by simp [readItems] at h⟩

/-- Fuel that covers what is taken is at least one. -/
theorem exists_succ_of_le {g n : Nat} (hn : 0 < n) (h : n ≤ g) : ∃ g', g = g' + 1 ∧ n - 1 ≤ g' :=
  ⟨g - 1, by omega, by omega⟩

theorem FuelAt.value_succ {f : Nat} (ih : FuelAt f) : FuelBound readValue (f + 1) := by
  intro cs v r h
  rcases readValue_succ_cases h with ⟨rest, hsk, hm⟩ | ⟨rest, hsk, hm⟩ | ⟨rest, s, hsk, hs, rfl⟩ |
    ⟨w, hw, hsk⟩ | ⟨lit, hn, rfl⟩
  · obtain ⟨hrest, lrest⟩ := skipSpace_cons_suffix hsk
    obtain ⟨hr, lr, hg⟩ := ih.members [] true hm
    refine ⟨hr.trans hrest, by omega, fun g hle => ?_⟩
    obtain ⟨g, rfl, hle⟩ := exists_succ_of_le (by omega) hle
    rw [readValue_obj hsk]
    exact hg g (by omega)
  · obtain ⟨hrest, lrest⟩ := skipSpace_cons_suffix hsk
    obtain ⟨hr, lr, hg⟩ := ih.items [] true hm
    refine ⟨hr.trans hrest, by omega, fun g hle => ?_⟩
    obtain ⟨g, rfl, hle⟩ := exists_succ_of_le (by omega) hle
    rw [readValue_arr hsk]
    exact hg g (by omega)
  · obtain ⟨hrest, lrest⟩ := skipSpace_cons_suffix hsk
    obtain ⟨hr, lr⟩ := readString_suffix hs
    refine ⟨hr.trans hrest, by omega, fun g hle => ?_⟩
    obtain ⟨g, rfl, -⟩ := exists_succ_of_le (by omega) hle
    rw [readValue_str hsk, hs]
    rfl
  · have hlen : r.length < (skipSpace cs).length := by
      rw [hsk, List.length_append]
      have := List.length_pos_iff.2 (literalWords_ne_nil hw)
      omega
    have hr : r <:+ cs := (List.suffix_append w r).trans (hsk ▸ skipSpace_suffix cs)
    have hskl := (skipSpace_suffix cs).length_le
    refine ⟨hr, by omega, fun g hle => ?_⟩
    obtain ⟨g, rfl, -⟩ := exists_succ_of_le (by omega) hle
    exact readValue_literal hw hsk
  · have hr := readNumber_consumes hn
    have hlen := readNumber_shorter hn
    have hskl := (skipSpace_suffix cs).length_le
    refine ⟨hr.trans (skipSpace_suffix cs), by omega, fun g hle => ?_⟩
    obtain ⟨g, rfl, -⟩ := exists_succ_of_le (by omega) hle
    exact readValue_of_readNumber hn

theorem FuelAt.members_succ {f : Nat} (ih : FuelAt f) (acc : List (String × Json)) (first : Bool) :
    FuelBound (fun g => readMembers g acc first) (f + 1) := by
  intro cs w r h
  dsimp only at h ⊢
  rcases readMembers_succ_cases h with ⟨rest, hsk, rfl, rfl, rfl⟩ |
    ⟨key, r₂, v, r₃, hk, hv, ⟨r₄, hs, hm⟩ | ⟨hs, rfl⟩⟩
  · obtain ⟨hrest, lrest⟩ := skipSpace_cons_suffix hsk
    refine ⟨hrest, lrest, fun g hle => ?_⟩
    obtain ⟨g, rfl, -⟩ := exists_succ_of_le (by omega) hle
    exact readMembers_close hsk
  · obtain ⟨h₂, l₂⟩ := hk.suffix
    obtain ⟨h₃, l₃, hg₃⟩ := ih.value hv
    obtain ⟨h₄, l₄⟩ := skipSpace_cons_suffix hs
    obtain ⟨hr, lr, hgr⟩ := ih.members _ _ hm
    refine ⟨hr.trans (h₄.trans (h₃.trans h₂)), by omega, fun g hle => ?_⟩
    obtain ⟨g, rfl, hle⟩ := exists_succ_of_le (by omega) hle
    rw [readMembers_next hk (hg₃ g (by omega)) hs]
    exact hgr g (by omega)
  · obtain ⟨h₂, l₂⟩ := hk.suffix
    obtain ⟨h₃, l₃, hg₃⟩ := ih.value hv
    obtain ⟨hr, lr⟩ := skipSpace_cons_suffix hs
    refine ⟨hr.trans (h₃.trans h₂), by omega, fun g hle => ?_⟩
    obtain ⟨g, rfl, hle⟩ := exists_succ_of_le (by omega) hle
    exact readMembers_last hk (hg₃ g (by omega)) hs

theorem FuelAt.items_succ {f : Nat} (ih : FuelAt f) (acc : List Json) (first : Bool) :
    FuelBound (fun g => readItems g acc first) (f + 1) := by
  intro cs w r h
  dsimp only at h ⊢
  have hsk := skipSpace_suffix cs
  rcases readItems_succ_cases h with ⟨rest, hclose, rfl, rfl, rfl⟩ |
    ⟨v, r₁, hv, ⟨r₂, hs, hm⟩ | ⟨hs, rfl⟩⟩
  · obtain ⟨hrest, lrest⟩ := skipSpace_cons_suffix hclose
    refine ⟨hrest, lrest, fun g hle => ?_⟩
    obtain ⟨g, rfl, -⟩ := exists_succ_of_le (by omega) hle
    exact readItems_close hclose
  · obtain ⟨h₁, l₁, hg₁⟩ := ih.value hv
    obtain ⟨h₂, l₂⟩ := skipSpace_cons_suffix hs
    obtain ⟨hr, lr, hgr⟩ := ih.items _ _ hm
    have hskl := hsk.length_le
    refine ⟨hr.trans (h₂.trans (h₁.trans hsk)), by omega, fun g hle => ?_⟩
    obtain ⟨g, rfl, hle⟩ := exists_succ_of_le (by omega) hle
    rw [readItems_next (hg₁ g (by omega)) hs]
    exact hgr g (by omega)
  · obtain ⟨h₁, l₁, hg₁⟩ := ih.value hv
    obtain ⟨hr, lr⟩ := skipSpace_cons_suffix hs
    have hskl := hsk.length_le
    refine ⟨hr.trans (h₁.trans hsk), by omega, fun g hle => ?_⟩
    obtain ⟨g, rfl, hle⟩ := exists_succ_of_le (by omega) hle
    exact readItems_last (hg₁ g (by omega)) hs

/-- At every fuel, a reading takes at least one character and needs no more fuel than the
characters it takes. -/
theorem fuelAt (f : Nat) : FuelAt f := by
  induction f with
  | zero => exact fuelAt_zero
  | succ f ih => exact ⟨ih.value_succ, ih.members_succ, ih.items_succ⟩

theorem readValue_consumes (f : Nat) : Consumes (readValue f) := fun h => ((fuelAt f).value h).1

theorem readMembers_consumes (f : Nat) (acc : List (String × Json)) (first : Bool) :
    Consumes (readMembers f acc first) := fun h => (((fuelAt f).members acc first) h).1

theorem readItems_consumes (f : Nat) (acc : List Json) (first : Bool) :
    Consumes (readItems f acc first) := fun h => (((fuelAt f).items acc first) h).1

theorem readString_consumes : Consumes readString := fun h => (readString_suffix h).1

theorem readValue_skipSpace (f : Nat) (cs : List Char) : readValue f (skipSpace cs) = readValue f cs := by
  cases f with
  | zero => rfl
  | succ f => simp only [readValue, skipSpace_skipSpace]

/-- What is left after a suffix, at least as long as the characters that follow a text, is at
least as long as those characters. -/
theorem length_le_of_suffix {y q m : List Char} (h : y ++ q <:+ m) : q.length ≤ m.length := by
  have := h.length_le
  rw [List.length_append] at this
  omega

/-! ### Locality -/

/-- A key and its colon read before more characters are read the same without them. -/
theorem KeyAt.local {x q after : List Char} {key : String} (h : KeyAt (x ++ q) key after)
    (hq : q.length ≤ after.length) : ∃ z, after = z ++ q ∧ KeyAt x key z := by
  obtain ⟨hsk, hstr, hcolon⟩ := h
  have l₃ := (skipSpace_cons_suffix hcolon).2
  have l₂ := (readString_suffix hstr).2
  obtain ⟨x', hx', rfl⟩ := skipSpace_append_cons hsk (by omega)
  obtain ⟨z₁, rfl, hstr'⟩ := readString_local.split readString_consumes hstr (by omega)
  obtain ⟨z, hz, rfl⟩ := skipSpace_append_cons hcolon hq
  exact ⟨z, rfl, ⟨hx', hstr', hz⟩⟩

/-- The three readers at one fuel look at nothing past what they take. -/
structure LocalAt (f : Nat) : Prop where
  value : Local (readValue f)
  members : ∀ acc first, Local (readMembers f acc first)
  items : ∀ acc first, Local (readItems f acc first)

theorem localAt_zero : LocalAt 0 :=
  ⟨fun h => (nomatch h), fun _ _ _ _ _ _ h => by simp [readMembers] at h,
    fun _ _ _ _ _ _ h => by simp [readItems] at h⟩

theorem LocalAt.value_succ {f : Nat} (ih : LocalAt f) : Local (readValue (f + 1)) := by
  intro x q v y h
  rcases readValue_succ_cases h with ⟨rest, hsk, hm⟩ | ⟨rest, hsk, hm⟩ | ⟨rest, s, hsk, hs, rfl⟩ |
    ⟨w, hw, hsk⟩ | ⟨lit, hn, rfl⟩
  · obtain ⟨x', hx', rfl⟩ := skipSpace_append_cons hsk (length_le_of_suffix (readMembers_consumes f _ _ hm))
    rw [readValue_obj hx']
    exact ih.members _ _ hm
  · obtain ⟨x', hx', rfl⟩ := skipSpace_append_cons hsk (length_le_of_suffix (readItems_consumes f _ _ hm))
    rw [readValue_arr hx']
    exact ih.items _ _ hm
  · obtain ⟨x', hx', rfl⟩ := skipSpace_append_cons hsk (length_le_of_suffix (readString_consumes hs))
    rw [readValue_str hx', readString_local hs]
    rfl
  · obtain ⟨c, w', rfl⟩ := List.exists_cons_of_ne_nil (literalWords_ne_nil hw)
    rw [List.cons_append] at hsk
    obtain ⟨x', hx', hrest⟩ := skipSpace_append_cons hsk (by simp; omega)
    rw [← List.append_assoc] at hrest
    rw [← List.append_cancel_right hrest] at hx'
    exact readValue_literal hw hx'
  · obtain ⟨c, t, hct, -⟩ := readNumber_head hn
    have hlen := readNumber_shorter hn
    rw [hct, List.length_append, List.length_cons] at hlen
    obtain ⟨x', hx', rfl⟩ := skipSpace_append_cons hct (by omega)
    rw [hct] at hn
    have hn' := readNumber_local (x := c :: x') (q := q) hn
    exact readValue_of_readNumber (hx' ▸ hn')

theorem LocalAt.members_succ {f : Nat} (ih : LocalAt f) (acc : List (String × Json)) (first : Bool) :
    Local (readMembers (f + 1) acc first) := by
  intro x q w y h
  rcases readMembers_succ_cases h with ⟨rest, hsk, rfl, rfl, hrest⟩ |
    ⟨key, r₂, v, r₃, hk, hv, ⟨r₄, hs, hm⟩ | ⟨hs, rfl⟩⟩
  · obtain ⟨x', hx', hrest'⟩ := skipSpace_append_cons hsk (by rw [← hrest]; simp)
    rw [← List.append_cancel_right (hrest.trans hrest')] at hx'
    exact readMembers_close hx'
  · -- every part read after the key ends before `q`
    have hq₄ := length_le_of_suffix (readMembers_consumes f _ _ hm)
    have l₄ := (skipSpace_cons_suffix hs).2
    have l₃ := ((fuelAt f).value hv).2.1
    obtain ⟨z₂, rfl, hk'⟩ := hk.local (by omega)
    obtain ⟨z₃, rfl, hv'⟩ := Local.split ih.value (readValue_consumes f) hv (by omega)
    obtain ⟨z₄, hz₄, rfl⟩ := skipSpace_append_cons hs hq₄
    rw [readMembers_next hk' hv' hz₄]
    exact ih.members _ _ hm
  · have l₃ := ((fuelAt f).value hv).2.1
    have l₄ := (skipSpace_cons_suffix hs).2
    rw [List.length_append] at l₄
    obtain ⟨z₂, rfl, hk'⟩ := hk.local (by omega)
    obtain ⟨z₃, rfl, hv'⟩ := Local.split ih.value (readValue_consumes f) hv (by omega)
    obtain ⟨z₄, hz₄, hy⟩ := skipSpace_append_cons hs (by simp)
    rw [← List.append_cancel_right hy] at hz₄
    exact readMembers_last hk' hv' hz₄

theorem LocalAt.items_succ {f : Nat} (ih : LocalAt f) (acc : List Json) (first : Bool) :
    Local (readItems (f + 1) acc first) := by
  intro x q w y h
  rcases readItems_succ_cases h with ⟨rest, hsk, rfl, rfl, hrest⟩ |
    ⟨v, r₁, hv, ⟨r₂, hs, hm⟩ | ⟨hs, rfl⟩⟩
  · obtain ⟨x', hx', hrest'⟩ := skipSpace_append_cons hsk (by rw [← hrest]; simp)
    rw [← List.append_cancel_right (hrest.trans hrest')] at hx'
    exact readItems_close hx'
  · rw [readValue_skipSpace] at hv
    have hq₂ := length_le_of_suffix (readItems_consumes f _ _ hm)
    have l₂ := (skipSpace_cons_suffix hs).2
    obtain ⟨z₁, rfl, hv'⟩ := Local.split ih.value (readValue_consumes f) hv (by omega)
    obtain ⟨z₂, hz₂, rfl⟩ := skipSpace_append_cons hs hq₂
    rw [← readValue_skipSpace] at hv'
    rw [readItems_next hv' hz₂]
    exact ih.items _ _ hm
  · rw [readValue_skipSpace] at hv
    have l₂ := (skipSpace_cons_suffix hs).2
    rw [List.length_append] at l₂
    obtain ⟨z₁, rfl, hv'⟩ := Local.split ih.value (readValue_consumes f) hv (by omega)
    obtain ⟨z₂, hz₂, hy⟩ := skipSpace_append_cons hs (by simp)
    rw [← List.append_cancel_right hy] at hz₂
    rw [← readValue_skipSpace] at hv'
    exact readItems_last hv' hz₂

/-- At every fuel, the readers look at nothing past what they take. -/
theorem localAt (f : Nat) : LocalAt f := by
  induction f with
  | zero => exact localAt_zero
  | succ f ih => exact ⟨ih.value_succ, ih.members_succ, ih.items_succ⟩

/-! ### Source texts of values -/

/-- The characters a value was read from read back, alone, as that value. -/
theorem parse?_of_readValue {f : Nat} {p r : List Char} {v : Json}
    (h : readValue f (p ++ r) = some (v, r)) : parse? (String.ofList p) = some v := by
  have halone : readValue f p = some (v, []) :=
    (localAt f).value (x := p) (q := r) (y := []) (by simpa using h)
  have hfuel := ((fuelAt f).value halone).2.2 (2 * p.length + 2) (by omega)
  simp [parse?, readPrefix, hfuel, skipSpace]

/-- The source text of a value read at the start of `cs` reads back as that value. -/
theorem rawPrefix_of_readValue {f : Nat} {cs r : List Char} {v : Json}
    (h : readValue f cs = some (v, r)) : ∃ raw, rawPrefix cs = some (raw, r) ∧ parse? raw = some v := by
  rw [← readValue_skipSpace] at h
  obtain ⟨hr, -, hg⟩ := (fuelAt f).value h
  have hfuel := hg (2 * (skipSpace cs).length + 2) (by omega)
  refine ⟨String.ofList ((skipSpace cs).take ((skipSpace cs).length - r.length)),
    by simp [rawPrefix, readPrefix, hfuel], ?_⟩
  rw [← List.suffix_iff_eq_append.1 hr] at h
  exact parse?_of_readValue h

section Raw

variable {g : Nat} {racc : List (String × String)} {cs t : List Char}

theorem rawMembersFrom_close (h : skipSpace cs = '}' :: t) :
    rawMembersFrom (g + 1) racc cs = some racc.reverse := by
  simp [rawMembersFrom, h]

theorem rawMembersFrom_comma (h : skipSpace cs = ',' :: t) :
    rawMembersFrom (g + 1) racc cs = rawMembersFrom g racc t := by
  simp [rawMembersFrom, h]

theorem rawMembersFrom_key {key : String} {after r : List Char} {raw : String} (hk : KeyAt cs key after)
    (hp : rawPrefix after = some (raw, r)) :
    rawMembersFrom (g + 1) racc cs = rawMembersFrom g ((key, raw) :: racc) r := by
  obtain ⟨hsk, hstr, hcolon⟩ := hk
  simp [rawMembersFrom, hsk, hstr, hcolon, hp]

end Raw

/-- A member's key and source text, against the key and value it was read as. -/
def RawMember (kr : String × String) (kv : String × Json) : Prop := kr.1 = kv.1 ∧ parse? kr.2 = some kv.2

/-- Where the members of an object are read, the splitter, given fuel for every character they
take, gives their keys in order, each with a source text that reads back as its value. -/
theorem rawMembersFrom_of_readMembers {f : Nat} {acc : List (String × Json)} {first : Bool}
    {cs r : List Char} {ms : List (String × Json)} (h : readMembers f acc first cs = some (.obj ms, r))
    (hfirst : first = true → acc = []) :
    ∃ ms', ms = acc.reverse ++ ms' ∧ ∀ g, cs.length - r.length ≤ g → ∀ racc, ∃ raws,
      rawMembersFrom g racc cs = some (racc.reverse ++ raws) ∧ List.Forall₂ RawMember raws ms' := by
  induction f generalizing acc first cs ms with
  | zero => simp [readMembers] at h
  | succ f ih =>
    obtain ⟨-, lr, -⟩ := (fuelAt (f + 1)).members acc first h
    rcases readMembers_succ_cases h with ⟨rest, hsk, rfl, hw, rfl⟩ |
      ⟨key, r₂, v, r₃, hk, hv, ⟨r₄, hs, hm⟩ | ⟨hs, hw⟩⟩
    · cases hw
      refine ⟨[], by simp [hfirst rfl], fun g hg racc => ⟨[], ?_, .nil⟩⟩
      obtain ⟨g, rfl, -⟩ := exists_succ_of_le (by omega) hg
      simp [rawMembersFrom_close hsk]
    · -- a member, a comma, and the members after them
      obtain ⟨ms'', hms, hrest⟩ := ih hm (by simp)
      obtain ⟨raw, hp, hraw⟩ := rawPrefix_of_readValue hv
      have l₂ := hk.suffix.2
      have l₃ := ((fuelAt f).value hv).2.1
      have l₄ := (skipSpace_cons_suffix hs).2
      refine ⟨(key, v) :: ms'', by simp [hms], fun g hg racc => ?_⟩
      have lr₄ := ((fuelAt f).members _ _ hm).2.1
      obtain ⟨g₁, rfl, hg₁⟩ := exists_succ_of_le (by omega) hg
      obtain ⟨g₂, rfl, hg₂⟩ := exists_succ_of_le (by omega) hg₁
      obtain ⟨raws, hraws, hall⟩ := hrest g₂ (by omega) ((key, raw) :: racc)
      refine ⟨(key, raw) :: raws, ?_, .cons ⟨rfl, hraw⟩ hall⟩
      rw [rawMembersFrom_key hk hp, rawMembersFrom_comma hs, hraws]
      simp
    · -- the last member, and the closing brace
      cases hw
      obtain ⟨raw, hp, hraw⟩ := rawPrefix_of_readValue hv
      refine ⟨[(key, v)], by simp, fun g hg racc => ⟨[(key, raw)], ?_, .cons ⟨rfl, hraw⟩ .nil⟩⟩
      have l₂ := hk.suffix.2
      have l₃ := ((fuelAt f).value hv).2.1
      have l₄ := (skipSpace_cons_suffix hs).2
      obtain ⟨g₁, rfl, hg₁⟩ := exists_succ_of_le (by omega) hg
      obtain ⟨g₂, rfl, -⟩ := exists_succ_of_le (by omega) hg₁
      rw [rawMembersFrom_key hk hp, rawMembersFrom_close hs]
      simp

/-- The value a whole text reads as is the value read first, with nothing but blanks after it. -/
theorem readValue_of_parse? {s : String} {v : Json} (h : parse? s = some v) :
    ∃ rest, readValue (2 * s.toList.length + 1 + 1) s.toList = some (v, rest) ∧ skipSpace rest = [] := by
  unfold parse? readPrefix at h
  split at h
  · rename_i v' rest hread
    split at h
    · cases h
      exact ⟨rest, hread, List.isEmpty_iff.1 ‹_›⟩
    · cases h
  · cases h

/-- An object text is split into its keys, in order and with repeated keys kept, each with a
source text that reads back as its value. -/
theorem rawMembers?_of_parse? {s : String} {ms : List (String × Json)} (h : parse? s = some (.obj ms)) :
    ∃ raws, rawMembers? s = some raws ∧ List.Forall₂ RawMember raws ms := by
  obtain ⟨rest, hread, -⟩ := readValue_of_parse? h
  rcases readValue_succ_cases hread with ⟨body, hsk, hm⟩ | ⟨_, _, hi⟩ | ⟨_, _, _, _, he⟩ |
    ⟨w, hw, -⟩ | ⟨_, _, he⟩
  · obtain ⟨ms', hms, hraw⟩ := rawMembersFrom_of_readMembers hm (fun _ => rfl)
    obtain ⟨raws, hraws, hall⟩ := hraw (body.length + 1) (by omega) []
    refine ⟨raws, ?_, by simpa [hms] using hall⟩
    simp [rawMembers?, h, hsk, hraws]
  · obtain ⟨_, he⟩ := readItems_arr hi
    cases he
  · cases he
  · simp [literalWords] at hw
  · cases he

end SqlSearch.Json
