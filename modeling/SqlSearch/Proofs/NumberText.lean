import Mathlib.Data.List.TakeWhile
import SqlSearch.Text.Blank
import SqlSearch.Json.Reader
import SqlSearch.Decimal.Format
/-! The characters numbers are written with. A JSON number literal is read in four stages (a
sign, an integer part, a fraction and an exponent), and what it keeps is never empty and made
of digits, signs, a point and an exponent mark (`readNumber_chars`); the number at the start of
a text is such a literal (`parseFirst?_num`). A double written positionally is digits, a point
and a sign, or one of `NaN`, `+Inf` and `-Inf` (`plain_text_chars`), and an integer is digits
after an optional minus sign (`toString_int_chars`). -/
namespace SqlSearch

namespace Json

/-- Characters of a JSON number literal: digits, signs, a point and an exponent mark. -/
def isLiteralChar (c : Char) : Bool := c.isDigit || c ∈ ['-', '+', '.', 'e', 'E']

/-! ### The stages of a literal -/

theorem spanDigits_chars (cs : List Char) : ∀ c ∈ (spanDigits cs).1, isLiteralChar c :=
  fun _ hc => by simp [isLiteralChar, List.mem_takeWhile_imp hc]

theorem readSign_chars (cs : List Char) : ∀ c ∈ (readSign cs).1, isLiteralChar c := by
  unfold readSign
  split <;> simp [isLiteralChar]

theorem readExponentSign_chars (cs : List Char) :
    ∀ c ∈ (readExponentSign cs).1, isLiteralChar c := by
  unfold readExponentSign
  split <;> simp [isLiteralChar]

/-- The integer part is a lone `0` or a run of digits that starts with `1` to `9`. -/
theorem readIntPart_chars {cs ip r : List Char} (h : readIntPart cs = some (ip, r)) :
    ip ≠ [] ∧ ∀ c ∈ ip, isLiteralChar c := by
  unfold readIntPart at h
  split at h
  · cases h
    simp [isLiteralChar]
  · rename_i c r _
    split at h
    · rename_i hc
      cases h
      have hd : c.isDigit = true := by
        simp [Char.isDigit, Char.le_def, UInt32.le_iff_toNat_le] at hc ⊢
        omega
      exact ⟨by simp [List.takeWhile_cons_of_pos hd], spanDigits_chars (c :: r)⟩
    · cases h
  · cases h

theorem readFraction_chars {cs fp r : List Char} (h : readFraction cs = some (fp, r)) :
    ∀ c ∈ fp, isLiteralChar c := by
  unfold readFraction at h
  split at h
  · simp only [Option.ite_none_left_eq_some, Option.some.injEq, Prod.mk.injEq] at h
    obtain ⟨-, rfl, -⟩ := h
    rintro c (_ | ⟨_, hc⟩)
    · rfl
    · exact spanDigits_chars _ c hc
  · cases h
    simp

theorem readExponent_chars {cs ep r : List Char} (h : readExponent cs = some (ep, r)) :
    ∀ c ∈ ep, isLiteralChar c := by
  unfold readExponent at h
  split at h
  · rename_i e r
    split at h
    · rename_i he
      simp only [Option.ite_none_left_eq_some, Option.some.injEq, Prod.mk.injEq] at h
      obtain ⟨-, rfl, -⟩ := h
      intro c hc
      simp only [List.cons_append, List.mem_cons, List.mem_append] at hc
      rcases hc with rfl | hc | hc
      · rcases he with rfl | rfl <;> rfl
      · exact readExponentSign_chars r c hc
      · exact spanDigits_chars _ c hc
    · cases h
      simp
  · cases h
    simp

/-- A literal is never empty and is made of digits, signs, a point and an exponent mark. -/
theorem readNumber_chars {cs l r : List Char} (h : readNumber cs = some (l, r)) :
    l ≠ [] ∧ ∀ c ∈ l, isLiteralChar c := by
  simp only [readNumber, Option.bind_eq_some_iff, Option.map_eq_some_iff, Prod.mk.injEq] at h
  obtain ⟨⟨ip, c₁⟩, h₁, ⟨fp, c₂⟩, h₂, ⟨ep, r'⟩, h₃, rfl, -⟩ := h
  obtain ⟨hne, hip⟩ := readIntPart_chars h₁
  refine ⟨by simp [hne], ?_⟩
  intro c hc
  simp only [List.mem_append] at hc
  rcases hc with ((hc | hc) | hc) | hc
  · exact readSign_chars cs c hc
  · exact hip c hc
  · exact readFraction_chars h₂ c hc
  · exact readExponent_chars h₃ c hc

/-! ### Numbers among values -/

theorem readMembers_obj {fuel : Nat} {acc : List (String × Json)} {first : Bool}
    {cs r : List Char} {v : Json} (h : readMembers fuel acc first cs = some (v, r)) :
    ∃ ms, v = .obj ms := by
  induction fuel generalizing acc first cs with
  | zero => simp [readMembers] at h
  | succ fuel ih =>
    unfold readMembers at h
    -- every way out is an object, a failure, or the next member
    repeat' split at h
    all_goals first | exact ih h | (cases h; exact ⟨_, rfl⟩) | cases h

theorem readItems_arr {fuel : Nat} {acc : List Json} {first : Bool}
    {cs r : List Char} {v : Json} (h : readItems fuel acc first cs = some (v, r)) :
    ∃ xs, v = .arr xs := by
  induction fuel generalizing acc first cs with
  | zero => simp [readItems] at h
  | succ fuel ih =>
    unfold readItems at h
    repeat' split at h
    all_goals first | exact ih h | (cases h; exact ⟨_, rfl⟩) | cases h

/-- A number read as a value is the literal at the start of the text, after the blanks. -/
theorem readValue_num {fuel : Nat} {cs r : List Char} {lit : String}
    (h : readValue fuel cs = some (.num lit, r)) :
    readNumber (skipSpace cs) = some (lit.toList, r) := by
  cases fuel with
  | zero => simp [readValue] at h
  | succ fuel =>
    unfold readValue at h
    split at h
    · obtain ⟨_, h⟩ := readMembers_obj h
      cases h
    · obtain ⟨_, h⟩ := readItems_arr h
      cases h
    · simp at h
    · cases h
    · cases h
    · cases h
    · simp only [Option.map_eq_some_iff, Prod.exists] at h
      obtain ⟨l, r', hn, he⟩ := h
      simp only [Prod.mk.injEq, Json.num.injEq] at he
      obtain ⟨rfl, rfl⟩ := he
      rw [hn, String.toList_ofList]

theorem parseFirst?_num {s lit : String} (h : parseFirst? s = some (.num lit)) :
    ∃ r, readNumber (skipSpace s.toList) = some (lit.toList, r) := by
  simp only [parseFirst?, readPrefix, Option.map_eq_some_iff, Prod.exists, exists_and_right,
    exists_eq_right] at h
  obtain ⟨r, h⟩ := h
  exact ⟨r, readValue_num h⟩

end Json

namespace Decimal

/-! ### Doubles and integers -/

theorem shortest_digits (m : Nat) (e : Int) : ∀ c ∈ (shortest m e).1, c.isDigit := by
  unfold shortest
  split
  · simp
  · intro c hc
    exact Nat.isDigit_of_mem_toDigits (by decide) (by decide) hc

/-- A value written positionally has the digits, zeros and a point. -/
theorem positional_mem {ds : List Char} {point : Int} {c : Char}
    (hc : c ∈ (positional ds point).toList) : c ∈ ds ∨ c = '0' ∨ c = '.' := by
  simp only [positional, String.toList_ofList, List.mem_append] at hc
  rcases hc with hc | hc
  · -- the whole part: digits taken from `ds`, or zeros
    split at hc
    · rcases List.mem_append.1 hc with hc | hc
      · exact .inl (List.mem_of_mem_take hc)
      · exact .inr (.inl (List.eq_of_mem_replicate hc))
    · exact .inr (.inl (List.mem_singleton.1 hc))
  · -- the fraction after the point: digits dropped from `ds`, or zeros and then `ds`
    by_cases hp : point ≥ 0
    · simp only [if_pos hp] at hc
      split at hc
      · simp at hc
      · rcases List.mem_cons.1 hc with rfl | hc
        · exact .inr (.inr rfl)
        · exact .inl (List.mem_of_mem_drop hc)
    · simp only [if_neg hp] at hc
      split at hc
      · simp at hc
      · rcases List.mem_cons.1 hc with rfl | hc
        · exact .inr (.inr rfl)
        · rcases List.mem_append.1 hc with hc | hc
          · exact .inr (.inl (List.eq_of_mem_replicate hc))
          · exact .inl hc

/-- The whole part of a value written positionally is never empty. -/
theorem positional_ne_nil (ds : List Char) (point : Int) : (positional ds point).toList ≠ [] := by
  simp only [positional, String.toList_ofList]
  split
  · intro h
    have := congrArg List.length (List.append_eq_nil_iff.1 h).1
    simp only [List.length_append, List.length_take, List.length_replicate, List.length_nil] at this
    omega
  · simp

/-- The plain style writes every exponent positionally. -/
theorem plain_write (neg : Bool) (ds : List Char) (point : Int) :
    Style.plain.write neg ds point =
      if neg then "-" ++ positional ds point else positional ds point := by
  simp [Style.write, Style.isPositional, Style.plain]

/-- A double in the plain style is never empty, and is digits, a point and a minus sign, or
one of `NaN`, `+Inf` and `-Inf`. -/
theorem plain_text_chars (x : Float) :
    (Style.plain.text x).toList ≠ [] ∧
      ∀ c ∈ (Style.plain.text x).toList,
        c.isDigit ∨ c ∈ ['.', '-', '+', 'N', 'a', 'I', 'n', 'f'] := by
  unfold Style.text
  split
  · rename_i neg m e _
    have hds := shortest_digits m e
    rcases hs : shortest m e with ⟨ds, point⟩
    rw [hs] at hds
    dsimp only
    rw [plain_write]
    have hpos : ∀ c ∈ (positional ds point).toList,
        c.isDigit ∨ c ∈ ['.', '-', '+', 'N', 'a', 'I', 'n', 'f'] := by
      intro c hc
      rcases positional_mem hc with hc | rfl | rfl
      · exact .inl (hds c hc)
      · exact .inl rfl
      · exact .inr (by simp)
    split
    · refine ⟨by simp, ?_⟩
      intro c hc
      rcases List.mem_cons.1 (by simpa using hc) with rfl | hc
      · exact .inr (by simp)
      · exact hpos c hc
    · exact ⟨positional_ne_nil ds point, hpos⟩
  · decide
  · split <;> decide

end Decimal

/-- An integer is written as digits after an optional minus sign. -/
theorem toString_int_chars (n : Int) :
    (toString n).toList ≠ [] ∧ ∀ c ∈ (toString n).toList, c.isDigit ∨ c = '-' := by
  have hdig : ∀ m : Nat, ∀ c ∈ Nat.toDigits 10 m, c.isDigit :=
    fun _ _ hc => Nat.isDigit_of_mem_toDigits (by decide) (by decide) hc
  cases n with
  | ofNat m =>
    simp only [toString, Int.repr, Nat.toList_repr]
    exact ⟨Nat.toDigits_ne_nil, fun c hc => .inl (hdig m c hc)⟩
  | negSucc m =>
    simp only [toString, Int.repr, Nat.toList_repr, String.toList_append]
    refine ⟨by simp, fun c hc => ?_⟩
    rcases List.mem_append.1 hc with hc | hc
    · exact .inr (by simpa using hc)
    · exact .inl (hdig _ c hc)

end SqlSearch
