import SqlSearch.Proofs.NumberText
/-! What the token readers of JSON read. Each takes a prefix of the characters it is given and
leaves the rest (`Consumes`), and looks at nothing past what it takes (`Local`): reading a text
followed by more characters gives what reading the text alone gives, followed by them. Readers
built by sequencing keep both properties (`Local.bind`), which gives them for numbers stage by
stage (`readNumber_local`). A string is read up to its closing quote, and an escape `\u` that
looks for the second half of a surrogate pair never looks past that quote
(`readStringBody_quote`), so strings are local too (`readString_local`). -/
namespace SqlSearch.Json

section Readers

variable {α β : Type}

/-- A reader looks at nothing past what it takes: reading a text followed by more characters
gives what reading the text alone gives, followed by them. -/
def Local (read : List Char → Option (α × List Char)) : Prop :=
  ∀ {x q : List Char} {a : α} {y : List Char}, read (x ++ q) = some (a, y ++ q) → read x = some (a, y)

/-- A reader leaves a suffix of what it reads from. -/
def Consumes (read : List Char → Option (α × List Char)) : Prop :=
  ∀ {cs : List Char} {a : α} {r : List Char}, read cs = some (a, r) → r <:+ cs

/-- A suffix of a text followed by more characters, at least as long as those, ends with them. -/
theorem exists_append_of_suffix {m x q : List Char} (hm : m <:+ x ++ q) (hq : q.length ≤ m.length) :
    ∃ z, m = z ++ q := by
  obtain ⟨pre, hpre⟩ := hm
  rcases List.append_eq_append_iff.1 hpre with ⟨a, -, rfl⟩ | ⟨c, -, rfl⟩
  · exact ⟨a, rfl⟩
  · have hc : c = [] := by
      rw [List.length_append] at hq
      exact List.eq_nil_of_length_eq_zero (by omega)
    exact ⟨[], by simp [hc]⟩

/-- What a local reader leaves after a text followed by more characters, when it keeps them all,
is what it leaves after the text, followed by them. -/
theorem Local.split {R : List Char → Option (α × List Char)} (hR : Local R) (hRc : Consumes R)
    {x q m : List Char} {a : α} (h : R (x ++ q) = some (a, m)) (hq : q.length ≤ m.length) :
    ∃ z, m = z ++ q ∧ R x = some (a, z) := by
  obtain ⟨z, rfl⟩ := exists_append_of_suffix (hRc h) hq
  exact ⟨z, rfl, hR h⟩

theorem Local.bind {R : List Char → Option (α × List Char)} {S : α → List Char → Option (β × List Char)}
    (hR : Local R) (hRc : Consumes R) (hS : ∀ a, Local (S a)) (hSc : ∀ a, Consumes (S a)) :
    Local fun cs => (R cs).bind fun p => S p.1 p.2 := by
  intro x q b y h
  obtain ⟨⟨a, m⟩, hr, hs⟩ := Option.bind_eq_some_iff.1 h
  have hym : y.length + q.length ≤ m.length := by simpa using (hSc a hs).length_le
  obtain ⟨z, rfl⟩ := exists_append_of_suffix (hRc hr) (by omega)
  simp only [hR hr, Option.bind_some]
  exact hS a hs

theorem Consumes.bind {R : List Char → Option (α × List Char)} {S : α → List Char → Option (β × List Char)}
    (hRc : Consumes R) (hSc : ∀ a, Consumes (S a)) :
    Consumes fun cs => (R cs).bind fun p => S p.1 p.2 := by
  intro cs b r h
  obtain ⟨⟨a, m⟩, hr, hs⟩ := Option.bind_eq_some_iff.1 h
  exact (hSc a hs).trans (hRc hr)

theorem Local.map {R : List Char → Option (α × List Char)} (hR : Local R) (g : α → β) :
    Local fun cs => (R cs).map fun p => (g p.1, p.2) := by
  intro x q b y h
  obtain ⟨⟨a, m⟩, hr, he⟩ := Option.map_eq_some_iff.1 h
  obtain ⟨rfl, rfl⟩ := Prod.mk.inj he
  simp [hR hr]

theorem Consumes.map {R : List Char → Option (α × List Char)} (hRc : Consumes R) (g : α → β) :
    Consumes fun cs => (R cs).map fun p => (g p.1, p.2) := by
  intro cs b r h
  obtain ⟨⟨a, m⟩, hr, he⟩ := Option.map_eq_some_iff.1 h
  obtain ⟨rfl, rfl⟩ := Prod.mk.inj he
  exact hRc hr

/-- A reader that leaves all of a text followed by nothing leaves all of the text. -/
theorem Local.of_nil {R : List Char → Option (α × List Char)} (hRc : Consumes R)
    (hnil : ∀ {q a}, R q = some (a, q) → R [] = some (a, []))
    (hcons : ∀ {c x q a y}, R (c :: x ++ q) = some (a, y ++ q) → R (c :: x) = some (a, y)) :
    Local R := by
  intro x q a y h
  cases x with
  | nil =>
    have hy : y.length + q.length ≤ q.length := by simpa using (hRc h).length_le
    obtain rfl : y = [] := List.eq_nil_of_length_eq_zero (by omega)
    exact hnil h
  | cons c x => exact hcons h

end Readers

/-! ### Numbers -/

theorem spanDigits_local : Local fun cs => some (spanDigits cs) := by
  intro x q d y h
  simp only [spanDigits, Option.some.injEq, Prod.mk.injEq] at h ⊢
  obtain ⟨hd, hy⟩ := h
  induction x generalizing d with
  | nil =>
    -- nothing of `q` is taken, so it does not start with a digit
    rw [List.nil_append] at hd hy
    have hlen := List.dropWhile_suffix (l := q) Char.isDigit |>.length_le
    rw [hy, List.length_append] at hlen
    obtain rfl : y = [] := List.eq_nil_of_length_eq_zero (by omega)
    have htake := List.takeWhile_append_dropWhile (p := Char.isDigit) (l := q)
    rw [hy, List.nil_append] at htake
    have hnone : q.takeWhile Char.isDigit = [] := List.append_cancel_right (htake.trans (List.nil_append q).symm)
    simp [← hd, hnone]
  | cons c x ih =>
    by_cases hc : c.isDigit
    · simp only [List.cons_append, List.takeWhile_cons_of_pos hc, List.dropWhile_cons_of_pos hc] at hd hy ⊢
      obtain ⟨hd', hy'⟩ := ih (d := (x ++ q).takeWhile Char.isDigit) rfl hy
      exact ⟨by rw [hd', hd], hy'⟩
    · simp only [List.cons_append, List.takeWhile_cons_of_neg hc, List.dropWhile_cons_of_neg hc] at hd hy ⊢
      exact ⟨hd, List.append_cancel_right (by simpa using hy)⟩

theorem spanDigits_consumes : Consumes fun cs => some (spanDigits cs) := by
  intro cs d r h
  simp only [spanDigits, Option.some.injEq, Prod.mk.injEq] at h
  exact h.2 ▸ List.dropWhile_suffix _

theorem readSign_of_ne {c : Char} {t : List Char} (hc : c ≠ '-') : readSign (c :: t) = ([], c :: t) := by
  simp [readSign, hc]

theorem readIntPart_of_ne {c : Char} {t : List Char} (hc : c ≠ '0') :
    readIntPart (c :: t) = if '1' ≤ c ∧ c ≤ '9' then some (spanDigits (c :: t)) else none := by
  exact readIntPart.eq_2 c t hc

theorem readFraction_of_ne {c : Char} {t : List Char} (hc : c ≠ '.') :
    readFraction (c :: t) = some ([], c :: t) := by
  simp [readFraction, hc]

theorem readFraction_point (t : List Char) :
    readFraction ('.' :: t) = (some (spanDigits t)).bind fun p =>
      if p.1.isEmpty then none else some ('.' :: p.1, p.2) := rfl

theorem readExponent_of_mark {c : Char} {t : List Char} (hc : c = 'e' ∨ c = 'E') :
    readExponent (c :: t) = (some (readExponentSign t)).bind fun p =>
      (some (spanDigits p.2)).bind fun p₂ =>
        if p₂.1.isEmpty then none else some (c :: p.1 ++ p₂.1, p₂.2) := by
  simp [readExponent, hc]

theorem readExponent_of_not_mark {c : Char} {t : List Char} (hc : ¬(c = 'e' ∨ c = 'E')) :
    readExponent (c :: t) = some ([], c :: t) := by
  simp [readExponent, hc]

/-- The four stages of a number, each reading on from where the one before stopped. -/
theorem readNumber_eq : readNumber = fun cs => (some (readSign cs)).bind fun p =>
    (readIntPart p.2).bind fun p₂ => (readFraction p₂.2).bind fun p₃ =>
      (readExponent p₃.2).map fun p₄ => (p.1 ++ p₂.1 ++ p₃.1 ++ p₄.1, p₄.2) := rfl

theorem cons_append_cancel {c : Char} {x q y : List Char} (h : c :: (x ++ q) = y ++ q) : c :: x = y :=
  List.append_cancel_right (by rw [← h, List.cons_append])

theorem isDigit_of_nonzero {c : Char} (hc : '1' ≤ c ∧ c ≤ '9') : c.isDigit = true := by
  simp [Char.isDigit, Char.le_def, UInt32.le_iff_toNat_le] at hc ⊢
  omega

section Guard

variable {α β : Type}

/-- A check on what was read, which reads nothing more. -/
theorem guard_local (b : Bool) (v : α) : Local fun cs => if b then none else some (v, cs) := by
  intro x q a y h
  cases b
  · obtain ⟨rfl, hxy⟩ := Prod.mk.inj (Option.some.inj h)
    simp [List.append_cancel_right hxy]
  · cases h

theorem guard_consumes (b : Bool) (v : α) : Consumes fun cs => if b then none else some (v, cs) := by
  intro cs a r h
  cases b
  · cases h; exact List.suffix_refl _
  · cases h

/-- Reading nothing and giving a fixed value. -/
theorem pure_local (v : α) : Local fun cs => some (v, cs) := guard_local false v

theorem pure_consumes (v : α) : Consumes fun cs => some (v, cs) := guard_consumes false v

end Guard

theorem spanDigits_guard_local (f : List Char → List Char) :
    Local fun cs => (some (spanDigits cs)).bind fun p => if p.1.isEmpty then none else some (f p.1, p.2) :=
  Local.bind spanDigits_local spanDigits_consumes (fun ds => guard_local ds.isEmpty (f ds))
    (fun ds => guard_consumes ds.isEmpty (f ds))

theorem spanDigits_guard_consumes (f : List Char → List Char) :
    Consumes fun cs => (some (spanDigits cs)).bind fun p => if p.1.isEmpty then none else some (f p.1, p.2) :=
  Consumes.bind spanDigits_consumes fun ds => guard_consumes ds.isEmpty (f ds)

section OptionalPart

variable {R : List Char → Option (List Char × List Char)} {mark : Char → Prop}
  {S : Char → List Char → Option (List Char × List Char)}

/-- A reader of an optional part of a number, a sign, a fraction or an exponent: nothing when the
text does not start with a mark, and otherwise the part that `S` reads on from the mark. -/
structure OptionalPart (R : List Char → Option (List Char × List Char)) (mark : Char → Prop)
    (S : Char → List Char → Option (List Char × List Char)) : Prop where
  nil : R [] = some ([], [])
  marked : ∀ {c : Char} (t : List Char), mark c → R (c :: t) = S c t
  unmarked : ∀ {c : Char} (t : List Char), ¬ mark c → R (c :: t) = some ([], c :: t)
  partLocal : ∀ {c : Char}, mark c → Local (S c)
  partConsumes : ∀ {c : Char}, mark c → Consumes (S c)

theorem OptionalPart.consumes (hR : OptionalPart R mark S) : Consumes R := by
  intro cs a r h
  rcases cs with _ | ⟨c, t⟩
  · rw [hR.nil] at h
    cases h
    exact List.suffix_refl _
  by_cases hm : mark c
  · rw [hR.marked t hm] at h
    exact (hR.partConsumes hm h).trans (List.suffix_cons _ _)
  · rw [hR.unmarked t hm] at h
    cases h
    exact List.suffix_refl _

theorem OptionalPart.local (hR : OptionalPart R mark S) : Local R := by
  refine Local.of_nil hR.consumes (fun {q a} h => ?_) (fun {c x q a y} h => ?_)
  · rcases q with _ | ⟨c, t⟩
    · exact h
    by_cases hm : mark c
    · -- the mark is taken, so the rest is shorter
      rw [hR.marked t hm] at h
      have hle := (hR.partConsumes hm h).length_le
      simp only [List.length_cons] at hle
      omega
    · rw [hR.unmarked t hm] at h
      cases h
      exact hR.nil
  · by_cases hm : mark c
    · rw [List.cons_append, hR.marked _ hm] at h
      rw [hR.marked _ hm]
      exact hR.partLocal hm h
    · rw [List.cons_append, hR.unmarked _ hm] at h
      obtain ⟨rfl, hxy⟩ := Prod.mk.inj (Option.some.inj h)
      rw [hR.unmarked _ hm, cons_append_cancel hxy]

end OptionalPart

theorem readSign_optionalPart :
    OptionalPart (fun cs => some (readSign cs)) (· = '-') fun c t => some ([c], t) :=
  ⟨rfl, by rintro c t rfl; rfl, fun t hc => by rw [readSign_of_ne hc],
    fun _ => pure_local _, fun _ => pure_consumes _⟩

theorem readSign_consumes : Consumes fun cs => some (readSign cs) := readSign_optionalPart.consumes

theorem readSign_local : Local fun cs => some (readSign cs) := readSign_optionalPart.local

theorem readExponentSign_optionalPart :
    OptionalPart (fun cs => some (readExponentSign cs)) (fun c => c = '+' ∨ c = '-')
      fun c t => some ([c], t) :=
  ⟨rfl, by rintro c t (rfl | rfl) <;> rfl,
    fun t hc => by rw [not_or] at hc; simp [readExponentSign, hc.1, hc.2],
    fun _ => pure_local _, fun _ => pure_consumes _⟩

theorem readExponentSign_consumes : Consumes fun cs => some (readExponentSign cs) :=
  readExponentSign_optionalPart.consumes

theorem readExponentSign_local : Local fun cs => some (readExponentSign cs) :=
  readExponentSign_optionalPart.local

theorem readIntPart_consumes : Consumes readIntPart := by
  intro cs a r h
  rcases cs with _ | ⟨c, t⟩
  · cases h
  by_cases hz : c = '0'
  · subst hz; cases h; exact List.suffix_cons _ _
  rw [readIntPart_of_ne hz] at h
  split at h
  · exact spanDigits_consumes h
  · cases h

theorem readIntPart_local : Local readIntPart := by
  refine Local.of_nil readIntPart_consumes (fun {q a} h => ?_) (fun {c x q a y} h => ?_)
  · rcases q with _ | ⟨c, t⟩
    · cases h
    by_cases hz : c = '0'
    · subst hz; cases h
    rw [readIntPart_of_ne hz] at h
    split at h
    · -- a digit is taken, so the rest is shorter
      rename_i hr
      obtain ⟨-, hrest⟩ := Prod.mk.inj (Option.some.inj h)
      have hle := (List.dropWhile_suffix (l := t) Char.isDigit).length_le
      rw [List.dropWhile_cons_of_pos (isDigit_of_nonzero hr)] at hrest
      rw [hrest, List.length_cons] at hle
      omega
    · cases h
  · by_cases hz : c = '0'
    · subst hz
      obtain ⟨rfl, hxy⟩ := Prod.mk.inj (Option.some.inj h)
      rw [List.append_cancel_right hxy]
      rfl
    rw [List.cons_append, readIntPart_of_ne hz] at h
    rw [readIntPart_of_ne hz]
    split at h
    · rw [if_pos ‹_›]
      exact spanDigits_local (x := c :: x) (q := q) h
    · cases h

theorem readFraction_optionalPart : OptionalPart readFraction (· = '.') fun _ t =>
    (some (spanDigits t)).bind fun p => if p.1.isEmpty then none else some ('.' :: p.1, p.2) :=
  ⟨rfl, by rintro c t rfl; exact readFraction_point t, fun t hc => readFraction_of_ne hc,
    fun _ => spanDigits_guard_local _, fun _ => spanDigits_guard_consumes _⟩

theorem readFraction_consumes : Consumes readFraction := readFraction_optionalPart.consumes

theorem readFraction_local : Local readFraction := readFraction_optionalPart.local

theorem readExponent_optionalPart : OptionalPart readExponent (fun c => c = 'e' ∨ c = 'E') fun c t =>
    (some (readExponentSign t)).bind fun p =>
      (some (spanDigits p.2)).bind fun p₂ => if p₂.1.isEmpty then none else some (c :: p.1 ++ p₂.1, p₂.2) :=
  ⟨rfl, fun _ hm => readExponent_of_mark hm, fun _ hm => readExponent_of_not_mark hm,
    fun {c} _ => Local.bind readExponentSign_local readExponentSign_consumes
      (fun sg => spanDigits_guard_local fun ds => c :: sg ++ ds)
      (fun sg => spanDigits_guard_consumes fun ds => c :: sg ++ ds),
    fun {c} _ => Consumes.bind readExponentSign_consumes
      fun sg => spanDigits_guard_consumes fun ds => c :: sg ++ ds⟩

theorem readExponent_consumes : Consumes readExponent := readExponent_optionalPart.consumes

theorem readExponent_local : Local readExponent := readExponent_optionalPart.local

/-- A number looks at nothing past its literal. -/
theorem readNumber_local : Local readNumber := by
  rw [readNumber_eq]
  exact Local.bind readSign_local readSign_consumes
    (fun sign => Local.bind readIntPart_local readIntPart_consumes
      (fun ip => Local.bind readFraction_local readFraction_consumes
        (fun fp => Local.map readExponent_local fun ep => sign ++ ip ++ fp ++ ep)
        (fun fp => Consumes.map readExponent_consumes fun ep => sign ++ ip ++ fp ++ ep))
      (fun ip => Consumes.bind readFraction_consumes fun fp =>
        Consumes.map readExponent_consumes fun ep => sign ++ ip ++ fp ++ ep))
    (fun sign => Consumes.bind readIntPart_consumes fun ip => Consumes.bind readFraction_consumes fun fp =>
      Consumes.map readExponent_consumes fun ep => sign ++ ip ++ fp ++ ep)

theorem readNumber_consumes : Consumes readNumber := by
  rw [readNumber_eq]
  exact Consumes.bind readSign_consumes fun sign => Consumes.bind readIntPart_consumes fun ip =>
    Consumes.bind readFraction_consumes fun fp =>
      Consumes.map readExponent_consumes fun ep => sign ++ ip ++ fp ++ ep

/-! ### Strings -/

theorem hexDigit?_quote : hexDigit? '"' = none := by decide

/-- Four hexadecimal digits, none of them a quote, whatever follows them. -/
theorem hex4?_eq_some {cs t : List Char} {n : Nat} (h : hex4? cs = some (n, t)) :
    ∃ d, cs = d ++ t ∧ (∀ c ∈ d, c ≠ '"') ∧ ∀ t', hex4? (d ++ t') = some (n, t') := by
  unfold hex4? at h
  split at h
  · split at h
    · rename_i a b c d rest _ _ _ _ w x y z ha hb hc hd
      obtain ⟨rfl, rfl⟩ := Prod.mk.inj (Option.some.inj h)
      refine ⟨[a, b, c, d], rfl, ?_, fun t' => by simp [hex4?, ha, hb, hc, hd]⟩
      intro e he hq
      subst hq
      simp only [List.mem_cons, List.mem_nil_iff, or_false] at he
      rcases he with rfl | rfl | rfl | rfl <;> simp_all [hexDigit?_quote]
    · cases h
  · cases h

/-- Characters that stop before a quote leave that quote and what follows it. -/
theorem append_quote_eq_append {a b d t : List Char} (hd : ∀ c ∈ d, c ≠ '"') (h : a ++ '"' :: b = d ++ t) :
    ∃ a', t = a' ++ '"' :: b ∧ a = d ++ a' := by
  rcases List.append_eq_append_iff.1 h with ⟨a', rfl, ht⟩ | ⟨c', rfl, rfl⟩
  · cases a' with
    | nil => exact ⟨[], by simpa using ht.symm, by simp⟩
    | cons x a' =>
      obtain ⟨rfl, -⟩ := List.cons.inj ht
      exact absurd rfl (hd '"' (by simp))
  · exact ⟨c', rfl, rfl⟩

theorem hex4?_quote {a b t : List Char} {n : Nat} (h : hex4? (a ++ '"' :: b) = some (n, t)) :
    ∃ a', t = a' ++ '"' :: b ∧ ∀ b', hex4? (a ++ '"' :: b') = some (n, a' ++ '"' :: b') := by
  obtain ⟨d, hcs, hd, hhex⟩ := hex4?_eq_some h
  obtain ⟨a', rfl, rfl⟩ := append_quote_eq_append hd hcs
  exact ⟨a', rfl, fun b' => by rw [List.append_assoc]; exact hhex _⟩

/-- Characters before a quote either start another escape `\u` or cannot be one. -/
theorem escape_or_not (a : List Char) :
    (∃ a', a = '\\' :: 'u' :: a') ∨ ∀ b r, a ++ '"' :: b ≠ '\\' :: 'u' :: r := by
  rcases a with _ | ⟨x, _ | ⟨y, a'⟩⟩
  · exact .inr fun b r h => by simp at h
  · exact .inr fun b r h => by simp at h
  · by_cases hxy : x = '\\' ∧ y = 'u'
    · obtain ⟨rfl, rfl⟩ := hxy
      exact .inl ⟨a', rfl⟩
    · exact .inr fun b r h => hxy (by simp_all)

/-- An escape `\u` read before a quote looks at nothing past the quote. -/
theorem readUnicodeEscape_quote {a b t : List Char} {c : Char}
    (h : readUnicodeEscape (a ++ '"' :: b) = some (c, t)) :
    ∃ a', t = a' ++ '"' :: b ∧ ∀ b', readUnicodeEscape (a ++ '"' :: b') = some (c, a' ++ '"' :: b') := by
  unfold readUnicodeEscape at h
  cases hx : hex4? (a ++ '"' :: b) with
  | none => simp [hx] at h
  | some p =>
    obtain ⟨n, r⟩ := p
    obtain ⟨a₁, rfl, hhex⟩ := hex4?_quote hx
    simp only [hx] at h
    simp only [readUnicodeEscape, hhex]
    split at h
    · -- a first half of a surrogate pair looks for the second half right after it
      rename_i hhi
      rcases escape_or_not a₁ with ⟨a₂, rfl⟩ | hno
      · simp only [List.cons_append] at h ⊢
        cases hy : hex4? (a₂ ++ '"' :: b) with
        | none => simp [hy] at h
        | some p =>
          obtain ⟨m, r⟩ := p
          obtain ⟨a₃, rfl, hhex₂⟩ := hex4?_quote hy
          simp only [hy] at h
          split at h
          · obtain ⟨rfl, rfl⟩ := Prod.mk.inj (Option.some.inj h)
            exact ⟨a₃, rfl, fun b' => by simp [*]⟩
          · obtain ⟨rfl, rfl⟩ := Prod.mk.inj (Option.some.inj h)
            exact ⟨'\\' :: 'u' :: a₂, rfl, fun b' => by simp [*]⟩
      · split at h
        · rename_i heq
          exact absurd heq (hno _ _)
        · obtain ⟨rfl, rfl⟩ := Prod.mk.inj (Option.some.inj h)
          refine ⟨a₁, rfl, fun b' => ?_⟩
          rw [if_pos hhi]
          split
          · rename_i heq
            exact absurd heq (hno _ _)
          · rfl
    · split at h <;> obtain ⟨rfl, rfl⟩ := Prod.mk.inj (Option.some.inj h) <;>
        exact ⟨a₁, rfl, fun b' => by simp [*]⟩

theorem readUnicodeEscape_suffix {r t : List Char} {c : Char} (h : readUnicodeEscape r = some (c, t)) :
    t <:+ r := by
  unfold readUnicodeEscape at h
  cases hx : hex4? r with
  | none => simp [hx] at h
  | some p =>
    obtain ⟨n, r₁⟩ := p
    obtain ⟨d, rfl, -, -⟩ := hex4?_eq_some hx
    have h₁ : r₁ <:+ d ++ r₁ := List.suffix_append d r₁
    simp only [hx] at h
    split at h
    · split at h
      · rename_i r₂
        cases hy : hex4? r₂ with
        | none => simp [hy] at h
        | some p =>
          obtain ⟨m, r₃⟩ := p
          obtain ⟨d₂, rfl, -, -⟩ := hex4?_eq_some hy
          simp only [hy] at h
          split at h <;> obtain ⟨rfl, rfl⟩ := Prod.mk.inj (Option.some.inj h)
          · exact ((List.suffix_append d₂ _).trans (List.suffix_cons _ _)).trans
              ((List.suffix_cons _ _).trans h₁)
          · exact h₁
      · obtain ⟨rfl, rfl⟩ := Prod.mk.inj (Option.some.inj h)
        exact h₁
    · split at h <;> obtain ⟨rfl, rfl⟩ := Prod.mk.inj (Option.some.inj h) <;> exact h₁

/-- A string body is read up to its closing quote, and what follows the quote is not looked at. -/
theorem readStringBody_quote {acc cs s r : List Char} (h : readStringBody acc cs = some (s, r)) :
    ∃ body, cs = body ++ '"' :: r ∧ ∀ r', readStringBody acc (body ++ '"' :: r') = some (s, r') := by
  fun_induction readStringBody acc cs with
  | case1 => cases h
  | case2 acc rest =>
    obtain ⟨rfl, rfl⟩ := Prod.mk.inj (Option.some.inj h)
    exact ⟨[], rfl, fun r' => by simp [readStringBody]⟩
  | case3 acc t ih | case4 acc t ih | case5 acc t ih | case6 acc t ih | case7 acc t ih
  | case8 acc t ih | case9 acc t ih | case10 acc t ih =>
    obtain ⟨body, rfl, hbody⟩ := ih h
    exact ⟨_ :: _ :: body, rfl, fun r' => by simp [readStringBody, hbody]⟩
  | case11 acc t c t' hesc _ ih =>
    obtain ⟨body, rfl, hbody⟩ := ih h
    -- the escape ends before the closing quote, so it reads the same whatever follows
    obtain ⟨u, rfl⟩ := readUnicodeEscape_suffix hesc
    rw [← List.append_assoc] at hesc
    obtain ⟨a', ha', hesc'⟩ := readUnicodeEscape_quote hesc
    obtain rfl := List.append_cancel_right ha'
    refine ⟨'\\' :: 'u' :: (u ++ body), by simp, fun r' => ?_⟩
    simp only [readStringBody, List.cons_append]
    split
    · rename_i heq
      rw [hesc'] at heq
      obtain ⟨rfl, rfl⟩ := Prod.mk.inj (Option.some.inj heq)
      exact hbody r'
    · rename_i heq
      rw [hesc'] at heq
      cases heq
  | case12 | case13 | case14 => cases h
  | case15 acc c t hq hb hlt ih =>
    obtain ⟨body, rfl, hbody⟩ := ih h
    exact ⟨c :: body, rfl, fun r' => by simp [readStringBody, hlt, hbody]⟩

theorem readString_quote {cs r : List Char} {s : String} (h : readString cs = some (s, r)) :
    ∃ body, cs = body ++ '"' :: r ∧ ∀ r', readString (body ++ '"' :: r') = some (s, r') := by
  obtain ⟨⟨acc, rest⟩, hb, he⟩ := Option.map_eq_some_iff.1 h
  obtain ⟨rfl, rfl⟩ := Prod.mk.inj he
  obtain ⟨body, rfl, hbody⟩ := readStringBody_quote hb
  exact ⟨body, rfl, fun r' => by simp [readString, hbody]⟩

/-- A string looks at nothing past its closing quote. -/
theorem readString_local : Local readString := by
  intro x q s y h
  obtain ⟨body, hx, hbody⟩ := readString_quote h
  have hxy : x = body ++ '"' :: y := List.append_cancel_right (by rw [hx]; simp)
  rw [hxy]
  exact hbody y

/-- A string takes at least its closing quote. -/
theorem readString_suffix {cs r : List Char} {s : String} (h : readString cs = some (s, r)) :
    r <:+ cs ∧ r.length < cs.length := by
  obtain ⟨body, rfl, -⟩ := readString_quote h
  exact ⟨(List.suffix_cons _ _).trans (List.suffix_append _ _), by simp; omega⟩

end SqlSearch.Json
