import Mathlib.Data.List.Forall2
import SqlSearch.Proofs.ConditionParsing
import SqlSearch.Proofs.ConditionReading
import SqlSearch.Query.Request
/-! What a statement that reads brings to its translation. The index is read as a name: a
non-empty run of identifier characters that is no reserved word; the field list is a star,
`count(*)` or names, never empty; every LIMIT number is a machine integer that is not negative;
and a sort direction is `asc` unless a direction word was written, in which case it is that
word lower-cased. Direction words are matched as keywords, where the long s counts as `s`,
while lower-casing keeps the long s, so `aſc` and `deſc` give directions of their own.

Translation fails only on a LIMIT of more than two numbers (`translate_error_iff`), so a
statement that reads is translated exactly when its LIMIT has at most two numbers. Main
statement: `parse_translatable`. -/
namespace SqlSearch.Query

open SqlSearch.Text

/-! ### The readers of the clauses -/

theorem readNames_ne_nil {what : String} {toks r : List Token} {ns : List String}
    (h : readNames what toks = .ok (ns, r)) : ns ≠ [] := by
  cases toks with
  | nil => exact absurd h failAt_ne_ok
  | cons t ts =>
    unfold readNames at h
    split at h
    · split at h
      · split at h
        · obtain ⟨⟨ns', r'⟩, -, hr⟩ := ok_of_map h
          cases hr
          exact List.cons_ne_nil _ _
        · cases h; exact List.cons_ne_nil _ _
      · cases h; exact List.cons_ne_nil _ _
    · exact absurd h failAt_ne_ok

/-- The field list is a star, `count(*)` or a non-empty list of names. -/
theorem readFields_ne_nil {toks r : List Token} {fs : List String}
    (h : readFields toks = .ok (fs, r)) : fs ≠ [] := by
  unfold readFields at h
  split at h
  · split at h
    · cases h; exact List.cons_ne_nil _ _
    · split at h
      · obtain ⟨_, -, h⟩ := ok_of_bind h
        obtain ⟨_, -, h⟩ := ok_of_bind h
        cases h; exact List.cons_ne_nil _ _
      · exact readNames_ne_nil h
  · split at h
    · cases h; exact List.cons_ne_nil _ _
    · exact readNames_ne_nil h

/-- A name is an identifier text, when the tokens' words are, and no reserved word. -/
theorem readName_unreserved {what name : String} {toks r : List Token}
    (h : readName what toks = .ok (name, r)) : isReserved name = false := by
  simp only [readName] at h
  split at h
  · rename_i hn
    cases h
    simp only [Token.isName, Bool.and_eq_true, Bool.not_eq_true'] at hn
    exact hn.2
  · exact absurd h failAt_ne_ok

/-- A LIMIT number is a machine integer that is not negative. -/
theorem limitValue?_bounds {s : String} {v : Int} (h : limitValue? s = some v) :
    0 ≤ v ∧ v < Nat.pow 2 63 := by
  unfold limitValue? at h
  -- whatever sign was read, a value comes out only past the range test
  split at h
  simp only [Bool.or_eq_true, decide_eq_true_eq, Option.ite_none_left_eq_some,
    Option.some.injEq] at h
  omega

theorem readLimits_bounds {toks r : List Token} {ns : List Int}
    (h : readLimits toks = .ok (ns, r)) : ∀ n ∈ ns, 0 ≤ n ∧ n < Nat.pow 2 63 := by
  fun_induction readLimits toks generalizing ns r with
  | case1 => exact absurd h failAt_ne_ok
  | case2 t _ n hn u us _ ih =>
    obtain ⟨⟨ns', r'⟩, h', hr⟩ := ok_of_map h
    cases hr
    rintro m (_ | ⟨_, hm⟩)
    · exact limitValue?_bounds hn
    · exact ih h' m hm
  | case3 t _ n hn u us _ =>
    cases h
    simpa using limitValue?_bounds hn
  | case4 t _ n hn =>
    cases h
    simpa using limitValue?_bounds hn
  | case5 => exact absurd h failAt_ne_ok
  | case6 => exact absurd h failAt_ne_ok

/-! ### Sort directions -/

/-- A letter matched against a lower-case ASCII letter other than `k` lower-cases to it, or it
is the long s standing for `s`. -/
theorem lowerChar_of_matches {x y : Char} (hy : y.toLower = y ∧ y.toNat < 128 ∧ y ≠ 'k')
    (h : (x.toLower == y.toLower || (x = 'ſ' && y.toLower = 's') ||
      (x = 'K' && y.toLower = 'k')) = true) :
    lowerChar x = y ∨ x = 'ſ' ∧ y = 's' := by
  obtain ⟨hl, ha, hk⟩ := hy
  rw [hl] at h
  simp only [Bool.or_eq_true, beq_iff_eq, Bool.and_eq_true, decide_eq_true_eq] at h
  rcases h with (h | h) | h
  · exact .inl (lowerChar_of_toLower ha h)
  · exact .inr h
  · exact absurd h.2 hk

/-- Letters that match a lower-case ASCII word lower-case as that word with some of its `s`
written as the long s. -/
theorem map_lowerChar_of_forall₂ {xs ys : List Char}
    (hy : ∀ y ∈ ys, y.toLower = y ∧ y.toNat < 128 ∧ y ≠ 'k')
    (h : List.Forall₂ (fun x y => lowerChar x = y ∨ x = 'ſ' ∧ y = 's') xs ys) :
    ∃ zs, List.Forall₂ (fun z y => z = y ∨ z = 'ſ' ∧ y = 's') zs ys ∧
      xs.map lowerChar = zs.map lowerChar := by
  induction h with
  | nil => exact ⟨[], .nil, rfl⟩
  | @cons x y xs ys hxy _ ih =>
    obtain ⟨zs, hzs, heq⟩ := ih fun y' hy' => hy y' (List.mem_cons_of_mem _ hy')
    obtain ⟨hl, ha, -⟩ := hy y List.mem_cons_self
    rcases hxy with hx | ⟨rfl, rfl⟩
    · -- an ASCII letter is its own lower case
      refine ⟨y :: zs, .cons (.inl rfl) hzs, ?_⟩
      rw [List.map_cons, List.map_cons, heq, hx, lowerChar_of_toLower ha hl]
    · exact ⟨'ſ' :: zs, .cons (.inr ⟨rfl, rfl⟩) hzs, by rw [List.map_cons, List.map_cons, heq]⟩

/-- A word that matches a lower-case ASCII word, as keywords are matched, lower-cases as that
word with some of its `s` written as the long s. -/
theorem sameWordAscii_lower {a b : String}
    (hb : ∀ y ∈ b.toList, y.toLower = y ∧ y.toNat < 128 ∧ y ≠ 'k')
    (h : sameWordAscii a b = true) :
    ∃ zs, List.Forall₂ (fun z y => z = y ∨ z = 'ſ' ∧ y = 's') zs b.toList ∧
      lower a = lower (String.ofList zs) := by
  unfold sameWordAscii at h
  simp only [Bool.and_eq_true, beq_iff_eq, List.all_eq_true] at h
  have hm : List.Forall₂ (fun x y => lowerChar x = y ∨ x = 'ſ' ∧ y = 's') a.toList b.toList := by
    rw [List.forall₂_iff_zip]
    refine ⟨by rw [String.length_toList, String.length_toList]; exact h.1, fun hxy => ?_⟩
    exact lowerChar_of_matches (hb _ (List.of_mem_zip hxy).2) (h.2 _ hxy)
  obtain ⟨zs, hzs, heq⟩ := map_lowerChar_of_forall₂ hb hm
  exact ⟨zs, hzs, by rw [lower, lower, heq, String.toList_ofList]⟩

/-- A direction word lower-cases to `asc` or `desc`, or to one of them written with the long s,
which lower-casing keeps. -/
theorem Token.isDirection_lower {d : Token} (h : d.isDirection = true) :
    lower d.text ∈ ["asc", "desc", lower "aſc", lower "deſc"] := by
  simp only [Token.isDirection, Token.isKeyword, Bool.or_eq_true, Bool.and_eq_true] at h
  rcases h with ⟨-, h⟩ | ⟨-, h⟩
  · obtain ⟨zs, hzs, heq⟩ := sameWordAscii_lower (by decide) h
    have hz : zs = ['a', 's', 'c'] ∨ zs = ['a', 'ſ', 'c'] := by
      simpa [show "asc".toList = ['a', 's', 'c'] from rfl, List.forall₂_cons_right_iff] using hzs
    rcases hz with rfl | rfl
    · rw [heq, show lower (String.ofList ['a', 's', 'c']) = "asc" by decide]
      simp
    · rw [heq]
      simp [show String.ofList ['a', 'ſ', 'c'] = "aſc" from rfl]
  · obtain ⟨zs, hzs, heq⟩ := sameWordAscii_lower (by decide) h
    have hz : zs = ['d', 'e', 's', 'c'] ∨ zs = ['d', 'e', 'ſ', 'c'] := by
      simpa [show "desc".toList = ['d', 'e', 's', 'c'] from rfl, List.forall₂_cons_right_iff]
        using hzs
    rcases hz with rfl | rfl
    · rw [heq, show lower (String.ofList ['d', 'e', 's', 'c']) = "desc" by decide]
      simp
    · rw [heq]
      simp [show String.ofList ['d', 'e', 'ſ', 'c'] = "deſc" from rfl]

/-- Every sort key read has direction `asc`, `desc`, or one of them written with the long s. -/
theorem readSortKeys_directions {toks r : List Token} {ks : List SortKey}
    (h : readSortKeys toks = .ok (ks, r)) :
    ∀ k ∈ ks, k.direction ∈ ["asc", "desc", lower "aſc", lower "deſc"] := by
  -- an entry takes its direction word, lower-cased, or `asc`; after a comma the rest of the
  -- list comes from the recursive call
  fun_induction readSortKeys toks generalizing ks r with
  | case1 | case10 => exact absurd h failAt_ne_ok
  | case2 t _ d u us hd _ ih =>
    obtain ⟨⟨ks', r'⟩, h', hr⟩ := ok_of_map h
    cases hr
    exact List.forall_mem_cons.2 ⟨Token.isDirection_lower hd, ih h'⟩
  | case3 t _ d u us hd _ =>
    cases h
    simpa using Token.isDirection_lower hd
  | case4 t _ d u us _ _ ih | case7 t _ d _ _ ih =>
    obtain ⟨⟨ks', r'⟩, h', hr⟩ := ok_of_map h
    cases hr
    exact List.forall_mem_cons.2 ⟨by simp, ih h'⟩
  | case6 t _ d hd =>
    cases h
    simpa using Token.isDirection_lower hd
  | case5 | case8 | case9 =>
    cases h
    simp

/-! ### Statements -/

/-- What a statement is built from: its index is read as a name from tokens after the start,
its field list by the field reader, and its sort keys and LIMIT numbers by their readers when
their clauses are there. -/
theorem readStatement_parts {toks : List Token} {q : Statement} (h : readStatement toks = .ok q) :
    (∃ r r', r <:+ toks ∧ readName "index name" r = .ok (q.index, r')) ∧
    (∃ r r', readFields r = .ok (q.fields, r')) ∧
    (q.order = [] ∨ ∃ r r', readSortKeys r = .ok (q.order, r')) ∧
    (q.limit = [] ∨ ∃ r r', readLimits r = .ok (q.limit, r')) := by
  unfold readStatement at h
  obtain ⟨r1, h1, h⟩ := ok_of_bind h
  obtain ⟨⟨p1, r2⟩, h2, h⟩ := ok_of_bind h
  obtain ⟨⟨p2, r3⟩, h3, h⟩ := ok_of_bind h
  obtain ⟨⟨p3, r4⟩, h4, h⟩ := ok_of_bind h
  obtain ⟨⟨fields, r5⟩, h5, h⟩ := ok_of_bind h
  obtain ⟨r6, h6, h⟩ := ok_of_bind h
  obtain ⟨⟨index, r7⟩, h7, h⟩ := ok_of_bind h
  have hs6 : r6 <:+ toks :=
    (expectKeyword_suffix h6).trans <| (readFields_suffix h5).trans <|
      (readPreambleClause_suffix h4).trans <| (readPreambleClause_suffix h3).trans <|
      (readPreambleClause_suffix h2).trans (expectKeyword_suffix h1)
  dsimp only at h
  rw [ite_bind_eq] at h
  obtain ⟨⟨query, r8⟩, -, h⟩ := ok_of_bind h
  dsimp only at h
  rw [ite_bind_eq] at h
  obtain ⟨⟨filter, r9⟩, -, h⟩ := ok_of_bind h
  -- once the tokens are used up, the statement is built from what the clauses read
  have hfinal : ∀ {r : List Token} {m : String} {st : Statement},
      (if (peek r).kind ≠ .eof then failAt (peek r) m else pure st) = Except.ok q → q = st := by
    intro r m st h
    split at h
    · exact absurd h failAt_ne_ok
    · cases h
      rfl
  -- ORDER BY and LIMIT are each read or left empty
  have htail : (q.order = [] ∨ ∃ r r', readSortKeys r = .ok (q.order, r')) ∧
      (q.limit = [] ∨ ∃ r r', readLimits r = .ok (q.limit, r')) ∧
      q.index = index ∧ q.fields = fields := by
    dsimp only at h
    split at h
    · obtain ⟨r10, -, h⟩ := ok_of_bind h
      obtain ⟨⟨order, r11⟩, h11, h⟩ := ok_of_bind h
      split at h <;> obtain ⟨⟨limit, r12⟩, h12, h⟩ := ok_of_bind h <;> obtain rfl := hfinal h
      · exact ⟨.inr ⟨_, _, h11⟩, .inr ⟨_, _, h12⟩, rfl, rfl⟩
      · cases h12
        exact ⟨.inr ⟨_, _, h11⟩, .inl rfl, rfl, rfl⟩
    · obtain ⟨⟨order, r11⟩, h11, h⟩ := ok_of_bind h
      cases h11
      split at h <;> obtain ⟨⟨limit, r12⟩, h12, h⟩ := ok_of_bind h <;> obtain rfl := hfinal h
      · exact ⟨.inl rfl, .inr ⟨_, _, h12⟩, rfl, rfl⟩
      · cases h12
        exact ⟨.inl rfl, .inl rfl, rfl, rfl⟩
  obtain ⟨ho, hl, hi, hf⟩ := htail
  exact ⟨⟨r6, r7, hs6, hi ▸ h7⟩, ⟨r4, r5, hf ▸ h5⟩, ho, hl⟩

/-! ### Translation -/

/-- The LIMIT members fail exactly on more than two numbers, and then with those numbers. -/
theorem limitMembers_error_iff {vs : List Int} {e : TranslateError} :
    limitMembers vs = .error e ↔ 2 < vs.length ∧ e = .malformedLimit vs := by
  match vs with
  | [] | [_] | [_, _] => simp [limitMembers]
  | _ :: _ :: _ :: _ => simp [limitMembers, eq_comm]

/-- A statement with an index is translated, with any flags, unless its LIMIT has more than two
numbers. -/
theorem translate_error_iff {q : Statement} (h : q.index ≠ "") {explain validate : Bool}
    {e : TranslateError} :
    translate q explain validate = .error e ↔ 2 < q.limit.length ∧ e = .malformedLimit q.limit := by
  rw [← limitMembers_error_iff]
  cases hl : limitMembers q.limit <;> simp [translate, h, hl]

/-- Every statement that reads meets what translation asks of it: its index is a name (an
identifier text that is no reserved word), its field list is not empty, each sort direction is
`asc` or `desc` or one of them written with the long s, and each LIMIT number is a machine
integer that is not negative. So it is translated, with any flags, unless its LIMIT has more
than two numbers, and then translation fails with that LIMIT. -/
theorem parse_translatable {text : String} {q : Statement} (h : parse text = .ok q) :
    isIdentText q.index = true ∧ isReserved q.index = false ∧ q.fields ≠ [] ∧
    (∀ k ∈ q.order, k.direction ∈ ["asc", "desc", lower "aſc", lower "deſc"]) ∧
    (∀ n ∈ q.limit, 0 ≤ n ∧ n < Nat.pow 2 63) ∧
    ∀ explain validate e, translate q explain validate = .error e ↔
      2 < q.limit.length ∧ e = .malformedLimit q.limit := by
  obtain ⟨toks, hw, hread⟩ := parse_readStatement h
  obtain ⟨⟨r, r', hs, hi⟩, ⟨_, _, hf⟩, ho, hl⟩ := readStatement_parts hread
  have hid : isIdentText q.index = true := (readName_spec hi).2 (hw.suffix hs)
  refine ⟨hid, readName_unreserved hi, readFields_ne_nil hf, ?_, ?_, ?_⟩
  · rcases ho with ho | ⟨_, _, ho⟩
    · simp [ho]
    · exact readSortKeys_directions ho
  · rcases hl with hl | ⟨_, _, hl⟩
    · simp [hl]
    · exact readLimits_bounds hl
  · intro explain validate e
    -- an identifier text is never empty, so there is an index
    have hne : q.index ≠ "" := by
      rintro hq
      simp [hq, isIdentText] at hid
    exact translate_error_iff hne

/-- A statement with an offset and a size is translated, here with both flags on. -/
theorem parse_translatable_offset_size :
    ∃ req, translate { index := "logs", fields := ["a"], limit := [20, 10] } true true = .ok req := by
  have h : (parse "SELECT a FROM logs LIMIT 20, 10").toOption =
      some { index := "logs", fields := ["a"], limit := [20, 10] } := by
    rw [parse_toOption_ascii]
    · decide +kernel
    · decide
  cases ht : translate { index := "logs", fields := ["a"], limit := [20, 10] } true true with
  | ok req => exact ⟨req, rfl⟩
  | error e =>
    have hbig := ((parse_translatable (eq_ok_of_toOption h)).2.2.2.2.2 true true e).1 ht
    simp at hbig

end SqlSearch.Query
