import SqlSearch.Proofs.WrittenWords
import SqlSearch.Proofs.ConditionShape
import Mathlib.Control.Monad.Basic
/-! Conditions read back from their words. `Condition.Words c ws` says that `ws` is one way of
writing `c`: a negated test with NOT before the field or before the test, a value quoted with
either quote, and parentheses exactly where `c` has a group. `Condition.Writable c` says that
`c` has the shape the readers build and only names, values and texts a statement can write.

The readers are one fuelled mutual block that grows a conjunction and a disjunction left to right
in a loop. `ReadsNot`, `ReadsAnd` and `ReadsOr` say what the readers do with the tokens of a
clause, of the left part of a conjunction and of the left part of a disjunction, at every fuel
the length of the tokens allows; each extends the one before by one operand
(`ReadsAnd.junction`, `ReadsOr.junction`). Main statement: `readCondition_words`. -/
namespace SqlSearch.Query

open SqlSearch.Text SqlSearch.Text.Normal

/-- A name a statement can use: one identifier token, not a reserved word, in normal form. -/
def Nameable (s : String) : Prop := (Word.name s).Valid ∧ isReserved s = false

/-- A value a statement can hold: in normal form, and one token when it is written bare. -/
def Value.Writable (v : Value) : Prop := (Word.value v).Valid

/-- The keyword of a junction. -/
def Junction.word : Junction → String
  | .and => "and"
  | .or => "or"

/-- Groups of words separated by commas. -/
def commaSeparated : List (List Word) → List Word
  | [] => []
  | [ws] => ws
  | ws :: ws' :: wss => ws ++ .comma :: commaSeparated (ws' :: wss)

/-- The words of a LIKE, IN or BETWEEN test on the field `f`, after the field name. A pattern is
written as a value: in quotes, or bare when it is one token. -/
inductive TestWords (f : String) : Condition → List Word → Prop
  | like {p : String} {v : Value} : v.text = p →
      (v.quoted = false → LexesAs .ident p ∨ LexesAs .number p ∨ p = "*") →
      TestWords f (.like f p) [.keyword "like", .value v]
  | isIn {vs : List Value} :
      TestWords f (.isIn f vs)
        (.keyword "in" :: .lparen :: commaSeparated (vs.map fun v => [.value v]) ++ [.rparen])
  | between {lo hi : Value} :
      TestWords f (.between f lo hi) [.keyword "between", .value lo, .keyword "and", .value hi]

/-- The ways a condition is written. -/
inductive Condition.Words : Condition → List Word → Prop
  | raw {s : String} : Words (.raw s) [.str s]
  | compare {f : String} {op : CompareOp} {v : Value} :
      Words (.compare f op v) [.name f, .op op.symbol, .value v]
  | test {f : String} {c : Condition} {ws : List Word} : TestWords f c ws → Words c (.name f :: ws)
  | notTest {f : String} {c : Condition} {ws : List Word} :
      TestWords f c ws → Words (.not c) (.name f :: .keyword "not" :: ws)
  | not {c : Condition} {ws : List Word} : Words c ws → Words (.not c) (.keyword "not" :: ws)
  | junction {j : Junction} {l r : Condition} {wl wr : List Word} :
      Words l wl → Words r wr → Words (.junction j l r) (wl ++ .keyword j.word :: wr)
  | group {c : Condition} {ws : List Word} :
      Words c ws → Words (.group c) (.lparen :: ws ++ [.rparen])

/-- The conditions a statement can hold: left-grouped junctions whose right operands bind
tighter, NOT over a clause, tests on names, values a statement can write, texts in normal form,
and at least one value in a set. -/
def Condition.Writable : Condition → Prop
  | .raw s => nfc s = s
  | .compare f _ v => Nameable f ∧ v.Writable
  | .like f p => Nameable f ∧ nfc p = p
  | .isIn f vs => Nameable f ∧ vs ≠ [] ∧ ∀ v ∈ vs, v.Writable
  | .between f lo hi => Nameable f ∧ lo.Writable ∧ hi.Writable
  | .not c => c.Writable ∧ c.level = 0
  | .junction .and l r => l.Writable ∧ r.Writable ∧ l.level ≤ 1 ∧ r.level = 0
  | .junction .or l r => l.Writable ∧ r.Writable ∧ r.level ≤ 1
  | .group c => c.Writable

/-! ### The words are valid -/

theorem mem_commaSeparated {w : Word} : ∀ {wss : List (List Word)}, w ∈ commaSeparated wss →
    w = .comma ∨ ∃ ws ∈ wss, w ∈ ws
  | [], h => by simp [commaSeparated] at h
  | [ws], h => .inr ⟨ws, List.mem_singleton_self _, h⟩
  | ws :: ws' :: wss, h => by
    rw [commaSeparated, List.mem_append, List.mem_cons] at h
    rcases h with h | rfl | h
    · exact .inr ⟨ws, List.mem_cons_self, h⟩
    · exact .inl rfl
    · rcases mem_commaSeparated h with h | ⟨vs, hvs, hw⟩
      · exact .inl h
      · exact .inr ⟨vs, List.mem_cons_of_mem _ hvs, hw⟩

theorem keyword_valid {kw : String} (h : kw ∈ grammarKeywords) : (Word.keyword kw).Valid := h

theorem CompareOp.symbol_mem (op : CompareOp) : op.symbol ∈ operatorTexts := by
  cases op <;> decide

theorem TestWords.valid {f : String} {c : Condition} {ws : List Word} (h : TestWords f c ws)
    (hc : c.Writable) : Nameable f ∧ ∀ w ∈ ws, w.Valid := by
  cases h with
  | @like p v hp hb =>
    refine ⟨hc.1, ?_⟩
    simp only [List.mem_cons, List.not_mem_nil, or_false, forall_eq_or_imp, forall_eq]
    exact ⟨keyword_valid (by decide), by rw [hp]; exact hc.2, by rw [hp]; exact hb⟩
  | @isIn vs =>
    refine ⟨hc.1, ?_⟩
    intro w hw
    simp only [List.mem_cons, List.mem_append, List.not_mem_nil, or_false] at hw
    rcases hw with (rfl | rfl | hw) | rfl
    · exact keyword_valid (by decide)
    · trivial
    · rcases mem_commaSeparated hw with rfl | ⟨_, hvs, hw⟩
      · trivial
      · obtain ⟨v, hv, rfl⟩ := List.mem_map.1 hvs
        rw [List.mem_singleton.1 hw]
        exact hc.2.2 v hv
    · trivial
  | @between lo hi =>
    refine ⟨hc.1, ?_⟩
    simp only [List.mem_cons, List.not_mem_nil, or_false, forall_eq_or_imp, forall_eq]
    exact ⟨keyword_valid (by decide), hc.2.1, keyword_valid (by decide), hc.2.2⟩

/-- Every word of a writable condition is valid. -/
theorem Condition.Words.valid {c : Condition} {ws : List Word} (h : c.Words ws) (hc : c.Writable) :
    ∀ w ∈ ws, w.Valid := by
  induction h with
  | raw =>
    intro w hw
    rw [List.mem_singleton.1 hw]
    exact hc
  | @compare f op v =>
    simp only [List.mem_cons, List.not_mem_nil, or_false, forall_eq_or_imp, forall_eq]
    exact ⟨hc.1.1, op.symbol_mem, hc.2⟩
  | test ht =>
    obtain ⟨hf, hw⟩ := ht.valid hc
    simpa using ⟨hf.1, hw⟩
  | notTest ht =>
    obtain ⟨hf, hw⟩ := ht.valid hc.1
    simpa using ⟨hf.1, keyword_valid (by decide), hw⟩
  | not _ ih => simpa using ⟨keyword_valid (by decide), ih hc.1⟩
  | @junction j l r wl wr _ _ ihl ihr =>
    have hj : Word.Valid (.keyword j.word) := by cases j <;> exact keyword_valid (by decide)
    have hlr : l.Writable ∧ r.Writable := by
      cases j with
      | and => exact ⟨hc.1, hc.2.1⟩
      | or => exact ⟨hc.1, hc.2.1⟩
    intro w hw
    simp only [List.mem_append, List.mem_cons] at hw
    rcases hw with hw | rfl | hw
    · exact ihl hlr.1 w hw
    · exact hj
    · exact ihr hlr.2 w hw
  | group _ ih =>
    intro w hw
    simp only [List.mem_cons, List.mem_append, List.not_mem_nil, or_false] at hw
    rcases hw with (rfl | hw) | rfl
    · trivial
    · exact ih hc w hw
    · trivial

/-! ### Tokens of words -/

theorem ReadAs.cons_inv {w : Word} {ws : List Word} {ts : List Token} (h : ReadAs (w :: ws) ts) :
    ∃ t ts', ts = t :: ts' ∧ w.Reads t ∧ ReadAs ws ts' := by
  cases h with
  | cons ht hts => exact ⟨_, _, rfl, ht, hts⟩

theorem ReadAs.append_inv : ∀ {ws₁ ws₂ : List Word} {ts : List Token}, ReadAs (ws₁ ++ ws₂) ts →
    ∃ ts₁ ts₂, ts = ts₁ ++ ts₂ ∧ ReadAs ws₁ ts₁ ∧ ReadAs ws₂ ts₂
  | [], _, ts, h => ⟨[], ts, rfl, .nil, h⟩
  | _ :: _, _, _, h => by
    obtain ⟨t, ts', rfl, ht, h'⟩ := ReadAs.cons_inv h
    obtain ⟨ts₁, ts₂, rfl, h₁, h₂⟩ := ReadAs.append_inv h'
    exact ⟨t :: ts₁, ts₂, rfl, .cons ht h₁, h₂⟩

/-- No word is read as the end of the input. -/
theorem Word.Reads.kind_ne_eof {w : Word} {t : Token} (h : w.Reads t) : t.kind ≠ .eof := by
  cases w with
  | value v =>
    intro he
    simp [Word.Reads, Token.value?, he] at h
  | keyword | name | str | number | op => rw [h.1]; decide
  | star | comma | lparen | rparen | semicolon => rw [h]; decide

theorem advance_cons {t : Token} {ts : List Token} (h : t.kind ≠ .eof) : advance (t :: ts) = ts := by
  simp [advance, h]

theorem Token.isKeyword_of_kind {t : Token} (h : t.kind ≠ .ident) (kw : String) :
    t.isKeyword kw = false := by
  simp [Token.isKeyword, h]

/-! ### A name is not the keyword NOT -/

/-- A character that lower-cases to an ASCII character is an ASCII character. -/
theorem lowerChar_of_toLower {x y : Char} (hy : y.toNat < 128) (h : x.toLower = y) :
    lowerChar x = y := by
  by_cases hx : x.toNat < 128
  · simp [lowerChar, hx, h]
  · exfalso
    have hxl : x.toLower = x := by
      unfold Char.toLower
      split
      · rename_i hu
        have h2 := UInt32.le_iff_toNat_le.1 hu.2
        have h3 : ('Z'.val).toNat = 90 := rfl
        exact absurd (show x.toNat < 128 by simp only [Char.toNat]; omega) hx
      · rfl
    rw [hxl] at h
    subst h
    exact hx hy

/-- A word that matches a keyword with neither s nor k in it lower-cases to the keyword. -/
theorem map_lowerChar_of_zip : ∀ {xs ys : List Char}, xs.length = ys.length →
    (∀ y ∈ ys, y.toLower = y ∧ y.toNat < 128 ∧ y ≠ 's' ∧ y ≠ 'k') →
    ((xs.zip ys).all fun (x, y) =>
      x.toLower == y.toLower || (x = 'ſ' && y.toLower = 's') || (x = 'K' && y.toLower = 'k')) = true →
    xs.map lowerChar = ys
  | [], [], _, _, _ => rfl
  | x :: xs, y :: ys, hl, hy, h => by
    simp only [List.zip_cons_cons, List.all_cons, Bool.and_eq_true] at h
    obtain ⟨hy1, hy2, hy3, hy4⟩ := hy y List.mem_cons_self
    have hx : x.toLower = y := by
      simpa [hy1, hy3, hy4] using h.1
    rw [List.map_cons, lowerChar_of_toLower hy2 hx,
      map_lowerChar_of_zip (by simpa using hl) (fun z hz => hy z (List.mem_cons_of_mem _ hz)) h.2]
  | [], _ :: _, hl, _, _ | _ :: _, [], hl, _, _ => by simp at hl

/-- An unreserved word never matches NOT. -/
theorem sameWordAscii_not {s : String} (h : isReserved s = false) : sameWordAscii s "not" = false := by
  cases hs : sameWordAscii s "not"
  · rfl
  · unfold sameWordAscii at hs
    simp only [Bool.and_eq_true, beq_iff_eq] at hs
    have hmap := map_lowerChar_of_zip (by rw [String.length_toList, String.length_toList]; exact hs.1)
      (by decide) hs.2
    have hlow : lower s = "not" := by
      rw [lower, hmap]
      rfl
    simp [isReserved, hlow, reservedWords] at h

/-! ### The token readers -/

@[simp] theorem ok_bind {ε α β : Type} (a : α) (f : α → Except ε β) :
    (Except.ok a : Except ε α) >>= f = f a := rfl

section
variable {rest : List Token}

theorem readName_name {what s : String} {t : Token} (h : (Word.name s).Reads t)
    (hs : isReserved s = false) : readName what (t :: rest) = .ok (s, rest) := by
  obtain ⟨hk, rfl⟩ := h
  simp [readName, peek, Token.isName, hk, hs, advance]

theorem readValue_value {v : Value} {t : Token} (h : (Word.value v).Reads t) :
    readValue (t :: rest) = .ok (v, rest) := by
  have hv : t.value? = some v := h
  simp only [readValue, peek, hv, advance_cons h.kind_ne_eof]

theorem expectKind_kind {k : TokenKind} {what : String} {t : Token} (h : t.kind = k) (hk : k ≠ .eof) :
    expectKind k what (t :: rest) = .ok (t, rest) := by
  simp [expectKind, peek, h, advance, hk]

theorem expectKeyword_keyword {kw : String} {t : Token} (h : (Word.keyword kw).Reads t)
    (hkw : sameWordAscii kw kw = true) : expectKeyword kw (t :: rest) = .ok rest := by
  simp [expectKeyword, peek, h.2.2 kw, hkw, advance_cons h.kind_ne_eof]

/-- The set reader reads values separated by commas up to the first token that is no comma. -/
theorem readValues_words : ∀ {vs : List Value} {ts : List Token}, vs ≠ [] →
    ReadAs (commaSeparated (vs.map fun v => [.value v])) ts → (peek rest).kind ≠ .comma →
    readValues (ts ++ rest) = .ok (vs, rest)
  | [v], ts, _, h, hr => by
    obtain ⟨t, _, rfl, ht, h'⟩ := ReadAs.cons_inv h
    cases h'
    have hv : t.value? = some v := ht
    cases rest with
    | nil => simp [readValues, hv]
    | cons u us =>
      have hu : u.kind ≠ .comma := hr
      simp [readValues, hv, hu]
  | v :: v' :: vs, ts, _, h, hr => by
    simp only [List.map_cons, commaSeparated, List.singleton_append] at h
    obtain ⟨t, ts', rfl, ht, h'⟩ := ReadAs.cons_inv h
    obtain ⟨c, ts'', rfl, hc, h''⟩ := ReadAs.cons_inv h'
    have hv : t.value? = some v := ht
    have hc' : c.kind = .comma := hc
    have ih := readValues_words (List.cons_ne_nil v' vs) h'' hr
    simp [readValues, hv, hc', ih]

/-- The test reader reads the words of a test whether or not NOT came before it. -/
theorem TestWords.readTest {f : String} {c : Condition} {ws : List Word} {ts : List Token}
    (h : TestWords f c ws) (hc : c.Writable) (hr : ReadAs ws ts) (neg : Bool) :
    readTest f neg (ts ++ rest) = .ok (c, rest) := by
  cases h with
  | @like p v hp _ =>
    obtain ⟨tl, _, rfl, hl, h'⟩ := ReadAs.cons_inv hr
    obtain ⟨tv, _, rfl, hv, h''⟩ := ReadAs.cons_inv h'
    cases h''
    simp +decide [Query.readTest, peek, hl.1, hl.2.2, advance_cons hl.kind_ne_eof, readValue_value hv, hp]
  | @isIn vs =>
    obtain ⟨tin, _, rfl, hin, h1⟩ := ReadAs.cons_inv hr
    obtain ⟨tlp, _, rfl, hlp, h2⟩ := ReadAs.cons_inv h1
    obtain ⟨tvs, _, rfl, hvs, h3⟩ := ReadAs.append_inv h2
    obtain ⟨trp, _, rfl, hrp, h4⟩ := ReadAs.cons_inv h3
    cases h4
    have hrp' : trp.kind = .rparen := hrp
    have hv : readValues (tvs ++ trp :: rest) = .ok (vs, trp :: rest) :=
      readValues_words hc.2.1 hvs (by simp [peek, hrp'])
    simp +decide [Query.readTest, peek, hin.1, hin.2.2, advance_cons hin.kind_ne_eof,
      expectKind_kind (show tlp.kind = .lparen from hlp), hv, expectKind_kind hrp']
  | @between lo hi =>
    obtain ⟨tb, _, rfl, hb, h1⟩ := ReadAs.cons_inv hr
    obtain ⟨tlo, _, rfl, hlo, h2⟩ := ReadAs.cons_inv h1
    obtain ⟨tand, _, rfl, hand, h3⟩ := ReadAs.cons_inv h2
    obtain ⟨thi, _, rfl, hhi, h4⟩ := ReadAs.cons_inv h3
    cases h4
    simp +decide [Query.readTest, peek, hb.1, hb.2.2, advance_cons hb.kind_ne_eof, readValue_value hlo,
      expectKeyword_keyword hand, readValue_value hhi]

theorem CompareOp.ofSymbol?_symbol (op : CompareOp) : CompareOp.ofSymbol? op.symbol = some op := by
  cases op <;> rfl

/-- A test starts with a keyword other than NOT. -/
theorem TestWords.first {f : String} {c : Condition} {ws : List Word} {ts : List Token}
    (h : TestWords f c ws) (hr : ReadAs ws ts) : (peek (ts ++ rest)).isKeyword "not" = false := by
  cases h <;> obtain ⟨t, _, rfl, ht, -⟩ := ReadAs.cons_inv hr <;> simp +decide [peek, ht.2.2]

theorem TestWords.readPredicate {f : String} {c : Condition} {ws : List Word} {ts : List Token}
    (h : TestWords f c ws) (hc : c.Writable) (hr : ReadAs ws ts) :
    readPredicate f (ts ++ rest) = .ok (c, rest) := by
  rw [Query.readPredicate, if_neg (by rw [h.first hr]; decide), h.readTest hc hr false]

theorem TestWords.readPredicate_not {f : String} {c : Condition} {ws : List Word} {t : Token}
    {ts : List Token} (h : TestWords f c ws) (hc : c.Writable) (hn : (Word.keyword "not").Reads t)
    (hr : ReadAs ws ts) : Query.readPredicate f (t :: ts ++ rest) = .ok (.not c, rest) := by
  simp +decide [Query.readPredicate, peek, hn.2.2, advance_cons hn.kind_ne_eof, h.readTest hc hr true]

theorem readPredicate_compare {f : String} {op : CompareOp} {v : Value} {t u : Token}
    (ho : (Word.op op.symbol).Reads t) (hv : (Word.value v).Reads u) :
    readPredicate f (t :: u :: rest) = .ok (.compare f op v, rest) := by
  have hk : t.isKeyword "not" = false := Token.isKeyword_of_kind (by rw [ho.1]; decide) _
  simp [Query.readPredicate, Query.readTest, peek, hk, ho.1, ho.2, CompareOp.ofSymbol?_symbol,
    advance_cons (show t.kind ≠ .eof by rw [ho.1]; decide), readValue_value hv]

end

/-! ### The fuelled readers -/

/-- The clause reader reads the tokens `ts` as `c`, whatever follows, at every fuel their length
allows. -/
def ReadsNot (c : Condition) (ts : List Token) : Prop :=
  ∀ n, 4 * ts.length + 1 ≤ n → ∀ rest, readNot n (ts ++ rest) = .ok (c, rest)

/-- The conjunction reader reads the tokens `ts` as `c` and is left in its loop with fuel to
spare. -/
def ReadsAnd (c : Condition) (ts : List Token) : Prop :=
  ∀ n, 4 * ts.length + 2 ≤ n → ∀ rest,
    ∃ m, n ≤ m + ts.length ∧ readAnd n (ts ++ rest) = readAndRest m c rest

/-- The disjunction reader reads the tokens `ts` as `c` and is left in its loop with fuel to
spare, when no AND follows. -/
def ReadsOr (c : Condition) (ts : List Token) : Prop :=
  ∀ n, 4 * ts.length + 3 ≤ n → ∀ rest, (peek rest).isKeyword "and" = false →
    ∃ m, n ≤ m + ts.length ∧ readOr n (ts ++ rest) = readOrRest m c rest

theorem readAndRest_stop {m : Nat} {c : Condition} {rest : List Token} (hm : 0 < m)
    (h : (peek rest).isKeyword "and" = false) : readAndRest m c rest = .ok (c, rest) := by
  obtain ⟨k, rfl⟩ := Nat.exists_eq_add_of_lt hm
  simp [readAndRest, h]

theorem readOrRest_stop {m : Nat} {c : Condition} {rest : List Token} (hm : 0 < m)
    (h : (peek rest).isKeyword "or" = false) : readOrRest m c rest = .ok (c, rest) := by
  obtain ⟨k, rfl⟩ := Nat.exists_eq_add_of_lt hm
  simp [readOrRest, h]

section
variable {rest : List Token}

/-- A test on a field: the clause reader finds no NOT and reads a name and what follows it. -/
theorem readNot_field {n : Nat} {f : String} {t : Token} {ts : List Token} {c : Condition}
    (hn : 2 ≤ n) (hf : (Word.name f).Reads t) (hu : isReserved f = false)
    (hp : readPredicate f (ts ++ rest) = .ok (c, rest)) : readNot n (t :: ts ++ rest) = .ok (c, rest) := by
  obtain ⟨k, rfl⟩ := Nat.exists_eq_add_of_le hn
  obtain ⟨hk, rfl⟩ := hf
  rw [show 2 + k = k + 1 + 1 by omega]
  simp [readNot, readPrimary, peek, Token.isKeyword, hk, sameWordAscii_not hu, readName,
    Token.isName, hu, advance, hp]

theorem readsNot_raw {s : String} {t : Token} (ht : (Word.str s).Reads t) : ReadsNot (.raw s) [t] := by
  intro n hn rest
  obtain ⟨k, rfl⟩ : ∃ k, n = k + 1 + 1 := ⟨n - 2, by simp at hn; omega⟩
  obtain ⟨hk, rfl⟩ := ht
  simp [readNot, readPrimary, peek, Token.isKeyword_of_kind (show t.kind ≠ .ident by rw [hk]; decide),
    hk, advance]

theorem ReadsNot.not {c : Condition} {t : Token} {ts : List Token} (ht : (Word.keyword "not").Reads t)
    (h : ReadsNot c ts) : ReadsNot (.not c) (t :: ts) := by
  intro n hn rest
  obtain ⟨k, rfl⟩ : ∃ k, n = k + 1 := ⟨n - 1, by simp at hn; omega⟩
  simp +decide [readNot, peek, ht.2.2, advance_cons ht.kind_ne_eof,
    h k (by simp at hn; omega) rest]

/-- A group: the clause reader reaches the disjunction reader inside the parentheses. -/
theorem ReadsOr.group {c : Condition} {ts : List Token} {tl tr : Token} (h : ReadsOr c ts)
    (hl : Word.lparen.Reads tl) (hr : Word.rparen.Reads tr) :
    ReadsNot (.group c) (tl :: ts ++ [tr]) := by
  intro n hn rest
  have hl' : tl.kind = .lparen := hl
  have hr' : tr.kind = .rparen := hr
  simp only [List.cons_append, List.length_cons, List.length_append, List.length_nil] at hn
  obtain ⟨k, rfl⟩ : ∃ k, n = k + 1 + 1 := ⟨n - 2, by omega⟩
  obtain ⟨m, hm, e⟩ := h k (by omega) (tr :: rest)
    (Token.isKeyword_of_kind (by simp [peek, hr']) _)
  have hstop : readOrRest m c (tr :: rest) = .ok (c, tr :: rest) :=
    readOrRest_stop (by omega) (Token.isKeyword_of_kind (by simp [peek, hr']) _)
  simp [readNot, readPrimary, peek, Token.isKeyword_of_kind (show tl.kind ≠ .ident by rw [hl']; decide),
    hl', advance, e, hstop, expectKind_kind hr']

theorem ReadsNot.and {c : Condition} {ts : List Token} (h : ReadsNot c ts) (hne : ts ≠ []) :
    ReadsAnd c ts := by
  intro n hn rest
  have hlen : 0 < ts.length := List.length_pos_iff.2 hne
  obtain ⟨k, rfl⟩ : ∃ k, n = k + 1 := ⟨n - 1, by omega⟩
  exact ⟨k, by omega, by simp [readAnd, h k (by omega) rest]⟩

theorem ReadsAnd.or {c : Condition} {ts : List Token} (h : ReadsAnd c ts) (hne : ts ≠ []) :
    ReadsOr c ts := by
  intro n hn rest hand
  have hlen : 0 < ts.length := List.length_pos_iff.2 hne
  obtain ⟨k, rfl⟩ : ∃ k, n = k + 1 := ⟨n - 1, by omega⟩
  obtain ⟨m, hm, e⟩ := h k (by omega) rest
  exact ⟨k, by omega, by simp [readOr, e, readAndRest_stop (show 0 < m by omega) hand]⟩

/-- One more AND operand: the conjunction reader's loop reads it and goes on. -/
theorem ReadsAnd.junction {l r : Condition} {tl tr : List Token} {t : Token} (hl : ReadsAnd l tl)
    (ht : (Word.keyword "and").Reads t) (hr : ReadsNot r tr) :
    ReadsAnd (.junction .and l r) (tl ++ t :: tr) := by
  intro n hn rest
  simp only [List.length_append, List.length_cons] at hn
  obtain ⟨m, hm, e⟩ := hl n (by omega) (t :: (tr ++ rest))
  obtain ⟨k, rfl⟩ : ∃ k, m = k + 1 := ⟨m - 1, by omega⟩
  refine ⟨k, by simp only [List.length_append, List.length_cons]; omega, ?_⟩
  rw [List.append_assoc, List.cons_append, e]
  simp +decide [readAndRest, peek, ht.2.2, advance_cons ht.kind_ne_eof, hr k (by omega) rest]

/-- One more OR operand: the disjunction reader's loop reads a conjunction and goes on. -/
theorem ReadsOr.junction {l r : Condition} {tl tr : List Token} {t : Token} (hl : ReadsOr l tl)
    (ht : (Word.keyword "or").Reads t) (hr : ReadsAnd r tr) (hne : tr ≠ []) :
    ReadsOr (.junction .or l r) (tl ++ t :: tr) := by
  intro n hn rest hand
  have hlen : 0 < tr.length := List.length_pos_iff.2 hne
  simp only [List.length_append, List.length_cons] at hn
  obtain ⟨m, hm, e⟩ := hl n (by omega) (t :: (tr ++ rest)) (by simp +decide [peek, ht.2.2])
  obtain ⟨k, rfl⟩ : ∃ k, m = k + 1 := ⟨m - 1, by omega⟩
  obtain ⟨m', hm', e'⟩ := hr k (by omega) rest
  refine ⟨k, by simp only [List.length_append, List.length_cons]; omega, ?_⟩
  rw [List.append_assoc, List.cons_append, e]
  simp +decide [readOrRest, peek, ht.2.2, advance_cons ht.kind_ne_eof, e',
    readAndRest_stop (show 0 < m' by omega) hand]

/-- A clause is also the first operand of a conjunction and of a disjunction. -/
theorem ReadsNot.levels {c : Condition} {ts : List Token} (hne : ts ≠ []) (h : ReadsNot c ts) :
    ts ≠ [] ∧ (c.level = 0 → ReadsNot c ts) ∧ (c.level ≤ 1 → ReadsAnd c ts) ∧ ReadsOr c ts :=
  ⟨hne, fun _ => h, fun _ => h.and hne, (h.and hne).or hne⟩

end

/-- What the readers do with the words of a writable condition, by induction on the words: a
clause is read by the clause reader, a conjunction by the conjunction reader and everything by
the disjunction reader. -/
theorem Condition.Words.reads {c : Condition} {ws : List Word} (h : c.Words ws) (hc : c.Writable)
    {ts : List Token} (hr : ReadAs ws ts) :
    ts ≠ [] ∧ (c.level = 0 → ReadsNot c ts) ∧ (c.level ≤ 1 → ReadsAnd c ts) ∧ ReadsOr c ts := by
  induction h generalizing ts with
  | raw =>
    obtain ⟨t, _, rfl, ht, h'⟩ := ReadAs.cons_inv hr
    cases h'
    exact (readsNot_raw ht).levels (List.cons_ne_nil _ _)
  | compare =>
    obtain ⟨tn, _, rfl, hn, h1⟩ := ReadAs.cons_inv hr
    obtain ⟨top, _, rfl, hop, h2⟩ := ReadAs.cons_inv h1
    obtain ⟨tv, _, rfl, hv, h3⟩ := ReadAs.cons_inv h2
    cases h3
    refine ReadsNot.levels (List.cons_ne_nil _ _) fun n hn' rest => ?_
    exact readNot_field (by simp at hn'; omega) hn hc.1.2 (readPredicate_compare hop hv)
  | test ht =>
    obtain ⟨tn, ts', rfl, hn, h1⟩ := ReadAs.cons_inv hr
    refine ReadsNot.levels (List.cons_ne_nil _ _) fun n hn' rest => ?_
    exact readNot_field (by simp at hn'; omega) hn (ht.valid hc).1.2 (ht.readPredicate hc h1)
  | notTest ht =>
    obtain ⟨tn, _, rfl, hn, h1⟩ := ReadAs.cons_inv hr
    obtain ⟨tnot, ts', rfl, hnot, h2⟩ := ReadAs.cons_inv h1
    refine ReadsNot.levels (List.cons_ne_nil _ _) fun n hn' rest => ?_
    exact readNot_field (by simp at hn'; omega) hn (ht.valid hc.1).1.2
      (ht.readPredicate_not hc.1 hnot h2)
  | not _ ih =>
    obtain ⟨tnot, ts', rfl, hnot, h1⟩ := ReadAs.cons_inv hr
    exact (ReadsNot.not hnot ((ih hc.1 h1).2.1 hc.2)).levels (List.cons_ne_nil _ _)
  | @junction j l r wl wr _ _ ihl ihr =>
    obtain ⟨tl, tr', rfl, hl, h1⟩ := ReadAs.append_inv hr
    obtain ⟨tk, tr, rfl, hk, h2⟩ := ReadAs.cons_inv h1
    have hne : tl ++ tk :: tr ≠ [] := by simp
    cases j with
    | and =>
      obtain ⟨hlw, hrw, hll, hrl⟩ := hc
      have hand := ((ihl hlw hl).2.2.1 hll).junction hk ((ihr hrw h2).2.1 hrl)
      exact ⟨hne, fun h => by simp [Condition.level] at h, fun _ => hand, hand.or hne⟩
    | or =>
      obtain ⟨hlw, hrw, hrl⟩ := hc
      obtain ⟨hner, -, hrand, -⟩ := ihr hrw h2
      exact ⟨hne, fun h => by simp [Condition.level] at h, fun h => by simp [Condition.level] at h,
        (ihl hlw hl).2.2.2.junction hk (hrand hrl) hner⟩
  | group _ ih =>
    obtain ⟨tl, _, rfl, hl, h1⟩ := ReadAs.cons_inv hr
    obtain ⟨ts', tr', rfl, h2, h3⟩ := ReadAs.append_inv h1
    obtain ⟨tr, _, rfl, hrp, h4⟩ := ReadAs.cons_inv h3
    cases h4
    exact ((ih hc h2).2.2.2.group hl hrp).levels (List.cons_ne_nil _ _)

/-- The condition reader reads the words of a writable condition back as the condition, when
neither AND nor OR follows them. -/
theorem readCondition_words {c : Condition} {ws : List Word} {ts rest : List Token}
    (h : c.Words ws) (hc : c.Writable) (hr : ReadAs ws ts)
    (hand : (peek rest).isKeyword "and" = false) (hor : (peek rest).isKeyword "or" = false) :
    readCondition (ts ++ rest) = .ok (c, rest) := by
  obtain ⟨-, -, -, hread⟩ := h.reads hc hr
  have hlen : (ts ++ rest).length = ts.length + rest.length := List.length_append
  obtain ⟨m, hm, e⟩ := hread (8 * ((ts ++ rest).length + 1)) (by omega) rest hand
  rw [readCondition, e, readOrRest_stop (by omega) hor]

end SqlSearch.Query
