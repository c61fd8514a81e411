import SqlSearch.Query.Parser
import SqlSearch.Proofs.Lexeme
import SqlSearch.Proofs.NormalSplit
/-! The shape of the conditions a statement is read into. The readers build left-grouped
junctions: an operand of AND is a clause or, on the left, a conjunction; the right operand of
OR is a conjunction; NOT stands over a clause; everything else is a group. Every field is the
text of an identifier token and every unquoted value the text of an identifier, a number or a
star, so a run of identifier characters (`Condition.formed`).

The readers only consume their tokens (`r <:+ toks`), and what they return is formed when the
lexer's words are identifier texts (`WordTokens`, from `lexFrom_isIdentText`). The condition
readers are one fuelled mutual block; `FormedAt fuel` says what all six return at one fuel and
is proved by induction on it. Main statement: `parse_condition_formed`. -/
namespace SqlSearch.Query

open SqlSearch.Text

/-- A value as a token gives it: quoted, or an identifier text. -/
def Value.fromToken (v : Value) : Bool := v.quoted || isIdentText v.text

namespace Condition

/-- How loosely a condition binds: a clause 0, a conjunction 1, a disjunction 2. -/
def level : Condition → Nat
  | junction .and _ _ => 1
  | junction .or _ _ => 2
  | _ => 0

/-- The conditions the readers build. -/
def formed : Condition → Bool
  | raw _ => true
  | compare f _ v => isIdentText f && v.fromToken
  | like f _ => isIdentText f
  | isIn f vs => isIdentText f && !vs.isEmpty && vs.all Value.fromToken
  | between f lo hi => isIdentText f && lo.fromToken && hi.fromToken
  | not c => c.formed && c.level == 0
  | junction .and l r => l.formed && r.formed && decide (l.level ≤ 1) && r.level == 0
  | junction .or l r => l.formed && r.formed && decide (r.level ≤ 1)
  | group c => c.formed

end Condition

/-- Every identifier and number token has an identifier text. -/
def WordTokens (toks : List Token) : Prop :=
  ∀ t ∈ toks, t.kind = .ident ∨ t.kind = .number → isIdentText t.text = true

theorem WordTokens.suffix {toks r : List Token} (h : WordTokens toks) (hr : r <:+ toks) :
    WordTokens r :=
  fun t ht => h t (hr.subset ht)

theorem WordTokens.peek {toks : List Token} (h : WordTokens toks) :
    (peek toks).kind = .ident ∨ (peek toks).kind = .number → isIdentText (peek toks).text = true := by
  cases toks with
  | nil => simp [Query.peek]
  | cons t ts => exact h t List.mem_cons_self

theorem advance_suffix (toks : List Token) : advance toks <:+ toks := by
  cases toks with
  | nil => exact List.suffix_refl _
  | cons t ts =>
    simp only [advance]
    split
    · exact List.suffix_refl _
    · exact List.suffix_cons t ts

theorem ok_of_bind {ε α β : Type} {x : Except ε α} {f : α → Except ε β} {b : β}
    (h : x >>= f = .ok b) : ∃ a, x = .ok a ∧ f a = .ok b := by
  cases x with
  | error e => cases h
  | ok a => exact ⟨a, rfl, h⟩

theorem ok_of_map {ε α β : Type} {x : Except ε α} {f : α → β} {b : β}
    (h : f <$> x = .ok b) : ∃ a, x = .ok a ∧ b = f a := by
  cases x with
  | error e => cases h
  | ok a => cases h; exact ⟨a, rfl, rfl⟩

theorem failAt_ne_ok {α : Type} {t : Token} {m : String} {a : α} : failAt t m ≠ .ok a := by
  simp [failAt]

/-! What the token readers return, one lemma each. -/

theorem expectKeyword_suffix {kw : String} {toks r : List Token}
    (h : expectKeyword kw toks = .ok r) : r <:+ toks := by
  simp only [expectKeyword] at h
  split at h
  · cases h; exact advance_suffix toks
  · exact absurd h failAt_ne_ok

theorem expectKind_suffix {k : TokenKind} {what : String} {toks r : List Token} {t : Token}
    (h : expectKind k what toks = .ok (t, r)) : r <:+ toks := by
  simp only [expectKind] at h
  split at h
  · cases h; exact advance_suffix toks
  · exact absurd h failAt_ne_ok

theorem readName_spec {what name : String} {toks r : List Token}
    (h : readName what toks = .ok (name, r)) :
    r <:+ toks ∧ (WordTokens toks → isIdentText name = true) := by
  simp only [readName] at h
  split at h
  · rename_i hn
    cases h
    refine ⟨advance_suffix toks, fun hw => hw.peek (.inl ?_)⟩
    simp only [Token.isName, Bool.and_eq_true, decide_eq_true_eq] at hn
    exact hn.1
  · exact absurd h failAt_ne_ok

theorem readNames_suffix {what : String} :
    ∀ {toks r : List Token} {ns : List String}, readNames what toks = .ok (ns, r) → r <:+ toks
  | [], _, _, h => absurd h failAt_ne_ok
  | t :: ts, r, ns, h => by
    unfold readNames at h
    split at h
    · split at h
      · split at h
        · obtain ⟨⟨ns', r'⟩, h', hr⟩ := ok_of_map h
          cases hr
          exact (readNames_suffix h').trans ((List.suffix_cons _ _).trans (List.suffix_cons _ _))
        · cases h; exact List.suffix_cons _ _
      · cases h; exact List.suffix_cons _ _
    · exact absurd h failAt_ne_ok

theorem Token.fromToken_of_value {t : Token} {v : Value} (h : t.value? = some v)
    (hw : t.kind = .ident ∨ t.kind = .number → isIdentText t.text = true) : v.fromToken = true := by
  unfold Token.value? at h
  split at h
  · cases h; rfl
  · rename_i hk; cases h; simp [Value.fromToken, hw (.inr hk)]
  · rename_i hk; cases h; simp [Value.fromToken, hw (.inl hk)]
  · cases h; decide
  · cases h

theorem readValue_spec {toks r : List Token} {v : Value} (h : readValue toks = .ok (v, r)) :
    r <:+ toks ∧ (WordTokens toks → v.fromToken = true) := by
  simp only [readValue] at h
  split at h
  · rename_i v' hv
    cases h
    exact ⟨advance_suffix toks, fun hw => Token.fromToken_of_value hv hw.peek⟩
  · exact absurd h failAt_ne_ok

theorem readValues_spec :
    ∀ {toks r : List Token} {vs : List Value}, readValues toks = .ok (vs, r) →
      r <:+ toks ∧ vs ≠ [] ∧ (WordTokens toks → ∀ v ∈ vs, v.fromToken = true)
  | [], _, _, h => absurd h failAt_ne_ok
  | t :: ts, r, vs, h => by
    unfold readValues at h
    split at h
    · rename_i v hv
      have hv' : WordTokens (t :: ts) → v.fromToken = true := fun hw =>
        Token.fromToken_of_value hv (hw t List.mem_cons_self)
      split at h
      · split at h
        · obtain ⟨⟨vs', r'⟩, h', hr⟩ := ok_of_map h
          cases hr
          obtain ⟨hs, -, hall⟩ := readValues_spec h'
          refine ⟨hs.trans ((List.suffix_cons _ _).trans (List.suffix_cons _ _)),
            List.cons_ne_nil _ _, fun hw => ?_⟩
          rintro w (_ | ⟨_, hw'⟩)
          · exact hv' hw
          · exact hall (hw.suffix ((List.suffix_cons _ _).trans (List.suffix_cons _ _))) w hw'
        · cases h
          exact ⟨List.suffix_cons _ _, List.cons_ne_nil _ _, fun hw w hw' => by
            rw [List.mem_singleton.1 hw']; exact hv' hw⟩
      · cases h
        exact ⟨List.suffix_cons _ _, List.cons_ne_nil _ _, fun hw w hw' => by
          rw [List.mem_singleton.1 hw']; exact hv' hw⟩
    · exact absurd h failAt_ne_ok

/-- A test on a field is a formed clause, read from a suffix of the tokens. -/
theorem readTest_spec {field : String} {negated : Bool} {toks r : List Token} {c : Condition}
    (h : readTest field negated toks = .ok (c, r)) (hf : isIdentText field = true)
    (hw : WordTokens toks) : c.formed = true ∧ c.level = 0 ∧ r <:+ toks := by
  have hadv := advance_suffix toks
  unfold readTest at h
  dsimp only at h
  split at h
  · split at h
    · obtain ⟨⟨v, r1⟩, h1, h2⟩ := ok_of_bind h
      cases h2
      obtain ⟨hs, hv⟩ := readValue_spec h1
      exact ⟨by simp [Condition.formed, hf, hv (hw.suffix hadv)], rfl, hs.trans hadv⟩
    · exact absurd h failAt_ne_ok
  · split at h
    · obtain ⟨⟨v, r1⟩, h1, h2⟩ := ok_of_bind h
      cases h2
      exact ⟨by simp [Condition.formed, hf], rfl, (readValue_spec h1).1.trans hadv⟩
    · split at h
      · obtain ⟨⟨_, r1⟩, h1, h2⟩ := ok_of_bind h
        obtain ⟨⟨vs, r2⟩, h3, h4⟩ := ok_of_bind h2
        obtain ⟨⟨_, r3⟩, h5, h6⟩ := ok_of_bind h4
        cases h6
        have hs1 := (expectKind_suffix h1).trans hadv
        obtain ⟨hs2, hne, hvs⟩ := readValues_spec h3
        have hs3 := expectKind_suffix h5
        refine ⟨?_, rfl, hs3.trans (hs2.trans hs1)⟩
        simp only [Condition.formed, hf, Bool.true_and, Bool.and_eq_true, Bool.not_eq_true',
          List.isEmpty_eq_false_iff, List.all_eq_true]
        exact ⟨hne, hvs (hw.suffix hs1)⟩
      · split at h
        · obtain ⟨⟨lo, r1⟩, h1, h2⟩ := ok_of_bind h
          obtain ⟨r2, h3, h4⟩ := ok_of_bind h2
          obtain ⟨⟨hi, r3⟩, h5, h6⟩ := ok_of_bind h4
          cases h6
          obtain ⟨hs1, hlo⟩ := readValue_spec h1
          have hs2 := expectKeyword_suffix h3
          obtain ⟨hs3, hhi⟩ := readValue_spec h5
          have hs12 := hs2.trans (hs1.trans hadv)
          refine ⟨?_, rfl, hs3.trans hs12⟩
          simp [Condition.formed, hf, hlo (hw.suffix hadv), hhi (hw.suffix hs12)]
        · split at h <;> exact absurd h failAt_ne_ok

/-- A test on a field after an optional NOT. -/
theorem readPredicate_spec {field : String} {toks r : List Token} {c : Condition}
    (h : readPredicate field toks = .ok (c, r)) (hf : isIdentText field = true)
    (hw : WordTokens toks) : c.formed = true ∧ c.level = 0 ∧ r <:+ toks := by
  unfold readPredicate at h
  split at h
  · obtain ⟨⟨c', r'⟩, h1, h2⟩ := ok_of_map h
    cases h2
    have hadv := advance_suffix toks
    obtain ⟨hc, hl, hs⟩ := readTest_spec h1 hf (hw.suffix hadv)
    exact ⟨by simp [Condition.formed, hc, hl], rfl, hs.trans hadv⟩
  · exact readTest_spec h hf hw

/-- What the six condition readers return at one fuel, for tokens whose words are identifier
texts: a formed condition of the reader's level, and a suffix of the tokens. -/
structure FormedAt (fuel : Nat) : Prop where
  or : ∀ {toks r c}, WordTokens toks → readOr fuel toks = .ok (c, r) →
    c.formed = true ∧ r <:+ toks
  orRest : ∀ {left toks r c}, WordTokens toks → left.formed = true →
    readOrRest fuel left toks = .ok (c, r) → c.formed = true ∧ r <:+ toks
  and : ∀ {toks r c}, WordTokens toks → readAnd fuel toks = .ok (c, r) →
    c.formed = true ∧ c.level ≤ 1 ∧ r <:+ toks
  andRest : ∀ {left toks r c}, WordTokens toks → left.formed = true → left.level ≤ 1 →
    readAndRest fuel left toks = .ok (c, r) → c.formed = true ∧ c.level ≤ 1 ∧ r <:+ toks
  not : ∀ {toks r c}, WordTokens toks → readNot fuel toks = .ok (c, r) →
    c.formed = true ∧ c.level = 0 ∧ r <:+ toks
  primary : ∀ {toks r c}, WordTokens toks → readPrimary fuel toks = .ok (c, r) →
    c.formed = true ∧ c.level = 0 ∧ r <:+ toks

/-- One more unit of fuel: each reader calls the others at the fuel below. -/
theorem FormedAt.succ {fuel : Nat} (ih : FormedAt fuel) : FormedAt (fuel + 1) where
  or {toks r c} hw h := by
    simp only [readOr] at h
    obtain ⟨⟨l, r1⟩, h1, h2⟩ := ok_of_bind h
    obtain ⟨hl, -, hs1⟩ := ih.and hw h1
    obtain ⟨hc, hs2⟩ := ih.orRest (hw.suffix hs1) hl h2
    exact ⟨hc, hs2.trans hs1⟩
  orRest {left toks r c} hw hleft h := by
    simp only [readOrRest] at h
    split at h
    · have hadv := advance_suffix toks
      obtain ⟨⟨right, r1⟩, h1, h2⟩ := ok_of_bind h
      obtain ⟨hr, hrl, hs1⟩ := ih.and (hw.suffix hadv) h1
      have hj : (Condition.junction .or left right).formed = true := by
        simp [Condition.formed, hleft, hr, hrl]
      obtain ⟨hc, hs2⟩ := ih.orRest (hw.suffix (hs1.trans hadv)) hj h2
      exact ⟨hc, hs2.trans (hs1.trans hadv)⟩
    · cases h
      exact ⟨hleft, List.suffix_refl _⟩
  and {toks r c} hw h := by
    simp only [readAnd] at h
    obtain ⟨⟨l, r1⟩, h1, h2⟩ := ok_of_bind h
    obtain ⟨hl, hl0, hs1⟩ := ih.not hw h1
    obtain ⟨hc, hcl, hs2⟩ := ih.andRest (hw.suffix hs1) hl (by omega) h2
    exact ⟨hc, hcl, hs2.trans hs1⟩
  andRest {left toks r c} hw hleft hll h := by
    simp only [readAndRest] at h
    split at h
    · have hadv := advance_suffix toks
      obtain ⟨⟨right, r1⟩, h1, h2⟩ := ok_of_bind h
      obtain ⟨hr, hr0, hs1⟩ := ih.not (hw.suffix hadv) h1
      have hj : (Condition.junction .and left right).formed = true := by
        simp [Condition.formed, hleft, hr, hll, hr0]
      obtain ⟨hc, hcl, hs2⟩ := ih.andRest (hw.suffix (hs1.trans hadv)) hj (Nat.le_refl 1) h2
      exact ⟨hc, hcl, hs2.trans (hs1.trans hadv)⟩
    · cases h
      exact ⟨hleft, hll, List.suffix_refl _⟩
  not {toks r c} hw h := by
    simp only [readNot] at h
    split at h
    · have hadv := advance_suffix toks
      obtain ⟨⟨c', r'⟩, h1, h2⟩ := ok_of_map h
      cases h2
      obtain ⟨hc, hc0, hs⟩ := ih.not (hw.suffix hadv) h1
      exact ⟨by simp [Condition.formed, hc, hc0], rfl, hs.trans hadv⟩
    · exact ih.primary hw h
  primary {toks r c} hw h := by
    simp only [readPrimary] at h
    have hadv := advance_suffix toks
    split at h
    · obtain ⟨⟨c', r1⟩, h1, h2⟩ := ok_of_bind h
      obtain ⟨⟨_, r2⟩, h3, h4⟩ := ok_of_bind h2
      cases h4
      obtain ⟨hc, hs1⟩ := ih.or (hw.suffix hadv) h1
      exact ⟨hc, rfl, (expectKind_suffix h3).trans (hs1.trans hadv)⟩
    · cases h
      exact ⟨rfl, rfl, hadv⟩
    · obtain ⟨⟨field, r1⟩, h1, h2⟩ := ok_of_bind h
      obtain ⟨hs1, hf⟩ := readName_spec h1
      obtain ⟨hc, hc0, hs2⟩ := readPredicate_spec h2 (hf hw) (hw.suffix hs1)
      exact ⟨hc, hc0, hs2.trans hs1⟩

theorem readPreambleClause_suffix {p p' : Preamble} {toks r : List Token}
    (h : readPreambleClause p toks = .ok (p', r)) : r <:+ toks := by
  have hadv := advance_suffix toks
  unfold readPreambleClause at h
  dsimp only at h
  split at h
  · split at h
    · exact absurd h failAt_ne_ok
    · obtain ⟨⟨fs, r1⟩, h1, h2⟩ := ok_of_bind h
      cases h2
      exact (readNames_suffix h1).trans hadv
  · split at h
    · split at h
      · exact absurd h failAt_ne_ok
      · obtain ⟨⟨name, r1⟩, h1, h2⟩ := ok_of_bind h
        split at h2
        · obtain ⟨⟨body, r2⟩, h3, h4⟩ := ok_of_bind h2
          cases h4
          exact (expectKind_suffix h3).trans ((advance_suffix r1).trans ((readName_spec h1).1.trans hadv))
        · exact absurd h2 failAt_ne_ok
    · cases h
      exact List.suffix_refl _

theorem readFields_suffix {fs : List String} {toks r : List Token}
    (h : readFields toks = .ok (fs, r)) : r <:+ toks := by
  unfold readFields at h
  split at h
  · split at h
    · cases h
      exact List.suffix_cons _ _
    · split at h
      · obtain ⟨⟨_, r1⟩, h1, h2⟩ := ok_of_bind h
        obtain ⟨⟨_, r2⟩, h3, h4⟩ := ok_of_bind h2
        cases h4
        exact (expectKind_suffix h3).trans ((expectKind_suffix h1).trans
          ((List.suffix_cons _ _).trans (List.suffix_cons _ _)))
      · exact readNames_suffix h
  · split at h
    · cases h
      exact advance_suffix toks
    · exact readNames_suffix h

theorem ite_bind_eq {ε α β : Type} {c : Prop} [Decidable c] (x y : Except ε α)
    (f : α → Except ε β) : (if c then x >>= f else y >>= f) = (if c then x else y) >>= f := by
  split <;> rfl

/-- A statement that reads is read from the tokens its text lexes to, and their words are
identifier texts. -/
theorem parse_readStatement {text : String} {q : Statement} (h : parse text = .ok q) :
    ∃ toks, WordTokens toks ∧ readStatement toks = .ok q := by
  unfold parse at h
  dsimp only at h
  split at h
  · rename_i q' h'
    cases h
    obtain ⟨toks, hlex, hread⟩ := ok_of_bind h'
    exact ⟨toks, lexFrom_isIdentText hlex, hread⟩
  · cases h

theorem mem_of_mem_trimBlank {c : Char} {s : String} (h : c ∈ (trimBlank s).toList) :
    c ∈ s.toList := by
  rw [trimBlank_toList, List.mem_reverse] at h
  exact (List.dropWhile_sublist _).subset (List.mem_reverse.1 ((List.dropWhile_sublist _).subset h))

/-- Normalisation keeps an ASCII text as it is, so such a text is read from its trimmed form. -/
theorem parse_toOption_ascii {text : String} (h : ∀ c ∈ text.toList, c.toNat < 0x80) :
    (parse text).toOption = (lex (trimBlank text) >>= readStatement).toOption := by
  have hnorm : nfc (trimBlank text) = trimBlank text :=
    Normal.nfc_ascii fun c hc => h c (mem_of_mem_trimBlank hc)
  unfold parse
  dsimp only
  rw [hnorm]
  split <;> rename_i heq <;> rw [heq] <;> rfl

end SqlSearch.Query
