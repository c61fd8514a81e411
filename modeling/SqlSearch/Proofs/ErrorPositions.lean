import SqlSearch.Proofs.ConditionShape
/-! Where a failed reading points. The lexer leaves its tokens ended by exactly one end-of-input
token (`Ended`), every token at a position of the text, the end of input at its end. Each reader
of the grammar, given such tokens, either fails at one of them or leaves a suffix that is still
ended (`Confined`); the readers are built from a few steps that keep this, so a failed statement
points at the start of one of its tokens. A text that does not lex fails at the character where
lexing stopped: the opening quote of an unterminated string, or the character it cannot read.

Main statement: `parse_error_located`. The caret line therefore puts its mark under a character
of the text or just past its end. -/

namespace SqlSearch.Query

/-! ### Ended token lists -/

/-- Tokens as the lexer leaves them: tokens other than the end of input, then the end of
input. -/
inductive Ended : List Token → Prop
  | eof {t : Token} : t.kind = .eof → Ended [t]
  | cons {t : Token} {ts : List Token} : t.kind ≠ .eof → Ended ts → Ended (t :: ts)

namespace Ended

theorem ne_nil {toks : List Token} (h : Ended toks) : toks ≠ [] := by
  cases h <;> simp

theorem peek_mem {toks : List Token} (h : Ended toks) : peek toks ∈ toks := by
  cases h <;> simp [peek]

/-- The end of input is never consumed. -/
theorem advance {toks : List Token} (h : Ended toks) : Ended (Query.advance toks) := by
  cases h with
  | eof ht => simpa [Query.advance, ht] using Ended.eof ht
  | cons ht hts => simpa [Query.advance, ht] using hts

theorem tail {t : Token} {ts : List Token} (h : Ended (t :: ts)) (ht : t.kind ≠ .eof) :
    Ended ts := by
  cases h with
  | eof he => exact absurd he ht
  | cons _ hts => exact hts

theorem last {t : Token} (h : Ended [t]) : t.kind = .eof := by
  cases h with
  | eof ht => exact ht
  | cons _ hnil => exact absurd rfl hnil.ne_nil

theorem suffix {toks r : List Token} (h : Ended toks) (hr : r <:+ toks) (hne : r ≠ []) :
    Ended r := by
  induction h with
  | @eof t ht =>
    rcases List.suffix_cons_iff.1 hr with rfl | hr'
    · exact .eof ht
    · exact absurd (List.suffix_nil.1 hr') hne
  | @cons t ts ht hts ih =>
    rcases List.suffix_cons_iff.1 hr with rfl | hr'
    · exact .cons ht hts
    · exact ih hr'

end Ended

/-! ### Confined readers -/

/-- What a reader's result on `toks` guarantees: a failure points at one of the tokens, and a
success leaves (as `rest` gives it) a suffix of them that is still ended. -/
def Confined {β : Type} (rest : β → List Token) (toks : List Token) :
    Except SyntaxError β → Prop
  | .error e => ∃ t ∈ toks, t.pos = e.offset
  | .ok b => rest b <:+ toks ∧ Ended (rest b)

section Confined

variable {β γ : Type} {rest : β → List Token} {rest' : γ → List Token} {toks : List Token}

theorem Confined.mono {r : List Token} {x : Except SyntaxError β} (hr : r <:+ toks)
    (h : Confined rest r x) : Confined rest toks x := by
  cases x with
  | error e =>
    obtain ⟨t, ht, he⟩ := h
    exact ⟨t, hr.subset ht, he⟩
  | ok b => exact ⟨h.1.trans hr, h.2⟩

/-- A step after a confined one is confined in what the first leaves. -/
theorem Confined.bind {x : Except SyntaxError β} {f : β → Except SyntaxError γ}
    (hx : Confined rest toks x) (hf : ∀ b, Ended (rest b) → Confined rest' (rest b) (f b)) :
    Confined rest' toks (x >>= f) := by
  cases x with
  | error e => exact hx
  | ok b => exact (hf b hx.2).mono hx.1

theorem Confined.map {x : Except SyntaxError β} {g : β → γ} (hx : Confined rest toks x)
    (hg : ∀ b, rest' (g b) = rest b) : Confined rest' toks (g <$> x) := by
  cases x with
  | error e => exact hx
  | ok b =>
    show Confined rest' toks (.ok (g b))
    rw [Confined, hg]
    exact hx

theorem confined_failAt {t : Token} {m : String} (ht : t ∈ toks) :
    Confined rest toks (failAt t m : Except SyntaxError β) :=
  ⟨t, ht, rfl⟩

theorem confined_advance {α : Type} (h : Ended toks) (a : α) :
    Confined Prod.snd toks (.ok (a, advance toks)) :=
  ⟨advance_suffix toks, h.advance⟩

theorem confined_stay {α : Type} (h : Ended toks) (a : α) :
    Confined Prod.snd toks (.ok (a, toks)) :=
  ⟨List.suffix_refl toks, h⟩

end Confined

/-! ### The token readers -/

section Readers

variable {toks : List Token}

theorem expectKeyword_confined (kw : String) (h : Ended toks) :
    Confined id toks (expectKeyword kw toks) := by
  unfold expectKeyword
  dsimp only
  split
  · exact ⟨advance_suffix toks, h.advance⟩
  · exact confined_failAt h.peek_mem

theorem expectKind_confined (k : TokenKind) (what : String) (h : Ended toks) :
    Confined Prod.snd toks (expectKind k what toks) := by
  unfold expectKind
  dsimp only
  split
  · exact confined_advance h _
  · exact confined_failAt h.peek_mem

theorem readName_confined (what : String) (h : Ended toks) :
    Confined Prod.snd toks (readName what toks) := by
  unfold readName
  dsimp only
  split
  · exact confined_advance h _
  · exact confined_failAt h.peek_mem

theorem readValue_confined (h : Ended toks) : Confined Prod.snd toks (readValue toks) := by
  unfold readValue
  dsimp only
  split
  · exact confined_advance h _
  · exact confined_failAt h.peek_mem

/-- A token that is read as a name, a value or a number is not the end of input. -/
theorem Ended.of_comma {t u : Token} {us : List Token} (h : Ended (t :: u :: us))
    (ht : t.kind ≠ .eof) (hu : u.kind = .comma) : Ended us :=
  (h.tail ht).tail (by simp [hu])

theorem Token.isName_kind {t : Token} (h : t.isName = true) : t.kind ≠ .eof := by
  simp only [Token.isName, Bool.and_eq_true, decide_eq_true_eq] at h
  simp [h.1]

theorem Token.value?_kind {t : Token} {v : Value} (h : t.value? = some v) : t.kind ≠ .eof := by
  intro he
  simp [Token.value?, he] at h

theorem readNames_confined (what : String) (h : Ended toks) :
    Confined Prod.snd toks (readNames what toks) := by
  fun_induction readNames what toks with
  | case1 => exact absurd rfl h.ne_nil
  | case2 t hn u us hu ih =>
    exact Confined.mono ((List.suffix_cons _ _).trans (List.suffix_cons _ _))
      ((ih (h.of_comma (Token.isName_kind hn) hu)).map fun ⟨_, _⟩ => rfl)
  | case3 t hn u us _ =>
    exact ⟨List.suffix_cons _ _, h.tail (Token.isName_kind hn)⟩
  | case4 t hn => exact absurd rfl (h.tail (Token.isName_kind hn)).ne_nil
  | case5 t ts _ => exact confined_failAt List.mem_cons_self

theorem readValues_confined (h : Ended toks) : Confined Prod.snd toks (readValues toks) := by
  fun_induction readValues toks with
  | case1 => exact absurd rfl h.ne_nil
  | case2 t v hv u us hu ih =>
    exact Confined.mono ((List.suffix_cons _ _).trans (List.suffix_cons _ _))
      ((ih (h.of_comma (Token.value?_kind hv) hu)).map fun ⟨_, _⟩ => rfl)
  | case3 t v hv u us _ =>
    exact ⟨List.suffix_cons _ _, h.tail (Token.value?_kind hv)⟩
  | case4 t v hv => exact absurd rfl (h.tail (Token.value?_kind hv)).ne_nil
  | case5 t ts _ => exact confined_failAt List.mem_cons_self

theorem readTest_confined (field : String) (negated : Bool) (h : Ended toks) :
    Confined Prod.snd toks (readTest field negated toks) := by
  have hadv := advance_suffix toks
  have hnext := h.advance
  unfold readTest
  dsimp only
  split
  · split
    · exact ((readValue_confined hnext).mono hadv).bind fun ⟨_, _⟩ hr => confined_stay hr _
    · exact confined_failAt h.peek_mem
  · split
    · exact ((readValue_confined hnext).mono hadv).bind fun ⟨_, _⟩ hr => confined_stay hr _
    split
    · -- IN: an opening parenthesis, values, a closing parenthesis
      exact ((expectKind_confined _ _ hnext).mono hadv).bind fun ⟨_, _⟩ h1 =>
        (readValues_confined h1).bind fun ⟨_, _⟩ h2 =>
          (expectKind_confined _ _ h2).bind fun ⟨_, _⟩ h3 => confined_stay h3 _
    split
    · -- BETWEEN: a value, AND, a value
      exact ((readValue_confined hnext).mono hadv).bind fun ⟨_, _⟩ h1 =>
        (expectKeyword_confined _ h1).bind fun _ h2 =>
          (readValue_confined h2).bind fun ⟨_, _⟩ h3 => confined_stay h3 _
    split <;> exact confined_failAt h.peek_mem

theorem readPredicate_confined (field : String) (h : Ended toks) :
    Confined Prod.snd toks (readPredicate field toks) := by
  unfold readPredicate
  split
  · exact ((readTest_confined field true h.advance).map fun ⟨_, _⟩ => rfl).mono (advance_suffix toks)
  · exact readTest_confined field false h

end Readers

/-! ### The condition readers -/

/-- The six condition readers at one fuel are confined on ended tokens. -/
structure ConfinedAt (fuel : Nat) : Prop where
  or : ∀ {toks}, Ended toks → Confined Prod.snd toks (readOr fuel toks)
  orRest : ∀ {left toks}, Ended toks → Confined Prod.snd toks (readOrRest fuel left toks)
  and : ∀ {toks}, Ended toks → Confined Prod.snd toks (readAnd fuel toks)
  andRest : ∀ {left toks}, Ended toks → Confined Prod.snd toks (readAndRest fuel left toks)
  not : ∀ {toks}, Ended toks → Confined Prod.snd toks (readNot fuel toks)
  primary : ∀ {toks}, Ended toks → Confined Prod.snd toks (readPrimary fuel toks)

/-- Out of fuel, every reader fails at the next token. -/
theorem confinedAt_zero : ConfinedAt 0 where
  or h := by simp only [readOr]; exact confined_failAt h.peek_mem
  orRest h := by simp only [readOrRest]; exact confined_failAt h.peek_mem
  and h := by simp only [readAnd]; exact confined_failAt h.peek_mem
  andRest h := by simp only [readAndRest]; exact confined_failAt h.peek_mem
  not h := by simp only [readNot]; exact confined_failAt h.peek_mem
  primary h := by simp only [readPrimary]; exact confined_failAt h.peek_mem

/-- One more unit of fuel: each reader calls the others at the fuel below. -/
theorem ConfinedAt.succ {fuel : Nat} (ih : ConfinedAt fuel) : ConfinedAt (fuel + 1) where
  or h := by
    simp only [readOr]
    exact (ih.and h).bind fun _ h1 => ih.orRest h1
  orRest {_ toks} h := by
    simp only [readOrRest]
    split
    · exact ((ih.and h.advance).mono (advance_suffix toks)).bind fun _ h1 => ih.orRest h1
    · exact confined_stay h _
  and h := by
    simp only [readAnd]
    exact (ih.not h).bind fun _ h1 => ih.andRest h1
  andRest {_ toks} h := by
    simp only [readAndRest]
    split
    · exact ((ih.not h.advance).mono (advance_suffix toks)).bind fun _ h1 => ih.andRest h1
    · exact confined_stay h _
  not {toks} h := by
    simp only [readNot]
    split
    · exact ((ih.not h.advance).map (g := fun x => (x.1.not, x.2)) fun _ => rfl).mono
        (advance_suffix toks)
    · exact ih.primary h
  primary {toks} h := by
    simp only [readPrimary]
    split
    · exact ((ih.or h.advance).mono (advance_suffix toks)).bind fun _ h1 =>
        (expectKind_confined _ _ h1).bind fun _ h2 => confined_stay h2 _
    · exact confined_advance h _
    · exact (readName_confined _ h).bind fun _ h1 => readPredicate_confined _ h1

theorem confinedAt (fuel : Nat) : ConfinedAt fuel := by
  induction fuel with
  | zero => exact confinedAt_zero
  | succ n ih => exact ih.succ

theorem readCondition_confined {toks : List Token} (h : Ended toks) :
    Confined Prod.snd toks (readCondition toks) :=
  (confinedAt _).or h


/-! ### The clauses of a statement -/

section Clauses

variable {toks : List Token}

theorem Token.isKeyword_kind {t : Token} {kw : String} (h : t.isKeyword kw = true) :
    t.kind ≠ .eof := by
  simp only [Token.isKeyword, Bool.and_eq_true, decide_eq_true_eq] at h
  simp [h.1]

theorem Token.isDirection_kind {t : Token} (h : t.isDirection = true) : t.kind ≠ .eof := by
  simp only [Token.isDirection, Bool.or_eq_true] at h
  exact h.elim Token.isKeyword_kind Token.isKeyword_kind

theorem readSortKeys_confined (h : Ended toks) : Confined Prod.snd toks (readSortKeys toks) := by
  fun_induction readSortKeys toks with
  | case1 => exact absurd rfl h.ne_nil
  | case2 t ht d u us hd hu ih =>
    have h1 := h.tail (Token.isName_kind ht)
    exact Confined.mono (((List.suffix_cons _ _).trans (List.suffix_cons _ _)).trans
      (List.suffix_cons _ _)) ((ih (h1.of_comma (Token.isDirection_kind hd) hu)).map fun ⟨_, _⟩ => rfl)
  | case3 t ht d u us hd _ =>
    have h1 := h.tail (Token.isName_kind ht)
    exact ⟨(List.suffix_cons _ _).trans (List.suffix_cons _ _), h1.tail (Token.isDirection_kind hd)⟩
  | case4 t ht d u us _ hd ih =>
    have h1 := h.tail (Token.isName_kind ht)
    exact Confined.mono ((List.suffix_cons _ _).trans (List.suffix_cons _ _))
      ((ih (h1.tail (by simp [hd]))).map fun ⟨_, _⟩ => rfl)
  | case5 t ht d u us _ _ => exact ⟨List.suffix_cons _ _, h.tail (Token.isName_kind ht)⟩
  | case6 t ht d hd =>
    -- the last token is the end of input, no direction
    exact absurd (h.tail (Token.isName_kind ht)).last (Token.isDirection_kind hd)
  | case7 t ht d _ hd _ =>
    -- nor a comma
    exact absurd (h.tail (Token.isName_kind ht)).last (by simp [hd])
  | case8 t ht d _ _ => exact ⟨List.suffix_cons _ _, h.tail (Token.isName_kind ht)⟩
  | case9 t ht => exact absurd rfl (h.tail (Token.isName_kind ht)).ne_nil
  | case10 t ts _ => exact confined_failAt List.mem_cons_self

theorem readLimits_confined (h : Ended toks) : Confined Prod.snd toks (readLimits toks) := by
  fun_induction readLimits toks with
  | case1 => exact absurd rfl h.ne_nil
  | case2 t ht n _ u us hu ih =>
    exact Confined.mono ((List.suffix_cons _ _).trans (List.suffix_cons _ _))
      ((ih (h.of_comma (by simp [ht]) hu)).map fun ⟨_, _⟩ => rfl)
  | case3 t ht n _ u us _ => exact ⟨List.suffix_cons _ _, h.tail (by simp [ht])⟩
  | case4 t ht n _ => exact absurd rfl (h.tail (by simp [ht])).ne_nil
  | case5 t ts _ _ | case6 t ts _ => exact confined_failAt List.mem_cons_self

theorem readFields_confined (h : Ended toks) : Confined Prod.snd toks (readFields toks) := by
  unfold readFields
  split
  · rename_i t u r
    split
    · exact ⟨List.suffix_cons _ _, h.tail (by simp [*])⟩
    split
    · -- `count(*)`: the tokens after the parenthesis hold a star and its closing parenthesis
      rename_i hc
      simp only [Bool.and_eq_true, decide_eq_true_eq] at hc
      have hu := h.tail (Token.isKeyword_kind hc.1)
      have hr := hu.tail (by simp [hc.2])
      exact ((expectKind_confined _ _ hr).mono ((List.suffix_cons _ _).trans
        (List.suffix_cons _ _))).bind fun ⟨_, _⟩ h1 =>
          (expectKind_confined _ _ h1).bind fun ⟨_, _⟩ h2 => confined_stay h2 _
    · exact readNames_confined _ h
  · split
    · exact confined_advance h _
    · exact readNames_confined _ h

theorem readPreambleClause_confined (p : Preamble) (h : Ended toks) :
    Confined Prod.snd toks (readPreambleClause p toks) := by
  have hadv := advance_suffix toks
  unfold readPreambleClause
  dsimp only
  split
  · split
    · exact confined_failAt h.peek_mem
    · exact ((readNames_confined _ h.advance).mono hadv).bind fun ⟨_, _⟩ h1 => confined_stay h1 _
  · split
    · split
      · exact confined_failAt h.peek_mem
      · -- SCRIPT: a name, `=` and the quoted script
        refine ((readName_confined _ h.advance).mono hadv).bind fun ⟨_, r⟩ h1 => ?_
        dsimp only
        split
        · exact ((expectKind_confined _ _ h1.advance).mono (advance_suffix r)).bind
            fun ⟨_, _⟩ h2 => confined_stay h2 _
        · exact confined_failAt h1.peek_mem
    · exact confined_stay h _

end Clauses

/-! ### The statement -/

/-- A failure of `x` points at one of the tokens. -/
def FailsWithin {β : Type} (toks : List Token) (x : Except SyntaxError β) : Prop :=
  ∀ e, x = .error e → ∃ t ∈ toks, t.pos = e.offset

/-- A last step after a confined one fails within what the first leaves. -/
theorem Confined.bind_fails {β γ : Type} {rest : β → List Token} {toks : List Token}
    {x : Except SyntaxError β} {f : β → Except SyntaxError γ} (hx : Confined rest toks x)
    (hf : ∀ b, Ended (rest b) → FailsWithin (rest b) (f b)) : FailsWithin toks (x >>= f) := by
  intro e he
  cases x with
  | error e' =>
    cases he
    exact hx
  | ok b =>
    obtain ⟨t, ht, hpos⟩ := hf b hx.2 e he
    exact ⟨t, hx.1.subset ht, hpos⟩

theorem FailsWithin.mono {β : Type} {toks r : List Token} {x : Except SyntaxError β}
    (h : FailsWithin r x) (hr : r <:+ toks) : FailsWithin toks x := fun e he =>
  (h e he).imp fun _ ⟨ht, hpos⟩ => ⟨hr.subset ht, hpos⟩

/-- What is left must be the end of input. -/
theorem fails_at_end {β : Type} {r : List Token} (h : Ended r) (q : β) (m : String) :
    FailsWithin r (if (peek r).kind ≠ .eof then failAt (peek r) m else pure q) := by
  intro e he
  split at he
  · cases he
    exact ⟨_, h.peek_mem, rfl⟩
  · cases he

/-- A clause that may be left out, then the rest of the statement. -/
theorem Confined.ite_bind_fails {β γ : Type} {rest : β → List Token} {toks : List Token}
    {c : Prop} [Decidable c] {x y : Except SyntaxError β} {f : β → Except SyntaxError γ}
    (hx : Confined rest toks x) (hy : Confined rest toks y)
    (hf : ∀ b, Ended (rest b) → FailsWithin (rest b) (f b)) :
    FailsWithin toks (if c then x >>= f else y >>= f) := by
  split
  · exact hx.bind_fails hf
  · exact hy.bind_fails hf

/-- A clause of a keyword pair and a list that may be left out, then the rest. -/
theorem Confined.ite_bind_bind_fails {β γ : Type} {rest : β → List Token} {toks : List Token}
    {c : Prop} [Decidable c] {x : Except SyntaxError (List Token)}
    {g : List Token → Except SyntaxError β} {y : Except SyntaxError β} {f : β → Except SyntaxError γ}
    (hx : Confined id toks x) (hg : ∀ r, Ended r → Confined rest r (g r)) (hy : Confined rest toks y)
    (hf : ∀ b, Ended (rest b) → FailsWithin (rest b) (f b)) :
    FailsWithin toks (if c then x >>= fun r => g r >>= f else y >>= f) := by
  split
  · exact hx.bind_fails fun r hr => (hg r hr).bind_fails hf
  · exact hy.bind_fails hf

/-- A statement that fails to read fails at one of its tokens. -/
theorem readStatement_fails {toks : List Token} (h : Ended toks) :
    FailsWithin toks (readStatement toks) := by
  unfold readStatement
  refine (expectKeyword_confined _ h).bind_fails fun r1 h1 => ?_
  refine (readPreambleClause_confined _ h1).bind_fails fun ⟨_, r2⟩ h2 => ?_
  refine (readPreambleClause_confined _ h2).bind_fails fun ⟨_, r3⟩ h3 => ?_
  refine (readPreambleClause_confined _ h3).bind_fails fun ⟨_, r4⟩ h4 => ?_
  refine (readFields_confined h4).bind_fails fun ⟨_, r5⟩ h5 => ?_
  refine (expectKeyword_confined _ h5).bind_fails fun r6 h6 => ?_
  refine (readName_confined _ h6).bind_fails fun ⟨_, r7⟩ h7 => ?_
  -- WHERE, FILTER, ORDER BY and LIMIT, each read only after its keyword
  refine Confined.ite_bind_fails ?_ (confined_stay h7 _) fun ⟨_, r8⟩ h8 => ?_
  · exact ((readCondition_confined h7.advance).map fun ⟨_, _⟩ => rfl).mono (advance_suffix r7)
  refine Confined.ite_bind_fails ?_ (confined_stay h8 _) fun ⟨_, r9⟩ h9 => ?_
  · exact ((readCondition_confined h8.advance).map fun ⟨_, _⟩ => rfl).mono (advance_suffix r8)
  refine Confined.ite_bind_bind_fails ((expectKeyword_confined _ h9.advance).mono (advance_suffix r9))
    (fun _ h => readSortKeys_confined h) (confined_stay h9 _) fun ⟨_, r10⟩ h10 => ?_
  refine Confined.ite_bind_fails ((readLimits_confined h10.advance).mono (advance_suffix r10))
    (confined_stay h10 _) fun ⟨_, r11⟩ h11 => ?_
  -- an optional semicolon, then the end of input
  have h12 : Ended (if (peek r11).kind = .semicolon then advance r11 else r11) ∧
      (if (peek r11).kind = .semicolon then advance r11 else r11) <:+ r11 := by
    split
    · exact ⟨h11.advance, advance_suffix r11⟩
    · exact ⟨h11, List.suffix_refl r11⟩
  exact (fails_at_end h12.1 _ _).mono h12.2

/-! ### The lexer -/


theorem readQuoted_suffix {q : Char} {cs t r : List Char} (h : readQuoted q cs = some (t, r)) :
    r <:+ cs := by
  fun_induction readQuoted q cs generalizing t r with
  | case1 => simp at h
  | case2 ds ih =>
    obtain ⟨⟨t', r'⟩, h', he⟩ := Option.map_eq_some_iff.1 h
    cases he
    exact (ih h').trans ((List.suffix_cons _ _).trans (List.suffix_cons _ _))
  | case3 d ds _ => cases h; exact List.suffix_cons _ _
  | case4 => cases h; exact List.suffix_cons _ _
  | case5 c cs _ ih =>
    obtain ⟨⟨t', r'⟩, h', he⟩ := Option.map_eq_some_iff.1 h
    cases he
    exact (ih h').trans (List.suffix_cons _ _)

theorem Lexeme.kind_ne_eof {cs t r : List Char} {k : TokenKind} (h : Lexeme cs k t r) :
    k ≠ .eof := by
  cases h <;> decide

/-- A token reads a prefix of the characters it starts at. -/
theorem Lexeme.suffix {cs t r : List Char} {k : TokenKind} (h : Lexeme cs k t r) : r <:+ cs := by
  cases h with
  | str _ hread => exact (readQuoted_suffix hread).trans (List.suffix_cons _ _)
  | comma | lparen | rparen | semicolon | star _ => exact List.suffix_cons _ _
  | op _ _ => exact List.drop_suffix _ _
  | number _ _ | word _ _ _ => exact (List.dropWhile_suffix _).trans (List.suffix_cons _ _)
  | numberWord _ hdrop _ =>
    have hs : _ :: _ <:+ _ := hdrop ▸ List.dropWhile_suffix _
    exact (List.dropWhile_suffix _).trans (hs.trans (List.suffix_cons _ _))

/-- Where a token stands among the last characters `cs` of a text of length `n`: the end of
input at the end of the text, any other token at the first character of what it reads. -/
def TokenStart (n : Nat) (cs : List Char) (t : Token) : Prop :=
  (t.kind = .eof ∧ t.pos = n) ∨
    ∃ rest txt r, rest <:+ cs ∧ t.pos = n - rest.length ∧ Lexeme rest t.kind txt r ∧
      t.text = String.ofList txt

theorem TokenStart.mono {n : Nat} {cs cs' : List Char} {t : Token} (h : TokenStart n cs t)
    (hs : cs <:+ cs') : TokenStart n cs' t := by
  rcases h with h | ⟨rest, txt, r, hr, hrest⟩
  · exact .inl h
  · exact .inr ⟨rest, txt, r, hr.trans hs, hrest⟩

theorem TokenStart.pos_le {n : Nat} {cs : List Char} {t : Token} (h : TokenStart n cs t) :
    t.pos ≤ n := by
  rcases h with ⟨-, h⟩ | ⟨rest, -, -, -, h, -⟩ <;> omega

/-- The tokens of a text are ended, and each starts where its text starts, the end of input at
the end. -/
theorem lexFrom_ended {n : Nat} {cs : List Char} {toks : List Token}
    (h : lexFrom n cs = .ok toks) : Ended toks ∧ ∀ t ∈ toks, TokenStart n cs t := by
  rcases lexFrom_eq_ok h with ⟨rfl, rfl⟩ | ⟨c, r, rfl, -, hr⟩ | ⟨k, t, r, rest, hlex, hlen, hr, rfl⟩
  · exact ⟨.eof rfl, by simp [TokenStart]⟩
  · obtain ⟨hend, hstart⟩ := lexFrom_ended hr
    exact ⟨hend, fun t ht => (hstart t ht).mono (List.suffix_cons _ _)⟩
  · obtain ⟨hend, hstart⟩ := lexFrom_ended hr
    refine ⟨.cons hlex.kind_ne_eof hend, ?_⟩
    rintro tok (_ | ⟨_, htok⟩)
    · exact .inr ⟨cs, t, r, List.suffix_refl _, rfl, hlex, rfl⟩
    · exact (hstart tok htok).mono hlex.suffix
termination_by cs.length

/-- How the lexer fails: at a quote whose string is not closed, or at a character it cannot
read, giving the position of that character. -/
def LexFailure (n : Nat) (cs : List Char) (e : SyntaxError) : Prop :=
  ∃ c rest, c :: rest <:+ cs ∧ e.offset = n - (c :: rest).length ∧
    (e.message = "unterminated string" ∧ (c = '\'' ∨ c = '"') ∨
      e.message = "unexpected character '" ++ c.toString ++ "'")

theorem LexFailure.mono {n : Nat} {cs cs' : List Char} {e : SyntaxError} (h : LexFailure n cs e)
    (hs : cs <:+ cs') : LexFailure n cs' e := by
  obtain ⟨c, rest, hc, he⟩ := h
  exact ⟨c, rest, hc.trans hs, he⟩

theorem error_of_map_cons {tok : Token} {x : Except SyntaxError (List Token)} {e : SyntaxError}
    (h : (tok :: ·) <$> x = .error e) : x = .error e := by
  cases x with
  | error e' => cases h; rfl
  | ok _ => cases h

/-- A text that does not lex fails at a character of it that stops the lexer. -/
theorem lexFrom_error {n : Nat} {cs : List Char} {e : SyntaxError} (h : lexFrom n cs = .error e) :
    LexFailure n cs e := by
  -- a blank or a token before the failure leaves it in the rest
  rcases lexFrom_cases n cs with ⟨-, he⟩ | ⟨c, r, rfl, -, he⟩ | ⟨k, t, r, hlex, hlen, he⟩ |
      ⟨c, r, rfl, -, he⟩ <;> rw [he] at h
  · cases h
  · exact (lexFrom_error h).mono (List.suffix_cons _ _)
  · exact (lexFrom_error (error_of_map_cons h)).mono hlex.suffix
  · cases h
    refine ⟨c, r, List.suffix_refl _, rfl, ?_⟩
    by_cases hq : c = '\'' ∨ c = '"'
    · exact .inl ⟨if_pos hq, hq⟩
    · exact .inr (if_neg hq)
termination_by cs.length

/-! ### Statements -/

theorem getElem?_of_suffix {c : Char} {rest xs : List Char} (h : c :: rest <:+ xs) :
    xs[xs.length - (c :: rest).length]? = some c := by
  obtain ⟨pre, rfl⟩ := h
  simp

/-- A text that cannot be read fails at a place of its normal form: at the start of one of its
tokens, or at the end, when it lexes; else at the character where lexing stopped, an opening
quote never closed or a character no token starts with. The caret line marks that place. -/
theorem parse_error_located (text : String) (e : ParseError) (h : parse text = .error e) :
    e.text = Text.nfc (Text.trimBlank text) ∧ e.offset ≤ e.text.length ∧
    e.caret = [e.text, String.ofList (List.replicate e.offset ' ') ++ "^"] ∧
    ((∃ toks, lex e.text = .ok toks ∧ ∃ t ∈ toks, t.pos = e.offset ∧
        TokenStart e.text.length e.text.toList t) ∨
      (lex e.text = .error ⟨e.offset, e.message⟩ ∧ ∃ c, e.text.toList[e.offset]? = some c ∧
        (e.message = "unterminated string" ∧ (c = '\'' ∨ c = '"') ∨
          e.message = "unexpected character '" ++ c.toString ++ "'"))) := by
  unfold parse at h
  generalize Text.nfc (Text.trimBlank text) = norm at h ⊢
  cases hlex : lex norm with
  | error le =>
    simp only [hlex, bind, Except.bind] at h
    cases h
    obtain ⟨c, rest, hsuf, hoff, hmsg⟩ := lexFrom_error hlex
    have hlen := hsuf.length_le
    rw [String.length_toList] at hlen
    refine ⟨rfl, by simp only [hoff]; omega, rfl, .inr ⟨hlex, c, ?_, hmsg⟩⟩
    rw [hoff, ← String.length_toList]
    exact getElem?_of_suffix hsuf
  | ok toks =>
    obtain ⟨hend, hstart⟩ := lexFrom_ended hlex
    cases hread : readStatement toks with
    | ok q => simp [hlex, hread, bind, Except.bind] at h
    | error se =>
      simp only [hlex, hread, bind, Except.bind] at h
      cases h
      obtain ⟨t, ht, hpos⟩ := readStatement_fails hend se hread
      exact ⟨rfl, hpos ▸ (hstart t ht).pos_le, rfl, .inl ⟨toks, hlex, t, ht, hpos, hstart t ht⟩⟩

/-- An unterminated string is reported inside the text. -/
theorem parse_open_quote_located :
    ∃ e, parse "SELECT 'x" = .error e ∧ e.offset ≤ e.text.length := by
  have hfail : (parse "SELECT 'x").toOption = none := by
    rw [parse_toOption_ascii]
    · decide +kernel
    · decide
  cases hp : parse "SELECT 'x" with
  | ok q => simp [hp, Except.toOption] at hfail
  | error e => exact ⟨e, rfl, (parse_error_located _ e hp).2.1⟩

end SqlSearch.Query
