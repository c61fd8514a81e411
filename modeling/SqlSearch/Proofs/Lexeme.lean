import SqlSearch.Query.Token
/-! What one step of the lexer reads. `Lexeme cs k t r` says that at the characters `cs` the
lexer reads a token of kind `k` with text `t` and goes on at `r`. One step of the lexer
(`lexFrom_cases`) ends the text, skips a blank, reads such a token before the tokens of the
rest, or stops at a character where no token starts (`Stuck`): a quote whose string is not
closed, or a character that starts no token.

From it: identifier characters are never blanks, and the text of an identifier or of a number
token is a non-empty run of identifier characters (`lexFrom_isIdentText`). -/
namespace SqlSearch.Query

open SqlSearch.Text

/-- The characters that continue a number: digits and the decimal point. -/
def isNumberChar (d : Char) : Bool := isDigit d || d = '.'

/-- Whether `c` followed by `cs` starts a number: a digit, or a minus sign before a digit. -/
def startsNumber (c : Char) (cs : List Char) : Bool :=
  isDigit c || (c = '-' && (cs.head?.map isDigit).getD false)

/-- One token read at the start of a text that does not start with a blank. -/
inductive Lexeme : List Char → TokenKind → List Char → List Char → Prop
  /-- A string in `'` or `"`; a doubled quote inside stands for one. -/
  | str {q : Char} {cs t r : List Char} : (q = '\'' ∨ q = '"') → readQuoted q cs = some (t, r) →
      Lexeme (q :: cs) .str t r
  | comma {cs : List Char} : Lexeme (',' :: cs) .comma [','] cs
  | lparen {cs : List Char} : Lexeme ('(' :: cs) .lparen ['('] cs
  | rparen {cs : List Char} : Lexeme (')' :: cs) .rparen [')'] cs
  | semicolon {cs : List Char} : Lexeme (';' :: cs) .semicolon [';'] cs
  /-- A comparison operator, the longest that is there. -/
  | op {c : Char} {cs o : List Char} : (c = '=' ∨ c = '<' ∨ c = '>' ∨ c = '!') →
      readOperator (c :: cs) = some o → Lexeme (c :: cs) .op o ((c :: cs).drop o.length)
  /-- A star that stands alone. -/
  | star {cs : List Char} : starStandsAlone cs = true → Lexeme ('*' :: cs) .star ['*'] cs
  /-- A number that no identifier character follows. -/
  | number {c : Char} {cs : List Char} : startsNumber c cs = true →
      (∀ d ∈ (cs.dropWhile isNumberChar).head?, isIdentChar d = false) →
      Lexeme (c :: cs) .number (c :: cs.takeWhile isNumberChar) (cs.dropWhile isNumberChar)
  /-- A number that identifier characters continue, read as one identifier. -/
  | numberWord {c d : Char} {cs more : List Char} : startsNumber c cs = true →
      cs.dropWhile isNumberChar = d :: more → isIdentChar d = true →
      Lexeme (c :: cs) .ident (c :: cs.takeWhile isNumberChar ++ (d :: more).takeWhile isIdentChar)
        ((d :: more).dropWhile isIdentChar)
  /-- A run of identifier characters. -/
  | word {c : Char} {cs : List Char} : startsNumber c cs = false → isIdentChar c = true →
      (c = '*' → starStandsAlone cs = false) →
      Lexeme (c :: cs) .ident (c :: cs.takeWhile isIdentChar) (cs.dropWhile isIdentChar)

theorem map_cons_eq_ok {ε : Type} {tok : Token} {x : Except ε (List Token)} {toks : List Token}
    (h : (tok :: ·) <$> x = .ok toks) : ∃ rest, x = .ok rest ∧ toks = tok :: rest := by
  cases x with
  | error e => cases h
  | ok rest => exact ⟨rest, rfl, (Except.ok.inj h).symm⟩

/-- No blank is an identifier character. -/
theorem isIdentChar_of_isBlank {c : Char} (h : isBlank c = true) : isIdentChar c = false := by
  -- the blanks above U+007F are looked up in the letter and digit tables
  have hall : ∀ k ∈ blankCodes, isIdentChar (Char.ofNat k) = false := by decide +kernel
  simpa using hall c.toNat (toNat_mem_blankCodes h)

/-- Whether a text is a non-empty run of identifier characters. -/
def isIdentText (s : String) : Bool := !s.toList.isEmpty && s.toList.all isIdentChar

theorem isIdentChar_of_isNumberChar {d : Char} (h : isNumberChar d = true) : isIdentChar d = true := by
  simp only [isNumberChar, Bool.or_eq_true, decide_eq_true_eq] at h
  rcases h with h | rfl
  · simp [isIdentChar, h]
  · rfl

theorem isIdentChar_of_startsNumber {c : Char} {cs : List Char} (h : startsNumber c cs = true) :
    isIdentChar c = true := by
  simp only [startsNumber, Bool.or_eq_true, Bool.and_eq_true, decide_eq_true_eq] at h
  rcases h with h | ⟨rfl, -⟩
  · simp [isIdentChar, h]
  · rfl

/-- The message of a failure at `c`: a quote whose string is not closed, or a character that
starts no token. -/
def stopMessage (c : Char) : String :=
  if c = '\'' ∨ c = '"' then "unterminated string" else "unexpected character '" ++ c.toString ++ "'"

/-- The lexer stops at `c` followed by `rest`: no blank, and no token starts there. -/
def Stuck (c : Char) (rest : List Char) : Prop :=
  isBlank c = false ∧ ∀ k t r, ¬Lexeme (c :: rest) k t r

/-- A token starts with a quote whose string is closed, a separator, an operator, a star that
stands alone or an identifier character. -/
theorem Lexeme.head {c : Char} {cs t r : List Char} {k : TokenKind} (h : Lexeme (c :: cs) k t r) :
    ((c = '\'' ∨ c = '"') ∧ (readQuoted c cs).isSome) ∨ (c = ',' ∨ c = '(' ∨ c = ')' ∨ c = ';') ∨
      ((c = '=' ∨ c = '<' ∨ c = '>' ∨ c = '!') ∧ (readOperator (c :: cs)).isSome) ∨
      (c = '*' ∧ starStandsAlone cs = true) ∨ isIdentChar c = true := by
  cases h with
  | str hq hread => simp [hq, hread]
  | comma | lparen | rparen | semicolon => simp
  | op hc hop => simp [hc, hop]
  | star hs => simp [hs]
  | number hs | numberWord hs => exact .inr (.inr (.inr (.inr (isIdentChar_of_startsNumber hs))))
  | word _ hid => exact .inr (.inr (.inr (.inr hid)))

/-- One step of the lexer: the end of the text, a blank it skips, a token it reads before the
tokens of the rest, or a character where it stops. -/
theorem lexFrom_cases (n : Nat) (cs : List Char) :
    (cs = [] ∧ lexFrom n cs = .ok [⟨.eof, "", n⟩]) ∨
      (∃ c r, cs = c :: r ∧ isBlank c = true ∧ lexFrom n cs = lexFrom n r) ∨
      (∃ k t r, Lexeme cs k t r ∧ r.length < cs.length ∧
        lexFrom n cs = (⟨k, String.ofList t, n - cs.length⟩ :: ·) <$> lexFrom n r) ∨
      (∃ c r, cs = c :: r ∧ Stuck c r ∧ lexFrom n cs = .error ⟨n - cs.length, stopMessage c⟩) := by
  -- each branch of the lexer: the token it reads is a lexeme, and where it fails no lexeme starts
  fun_cases lexFrom n cs
  case case1 => exact .inl ⟨rfl, rfl⟩
  case case2 c r hb => exact .inr (.inl ⟨c, r, rfl, hb, rfl⟩)
  case case3 q r _ _ _ hq t after hread =>
    have hlen := readQuoted_length hread
    exact .inr (.inr (.inl ⟨_, _, _, .str hq hread, by simp only [List.length_cons]; omega, rfl⟩))
  case case4 q r _ hb hq hread =>
    refine .inr (.inr (.inr ⟨q, r, rfl, ⟨by simpa using hb, fun k t r' hl => ?_⟩,
      by rw [stopMessage, if_pos hq]⟩))
    rcases hl.head with ⟨-, hsome⟩ | hsep | ⟨hop, -⟩ | ⟨hstar, -⟩ | hid
    · simp [hread] at hsome
    · rcases hq with rfl | rfl <;> simp at hsep
    · rcases hq with rfl | rfl <;> simp at hop
    · rcases hq with rfl | rfl <;> simp at hstar
    · rcases hq with rfl | rfl <;> exact absurd hid (by decide)
  case case5 r _ _ _ _ | case6 r _ _ _ _ _ | case7 r _ _ _ _ _ _ | case8 r _ _ _ _ _ _ _ =>
    exact .inr (.inr (.inl ⟨_, _, _, by constructor, Nat.lt_succ_self _, rfl⟩))
  case case9 c r _ _ _ _ _ _ _ _ hc o hop =>
    exact .inr (.inr (.inl ⟨_, _, _, .op hc hop, readOperator_drop_lt hop, rfl⟩))
  case case10 c r _ hb hq h1 h2 h3 h4 hc hop =>
    refine .inr (.inr (.inr ⟨c, r, rfl, ⟨by simpa using hb, fun k t r' hl => ?_⟩,
      by rw [stopMessage, if_neg hq]⟩))
    rcases hl.head with ⟨hq', -⟩ | hsep | ⟨-, hsome⟩ | ⟨hstar, -⟩ | hid
    · exact hq hq'
    · exact absurd hsep (by simp [h1, h2, h3, h4])
    · simp [hop] at hsome
    · rcases hc with rfl | rfl | rfl | rfl <;> simp at hstar
    · rcases hc with rfl | rfl | rfl | rfl <;> exact absurd hid (by decide)
  case case11 c r _ _ _ _ _ _ _ _ _ hstar =>
    obtain ⟨rfl, hs⟩ := hstar
    exact .inr (.inr (.inl ⟨_, _, _, .star hs, Nat.lt_succ_self _, rfl⟩))
  case case12 c r _ _ _ _ _ _ _ _ _ _ hnum _ d more hdrop hd =>
    have hs : startsNumber c r = true := by simpa [startsNumber] using hnum
    have h1 := dropWhile_length_le isIdentChar (d :: more)
    have h2 := dropWhile_length_le isNumberChar r
    rw [show r.dropWhile isNumberChar = d :: more from hdrop] at h2
    exact .inr (.inr (.inl ⟨_, _, _, .numberWord hs hdrop hd,
      by simp only [List.length_cons] at h1 h2 ⊢; omega, rfl⟩))
  case case13 c r _ _ _ _ _ _ _ _ _ _ hnum _ d more hdrop hd =>
    have hs : startsNumber c r = true := by simpa [startsNumber] using hnum
    have h2 := dropWhile_length_le isNumberChar r
    have hnext : ∀ e ∈ (r.dropWhile isNumberChar).head?, isIdentChar e = false := by
      intro e he
      rw [show r.dropWhile isNumberChar = d :: more from hdrop] at he
      cases he
      simpa using hd
    refine .inr (.inr (.inl ⟨_, _, _, .number hs hnext, by simp only [List.length_cons]; omega, ?_⟩))
    rw [show r.dropWhile isNumberChar = d :: more from hdrop]
    rfl
  case case14 c r _ _ _ _ _ _ _ _ _ _ hnum _ hdrop =>
    have hs : startsNumber c r = true := by simpa [startsNumber] using hnum
    have hnext : ∀ e ∈ (r.dropWhile isNumberChar).head?, isIdentChar e = false := by
      intro e he
      rw [show r.dropWhile isNumberChar = [] from hdrop] at he
      cases he
    refine .inr (.inr (.inl ⟨_, _, _, .number hs hnext, by simp [show r.dropWhile isNumberChar = [] from hdrop], ?_⟩))
    rw [show r.dropWhile isNumberChar = [] from hdrop]
    rfl
  case case15 c r _ _ _ _ _ _ _ _ _ hstar hnum hid =>
    have hs : startsNumber c r = false := by simpa [startsNumber] using hnum
    have hlen := dropWhile_length_le isIdentChar r
    exact .inr (.inr (.inl ⟨_, _, _, .word hs hid (fun hc => by simpa [hc] using hstar),
      by simp only [List.length_cons]; omega, rfl⟩))
  case case16 c r _ hb hq h1 h2 h3 h4 hc hstar hnum hid =>
    refine .inr (.inr (.inr ⟨c, r, rfl, ⟨by simpa using hb, fun k t r' hl => ?_⟩,
      by rw [stopMessage, if_neg hq]⟩))
    rcases hl.head with ⟨hq', -⟩ | hsep | ⟨hc', -⟩ | hstar' | hid'
    · exact hq hq'
    · exact absurd hsep (by simp [h1, h2, h3, h4])
    · exact hc hc'
    · exact hstar hstar'
    · exact hid hid'

/-- A text that lexes is empty, starts with a blank the lexer skips, or starts with a token
followed by what the rest lexes to. -/
theorem lexFrom_eq_ok {n : Nat} {cs : List Char} {toks : List Token} :
    lexFrom n cs = .ok toks →
      (cs = [] ∧ toks = [⟨.eof, "", n⟩]) ∨
      (∃ c r, cs = c :: r ∧ isBlank c = true ∧ lexFrom n r = .ok toks) ∨
      (∃ k t r rest, Lexeme cs k t r ∧ r.length < cs.length ∧ lexFrom n r = .ok rest ∧
        toks = ⟨k, String.ofList t, n - cs.length⟩ :: rest) := by
  intro h
  rcases lexFrom_cases n cs with ⟨rfl, he⟩ | ⟨c, r, rfl, hb, he⟩ | ⟨k, t, r, hlex, hlen, he⟩ |
      ⟨c, r, -, -, he⟩ <;> rw [he] at h
  · exact .inl ⟨rfl, (Except.ok.inj h).symm⟩
  · exact .inr (.inl ⟨c, r, rfl, hb, h⟩)
  · obtain ⟨rest, hr, rfl⟩ := map_cons_eq_ok h
    exact .inr (.inr ⟨k, t, r, rest, hlex, hlen, hr, rfl⟩)
  · cases h

/-- The text of an identifier or a number is a non-empty run of identifier characters. -/
theorem Lexeme.isIdentText {cs r t : List Char} {k : TokenKind} (h : Lexeme cs k t r)
    (hk : k = .ident ∨ k = .number) : isIdentText (String.ofList t) = true := by
  simp only [Query.isIdentText, String.toList_ofList, Bool.and_eq_true, Bool.not_eq_true',
    List.isEmpty_eq_false_iff, ne_eq, List.all_eq_true]
  cases h with
  | number hs _ =>
    refine ⟨List.cons_ne_nil _ _, ?_⟩
    rintro x (_ | ⟨_, hx⟩)
    · exact isIdentChar_of_startsNumber hs
    · exact isIdentChar_of_isNumberChar (List.all_eq_true.1 List.all_takeWhile _ hx)
  | numberWord hs _ _ =>
    refine ⟨List.cons_ne_nil _ _, ?_⟩
    rintro x (_ | ⟨_, hx⟩)
    · exact isIdentChar_of_startsNumber hs
    · rcases List.mem_append.1 hx with hx | hx
      · exact isIdentChar_of_isNumberChar (List.all_eq_true.1 List.all_takeWhile _ hx)
      · exact List.all_eq_true.1 List.all_takeWhile _ hx
  | word _ hc _ =>
    refine ⟨List.cons_ne_nil _ _, ?_⟩
    rintro x (_ | ⟨_, hx⟩)
    · exact hc
    · exact List.all_eq_true.1 List.all_takeWhile _ hx
  | str | comma | lparen | rparen | semicolon | op | star => simp at hk

/-- Every identifier and number token of a text that lexes has an identifier text. -/
theorem lexFrom_isIdentText {n : Nat} {cs : List Char} {toks : List Token}
    (h : lexFrom n cs = .ok toks) :
    ∀ tok ∈ toks, tok.kind = .ident ∨ tok.kind = .number → isIdentText tok.text = true := by
  rcases lexFrom_eq_ok h with ⟨rfl, rfl⟩ | ⟨c, r, rfl, -, hr⟩ | ⟨k, t, r, rest, hlex, hlen, hr, rfl⟩
  · simp
  · exact lexFrom_isIdentText hr
  · rintro tok (_ | ⟨_, htok⟩) hk
    · exact hlex.isIdentText hk
    · exact lexFrom_isIdentText hr tok htok hk
termination_by cs.length
decreasing_by
  · subst_vars; exact Nat.lt_succ_self _
  · exact hlen

end SqlSearch.Query
