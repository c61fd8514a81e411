import SqlSearch.Proofs.Lexeme
import SqlSearch.Proofs.NormalSplit
import SqlSearch.Query.Parser
import Mathlib.Data.List.TakeWhile
import Mathlib.Data.List.DropRight
/-! Statements as written, word by word. A `Word` is one token as a writer means it: a keyword
in any letter case, a name, a value, a string in quotes with its quote doubled, a number or a
mark. `Laid ws cs` says that `cs` is the words `ws` in order, with blanks after each and at
least one blank between two words; `Writes ws text` allows blanks before them too.

The lexer reads a valid word followed by a blank as one token (`Word.Spelt.lexeme`), so it
reads laid words back one by one (`Laid.lexFrom`); trimming and normalisation keep a text laid
(`Writes.trim`, `Laid.nfcChars`). Main statement: `Writes.lex`. -/
namespace SqlSearch.Query

open SqlSearch.Text SqlSearch.Text.Normal

/-- The keywords of the statement grammar, in lower case. -/
def grammarKeywords : List String :=
  ["select", "facets", "script", "from", "where", "filter", "order", "by", "limit", "and", "or",
    "not", "in", "between", "like", "asc", "desc", "count"]

/-- The comparison operators as written. -/
def operatorTexts : List String := ["=", "!=", "<>", "<", "<=", ">", ">="]

/-- Whether `sp` spells `kw` letter by letter, each letter in lower or upper case. -/
def isCaseOf : List Char → List Char → Bool
  | [], [] => true
  | c :: cs, k :: ks => (c == k || c == k.toUpper) && isCaseOf cs ks
  | _, _ => false

/-- A text that the lexer reads as one token of kind `k` whose text is the whole text. -/
def LexesAs (k : TokenKind) (s : String) : Prop :=
  lex s = .ok [⟨k, s, 0⟩, ⟨.eof, "", s.length⟩]

/-- One token of a statement as its writer means it. -/
inductive Word where
  | keyword (kw : String)
  | name (s : String)
  | value (v : Value)
  | str (s : String)
  | number (n : Nat)
  | star
  | comma
  | lparen
  | rparen
  | semicolon
  | op (s : String)
  deriving Repr, DecidableEq

/-- A string between quotes `q`, with every `q` inside written twice. -/
def quoted (q : Char) (s : String) : List Char := q :: doubleAll q s.toList ++ [q]

/-- The ways a word is written: a keyword in any letter case, a string or quoted value between
either quote. -/
inductive Word.Spelt : Word → List Char → Prop
  | keyword {kw : String} {sp : List Char} : isCaseOf sp kw.toList = true → Spelt (.keyword kw) sp
  | name {s : String} : Spelt (.name s) s.toList
  | bare {v : Value} : v.quoted = false → Spelt (.value v) v.text.toList
  | quotedValue {v : Value} {q : Char} : v.quoted = true → (q = '\'' ∨ q = '"') →
      Spelt (.value v) (quoted q v.text)
  | str {s : String} {q : Char} : (q = '\'' ∨ q = '"') → Spelt (.str s) (quoted q s)
  | number {n : Nat} : Spelt (.number n) (Nat.toDigits 10 n)
  | star : Spelt .star ['*']
  | comma : Spelt .comma [',']
  | lparen : Spelt .lparen ['(']
  | rparen : Spelt .rparen [')']
  | semicolon : Spelt .semicolon [';']
  | op {s : String} : Spelt (.op s) s.toList

/-- What a writer must see to: keywords of the grammar, names and bare values that lex as one
token, the operators of the language, and text in normal form. -/
def Word.Valid : Word → Prop
  | .keyword kw => kw ∈ grammarKeywords
  | .name s => LexesAs .ident s ∧ nfc s = s
  | .value v => nfc v.text = v.text ∧
      (v.quoted = false → LexesAs .ident v.text ∨ LexesAs .number v.text ∨ v.text = "*")
  | .str s => nfc s = s
  | .op s => s ∈ operatorTexts
  | _ => True

/-- What the token read for a word looks like to the parser. A keyword is an identifier that
lower-cases to it and matches exactly the keywords it matches. -/
def Word.Reads : Word → Token → Prop
  | .keyword kw, t => t.kind = .ident ∧ lower t.text = kw ∧ ∀ kw', t.isKeyword kw' = sameWordAscii kw kw'
  | .name s, t => t.kind = .ident ∧ t.text = s
  | .value v, t => t.value? = some v
  | .str s, t => t.kind = .str ∧ t.text = s
  | .number n, t => t.kind = .number ∧ t.text = String.ofList (Nat.toDigits 10 n)
  | .star, t => t.kind = .star
  | .comma, t => t.kind = .comma
  | .lparen, t => t.kind = .lparen
  | .rparen, t => t.kind = .rparen
  | .semicolon, t => t.kind = .semicolon
  | .op s, t => t.kind = .op ∧ t.text = s

/-- Tokens that read a list of words one by one. -/
inductive ReadAs : List Word → List Token → Prop
  | nil : ReadAs [] []
  | cons {w : Word} {ws : List Word} {t : Token} {ts : List Token} :
      w.Reads t → ReadAs ws ts → ReadAs (w :: ws) (t :: ts)

/-- The words written in order, blanks after each, and at least one blank before the next. -/
inductive Laid : List Word → List Char → Prop
  | nil {bs : List Char} : (∀ c ∈ bs, isBlank c = true) → Laid [] bs
  | cons {w : Word} {ws : List Word} {sp gap rest : List Char} : w.Spelt sp →
      (∀ c ∈ gap, isBlank c = true) → (ws ≠ [] → gap ≠ []) → Laid ws rest →
      Laid (w :: ws) (sp ++ gap ++ rest)

/-- A text that writes the words, after blanks. -/
def Writes (ws : List Word) (text : String) : Prop :=
  ∃ lead body, text.toList = lead ++ body ∧ (∀ c ∈ lead, isBlank c = true) ∧ Laid ws body

/-! ### One lexer step -/

theorem isBlank_quote {q : Char} (hq : q = '\'' ∨ q = '"') : isBlank q = false := by
  rcases hq with rfl | rfl <;> rfl

/-- An identifier character is none of the characters that start another kind of token. -/
theorem not_special_of_isIdentChar {c : Char} (h : isIdentChar c = true) :
    isBlank c = false ∧ ¬(c = '\'' ∨ c = '"') ∧ c ≠ ',' ∧ c ≠ '(' ∧ c ≠ ')' ∧ c ≠ ';' ∧
      ¬(c = '=' ∨ c = '<' ∨ c = '>' ∨ c = '!') := by
  have hb : isBlank c = false := by
    cases hc : isBlank c
    · rfl
    · simp [isIdentChar_of_isBlank hc] at h
  have hs : ∀ d ∈ ['\'', '"', ',', '(', ')', ';', '=', '<', '>', '!'], isIdentChar d = false := by
    decide
  have hne : ∀ d ∈ ['\'', '"', ',', '(', ')', ';', '=', '<', '>', '!'], c ≠ d := by
    rintro d hd rfl
    simp [hs c hd] at h
  simp only [List.mem_cons, List.not_mem_nil, or_false, forall_eq_or_imp, forall_eq] at hne
  obtain ⟨h1, h2, h3, h4, h5, h6, h7, h8, h9, h10⟩ := hne
  exact ⟨hb, by simp [h1, h2], h3, h4, h5, h6, by simp [h7, h8, h9, h10]⟩

section Inversion

variable {c : Char} {cs t r : List Char} {k : TokenKind}

/-- No lexeme starts with a blank. -/
theorem Lexeme.head_not_blank (h : Lexeme (c :: cs) k t r) : isBlank c = false := by
  rcases h.head with ⟨hq, -⟩ | hsep | ⟨hop, -⟩ | ⟨rfl, -⟩ | hid
  · exact isBlank_quote hq
  · rcases hsep with rfl | rfl | rfl | rfl <;> rfl
  · rcases hop with rfl | rfl | rfl | rfl <;> rfl
  · rfl
  · exact (not_special_of_isIdentChar hid).1

/-- A lexeme at a quote is the string the quote opens. -/
theorem Lexeme.of_quote (hq : c = '\'' ∨ c = '"') (h : Lexeme (c :: cs) k t r) :
    k = .str ∧ readQuoted c cs = some (t, r) := by
  cases h with
  | str _ hr => exact ⟨rfl, hr⟩
  | op hc => rcases hq with rfl | rfl <;> simp at hc
  | number hs | numberWord hs =>
    exact absurd hq (not_special_of_isIdentChar (isIdentChar_of_startsNumber hs)).2.1
  | word _ hid => exact absurd hq (not_special_of_isIdentChar hid).2.1
  | comma | lparen | rparen | semicolon | star => simp at hq

/-- A lexeme at an operator character is the longest operator there. -/
theorem Lexeme.of_operator (hc : c = '=' ∨ c = '<' ∨ c = '>' ∨ c = '!')
    (h : Lexeme (c :: cs) k t r) :
    k = .op ∧ readOperator (c :: cs) = some t ∧ r = (c :: cs).drop t.length := by
  cases h with
  | op _ hop => exact ⟨rfl, hop, rfl⟩
  | str hq => rcases hq with rfl | rfl <;> simp at hc
  | number hs | numberWord hs =>
    exact absurd hc (not_special_of_isIdentChar (isIdentChar_of_startsNumber hs)).2.2.2.2.2.2
  | word _ hid => exact absurd hc (not_special_of_isIdentChar hid).2.2.2.2.2.2
  | comma | lparen | rparen | semicolon | star => simp at hc

/-- A star starts no number. -/
theorem startsNumber_star (cs : List Char) : startsNumber '*' cs = false := by
  simp only [startsNumber, Bool.or_eq_false_iff]
  exact ⟨by decide, by simp⟩

end Inversion

/-- At most one lexeme starts a text: the kind, the text read and where the lexer goes on are
fixed by the text. The first character picks the constructor; a number and a word part on
`startsNumber`, a number and a number run into a word on the character after the digits, and a
lone star and a word on `starStandsAlone`. -/
theorem Lexeme.unique {cs t t' r r' : List Char} {k k' : TokenKind} (h : Lexeme cs k t r)
    (h' : Lexeme cs k' t' r') : k = k' ∧ t = t' ∧ r = r' := by
  cases h with
  | str hq hr =>
    obtain ⟨rfl, hr'⟩ := h'.of_quote hq
    rw [hr] at hr'
    cases hr'
    exact ⟨rfl, rfl, rfl⟩
  | op hc hop =>
    obtain ⟨rfl, hop', rfl⟩ := h'.of_operator hc
    rw [hop] at hop'
    cases hop'
    exact ⟨rfl, rfl, rfl⟩
  | comma =>
    cases h' with
    | comma => exact ⟨rfl, rfl, rfl⟩
    | str hq | op hq => simp at hq
    | number hs | numberWord hs => exact absurd (isIdentChar_of_startsNumber hs) (by decide)
    | word _ hid => exact absurd hid (by decide)
  | lparen =>
    cases h' with
    | lparen => exact ⟨rfl, rfl, rfl⟩
    | str hq | op hq => simp at hq
    | number hs | numberWord hs => exact absurd (isIdentChar_of_startsNumber hs) (by decide)
    | word _ hid => exact absurd hid (by decide)
  | rparen =>
    cases h' with
    | rparen => exact ⟨rfl, rfl, rfl⟩
    | str hq | op hq => simp at hq
    | number hs | numberWord hs => exact absurd (isIdentChar_of_startsNumber hs) (by decide)
    | word _ hid => exact absurd hid (by decide)
  | semicolon =>
    cases h' with
    | semicolon => exact ⟨rfl, rfl, rfl⟩
    | str hq | op hq => simp at hq
    | number hs | numberWord hs => exact absurd (isIdentChar_of_startsNumber hs) (by decide)
    | word _ hid => exact absurd hid (by decide)
  | star hs =>
    cases h' with
    | star => exact ⟨rfl, rfl, rfl⟩
    | str hq | op hq => simp at hq
    | number hn | numberWord hn => simp [startsNumber_star] at hn
    | word _ _ hstar => simp [hstar rfl] at hs
  | number hs hnext =>
    have hid := isIdentChar_of_startsNumber hs
    cases h' with
    | number => exact ⟨rfl, rfl, rfl⟩
    | numberWord _ hdrop hd =>
      rw [hdrop] at hnext
      simp [hnext _ rfl] at hd
    | word hs' => simp [hs] at hs'
    | str hq => exact absurd hq (not_special_of_isIdentChar hid).2.1
    | op hc => exact absurd hc (not_special_of_isIdentChar hid).2.2.2.2.2.2
    | comma | lparen | rparen | semicolon => exact absurd hid (by decide)
    | star => simp [startsNumber_star] at hs
  | numberWord hs hdrop hd =>
    have hid := isIdentChar_of_startsNumber hs
    cases h' with
    | numberWord _ hdrop' =>
      rw [hdrop] at hdrop'
      cases hdrop'
      exact ⟨rfl, rfl, rfl⟩
    | number _ hnext =>
      rw [hdrop] at hnext
      simp [hnext _ rfl] at hd
    | word hs' => simp [hs] at hs'
    | str hq => exact absurd hq (not_special_of_isIdentChar hid).2.1
    | op hc => exact absurd hc (not_special_of_isIdentChar hid).2.2.2.2.2.2
    | comma | lparen | rparen | semicolon => exact absurd hid (by decide)
    | star => simp [startsNumber_star] at hs
  | word hs hid hstar =>
    cases h' with
    | word => exact ⟨rfl, rfl, rfl⟩
    | number hs' | numberWord hs' => simp [hs] at hs'
    | str hq => exact absurd hq (not_special_of_isIdentChar hid).2.1
    | op hc => exact absurd hc (not_special_of_isIdentChar hid).2.2.2.2.2.2
    | comma | lparen | rparen | semicolon => exact absurd hid (by decide)
    | star hs' => simp [hstar rfl] at hs'

/-- The lexer emits the token that a lexeme describes and goes on after it. -/
theorem lexFrom_of_lexeme {n : Nat} {cs t r : List Char} {k : TokenKind} (h : Lexeme cs k t r) :
    lexFrom n cs = (⟨k, String.ofList t, n - cs.length⟩ :: ·) <$> lexFrom n r := by
  -- the lexer's step at `cs` reads a lexeme, and that is the only one there
  rcases lexFrom_cases n cs with ⟨rfl, -⟩ | ⟨c, cs', rfl, hb, -⟩ | ⟨k', t', r', h', -, he⟩ |
      ⟨c, cs', rfl, hstuck, -⟩
  · cases h
  · rw [h.head_not_blank] at hb
    cases hb
  · obtain ⟨rfl, rfl, rfl⟩ := h.unique h'
    exact he
  · exact absurd h (hstuck.2 k t r)

/-- The empty text is the end of input alone. -/
theorem lexFrom_nil (n : Nat) : lexFrom n [] = .ok [⟨.eof, "", n⟩] := by
  rcases lexFrom_cases n [] with ⟨-, he⟩ | ⟨_, _, h, -⟩ | ⟨_, _, _, h, -⟩ | ⟨_, _, h, -⟩
  · exact he
  all_goals cases h

/-- The lexer skips a blank. -/
theorem lexFrom_blank {n : Nat} {c : Char} {cs : List Char} (hc : isBlank c = true) :
    lexFrom n (c :: cs) = lexFrom n cs := by
  rcases lexFrom_cases n (c :: cs) with ⟨h, -⟩ | ⟨c', cs', h, -, he⟩ | ⟨k, t, r, h, -, -⟩ |
      ⟨c', cs', h, hstuck, -⟩
  · cases h
  · cases h
    exact he
  · rw [h.head_not_blank] at hc
    cases hc
  · cases h
    rw [hstuck.1] at hc
    cases hc

/-- Blanks before a text are skipped. -/
theorem lexFrom_blanks_append {n : Nat} : ∀ {bs : List Char} (rest : List Char),
    (∀ c ∈ bs, isBlank c = true) → lexFrom n (bs ++ rest) = lexFrom n rest
  | [], _, _ => rfl
  | b :: bs, rest, h => by
    rw [List.cons_append, lexFrom_blank (h b (List.mem_cons_self ..)),
      lexFrom_blanks_append rest (fun c hc => h c (List.mem_cons_of_mem _ hc))]

theorem lexFrom_blanks {n : Nat} {bs : List Char} (h : ∀ c ∈ bs, isBlank c = true) :
    lexFrom n bs = .ok [⟨.eof, "", n⟩] := by
  simpa [lexFrom_nil] using lexFrom_blanks_append (n := n) [] h

/-- Positions of tokens count from the start of the text. -/
theorem lexFrom_pos {n : Nat} {cs : List Char} {toks : List Token} (h : lexFrom n cs = .ok toks) :
    ∀ t ∈ toks, n - cs.length ≤ t.pos := by
  rcases lexFrom_eq_ok h with ⟨rfl, rfl⟩ | ⟨c, r, rfl, -, hr⟩ | ⟨k, t, r, rest, -, hlen, hr, rfl⟩
  · simp
  · intro t ht
    have := lexFrom_pos hr t ht
    simp only [List.length_cons] at this ⊢
    omega
  · rintro tok (_ | ⟨_, htok⟩)
    · exact Nat.le_refl _
    · have := lexFrom_pos hr tok htok
      omega
termination_by cs.length
decreasing_by
  · subst_vars; exact Nat.lt_succ_self _
  · exact hlen

/-- An identifier or a number is all the characters it reads. -/
theorem Lexeme.append_eq {cs t r : List Char} {k : TokenKind} (h : Lexeme cs k t r)
    (hk : k = .ident ∨ k = .number) : t ++ r = cs := by
  cases h with
  | number => simp
  | @numberWord c d cs more _ hd _ =>
    simp only [List.cons_append, List.append_assoc, List.takeWhile_append_dropWhile, ← hd]
  | word => simp
  | str | comma | lparen | rparen | semicolon | op | star => simp at hk

theorem takeWhile_append_of_head {p : Char → Bool} {xs ys : List Char} (hx : ∀ c ∈ xs, p c = true)
    (hy : ∀ c ∈ ys.head?, p c = false) : (xs ++ ys).takeWhile p = xs := by
  rw [List.takeWhile_append_of_pos hx]
  cases ys with
  | nil => simp
  | cons y ys => simp [List.takeWhile_cons_of_neg (by simpa using hy y rfl)]

theorem dropWhile_append_of_head {p : Char → Bool} {xs ys : List Char} (hx : ∀ c ∈ xs, p c = true)
    (hy : ∀ c ∈ ys.head?, p c = false) : (xs ++ ys).dropWhile p = ys := by
  rw [List.dropWhile_append_of_pos hx]
  cases ys with
  | nil => simp
  | cons y ys => simp [List.dropWhile_cons_of_neg (by simpa using hy y rfl)]

theorem isNumberChar_of_isBlank {c : Char} (h : isBlank c = true) : isNumberChar c = false := by
  cases hn : isNumberChar c
  · rfl
  · have := isIdentChar_of_isNumberChar hn
    rw [isIdentChar_of_isBlank h] at this
    cases this

/-- A blank after a text does not change whether the text starts a number. -/
theorem startsNumber_append_blank {c : Char} {x : List Char} (hx : ∀ d ∈ x.head?, isBlank d = true) :
    ∀ cs : List Char, startsNumber c (cs ++ x) = startsNumber c cs
  | _ :: _ => rfl
  | [] => by
    cases x with
    | nil => rfl
    | cons y ys =>
      have hy : isDigit y = false := by
        have := isNumberChar_of_isBlank (hx y rfl)
        simp only [isNumberChar, Bool.or_eq_false_iff] at this
        exact this.1
      simp [startsNumber, hy]

/-- A token read to the end of a text is read the same way before a blank. -/
theorem Lexeme.extend {cs t r x : List Char} {k : TokenKind} (h : Lexeme cs k t r) (hr : r = [])
    (hk : k = .ident ∨ k = .number) (hx : ∀ c ∈ x.head?, isBlank c = true) :
    Lexeme (cs ++ x) k t x := by
  have hxi : ∀ c ∈ x.head?, isIdentChar c = false := fun c hc => isIdentChar_of_isBlank (hx c hc)
  have hxn : ∀ c ∈ x.head?, isNumberChar c = false := fun c hc => isNumberChar_of_isBlank (hx c hc)
  cases h with
  | @number c cs hs hnext =>
    have hall := List.dropWhile_eq_nil_iff.1 hr
    have e1 := takeWhile_append_of_head hall hxn
    have e2 := dropWhile_append_of_head hall hxn
    have hs' : startsNumber c (cs ++ x) = true := (startsNumber_append_blank hx cs).trans hs
    have := @Lexeme.number c (cs ++ x) hs' (by rw [e2]; exact hxi)
    rw [e1, e2] at this
    rw [List.cons_append, List.takeWhile_eq_self_iff.2 hall]
    exact this
  | @numberWord c d cs more hs hd hid =>
    have hall := List.dropWhile_eq_nil_iff.1 hr
    have e1 := takeWhile_append_of_head hall hxi
    have e2 := dropWhile_append_of_head hall hxi
    have hs' : startsNumber c (cs ++ x) = true := (startsNumber_append_blank hx cs).trans hs
    have hd' : (cs ++ x).dropWhile isNumberChar = d :: (more ++ x) := by
      rw [List.dropWhile_append, hd]
      simp
    have e0 : (cs ++ x).takeWhile isNumberChar = cs.takeWhile isNumberChar := by
      rw [List.takeWhile_append, if_neg]
      intro hlen
      have := congrArg List.length (List.takeWhile_append_dropWhile (p := isNumberChar) (l := cs))
      rw [hd, List.length_append, List.length_cons] at this
      omega
    have e1' : (d :: (more ++ x)).takeWhile isIdentChar = d :: more := by
      rw [← List.cons_append]
      exact e1
    have e2' : (d :: (more ++ x)).dropWhile isIdentChar = x := by
      rw [← List.cons_append]
      exact e2
    have := @Lexeme.numberWord c d (cs ++ x) (more ++ x) hs' hd' hid
    rw [e0, e1', e2'] at this
    rw [List.cons_append, List.takeWhile_eq_self_iff.2 hall]
    exact this
  | @word c cs hs hid hstar =>
    have hall := List.dropWhile_eq_nil_iff.1 hr
    have e1 := takeWhile_append_of_head hall hxi
    have e2 := dropWhile_append_of_head hall hxi
    have hs' : startsNumber c (cs ++ x) = false := (startsNumber_append_blank hx cs).trans hs
    have hstar' : c = '*' → starStandsAlone (cs ++ x) = false := by
      intro hc
      have := hstar hc
      simp only [starStandsAlone] at this ⊢
      rwa [e1, ← List.takeWhile_eq_self_iff.2 hall]
    have := @Lexeme.word c (cs ++ x) hs' hid hstar'
    rw [e1, e2] at this
    rw [List.cons_append, List.takeWhile_eq_self_iff.2 hall]
    exact this
  | str | comma | lparen | rparen | semicolon | op | star => simp at hk

/-- A text that lexes as one identifier or number is one lexeme. -/
theorem LexesAs.lexeme {k : TokenKind} {s : String} (h : LexesAs k s) (hk : k = .ident ∨ k = .number) :
    Lexeme s.toList k s.toList [] := by
  unfold LexesAs lex at h
  rcases lexFrom_eq_ok h with ⟨-, h2⟩ | ⟨c, r, hcs, -, hr⟩ | ⟨k', t, r, rest, hl, -, hr, htoks⟩
  · cases h2
  · have := lexFrom_pos hr ⟨k, s, 0⟩ (List.mem_cons_self ..)
    have hlen : s.length = r.length + 1 := by
      rw [← String.length_toList, hcs, List.length_cons]
    simp only at this
    omega
  · simp only [List.cons.injEq, Token.mk.injEq] at htoks
    obtain ⟨⟨rfl, hts, -⟩, -⟩ := htoks
    have ht : t = s.toList := by rw [hts]; simp
    subst ht
    have := hl.append_eq hk
    have hr0 : r = [] := by simpa using this
    rwa [hr0] at hl

/-- A text that lexes as one identifier or number is not empty and has no blank. -/
theorem LexesAs.no_blank {k : TokenKind} {s : String} (h : LexesAs k s) (hk : k = .ident ∨ k = .number) :
    s.toList ≠ [] ∧ ∀ c ∈ s.toList, isBlank c = false := by
  have hid := (h.lexeme hk).isIdentText hk
  simp only [String.ofList_toList, isIdentText, Bool.and_eq_true, Bool.not_eq_true',
    List.isEmpty_eq_false_iff, List.all_eq_true] at hid
  exact ⟨hid.1, fun c hc => (not_special_of_isIdentChar (hid.2 c hc)).1⟩

/-! ### Keywords in any letter case -/

/-- What the lexer, normalisation and the parser need of a letter `c` written for the keyword
letter `k`. -/
def keywordLetter (c k : Char) : Bool :=
  isIdentChar c && !isDigit c && c != '-' && c != '*' && c.toLower == k && lowerChar c == k &&
    c != 'ſ' && (c != 'K' || k == 'k') && decide (c.toNat < 0x80)

theorem grammarKeywords_letters :
    (grammarKeywords.all fun kw => kw.toList.all fun k =>
      keywordLetter k k && keywordLetter k.toUpper k) = true := by
  decide

theorem isCaseOf_length : ∀ {sp ks : List Char}, isCaseOf sp ks = true → sp.length = ks.length
  | [], [], _ => rfl
  | _ :: _, _ :: _, h => by
    simp only [isCaseOf, Bool.and_eq_true] at h
    simp [isCaseOf_length h.2]
  | [], _ :: _, h | _ :: _, [], h => by simp [isCaseOf] at h

/-- Every keyword of the grammar has a letter, so each of its spellings does. -/
theorem isCaseOf_ne_nil {kw : String} (hkw : kw ∈ grammarKeywords) {sp : List Char}
    (h : isCaseOf sp kw.toList = true) : sp ≠ [] := by
  rintro rfl
  have hnil : kw.toList = [] := List.length_eq_zero_iff.1 (isCaseOf_length h).symm
  rw [String.toList_eq_nil_iff] at hnil
  subst hnil
  exact absurd hkw (by decide)

/-- Every letter of a spelling of a keyword is a keyword letter for a letter of the keyword. -/
theorem isCaseOf_letter {kw : String} (hkw : kw ∈ grammarKeywords) :
    ∀ {sp ks : List Char}, isCaseOf sp ks = true → (∀ k ∈ ks, k ∈ kw.toList) →
      ∀ c ∈ sp, ∃ k, keywordLetter c k = true ∧ keywordLetter k k = true
  | [], _, _, _ => by simp
  | c :: cs, k :: ks, h, hks => by
    simp only [isCaseOf, Bool.and_eq_true, Bool.or_eq_true, beq_iff_eq] at h
    have hk := List.all_eq_true.1 (List.all_eq_true.1 grammarKeywords_letters kw hkw) k
      (hks k (List.mem_cons_self ..))
    simp only [Bool.and_eq_true] at hk
    rintro d (_ | ⟨_, hd⟩)
    · rcases h.1 with rfl | rfl
      · exact ⟨_, hk.1, hk.1⟩
      · exact ⟨_, hk.2, hk.1⟩
    · exact isCaseOf_letter hkw h.2 (fun k hk => hks k (List.mem_cons_of_mem _ hk)) d hd
  | _ :: _, [], h, _ => by simp [isCaseOf] at h

theorem keywordLetter_spec {c k : Char} (h : keywordLetter c k = true) :
    isIdentChar c = true ∧ isDigit c = false ∧ c ≠ '-' ∧ c ≠ '*' ∧ c.toLower = k ∧
      lowerChar c = k ∧ c ≠ 'ſ' ∧ (c = 'K' → k = 'k') ∧ c.toNat < 0x80 := by
  simp only [keywordLetter, Bool.and_eq_true, Bool.not_eq_true', bne_iff_ne, ne_eq,
    beq_iff_eq, Bool.or_eq_true, decide_eq_true_eq] at h
  obtain ⟨⟨⟨⟨⟨⟨⟨⟨h1, h2⟩, h3⟩, h4⟩, h5⟩, h6⟩, h7⟩, h8⟩, h9⟩ := h
  exact ⟨h1, h2, h3, h4, h5, h6, h7, fun hc => h8.resolve_left (not_not.2 hc), h9⟩

/-- Along a spelling the two lists agree letter by letter under any test that looks at a letter
only through its lower case and whether it is the long s or the Kelvin sign. -/
theorem zip_all_isCaseOf {kw : String} (hkw : kw ∈ grammarKeywords) {f : Char × Char → Bool}
    (hf : ∀ c k y, keywordLetter c k = true → keywordLetter k k = true → f (c, y) = f (k, y)) :
    ∀ {sp ks : List Char} (ys : List Char), isCaseOf sp ks = true → (∀ k ∈ ks, k ∈ kw.toList) →
      (sp.zip ys).all f = (ks.zip ys).all f
  | [], [], _, _, _ => rfl
  | c :: cs, k :: ks, [], _, _ => rfl
  | c :: cs, k :: ks, y :: ys, h, hks => by
    simp only [List.zip_cons_cons, List.all_cons]
    have hk := List.all_eq_true.1 (List.all_eq_true.1 grammarKeywords_letters kw hkw) k
      (hks k (List.mem_cons_self ..))
    simp only [Bool.and_eq_true] at hk
    simp only [isCaseOf, Bool.and_eq_true, Bool.or_eq_true, beq_iff_eq] at h
    have hc : f (c, y) = f (k, y) := by
      rcases h.1 with rfl | rfl
      · rfl
      · exact hf _ _ y hk.2 hk.1
    rw [hc, zip_all_isCaseOf hkw hf ys h.2 (fun k hk => hks k (List.mem_cons_of_mem _ hk))]
  | [], _ :: _, _, h, _ | _ :: _, [], _, h, _ => by simp [isCaseOf] at h

/-- A keyword written in any letter case matches exactly the keywords the keyword matches. -/
theorem sameWordAscii_isCaseOf {kw : String} (hkw : kw ∈ grammarKeywords) {sp : List Char}
    (h : isCaseOf sp kw.toList = true) (kw' : String) :
    sameWordAscii (String.ofList sp) kw' = sameWordAscii kw kw' := by
  unfold sameWordAscii
  rw [String.length_ofList, String.toList_ofList, isCaseOf_length h, String.length_toList]
  congr 1
  refine zip_all_isCaseOf hkw (fun c k y hc hk => ?_) kw'.toList h (fun k hk => hk)
  obtain ⟨-, -, -, -, hcl, -, hc1, hc2, -⟩ := keywordLetter_spec hc
  obtain ⟨-, -, -, -, hkl, -, hk1, hk2, -⟩ := keywordLetter_spec hk
  -- an upper-case K written for k passes the Kelvin test that k passes through its lower case
  by_cases hK : c = 'K'
  · have hk' := hc2 hK
    subst hK hk'
    simp only [hcl, hkl]
    simpa using fun h : y.toLower = 'k' => h.symm
  · have hkK : k ≠ 'K' := fun e => by subst e; simp at hkl
    simp [hcl, hkl, hc1, hK, hk1, hkK]

/-- A keyword written in any letter case lower-cases to the keyword. -/
theorem lower_isCaseOf {kw : String} (hkw : kw ∈ grammarKeywords) {sp : List Char}
    (h : isCaseOf sp kw.toList = true) : lower (String.ofList sp) = kw := by
  have hmap : ∀ {sp ks : List Char}, isCaseOf sp ks = true → (∀ k ∈ ks, k ∈ kw.toList) →
      sp.map lowerChar = ks := by
    intro sp
    induction sp with
    | nil => intro ks h _; cases ks <;> simp_all [isCaseOf]
    | cons c cs ih =>
      intro ks h hks
      cases ks with
      | nil => simp [isCaseOf] at h
      | cons k ks =>
        simp only [isCaseOf, Bool.and_eq_true, Bool.or_eq_true, beq_iff_eq] at h
        have hk := List.all_eq_true.1 (List.all_eq_true.1 grammarKeywords_letters kw hkw) k
          (hks k (List.mem_cons_self ..))
        simp only [Bool.and_eq_true] at hk
        have hc : lowerChar c = k := by
          rcases h.1 with rfl | rfl
          · exact (keywordLetter_spec hk.1).2.2.2.2.2.1
          · exact (keywordLetter_spec hk.2).2.2.2.2.2.1
        rw [List.map_cons, hc, ih h.2 (fun k hk => hks k (List.mem_cons_of_mem _ hk))]
  simp [lower, hmap h (fun k hk => hk)]

/-! ### Each word is one token -/

theorem readQuoted_cons_of_ne {q c : Char} (hc : c ≠ q) (cs : List Char) :
    readQuoted q (c :: cs) = (readQuoted q cs).map fun (t, r) => (c :: t, r) := by
  rw [readQuoted.eq_def]
  simp only [hc, if_false]

/-- The decimal digits of a number are ASCII digits. -/
theorem toDigits_ascii_digit {n : Nat} {d : Char} (hd : d ∈ Nat.toDigits 10 n) :
    isDigit d = true ∧ d.toNat < 0x80 := by
  have h := Nat.isDigit_of_mem_toDigits (by decide) (by decide) hd
  have hlt : d.toNat < 0x80 := by
    have := (Char.isDigit_iff_toNat.1 h).2
    simp only [show '9'.toNat = 57 from rfl] at this
    omega
  exact ⟨by simp [isDigit, hlt, h], hlt⟩

/-- The operators are non-empty runs of ASCII marks. -/
theorem operatorTexts_marks :
    ∀ s ∈ operatorTexts, s.toList ≠ [] ∧ ∀ c ∈ s.toList, c.toNat < 0x80 ∧ isBlank c = false := by
  decide

section
variable {x : List Char} (hx : ∀ d ∈ x.head?, isBlank d = true)
include hx

/-- A run of identifier characters that starts neither a number nor a star is one identifier
before a blank. -/
theorem Lexeme.identRun {c : Char} {cs : List Char} (hc : isIdentChar c = true)
    (hcs : ∀ d ∈ cs, isIdentChar d = true) (hn : startsNumber c cs = false) (hs : c ≠ '*') :
    Lexeme (c :: cs ++ x) .ident (c :: cs) x := by
  have h : Lexeme (c :: cs) .ident (c :: cs.takeWhile isIdentChar) (cs.dropWhile isIdentChar) :=
    .word hn hc (fun h => absurd h hs)
  rw [List.takeWhile_eq_self_iff.2 hcs, List.dropWhile_eq_nil_iff.2 hcs] at h
  exact h.extend rfl (.inl rfl) hx

/-- A run of digits is one number before a blank. -/
theorem Lexeme.digitRun {c : Char} {cs : List Char} (hc : isDigit c = true)
    (hcs : ∀ d ∈ cs, isDigit d = true) : Lexeme (c :: cs ++ x) .number (c :: cs) x := by
  have hnum : ∀ d ∈ cs, isNumberChar d = true := fun d hd => by simp [isNumberChar, hcs d hd]
  have h : Lexeme (c :: cs) .number (c :: cs.takeWhile isNumberChar) (cs.dropWhile isNumberChar) :=
    .number (by simp [startsNumber, hc]) (by rw [List.dropWhile_eq_nil_iff.2 hnum]; simp)
  rw [List.takeWhile_eq_self_iff.2 hnum, List.dropWhile_eq_nil_iff.2 hnum] at h
  exact h.extend rfl (.inr rfl) hx

/-- A lone star before a blank. -/
theorem Lexeme.loneStar : Lexeme ('*' :: x) .star ['*'] x := by
  refine .star ?_
  cases x with
  | nil => rfl
  | cons d ds =>
    have hd : isIdentChar d = false := isIdentChar_of_isBlank (hx d rfl)
    simp [starStandsAlone, hd]

/-- A doubled quote inside a quoted text stands for one quote, and the quote after the text
ends it when a blank follows. -/
theorem readQuoted_doubleAll {q : Char} (hq : isBlank q = false) :
    ∀ cs : List Char, readQuoted q (doubleAll q cs ++ q :: x) = some (cs, x)
  | [] => by
    cases x with
    | nil => simp [readQuoted, doubleAll]
    | cons d ds =>
      have hd : d ≠ q := fun e => by rw [← e, hx d rfl] at hq; cases hq
      simp [readQuoted, doubleAll, hd]
  | c :: cs => by
    by_cases hc : c = q
    · subst hc
      rw [doubleAll_cons_self]
      simp [readQuoted, readQuoted_doubleAll hq cs]
    · rw [doubleAll_cons_of_ne hc, List.cons_append, readQuoted_cons_of_ne hc,
        readQuoted_doubleAll hq cs]
      rfl

/-- A quoted text before a blank is one string token of the text. -/
theorem Lexeme.quoted {q : Char} (hq : q = '\'' ∨ q = '"') (s : String) :
    Lexeme (Query.quoted q s ++ x) .str s.toList x := by
  have h := readQuoted_doubleAll hx (isBlank_quote hq) s.toList
  simp only [Query.quoted, List.cons_append, List.append_assoc]
  exact .str hq h

/-- An operator before a blank is read whole: no longer operator is there. -/
theorem readOperator_append {o : List Char} (ho : o ∈ operators) : readOperator (o ++ x) = some o := by
  simp only [operators, List.mem_cons, List.not_mem_nil, or_false] at ho
  cases x with
  | nil => rcases ho with rfl | rfl | rfl | rfl | rfl | rfl | rfl <;> decide
  | cons d ds =>
    have hd : '=' ≠ d ∧ '>' ≠ d := by
      have hb := hx d rfl
      constructor <;> rintro rfl <;> exact absurd hb (by decide)
    rcases ho with rfl | rfl | rfl | rfl | rfl | rfl | rfl <;>
      simp [readOperator, operators, List.isPrefixOf, hd.1, hd.2]

/-- An operator of the language before a blank is one operator token. -/
theorem Lexeme.operator {s : String} (hs : s ∈ operatorTexts) :
    Lexeme (s.toList ++ x) .op s.toList x := by
  have ho : s.toList ∈ operators := by
    simp only [operatorTexts, List.mem_cons, List.not_mem_nil, or_false] at hs
    rcases hs with rfl | rfl | rfl | rfl | rfl | rfl | rfl <;> decide
  obtain ⟨c, cs, hcs, hc⟩ : ∃ c cs, s.toList = c :: cs ∧ (c = '=' ∨ c = '<' ∨ c = '>' ∨ c = '!') := by
    simp only [operators, List.mem_cons, List.not_mem_nil, or_false] at ho
    rcases ho with h | h | h | h | h | h | h <;> rw [h] <;> simp
  have hread : readOperator (c :: (cs ++ x)) = some s.toList := by
    rw [← List.cons_append, ← hcs]
    exact readOperator_append hx ho
  have h := Lexeme.op hc hread
  rw [← List.cons_append, ← hcs, List.drop_left] at h
  exact h

/-- A valid word before a blank is one token, and that token reads as the word. -/
theorem Word.Spelt.lexeme {w : Word} {sp : List Char} (hs : w.Spelt sp) (hv : w.Valid) :
    ∃ k t, Lexeme (sp ++ x) k t x ∧ ∀ pos, w.Reads ⟨k, String.ofList t, pos⟩ := by
  cases hs with
  | @keyword kw sp h =>
    have hkw : kw ∈ grammarKeywords := hv
    obtain ⟨c, cs, rfl⟩ := List.exists_cons_of_ne_nil (isCaseOf_ne_nil hkw h)
    have hl := isCaseOf_letter hkw h (fun k hk => hk)
    have letter : ∀ d ∈ c :: cs, isIdentChar d = true ∧ isDigit d = false ∧ d ≠ '-' ∧ d ≠ '*' := by
      intro d hd
      obtain ⟨k, hk, -⟩ := hl d hd
      obtain ⟨h1, h2, h3, h4, -⟩ := keywordLetter_spec hk
      exact ⟨h1, h2, h3, h4⟩
    obtain ⟨hc1, hc2, hc3, hc4⟩ := letter c List.mem_cons_self
    refine ⟨.ident, c :: cs, Lexeme.identRun hx hc1
      (fun d hd => (letter d (List.mem_cons_of_mem _ hd)).1) (by simp [startsNumber, hc2, hc3]) hc4,
      fun _ => ⟨rfl, lower_isCaseOf hkw h, fun kw' => ?_⟩⟩
    simp only [Token.isKeyword, sameWordAscii_isCaseOf hkw h, decide_true, Bool.true_and]
  | @name s =>
    exact ⟨.ident, s.toList, (hv.1.lexeme (.inl rfl)).extend rfl (.inl rfl) hx,
      fun _ => ⟨rfl, by simp⟩⟩
  | @bare v hq =>
    have hv' : v = ⟨v.text, false⟩ := by cases v; simp_all
    rcases hv.2 hq with h | h | h
    · refine ⟨.ident, v.text.toList, (h.lexeme (.inl rfl)).extend rfl (.inl rfl) hx, fun _ => ?_⟩
      simp [Word.Reads, Token.value?, ← hv']
    · refine ⟨.number, v.text.toList, (h.lexeme (.inr rfl)).extend rfl (.inr rfl) hx, fun _ => ?_⟩
      simp [Word.Reads, Token.value?, ← hv']
    · rw [h] at hv' ⊢
      refine ⟨.star, ['*'], Lexeme.loneStar hx, fun _ => ?_⟩
      simp [Word.Reads, Token.value?, ← hv']
  | @quotedValue v q hq hq' =>
    have hv' : v = ⟨v.text, true⟩ := by cases v; simp_all
    refine ⟨.str, v.text.toList, Lexeme.quoted hx hq' _, fun _ => ?_⟩
    simp [Word.Reads, Token.value?, ← hv']
  | @str s q hq => exact ⟨.str, s.toList, Lexeme.quoted hx hq _, fun _ => ⟨rfl, by simp⟩⟩
  | @number n =>
    obtain ⟨c, cs, hcs⟩ := List.exists_cons_of_ne_nil (Nat.toDigits_ne_nil : Nat.toDigits 10 n ≠ [])
    have hdig : ∀ d ∈ c :: cs, isDigit d = true := by
      intro d hd
      rw [← hcs] at hd
      exact (toDigits_ascii_digit hd).1
    refine ⟨.number, c :: cs, ?_, fun _ => ⟨rfl, by rw [hcs]⟩⟩
    rw [hcs]
    exact Lexeme.digitRun hx (hdig c List.mem_cons_self) (fun d hd => hdig d (List.mem_cons_of_mem _ hd))
  | star => exact ⟨.star, ['*'], Lexeme.loneStar hx, fun _ => rfl⟩
  | comma => exact ⟨.comma, [','], .comma, fun _ => rfl⟩
  | lparen => exact ⟨.lparen, ['('], .lparen, fun _ => rfl⟩
  | rparen => exact ⟨.rparen, [')'], .rparen, fun _ => rfl⟩
  | semicolon => exact ⟨.semicolon, [';'], .semicolon, fun _ => rfl⟩
  | @op s => exact ⟨.op, s.toList, Lexeme.operator hx hv, fun _ => ⟨rfl, by simp⟩⟩

end

/-- Every spelling of a valid word is non-empty and neither starts nor ends with a blank. -/
theorem Word.Spelt.edges {w : Word} {sp : List Char} (hs : w.Spelt sp) (hv : w.Valid) :
    sp ≠ [] ∧ (∀ c ∈ sp.head?, isBlank c = false) ∧ (∀ c ∈ sp.getLast?, isBlank c = false) := by
  -- most spellings have no blank at all
  have solid : ∀ {sp : List Char}, (sp ≠ [] ∧ ∀ c ∈ sp, isBlank c = false) →
      sp ≠ [] ∧ (∀ c ∈ sp.head?, isBlank c = false) ∧ (∀ c ∈ sp.getLast?, isBlank c = false) :=
    fun ⟨hne, h⟩ => ⟨hne, fun c hc => h c (List.mem_of_mem_head? hc),
      fun c hc => h c (List.mem_of_mem_getLast? hc)⟩
  have quotes : ∀ {q : Char} (s : String), (q = '\'' ∨ q = '"') →
      quoted q s ≠ [] ∧ (∀ c ∈ (quoted q s).head?, isBlank c = false) ∧
        (∀ c ∈ (quoted q s).getLast?, isBlank c = false) := by
    intro q s hq
    refine ⟨List.cons_ne_nil _ _, fun c hc => ?_, fun c hc => ?_⟩
    · simp only [quoted, List.cons_append, List.head?_cons, Option.mem_def,
        Option.some.injEq] at hc
      rw [← hc]; exact isBlank_quote hq
    · simp only [quoted, List.getLast?_append, List.getLast?_singleton, Option.some_or,
        Option.mem_def, Option.some.injEq] at hc
      rw [← hc]; exact isBlank_quote hq
  cases hs with
  | @keyword kw sp h =>
    have hkw : kw ∈ grammarKeywords := hv
    refine solid ⟨isCaseOf_ne_nil hkw h, fun c hc => ?_⟩
    obtain ⟨k, hk, -⟩ := isCaseOf_letter hkw h (fun k hk => hk) c hc
    exact (not_special_of_isIdentChar (keywordLetter_spec hk).1).1
  | name => exact solid (hv.1.no_blank (.inl rfl))
  | @bare v hq =>
    rcases hv.2 hq with h | h | h
    · exact solid (h.no_blank (.inl rfl))
    · exact solid (h.no_blank (.inr rfl))
    · rw [h]
      exact solid (by decide)
  | quotedValue _ hq => exact quotes _ hq
  | str hq => exact quotes _ hq
  | @number n =>
    -- a digit starts a number, so it is an identifier character and not a blank
    refine solid ⟨Nat.toDigits_ne_nil, fun c hc => ?_⟩
    have hn : startsNumber c [] = true := by simp [startsNumber, (toDigits_ascii_digit hc).1]
    exact (not_special_of_isIdentChar (isIdentChar_of_startsNumber hn)).1
  | star | comma | lparen | rparen | semicolon => exact solid (by decide)
  | @op s =>
    obtain ⟨hne, hmarks⟩ := operatorTexts_marks s hv
    exact solid ⟨hne, fun c hc => (hmarks c hc).2⟩

/-! ### Laid words -/

theorem Laid.blanks {bs : List Char} (h : Laid [] bs) : ∀ c ∈ bs, isBlank c = true := by
  cases h
  assumption

/-- After a laid word comes a blank or nothing. -/
theorem Laid.after_head {ws : List Word} {gap rest : List Char} (hgap : ∀ c ∈ gap, isBlank c = true)
    (hne : ws ≠ [] → gap ≠ []) (h : Laid ws rest) : ∀ c ∈ (gap ++ rest).head?, isBlank c = true := by
  intro c hc
  cases ws with
  | nil =>
    rcases List.mem_append.1 (List.mem_of_mem_head? hc) with hc | hc
    · exact hgap c hc
    · exact h.blanks c hc
  | cons w ws =>
    obtain ⟨g, gs, rfl⟩ := List.exists_cons_of_ne_nil (hne (List.cons_ne_nil w ws))
    simp only [List.cons_append, List.head?_cons, Option.mem_def, Option.some.injEq] at hc
    exact hc ▸ hgap g List.mem_cons_self

/-- The lexer reads laid words back one token per word. -/
theorem Laid.lexFrom {ws : List Word} {body : List Char} (hv : ∀ w ∈ ws, w.Valid) (h : Laid ws body)
    (n : Nat) : ∃ toks, lexFrom n body = .ok (toks ++ [⟨.eof, "", n⟩]) ∧ ReadAs ws toks := by
  induction h with
  | nil hb => exact ⟨[], lexFrom_blanks hb, .nil⟩
  | @cons w ws sp gap rest hs hgap hne hl ih =>
    obtain ⟨toks, htoks, hr⟩ := ih (fun w' hw' => hv w' (List.mem_cons_of_mem _ hw'))
    obtain ⟨k, t, hlex, hreads⟩ := hs.lexeme (hl.after_head hgap hne) (hv w List.mem_cons_self)
    refine ⟨⟨k, String.ofList t, n - (sp ++ (gap ++ rest)).length⟩ :: toks, ?_, .cons (hreads _) hr⟩
    rw [List.append_assoc, lexFrom_of_lexeme hlex, lexFrom_blanks_append rest hgap, htoks]
    rfl

/-- Laid words start with the first character of the first word. -/
theorem Laid.head {w : Word} {ws : List Word} {body : List Char} (hv : ∀ v ∈ w :: ws, v.Valid)
    (h : Laid (w :: ws) body) : ∃ c cs, body = c :: cs ∧ isBlank c = false := by
  cases h with
  | @cons _ _ sp gap rest hs _ _ _ =>
    obtain ⟨hne, hhead, -⟩ := hs.edges (hv w List.mem_cons_self)
    obtain ⟨c, cs, rfl⟩ := List.exists_cons_of_ne_nil hne
    exact ⟨c, cs ++ gap ++ rest, rfl, hhead c rfl⟩

theorem rdropWhile_append_of_all {p : Char → Bool} {xs ys : List Char} (h : ∀ c ∈ ys, p c = true) :
    (xs ++ ys).rdropWhile p = xs.rdropWhile p := by
  simp only [List.rdropWhile, List.reverse_append]
  rw [List.dropWhile_append_of_pos (fun c hc => h c (List.mem_reverse.1 hc))]

theorem rdropWhile_append_of_mem {p : Char → Bool} {xs ys : List Char} {c : Char} (hc : c ∈ ys)
    (hp : p c = false) : (xs ++ ys).rdropWhile p = xs ++ ys.rdropWhile p := by
  have hne : ys.reverse.dropWhile p ≠ [] := by
    rw [ne_eq, List.dropWhile_eq_nil_iff]
    intro hall
    rw [hall c (List.mem_reverse.2 hc)] at hp
    cases hp
  simp only [List.rdropWhile, List.reverse_append, List.dropWhile_append,
    List.isEmpty_eq_false_iff.2 hne, Bool.false_eq_true, if_false, List.reverse_append,
    List.reverse_reverse]

/-- The last word, with blanks after it. -/
theorem Laid.last {w : Word} {sp bs : List Char} (hs : w.Spelt sp) (hb : ∀ c ∈ bs, isBlank c = true) :
    Laid [w] (sp ++ bs) := by
  have h : Laid [w] (sp ++ bs ++ []) :=
    .cons hs hb (fun h => absurd rfl h) (.nil fun c hc => absurd hc List.not_mem_nil)
  simpa using h

/-- Words spelt one way each and joined by single spaces are laid. -/
theorem Laid.intercalate : ∀ {ws : List Word} {sps : List (List Char)},
    List.Forall₂ Word.Spelt ws sps → Laid ws ([' '].intercalate sps)
  | _, _, .nil => .nil (by simp)
  | _, _, .cons hs .nil => by
    rw [List.intercalate_singleton]
    simpa using Laid.last hs (fun c hc => absurd hc (List.not_mem_nil (a := c)))
  | _, _, .cons hs (.cons hs' hss) => by
    rw [List.intercalate_cons_cons]
    exact .cons hs (by simp [isBlank]) (fun _ => by simp) (Laid.intercalate (.cons hs' hss))

/-- Blanks at the end of laid words can be dropped. -/
theorem Laid.rdropWhile {ws : List Word} {body : List Char} (hv : ∀ w ∈ ws, w.Valid)
    (h : Laid ws body) : Laid ws (body.rdropWhile isBlank) := by
  induction h with
  | nil hb => exact .nil (by simp [List.rdropWhile_eq_nil_iff.2 hb])
  | @cons w ws sp gap rest hs hgap hne hl ih =>
    cases ws with
    | nil =>
      obtain ⟨-, -, hlast⟩ := hs.edges (hv w List.mem_cons_self)
      have hsp : sp.rdropWhile isBlank = sp := by
        rw [List.rdropWhile_eq_self_iff]
        intro hsp
        simpa using hlast _ (List.getLast?_eq_some_getLast hsp)
      rw [List.append_assoc, rdropWhile_append_of_all (fun c hc => ?_), hsp]
      · simpa using Laid.last hs (fun c hc => absurd hc (List.not_mem_nil (a := c)))
      · rcases List.mem_append.1 hc with hc | hc
        · exact hgap c hc
        · exact hl.blanks c hc
    | cons w' ws =>
      have hv' : ∀ w ∈ w' :: ws, w.Valid := fun w hw => hv w (List.mem_cons_of_mem _ hw)
      obtain ⟨c, cs, hrest, hc⟩ := hl.head hv'
      rw [rdropWhile_append_of_mem (by rw [hrest]; exact List.mem_cons_self) hc]
      exact .cons hs hgap hne (ih hv')

/-- Trimming a text that writes words leaves the words laid. -/
theorem Writes.trim {ws : List Word} {text : String} (hv : ∀ w ∈ ws, w.Valid) (h : Writes ws text) :
    Laid ws (trimBlank text).toList := by
  obtain ⟨lead, body, htext, hlead, hl⟩ := h
  rw [trimBlank_toList, htext, List.dropWhile_append_of_pos hlead]
  cases ws with
  | nil =>
    rw [List.dropWhile_eq_nil_iff.2 hl.blanks]
    exact .nil (by simp)
  | cons w ws =>
    obtain ⟨c, cs, rfl, hc⟩ := hl.head hv
    rw [List.dropWhile_cons_of_neg (by simp [hc])]
    exact hl.rdropWhile hv

/-! ### Normalisation -/

theorem nfcChars_nil : nfcChars [] = [] := by
  simp [nfcChars, nfcCodes_nil]

/-- A non-empty run of blanks splits a text for normalisation and stays a non-empty run of
blanks. -/
theorem nfcChars_blank_run : ∀ {b : Char} {bs : List Char}, isBlank b = true →
    (∀ c ∈ bs, isBlank c = true) → ∀ xs ys : List Char, ∃ bs' : List Char, bs' ≠ [] ∧
      (∀ c ∈ bs', isBlank c = true) ∧ nfcChars (xs ++ b :: bs ++ ys) = nfcChars xs ++ bs' ++ nfcChars ys
  | b, [], hb, _, xs, ys => by
    obtain ⟨b', hb', h⟩ := nfcChars_split_blank hb xs ys
    exact ⟨[b'], List.cons_ne_nil _ _, by simpa using hb', by simpa using h⟩
  | b, c :: bs, hb, hbs, xs, ys => by
    obtain ⟨b', hb', h⟩ := nfcChars_split_blank hb xs (c :: bs ++ ys)
    obtain ⟨cs', -, hcs', h'⟩ := nfcChars_blank_run (hbs c List.mem_cons_self)
      (fun d hd => hbs d (List.mem_cons_of_mem _ hd)) [] ys
    refine ⟨b' :: cs', List.cons_ne_nil _ _, ?_, ?_⟩
    · rintro d (_ | ⟨_, hd⟩)
      · exact hb'
      · exact hcs' d hd
    · rw [List.nil_append, nfcChars_nil, List.nil_append] at h'
      rw [List.append_assoc, List.cons_append, h, h']
      simp

/-- Blanks at the end of a text stay blanks. -/
theorem nfcChars_blanks_suffix {bs : List Char} (hbs : ∀ c ∈ bs, isBlank c = true) (xs : List Char) :
    ∃ bs' : List Char, (∀ c ∈ bs', isBlank c = true) ∧ nfcChars (xs ++ bs) = nfcChars xs ++ bs' := by
  cases bs with
  | nil => exact ⟨[], by simp, by simp⟩
  | cons b bs =>
    obtain ⟨bs', -, hbs', h⟩ := nfcChars_blank_run (hbs b List.mem_cons_self)
      (fun c hc => hbs c (List.mem_cons_of_mem _ hc)) xs []
    rw [nfcChars_nil, List.append_nil, List.append_nil] at h
    exact ⟨bs', hbs', h⟩

/-- Every spelling of a valid word is in normal form. -/
theorem Word.Spelt.nfcChars {w : Word} {sp : List Char} (hs : w.Spelt sp) (hv : w.Valid) :
    nfcChars sp = sp := by
  have quotes : ∀ {q : Char} {s : String}, (q = '\'' ∨ q = '"') → nfc s = s →
      Normal.nfcChars (quoted q s) = quoted q s := by
    intro q s hq hs
    have h : Normal.nfcChars s.toList = s.toList := by rw [← nfc_toList, hs]
    have e1 := nfcChars_split_quote hq [] (doubleAll q s.toList ++ [q])
    have e2 := nfcChars_split_quote hq (doubleAll q s.toList) []
    rw [List.nil_append, nfcChars_nil, List.nil_append] at e1
    rw [nfcChars_nil, nfcChars_doubleAll hq h] at e2
    rw [quoted, List.cons_append, e1, e2]
  cases hs with
  | @keyword kw sp h =>
    refine nfcChars_ascii fun c hc => ?_
    obtain ⟨k, hk, -⟩ := isCaseOf_letter hv h (fun k hk => hk) c hc
    exact (keywordLetter_spec hk).2.2.2.2.2.2.2.2
  | name => rw [← nfc_toList, hv.2]
  | bare => rw [← nfc_toList, hv.1]
  | quotedValue _ hq => exact quotes hq hv.1
  | str hq => exact quotes hq hv
  | @number n => exact nfcChars_ascii fun c hc => (toDigits_ascii_digit hc).2
  | star | comma | lparen | rparen | semicolon => exact nfcChars_ascii (by decide)
  | @op s => exact nfcChars_ascii fun c hc => ((operatorTexts_marks s hv).2 c hc).1

/-- Normalisation keeps words laid; it may change the blanks between them. -/
theorem Laid.nfcChars {ws : List Word} {body : List Char} (hv : ∀ w ∈ ws, w.Valid) (h : Laid ws body) :
    Laid ws (nfcChars body) := by
  induction h with
  | nil hb =>
    obtain ⟨bs', hbs', h⟩ := nfcChars_blanks_suffix hb []
    rw [List.nil_append, nfcChars_nil, List.nil_append] at h
    exact h ▸ .nil hbs'
  | @cons w ws sp gap rest hs hgap hne hl ih =>
    have hsp := hs.nfcChars (hv w List.mem_cons_self)
    cases ws with
    | nil =>
      -- the last word: everything after it is blank
      have hb : ∀ c ∈ gap ++ rest, isBlank c = true := fun c hc => by
        rcases List.mem_append.1 hc with hc | hc
        · exact hgap c hc
        · exact hl.blanks c hc
      obtain ⟨bs', hbs', h⟩ := nfcChars_blanks_suffix hb sp
      rw [List.append_assoc, h, hsp]
      exact Laid.last hs hbs'
    | cons w' ws =>
      obtain ⟨g, gs, rfl⟩ := List.exists_cons_of_ne_nil (hne (List.cons_ne_nil _ _))
      obtain ⟨bs', hne', hbs', h⟩ := nfcChars_blank_run (hgap g List.mem_cons_self)
        (fun c hc => hgap c (List.mem_cons_of_mem _ hc)) sp rest
      rw [h, hsp]
      exact .cons hs hbs' (fun _ => hne') (ih fun v hv' => hv v (List.mem_cons_of_mem _ hv'))

/-- A text that writes valid words lexes, once trimmed and normalised as a statement is, to one
token for each word. -/
theorem Writes.lex {ws : List Word} {text : String} (hv : ∀ w ∈ ws, w.Valid) (h : Writes ws text) :
    ∃ toks, lex (nfc (trimBlank text)) = .ok (toks ++ [⟨.eof, "", (nfc (trimBlank text)).length⟩]) ∧
      ReadAs ws toks := by
  have hl : Laid ws (nfc (trimBlank text)).toList := by
    rw [nfc_toList]
    exact (h.trim hv).nfcChars hv
  exact hl.lexFrom hv _

end SqlSearch.Query
