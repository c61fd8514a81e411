import SqlSearch.Proofs.WrittenWords
import SqlSearch.Query.Script
/-! Splitting a script into statements. The splitter tracks quotes on its own, one character at
a time, and drops comment lines afterwards, line by line and blind to quotes. `Quiet q cs q'`
says that it reads `cs` from the quote `q` to the quote `q'` without meeting a separator
outside quotes. A text that the lexer reads with no semicolon token is quiet from outside
quotes to outside quotes (`lexFrom_quiet`): the two passes agree on where strings start and end,
doubled quotes included. The splitter cuts a script at exactly the separators put between
quiet pieces (`splitPieces_intercalate`).

Main statement: `splitStatements_script`, a script laid out from statements, blank pieces and
comment lines is split into the statements, trimmed, in order. Its comment lines hold no quote
and no semicolon, and no line of a statement reads as a comment, also inside a string: a quote
in a comment opens a string for the splitter (`splitStatements_quote_in_comment`). Since the
splitter looks at quotes and separators only (`quiet_iff_filter`), such comment lines may stand
between any two lines of a piece, inside a string too. -/
namespace SqlSearch.Query

open SqlSearch.Text

/-! ### The splitter's quotes -/

/-- The quote in force after the splitter reads `c` in the state `q`. -/
def nextQuote : Option Char → Char → Option Char
  | some q, c => if c = q then none else some q
  | none, c => if c = '\'' ∨ c = '"' then some c else none

/-- The states the splitter reaches: outside quotes, or inside a string of one of the quotes. -/
def QuoteState (q : Option Char) : Prop := ∀ c ∈ q, c = '\'' ∨ c = '"'

/-- A character that never changes the splitter's state: no quote and no separator. -/
def Plain (c : Char) : Prop := c ≠ '\'' ∧ c ≠ '"' ∧ c ≠ ';'

/-- Reading `cs` from the quote `q`, the splitter meets no separator outside quotes and ends
at the quote `q'`. -/
inductive Quiet : Option Char → List Char → Option Char → Prop
  | nil {q : Option Char} : Quiet q [] q
  | cons {q q' : Option Char} {c : Char} {cs : List Char} : (q = none → c ≠ ';') →
      Quiet (nextQuote q c) cs q' → Quiet q (c :: cs) q'

theorem QuoteState.nextQuote {q : Option Char} (hq : QuoteState q) (c : Char) :
    QuoteState (nextQuote q c) := by
  cases q with
  | some q =>
    by_cases hc : c = q
    · simp [SqlSearch.Query.nextQuote, hc, QuoteState]
    · simpa [SqlSearch.Query.nextQuote, hc] using hq
  | none =>
    by_cases hc : c = '\'' ∨ c = '"'
    · simp [SqlSearch.Query.nextQuote, hc, QuoteState]
    · simp [SqlSearch.Query.nextQuote, hc, QuoteState]

theorem nextQuote_plain {q : Option Char} (hq : QuoteState q) {c : Char} (hc : Plain c) :
    nextQuote q c = q := by
  obtain ⟨h₁, h₂, -⟩ := hc
  cases q with
  | some q =>
    have hne : c ≠ q := by
      rcases hq q rfl with rfl | rfl <;> assumption
    simp [nextQuote, hne]
  | none => simp [nextQuote, h₁, h₂]

theorem nextQuote_close (q : Char) : nextQuote (some q) q = none := by simp [nextQuote]

theorem nextQuote_open {q : Char} (hq : q = '\'' ∨ q = '"') : nextQuote none q = some q := by
  simp [nextQuote, hq]

theorem nextQuote_inside {q c : Char} (hc : c ≠ q) : nextQuote (some q) c = some q := by
  simp [nextQuote, hc]

theorem ne_semicolon_of_quote {q : Char} (hq : q = '\'' ∨ q = '"') : q ≠ ';' := by
  rcases hq with rfl | rfl <;> decide

theorem Quiet.append {q₁ q₂ q₃ : Option Char} {as bs : List Char} (ha : Quiet q₁ as q₂)
    (hb : Quiet q₂ bs q₃) : Quiet q₁ (as ++ bs) q₃ := by
  induction ha with
  | nil => exact hb
  | cons hc _ ih => exact .cons hc (ih hb)

/-- Plain characters leave every state the splitter reaches as it is. -/
theorem quiet_plain {q : Option Char} (hq : QuoteState q) :
    ∀ {cs : List Char}, (∀ c ∈ cs, Plain c) → Quiet q cs q
  | [], _ => .nil
  | c :: cs, h => by
    have hc : Plain c := h c List.mem_cons_self
    refine .cons (fun _ => hc.2.2) ?_
    rw [nextQuote_plain hq hc]
    exact quiet_plain hq fun d hd => h d (List.mem_cons_of_mem c hd)

/-! ### Cutting at separators -/

theorem splitPieces_cons {q : Option Char} {c : Char} (hc : q = none → c ≠ ';')
    (current cs : List Char) :
    splitPieces q current (c :: cs) = splitPieces (nextQuote q c) (c :: current) cs := by
  cases q with
  | some q => simp only [splitPieces, nextQuote]
  | none =>
    by_cases hq : c = '\'' ∨ c = '"'
    · simp [splitPieces, nextQuote, hq]
    · simp [splitPieces, nextQuote, hq, hc rfl]

/-- The splitter reads a quiet text into the piece it is building. -/
theorem Quiet.splitPieces {q q' : Option Char} {cs : List Char} (h : Quiet q cs q')
    (current rest : List Char) :
    splitPieces q current (cs ++ rest) = splitPieces q' (cs.reverse ++ current) rest := by
  induction h generalizing current with
  | nil => rfl
  | cons hc _ ih =>
    rw [List.cons_append, splitPieces_cons hc, ih]
    simp

/-- Quiet pieces joined by separators are cut back into those pieces. -/
theorem splitPieces_intercalate {ps : List (List Char)} (hs : ∀ p ∈ ps, Quiet none p none) :
    ∀ {p : List Char}, Quiet none p none → ∀ current : List Char,
      splitPieces none current ([';'].intercalate (p :: ps)) =
        String.ofList (current.reverse ++ p) :: ps.map String.ofList := by
  induction ps with
  | nil =>
    intro p hp current
    rw [List.intercalate_singleton, ← List.append_nil p, hp.splitPieces current []]
    simp [splitPieces]
  | cons p' ps ih =>
    intro p hp current
    have hrest : ∀ p ∈ ps, Quiet none p none := fun p hp => hs p (List.mem_cons_of_mem p' hp)
    rw [List.intercalate_cons_cons, List.append_assoc, hp.splitPieces current]
    simp [splitPieces, ih hrest (hs p' List.mem_cons_self) []]

/-! ### Strings of the lexer -/

/-- The lexer's string after the opening quote `q` is what the splitter reads from inside `q` to
outside quotes: a doubled quote closes the string and opens it again. -/
theorem readQuoted_quiet {q : Char} (hq : q = '\'' ∨ q = '"') {cs t r : List Char}
    (h : readQuoted q cs = some (t, r)) : ∃ pre, cs = pre ++ r ∧ Quiet (some q) pre none := by
  fun_induction readQuoted q cs generalizing t r with
  | case1 => simp at h
  | case2 ds ih =>
    obtain ⟨⟨t', r'⟩, h', he⟩ := Option.map_eq_some_iff.1 h
    cases he
    obtain ⟨pre, rfl, hpre⟩ := ih h'
    refine ⟨q :: q :: pre, rfl, .cons (fun h => absurd h (Option.some_ne_none _)) ?_⟩
    rw [nextQuote_close]
    exact .cons (fun _ => ne_semicolon_of_quote hq) (by rwa [nextQuote_open hq])
  | case3 d ds _ =>
    cases h
    exact ⟨[q], rfl, .cons (fun h => absurd h (Option.some_ne_none _)) (by rw [nextQuote_close]; exact .nil)⟩
  | case4 =>
    cases h
    exact ⟨[q], rfl, .cons (fun h => absurd h (Option.some_ne_none _)) (by rw [nextQuote_close]; exact .nil)⟩
  | case5 c cs hc ih =>
    obtain ⟨⟨t', r'⟩, h', he⟩ := Option.map_eq_some_iff.1 h
    cases he
    obtain ⟨pre, rfl, hpre⟩ := ih h'
    exact ⟨c :: pre, rfl, .cons (fun h => absurd h (Option.some_ne_none _)) (by rwa [nextQuote_inside hc])⟩

theorem plain_of_isIdentChar {c : Char} (h : isIdentChar c = true) : Plain c := by
  obtain ⟨-, hq, -, -, -, hs, -⟩ := not_special_of_isIdentChar h
  exact ⟨fun e => hq (.inl e), fun e => hq (.inr e), hs⟩

theorem plain_of_isBlank {c : Char} (h : isBlank c = true) : Plain c := by
  refine ⟨?_, ?_, ?_⟩ <;> rintro rfl <;> exact absurd h (by decide)

/-- An operator is a prefix of the text it is read from, and has no quote and no separator. -/
theorem readOperator_plain {cs o : List Char} (h : readOperator cs = some o) :
    o ++ cs.drop o.length = cs ∧ ∀ c ∈ o, Plain c := by
  have hmem : o ∈ operators := List.mem_of_find?_eq_some h
  have hpre : o.isPrefixOf cs = true := by
    unfold readOperator at h
    have hp := List.find?_some h
    simpa using hp
  refine ⟨List.prefix_iff_eq_append.1 (List.isPrefixOf_iff_prefix.1 hpre), ?_⟩
  have hall : ∀ o ∈ operators, ∀ c ∈ o, c ≠ '\'' ∧ c ≠ '"' ∧ c ≠ ';' := by decide
  exact hall o hmem

theorem Lexeme.identText {cs t r : List Char} {k : TokenKind} (h : Lexeme cs k t r)
    (hk : k = .ident ∨ k = .number) : ∀ c ∈ t, isIdentChar c = true := by
  have ht := h.isIdentText hk
  simp only [Query.isIdentText, String.toList_ofList, Bool.and_eq_true, List.all_eq_true] at ht
  exact ht.2

/-- Every token but the separator is read by the splitter from outside quotes to outside quotes
without a cut. -/
theorem Lexeme.quiet {cs t r : List Char} {k : TokenKind} (h : Lexeme cs k t r)
    (hk : k ≠ .semicolon) : ∃ pre, cs = pre ++ r ∧ Quiet none pre none := by
  have hnone : QuoteState none := by simp [QuoteState]
  -- identifiers and numbers are their own text, a run of identifier characters
  have run (hk : k = .ident ∨ k = .number) : ∃ pre, cs = pre ++ r ∧ Quiet none pre none :=
    ⟨t, (h.append_eq hk).symm, quiet_plain hnone fun c hc => plain_of_isIdentChar (h.identText hk c hc)⟩
  cases h with
  | str hq hread =>
    obtain ⟨pre, rfl, hpre⟩ := readQuoted_quiet hq hread
    exact ⟨_ :: pre, rfl, .cons (fun _ => ne_semicolon_of_quote hq) (by rwa [nextQuote_open hq])⟩
  | comma => exact ⟨[','], rfl, quiet_plain hnone (by simp [Plain])⟩
  | lparen => exact ⟨['('], rfl, quiet_plain hnone (by simp [Plain])⟩
  | rparen => exact ⟨[')'], rfl, quiet_plain hnone (by simp [Plain])⟩
  | semicolon => exact absurd rfl hk
  | op _ hop =>
    obtain ⟨happ, hplain⟩ := readOperator_plain hop
    exact ⟨_, happ.symm, quiet_plain hnone hplain⟩
  | star => exact ⟨['*'], rfl, quiet_plain hnone (by simp [Plain])⟩
  | number => exact run (.inr rfl)
  | numberWord => exact run (.inl rfl)
  | word => exact run (.inl rfl)

/-- A text that lexes with no separator token is read by the splitter from outside quotes to
outside quotes without a cut: the two agree on where every string starts and ends. -/
theorem lexFrom_quiet {n : Nat} {cs : List Char} {toks : List Token} (h : lexFrom n cs = .ok toks)
    (hs : ∀ tok ∈ toks, tok.kind ≠ .semicolon) : Quiet none cs none := by
  rcases lexFrom_eq_ok h with ⟨rfl, -⟩ | ⟨c, r, rfl, hb, hr⟩ | ⟨k, t, r, rest, hlex, hlen, hr, rfl⟩
  · exact .nil
  · have hc : Quiet none [c] none :=
      quiet_plain (by simp [QuoteState]) fun d hd => List.mem_singleton.1 hd ▸ plain_of_isBlank hb
    exact hc.append (lexFrom_quiet hr hs)
  · obtain ⟨pre, hcs, hpre⟩ := hlex.quiet (hs _ List.mem_cons_self)
    exact hcs ▸ hpre.append (lexFrom_quiet hr fun tok htok => hs tok (List.mem_cons_of_mem _ htok))
termination_by cs.length
decreasing_by
  · subst_vars; exact Nat.lt_succ_self _
  · exact hlen



/-! ### What the splitter looks at -/

/-- The characters that move the splitter: quotes and the separator. -/
def isMark (c : Char) : Bool := c == '\'' || c == '"' || c == ';'

theorem plain_iff_isMark {c : Char} : Plain c ↔ isMark c = false := by
  simp [Plain, isMark, and_assoc]

instance (c : Char) : Decidable (Plain c) := decidable_of_iff _ plain_iff_isMark.symm

theorem quiet_cons_iff {q q' : Option Char} {c : Char} {cs : List Char} :
    Quiet q (c :: cs) q' ↔ (q = none → c ≠ ';') ∧ Quiet (nextQuote q c) cs q' :=
  ⟨fun | .cons hc h => ⟨hc, h⟩, fun ⟨hc, h⟩ => .cons hc h⟩

/-- The splitter's reading depends on the quotes and separators of a text only. -/
theorem quiet_iff_filter {q q' : Option Char} (hq : QuoteState q) {cs : List Char} :
    Quiet q cs q' ↔ Quiet q (cs.filter isMark) q' := by
  induction cs generalizing q with
  | nil => rfl
  | cons c cs ih =>
    cases hc : isMark c with
    | false =>
      have hp : Plain c := plain_iff_isMark.2 hc
      rw [List.filter_cons_of_neg (by simp [hc]), quiet_cons_iff, nextQuote_plain hq hp, ← ih hq]
      exact ⟨And.right, fun h => ⟨fun _ => hp.2.2, h⟩⟩
    | true =>
      rw [List.filter_cons_of_pos hc, quiet_cons_iff, quiet_cons_iff, ih (hq.nextQuote c)]

/-- Lines joined by newlines hold the quotes and separators of the lines, in order. -/
theorem filter_intercalate_newline (ms : List (List Char)) :
    (['\n'].intercalate ms).filter isMark = (ms.map (·.filter isMark)).flatten := by
  induction ms with
  | nil => rfl
  | cons m ms ih =>
    cases ms with
    | nil => simp
    | cons m' ms =>
      rw [List.intercalate_cons_cons, List.filter_append, List.filter_append, ih]
      simp [isMark]

/-! ### Comment lines -/

/-- A comment line as scripts may hold it: `--` and then no newline, no quote and no
separator. -/
def IsComment (line : List Char) : Prop :=
  ∃ rest, line = '-' :: '-' :: rest ∧ ∀ c ∈ rest, Plain c ∧ c ≠ '\n'

/-- `Commented ls ms`: the lines `ms` are the lines `ls` with whole comment lines put before,
between and after them. -/
inductive Commented : List (List Char) → List (List Char) → Prop
  | nil : Commented [] []
  | line {l : List Char} {ls ms : List (List Char)} : Commented ls ms → Commented (l :: ls) (l :: ms)
  | comment {c : List Char} {ls ms : List (List Char)} : IsComment c → Commented ls ms →
      Commented ls (c :: ms)

theorem IsComment.marks {c : List Char} (h : IsComment c) : c.filter isMark = [] := by
  obtain ⟨rest, rfl, hrest⟩ := h
  rw [List.filter_cons_of_neg (by decide), List.filter_cons_of_neg (by decide),
    List.filter_eq_nil_iff]
  exact fun d hd => by simpa using plain_iff_isMark.1 (hrest d hd).1

theorem IsComment.newline {c : List Char} (h : IsComment c) : '\n' ∉ c := by
  obtain ⟨rest, rfl, hrest⟩ := h
  simp only [List.mem_cons, not_or]
  exact ⟨by decide, by decide, fun hn => (hrest _ hn).2 rfl⟩

/-- Trimming the end of a text keeps a non-blank first character in front. -/
theorem rtrim_cons {c : Char} (hc : isBlank c = false) (cs : List Char) :
    ((c :: cs).reverse.dropWhile isBlank).reverse = c :: (cs.reverse.dropWhile isBlank).reverse := by
  have hc' : ¬isBlank c = true := by simp [hc]
  rw [List.reverse_cons, List.dropWhile_append]
  by_cases h : (cs.reverse.dropWhile isBlank).isEmpty
  · rw [if_pos h, List.isEmpty_iff.1 h, List.dropWhile_cons_of_neg hc']
    simp
  · rw [if_neg h]
    simp

theorem IsComment.isCommentLine {c : List Char} (h : IsComment c) : isCommentLine c = true := by
  obtain ⟨rest, rfl, -⟩ := h
  have hd : isBlank '-' = false := by decide
  rw [Query.isCommentLine, trimBlankList, List.dropWhile_cons_of_neg (by simp [hd]), rtrim_cons hd,
    rtrim_cons hd]
  rfl

theorem Commented.filter {ls ms : List (List Char)} (h : Commented ls ms)
    (hl : ∀ l ∈ ls, isCommentLine l = false) : ms.filter (fun l => !isCommentLine l) = ls := by
  induction h with
  | nil => rfl
  | line _ ih =>
    rw [List.filter_cons_of_pos (by simp [hl _ List.mem_cons_self]),
      ih fun l hm => hl l (List.mem_cons_of_mem _ hm)]
  | comment hc _ ih => rw [List.filter_cons_of_neg (by simp [hc.isCommentLine]), ih hl]

theorem Commented.marks {ls ms : List (List Char)} (h : Commented ls ms) :
    (ms.map (·.filter isMark)).flatten = (ls.map (·.filter isMark)).flatten := by
  induction h with
  | nil => rfl
  | line _ ih => simp [ih]
  | comment hc _ ih => simp [hc.marks, ih]

theorem Commented.mem {ls ms : List (List Char)} (h : Commented ls ms) :
    ∀ m ∈ ms, m ∈ ls ∨ IsComment m := by
  induction h with
  | nil => simp
  | line _ ih =>
    rintro m (_ | ⟨_, hm⟩)
    · exact .inl List.mem_cons_self
    · exact (ih m hm).imp_left (List.mem_cons_of_mem _)
  | comment hc _ ih =>
    rintro m (_ | ⟨_, hm⟩)
    · exact .inr hc
    · exact ih m hm

theorem Commented.ne_nil {ls ms : List (List Char)} (h : Commented ls ms) (hl : ls ≠ []) :
    ms ≠ [] := by
  cases h with
  | nil => exact hl
  | line => exact List.cons_ne_nil _ _
  | comment => exact List.cons_ne_nil _ _

/-- A line of a text is a piece of it with no newline. -/
theorem sublist_of_mem_splitOn {x : Char} : ∀ {xs l : List Char}, l ∈ xs.splitOn x →
    l.Sublist xs ∧ x ∉ l
  | [], l, hl => by simp_all
  | c :: cs, l, hl => by
    rw [List.splitOn_cons_eq_if_modifyHead] at hl
    split at hl
    · rcases List.mem_cons.1 hl with rfl | hl
      · simp
      · exact (sublist_of_mem_splitOn hl).imp (·.cons c) id
    · next hc =>
      obtain ⟨h, t, ht⟩ := List.exists_cons_of_ne_nil (List.splitOn_ne_nil x cs)
      rw [ht, List.modifyHead_cons] at hl
      rcases List.mem_cons.1 hl with rfl | hl
      · have hh : h ∈ cs.splitOn x := by rw [ht]; exact List.mem_cons_self
        have ⟨hs, hx⟩ := sublist_of_mem_splitOn hh
        refine ⟨hs.cons_cons c, ?_⟩
        rintro (_ | ⟨_, hm⟩)
        · simp at hc
        · exact hx hm
      · have hh : l ∈ cs.splitOn x := by rw [ht]; exact List.mem_cons_of_mem _ hl
        exact (sublist_of_mem_splitOn hh).imp (·.cons c) id

/-! ### Pieces of a script -/

/-- A piece of a script that holds the text `s`: the lines of `s` with whole comment lines put
between them. -/
def Holds (s piece : List Char) : Prop :=
  ∃ ms, Commented (s.splitOn '\n') ms ∧ piece = ['\n'].intercalate ms

theorem Commented.refl : ∀ ls : List (List Char), Commented ls ls
  | [] => .nil
  | _ :: ls => .line (Commented.refl ls)

/-- A text is a piece that holds itself, with no comment line put in. -/
theorem Holds.self (s : List Char) : Holds s s :=
  ⟨s.splitOn '\n', Commented.refl _, (List.intercalate_splitOn '\n').symm⟩

/-- The splitter reads a piece as it reads the text the piece holds. -/
theorem Holds.quiet {s piece : List Char} (h : Holds s piece) (hs : Quiet none s none) :
    Quiet none piece none := by
  obtain ⟨ms, hms, rfl⟩ := h
  have hnone : QuoteState none := by simp [QuoteState]
  rw [quiet_iff_filter hnone, filter_intercalate_newline, hms.marks,
    ← filter_intercalate_newline, List.intercalate_splitOn, ← quiet_iff_filter hnone]
  exact hs

/-- Dropping the comment lines of a piece gives back the text it holds, trimmed, when no line of
that text reads as a comment. -/
theorem Holds.stripComments {s piece : List Char} (h : Holds s piece)
    (hs : ∀ l ∈ s.splitOn '\n', isCommentLine l = false) :
    stripComments (String.ofList piece) = String.ofList (trimBlankList s) := by
  obtain ⟨ms, hms, rfl⟩ := h
  have hnl : ∀ m ∈ ms, '\n' ∉ m := fun m hm =>
    (hms.mem m hm).elim (fun hl => (sublist_of_mem_splitOn hl).2) IsComment.newline
  rw [Query.stripComments, String.toList_ofList,
    List.splitOn_intercalate '\n' hnl (hms.ne_nil (List.splitOn_ne_nil _ _)), hms.filter hs,
    List.intercalate_splitOn]

/-- No line of blanks reads as a comment. -/
theorem isCommentLine_blanks {l : List Char} (hl : ∀ c ∈ l, isBlank c = true) :
    isCommentLine l = false := by
  have : l.dropWhile isBlank = [] := List.dropWhile_eq_nil_iff.2 hl
  simp [isCommentLine, trimBlankList, this]


/-! ### Scripts -/

/-- A statement as a script may hold it: it is not blank, it lexes with no separator token, and
no line of it reads as a comment, inside a string or not. -/
structure ScriptStatement (s : String) : Prop where
  not_blank : trimBlank s ≠ ""
  lexes : ∃ toks, lex s = .ok toks ∧ ∀ tok ∈ toks, tok.kind ≠ .semicolon
  no_comment : ∀ line ∈ s.toList.splitOn '\n', isCommentLine line = false

/-- A script laid out as pieces to be joined by separators, each holding a statement or only
blanks, with comment lines put between its lines; the statements are listed in order. -/
inductive Script : List (List Char) → List String → Prop
  | nil : Script [] []
  | statement {s : String} {piece : List Char} {ps : List (List Char)} {ss : List String} :
      ScriptStatement s → Holds s.toList piece → Script ps ss → Script (piece :: ps) (s :: ss)
  | blank {b piece : List Char} {ps : List (List Char)} {ss : List String} :
      (∀ c ∈ b, isBlank c = true) → Holds b piece → Script ps ss → Script (piece :: ps) ss

instance (s : String) : Decidable (ScriptStatement s) :=
  match h : lex s with
  | .ok toks =>
    if hs : trimBlank s ≠ "" ∧ (∀ tok ∈ toks, tok.kind ≠ .semicolon) ∧
        ∀ line ∈ s.toList.splitOn '\n', isCommentLine line = false then
      isTrue ⟨hs.1, ⟨toks, h, hs.2.1⟩, hs.2.2⟩
    else
      isFalse fun hst => hs ⟨hst.not_blank, by
        obtain ⟨toks', h', hsemi⟩ := hst.lexes
        rw [h] at h'
        cases h'
        exact hsemi, hst.no_comment⟩
  | .error _ =>
    isFalse fun hst => by
      obtain ⟨toks', h', -⟩ := hst.lexes
      rw [h] at h'
      cases h'

theorem ScriptStatement.quiet {s : String} (h : ScriptStatement s) : Quiet none s.toList none := by
  obtain ⟨toks, hlex, hsemi⟩ := h.lexes
  exact lexFrom_quiet hlex hsemi

theorem Script.quiet {ps : List (List Char)} {ss : List String} (h : Script ps ss) :
    ∀ p ∈ ps, Quiet none p none := by
  induction h with
  | nil => simp
  | statement hs hp _ ih =>
    rintro p (_ | ⟨_, hm⟩)
    · exact hp.quiet hs.quiet
    · exact ih p hm
  | blank hb hp _ ih =>
    rintro p (_ | ⟨_, hm⟩)
    · exact hp.quiet (quiet_plain (by simp [QuoteState]) fun c hc => plain_of_isBlank (hb c hc))
    · exact ih p hm

/-- The pieces of a script, comment lines dropped, trimmed and blank ones left out, are its
statements trimmed. -/
theorem Script.statements {ps : List (List Char)} {ss : List String} (h : Script ps ss) :
    ((ps.map String.ofList).map stripComments).filter (· ≠ "") = ss.map trimBlank := by
  induction h with
  | nil => rfl
  | statement hs hp _ ih =>
    have hstrip : stripComments (String.ofList _) = trimBlank _ := hp.stripComments hs.no_comment
    rw [List.map_cons, List.map_cons, hstrip, List.filter_cons_of_pos (by simpa using hs.not_blank),
      ih, List.map_cons]
  | @blank b _ _ _ hb hp _ ih =>
    have hlines : ∀ l ∈ b.splitOn '\n', isCommentLine l = false := fun l hl =>
      isCommentLine_blanks fun c hc => hb c ((sublist_of_mem_splitOn hl).1.subset hc)
    have hempty : trimBlankList b = [] := by
      simp [trimBlankList, List.dropWhile_eq_nil_iff.2 hb]
    rw [List.map_cons, List.map_cons, hp.stripComments hlines, hempty,
      List.filter_cons_of_neg (by simp), ih]

/-- A script laid out from statements, blank pieces and comment lines is split into its
statements, trimmed, in order. -/
theorem splitStatements_script {ps : List (List Char)} {ss : List String} (h : Script ps ss) :
    splitStatements (String.ofList ([';'].intercalate ps)) = ss.map trimBlank := by
  rw [splitStatements, String.toList_ofList, ← h.statements]
  cases ps with
  | nil => rfl
  | cons p ps =>
    have hq := h.quiet
    rw [splitPieces_intercalate (fun p' hp' => hq p' (List.mem_cons_of_mem _ hp'))
      (hq p List.mem_cons_self) [], List.reverse_nil, List.nil_append, List.map_cons]
    rfl

/-- A comment line before the first statement, a separator inside a string, and a blank piece
between separators. -/
theorem splitStatements_commented_script :
    Script ["-- first query\nselect * from a".toList, "\nselect * from b where t = 'x;y'".toList,
        "\n\n".toList, "select * from c".toList]
      ["select * from a", "\nselect * from b where t = 'x;y'", "select * from c"] ∧
    splitStatements (String.ofList ([';'].intercalate ["-- first query\nselect * from a".toList,
        "\nselect * from b where t = 'x;y'".toList, "\n\n".toList, "select * from c".toList])) =
      ["select * from a", "\nselect * from b where t = 'x;y'", "select * from c"].map trimBlank := by
  have hfirst : Holds "select * from a".toList "-- first query\nselect * from a".toList := by
    refine ⟨["-- first query".toList, "select * from a".toList], ?_, by decide⟩
    rw [List.splitOn_eq_singleton (by decide)]
    exact .comment ⟨" first query".toList, rfl, by decide⟩ (.line .nil)
  have h : Script ["-- first query\nselect * from a".toList, "\nselect * from b where t = 'x;y'".toList,
      "\n\n".toList, "select * from c".toList]
      ["select * from a", "\nselect * from b where t = 'x;y'", "select * from c"] :=
    .statement (by decide +kernel) hfirst <|
      .statement (by decide +kernel) (Holds.self _) <|
      .blank (by decide) (Holds.self _) <|
      .statement (by decide +kernel) (Holds.self _) .nil
  exact ⟨h, splitStatements_script h⟩

/-- A quote in a comment line opens a string for the splitter, so the separator after it is
not seen; a line of a string that starts with `--` is dropped as a comment. -/
theorem splitStatements_quote_in_comment :
    splitStatements "select * from a\n-- it's\n;select * from b" =
        ["select * from a\n;select * from b"] ∧
      splitStatements "select * from t where a = 'x\n-- y'" = ["select * from t where a = 'x"] := by
  decide

end SqlSearch.Query
