import SqlSearch.Text.Letter
import SqlSearch.Text.Digit
import SqlSearch.Text.Blank
import SqlSearch.Text.Lower
/-! Tokens of the statement language and the lexer that produces them. Blanks separate tokens.
Identifiers are runs of letters, digits and `_.@-*?`. A token that starts with a digit, or with
`-` and a digit, is a number (digits and dots) unless identifier characters follow, in which
case the whole run is an identifier (`2024-01-01`). A star is a token of its own when no
identifier characters follow it or when they spell a reserved word (`*from`). Strings are
quoted with `'` or `"`, a doubled quote standing for itself. Positions count characters. -/
namespace SqlSearch.Query

open SqlSearch.Text

/-- The kinds of token. -/
inductive TokenKind where
  | eof | ident | number | str | star | comma | lparen | rparen | op | semicolon
  deriving Repr, DecidableEq, Inhabited

/-- A token, its text and the position of its first character. -/
structure Token where
  kind : TokenKind
  text : String
  pos : Nat
  deriving Repr, DecidableEq, Inhabited

/-- A failure to read a statement: the message and the character position it points at. -/
structure SyntaxError where
  offset : Nat
  message : String
  deriving Repr, DecidableEq, Inhabited

/-- The words that cannot name an index or a field. -/
def reservedWords : List String :=
  ["select", "facets", "script", "from", "where", "filter", "order", "by", "limit", "and", "or",
    "not", "in", "between", "like", "asc", "desc"]

/-- Whether a word, lower-cased, is reserved. -/
def isReserved (w : String) : Bool := reservedWords.contains (lower w)

/-- Whether `a` and `b` are the same letters up to case, where `b` is ASCII; the long s and the
Kelvin sign count as `s` and `k`. -/
def sameWordAscii (a b : String) : Bool :=
  a.length == b.length && (a.toList.zip b.toList).all fun (x, y) =>
    x.toLower == y.toLower || (x = 'ſ' && y.toLower = 's') || (x = 'K' && y.toLower = 'k')

namespace Token

/-- Whether the token is the keyword `kw` in any case. -/
def isKeyword (t : Token) (kw : String) : Bool := t.kind = .ident && sameWordAscii t.text kw

/-- How an error message names the token. -/
def describe (t : Token) : String :=
  match t.kind with
  | .eof => "end of input"
  | .str => "string '" ++ t.text ++ "'"
  | _ => "\"" ++ t.text ++ "\""

end Token

/-- Characters of identifiers. -/
def isIdentChar (c : Char) : Bool :=
  isLetter c || isDigit c || c = '_' || c = '.' || c = '@' || c = '-' || c = '*' || c = '?'

/-- Reads a quoted string after its opening quote `q`: its text and what follows the closing
quote, or nothing when the quote is not closed. -/
def readQuoted (q : Char) : List Char → Option (List Char × List Char)
  | [] => none
  | c :: cs =>
    if c = q then
      match cs with
      | d :: ds => if d = q then (readQuoted q ds).map fun (t, r) => (q :: t, r) else some ([], cs)
      | [] => some ([], [])
    else (readQuoted q cs).map fun (t, r) => (c :: t, r)

theorem readQuoted_length {q : Char} {cs t r : List Char} (h : readQuoted q cs = some (t, r)) :
    r.length < cs.length := by
  fun_induction readQuoted q cs generalizing t r with
  | case1 => simp at h
  | case2 ds ih =>
    obtain ⟨⟨t', r'⟩, h', he⟩ := Option.map_eq_some_iff.1 h
    cases he
    have := ih h'
    simp only [List.length_cons]; omega
  | case3 d ds _ => cases h; simp
  | case4 => cases h; simp
  | case5 c cs _ ih =>
    obtain ⟨⟨t', r'⟩, h', he⟩ := Option.map_eq_some_iff.1 h
    cases he
    have := ih h'
    simp only [List.length_cons]; omega

theorem dropWhile_length_le {α : Type} (p : α → Bool) (l : List α) :
    (l.dropWhile p).length ≤ l.length :=
  (List.dropWhile_sublist p).length_le

/-- The two-character operators, tried before the one-character ones. -/
def operators : List (List Char) :=
  [['<', '='], ['>', '='], ['!', '='], ['<', '>'], ['='], ['<'], ['>']]

/-- The operator at the start of `cs`, if one is there. -/
def readOperator (cs : List Char) : Option (List Char) :=
  operators.find? fun op => op.isPrefixOf cs

theorem readOperator_ne_nil {cs op : List Char} (h : readOperator cs = some op) : op ≠ [] := by
  intro h0
  subst h0
  have := List.mem_of_find?_eq_some h
  simp [operators] at this

theorem readOperator_drop_lt {c : Char} {rest op : List Char}
    (h : readOperator (c :: rest) = some op) :
    ((c :: rest).drop op.length).length < (c :: rest).length := by
  have : 0 < op.length := List.length_pos_iff.mpr (readOperator_ne_nil h)
  simp only [List.length_drop, List.length_cons]
  omega

theorem dropWhile_length_lt_of_eq_cons {p : Char → Bool} (q : Char → Bool) {c d : Char}
    {rest more : List Char} (h : rest.dropWhile p = d :: more) :
    ((d :: more).dropWhile q).length < (c :: rest).length := by
  have h1 := dropWhile_length_le q (d :: more)
  have h2 := dropWhile_length_le p rest
  rw [h] at h2
  simp only [List.length_cons] at h1 h2 ⊢
  omega

theorem length_lt_of_dropWhile_eq_cons {p : Char → Bool} {c d : Char} {rest more : List Char}
    (h : rest.dropWhile p = d :: more) : (d :: more).length < (c :: rest).length := by
  have h2 := dropWhile_length_le p rest
  rw [h] at h2
  simp only [List.length_cons] at h2 ⊢
  omega

/-- Whether a star followed by `cs` stands alone: nothing of an identifier follows it, or
what follows spells a reserved word. -/
def starStandsAlone (cs : List Char) : Bool :=
  let run := cs.takeWhile isIdentChar
  run.isEmpty || isReserved (String.ofList run)

/-- Reads the tokens of `cs`, which ends a text of `n` characters, so that a token starting at
`cs` has position `n - cs.length`. -/
def lexFrom (n : Nat) (cs : List Char) : Except SyntaxError (List Token) :=
  match cs with
  | [] => .ok [⟨.eof, "", n⟩]
  | c :: rest =>
    let pos := n - (c :: rest).length
    let emit (kind : TokenKind) (text : List Char) (after : List Char)
        (_ : after.length < (c :: rest).length) : Except SyntaxError (List Token) :=
      (⟨kind, String.ofList text, pos⟩ :: ·) <$> lexFrom n after
    if isBlank c then lexFrom n rest
    else if c = '\'' ∨ c = '"' then
      match h : readQuoted c rest with
      | some (t, after) => emit .str t after (Nat.lt_succ_of_lt (readQuoted_length h))
      | none => .error ⟨pos, "unterminated string"⟩
    else if c = ',' then emit .comma [c] rest (Nat.lt_succ_self _)
    else if c = '(' then emit .lparen [c] rest (Nat.lt_succ_self _)
    else if c = ')' then emit .rparen [c] rest (Nat.lt_succ_self _)
    else if c = ';' then emit .semicolon [c] rest (Nat.lt_succ_self _)
    else if c = '=' ∨ c = '<' ∨ c = '>' ∨ c = '!' then
      match h : readOperator (c :: rest) with
      | some op =>
        emit .op op ((c :: rest).drop op.length) (readOperator_drop_lt h)
      | none => .error ⟨pos, "unexpected character '" ++ c.toString ++ "'"⟩
    else if c = '*' ∧ starStandsAlone rest then emit .star [c] rest (Nat.lt_succ_self _)
    else if isDigit c ∨ (c = '-' ∧ (rest.head?.map isDigit).getD false) then
      let isNum := fun d => isDigit d || d = '.'
      match h : rest.dropWhile isNum with
      | d :: more =>
        if isIdentChar d then
          emit .ident (c :: rest.takeWhile isNum ++ (d :: more).takeWhile isIdentChar)
            ((d :: more).dropWhile isIdentChar) (dropWhile_length_lt_of_eq_cons isIdentChar h)
        else emit .number (c :: rest.takeWhile isNum) (d :: more) (length_lt_of_dropWhile_eq_cons h)
      | [] => emit .number (c :: rest.takeWhile isNum) [] (Nat.succ_pos _)
    else if isIdentChar c then
      emit .ident (c :: rest.takeWhile isIdentChar) (rest.dropWhile isIdentChar)
        (Nat.lt_succ_of_le (dropWhile_length_le isIdentChar rest))
    else .error ⟨pos, "unexpected character '" ++ c.toString ++ "'"⟩
termination_by cs.length
decreasing_by all_goals (try simp only [List.length_cons] at *) <;> omega

/-- The tokens of a text, ending with the end-of-input token. -/
def lex (s : String) : Except SyntaxError (List Token) :=
  lexFrom s.length s.toList

end SqlSearch.Query
