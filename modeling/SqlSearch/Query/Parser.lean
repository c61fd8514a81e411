import SqlSearch.Query.Statement
import SqlSearch.Query.Token
import SqlSearch.Text.Normal
import SqlSearch.Text.Quoted
/-! Reading a statement:

    SELECT [FACETS f, …] [SCRIPT name = 'script'] fields FROM index
      [WHERE condition] [FILTER condition] [ORDER BY field [ASC|DESC], …]
      [LIMIT n, …] [;]

The text is trimmed of blanks and put in Normalization Form C first, and positions in errors
count characters of that text. Keywords are matched in any case. In conditions NOT binds
tighter than AND and AND tighter than OR; both junctions group to the left. A quoted string in
place of a condition is a raw condition; `field NOT LIKE/IN/BETWEEN …` negates the test. -/
namespace SqlSearch.Query

open SqlSearch.Text

/-- A statement that could not be read: the normalised text, the position and the message. -/
structure ParseError where
  text : String
  offset : Nat
  message : String
  deriving Repr, DecidableEq, Inhabited

namespace ParseError

/-- The message with its position. -/
def full (e : ParseError) : String :=
  e.message ++ " (at offset " ++ toString e.offset ++ ")"

/-- The text and a line with a caret under the position of the error. -/
def caret (e : ParseError) : List String :=
  [e.text, String.ofList (List.replicate e.offset ' ') ++ "^"]

end ParseError

/-- The token to read next; the end-of-input token is never consumed. -/
def peek : List Token → Token
  | t :: _ => t
  | [] => ⟨.eof, "", 0⟩

/-- The tokens after the next one. -/
def advance : List Token → List Token
  | t :: ts => if t.kind = .eof then t :: ts else ts
  | [] => []

/-- A failure at a token. -/
def failAt {α : Type} (t : Token) (message : String) : Except SyntaxError α :=
  .error ⟨t.pos, message⟩

/-- The message for a token that is not what the grammar wants there. -/
def expected (what : String) (t : Token) : String :=
  "expected " ++ what ++ ", found " ++ t.describe

/-- Consumes the keyword `kw`. -/
def expectKeyword (kw : String) (toks : List Token) : Except SyntaxError (List Token) :=
  let t := peek toks
  if t.isKeyword kw then .ok (advance toks) else failAt t (expected kw.toUpper t)

/-- Consumes a token of the given kind. -/
def expectKind (k : TokenKind) (what : String) (toks : List Token) :
    Except SyntaxError (Token × List Token) :=
  let t := peek toks
  if t.kind = k then .ok (t, advance toks) else failAt t (expected what t)

/-- Whether a token can name an index or a field. -/
def Token.isName (t : Token) : Bool := t.kind = .ident && !isReserved t.text

/-- Consumes a name. -/
def readName (what : String) (toks : List Token) : Except SyntaxError (String × List Token) :=
  let t := peek toks
  if t.isName then .ok (t.text, advance toks) else failAt t (expected what t)

/-- Reads names separated by commas. -/
def readNames (what : String) : List Token → Except SyntaxError (List String × List Token)
  | [] => failAt (peek []) (expected what (peek []))
  | t :: ts =>
    if t.isName then
      match ts with
      | u :: us =>
        if u.kind = .comma then (fun (ns, r) => (t.text :: ns, r)) <$> readNames what us
        else .ok ([t.text], u :: us)
      | [] => .ok ([t.text], [])
    else failAt t (expected what t)

/-- The value a token stands for, if it can stand for one. -/
def Token.value? (t : Token) : Option Value :=
  match t.kind with
  | .str => some ⟨t.text, true⟩
  | .number | .ident => some ⟨t.text, false⟩
  | .star => some ⟨"*", false⟩
  | _ => none

/-- Consumes a value. -/
def readValue (toks : List Token) : Except SyntaxError (Value × List Token) :=
  let t := peek toks
  match t.value? with
  | some v => .ok (v, advance toks)
  | none => failAt t (expected "value" t)

/-- Reads values separated by commas. -/
def readValues : List Token → Except SyntaxError (List Value × List Token)
  | [] => failAt (peek []) (expected "value" (peek []))
  | t :: ts =>
    match t.value? with
    | some v =>
      match ts with
      | u :: us =>
        if u.kind = .comma then (fun (vs, r) => (v :: vs, r)) <$> readValues us
        else .ok ([v], u :: us)
      | [] => .ok ([v], [])
    | none => failAt t (expected "value" t)

/-- The test after a field name; `negated` when NOT stood between them. -/
def readTest (field : String) (negated : Bool) (toks : List Token) :
    Except SyntaxError (Condition × List Token) := do
  let t := peek toks
  match t.kind, CompareOp.ofSymbol? t.text with
  | .op, some op =>
    if !negated then
      let (v, r) ← readValue (advance toks)
      return (.compare field op v, r)
    else failAt t (expected "LIKE, IN or BETWEEN after NOT" t)
  | _, _ =>
    if t.isKeyword "like" then
      let (v, r) ← readValue (advance toks)
      return (.like field v.text, r)
    else if t.isKeyword "in" then
      let (_, r) ← expectKind .lparen "(" (advance toks)
      let (vs, r) ← readValues r
      let (_, r) ← expectKind .rparen ")" r
      return (.isIn field vs, r)
    else if t.isKeyword "between" then
      let (lo, r) ← readValue (advance toks)
      let r ← expectKeyword "and" r
      let (hi, r) ← readValue r
      return (.between field lo hi, r)
    else if negated then failAt t (expected "LIKE, IN or BETWEEN after NOT" t)
    else failAt t (expected ("comparison after " ++ quote field) t)

/-- A test on a field, possibly negated by a NOT after the field name. -/
def readPredicate (field : String) (toks : List Token) :
    Except SyntaxError (Condition × List Token) :=
  if (peek toks).isKeyword "not" then
    (fun (c, r) => (.not c, r)) <$> readTest field true (advance toks)
  else readTest field false toks

mutual

/-- A disjunction of conjunctions. -/
def readOr : Nat → List Token → Except SyntaxError (Condition × List Token)
  | 0, toks => failAt (peek toks) "condition nested too deeply"
  | fuel + 1, toks => do
    let (l, r) ← readAnd fuel toks
    readOrRest fuel l r

/-- Further `OR` operands after `left`. -/
def readOrRest : Nat → Condition → List Token → Except SyntaxError (Condition × List Token)
  | 0, _, toks => failAt (peek toks) "condition nested too deeply"
  | fuel + 1, left, toks =>
    if (peek toks).isKeyword "or" then do
      let (right, r) ← readAnd fuel (advance toks)
      readOrRest fuel (.junction .or left right) r
    else .ok (left, toks)

/-- A conjunction of negations. -/
def readAnd : Nat → List Token → Except SyntaxError (Condition × List Token)
  | 0, toks => failAt (peek toks) "condition nested too deeply"
  | fuel + 1, toks => do
    let (l, r) ← readNot fuel toks
    readAndRest fuel l r

/-- Further `AND` operands after `left`. -/
def readAndRest : Nat → Condition → List Token → Except SyntaxError (Condition × List Token)
  | 0, _, toks => failAt (peek toks) "condition nested too deeply"
  | fuel + 1, left, toks =>
    if (peek toks).isKeyword "and" then do
      let (right, r) ← readNot fuel (advance toks)
      readAndRest fuel (.junction .and left right) r
    else .ok (left, toks)

/-- Any number of NOTs before a primary condition. -/
def readNot : Nat → List Token → Except SyntaxError (Condition × List Token)
  | 0, toks => failAt (peek toks) "condition nested too deeply"
  | fuel + 1, toks =>
    if (peek toks).isKeyword "not" then
      (fun (c, r) => (.not c, r)) <$> readNot fuel (advance toks)
    else readPrimary fuel toks

/-- A parenthesised condition, a raw condition, or a test on a field. -/
def readPrimary : Nat → List Token → Except SyntaxError (Condition × List Token)
  | 0, toks => failAt (peek toks) "condition nested too deeply"
  | fuel + 1, toks =>
    let t := peek toks
    match t.kind with
    | .lparen => do
      let (c, r) ← readOr fuel (advance toks)
      let (_, r) ← expectKind .rparen ")" r
      return (.group c, r)
    | .str => .ok (.raw t.text, advance toks)
    | _ => do
      let (field, r) ← readName "field name or condition" toks
      readPredicate field r

end

/-- Reads a condition; the fuel is more than any nesting the tokens can hold. -/
def readCondition (toks : List Token) : Except SyntaxError (Condition × List Token) :=
  readOr (8 * (toks.length + 1)) toks

/-- Whether a token gives a sort direction. -/
def Token.isDirection (t : Token) : Bool := t.isKeyword "asc" || t.isKeyword "desc"

/-- Reads ORDER BY entries separated by commas; the direction is `asc` unless given. -/
def readSortKeys : List Token → Except SyntaxError (List SortKey × List Token)
  | [] => failAt (peek []) (expected "sort field" (peek []))
  | t :: ts =>
    if t.isName then
      match ts with
      | d :: rest@(u :: us) =>
        if d.isDirection then
          if u.kind = .comma then (fun (ks, r) => (⟨t.text, lower d.text⟩ :: ks, r)) <$> readSortKeys us
          else .ok ([⟨t.text, lower d.text⟩], rest)
        else if d.kind = .comma then (fun (ks, r) => (⟨t.text, "asc"⟩ :: ks, r)) <$> readSortKeys rest
        else .ok ([⟨t.text, "asc"⟩], d :: rest)
      | [d] =>
        if d.isDirection then .ok ([⟨t.text, lower d.text⟩], [])
        else if d.kind = .comma then (fun (ks, r) => (⟨t.text, "asc"⟩ :: ks, r)) <$> readSortKeys []
        else .ok ([⟨t.text, "asc"⟩], [d])
      | [] => .ok ([⟨t.text, "asc"⟩], [])
    else failAt t (expected "sort field" t)

/-- The value of a LIMIT number: a machine integer, not negative. -/
def limitValue? (s : String) : Option Int :=
  let (neg, digits) := match s.toList with
    | '-' :: ds => (true, ds)
    | '+' :: ds => (false, ds)
    | ds => (false, ds)
  if digits.isEmpty || !digits.all Char.isDigit then none
  else
    let n := digits.foldl (fun n d => 10 * n + (d.toNat - '0'.toNat)) 0
    let v : Int := if neg then -n else n
    if v < -(Nat.pow 2 63) || v ≥ Nat.pow 2 63 || v < 0 then none else some v

/-- Reads LIMIT numbers separated by commas. -/
def readLimits : List Token → Except SyntaxError (List Int × List Token)
  | [] => failAt (peek []) (expected "number" (peek []))
  | t :: ts =>
    if t.kind = .number then
      match limitValue? t.text with
      | some n =>
        match ts with
        | u :: us =>
          if u.kind = .comma then (fun (ns, r) => (n :: ns, r)) <$> readLimits us
          else .ok ([n], u :: us)
        | [] => .ok ([n], [])
      | none => failAt t ("invalid limit " ++ t.describe)
    else failAt t (expected "number" t)

/-- The field list: a star, `count(*)`, or names. -/
def readFields (toks : List Token) : Except SyntaxError (List String × List Token) :=
  match toks with
  | t :: u :: r =>
    if t.kind = .star then .ok ([allFields], u :: r)
    else if t.isKeyword "count" && u.kind = .lparen then do
      let (_, r) ← expectKind .star "*" r
      let (_, r) ← expectKind .rparen ")" r
      return ([countField], r)
    else readNames "field name" toks
  | _ =>
    if (peek toks).kind = .star then .ok ([allFields], advance toks)
    else readNames "field name" toks

/-- The FACETS and SCRIPT clauses read so far. -/
structure Preamble where
  facets : Option (List String) := none
  script : Option ScriptField := none

/-- Reads one FACETS or SCRIPT clause if one comes next; each may come once. -/
def readPreambleClause (p : Preamble) (toks : List Token) :
    Except SyntaxError (Preamble × List Token) := do
  let t := peek toks
  if t.isKeyword "facets" then
    if p.facets.isSome then failAt t "duplicate FACETS clause"
    else
      let (fs, r) ← readNames "facet field" (advance toks)
      return ({ p with facets := some fs }, r)
  else if t.isKeyword "script" then
    if p.script.isSome then failAt t "duplicate SCRIPT clause"
    else
      let (name, r) ← readName "script field name" (advance toks)
      let e := peek r
      if e.kind = .op ∧ e.text = "=" then
        let (body, r) ← expectKind .str "quoted script" (advance r)
        return ({ p with script := some ⟨name, body.text⟩ }, r)
      else failAt e ("expected = after script field name, found " ++ e.describe)
  else return (p, toks)

/-- Reads a whole statement from its tokens. -/
def readStatement (toks : List Token) : Except SyntaxError Statement := do
  let r ← expectKeyword "select" toks
  -- each clause may come once, so a third one is always a duplicate
  let (p, r) ← readPreambleClause {} r
  let (p, r) ← readPreambleClause p r
  let (p, r) ← readPreambleClause p r
  let (fields, r) ← readFields r
  let r ← expectKeyword "from" r
  let (index, r) ← readName "index name" r
  let (query, r) ← if (peek r).isKeyword "where" then
      (fun (c, r) => (some c, r)) <$> readCondition (advance r)
    else pure (none, r)
  let (filter, r) ← if (peek r).isKeyword "filter" then
      (fun (c, r) => (some c, r)) <$> readCondition (advance r)
    else pure (none, r)
  let (order, r) ← if (peek r).isKeyword "order" then do
      let r ← expectKeyword "by" (advance r)
      readSortKeys r
    else pure ([], r)
  let (limit, r) ← if (peek r).isKeyword "limit" then readLimits (advance r) else pure ([], r)
  let r := if (peek r).kind = .semicolon then advance r else r
  let t := peek r
  if t.kind ≠ .eof then failAt t ("unexpected " ++ t.describe)
  else return {
    index, query, filter, facets := p.facets.getD [], script := p.script, fields, order, limit }

/-- Reads a statement: the text is trimmed and normalised, then lexed and parsed. -/
def parse (text : String) : Except ParseError Statement :=
  let norm := nfc (trimBlank text)
  match lex norm >>= readStatement with
  | .ok q => .ok q
  | .error e => .error ⟨norm, e.offset, e.message⟩

end SqlSearch.Query
