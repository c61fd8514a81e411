import SqlSearch.Yaml.Node
/-! Reading the YAML that configuration files use: block mappings and sequences laid out by
indentation, flow mappings `{a: b}` and sequences `[a, b]`, plain, single-quoted and
double-quoted scalars, comments, and a plain scalar folded over more indented lines. A text
that is not of this form fails with a message `yaml: line N: …`. -/
namespace SqlSearch.Yaml

/-- A failure on a line. -/
def failAt {α : Type} (line : Nat) (problem : String) : Except String α :=
  .error ("yaml: line " ++ toString line ++ ": " ++ problem)

/-- The characters after leading spaces and tabs. -/
def skipBlanks (cs : List Char) : List Char := cs.dropWhile fun c => c = ' ' || c = '\t'

/-- The characters without trailing spaces and tabs. -/
def trimEnd (cs : List Char) : List Char :=
  (cs.reverse.dropWhile fun c => c = ' ' || c = '\t').reverse

/-- Whether nothing but a comment follows. -/
def isEnd (cs : List Char) : Bool :=
  match skipBlanks cs with
  | [] => true
  | '#' :: _ => true
  | _ => false

/-- A line of content: its number, its indentation in spaces and what follows it. -/
structure Line where
  number : Nat
  indent : Nat
  body : List Char
  deriving Repr, Inhabited

/-- The lines of a text split at line feeds, each without a final carriage return. -/
def splitLines (cs : List Char) : List (List Char) :=
  (cs.splitOn '\n').map fun l =>
    match l.reverse with
    | '\r' :: r => r.reverse
    | _ => l

/-- The lines with content, numbered from one; blank and comment lines and a leading document
marker are left out. -/
def contentLines (text : String) : Except String (List Line) :=
  let numbered := (splitLines text.toList).zipIdx 1
  numbered.foldr (fun (cs, n) acc => do
    let rest ← acc
    let body := cs.dropWhile (· = ' ')
    if isEnd body then return rest
    else if body.head? = some '\t' then failAt n "found character that cannot start any token"
    else if n = 1 ∧ (body = ['-', '-', '-'] ∨ body.take 4 = ['-', '-', '-', ' ']) then return rest
    else return ⟨n, cs.length - body.length, body⟩ :: rest) (.ok [])

/-- The value of a hexadecimal digit. -/
def hexValue? (c : Char) : Option Nat :=
  if c.isDigit then some (c.toNat - '0'.toNat)
  else if 'a' ≤ c ∧ c ≤ 'f' then some (c.toNat - 'a'.toNat + 10)
  else if 'A' ≤ c ∧ c ≤ 'F' then some (c.toNat - 'A'.toNat + 10)
  else none

/-- The value of hexadecimal digits. -/
def hexNumber? (ds : List Char) : Option Nat :=
  ds.foldlM (fun acc d => (acc * 16 + ·) <$> hexValue? d) 0

/-- The character a one-letter escape stands for. -/
def escapeChar? (e : Char) : Option Char :=
  match e with
  | '0' => some (Char.ofNat 0)
  | 'a' => some (Char.ofNat 7)
  | 'b' => some (Char.ofNat 8)
  | 't' => some '\t'
  | '\t' => some '\t'
  | 'n' => some '\n'
  | 'v' => some (Char.ofNat 11)
  | 'f' => some (Char.ofNat 12)
  | 'r' => some '\r'
  | 'e' => some (Char.ofNat 27)
  | ' ' => some ' '
  | '"' => some '"'
  | '/' => some '/'
  | '\\' => some '\\'
  | 'N' => some (Char.ofNat 0x85)
  | '_' => some (Char.ofNat 0xA0)
  | 'L' => some (Char.ofNat 0x2028)
  | 'P' => some (Char.ofNat 0x2029)
  | _ => none

/-- Reads a double-quoted scalar after its opening quote: its text and what follows the closing
quote. -/
def doubleQuoted (line : Nat) : Nat → List Char → List Char → Except String (String × List Char)
  | 0, _, _ => failAt line "found unexpected end of stream"
  | _ + 1, _, [] => failAt line "found unexpected end of stream"
  | _ + 1, acc, '"' :: rest => .ok (String.ofList acc.reverse, rest)
  | fuel + 1, acc, '\\' :: e :: rest =>
    let width := if e = 'x' then 2 else if e = 'u' then 4 else if e = 'U' then 8 else 0
    if width = 0 then
      match escapeChar? e with
      | some c => doubleQuoted line fuel (c :: acc) rest
      | none => failAt line "found unknown escape character while parsing a quoted scalar"
    else
      match hexNumber? (rest.take width) with
      | some n =>
        if (rest.take width).length = width then
          doubleQuoted line fuel (Char.ofNat n :: acc) (rest.drop width)
        else failAt line "did not find expected hexdecimal number"
      | none => failAt line "did not find expected hexdecimal number"
  | fuel + 1, acc, c :: rest => doubleQuoted line fuel (c :: acc) rest

/-- Reads a single-quoted scalar after its opening quote; a doubled quote stands for one. -/
def singleQuoted (line : Nat) : List Char → List Char → Except String (String × List Char)
  | _, [] => failAt line "found unexpected end of stream"
  | acc, '\'' :: '\'' :: rest => singleQuoted line ('\'' :: acc) rest
  | acc, '\'' :: rest => .ok (String.ofList acc.reverse, rest)
  | acc, c :: rest => singleQuoted line (c :: acc) rest

/-- Whether a colon followed by these characters ends a plain scalar. -/
def colonEnds (flow : Bool) : List Char → Bool
  | [] => true
  | c :: _ => c = ' ' || c = '\t' || (flow && (c = ',' || c = ']' || c = '}'))

/-- Splits off a plain scalar: in a flow collection it also ends at a comma or bracket. The
scalar also ends at a colon followed by a blank and at a blank followed by `#`. -/
def plainSpan (flow : Bool) : List Char → List Char × List Char
  | [] => ([], [])
  | c :: rest =>
    if c = ':' ∧ colonEnds flow rest then ([], c :: rest)
    else if flow ∧ (c = ',' ∨ c = '[' ∨ c = ']' ∨ c = '{' ∨ c = '}') then ([], c :: rest)
    else if (c = ' ' ∨ c = '\t') ∧ rest.head? = some '#' then ([], c :: rest)
    else
      let (s, r) := plainSpan flow rest
      (c :: s, r)

/-- A quoted scalar at the start of the characters and what follows it. -/
def quotedScalar (line : Nat) (cs : List Char) : Option (Except String (Node × List Char)) :=
  match cs with
  | '"' :: r => some ((fun (s, rest) => (Node.scalar line .quoted s, rest)) <$>
      doubleQuoted line (r.length + 1) [] r)
  | '\'' :: r => some ((fun (s, rest) => (Node.scalar line .quoted s, rest)) <$>
      singleQuoted line [] r)
  | _ => none

mutual

/-- Reads a value inside a flow collection. -/
def flowValue (line : Nat) : Nat → List Char → Except String (Node × List Char)
  | 0, _ => failAt line "exceeded max depth"
  | fuel + 1, cs =>
    let cs := skipBlanks cs
    match cs with
    | '{' :: r => flowMapping line fuel [] r
    | '[' :: r => flowSequence line fuel [] r
    | _ =>
      match quotedScalar line cs with
      | some r => r
      | none =>
        let (s, rest) := plainSpan true cs
        .ok (.scalar line .plain (String.ofList (trimEnd s)), rest)

/-- Reads the entries of a flow mapping after its opening brace. -/
def flowMapping (line : Nat) : Nat → List (Node × Node) → List Char →
    Except String (Node × List Char)
  | 0, _, _ => failAt line "exceeded max depth"
  | fuel + 1, acc, cs =>
    match skipBlanks cs with
    | '}' :: r => .ok (.mapping line acc.reverse, r)
    | [] => failAt line "did not find expected ',' or '\x7d'"
    | cs => do
      let (k, r) ← flowValue line fuel cs
      let (v, r) ← match skipBlanks r with
        | ':' :: r' => flowValue line fuel r'
        | r' => pure (.scalar line .plain "", r')
      match skipBlanks r with
      | ',' :: r' => flowMapping line fuel ((k, v) :: acc) r'
      | '}' :: r' => .ok (.mapping line ((k, v) :: acc).reverse, r')
      | _ => failAt line "did not find expected ',' or '\x7d'"

/-- Reads the items of a flow sequence after its opening bracket. -/
def flowSequence (line : Nat) : Nat → List Node → List Char → Except String (Node × List Char)
  | 0, _, _ => failAt line "exceeded max depth"
  | fuel + 1, acc, cs =>
    match skipBlanks cs with
    | ']' :: r => .ok (.sequence line acc.reverse, r)
    | [] => failAt line "did not find expected ',' or ']'"
    | cs => do
      let (v, r) ← flowValue line fuel cs
      match skipBlanks r with
      | ',' :: r' => flowSequence line fuel (v :: acc) r'
      | ']' :: r' => .ok (.sequence line (v :: acc).reverse, r')
      | _ => failAt line "did not find expected ',' or ']'"

end

/-- Reads the value that fills the rest of a line: a flow collection, a quoted scalar or a
plain scalar, followed by nothing but a comment. -/
def lineValue (line : Nat) (cs : List Char) : Except String Node := do
  let cs := skipBlanks cs
  let (v, rest) ← match cs with
    | '{' :: _ => flowValue line (2 * cs.length + 2) cs
    | '[' :: _ => flowValue line (2 * cs.length + 2) cs
    | _ =>
      match quotedScalar line cs with
      | some r => r
      | none =>
        let (s, rest) := plainSpan false cs
        if rest.head? = some ':' then failAt line "mapping values are not allowed in this context"
        else pure (.scalar line .plain (String.ofList (trimEnd s)), rest)
  if isEnd rest then pure v
  else failAt line "did not find expected key"

/-- The key of a mapping entry at the start of a line and what follows its colon. -/
def entryKey (line : Nat) (cs : List Char) : Option (Node × List Char) :=
  match quotedScalar line cs with
  | some (.ok (k, rest)) =>
    match skipBlanks rest with
    | ':' :: r => if colonEnds false r then some (k, r) else none
    | _ => none
  | some (.error _) => none
  | none =>
    match cs with
    | '{' :: _ => none
    | '[' :: _ => none
    | '#' :: _ => none
    | _ =>
      let (s, rest) := plainSpan false cs
      match rest with
      | ':' :: r => some (.scalar line .plain (String.ofList (trimEnd s)), r)
      | _ => none

/-- Whether a line is an item of a block sequence. -/
def isItem (body : List Char) : Bool :=
  match body with
  | ['-'] => true
  | '-' :: c :: _ => c = ' ' || c = '\t'
  | _ => false

/-- A plain scalar continued on more indented lines, joined by single spaces. -/
def foldPlain (n : Nat) : Node → List Line → Node × List Line
  | .scalar line .plain s, l :: ls =>
    if l.indent > n ∧ (entryKey l.number l.body).isNone ∧ !isItem l.body then
      let (s', _) := plainSpan false l.body
      foldPlain n (.scalar line .plain (s ++ " " ++ String.ofList (trimEnd s'))) ls
    else (.scalar line .plain s, l :: ls)
  | v, ls => (v, ls)

/-- The null scalar an empty value stands for. -/
def emptyValue (line : Nat) : Node := .scalar line .plain ""

mutual

/-- Reads the node that starts at the first line, and the lines after it. -/
def block : Nat → List Line → Except String (Node × List Line)
  | 0, l :: _ => failAt l.number "exceeded max depth"
  | _, [] => .ok (emptyValue 0, [])
  | fuel + 1, l :: ls =>
    if isItem l.body then do
      let (items, rest) ← sequenceItems fuel l.indent [] (l :: ls)
      return (.sequence l.number items, rest)
    else match entryKey l.number l.body with
      | some _ => do
        let (entries, rest) ← mappingEntries fuel l.indent [] (l :: ls)
        return (.mapping l.number entries, rest)
      | none => do
        let v ← lineValue l.number l.body
        return foldPlain l.indent v ls

/-- Reads the entries of a block mapping indented by `n`. -/
def mappingEntries : Nat → Nat → List (Node × Node) → List Line →
    Except String (List (Node × Node) × List Line)
  | 0, _, _, l :: _ => failAt l.number "exceeded max depth"
  | _, _, acc, [] => .ok (acc.reverse, [])
  | fuel + 1, n, acc, l :: ls =>
    if l.indent < n then .ok (acc.reverse, l :: ls)
    else if l.indent > n then failAt l.number "mapping values are not allowed in this context"
    else match entryKey l.number l.body with
      | none =>
        if isItem l.body then failAt l.number "did not find expected key"
        else failAt (l.number + 1) "could not find expected ':'"
      | some (k, rest) =>
        if isEnd rest then
          match ls with
          | m :: ms =>
            if m.indent > n ∨ (m.indent = n ∧ isItem m.body) then do
              let (v, after) ← block fuel (m :: ms)
              mappingEntries fuel n ((k, v) :: acc) after
            else mappingEntries fuel n ((k, emptyValue l.number) :: acc) ls
          | [] => .ok (((k, emptyValue l.number) :: acc).reverse, [])
        else do
          let v ← lineValue l.number rest
          let (v, after) := foldPlain n v ls
          mappingEntries fuel n ((k, v) :: acc) after

/-- Reads the items of a block sequence indented by `n`. -/
def sequenceItems : Nat → Nat → List Node → List Line → Except String (List Node × List Line)
  | 0, _, _, l :: _ => failAt l.number "exceeded max depth"
  | _, _, acc, [] => .ok (acc.reverse, [])
  | fuel + 1, n, acc, l :: ls =>
    if l.indent < n then .ok (acc.reverse, l :: ls)
    else if l.indent > n then failAt l.number "did not find expected '-' indicator"
    else if !isItem l.body then .ok (acc.reverse, l :: ls)
    else
      let after := l.body.drop 1
      let gap := after.takeWhile fun c => c = ' ' || c = '\t'
      let rest := after.drop gap.length
      if isEnd rest then
        match ls with
        | m :: ms =>
          if m.indent > n then do
            let (v, after) ← block fuel (m :: ms)
            sequenceItems fuel n (v :: acc) after
          else sequenceItems fuel n (emptyValue l.number :: acc) ls
        | [] => .ok ((emptyValue l.number :: acc).reverse, [])
      else do
        let (v, after) ← block fuel (⟨l.number, n + 1 + gap.length, rest⟩ :: ls)
        sequenceItems fuel n (v :: acc) after

end

/-- Reads a document: nothing when it holds no node. -/
def parseDocument (text : String) : Except String (Option Node) := do
  let ls ← contentLines text
  match ls with
  | [] => return none
  | l :: _ =>
    let (v, rest) ← block (4 * (text.length + 1)) ls
    match rest with
    | [] => return some v
    | m :: _ =>
      if m.indent < l.indent then failAt m.number "did not find expected node content"
      else failAt m.number "did not find expected <document start>"

end SqlSearch.Yaml
