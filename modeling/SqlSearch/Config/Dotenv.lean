import SqlSearch.Text.Blank
import SqlSearch.Text.Letter
import SqlSearch.Text.Quoted
import SqlSearch.Text.Utf8
/-! Environment files: lines `KEY=value` (or `KEY: value`), optionally after `export`, with
`#` comment lines. A value is read to the end of its line, a ` #` comment cut off and blanks
trimmed; or it is quoted with `'` or `"`, ending at the first quote not after a backslash. In
double quotes `\n` and `\r` stand for line breaks and a backslash before any other character
but `$` is dropped. Unquoted and double-quoted values replace `$NAME` and `${NAME}` by the value
given to `NAME` earlier in the file (or nothing); `\$` keeps the dollar sign. A key is made of
letters, numbers, `_` and `.`; any other character in it is an error. Key characters are
checked byte by byte, each byte read as a Latin-1 character. -/
namespace SqlSearch.Config

open SqlSearch.Text

/-- Blanks inside a line: tab, vertical tab, form feed, carriage return, space, U+0085, U+00A0. -/
def isLineBlank (c : Char) : Bool :=
  c = '\t' || c.toNat = 11 || c.toNat = 12 || c = '\r' || c = ' ' || c.toNat = 0x85 ||
    c.toNat = 0xA0

/-- Whether a byte, read as a Latin-1 character, may stand in a key. -/
def keyByteAllowed (b : UInt8) : Bool :=
  let n := b.toNat
  n = 95 || n = 46 || (48 ≤ n && n ≤ 57) || n = 0xB2 || n = 0xB3 || n = 0xB9 ||
    (0xBC ≤ n && n ≤ 0xBE) || isLetter (Char.ofNat n)

/-- Whether a byte is a blank inside a line. -/
def isLineBlankByte (b : UInt8) : Bool := isLineBlank (Char.ofNat b.toNat)

/-- Skips blank text and comment lines to the start of the next statement. -/
def statementStart (fuel : Nat) (cs : List Char) : Option (List Char) :=
  match fuel with
  | 0 => none
  | fuel + 1 =>
    match cs.dropWhile isBlank with
    | [] => none
    | '#' :: rest =>
      match rest.dropWhile (· ≠ '\n') with
      | [] => none
      | nl => statementStart fuel nl
    | src => some src

/-- The key of a statement and the text after its `=` or `:`. -/
def locateKey (src : List Char) : Except String (String × List Char) :=
  let src := src.dropWhile isLineBlank
  let src := match src.drop 6 with
    | c :: _ => if String.ofList (src.take 6) = "export" ∧ isLineBlank c then
        (src.drop 6).dropWhile isLineBlank else src
    | [] => src
  let near := quote (String.ofList src)
  let rec scan (before : List Char) : List Char → Except String (Option (List Char × List Char))
    | [] => .ok none
    | c :: rest =>
      if c = '=' ∨ c = ':' then .ok (some (before.reverse, rest))
      else
        match (utf8Bytes c.toString).find? fun b => !(isLineBlankByte b || keyByteAllowed b) with
        | some b =>
          .error ("unexpected character " ++ quote (Char.ofNat b.toNat).toString ++
            " in variable name near " ++ near)
        | none => scan (c :: before) rest
  if src.isEmpty then .error "zero length string"
  else match scan [] src with
    | .error e => .error e
    | .ok (some (key, rest)) =>
      .ok (String.ofList (key.reverse.dropWhile isBlank).reverse, rest.dropWhile isLineBlank)
    | .ok none => .ok ("", src.dropWhile isLineBlank)

/-- Replaces `$NAME`, `${NAME}` and `\$NAME` in a value. -/
def expandVariables (vars : List (String × String)) (v : List Char) : List Char :=
  let isNameChar (c : Char) : Bool := ('A' ≤ c && c ≤ 'Z') || c.isDigit || c = '_'
  let lookup (name : String) : String :=
    (vars.foldl (fun acc (k, x) => if k = name then some x else acc) none).getD ""
  -- the part of a reference after `$`: `(`, `{`, the name and `}`, each optional
  let refTail (cs : List Char) : List Char × String × List Char :=
    let (p1, cs) := match cs with
      | '(' :: r => (['('], r)
      | r => ([], r)
    let (p2, cs) := match cs with
      | '\x7b' :: r => (['\x7b'], r)
      | r => ([], r)
    let name := cs.takeWhile isNameChar
    let cs := cs.drop name.length
    let (p3, cs) := match cs with
      | '\x7d' :: r => (['\x7d'], r)
      | r => ([], r)
    (p1 ++ p2 ++ name ++ p3, String.ofList name, cs)
  -- each step reads at least one character, so the length bounds the steps
  let rec go : Nat → List Char → List Char
    | 0, cs => cs
    | _, [] => []
    | fuel + 1, '\\' :: '$' :: rest =>
      let (tail, _, rest') := refTail rest
      '$' :: tail ++ go fuel rest'
    | fuel + 1, '$' :: rest =>
      let (tail, name, rest') := refTail rest
      (if name.isEmpty then '$' :: tail else (lookup name).toList) ++ go fuel rest'
    | fuel + 1, c :: rest => c :: go fuel rest
  go (v.length + 1) v

/-- Reads the escapes of a double-quoted value: `\n` and `\r` are line breaks, and a backslash
before any character but `$` is dropped. -/
def expandEscapes (v : List Char) : List Char :=
  let rec breaks : List Char → List Char
    | '\\' :: 'n' :: rest => '\n' :: breaks rest
    | '\\' :: 'r' :: rest => '\r' :: breaks rest
    | '\\' :: c :: rest => if c = '\n' then '\\' :: breaks (c :: rest) else '\\' :: c :: breaks rest
    | c :: rest => c :: breaks rest
    | [] => []
  let rec unescape : List Char → List Char
    | '\\' :: c :: rest => if c = '$' then '\\' :: unescape (c :: rest) else c :: unescape rest
    | c :: rest => c :: unescape rest
    | [] => []
  unescape (breaks v)

/-- The value of a statement and the text after it; `vars` are the values read before. -/
def extractValue (vars : List (String × String)) (src : List Char) :
    Except String (String × List Char) :=
  match src with
  | q :: rest =>
    if q = '"' ∨ q = '\'' then
      -- the first quote not after a backslash closes the value
      let rec close (prev : Char) (acc : List Char) : List Char → Option (List Char × List Char)
        | [] => none
        | c :: cs =>
          if c = q ∧ prev ≠ '\\' then some (acc.reverse, cs) else close c (c :: acc) cs
      match close q [] rest with
      | some (inside, after) =>
        let trimmed := ((q :: inside).dropWhile (· = q)).reverse.dropWhile (· = q) |>.reverse
        let value := if q = '"' then expandVariables vars (expandEscapes trimmed) else trimmed
        .ok (String.ofList value, after)
      | none =>
        .error ("unterminated quoted value " ++ String.ofList (src.takeWhile (· ≠ '\n')))
    else unquoted
  | [] => unquoted
where
  unquoted : Except String (String × List Char) :=
    let line := src.takeWhile fun c => c ≠ '\n' ∧ c ≠ '\r'
    let after := src.drop line.length
    -- a comment starts at the last `#` that follows a blank
    let cutAt := (List.range line.length).reverse.find? fun i =>
      i > 0 ∧ line.getD i ' ' = '#' ∧ isLineBlank (line.getD (i - 1) ' ')
    let body := match cutAt with
      | some i => line.take i
      | none => line
    let trimmed := ((body.dropWhile isLineBlank).reverse.dropWhile isLineBlank).reverse
    .ok (String.ofList (expandVariables vars trimmed), after)

/-- Reads an environment file into its assignments, in order; a later one of a key replaces an
earlier one. -/
def parseDotenv (text : String) : Except String (List (String × String)) :=
  let cs := (text.replace "\r\n" "\n").toList
  let rec go (fuel : Nat) (vars : List (String × String)) (cs : List Char) :
      Except String (List (String × String)) :=
    match fuel with
    | 0 => .ok vars
    | fuel + 1 =>
      match statementStart (cs.length + 1) cs with
      | none => .ok vars
      | some src => do
        let (key, rest) ← locateKey src
        let (value, rest) ← extractValue vars rest
        let vars := (vars.filter (·.1 ≠ key)) ++ [(key, value)]
        if rest.length < cs.length then go fuel vars rest else .ok vars
  go (cs.length + 1) [] cs

end SqlSearch.Config
