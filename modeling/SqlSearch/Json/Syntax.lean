import SqlSearch.Json.Reader
import SqlSearch.Text.Quoted
/-! Why a text is not one JSON value. A scanner reads the text one character at a time, with
the open containers on a stack, and stops at the first character that cannot continue the
value; the message names that character (the first byte of a character outside ASCII, read
as a Latin-1 letter) and what was expected instead. At the end of the text one blank is read
as well, so that a number or literal cut short is reported by the blank that would end it; a
value still open after that is `unexpected end of JSON input`. -/
namespace SqlSearch.Json

/-- An open container and where in it the scanner is. -/
inductive Open where
  | objectKey
  | objectValue
  | arrayValue
  deriving Repr, DecidableEq

/-- What the scanner expects next. -/
inductive Mode where
  | beginValue
  | beginValueOrEmpty
  | beginStringOrEmpty
  | beginString
  | endValue
  | endTop
  | inString
  | inStringEsc
  /-- Inside a `\u` escape, with this many hex digits still to come. -/
  | inStringEscU (left : Nat)
  | neg
  | one
  | zero
  | dot
  | dot0
  | exp
  | expSign
  | exp0
  /-- Inside the literal `word`, with the characters `rest` still to come. -/
  | literal (word : String) (rest : List Char)
  deriving Repr, DecidableEq

/-- A scanner state: the mode and the open containers, innermost first. -/
abbrev ScanState := Mode × List Open

/-- Containers nested deeper than this are refused. -/
def maxDepth : Nat := 10000

/-- The character as a message shows it, in single quotes. -/
def shownChar (c : Char) : String :=
  let c := if c.toNat < 128 then c else Char.ofNat (String.utf8EncodeChar c).head!.toNat
  if c = '\'' then "'\\''"
  else if c = '"' then "'\"'"
  else "'" ++ String.ofList (Text.quoteChar c) ++ "'"

/-- The failure at character `c`, with what was expected. -/
def invalid (c : Char) (context : String) : Except String ScanState :=
  .error ("invalid character " ++ shownChar c ++ " " ++ context)

/-- Opens a container unless the nesting is too deep. -/
def pushOpen (c : Char) (o : Open) (next : Mode) (stack : List Open) : Except String ScanState :=
  if stack.length + 1 ≤ maxDepth then .ok (next, o :: stack) else invalid c "exceeded max depth"

/-- Reads `c` where a value must begin. -/
def beginValue (c : Char) (stack : List Open) : Except String ScanState :=
  if isSpace c then .ok (.beginValue, stack)
  else if c = '\x7b' then pushOpen c .objectKey .beginStringOrEmpty stack
  else if c = '[' then pushOpen c .arrayValue .beginValueOrEmpty stack
  else if c = '"' then .ok (.inString, stack)
  else if c = '-' then .ok (.neg, stack)
  else if c = '0' then .ok (.zero, stack)
  else if '1' ≤ c ∧ c ≤ '9' then .ok (.one, stack)
  else if c = 't' then .ok (.literal "true" ['r', 'u', 'e'], stack)
  else if c = 'f' then .ok (.literal "false" ['a', 'l', 's', 'e'], stack)
  else if c = 'n' then .ok (.literal "null" ['u', 'l', 'l'], stack)
  else invalid c "looking for beginning of value"

/-- Reads `c` after a complete value. -/
def endValue (c : Char) (stack : List Open) : Except String ScanState :=
  match stack with
  | [] => if isSpace c then .ok (.endTop, []) else invalid c "after top-level value"
  | o :: rest =>
    if isSpace c then .ok (.endValue, stack)
    else match o with
      | .objectKey =>
        if c = ':' then .ok (.beginValue, .objectValue :: rest) else invalid c "after object key"
      | .objectValue =>
        if c = ',' then .ok (.beginString, .objectKey :: rest)
        else if c = '\x7d' then .ok (if rest.isEmpty then .endTop else .endValue, rest)
        else invalid c "after object key:value pair"
      | .arrayValue =>
        if c = ',' then .ok (.beginValue, stack)
        else if c = ']' then .ok (if rest.isEmpty then .endTop else .endValue, rest)
        else invalid c "after array element"

/-- Whether a character is an ASCII digit. -/
def isAsciiDigit (c : Char) : Bool := '0' ≤ c && c ≤ '9'

/-- Reads one character. -/
def scanStep (st : ScanState) (c : Char) : Except String ScanState :=
  let (mode, stack) := st
  match mode with
  | .beginValue => beginValue c stack
  | .beginValueOrEmpty =>
    if isSpace c then .ok st
    else if c = ']' then endValue c stack
    else beginValue c stack
  | .beginStringOrEmpty =>
    if isSpace c then .ok st
    else if c = '\x7d' then endValue c (.objectValue :: stack.drop 1)
    else if c = '"' then .ok (.inString, stack)
    else invalid c "looking for beginning of object key string"
  | .beginString =>
    if isSpace c then .ok st
    else if c = '"' then .ok (.inString, stack)
    else invalid c "looking for beginning of object key string"
  | .endValue => endValue c stack
  | .endTop => if isSpace c then .ok st else invalid c "after top-level value"
  | .inString =>
    if c = '"' then .ok (.endValue, stack)
    else if c = '\\' then .ok (.inStringEsc, stack)
    else if c.toNat < 0x20 then invalid c "in string literal"
    else .ok st
  | .inStringEsc =>
    if c = 'b' ∨ c = 'f' ∨ c = 'n' ∨ c = 'r' ∨ c = 't' ∨ c = '\\' ∨ c = '/' ∨ c = '"' then
      .ok (.inString, stack)
    else if c = 'u' then .ok (.inStringEscU 4, stack)
    else invalid c "in string escape code"
  | .inStringEscU left =>
    if (hexDigit? c).isSome then
      .ok (if left ≤ 1 then .inString else .inStringEscU (left - 1), stack)
    else invalid c "in \\u hexadecimal character escape"
  | .neg =>
    if c = '0' then .ok (.zero, stack)
    else if '1' ≤ c ∧ c ≤ '9' then .ok (.one, stack)
    else invalid c "in numeric literal"
  | .one =>
    if isAsciiDigit c then .ok st
    else if c = '.' then .ok (.dot, stack)
    else if c = 'e' ∨ c = 'E' then .ok (.exp, stack)
    else endValue c stack
  | .zero =>
    if c = '.' then .ok (.dot, stack)
    else if c = 'e' ∨ c = 'E' then .ok (.exp, stack)
    else endValue c stack
  | .dot =>
    if isAsciiDigit c then .ok (.dot0, stack)
    else invalid c "after decimal point in numeric literal"
  | .dot0 =>
    if isAsciiDigit c then .ok st
    else if c = 'e' ∨ c = 'E' then .ok (.exp, stack)
    else endValue c stack
  | .exp =>
    if c = '+' ∨ c = '-' then .ok (.expSign, stack)
    else if isAsciiDigit c then .ok (.exp0, stack)
    else invalid c "in exponent of numeric literal"
  | .expSign =>
    if isAsciiDigit c then .ok (.exp0, stack)
    else invalid c "in exponent of numeric literal"
  | .exp0 =>
    if isAsciiDigit c then .ok st
    else endValue c stack
  | .literal word rest =>
    match rest with
    | d :: more =>
      if c = d then .ok (if more.isEmpty then .endValue else .literal word more, stack)
      else invalid c ("in literal " ++ word ++ " (expecting " ++ shownChar d ++ ")")
    | [] => endValue c stack

/-- Reads all characters, stopping at the first failure. -/
def scanAll (st : ScanState) : List Char → Except String ScanState
  | [] => .ok st
  | c :: cs => do scanAll (← scanStep st c) cs

/-- Why the text is not exactly one JSON value, or nothing when it is. -/
def syntaxError? (s : String) : Option String :=
  match scanAll (.beginValue, []) s.toList with
  | .error e => some e
  | .ok (.endTop, _) => none
  | .ok st =>
    match scanStep st ' ' with
    | .error e => some e
    | .ok (.endTop, _) => none
    | .ok _ => some "unexpected end of JSON input"

end SqlSearch.Json
