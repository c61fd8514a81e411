import SqlSearch.Json.Reader
/-! Writing JSON text. Strings escape `"` and `\`, write line feed, carriage return, tab,
backspace and form feed as `\n \r \t \b \f`, other control characters as `\u00XX`, and always
escape U+2028 and U+2029; with HTML escaping, `<`, `>` and `&` are written as `<`,
`>` and `&` too. Compact text has no blanks. Indented text puts each member and item
on its own line, after a prefix and one indent per level, writes `": "` after keys and keeps
empty objects and arrays as `{}` and `[]`.

Besides values, the module lays out JSON text again token by token: `compactText` drops the blanks
between tokens, `indentText` lays the tokens out as above and keeps blanks that follow the
value; both keep every token as written. -/
namespace SqlSearch.Json

/-- The four lowercase hexadecimal digits of a code point below U+10000. -/
def hex4Digits (n : Nat) : List Char :=
  let ds := Nat.toDigits 16 n
  List.replicate (4 - ds.length) '0' ++ ds

/-- How one character of a string is written. -/
def escapeChar (html : Bool) (c : Char) : List Char :=
  if c = '"' then ['\\', '"']
  else if c = '\\' then ['\\', '\\']
  else if c = '\n' then ['\\', 'n']
  else if c = '\r' then ['\\', 'r']
  else if c = '\t' then ['\\', 't']
  else if c.toNat = 8 then ['\\', 'b']
  else if c.toNat = 12 then ['\\', 'f']
  else if c.toNat < 0x20 then '\\' :: 'u' :: hex4Digits c.toNat
  else if html ∧ (c = '<' ∨ c = '>' ∨ c = '&') then '\\' :: 'u' :: hex4Digits c.toNat
  else if c.toNat = 0x2028 ∨ c.toNat = 0x2029 then '\\' :: 'u' :: hex4Digits c.toNat
  else [c]

/-- A string literal. -/
def quoteString (html : Bool) (s : String) : String :=
  String.ofList ('"' :: s.toList.flatMap (escapeChar html) ++ ['"'])

mutual

/-- Compact text of a value, members in their order. -/
def render (html : Bool) : Json → String
  | .null => "null"
  | .bool b => if b then "true" else "false"
  | .num lit => lit
  | .str s => quoteString html s
  | .arr items => "[" ++ renderItems html items ++ "]"
  | .obj members => "\x7b" ++ renderMembers html members ++ "\x7d"

/-- Items separated by commas. -/
def renderItems (html : Bool) : List Json → String
  | [] => ""
  | [x] => render html x
  | x :: xs => render html x ++ "," ++ renderItems html xs

/-- Members separated by commas. -/
def renderMembers (html : Bool) : List (String × Json) → String
  | [] => ""
  | [(k, v)] => quoteString html k ++ ":" ++ render html v
  | (k, v) :: ms => quoteString html k ++ ":" ++ render html v ++ "," ++ renderMembers html ms

end

mutual

/-- The value as a map-shaped document: every object with each key once, holding its last
value, and the keys in increasing order, all the way down. -/
def sortKeys : Json → Json
  | .arr items => .arr (sortItems items)
  | .obj members => .obj ((sortMembers members).mergeSort fun a b => a.1 ≤ b.1)
  | v => v

/-- `sortKeys` on each item. -/
def sortItems : List Json → List Json
  | [] => []
  | x :: xs => sortKeys x :: sortItems xs

/-- Members with each key once (last value, first position), values sorted inside. -/
def sortMembers : List (String × Json) → List (String × Json)
  | [] => []
  | (k, v) :: ms =>
    let rest := sortMembers ms
    if rest.any (·.1 = k) then rest else (k, sortKeys v) :: rest

end

/-- The characters of a string literal up to and including its closing quote, and the rest. -/
def stringSpan (acc : List Char) : List Char → List Char × List Char
  | [] => (acc.reverse, [])
  | '"' :: rest => (('"' :: acc).reverse, rest)
  | '\\' :: d :: rest => stringSpan (d :: '\\' :: acc) rest
  | d :: rest => stringSpan (d :: acc) rest

theorem stringSpan_length (acc cs : List Char) : (stringSpan acc cs).2.length ≤ cs.length := by
  fun_induction stringSpan acc cs <;> simp_all <;> omega

/-- A token of JSON text as written: a punctuation mark, a string with its quotes, or a
number or literal. -/
def tokenize : List Char → List String
  | [] => []
  | c :: cs =>
    if isSpace c then tokenize cs
    else if c = '{' ∨ c = '}' ∨ c = '[' ∨ c = ']' ∨ c = ':' ∨ c = ',' then
      c.toString :: tokenize cs
    else if c = '"' then
      String.ofList ('"' :: (stringSpan [] cs).1) :: tokenize (stringSpan [] cs).2
    else
      let word := cs.takeWhile fun d =>
        !(isSpace d || d = '{' || d = '}' || d = '[' || d = ']' || d = ':' || d = ',' || d = '"')
      String.ofList (c :: word) :: tokenize (cs.drop word.length)
termination_by cs => cs.length
decreasing_by
  all_goals simp_wf
  all_goals (have h := stringSpan_length [] cs; omega)

/-- The text without blanks between tokens, when it is one JSON value. -/
def compactText (s : String) : Option String :=
  (parse? s).map fun _ => String.join (tokenize s.toList)

/-- A line break followed by the prefix and `depth` indents. -/
def newline (pre ind : String) (depth : Nat) : String :=
  "\n" ++ pre ++ String.join (List.replicate depth ind)

/-- Lays tokens out on lines. `pending` is set right after an opening bracket, whose line break
waits for the next token so that empty brackets stay together. -/
def layout (pre ind : String) (depth : Nat) (pending : Bool) : List String → String
  | [] => ""
  | t :: ts =>
    if t = "\x7d" ∨ t = "]" then
      if pending then t ++ layout pre ind depth false ts
      else newline pre ind (depth - 1) ++ t ++ layout pre ind (depth - 1) false ts
    else
      let (open_, depth) := if pending then (newline pre ind (depth + 1), depth + 1) else ("", depth)
      if t = "\x7b" ∨ t = "[" then open_ ++ t ++ layout pre ind depth true ts
      else if t = "," then open_ ++ t ++ newline pre ind depth ++ layout pre ind depth false ts
      else if t = ":" then open_ ++ ": " ++ layout pre ind depth false ts
      else open_ ++ t ++ layout pre ind depth false ts

/-- The text laid out with one token group per line, when it is one JSON value; blanks before
the value are dropped and blanks after it kept. -/
def indentText (pre ind : String) (s : String) : Option String :=
  (parse? s).map fun _ =>
    layout pre ind 0 false (tokenize s.toList) ++
      String.ofList (s.toList.reverse.takeWhile isSpace).reverse

/-- Indented text of a value with HTML escaping, keys in their order. -/
def renderIndented (pre ind : String) (v : Json) : String :=
  let compact := render true v
  (indentText pre ind compact).getD compact

end SqlSearch.Json
