/-! YAML documents as trees of scalars, mappings and sequences, each node with the line it
starts on. A scalar keeps its text and how it was written: only plain scalars are resolved to
null, booleans and numbers; quoted ones are always text. -/
namespace SqlSearch.Yaml

/-- How a scalar is written. -/
inductive Style where
  | plain
  | quoted
  deriving Repr, DecidableEq, Inhabited

/-- A node of a YAML document. -/
inductive Node where
  | scalar (line : Nat) (style : Style) (text : String)
  | mapping (line : Nat) (entries : List (Node × Node))
  | sequence (line : Nat) (items : List Node)
  deriving Repr, Inhabited

/-- The line a node starts on. -/
def Node.line : Node → Nat
  | .scalar l _ _ => l
  | .mapping l _ => l
  | .sequence l _ => l

/-- The plain scalars that mean null. -/
def nullWords : List String := ["", "~", "null", "Null", "NULL"]

/-- The plain scalars that mean true. -/
def trueWords : List String := ["true", "True", "TRUE"]

/-- The plain scalars that mean false. -/
def falseWords : List String := ["false", "False", "FALSE"]

/-- Digits of a base, after an optional sign and base prefix. -/
def allDigits (base : Nat) (cs : List Char) : Bool :=
  !cs.isEmpty && cs.all fun c =>
    match base with
    | 2 => c = '0' || c = '1'
    | 8 => '0' ≤ c && c ≤ '7'
    | 16 => c.isDigit || ('a' ≤ c && c ≤ 'f') || ('A' ≤ c && c ≤ 'F')
    | _ => c.isDigit

/-- Whether a plain scalar reads as an integer: decimal, or with a `0x`, `0o` or `0b` prefix,
after an optional sign; underscores are ignored. -/
def isIntegerText (s : String) : Bool :=
  let cs := s.toList.filter (· ≠ '_')
  let cs := match cs with
    | '-' :: r => r
    | '+' :: r => r
    | r => r
  match cs with
  | '0' :: 'x' :: r => allDigits 16 r
  | '0' :: 'o' :: r => allDigits 8 r
  | '0' :: 'b' :: r => allDigits 2 r
  | r => allDigits 10 r

/-- Whether a plain scalar reads as a floating-point number:
`[-+]?(\.[0-9]+|[0-9]+(\.[0-9]*)?)([eE][-+]?[0-9]+)?`, or an infinity or not-a-number. -/
def isFloatText (s : String) : Bool :=
  let special := [".inf", ".Inf", ".INF", "+.inf", "+.Inf", "+.INF", "-.inf", "-.Inf", "-.INF",
    ".nan", ".NaN", ".NAN"]
  if special.contains s then true
  else
    let cs := s.toList.filter (· ≠ '_')
    let cs := match cs with
      | '-' :: r => r
      | '+' :: r => r
      | r => r
    let whole := cs.takeWhile Char.isDigit
    let cs := cs.drop whole.length
    let (frac, cs) := match cs with
      | '.' :: r => (some (r.takeWhile Char.isDigit), r.dropWhile Char.isDigit)
      | r => (none, r)
    let mantissaOk := match frac with
      | none => !whole.isEmpty
      | some f => !whole.isEmpty || !f.isEmpty
    let expOk := match cs with
      | [] => true
      | e :: r =>
        (e = 'e' || e = 'E') &&
          (match r with
            | '-' :: ds => allDigits 10 ds
            | '+' :: ds => allDigits 10 ds
            | ds => allDigits 10 ds)
    mantissaOk && expOk

/-- The short tag a node resolves to. -/
def Node.tag : Node → String
  | .mapping _ _ => "!!map"
  | .sequence _ _ => "!!seq"
  | .scalar _ .quoted _ => "!!str"
  | .scalar _ .plain s =>
    if nullWords.contains s then "!!null"
    else if trueWords.contains s || falseWords.contains s then "!!bool"
    else if isIntegerText s then "!!int"
    else if isFloatText s then "!!float"
    else "!!str"

/-- Whether a node is a null scalar. -/
def Node.isNull (n : Node) : Bool := n.tag = "!!null"

/-- The text of a scalar, empty for collections. -/
def Node.text : Node → String
  | .scalar _ _ s => s
  | _ => ""

/-- Whether two keys are the same key: the same kind of node with the same text. -/
def Node.sameKey : Node → Node → Bool
  | .scalar _ _ a, .scalar _ _ b => a = b
  | .mapping _ _, .mapping _ _ => true
  | .sequence _ _, .sequence _ _ => true
  | _, _ => false

end SqlSearch.Yaml
