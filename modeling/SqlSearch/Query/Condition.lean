import SqlSearch.Text.Letter
import SqlSearch.Text.Digit
import SqlSearch.Text.Blank
/-! Conditions of WHERE and FILTER clauses and their query-string text. A condition is a tree of
comparisons, pattern matches, set and range tests joined by AND, OR and NOT; the engine reads
the text that `Condition.render` writes.

The rules of the text: a value is written bare when it came unquoted or is bare-safe (letters,
digits and `_.-@` only, and not empty), and in double quotes with `\` and `"` escaped otherwise.
`!=` and `<>` become `NOT field:value`, the order operators are kept before the value. LIKE turns
`%` into `*` and `_` into `?` and escapes blanks and `:()"\`. An operand of AND or OR that is
itself a junction of the other kind is put in parentheses, and so is a negated operand of OR;
NOT puts a junction in parentheses and writes `NOT (…)` around a negated operand. -/
namespace SqlSearch.Query

open SqlSearch.Text

/-- A literal on the right of a comparison, with whether it was written in quotes. -/
structure Value where
  text : String
  quoted : Bool
  deriving Repr, DecidableEq, Inhabited

/-- The comparison operators, by their symbols `=`, `!=`, `<>`, `<`, `<=`, `>`, `>=`. -/
inductive CompareOp where
  | eq | ne | ltgt | lt | le | gt | ge
  deriving Repr, DecidableEq, Inhabited

/-- The two junctions of conditions. -/
inductive Junction where
  | and | or
  deriving Repr, DecidableEq, Inhabited

/-- A condition of a WHERE or FILTER clause. -/
inductive Condition where
  /-- A quoted condition handed to the engine as written. -/
  | raw (text : String)
  /-- `field op value`. -/
  | compare (field : String) (op : CompareOp) (value : Value)
  /-- `field LIKE pattern`, with `%` and `_` as wildcards. -/
  | like (field : String) (pattern : String)
  /-- `field IN (v₁, …, vₙ)`. -/
  | isIn (field : String) (values : List Value)
  /-- `field BETWEEN lo AND hi`, both ends included. -/
  | between (field : String) (lo hi : Value)
  /-- `NOT c`. -/
  | not (c : Condition)
  /-- `l AND r` or `l OR r`. -/
  | junction (j : Junction) (l r : Condition)
  /-- A condition the statement put in parentheses. -/
  | group (c : Condition)
  deriving Repr, DecidableEq, Inhabited

namespace CompareOp

/-- How the operator is written in a statement. -/
def symbol : CompareOp → String
  | eq => "=" | ne => "!=" | ltgt => "<>" | lt => "<" | le => "<=" | gt => ">" | ge => ">="

/-- The operator written by `s`, if any. -/
def ofSymbol? : String → Option CompareOp
  | "=" => some eq | "!=" => some ne | "<>" => some ltgt | "<" => some lt | "<=" => some le
  | ">" => some gt | ">=" => some ge | _ => none

/-- Whether the operator denies equality, and so is written as a negation. -/
def negates : CompareOp → Bool
  | ne | ltgt => true
  | _ => false

end CompareOp

/-- The keyword joining two conditions. -/
def Junction.keyword : Junction → String
  | .and => "AND" | .or => "OR"

/-- Characters that may stand in a bare value besides letters and digits. -/
def isBareMark (c : Char) : Bool := c = '_' || c = '.' || c = '-' || c = '@'

/-- Whether a value can be written without quotes: letters, digits and `_.-@`, not empty. -/
def isBareSafe (s : String) : Bool :=
  !s.isEmpty && s.toList.all fun c => isLetter c || isDigit c || isBareMark c

/-- A phrase in double quotes with `\` and `"` escaped. -/
def phrase (s : String) : String :=
  String.ofList ('"' :: s.toList.flatMap (fun c => if c = '\\' ∨ c = '"' then ['\\', c] else [c])
    ++ ['"'])

/-- The query-string text of a value. -/
def Value.render (v : Value) : String :=
  if !v.quoted || isBareSafe v.text then v.text else phrase v.text

/-- The query-string form of one character of a LIKE pattern. -/
def likeChar (c : Char) : List Char :=
  if c = '%' then ['*']
  else if c = '_' then ['?']
  else if isBlank c ∨ c = ':' ∨ c = '(' ∨ c = ')' ∨ c = '"' ∨ c = '\\' then ['\\', c]
  else [c]

/-- The query-string form of a LIKE pattern. -/
def likePattern (p : String) : String := String.ofList (p.toList.flatMap likeChar)

namespace Condition

/-- Whether the condition is written with a leading NOT. -/
def isNegated : Condition → Bool
  | not _ => true
  | compare _ op _ => op.negates
  | _ => false

/-- Whether the condition is a junction of the given kind. -/
def isJunctionOf (j : Junction) : Condition → Bool
  | junction k _ _ => k = j
  | _ => false

/-- Whether the condition is a junction. -/
def isJunction : Condition → Bool
  | junction _ _ _ => true
  | _ => false

/-- The query-string text of a condition. -/
def render : Condition → String
  | raw t => t
  | compare f op v =>
    if op.negates then "NOT " ++ f ++ ":" ++ v.render
    else if op = .eq then f ++ ":" ++ v.render
    else f ++ ":" ++ op.symbol ++ v.render
  | like f p => f ++ ":" ++ likePattern p
  | isIn f vs => f ++ ":(" ++ " OR ".intercalate (vs.map Value.render) ++ ")"
  | between f lo hi => f ++ ":[" ++ lo.render ++ " TO " ++ hi.render ++ "]"
  | not c =>
    if c.isNegated then "NOT (" ++ c.render ++ ")"
    else if c.isJunction then "NOT (" ++ c.render ++ ")"
    else "NOT " ++ c.render
  | junction j l r =>
    let side (c : Condition) (s : String) : String :=
      if c.isJunction && !c.isJunctionOf j then "(" ++ s ++ ")"
      else if j = .or && c.isNegated then "(" ++ s ++ ")"
      else s
    side l l.render ++ " " ++ j.keyword ++ " " ++ side r r.render
  | group c => "(" ++ c.render ++ ")"

end Condition

end SqlSearch.Query
