import SqlSearch.Json.Reader
import SqlSearch.Decimal.Read
import SqlSearch.Decimal.Format
/-! Reading documents into records. A member fills the field whose name it spells up to case:
letters compare by their upper case, the long s counting as `S`, the Kelvin sign as `K`, and
the dotless small i as `I`. The module also names the kind of a value as
the messages of a failed reading do, and gives the text by which the first token of a value is
shown. -/
namespace SqlSearch.Json

/-- The upper-case letter a key character stands for when keys are matched to field names. -/
def fieldFold (c : Char) : Char :=
  if c.toNat < 128 then c.toUpper
  else if c = 'ſ' then 'S'
  else if c = 'K' then 'K'
  else if c = 'ı' then 'I'
  else c

/-- Whether a member key fills the field of an ASCII name. -/
def keyFills (key name : String) : Bool :=
  key.length == name.length &&
    (key.toList.zip name.toList).all fun (k, n) => fieldFold k == n.toUpper

/-- The word for the kind of value a text starts with, as messages name it. -/
def kindWord (raw : String) : String :=
  match skipSpace raw.toList with
  | '{' :: _ => "object"
  | '[' :: _ => "array"
  | '"' :: _ => "string"
  | 't' :: _ => "bool"
  | 'f' :: _ => "bool"
  | 'n' :: _ => "null"
  | _ => "number"

/-- Whether a value text is `null` or blank. -/
def isNullText (raw : String) : Bool :=
  let cs := (skipSpace (skipSpace raw.toList).reverse).reverse
  cs.isEmpty || cs == "null".toList

/-- How the first token of a value text is shown: a bracket as itself, `null` as `<nil>`, a
string as its contents and a number in the general style; a number too large for a double
cannot be shown and gives the failure instead. -/
def firstTokenText (raw : String) : Except String String :=
  match skipSpace raw.toList with
  | '{' :: _ => .ok "\x7b"
  | '[' :: _ => .ok "["
  | _ =>
    match parseFirst? raw with
    | some .null => .ok "<nil>"
    | some (.bool b) => .ok (toString b)
    | some (.str s) => .ok s
    | some (.num lit) =>
      match Decimal.readDouble lit with
      | .ok x => .ok (Decimal.Style.general.text x)
      | .error _ => .error ("json: cannot unmarshal number " ++ lit ++ " into Go value of type float64")
    | _ => .ok ""

end SqlSearch.Json
