import SqlSearch.Text.Letter
import SqlSearch.Text.Digit
import SqlSearch.Json.Reader
import SqlSearch.Json.Writer
import SqlSearch.Decimal.Format
import SqlSearch.Decimal.Read
/-! Fields and lines of comma-separated output. A field is written from a cell: nothing for
null and for empty lists and maps, numbers and booleans as their text, a string as it is when
it is made of letters and digits only and quoted otherwise (a quote inside written twice), and
lists, maps and records as compact JSON text, then quoted like a string. Undecoded JSON text is
read up to its first value and written as that value; text that holds no value is written as
a string. -/
namespace SqlSearch.Csv

/-- The values a field is written from. -/
inductive Cell where
  | null
  | bool (b : Bool)
  | text (s : String)
  /-- A number kept as the literal it was read from. -/
  | number (literal : String)
  | double (x : Float)
  | int (n : Int)
  | list (items : List Cell)
  /-- A map from keys to cells; a later member replaces an earlier one of the same key. -/
  | map (members : List (String × Cell))
  /-- Undecoded JSON text. -/
  | raw (text : String)
  /-- A value that is written as the text it names itself by. -/
  | named (name : String)
  /-- A record whose members keep their order when written as JSON. -/
  | record (members : List (String × Cell))
  deriving Inhabited

namespace Cell

mutual

/-- A decoded document as a cell, each number made a cell by `number`. -/
def ofJsonBy (number : String → Cell) : Json → Cell
  | .null => .null
  | .bool b => .bool b
  | .str s => .text s
  | .num lit => number lit
  | .arr items => .list (ofJsonItems number items)
  | .obj members => .map (ofJsonMembers number members)

/-- `ofJsonBy` on each item. -/
def ofJsonItems (number : String → Cell) : List Json → List Cell
  | [] => []
  | x :: xs => ofJsonBy number x :: ofJsonItems number xs

/-- `ofJsonBy` on each member's value. -/
def ofJsonMembers (number : String → Cell) : List (String × Json) → List (String × Cell)
  | [] => []
  | (k, v) :: ms => (k, ofJsonBy number v) :: ofJsonMembers number ms

end

/-- A decoded document as a cell, numbers kept as their literals. -/
def ofJson : Json → Cell := ofJsonBy .number

/-- A decoded document as a cell, every number read as a double. -/
def ofJsonDoubles : Json → Cell :=
  ofJsonBy fun lit =>
    match Decimal.readDouble lit with
    | .ok x => .double x
    | .error _ => .number lit

/-- The members of a map with each key once, holding its last value, in increasing key order. -/
def sortedMembers {α : Type} (ms : List (String × α)) : List (String × α) :=
  let keep := ms.zipIdx.filter fun ((k, _), i) => !(ms.drop (i + 1)).any (·.1 = k)
  (keep.map Prod.fst).mergeSort fun a b => a.1 ≤ b.1

mutual

/-- The cell as a JSON value: maps with sorted keys, doubles in the document number form.
Not-a-number and the infinities have no JSON form. -/
def toJson? : Cell → Option Json
  | .null => some .null
  | .bool b => some (.bool b)
  | .text s => some (.str s)
  | .number lit => some (.num lit)
  | .double x => (Decimal.Style.json.text? x).map .num
  | .int n => some (Json.int n)
  | .list items => (listToJson? items).map .arr
  | .map members => (membersToJson? members).map fun ms => .obj (sortedMembers ms)
  | .raw src => Json.parse? src
  | .named name => some (.str name)
  | .record members => (membersToJson? members).map .obj

/-- `toJson?` on each item. -/
def listToJson? : List Cell → Option (List Json)
  | [] => some []
  | x :: xs => do return (← toJson? x) :: (← listToJson? xs)

/-- `toJson?` on each member's value. -/
def membersToJson? : List (String × Cell) → Option (List (String × Json))
  | [] => some []
  | (k, v) :: ms => do return (k, ← toJson? v) :: (← membersToJson? ms)

end

end Cell

/-- Whether a text is made of letters and digits only. -/
def isWord (s : String) : Bool := s.all fun c => Text.isLetter c || Text.isDigit c

/-- A string as a field: empty, as it is when a word, else in quotes with quotes doubled. -/
def encodeText (s : String) : String :=
  if s.isEmpty then ""
  else if isWord s then s
  else "\"" ++ String.join (s.toList.map fun c => if c = '"' then "\"\"" else c.toString) ++ "\""

/-- A list, map or record as a field: its compact JSON text, quoted as a string. -/
def encodeComposite (c : Cell) : String :=
  match c.toJson? with
  | some j => encodeText (Json.render true j)
  | none => encodeText ""

/-- A decoded document as a field. -/
def encodeJson : Json → String
  | .null => ""
  | .bool b => toString b
  | .str s => encodeText s
  | .num lit => lit
  | .arr [] => ""
  | .obj [] => ""
  | j => encodeComposite (Cell.ofJson j)

/-- The field written for a cell. -/
def encodeField : Cell → String
  | .null => ""
  | .text s => encodeText s
  | .number lit => lit
  | .bool b => toString b
  | .int n => toString n
  | .double x => Decimal.Style.plain.text x
  | .raw src =>
    if src.isEmpty then ""
    else match Json.parseFirst? src with
      | some j => encodeJson j
      | none => encodeText src
  | .list [] => ""
  | .map [] => ""
  | .named name => encodeText name
  | c => encodeComposite c

/-- A line of fields, separated by commas. -/
def encodeRow (cells : List Cell) : String := ",".intercalate (cells.map encodeField)

/-- A line of string fields, such as a header. -/
def encodeStrings (values : List String) : String := ",".intercalate (values.map encodeText)

end SqlSearch.Csv
