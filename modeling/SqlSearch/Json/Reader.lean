import SqlSearch.Json.Basic
/-! Reading JSON text. Blanks between tokens are space, tab, line feed and carriage return.
Strings take the escapes `\" \\ \/ \b \f \n \r \t \uXXXX`; a `\u` escape of a surrogate that is
not the first half of a pair followed by the second half reads as U+FFFD, and control
characters must be escaped. Numbers follow the grammar `-?(0|[1-9][0-9]*)(.[0-9]+)?([eE][+-]?[0-9]+)?`
and keep their literal.

Besides reading a whole text (`Json.parse?`), the module reads the first value of a text and
ignores what follows it (`Json.parseFirst?`), and splits an object or array text into the
exact source text of its members (`rawMembers?`, `rawItems?`), so that a member can be echoed
or read again as written. -/
namespace SqlSearch.Json

/-- Blank characters between JSON tokens. -/
def isSpace (c : Char) : Bool := c = ' ' || c = '\t' || c = '\n' || c = '\r'

/-- The characters after the leading blanks. -/
def skipSpace (cs : List Char) : List Char := cs.dropWhile isSpace

/-- The value of a hexadecimal digit. -/
def hexDigit? (x : Char) : Option Nat :=
  if '0' ≤ x ∧ x ≤ '9' then some (x.toNat - '0'.toNat)
  else if 'a' ≤ x ∧ x ≤ 'f' then some (x.toNat - 'a'.toNat + 10)
  else if 'A' ≤ x ∧ x ≤ 'F' then some (x.toNat - 'A'.toNat + 10)
  else none

/-- The value of four hexadecimal digits and the characters after them. -/
def hex4? : List Char → Option (Nat × List Char)
  | a :: b :: c :: d :: rest =>
    match hexDigit? a, hexDigit? b, hexDigit? c, hexDigit? d with
    | some w, some x, some y, some z => some (((w * 16 + x) * 16 + y) * 16 + z, rest)
    | _, _, _, _ => none
  | _ => none

theorem hex4?_length {cs rest : List Char} {n : Nat} (h : hex4? cs = some (n, rest)) :
    rest.length + 4 = cs.length := by
  unfold hex4? at h
  split at h
  · split at h
    · simp only [Option.some.injEq, Prod.mk.injEq] at h
      obtain ⟨-, rfl⟩ := h
      simp
    · simp at h
  · simp at h

/-- The replacement character, for escapes that name no character. -/
def replacement : Char := '�'

/-- Reads what follows `\u`: the character its four digits name and the characters after
them. The first half of a surrogate pair takes the second half only when it follows at once,
and a half that is not so joined reads as the replacement character. -/
def readUnicodeEscape (r : List Char) : Option (Char × List Char) :=
  match hex4? r with
  | none => none
  | some (n, r') =>
    if 0xD800 ≤ n ∧ n < 0xDC00 then
      match r' with
      | '\\' :: 'u' :: r'' =>
        match hex4? r'' with
        | some (m, r''') =>
          if 0xDC00 ≤ m ∧ m < 0xE000 then
            some (Char.ofNat (0x10000 + (n - 0xD800) * 0x400 + (m - 0xDC00)), r''')
          else some (replacement, r')
        | none => none
      | _ => some (replacement, r')
    else if 0xDC00 ≤ n ∧ n < 0xE000 then some (replacement, r')
    else some (Char.ofNat n, r')

theorem readUnicodeEscape_length {r rest : List Char} {c : Char}
    (h : readUnicodeEscape r = some (c, rest)) : rest.length < r.length := by
  unfold readUnicodeEscape at h
  split at h
  · exact absurd h (by simp)
  · rename_i n r' hr
    have h1 := hex4?_length hr
    split at h
    · split at h
      · rename_i r''
        split at h
        · rename_i m r''' hr2
          have h2 := hex4?_length hr2
          split at h
          · injection h with h; injection h with _ h; subst h
            simp only [List.length_cons] at h1; omega
          · injection h with h; injection h with _ h; subst h; omega
        · exact absurd h (by simp)
      · injection h with h; injection h with _ h; subst h; omega
    · split at h
      · injection h with h; injection h with _ h; subst h; omega
      · injection h with h; injection h with _ h; subst h; omega

/-- Reads the rest of a string after its opening quote: its characters (in reverse, after
`acc`) and what follows the closing quote. -/
def readStringBody (acc : List Char) : List Char → Option (List Char × List Char)
  | [] => none
  | '"' :: rest => some (acc, rest)
  | '\\' :: rest =>
    match rest with
    | '"' :: r => readStringBody ('"' :: acc) r
    | '\\' :: r => readStringBody ('\\' :: acc) r
    | '/' :: r => readStringBody ('/' :: acc) r
    | 'b' :: r => readStringBody ('\x08' :: acc) r
    | 'f' :: r => readStringBody ('\x0c' :: acc) r
    | 'n' :: r => readStringBody ('\n' :: acc) r
    | 'r' :: r => readStringBody ('\r' :: acc) r
    | 't' :: r => readStringBody ('\t' :: acc) r
    | 'u' :: r =>
      match h : readUnicodeEscape r with
      | some (c, r') =>
        have := readUnicodeEscape_length h
        readStringBody (c :: acc) r'
      | none => none
    | _ => none
  | c :: rest => if c.toNat < 0x20 then none else readStringBody (c :: acc) rest
termination_by cs => cs.length
decreasing_by all_goals (simp only [List.length_cons] at *; omega)

/-- Reads a string after its opening quote. -/
def readString (cs : List Char) : Option (String × List Char) :=
  (readStringBody [] cs).map fun (acc, rest) => (String.ofList acc.reverse, rest)

/-- The digits at the start of `cs` and the rest. -/
def spanDigits (cs : List Char) : List Char × List Char :=
  (cs.takeWhile Char.isDigit, cs.dropWhile Char.isDigit)

/-- An optional minus sign and the rest. -/
def readSign : List Char → List Char × List Char
  | '-' :: r => (['-'], r)
  | r => ([], r)

/-- The integer part of a number: a lone `0`, or digits that start with `1` to `9`. -/
def readIntPart : List Char → Option (List Char × List Char)
  | '0' :: r => some (['0'], r)
  | c :: r => if '1' ≤ c ∧ c ≤ '9' then some (spanDigits (c :: r)) else none
  | [] => none

/-- An optional fraction: a point and at least one digit. -/
def readFraction : List Char → Option (List Char × List Char)
  | '.' :: r =>
    let (ds, r') := spanDigits r
    if ds.isEmpty then none else some ('.' :: ds, r')
  | r => some ([], r)

/-- An optional sign of an exponent and the rest. -/
def readExponentSign : List Char → List Char × List Char
  | '+' :: r => (['+'], r)
  | '-' :: r => (['-'], r)
  | r => ([], r)

/-- An optional exponent: `e` or `E`, an optional sign and at least one digit. -/
def readExponent : List Char → Option (List Char × List Char)
  | e :: r =>
    if e = 'e' ∨ e = 'E' then
      let (sg, r) := readExponentSign r
      let (ds, r') := spanDigits r
      if ds.isEmpty then none else some (e :: sg ++ ds, r')
    else some ([], e :: r)
  | [] => some ([], [])

/-- Reads a number literal: its characters and the rest. -/
def readNumber (cs : List Char) : Option (List Char × List Char) :=
  let (sign, cs) := readSign cs
  (readIntPart cs).bind fun (ip, cs) =>
    (readFraction cs).bind fun (fp, cs) =>
      (readExponent cs).map fun (ep, rest) => (sign ++ ip ++ fp ++ ep, rest)

mutual

/-- Reads one value after optional blanks. -/
def readValue : Nat → List Char → Option (Json × List Char)
  | 0, _ => none
  | fuel + 1, cs =>
    match skipSpace cs with
    | '{' :: rest => readMembers fuel [] true rest
    | '[' :: rest => readItems fuel [] true rest
    | '"' :: rest => (readString rest).map fun (s, r) => (.str s, r)
    | 't' :: 'r' :: 'u' :: 'e' :: rest => some (.bool true, rest)
    | 'f' :: 'a' :: 'l' :: 's' :: 'e' :: rest => some (.bool false, rest)
    | 'n' :: 'u' :: 'l' :: 'l' :: rest => some (.null, rest)
    | cs' => (readNumber cs').map fun (lit, r) => (.num (String.ofList lit), r)

/-- Reads the members of an object after its opening brace; `first` before the first one. -/
def readMembers : Nat → List (String × Json) → Bool → List Char → Option (Json × List Char)
  | 0, _, _, _ => none
  | fuel + 1, acc, first, cs =>
    match skipSpace cs with
    | '}' :: rest => if first then some (.obj [], rest) else none
    | '"' :: rest =>
      match readString rest with
      | some (key, r) =>
        match skipSpace r with
        | ':' :: r' =>
          match readValue fuel r' with
          | some (v, r'') =>
            match skipSpace r'' with
            | ',' :: r''' => readMembers fuel ((key, v) :: acc) false r'''
            | '}' :: r''' => some (.obj ((key, v) :: acc).reverse, r''')
            | _ => none
          | none => none
        | _ => none
      | none => none
    | _ => none

/-- Reads the items of an array after its opening bracket; `first` before the first one. -/
def readItems : Nat → List Json → Bool → List Char → Option (Json × List Char)
  | 0, _, _, _ => none
  | fuel + 1, acc, first, cs =>
    match skipSpace cs, first with
    | ']' :: rest, true => some (.arr [], rest)
    | cs', _ =>
      match readValue fuel cs' with
      | some (v, r) =>
        match skipSpace r with
        | ',' :: r' => readItems fuel (v :: acc) false r'
        | ']' :: r' => some (.arr (v :: acc).reverse, r')
        | _ => none
      | none => none

end

/-- Reads a value and returns it with the characters that follow it. -/
def readPrefix (cs : List Char) : Option (Json × List Char) :=
  readValue (2 * cs.length + 2) cs

/-- Reads a whole text holding exactly one value between optional blanks. -/
def parse? (s : String) : Option Json :=
  match readPrefix s.toList with
  | some (v, rest) => if (skipSpace rest).isEmpty then some v else none
  | none => none

/-- Reads the first value of a text and ignores whatever follows it. -/
def parseFirst? (s : String) : Option Json :=
  (readPrefix s.toList).map Prod.fst

/-- The source text of the value at the start of `cs` (after blanks) and the rest. -/
def rawPrefix (cs : List Char) : Option (String × List Char) :=
  let start := skipSpace cs
  (readPrefix start).map fun (_, rest) =>
    (String.ofList (start.take (start.length - rest.length)), rest)

/-- Splits members after an opening brace into keys and the source text of their values. -/
def rawMembersFrom : Nat → List (String × String) → List Char → Option (List (String × String))
  | 0, _, _ => none
  | fuel + 1, acc, cs =>
    match skipSpace cs with
    | '}' :: _ => some acc.reverse
    | ',' :: rest => rawMembersFrom fuel acc rest
    | '"' :: rest =>
      match readString rest with
      | some (key, r) =>
        match skipSpace r with
        | ':' :: r' =>
          match rawPrefix r' with
          | some (raw, r'') => rawMembersFrom fuel ((key, raw) :: acc) r''
          | none => none
        | _ => none
      | none => none
    | _ => none

/-- The members of an object text, each key with the exact source text of its value, in
order and with repeated keys kept; nothing when the text is not one object. -/
def rawMembers? (s : String) : Option (List (String × String)) :=
  match parse? s with
  | some (.obj _) =>
    match skipSpace s.toList with
    | '{' :: rest => rawMembersFrom (rest.length + 1) [] rest
    | _ => none
  | _ => none

/-- Splits items after an opening bracket into their source texts. -/
def rawItemsFrom : Nat → List String → List Char → Option (List String)
  | 0, _, _ => none
  | fuel + 1, acc, cs =>
    match skipSpace cs with
    | ']' :: _ => some acc.reverse
    | ',' :: rest => rawItemsFrom fuel acc rest
    | cs' =>
      match rawPrefix cs' with
      | some (raw, r) => rawItemsFrom fuel (raw :: acc) r
      | none => none

/-- The items of an array text as their exact source texts; nothing when the text is not one
array. -/
def rawItems? (s : String) : Option (List String) :=
  match parse? s with
  | some (.arr _) =>
    match skipSpace s.toList with
    | '[' :: rest => rawItemsFrom (rest.length + 1) [] rest
    | _ => none
  | _ => none

end SqlSearch.Json
