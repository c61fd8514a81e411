import SqlSearch.Text.Utf8
/-! Percent-escaping of URL components. Letters, digits and `-_.~` never need escaping; which
reserved characters may stand unescaped depends on the component: a path escapes only `?`, a
path segment also `/ ; ,`, user information `@ / ? :`, a query component every reserved
character, a fragment none; a host or zone keeps the sub-delimiters, `:`, brackets, `< > "`.
Escapes are written with upper-case hex digits. Reading escapes checks that each `%` has two
hex digits after it, and in a host that only bytes outside ASCII (and `%25`) are escaped and
that no character that needs escaping stands unescaped. -/
namespace SqlSearch.Url

/-- The components of a URL, each with its own escaping rule. -/
inductive Component where
  | path
  | pathSegment
  | host
  | zone
  | userPassword
  | queryComponent
  | fragment
  deriving Repr, DecidableEq

/-- Whether a byte is an ASCII letter or digit. -/
def isAlnumByte (b : UInt8) : Bool :=
  (b ≥ 97 && b ≤ 122) || (b ≥ 65 && b ≤ 90) || (b ≥ 48 && b ≤ 57)

/-- Whether a byte is a hex digit. -/
def isHexByte (b : UInt8) : Bool :=
  (b ≥ 48 && b ≤ 57) || (b ≥ 97 && b ≤ 102) || (b ≥ 65 && b ≤ 70)

/-- The value of a hex digit byte. -/
def hexValue (b : UInt8) : Nat :=
  if b ≥ 48 && b ≤ 57 then b.toNat - 48
  else if b ≥ 97 && b ≤ 102 then b.toNat - 87
  else b.toNat - 55

/-- Whether the byte `c` is among the characters of `cs`. -/
def byteIn (c : UInt8) (cs : String) : Bool := cs.toList.any fun d => d.toNat = c.toNat

/-- Whether a byte must be escaped in a component. -/
def shouldEscape (c : UInt8) (mode : Component) : Bool :=
  if isAlnumByte c then false
  else if (mode = .host ∨ mode = .zone) ∧ byteIn c "!$&'()*+,;=:[]<>\"" then false
  else if byteIn c "-_.~" then false
  else if byteIn c "$&+,/:;=?@" then
    match mode with
    | .path => c = 63
    | .pathSegment => byteIn c "/;,?"
    | .userPassword => byteIn c "@/?:"
    | .queryComponent => true
    | .fragment => false
    | _ => true
  else if mode = .fragment ∧ byteIn c "!()*" then false
  else true

/-- The upper-case hex digit of a value below 16. -/
def hexUpper (n : Nat) : Char := "0123456789ABCDEF".toList.getD n '0'

/-- Escapes the bytes of a component; in a query component a space becomes `+`. -/
def escape (bs : List UInt8) (mode : Component) : String :=
  String.ofList (bs.flatMap fun b =>
    if shouldEscape b mode then
      if b = 32 ∧ mode = .queryComponent then ['+']
      else ['%', hexUpper (b.toNat / 16), hexUpper (b.toNat % 16)]
    else [Char.ofNat b.toNat])

/-- Escapes a text. -/
def escapeText (s : String) (mode : Component) : String := escape (Text.utf8Bytes s) mode

/-- Why escapes cannot be read. -/
inductive EscapeError where
  /-- A `%` without two hex digits, or an escape a host may not use; the bytes shown. -/
  | badEscape (shown : List UInt8)
  /-- A character a host may not hold. -/
  | badHostChar (shown : List UInt8)
  deriving Repr, DecidableEq

/-- The message of an escape error. -/
def EscapeError.message : EscapeError → String
  | .badEscape s => "invalid URL escape " ++ Text.quoteBytes s
  | .badHostChar s => "invalid character " ++ Text.quoteBytes s ++ " in host name"

/-- Reads the escapes of a component. -/
def unescape (bs : List UInt8) (mode : Component) : Except EscapeError (List UInt8) :=
  let rec go : List UInt8 → Except EscapeError (List UInt8)
    | [] => .ok []
    | b :: rest =>
      if b = 37 then
        match rest with
        | h1 :: h2 :: more =>
          if !(isHexByte h1 && isHexByte h2) then .error (.badEscape (b :: [h1, h2]))
          else
            let v := hexValue h1 * 16 + hexValue h2
            let isPct25 := h1 = 50 ∧ h2 = 53
            if mode = .host ∧ hexValue h1 < 8 ∧ !isPct25 then .error (.badEscape [b, h1, h2])
            else if mode = .zone ∧ !isPct25 ∧ v ≠ 32 ∧ shouldEscape v.toUInt8 .host then
              .error (.badEscape [b, h1, h2])
            else (v.toUInt8 :: ·) <$> go more
        | _ => .error (.badEscape (b :: rest.take 2))
      else if b = 43 then ((if mode = .queryComponent then 32 else 43) :: ·) <$> go rest
      else if (mode = .host ∨ mode = .zone) ∧ b < 128 ∧ shouldEscape b mode then
        .error (.badHostChar [b])
      else (b :: ·) <$> go rest
  go bs

/-- Whether a text is a valid escaped form of a component: every byte is allowed or escaped. -/
def validEncoded (bs : List UInt8) (mode : Component) : Bool :=
  bs.all fun b => byteIn b "!$&'()*+,;=:@[]%" || !shouldEscape b mode

end SqlSearch.Url
