import SqlSearch.Url.Escape
/-! URLs: reading a URL reference into its parts and writing it back. Reading splits off the
fragment at the first `#`, refuses control characters, takes a scheme (letters first, then
letters, digits, `+ - .`, ended by `:`), splits off the query at the first `?` (a lone
trailing `?` is kept as an empty query), takes a text that does not start with `/` after a
scheme as a rootless reference, reads `//user@host:9200` as the authority, and unescapes host, path and
fragment. Writing escapes each part again, keeping the path as written when that is a valid
escaped form of it. -/
namespace SqlSearch.Url

open SqlSearch.Text

/-- User information: a name and perhaps a password, unescaped. -/
structure Userinfo where
  user : List UInt8
  password : Option (List UInt8)
  deriving Repr, DecidableEq

/-- A URL reference. Decoded parts are bytes, since escapes may stand for any byte. -/
structure Url where
  scheme : String := ""
  rootless : String := ""
  user : Option Userinfo := none
  host : List UInt8 := []
  path : List UInt8 := []
  rawPath : String := ""
  omitHost : Bool := false
  forceQuery : Bool := false
  rawQuery : String := ""
  fragment : List UInt8 := []
  rawFragment : String := ""
  deriving Repr, DecidableEq

/-- Why a text is not a URL. -/
inductive UrlError where
  | controlCharacter
  | missingScheme
  | colonInFirstSegment
  | missingBracket
  | badHostSuffix (suffix : String)
  | badUserinfo
  | escape (e : EscapeError)
  deriving Repr, DecidableEq

/-- The message of a URL error. -/
def UrlError.message : UrlError → String
  | .controlCharacter => "net/url: invalid control character in URL"
  | .missingScheme => "missing protocol scheme"
  | .colonInFirstSegment => "first path segment in URL cannot contain colon"
  | .missingBracket => "missing ']' in host"
  | .badHostSuffix p => "invalid port " ++ quote p ++ " after host"
  | .badUserinfo => "net/url: invalid userinfo"
  | .escape e => e.message

/-- A failure to read a URL: the text read and why. -/
structure ParseError where
  text : String
  error : UrlError
  deriving Repr, DecidableEq

/-- The message: `parse "text": why`. -/
def ParseError.message (e : ParseError) : String :=
  "parse " ++ quote e.text ++ ": " ++ e.error.message

/-- The text before the first `c` and, if `c` occurs, the text after it. -/
def cut (s : String) (c : Char) : String × Option String :=
  let cs := s.toList
  match cs.idxOf? c with
  | some i => (String.ofList (cs.take i), some (String.ofList (cs.drop (i + 1))))
  | none => (s, none)

/-- The text before the last `c` and after it, if `c` occurs. -/
def cutLast (s : String) (c : Char) : Option (String × String) :=
  let cs := s.toList
  match (cs.reverse).idxOf? c with
  | some j =>
    let i := cs.length - 1 - j
    some (String.ofList (cs.take i), String.ofList (cs.drop (i + 1)))
  | none => none

/-- Splits off the scheme: the scheme and the rest; no scheme when the text does not start with
one. -/
def splitScheme (s : String) : Except UrlError (String × String) :=
  let rec go (i : Nat) : List Char → Except UrlError (String × String)
    | [] => .ok ("", s)
    | c :: cs =>
      if c.isAlpha then go (i + 1) cs
      else if c.isDigit ∨ c = '+' ∨ c = '-' ∨ c = '.' then
        if i = 0 then .ok ("", s) else go (i + 1) cs
      else if c = ':' then
        if i = 0 then .error .missingScheme
        else .ok (String.ofList (s.toList.take i), String.ofList (s.toList.drop (i + 1)))
      else .ok ("", s)
  go 0 s.toList

/-- Whether the text after a host is empty or `:` followed by digits. -/
def validHostSuffix (p : String) : Bool :=
  match p.toList with
  | [] => true
  | ':' :: ds => ds.all Char.isDigit
  | _ => false

/-- The characters before the first `%25` and those from it on, when it occurs. -/
def splitZone : List Char → Option (List Char × List Char)
  | [] => none
  | c :: cs =>
    if ['%', '2', '5'].isPrefixOf (c :: cs) then some ([], c :: cs)
    else (splitZone cs).map fun (first, zone) => (c :: first, zone)

/-- Reads a host and the colon and digits after it. -/
def parseHost (host : String) : Except UrlError (List UInt8) := do
  let unesc (s : String) (mode : Component) : Except UrlError (List UInt8) :=
    (unescape (utf8Bytes s) mode).mapError .escape
  if host.startsWith "[" then
    match cutLast host ']' with
    | none => throw .missingBracket
    | some (inside, suffix) =>
      if !validHostSuffix suffix then throw (.badHostSuffix suffix)
      match splitZone inside.toList with
      | some (first, zone) =>
        -- a zone runs from the first `%25` to the closing bracket
        let h1 ← unesc (String.ofList first) .host
        let h2 ← unesc (String.ofList zone) .zone
        let h3 ← unesc ("]" ++ suffix) .host
        return h1 ++ h2 ++ h3
      | none => unesc host .host
  else
    match cutLast host ':' with
    | some (_, digits) =>
      if !validHostSuffix (":" ++ digits) then throw (.badHostSuffix (":" ++ digits))
      unesc host .host
    | none => unesc host .host

/-- Whether user information has only allowed characters. -/
def validUserinfo (s : String) : Bool :=
  s.all fun c => c.isAlphanum || "-._:~!$&'()*+,;=%@".toList.contains c

/-- Reads an authority: user information, then the host with what follows it. -/
def parseAuthority (authority : String) : Except UrlError (Option Userinfo × List UInt8) := do
  let unesc (s : String) : Except UrlError (List UInt8) :=
    (unescape (utf8Bytes s) .userPassword).mapError .escape
  match cutLast authority '@' with
  | none => return (none, ← parseHost authority)
  | some (info, hostPart) =>
    let host ← parseHost hostPart
    if !validUserinfo info then throw .badUserinfo
    match cut info ':' with
    | (name, none) => return (some ⟨← unesc name, none⟩, host)
    | (name, some pw) => return (some ⟨← unesc name, some (← unesc pw)⟩, host)

/-- Splits off the query at the first `?`: the text before it, whether a lone trailing `?` asks
for an empty query, and the query. -/
def splitQuery (rest : String) : String × Bool × String :=
  if rest.endsWith "?" ∧ (rest.toList.filter (· = '?')).length = 1 then
    (String.ofList rest.toList.dropLast, true, "")
  else ((cut rest '?').1, false, (cut rest '?').2.getD "")

/-- Splits the text after `//` into the authority and the path, which keeps its `/`. -/
def splitAuthority (t : List Char) : String × String :=
  match cut (String.ofList t) '/' with
  | (a, some p) => (a, "/" ++ p)
  | (a, none) => (a, "")

/-- Reads the path of a URL whose other parts are read. -/
def withPath (u : Url) (rest : String) : Except UrlError Url := do
  let path ← (unescape (utf8Bytes rest) .path).mapError .escape
  return { u with path := path, rawPath := if escape path .path = rest then "" else rest }

/-- Reads the authority, when the text starts with `//`, and then the path. -/
def parseHierarchy (scheme : String) (base : Url) (rest : String) : Except UrlError Url :=
  if (scheme ≠ "" ∨ !rest.startsWith "///") ∧ rest.startsWith "//" then do
    let (user, host) ← parseAuthority (splitAuthority (rest.toList.drop 2)).1
    withPath { base with user := user, host := host } (splitAuthority (rest.toList.drop 2)).2
  else if scheme ≠ "" ∧ rest.startsWith "/" then withPath { base with omitHost := true } rest
  else withPath base rest

/-- Reads the text before the fragment. -/
def parseBody (raw : String) : Except UrlError Url := do
  if raw.any (fun (c : Char) => c.toNat < 0x20 || c.toNat == 0x7f) then throw .controlCharacter
  if raw = "*" then return { path := [42] }
  let (scheme, rest) ← splitScheme raw
  let scheme := String.ofList (scheme.toList.map Char.toLower)
  let (rest, forceQuery, rawQuery) := splitQuery rest
  let base : Url := { scheme := scheme, forceQuery := forceQuery, rawQuery := rawQuery }
  if !rest.startsWith "/" then
    if scheme ≠ "" then return { base with rootless := rest }
    if ((cut rest '/').1.toList.contains ':') then throw .colonInFirstSegment
  parseHierarchy scheme base rest

/-- Reads a URL reference. -/
def parse (raw : String) : Except ParseError Url :=
  let (body, frag) := cut raw '#'
  match parseBody body with
  | .error e => .error ⟨body, e⟩
  | .ok u =>
    match frag with
    | none | some "" => .ok u
    | some f =>
      match unescape (utf8Bytes f) .fragment with
      | .error e => .error ⟨raw, .escape e⟩
      | .ok fb => .ok { u with fragment := fb, rawFragment := if escape fb .fragment = f then "" else f }

/-- The host as text. -/
def Url.hostText (u : Url) : String := stringOfBytes u.host

/-- The path as written: the raw form when it is a valid escaped form of the path, else the
path escaped. -/
def Url.escapedPath (u : Url) : String :=
  let raw := utf8Bytes u.rawPath
  let readsBack : Bool := match unescape raw .path with
    | .ok p => p == u.path
    | .error _ => false
  if u.rawPath != "" && validEncoded raw .path && readsBack then u.rawPath
  else if u.path = [42] then "*"
  else escape u.path .path

/-- The fragment as written, by the same rule. -/
def Url.escapedFragment (u : Url) : String :=
  let raw := utf8Bytes u.rawFragment
  let readsBack : Bool := match unescape raw .fragment with
    | .ok f => f == u.fragment
    | .error _ => false
  if u.rawFragment != "" && validEncoded raw .fragment && readsBack then u.rawFragment
  else escape u.fragment .fragment

/-- User information as written. -/
def Userinfo.text (ui : Userinfo) : String :=
  escape ui.user .userPassword ++ (ui.password.map fun p => ":" ++ escape p .userPassword).getD ""

/-- Writes a URL. -/
def Url.text (u : Url) : String :=
  let schemePart := if u.scheme ≠ "" then u.scheme ++ ":" else ""
  let body :=
    if u.rootless ≠ "" then u.rootless
    else
      let authority :=
        if u.scheme ≠ "" ∨ !u.host.isEmpty ∨ u.user.isSome then
          if u.omitHost ∧ u.host.isEmpty ∧ u.user.isNone then ""
          else
            (if !u.host.isEmpty ∨ !u.path.isEmpty ∨ u.user.isSome then "//" else "") ++
            ((u.user.map fun ui => ui.text ++ "@").getD "") ++
            escape u.host .host
        else ""
      let path := u.escapedPath
      let slash := if path ≠ "" ∧ !path.startsWith "/" ∧ !u.host.isEmpty then "/" else ""
      let soFar := schemePart ++ authority ++ slash
      let dot := if soFar.isEmpty ∧ (cut path '/').1.toList.contains ':' then "./" else ""
      authority ++ slash ++ dot ++ path
  let query := if u.forceQuery ∨ u.rawQuery ≠ "" then "?" ++ u.rawQuery else ""
  let frag := if !u.fragment.isEmpty then "#" ++ u.escapedFragment else ""
  schemePart ++ body ++ query ++ frag

end SqlSearch.Url
