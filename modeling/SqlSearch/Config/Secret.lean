import SqlSearch.Config.Basic
import SqlSearch.Json.Record
import SqlSearch.Json.Syntax
/-! The password kept in a secret store. When the configuration names a secret and has no
password, the secret is fetched: a secret whose text starts with `{` (after blanks) is a JSON
object with `username` and `password`, any other text is the password itself. The user name of
the object is taken only when the configuration has neither a user name nor a region. -/
namespace SqlSearch.Config

open SqlSearch.Json

/-- A secret store: the text of a secret, none when it has no text, or the failure. -/
abbrev SecretSource := String → Except String (Option String)

/-- Credentials kept as a JSON object. -/
structure Credentials where
  username : String := ""
  password : String := ""
  deriving Repr, Inhabited

/-- The type of the credentials record, as failures name it. -/
def credentialsType : String :=
  "struct \x7b Username string \"json:\\\"username\\\"\"; Password string \"json:\\\"password\\\"\" \x7d"

/-- Reads a text member: a string, or `null` keeping the current text. -/
def readTextMember (at_ : Place) (cur : String) (raw : String) : Reading String :=
  match parse? raw with
  | some (.str s) => pure s
  | some .null => pure cur
  | _ => do mismatch (kindWord raw) at_ "string"; pure cur

/-- Reads credentials from the text of a secret. -/
def readCredentials (raw : String) : Except String Credentials :=
  match syntaxError? raw with
  | some e => .error e
  | none =>
    (readRecord {} credentialsType
      [("username", fun (c : Credentials) v => do
          let u ← readTextMember ⟨"", ["username"]⟩ c.username v
          return { c with username := u }),
       ("password", fun (c : Credentials) v => do
          let p ← readTextMember ⟨"", ["password"]⟩ c.password v
          return { c with password := p })] {} raw).result

/-- The secret to fetch: the configured one, when there is no password yet. -/
def Config.secretToFetch? (c : Config) : Option String :=
  if c.passwordSecretId = "" ∨ c.password ≠ "" then none else some c.passwordSecretId

/-- Fills the password from what the secret store gave for a secret id. -/
def applySecret (c : Config) (id : String) (fetched : Except String (Option String)) :
    Except String Config :=
  match fetched with
  | .error e => .error ("failed to read secret " ++ id ++ ": " ++ e)
  | .ok none => .error ("secret " ++ id ++ " has no string value")
  | .ok (some "") => .error ("secret " ++ id ++ " has no string value")
  | .ok (some secret) =>
    if (Text.trimBlank secret).startsWith "\x7b" then
      match readCredentials secret with
      | .error e => .error ("failed to parse secret " ++ id ++ ": " ++ e)
      | .ok creds =>
        if creds.password = "" then .error ("secret " ++ id ++ " has no password key")
        else
          let c := if c.username = "" ∧ c.region = "" then { c with username := creds.username }
            else c
          .ok { c with password := creds.password }
    else .ok { c with password := secret }

/-- Fills the password from the secret store, when the configuration asks for it. -/
def resolvePassword (c : Config) (fetch : SecretSource) : Except String Config :=
  match c.secretToFetch? with
  | none => .ok c
  | some id => applySecret c id (fetch id)

end SqlSearch.Config
