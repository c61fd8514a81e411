import SqlSearch.Text.Blank
/-! Scripts: several statements in one text. Statements are separated by semicolons that stand
outside quotes (`'` or `"`); lines whose first non-blank characters are `--` are comments and
are dropped, the rest is trimmed, and empty statements are dropped. -/
namespace SqlSearch.Query

open SqlSearch.Text

/-- Whether a line is a comment: trimmed of blanks, it starts with `--`. -/
def isCommentLine (line : List Char) : Bool :=
  ['-', '-'].isPrefixOf (trimBlankList line)

/-- A piece between separators with its comment lines dropped and its ends trimmed. -/
def stripComments (piece : String) : String :=
  let keep := (piece.toList.splitOn '\n').filter fun line => !isCommentLine line
  String.ofList (trimBlankList (['\n'].intercalate keep))

/-- Splits characters at semicolons outside quotes. `quote` is the quote character in force,
if any, and `current` the characters of the piece being read, in reverse. -/
def splitPieces (quote : Option Char) (current : List Char) : List Char → List String
  | [] => [String.ofList current.reverse]
  | c :: cs =>
    match quote with
    | some q => splitPieces (if c = q then none else some q) (c :: current) cs
    | none =>
      if c = '\'' ∨ c = '"' then splitPieces (some c) (c :: current) cs
      else if c = ';' then String.ofList current.reverse :: splitPieces none [] cs
      else splitPieces none (c :: current) cs

/-- The statements of a script, in order. -/
def splitStatements (script : String) : List String :=
  ((splitPieces none [] script.toList).map stripComments).filter (· ≠ "")

end SqlSearch.Query
