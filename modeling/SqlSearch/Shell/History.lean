import SqlSearch.Host.Files
/-! The shell's line history. It is read from a file of lines when the shell starts (a line
longer than the reader's 4096-byte buffer ends the reading), keeps at most 1000 entries, skips
an entry equal to the one before it, and is written back one line per entry when the shell
ends. The file is the configured one, else `.elseql_history` in the home directory, else in the
working directory. -/
namespace SqlSearch.Shell

open SqlSearch.Host

/-- The most entries the history keeps. -/
def historyLimit : Nat := 1000

/-- The history file's name. -/
def historyName : String := ".elseql_history"

/-- The history with an entry added at the end, the oldest dropped past the limit. -/
def keepLast (entries : List String) : List String :=
  entries.drop (entries.length - historyLimit)

/-- Adds an entry unless it repeats the last one. -/
def appendHistory (entries : List String) (item : String) : List String :=
  if entries.getLast? = some item then entries else keepLast (entries ++ [item])

/-- Splits text into lines the way a buffered line reader does: a line feed ends a line and a
carriage return just before it is dropped; a last line without a line feed is kept as it is. -/
def readerLines (text : String) : List String :=
  let parts := text.splitOn "\n"
  let ended := parts.dropLast.map fun l => if l.endsWith "\r" then (l.dropEnd 1).toString else l
  match parts.getLast? with
  | some "" => ended
  | some last => ended ++ [last]
  | none => ended

/-- The history held in a file's text. -/
def readHistory (text : String) : List String :=
  let lines := readerLines text
  let fits := lines.takeWhile fun l => l.utf8ByteSize < 4096
  keepLast fits

/-- The text of a history file. -/
def writeHistory (entries : List String) : String :=
  String.join (entries.map (· ++ "\n"))

variable {m : Type → Type} [Monad m]

/-- The history file: the configured one, else in the home directory, else here. -/
def historyPath (h : Host m) (configured : String) : m String := do
  if !configured.isEmpty then return configured
  match ← h.getEnv "HOME" with
  | some home => return if home.isEmpty then historyName else joinPath home historyName
  | none => return historyName

end SqlSearch.Shell
