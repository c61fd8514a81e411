import SqlSearch.Command.Live
import SqlSearch.Command.Spec
import SqlSearch.Shell.History
import SqlSearch.Query.Script
import SqlSearch.Text.Lower
/-! The interactive shell. It prompts for a line, drops surrounding blanks, skips empty lines,
adds the line to the history and runs it: a shell command (`exit`, `quit`, `\q`; `help`, `\h`,
`?`; `keywords`; `reload`; `debug [on|off]`; `explain …`; `validate …`) or statements separated
by `;`. The end of input ends the shell with an empty line. The history is read from its file
at the start and written back at the end. -/
namespace SqlSearch.Shell

open SqlSearch.Host SqlSearch.Command

/-- The shell's prompt. -/
def promptText : String := "elseql> "

/-- The first word of a line and the rest, both without surrounding blanks; words are
separated by a space. -/
def splitWord (input : String) : String × String :=
  let t := Text.trimBlank input
  match t.splitOn " " with
  | [] => ("", "")
  | w :: rest => (w, Text.trimBlank (" ".intercalate rest))

/-- A line as a buffered line reader gives it: without its line feed, and without a carriage
return just before the line feed. -/
def readerLine (raw : String) : String :=
  if raw.endsWith "\n" then
    let l := (raw.dropEnd 1).toString
    if l.endsWith "\r" then (l.dropEnd 1).toString else l
  else raw

/-- The state of a running shell. -/
structure Shell where
  live : Live
  out : Export.Sink
  history : List String

variable {m : Type → Type} [Monad m]

/-- Writes text to the shell's output, ignoring failures. -/
def Shell.say (h : Host m) (sh : Shell) (text : String) : m Shell := do
  match ← sh.out.write h text with
  | .ok out => return { sh with out := out }
  | .error _ => return sh

/-- Runs the statements of a line. -/
def Shell.runStatements (h : Host m) (sh : Shell) (text : String) (explain validate : Bool) :
    m Shell := do
  let statements := Query.splitStatements text
  if statements.isEmpty then return ← sh.say h "ERROR: empty statement\n"
  statements.foldlM (fun (acc : Shell × Bool) stmt => do
    let (sh, stopped) := acc
    if stopped then return acc
    let (_, w, out) ← sh.live.search h sh.out stmt explain validate
    match w with
    | .ok () => return ({ sh with out := out }, false)
    | .error e => do
      h.warn ("failed to write output: " ++ e)
      return ({ sh with out := out }, true)) (sh, false) <&> (·.1)

/-- The `debug` command. -/
def Shell.debugCommand (h : Host m) (sh : Shell) (arg : String) : m Shell := do
  let s := sh.live.session
  let word := Text.lower arg
  if word = "on" then
    let sh := { sh with live := { sh.live with session := s.setDebug true } }
    sh.say h ("debug " ++ (if sh.live.session.debug then "on" else "off") ++ "\n")
  else if word = "off" then
    let sh := { sh with live := { sh.live with session := s.setDebug false } }
    let sh ← if sh.live.session.debug then sh.say h "debug stays on while not connected\n"
      else pure sh
    sh.say h ("debug " ++ (if sh.live.session.debug then "on" else "off") ++ "\n")
  else if word = "" then
    sh.say h ("debug " ++ (if s.debug then "on" else "off") ++ "\n")
  else sh.say h "usage: debug [on|off]\n"

/-- Runs one line; true when the shell should end. -/
def Shell.execute (h : Host m) (sh : Shell) (input : String) : m (Shell × Bool) := do
  let (word, rest) := splitWord input
  let w := Text.lower word
  if w = "exit" ∨ w = "quit" ∨ w = "\\q" then return (sh, true)
  else if w = "help" ∨ w = "\\h" ∨ w = "?" then
    return (← sh.say h (String.ofList (shellLong.toList.dropWhile (· = '\n'))), false)
  else if w = "keywords" then
    let (ks, live) ← sh.live.keywords h
    let sh := { sh with live := live }
    return (← ks.foldlM (fun sh k => sh.say h (k ++ "\n")) sh, false)
  else if w = "reload" then
    let sh := { sh with live := { sh.live with session := sh.live.session.reload } }
    let (ks, live) ← sh.live.keywords h
    return (← { sh with live := live }.say h (toString ks.length ++ " keywords\n"), false)
  else if w = "debug" then return (← sh.debugCommand h rest, false)
  else if w = "explain" then return (← sh.runStatements h rest true false, false)
  else if w = "validate" then return (← sh.runStatements h rest false true, false)
  else return (← sh.runStatements h input false false, false)

/-- Reads and runs lines until the end of input, `exit`, or `fuel` lines. -/
def Shell.loop (h : Host m) : Nat → Shell → m Shell
  | 0, sh => return sh
  | fuel + 1, sh => do
    h.prompt promptText
    match ← h.readLine with
    | none => sh.say h "\n"
    | some raw =>
      let input := Text.trimBlank (readerLine raw)
      if input.isEmpty then Shell.loop h fuel sh
      else
        let sh := { sh with history := appendHistory sh.history input }
        let (sh, done) ← sh.execute h input
        if done then return sh else Shell.loop h fuel sh

/-- Runs the shell on an open session writing to the command's output, with the history file
at `path`. -/
def runShell (h : Host m) (live : Live) (path : String) : m Unit := do
  let out : Export.Sink := ⟨.output, "", false⟩
  let sh : Shell := ⟨live, out, []⟩
  let sh ← if !live.session.connected then
      sh.say h "not connected: statements are echoed but not sent\n"
    else pure sh
  let history ← match ← h.readFile path with
    | .ok text => pure (readHistory text)
    | .error _ => pure []
  let sh ← Shell.loop h 1000000 { sh with history := history }
  match ← h.createFile path with
  | .error e => h.warn ("failed to save history: " ++ e.message)
  | .ok () =>
    match ← h.appendFile path (writeHistory sh.history) with
    | .error e => h.warn ("failed to save history: " ++ e.message)
    | .ok () => pure ()

end SqlSearch.Shell
