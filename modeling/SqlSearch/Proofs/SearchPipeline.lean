import SqlSearch.Proofs.ConditionReading
import SqlSearch.Session
/-! What a search writes. A search runs the statement through the parser, the translator and
the engine, and stops at the first step that fails. `Searched` lays out its five ways to end:
the statement does not read; it reads but does not translate; there is no link, so nothing is
sent; the engine cannot be reached; the engine answers and the answer is rendered. Each says
exactly what is written, how the search ends and which request is sent, so that a search sends
at most one request, and one exactly when the statement reads and translates and the session
has a link (`search_sent_iff`).

Sessions without a link echo locally: their debug flag is on when they are created or opened,
and stays on whatever the echo is set to (`Session.Opened.local_debug`), so such a session
echoes every request it would send.

Main statement: `search_pipeline`. -/
namespace SqlSearch

open SqlSearch.Query SqlSearch.Response

/-- The request as it is sent: when debugging, a request without parameters asks for
`pretty=true`. -/
def Session.outgoing (s : Session) (req : Request) : Request :=
  { req with params := if s.debug && req.params.isNone then some [("pretty", "true")] else req.params }

/-- The ways a search ends, with the lines it writes, its status and the request it sends. -/
inductive Searched (s : Session) (text : String) (explain validate : Bool)
    (reply : Except String String) : SearchRun → Prop
  /-- The statement does not read: its caret lines, a blank line and the message. -/
  | parseError {e : ParseError} : parse text = .error e →
      Searched s text explain validate reply
        ⟨e.caret ++ ["", "ERROR: " ++ e.message], .parseError, none⟩
  /-- It reads but does not translate: one line with the reason. -/
  | translateError {q : Statement} {e : TranslateError} : parse text = .ok q →
      translate q explain validate = .error e →
      Searched s text explain validate reply ⟨["ERROR: " ++ e.message], .translateError, none⟩
  /-- There is no link: the request echo when debugging, and nothing is sent. -/
  | notSent {q : Statement} {req : Request} : parse text = .ok q →
      translate q explain validate = .ok req → s.link = none →
      Searched s text explain validate reply
        ⟨if s.debug then requestEcho req else [], .notSent, none⟩
  /-- The request is sent and the engine cannot be reached: the echo, then the failure. -/
  | transportError {q : Statement} {req : Request} {l : Link} {e : String} : parse text = .ok q →
      translate q explain validate = .ok req → s.link = some l → reply = .error e →
      Searched s text explain validate reply
        ⟨(if s.debug then requestEcho req else []) ++ (transportFailure l.url (some e)).lines,
          .transportError, some (s.outgoing req)⟩
  /-- The request is sent and answered: the echoes when debugging, then the rendered answer. -/
  | rendered {q : Statement} {req : Request} {l : Link} {raw : String} : parse text = .ok q →
      translate q explain validate = .ok req → s.link = some l → reply = .ok raw →
      Searched s text explain validate reply
        ⟨(if s.debug then requestEcho req else []) ++ (if s.debug then responseEcho raw else []) ++
            (render raw (q.projection.getD []) q.facets).lines,
          (render raw (q.projection.getD []) q.facets).status, some (s.outgoing req)⟩

namespace Session

variable {s : Session} {text : String} {explain validate : Bool} {reply : Except String String}

/-! ### The steps of a search -/

theorem prepare_of_parse_error {e : ParseError} (h : parse text = .error e) :
    s.prepare text explain validate =
      .error ⟨e.caret ++ ["", "ERROR: " ++ e.message], .parseError, none⟩ := by
  simp [prepare, h]

theorem prepare_of_translate_error {q : Statement} {e : TranslateError} (hp : parse text = .ok q)
    (ht : translate q explain validate = .error e) :
    s.prepare text explain validate = .error ⟨["ERROR: " ++ e.message], .translateError, none⟩ := by
  simp [prepare, hp, ht]

/-- A statement that reads and translates is ready, with the request echo when debugging. -/
theorem prepare_of_translate_ok {q : Statement} {req : Request} (hp : parse text = .ok q)
    (ht : translate q explain validate = .ok req) :
    s.prepare text explain validate =
      .ok ⟨q, req, s.outgoing req, if s.debug then requestEcho req else []⟩ := by
  simp [prepare, hp, ht, outgoing]

/-! ### The ways a search ends -/

/-- A search ends in one of the ways `Searched` lays out. -/
theorem searched_search :
    Searched s text explain validate reply (s.search text explain validate reply) := by
  cases hp : parse text with
  | error e =>
    rw [search, prepare_of_parse_error hp]
    exact .parseError hp
  | ok q =>
    cases ht : translate q explain validate with
    | error e =>
      rw [search, prepare_of_translate_error hp ht]
      exact .translateError hp ht
    | ok req =>
      rw [search, prepare_of_translate_ok hp ht]
      -- past translation the link and then the reply decide
      cases hl : s.link with
      | none => simpa [hl] using Searched.notSent hp ht hl
      | some l =>
        cases reply with
        | error e =>
          simpa [hl, answer, url, transportFailure] using Searched.transportError hp ht hl rfl
        | ok raw => simpa [hl, answer, List.append_assoc] using Searched.rendered hp ht hl rfl

/-- A search ends in only one way: what `Searched` allows is what the search gives. -/
theorem Searched.eq_search {run : SearchRun} (h : Searched s text explain validate reply run) :
    s.search text explain validate reply = run := by
  cases h with
  | parseError hp => rw [search, prepare_of_parse_error hp]
  | translateError hp ht => rw [search, prepare_of_translate_error hp ht]
  | notSent hp ht hl => simp [search, prepare_of_translate_ok hp ht, hl]
  | transportError hp ht hl hr =>
    simp [search, prepare_of_translate_ok hp ht, hl, hr, answer, url, transportFailure]
  | rendered hp ht hl hr =>
    simp [search, prepare_of_translate_ok hp ht, hl, hr, answer, List.append_assoc]

/-- A search sends a request exactly when the statement reads and translates and the session
has a link. -/
theorem search_sent_iff :
    (s.search text explain validate reply).sent.isSome ↔
      s.link.isSome ∧ ∃ q req, parse text = .ok q ∧ translate q explain validate = .ok req := by
  -- read off the way the search ended
  have h := @searched_search s text explain validate reply
  generalize s.search text explain validate reply = run at h ⊢
  cases h with
  | parseError hp => simp [hp]
  | translateError hp ht => simp [hp, ht]
  | notSent hp ht hl => simp [hl]
  | transportError hp ht hl => simp [hl, hp, ht]
  | rendered hp ht hl => simp [hl, hp, ht]

end Session

/-! ### Local echo -/

/-- A session is created, and opened, with debug on exactly when it has no link. -/
theorem Session.start_debug (link : Option Link) (health : Option (Except String Unit)) :
    (Session.start link health).1.debug = (Session.start link health).1.link.isNone := by
  simp only [Session.start]
  split <;> split <;> rfl

/-- The sessions a program holds: one just created or opened, then changed by turning the echo
on or off, reading the keywords, or forgetting the mapping. A search leaves its session as it
is. -/
inductive Session.Opened : Session → Prop
  | create (link : Option Link) : Opened (create link)
  | start (link : Option Link) (health : Option (Except String Unit)) : Opened (start link health).1
  | setDebug {s : Session} (on : Bool) : Opened s → Opened (s.setDebug on)
  | keywords {s : Session} : Opened s → Opened s.keywords.2
  | reload {s : Session} : Opened s → Opened s.reload

/-- A session without a link echoes: its debug flag is on, from creation or opening, whatever
the echo is set to afterwards. -/
theorem Session.Opened.local_debug {s : Session} (h : s.Opened) : s.link = none → s.debug = true := by
  -- by induction over how the session was reached; only turning the echo off could break it
  induction h with
  | create link =>
    intro hl
    rw [show (Session.create link).debug = (Session.create link).link.isNone from rfl, hl]
    rfl
  | start link health =>
    intro hl
    rw [Session.start_debug, hl]
    rfl
  | setDebug on _ ih =>
    intro hl
    simp [Session.setDebug] at hl ⊢
    exact Or.inr hl
  | keywords _ ih => exact ih
  | reload _ ih => exact ih

/-- A search runs the statement through the parser, the translator and the engine and writes
exactly what the step where it stopped gives: the ways it may end are exactly those of
`Searched`, it sends a request exactly when the statement reads and translates and the session
has a link, and a session without a link echoes the request it would send. -/
theorem search_pipeline (s : Session) (text : String) (explain validate : Bool)
    (reply : Except String String) :
    (∀ run, Searched s text explain validate reply run ↔
      s.search text explain validate reply = run) ∧
    ((s.search text explain validate reply).sent.isSome ↔
      s.link.isSome ∧ ∃ q req, parse text = .ok q ∧ translate q explain validate = .ok req) ∧
    (s.Opened → s.link = none → s.debug = true) := by
  refine ⟨fun run => ⟨Session.Searched.eq_search, ?_⟩, Session.search_sent_iff,
    Session.Opened.local_debug⟩
  rintro rfl
  exact Session.searched_search

/-- A session created without a link echoes the request of a statement and sends nothing. -/
theorem search_local_echo :
    ∃ req, (Session.create none).search "SELECT * FROM logs" false false (.ok "\x7b\x7d") =
      ⟨requestEcho req, .notSent, none⟩ := by
  have hp : (parse "SELECT * FROM logs").toOption =
      some { index := "logs", fields := [allFields] } := by
    decide +kernel
  obtain ⟨req, ht⟩ : ∃ req, translate { index := "logs", fields := [allFields] } false false = .ok req :=
    ⟨_, rfl⟩
  obtain ⟨hsearch, -, hdebug⟩ :=
    search_pipeline (Session.create none) "SELECT * FROM logs" false false (.ok "\x7b\x7d")
  have hd : (Session.create none).debug = true := hdebug (.create none) rfl
  have h : Searched (Session.create none) "SELECT * FROM logs" false false (.ok "\x7b\x7d") _ :=
    .notSent (eq_ok_of_toOption hp) ht rfl
  rw [if_pos hd] at h
  exact ⟨req, (hsearch _).1 h⟩

end SqlSearch
