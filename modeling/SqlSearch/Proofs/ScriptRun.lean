import SqlSearch.Command.Run
/-! Script runs. A run searches the statements of its scripts one after another on an open
sink, then closes the sink. The searches and the close are seen through the events they record
on some state (`Scripted`): a search records its statement and ends as a given outcome of its
turn says, whether it failed and whether its lines were written; a close records itself.

For every such search and close, and every outcome of every turn, the run searches the
statements in order, script after script, up to the first turn whose lines are not written or,
when it stops on errors, that fails (`RunsFor`), and closes the sink once after them. It ends
with the first failure to write, else with the count of failed and of run statements when one
of them failed (`runOnSink_script`). -/
namespace SqlSearch.Command

open SqlSearch.Response

/-- What a script run does that can be seen: a statement searched, the sink closed. -/
inductive RunEvent where
  | search (stmt : String)
  | close
  deriving DecidableEq, Repr

variable {σ : Type}

/-- A search and a close on some state, seen through the events the state records. A search
records its statement and ends as `outcome` says for its turn, the number of events before it; a
close records itself and ends as `closed` says. -/
structure Scripted (events : σ → List RunEvent) (outcome : Nat → Status × Except String Unit)
    (closed : Except String Unit)
    (search : Export.Sink → String → StateM σ (Status × Except String Unit × Export.Sink))
    (close : Export.Sink → StateM σ (Except String Unit × Export.Sink)) : Prop where
  search : ∀ sink stmt s, ((search sink stmt).run s).1.1 = (outcome (events s).length).1 ∧
    ((search sink stmt).run s).1.2.1 = (outcome (events s).length).2 ∧
    events ((search sink stmt).run s).2 = events s ++ [.search stmt]
  close : ∀ sink s, ((close sink).run s).1.1 = closed ∧
    events ((close sink).run s).2 = events s ++ [.close]

variable {search : Export.Sink → String → StateM σ (Status × Except String Unit × Export.Sink)}
  {close : Export.Sink → StateM σ (Except String Unit × Export.Sink)}

section Turn
variable {stopOnError : Bool} {stmt : String} {rest : List String} {failed total : Nat}
  {sink sink' : Export.Sink} {s s' : σ} {status : Status}

/-- A statement whose lines were not written ends the run. -/
theorem runStatements_cons_unwritten {e : String}
    (hr : (search sink stmt).run s = ((status, .error e, sink'), s')) :
    (runStatements search stopOnError (stmt :: rest) failed total sink).run s =
      ((failed, total + 1, some e, sink'), s') := by
  simp only [runStatements, StateT.run_bind, hr]
  rfl

/-- A failed statement ends the run when it stops on errors. -/
theorem runStatements_cons_stop (hr : (search sink stmt).run s = ((status, .ok (), sink'), s'))
    (hf : status.failed = true) :
    (runStatements search true (stmt :: rest) failed total sink).run s =
      ((failed + 1, total + 1, none, sink'), s') := by
  simp only [runStatements, StateT.run_bind, hr]
  change StateT.run (if status.failed = true then _ else _) s' = _
  rw [if_pos hf]
  rfl

/-- Any other statement is counted and the run goes on. -/
theorem runStatements_cons_next (hr : (search sink stmt).run s = ((status, .ok (), sink'), s'))
    (hgo : ¬(stopOnError = true ∧ status.failed = true)) :
    (runStatements search stopOnError (stmt :: rest) failed total sink).run s =
      (runStatements search stopOnError rest (failed + if status.failed then 1 else 0) (total + 1)
        sink').run s' := by
  simp only [runStatements, StateT.run_bind, hr]
  change StateT.run (if status.failed = true then _ else _) s' = _
  by_cases hf : status.failed = true
  · have hs : stopOnError = false := by simpa [hf] using hgo
    simp [hf, hs]
  · simp [hf]

end Turn

/-- Whether the statement of turn `i` ends the run: its lines were not written, or it failed and
the run stops on errors. -/
def EndsRun (stopOnError : Bool) (o : Nat → Status × Except String Unit) (i : Nat) : Prop :=
  (∃ e, (o i).2 = .error e) ∨ (stopOnError = true ∧ (o i).1.failed = true)

/-- A run of `n` statements whose turns end as `o` says executes the first `k`: no turn before
the last ends the run, and the run stops after turn `k - 1` because that turn ends it or because
no statement is left. -/
def RunsFor (stopOnError : Bool) (o : Nat → Status × Except String Unit) (n k : Nat) : Prop :=
  k ≤ n ∧ (∀ i, i + 1 < k → ¬EndsRun stopOnError o i) ∧
    (k = n ∨ 0 < k ∧ EndsRun stopOnError o (k - 1))

section Runs
variable {stopOnError : Bool} {o o' : Nat → Status × Except String Unit} {n k : Nat}

theorem RunsFor.nil : RunsFor stopOnError o 0 0 :=
  ⟨Nat.le_refl 0, fun _ h => absurd h (Nat.not_lt_zero _), .inl rfl⟩

/-- A first turn that ends the run is the only one executed. -/
theorem RunsFor.first (h : EndsRun stopOnError o 0) : RunsFor stopOnError o (n + 1) 1 :=
  ⟨by omega, fun i hi => absurd hi (by omega), .inr ⟨Nat.one_pos, h⟩⟩

theorem EndsRun.shift (ho : ∀ i, o' i = o (i + 1)) (i : Nat) :
    EndsRun stopOnError o' i ↔ EndsRun stopOnError o (i + 1) := by
  simp only [EndsRun, ho]

/-- A first turn that does not end the run is followed by the run of the others. -/
theorem RunsFor.succ (h0 : ¬EndsRun stopOnError o 0) (ho : ∀ i, o' i = o (i + 1))
    (h : RunsFor stopOnError o' n k) : RunsFor stopOnError o (n + 1) (k + 1) := by
  obtain ⟨hle, hbefore, hlast⟩ := h
  refine ⟨by omega, fun i hi => ?_, ?_⟩
  · cases i with
    | zero => exact h0
    | succ j =>
      rw [← EndsRun.shift ho]
      exact hbefore j (by omega)
  · rcases hlast with rfl | ⟨hk, hend⟩
    · exact .inl rfl
    · refine .inr ⟨Nat.succ_pos _, ?_⟩
      rw [show k + 1 - 1 = (k - 1) + 1 by omega, ← EndsRun.shift ho]
      exact hend

end Runs

section Run
variable {events : σ → List RunEvent} {outcome : Nat → Status × Except String Unit}
  {closed : Except String Unit}

/-- A run of statements, on a state whose events number `off`, executes the statements of the
turns `RunsFor` gives, each searched once and in order; it counts the executed statements and
those whose lines were written and that failed, and gives the failure to write of the last turn. -/
theorem runStatements_run (hs : Scripted events outcome closed search close) (stopOnError : Bool) :
    ∀ (stmts : List String) (failed total : Nat) (sink : Export.Sink) (s : σ) (off : Nat),
    (events s).length = off →
    ∃ k, RunsFor stopOnError (fun i => outcome (off + i)) stmts.length k ∧
      events ((runStatements search stopOnError stmts failed total sink).run s).2 =
        events s ++ (stmts.take k).map .search ∧
      ((runStatements search stopOnError stmts failed total sink).run s).1.1 =
        failed + (List.range k).countP
          (fun i => (outcome (off + i)).2.isOk && (outcome (off + i)).1.failed) ∧
      ((runStatements search stopOnError stmts failed total sink).run s).1.2.1 = total + k ∧
      ∀ e, ((runStatements search stopOnError stmts failed total sink).run s).1.2.2.1 = some e ↔
        0 < k ∧ (outcome (off + (k - 1))).2 = .error e
  | [], failed, total, sink, s, off, _ =>
    ⟨0, RunsFor.nil, (List.append_nil _).symm, rfl, rfl, fun e => by simp [runStatements]⟩
  | stmt :: rest, failed, total, sink, s, off, hoff => by
    obtain ⟨hstatus, hwritten, hevents⟩ := hs.search sink stmt s
    rw [hoff] at hstatus hwritten
    have hr : (search sink stmt).run s = ((((search sink stmt).run s).1.1,
        ((search sink stmt).run s).1.2.1, ((search sink stmt).run s).1.2.2),
        ((search sink stmt).run s).2) := rfl
    generalize ((search sink stmt).run s).1.1 = status at hr hstatus
    generalize ((search sink stmt).run s).1.2.2 = sink' at hr
    generalize ((search sink stmt).run s).2 = s' at hr hevents
    generalize ((search sink stmt).run s).1.2.1 = written at hr hwritten
    cases written with
    | error e =>
      -- the lines were not written: the run ends after this one statement
      rw [runStatements_cons_unwritten hr]
      refine ⟨1, RunsFor.first (.inl ⟨e, by simpa using hwritten.symm⟩), ?_, ?_, rfl, ?_⟩
      · simp [hevents]
      · simp [← hwritten, Except.isOk, Except.toBool]
      · intro e'
        simp [← hwritten]
    | ok u =>
      cases u
      by_cases hstop : stopOnError = true ∧ status.failed = true
      · obtain ⟨rfl, hf⟩ := hstop
        rw [runStatements_cons_stop hr hf]
        refine ⟨1, RunsFor.first (.inr ⟨rfl, by simpa [← hstatus] using hf⟩), ?_, ?_, rfl, ?_⟩
        · simp [hevents]
        · simp [← hwritten, ← hstatus, hf, Except.isOk, Except.toBool]
        · intro e'
          simp [← hwritten]
      · rw [runStatements_cons_next hr hstop]
        obtain ⟨k, hruns, hev, hfailed, htotal, hwerr⟩ := runStatements_run hs stopOnError rest
          (failed + if status.failed then 1 else 0) (total + 1) sink' s' (off + 1)
          (by simp [hevents, hoff])
        have hshift : ∀ i, outcome (off + 1 + i) = outcome (off + (i + 1)) :=
          fun i => congrArg outcome (by omega)
        have h0 : ¬EndsRun stopOnError (fun i => outcome (off + i)) 0 := by
          rintro (⟨e, he⟩ | ⟨hs', hf⟩)
          · simp [← hwritten] at he
          · exact hstop ⟨hs', by simpa [hstatus] using hf⟩
        refine ⟨k + 1, RunsFor.succ h0 hshift hruns, ?_, ?_, ?_, fun e => ?_⟩
        · simp [hev, hevents]
        · rw [hfailed, List.range_succ_eq_map, List.countP_cons, List.countP_map]
          simp only [Function.comp_def, Nat.succ_eq_add_one, Nat.add_zero, ← hwritten, ← hstatus,
            hshift]
          cases status.failed <;> simp [Except.isOk, Except.toBool] <;> omega
        · rw [htotal]
          omega
        · rw [hwerr]
          cases k with
          | zero => simp [← hwritten]
          | succ j => simp [hshift]

theorem runOnSink_run (stopOnError : Bool) (scripts : List Scripts.Script) (sink : Export.Sink)
    (s : σ) :
    (runOnSink search close stopOnError scripts sink).run s =
      let r := (runStatements search stopOnError
        (scripts.flatMap fun sc => Query.splitStatements sc.content) 0 0 sink).run s
      let c := (close r.1.2.2.2).run r.2
      (scriptAnswer r.1.1 r.1.2.1 r.1.2.2.1 c.1.1, c.2) := rfl

/-- Every statement of the scripts, script after script and statement after statement, is
searched once, up to the first whose lines are not written or, when the run stops on errors,
that fails; then the sink is closed, once. A failure to write ends the run with it, the
statements' before the close's; otherwise the run fails, with the count of failed and of run
statements, exactly when a statement it ran failed. -/
theorem runOnSink_script (hs : Scripted events outcome closed search close) (stopOnError : Bool)
    (scripts : List Scripts.Script) (sink : Export.Sink) {s : σ} (hfresh : events s = []) :
    ∃ k, RunsFor stopOnError outcome
        (scripts.flatMap fun sc => Query.splitStatements sc.content).length k ∧
      events ((runOnSink search close stopOnError scripts sink).run s).2 =
        ((scripts.flatMap fun sc => Query.splitStatements sc.content).take k).map .search ++
          [.close] ∧
      (∀ e, 0 < k → (outcome (k - 1)).2 = .error e →
        ((runOnSink search close stopOnError scripts sink).run s).1 =
          .error ("failed to write output: " ++ e)) ∧
      ((∀ i < k, (outcome i).2 = .ok ()) →
        ((runOnSink search close stopOnError scripts sink).run s).1 =
          match closed with
          | .error e => .error ("failed to write output: " ++ e)
          | .ok () =>
            if (List.range k).countP (fun i => (outcome i).1.failed) > 0 then
              .error (toString ((List.range k).countP fun i => (outcome i).1.failed) ++ " of " ++
                toString k ++ " statements failed")
            else .ok ()) := by
  obtain ⟨k, hruns, hev, hfailed, htotal, hwerr⟩ := runStatements_run hs stopOnError
    (scripts.flatMap fun sc => Query.splitStatements sc.content) 0 0 sink s 0 (by simp [hfresh])
  simp only [Nat.zero_add] at hruns hfailed hwerr
  rw [runOnSink_run]
  dsimp only
  generalize (runStatements search stopOnError
    (scripts.flatMap fun sc => Query.splitStatements sc.content) 0 0 sink).run s = r at hev hfailed htotal hwerr
  obtain ⟨hclosed, hcev⟩ := hs.close r.1.2.2.2 r.2
  refine ⟨k, hruns, by simp [hcev, hev, hfresh], fun e hk he => ?_, fun hok => ?_⟩
  · rw [(hwerr e).2 ⟨hk, he⟩]
    rfl
  · have hnone : r.1.2.2.1 = none := by
      cases hw : r.1.2.2.1 with
      | none => rfl
      | some e =>
        obtain ⟨hk, he⟩ := (hwerr e).1 hw
        simp [hok (k - 1) (by omega)] at he
    have hcount : r.1.1 = (List.range k).countP (fun i => (outcome i).1.failed) := by
      rw [hfailed]
      apply List.countP_congr
      intro i hi
      simp [hok i (List.mem_range.1 hi), Except.isOk, Except.toBool]
    simp only [hnone, hcount, htotal, hclosed, Nat.zero_add]
    cases closed <;> rfl
end Run

/-- A search that records its statement and ends as `outcome` says for its turn. -/
def loggedSearch (outcome : Nat → Status × Except String Unit) (sink : Export.Sink)
    (stmt : String) : StateM (List RunEvent) (Status × Except String Unit × Export.Sink) :=
  fun log => (((outcome log.length).1, (outcome log.length).2, sink), log ++ [.search stmt])

/-- A close that records itself and ends as `closed` says. -/
def loggedClose (closed : Except String Unit) (sink : Export.Sink) :
    StateM (List RunEvent) (Except String Unit × Export.Sink) :=
  fun log => ((closed, sink), log ++ [.close])

theorem logged_scripted (outcome : Nat → Status × Except String Unit) (closed : Except String Unit) :
    Scripted id outcome closed (loggedSearch outcome) (loggedClose closed) :=
  ⟨fun _ _ _ => ⟨rfl, rfl, rfl⟩, fun _ _ => ⟨rfl, rfl⟩⟩

/-- Two scripts of three statements, stopping on errors, where the second statement fails. -/
theorem runOnSink_script_second_fails :
    Scripted id (fun i => (if i = 1 then .engineError else .rows, .ok ())) (.ok ())
        (loggedSearch fun i => (if i = 1 then .engineError else .rows, .ok ()))
        (loggedClose (.ok ())) ∧
      id ([] : List RunEvent) = [] ∧
      ∃ k, RunsFor true (fun i => (if i = 1 then .engineError else .rows, .ok ()))
          ([⟨"a.sql", "select * from a; select * from b"⟩, ⟨"b.sql", "select * from c"⟩].flatMap
            fun (sc : Scripts.Script) => Query.splitStatements sc.content).length k ∧
        ((runOnSink (loggedSearch fun i => (if i = 1 then .engineError else .rows, .ok ()))
            (loggedClose (.ok ())) true
            [⟨"a.sql", "select * from a; select * from b"⟩, ⟨"b.sql", "select * from c"⟩]
            ⟨.output, "", false⟩).run []).2 =
          (([⟨"a.sql", "select * from a; select * from b"⟩, ⟨"b.sql", "select * from c"⟩].flatMap
            fun (sc : Scripts.Script) => Query.splitStatements sc.content).take k).map .search ++
            [.close] ∧
        (∀ e, 0 < k → (Except.ok () : Except String Unit) = .error e →
          ((runOnSink (loggedSearch fun i => (if i = 1 then .engineError else .rows, .ok ()))
            (loggedClose (.ok ())) true
            [⟨"a.sql", "select * from a; select * from b"⟩, ⟨"b.sql", "select * from c"⟩]
            ⟨.output, "", false⟩).run []).1 = .error ("failed to write output: " ++ e)) ∧
        ((∀ i < k, (Except.ok () : Except String Unit) = .ok ()) →
          ((runOnSink (loggedSearch fun i => (if i = 1 then .engineError else .rows, .ok ()))
            (loggedClose (.ok ())) true
            [⟨"a.sql", "select * from a; select * from b"⟩, ⟨"b.sql", "select * from c"⟩]
            ⟨.output, "", false⟩).run []).1 =
            if (List.range k).countP (fun i => (if i = 1 then Status.engineError else .rows).failed) > 0
            then .error (toString ((List.range k).countP fun i =>
                (if i = 1 then Status.engineError else .rows).failed) ++
              " of " ++ toString k ++ " statements failed")
            else .ok ()) :=
  ⟨logged_scripted _ _, rfl, runOnSink_script (logged_scripted _ _) true _ _ rfl⟩

end SqlSearch.Command
