import SqlSearch.Engine.Client
/-! The retry loop of the engine client, run on a script of outcomes. The loop sees an operation
through the outcome of each run and the waits it makes between runs; `Scripted` says that an
operation and a wait on some state give the outcome of the run's number, count the run and
record the wait. On any such script the loop stops at the first run, within the runs allowed,
whose outcome is not a retryable failure, and gives that outcome as it is
(`retryFrom_stops`); when every allowed run fails retryably it makes them all and wraps the last
failure (`retryFrom_exhausts`). Before each run but the first it waits that attempt's backoff.

For a GET, a run is one request: it is retried exactly when the engine answered 429 or from 500
up, or could not be reached for a reason the connection classifier retries
(`asksRetry_attemptOutcome`). -/
namespace SqlSearch.Engine

open SqlSearch.Host

variable {α σ : Type}

/-- Whether an outcome asks for another attempt: a failure that the loop retries. -/
def asksRetry : Option CallError → Bool
  | some e => e.retryable
  | none => false

theorem asksRetry_eq_true {err : Option CallError} :
    asksRetry err = true ↔ ∃ e, err = some e ∧ e.retryable = true := by
  cases err <;> simp [asksRetry]

/-- The waits made before attempts `attempt` to `attempt + k`: each attempt but the very first
waits its backoff. -/
def Settings.waitsFrom (s : Settings) (attempt k : Nat) : List Int :=
  ((List.range' attempt (k + 1)).filter (0 < ·)).map s.backoff

theorem Settings.waitsFrom_zero (s : Settings) (attempt : Nat) :
    s.waitsFrom attempt 0 = if 0 < attempt then [s.backoff attempt] else [] := by
  by_cases ha : 0 < attempt <;> simp [Settings.waitsFrom, ha]

theorem Settings.waitsFrom_succ (s : Settings) (attempt k : Nat) :
    s.waitsFrom attempt (k + 1) =
      (if 0 < attempt then [s.backoff attempt] else []) ++ s.waitsFrom (attempt + 1) k := by
  by_cases ha : 0 < attempt <;> simp [Settings.waitsFrom, List.range'_succ, ha]

/-- From the first attempt, the waits are the backoffs of attempts `1` to `k`. -/
theorem Settings.waitsFrom_start (s : Settings) (k : Nat) :
    s.waitsFrom 0 k = (List.range' 1 k).map s.backoff := by
  have hpos : ((List.range' 1 k).filter (0 < ·)) = List.range' 1 k :=
    List.filter_eq_self.2 fun a ha => by simp at ha ⊢; omega
  simp [Settings.waitsFrom, List.range'_succ, hpos]

/-- An operation and a wait on a state, seen through two views: the number of runs made and the
waits made. A run gives the outcome of its number, counts itself and waits nothing; a wait is
recorded and counts no run. -/
structure Scripted (count : σ → Nat) (waits : σ → List Int) (outcome : Nat → α × Option CallError)
    (op : StateM σ (α × Option CallError)) (wait : Int → StateM σ Unit) : Prop where
  run : ∀ s, (op.run s).1 = outcome (count s) ∧ count (op.run s).2 = count s + 1 ∧
    waits (op.run s).2 = waits s
  wait : ∀ d s, count ((wait d).run s).2 = count s ∧ waits ((wait d).run s).2 = waits s ++ [d]

variable (c : Client) (name : String) {op : StateM σ (α × Option CallError)}
  {wait : Int → StateM σ Unit}

/-- One attempt of the loop: the wait before it unless it is the first, then the run, whose
outcome ends the loop or starts the next attempt. -/
theorem retryFrom_run (attempt left : Nat) (s : σ) :
    (c.retryFrom wait name op attempt left).run s =
      let s₁ := if 0 < attempt then ((wait (c.settings.backoff attempt)).run s).2 else s
      let r := op.run s₁
      match r.1.2 with
      | none => ((r.1.1, none), r.2)
      | some e =>
        if !e.retryable then ((r.1.1, some e), r.2)
        else match left with
          | 0 => ((r.1.1, some (e.afterAttempts name (c.settings.maxRetries + 1))), r.2)
          | l + 1 => (c.retryFrom wait name op (attempt + 1) l).run r.2 := by
  rw [Client.retryFrom]
  by_cases ha : 0 < attempt <;>
  · simp only [ha, if_true, if_false, StateT.run_bind]
    dsimp only [bind]
    generalize StateT.run op _ = r
    rcases r with ⟨⟨a, _ | e⟩, s₂⟩
    · rfl
    · dsimp only
      cases left <;> cases e.retryable <;> rfl

section Script

variable {count : σ → Nat} {waits : σ → List Int} {outcome : Nat → α × Option CallError}

/-- What one attempt of a scripted loop sees: after the wait, if any, the run's outcome is that
of its number, and the state has counted the run and recorded the wait. -/
theorem Scripted.attempt (hs : Scripted count waits outcome op wait) (attempt : Nat) (s : σ) :
    let s₁ := if 0 < attempt then ((wait (c.settings.backoff attempt)).run s).2 else s
    (op.run s₁).1 = outcome (count s) ∧ count (op.run s₁).2 = count s + 1 ∧
      waits (op.run s₁).2 = waits s ++ c.settings.waitsFrom attempt 0 := by
  intro s₁
  obtain ⟨hout, hcount, hwaits⟩ := hs.run s₁
  have hc₁ : count s₁ = count s := by
    by_cases ha : 0 < attempt
    · simp only [s₁, ha, if_true]; exact (hs.wait _ s).1
    · simp only [s₁, ha, if_false]
  have hw₁ : waits s₁ = waits s ++ c.settings.waitsFrom attempt 0 := by
    by_cases ha : 0 < attempt
    · simp only [s₁, ha, if_true, Settings.waitsFrom_zero]; exact (hs.wait _ s).2
    · simp [s₁, ha, Settings.waitsFrom_zero]
  exact ⟨hc₁ ▸ hout, hc₁ ▸ hcount, hwaits.trans hw₁⟩

/-- After a run that fails retryably, with attempts left, the loop goes on from the state after
the run, which has counted it and recorded the wait before it. -/
theorem retryFrom_retried (hs : Scripted count waits outcome op wait) {attempt l : Nat} {s : σ}
    {e : CallError} (ho : (outcome (count s)).2 = some e) (hr : e.retryable = true) :
    ∃ s₂, (c.retryFrom wait name op attempt (l + 1)).run s =
        (c.retryFrom wait name op (attempt + 1) l).run s₂ ∧
      count s₂ = count s + 1 ∧ waits s₂ = waits s ++ c.settings.waitsFrom attempt 0 := by
  obtain ⟨hout, hcount, hwaits⟩ := hs.attempt c attempt s
  refine ⟨_, ?_, hcount, hwaits⟩
  rw [retryFrom_run]
  simp only [hout, ho, hr, Bool.not_true, Bool.false_eq_true, if_false]

/-- The loop stops at the first outcome, among the attempts left, that is not a retryable
failure, and gives it as it is; the runs are counted and the waits recorded up to it. -/
theorem retryFrom_stops (hs : Scripted count waits outcome op wait) (k : Nat) :
    ∀ attempt left (s : σ), k ≤ left → (∀ j < k, asksRetry (outcome (count s + j)).2) →
      asksRetry (outcome (count s + k)).2 = false →
      let r := (c.retryFrom wait name op attempt left).run s
      r.1 = outcome (count s + k) ∧ count r.2 = count s + k + 1 ∧
        waits r.2 = waits s ++ c.settings.waitsFrom attempt k := by
  induction k with
  | zero =>
    intro attempt left s _ _ hstop
    obtain ⟨hout, hcount, hwaits⟩ := hs.attempt c attempt s
    rw [retryFrom_run]
    simp only [Nat.add_zero] at hstop ⊢
    rcases ho : outcome (count s) with ⟨a, _ | e⟩
    · simp_all
    · have hr : e.retryable = false := by simpa [asksRetry, ho] using hstop
      simp_all
  | succ k ih =>
    intro attempt left s hk hretry hstop
    obtain ⟨l, rfl⟩ : ∃ l, left = l + 1 := ⟨left - 1, by omega⟩
    -- the first run fails retryably, so the loop goes on from the state after it
    obtain ⟨e, ho, hr⟩ := asksRetry_eq_true.1 (by simpa using hretry 0 (by omega))
    obtain ⟨s₂, hrun, hcount, hwaits⟩ := retryFrom_retried c name hs ho hr
    obtain ⟨h1, h2, h3⟩ := ih (attempt + 1) l s₂ (by omega)
      (fun j hj => by rw [hcount]; simpa [Nat.add_assoc, Nat.add_comm 1] using hretry (j + 1) (by omega))
      (by rw [hcount]; simpa [Nat.add_assoc, Nat.add_comm 1] using hstop)
    dsimp only at h1 h2 h3 ⊢
    rw [hrun]
    refine ⟨by rw [h1, hcount]; congr 1; omega, by rw [h2, hcount]; omega, ?_⟩
    rw [h3, hwaits, Settings.waitsFrom_succ, Settings.waitsFrom_zero, List.append_assoc]

/-- When every attempt left fails retryably, the loop makes them all and gives the last one's
value with its failure wrapped. -/
theorem retryFrom_exhausts (hs : Scripted count waits outcome op wait) (left : Nat) :
    ∀ attempt (s : σ), (∀ j ≤ left, asksRetry (outcome (count s + j)).2) →
      ∃ e, (outcome (count s + left)).2 = some e ∧
      let r := (c.retryFrom wait name op attempt left).run s
      r.1 = ((outcome (count s + left)).1, some (e.afterAttempts name (c.settings.maxRetries + 1))) ∧
        count r.2 = count s + left + 1 ∧ waits r.2 = waits s ++ c.settings.waitsFrom attempt left := by
  induction left with
  | zero =>
    intro attempt s hretry
    obtain ⟨hout, hcount, hwaits⟩ := hs.attempt c attempt s
    obtain ⟨e, ho, hr⟩ := asksRetry_eq_true.1 (by simpa using hretry 0 (Nat.le_refl 0))
    refine ⟨e, ho, ?_⟩
    rw [retryFrom_run]
    simp_all
  | succ l ih =>
    intro attempt s hretry
    obtain ⟨e, ho, hr⟩ := asksRetry_eq_true.1 (by simpa using hretry 0 (by omega))
    obtain ⟨s₂, hrun, hcount, hwaits⟩ := retryFrom_retried c name hs ho hr
    obtain ⟨e', he', h1, h2, h3⟩ := ih (attempt + 1) s₂
      (fun j hj => by rw [hcount]; simpa [Nat.add_assoc, Nat.add_comm 1] using hretry (j + 1) (by omega))
    rw [hcount, Nat.add_assoc, Nat.add_comm 1 l] at he'
    refine ⟨e', he', ?_⟩
    dsimp only at h1 h2 h3 ⊢
    rw [hrun]
    refine ⟨by rw [h1, hcount, Nat.add_assoc, Nat.add_comm 1 l], by rw [h2, hcount]; omega, ?_⟩
    rw [h3, hwaits, Settings.waitsFrom_succ, Settings.waitsFrom_zero, List.append_assoc]

end Script

/-! ### Attempts of a GET -/

/-- A reply with status 429 or from 500 up is classified as a retryable failure. -/
theorem classifyStatus_retryable {status : Int} (body : String) (h : status = 429 ∨ 500 ≤ status) :
    (classifyStatus status body).retryable = true := by
  rcases h with rfl | h
  · simp [classifyStatus]
  · -- from 500 up: a server error, or an unexpected status that is retried all the same
    obtain ⟨h1, h3, h4, h8, h9⟩ : status ≠ 401 ∧ status ≠ 403 ∧ status ≠ 404 ∧ status ≠ 408 ∧
        status ≠ 429 := by omega
    simp only [classifyStatus, h1, h3, h4, h8, h9, if_false]
    split <;> simp [h]

/-- An attempt of a GET is retried exactly when the engine answered 429 or from 500 up, or could
not be reached for a reason the connection classifier retries. -/
theorem asksRetry_attemptOutcome (answer : Except String Reply) :
    asksRetry (attemptOutcome answer).2 = true ↔
      (∃ r, answer = .ok r ∧ (r.status = 429 ∨ 500 ≤ r.status)) ∨
      (∃ e, answer = .error e ∧ (classifyConnection e).retryable = true) := by
  cases answer with
  | error e => simp [attemptOutcome, asksRetry, Failure.toCallError, CallError.retryable]
  | ok r =>
    by_cases h : r.status = 429 ∨ 500 ≤ r.status
    · have hr := @classifyStatus_retryable r.status r.body (by omega)
      simp [attemptOutcome, h, asksRetry, Failure.toCallError, CallError.retryable, hr]
    · simp [attemptOutcome, h, asksRetry]

/-! ### A tape of outcomes -/

/-- The operation whose run number `i` (from 0) ends with `outcome i`, on a tape holding the
number of runs made and the waits made. -/
def scriptedRun (outcome : Nat → α × Option CallError) :
    StateM (Nat × List Int) (α × Option CallError) :=
  fun st => pure (outcome st.1, (st.1 + 1, st.2))

/-- Waiting writes the wait on the tape. -/
def recordWait (d : Int) : StateM (Nat × List Int) Unit := fun st => pure ((), (st.1, st.2 ++ [d]))

theorem scripted_tape (outcome : Nat → α × Option CallError) :
    Scripted Prod.fst Prod.snd outcome (scriptedRun outcome) recordWait :=
  ⟨fun _ => ⟨rfl, rfl, rfl⟩, fun _ _ => ⟨rfl, rfl⟩⟩

/-- The retry loop on every number of retries and every sequence of outcomes (a success, a
retryable failure or any other failure). It runs the operation up to and including the first
outcome that is not a retryable failure, if that comes within the `maxRetries + 1` runs allowed,
and gives that outcome as it is: no failure after a success, the failure itself otherwise.
Else it makes all the runs allowed and gives a failure that names the operation and the number
of attempts and keeps the last failure's classification as its own. Before run `a` (from 1) it
waits the backoff of `a`. A GET's run is retried exactly when the engine answered 429 or from
500 up, or could not be reached for a reason that the connection classifier retries. -/
theorem executeWithRetry_attempts (c : Client) (hM : 0 ≤ c.settings.maxRetries) (name : String)
    (outcome : Nat → α × Option CallError) :
    let M := c.settings.maxRetries.toNat
    let run := (c.executeWithRetry recordWait name (scriptedRun outcome)).run (0, [])
    (∀ k ≤ M, (∀ j < k, asksRetry (outcome j).2) → asksRetry (outcome k).2 = false →
      run = (outcome k, (k + 1, (List.range' 1 k).map c.settings.backoff))) ∧
    ((∀ j ≤ M, asksRetry (outcome j).2) → ∃ e w, (outcome M).2 = some e ∧
      run = (((outcome M).1, some w), (M + 1, (List.range' 1 M).map c.settings.backoff)) ∧
      w.failure = e.failure ∧
      w.message = name ++ " operation failed after " ++ toString (M + 1) ++ " attempts, last error: " ++
        e.message) ∧
    ∀ answer, asksRetry (attemptOutcome answer).2 = true ↔
      (∃ r, answer = .ok r ∧ (r.status = 429 ∨ 500 ≤ r.status)) ∨
      (∃ e, answer = .error e ∧ (classifyConnection e).retryable = true) := by
  intro M run
  have htries : c.settings.maxRetries + 1 = ((M + 1 : Nat) : Int) := by omega
  refine ⟨fun k hk hretry hstop => ?_, fun hretry => ?_, asksRetry_attemptOutcome⟩
  · obtain ⟨h1, h2, h3⟩ := retryFrom_stops c name (scripted_tape outcome) k 0 M (0, []) hk
      (by simpa using hretry) (by simpa using hstop)
    simp only [Settings.waitsFrom_start, List.nil_append, Nat.zero_add] at h1 h2 h3
    exact Prod.ext h1 (Prod.ext h2 h3)
  · obtain ⟨e, he, h1, h2, h3⟩ := retryFrom_exhausts c name (scripted_tape outcome) M 0 (0, [])
      (by simpa using hretry)
    simp only [Settings.waitsFrom_start, List.nil_append, Nat.zero_add] at he h1 h2 h3
    refine ⟨e, _, he, Prod.ext h1 (Prod.ext h2 h3), rfl, ?_⟩
    simp only [CallError.afterAttempts, htries]
    rfl

/-- Two failed attempts (the engine answered 503) and then a success, with two retries allowed. -/
theorem executeWithRetry_attempts_recovers :
    0 ≤ (⟨{ maxRetries := 2 }⟩ : Client).settings.maxRetries ∧
      ((⟨{ maxRetries := 2 }⟩ : Client).executeWithRetry recordWait "GET x"
        (scriptedRun fun i => ((), if i < 2 then some (classifyStatus 503 "").toCallError else none))).run
        (0, []) = (((), none), (3, [0, 0])) :=
  ⟨by decide, ((executeWithRetry_attempts ⟨{ maxRetries := 2 }⟩ (by decide) "GET x"
    fun i => ((), if i < 2 then some (classifyStatus 503 "").toCallError else none)).1 2 (by decide)
    (by decide) (by decide)).trans rfl⟩

end SqlSearch.Engine
