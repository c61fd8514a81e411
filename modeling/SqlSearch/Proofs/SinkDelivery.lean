import Mathlib
import SqlSearch.Export.Sink
import SqlSearch.Host.Memory
/-! What a sink delivers. Opening a target gives the command's output exactly for `-` and the
empty target; an object target is opened only when its path reads as a bucket and a key that is
not empty and does not end in `/`, and a client can be made; every other target is a file
(`openSink_targets`, on the model of the system).

An object sink is a small machine, open or closed. Over any system and any calls made on it,
the writes before the first close only fill its buffer; the first close stores the buffer as one
object, the only call the calls make on the system; after it every write fails and changes
nothing, and every close succeeds without storing anything (`objectSink_run`). -/
namespace SqlSearch.Export

open SqlSearch.Host SqlSearch.Scripts

/-! ### Opening a target -/

theorem not_output_of_isObjectPath {target : String} (h : isObjectPath target = true) :
    ¬(target = "" ∨ target = "-") := by
  rintro (rfl | rfl) <;> simp [isObjectPath, String.startsWith_string_iff] at h

/-- The key of an object target is refused when it is empty or names a folder. -/
theorem key_fine_iff (k : String) :
    ¬(k.isEmpty = true ∨ k.endsWith "/" = true) ↔ k ≠ "" ∧ k.endsWith "/" = false := by
  rw [String.isEmpty_iff]
  cases k.endsWith "/" <;> simp

/-- The model's object client succeeds exactly when no failure is set for it. -/
theorem World.objectClient_run (w : World) (region : String) :
    (World.host.objectClient region).run w =
      (match w.objectClientError with
        | some e => .error e
        | none => .ok (), { w with objectClientCalls := w.objectClientCalls + 1 }) := by
  simp only [World.host, StateT.run_bind, StateT.run_modify]
  rfl

theorem openSink_output (w : World) (objects : Bool) (region target : String)
    (h : target = "" ∨ target = "-") :
    ((openSink World.host objects region target).run w).1 = .ok ⟨.output, "", false⟩ := by
  simp only [openSink, h, if_true]
  rfl

/-- An object target opens exactly when its path gives a bucket and a key that is neither
empty nor a folder, clients can be made and the client is made; the sink is then the object's,
empty and open. -/
theorem openSink_object (w : World) (objects : Bool) (region target : String)
    (hobj : isObjectPath target = true) (s : Sink) :
    ((openSink World.host objects region target).run w).1 = .ok s ↔
      ∃ b k, parseObjectPath target = .ok (b, k) ∧ k ≠ "" ∧ k.endsWith "/" = false ∧
        objects = true ∧ w.objectClientError = none ∧ s = ⟨.object b k, "", false⟩ := by
  simp only [openSink, not_output_of_isObjectPath hobj, hobj, if_false, if_true]
  cases hp : parseObjectPath target with
  | error e => simp
  | ok bk =>
    obtain ⟨b, k⟩ := bk
    simp only [Except.ok.injEq, Prod.mk.injEq]
    by_cases hk : k.isEmpty = true ∨ k.endsWith "/" = true
    · rw [if_pos hk]
      constructor
      · intro hr
        cases hr
      · rintro ⟨_, _, ⟨rfl, rfl⟩, hne, hend, -⟩
        exact absurd hk ((key_fine_iff _).2 ⟨hne, hend⟩)
    rw [if_neg hk]
    obtain ⟨hne, hend⟩ := (key_fine_iff k).1 hk
    cases objects
    · simp
    simp only [Bool.not_true, Bool.false_eq_true, if_false, StateT.run_bind, World.objectClient_run]
    cases he : w.objectClientError with
    | some e =>
      dsimp only [bind]
      simp
    | none =>
      dsimp only [bind]
      constructor
      · intro hr
        exact ⟨b, k, ⟨rfl, rfl⟩, hne, hend, trivial, rfl, (Except.ok.inj hr).symm⟩
      · rintro ⟨_, _, ⟨rfl, rfl⟩, -, -, -, -, rfl⟩
        rfl

/-- A state step run and then its continuation: the result is the continuation's on the step's
result and state. -/
theorem run_bind_fst {σ α β : Type} (x : StateM σ α) (f : α → StateM σ β) (s : σ) :
    ((x >>= f).run s).1 = ((f (x.run s).1).run (x.run s).2).1 := rfl

/-- Any other target is a file: whatever making its directory and the file gives, the only sink
that comes out is the file's. -/
theorem openSink_file (w : World) (objects : Bool) (region target : String)
    (h1 : ¬(target = "" ∨ target = "-")) (h2 : isObjectPath target = false) (s : Sink)
    (hr : ((openSink World.host objects region target).run w).1 = .ok s) :
    s = ⟨.file target, "", false⟩ := by
  simp only [openSink, h1, h2, if_false, Bool.false_eq_true] at hr
  -- with a directory to make or not, a step that fails gives an error and the last step gives
  -- the file's sink
  split_ifs at hr
  all_goals
    repeat' (rw [run_bind_fst] at hr; split at hr)
  all_goals first
    | exact (Except.ok.inj hr).symm
    | cases hr

/-- Opening gives the command's output exactly for `-` and the empty target. An object target
opens exactly when its path gives a bucket and a key that is neither empty nor a folder, clients
can be made and the client is made, and its sink is then the object's. Any other target that
opens is a file. -/
theorem openSink_targets (w : World) (objects : Bool) (region target : String) :
    ((∃ s, ((openSink World.host objects region target).run w).1 = .ok s ∧
        s.target = .output) ↔ target = "" ∨ target = "-") ∧
      (isObjectPath target = true → ∀ s,
        ((openSink World.host objects region target).run w).1 = .ok s ↔
          ∃ b k, parseObjectPath target = .ok (b, k) ∧ k ≠ "" ∧ k.endsWith "/" = false ∧
            objects = true ∧ w.objectClientError = none ∧ s = ⟨.object b k, "", false⟩) ∧
      (¬(target = "" ∨ target = "-") → isObjectPath target = false → ∀ s,
        ((openSink World.host objects region target).run w).1 = .ok s →
          s = ⟨.file target, "", false⟩) := by
  refine ⟨⟨?_, fun h => ⟨_, openSink_output w objects region target h, rfl⟩⟩,
    openSink_object w objects region target, openSink_file w objects region target⟩
  rintro ⟨s, hr, hs⟩
  by_cases hne : target = "" ∨ target = "-"
  · exact hne
  cases hobj : isObjectPath target
  · rw [openSink_file w objects region target hne hobj s hr] at hs
    cases hs
  · obtain ⟨b, k, -, -, -, -, -, rfl⟩ := (openSink_object w objects region target hobj s).1 hr
    cases hs

/-! ### Calls on a sink -/

/-- A call on a sink. -/
inductive SinkCall where
  | write (text : String)
  | close
  deriving Repr, DecidableEq

/-- What a closed object sink answers to a call: a write fails, naming the sink, and a close
succeeds. -/
def SinkCall.answerClosed (t : Target) : SinkCall → Except String Unit
  | .write _ => .error ("write to closed sink " ++ t.text)
  | .close => .ok ()

variable {m : Type → Type} [Monad m]

/-- Makes calls on a sink one after another, giving the answer to each and the sink at the end.
A write that fails leaves the sink as it was. -/
def Sink.run (h : Host m) : Sink → List SinkCall → m (List (Except String Unit) × Sink)
  | s, [] => pure ([], s)
  | s, .write text :: calls => do
    match ← s.write h text with
    | .ok s' => Prod.map (List.cons (.ok ())) id <$> s'.run h calls
    | .error e => Prod.map (List.cons (.error e)) id <$> s.run h calls
  | s, .close :: calls => do
    let (r, s') ← s.close h
    Prod.map (List.cons r) id <$> s'.run h calls

variable (h : Host m) (b k : String)

/-- A write to an open object sink adds to its buffer and makes no call on the system. -/
theorem Sink.write_open_object (buf text : String) :
    Sink.write h ⟨.object b k, buf, false⟩ text = pure (.ok ⟨.object b k, buf ++ text, false⟩) :=
  rfl

/-- A write to a closed object sink fails and makes no call on the system. -/
theorem Sink.write_closed_object (buf text : String) :
    Sink.write h ⟨.object b k, buf, true⟩ text =
      pure (.error ("write to closed sink " ++ (Target.object b k).text)) :=
  rfl

/-- Closing a closed object sink succeeds and makes no call on the system. -/
theorem Sink.close_closed_object (buf : String) :
    Sink.close h ⟨.object b k, buf, true⟩ = pure (.ok (), ⟨.object b k, buf, true⟩) :=
  rfl

variable [LawfulMonad m]

/-- Closing an open object sink stores its buffer under its bucket and key, once, and closes
it whatever the store answers. -/
theorem Sink.close_open_object (buf : String) :
    Sink.close h ⟨.object b k, buf, false⟩ =
      (fun r => (r.mapError ("failed to upload " ++ (Target.object b k).text ++ ": " ++ ·),
        (⟨.object b k, buf, true⟩ : Sink))) <$> h.putObject b k buf csvContentType := by
  simp only [Sink.close, Bool.false_eq_true, if_false]
  rw [map_eq_pure_bind]
  congr 1
  funext r
  cases r <;> rfl

/-- After its close, an object sink answers every call as a closed sink does, stays as it is
and makes no call on the system. -/
theorem Sink.run_closed_object (buf : String) :
    ∀ calls, Sink.run h ⟨.object b k, buf, true⟩ calls =
      pure (calls.map (SinkCall.answerClosed (.object b k)), ⟨.object b k, buf, true⟩)
  | [] => rfl
  | .write text :: calls => by
    rw [Sink.run, Sink.write_closed_object, pure_bind]
    simp [Sink.run_closed_object buf calls, SinkCall.answerClosed]
  | .close :: calls => by
    rw [Sink.run, Sink.close_closed_object, pure_bind]
    simp [Sink.run_closed_object buf calls, SinkCall.answerClosed]

/-- Writes to an open object sink each succeed and add their text to the buffer, with no call
on the system. -/
theorem Sink.run_open_object_writes (rest : List SinkCall) :
    ∀ (buf : String) (texts : List String),
      Sink.run h ⟨.object b k, buf, false⟩ (texts.map .write ++ rest) =
        Prod.map ((texts.map fun _ => Except.ok ()) ++ ·) id <$>
          Sink.run h ⟨.object b k, buf ++ String.join texts, false⟩ rest
  | buf, [] => by
    simp only [List.map_nil, List.nil_append, String.join_nil, String.append_empty]
    exact (id_map _).symm
  | buf, text :: texts => by
    rw [List.map_cons, List.cons_append, Sink.run, Sink.write_open_object, pure_bind]
    dsimp only
    rw [Sink.run_open_object_writes rest (buf ++ text) texts, Functor.map_map, String.join_cons,
      String.append_assoc]
    rfl

/-- Closing an open object sink stores its buffer, and every later call is answered as a closed
sink answers, with no other call on the system. -/
theorem Sink.run_open_object_close (buf : String) (post : List SinkCall) :
    Sink.run h ⟨.object b k, buf, false⟩ (.close :: post) =
      (fun r => (r.mapError ("failed to upload " ++ (Target.object b k).text ++ ": " ++ ·) ::
          post.map (SinkCall.answerClosed (.object b k)), (⟨.object b k, buf, true⟩ : Sink))) <$>
        h.putObject b k buf csvContentType := by
  rw [Sink.run, Sink.close_open_object, bind_map_left, map_eq_pure_bind]
  congr 1
  funext r
  dsimp only
  rw [Sink.run_closed_object, map_pure]
  rfl

/-- Every list of calls is a run of writes, then either nothing or a first close followed by any
calls. -/
theorem SinkCall.split_first_close : ∀ calls : List SinkCall, ∃ texts : List String,
    calls = texts.map .write ∨ ∃ post, calls = texts.map .write ++ .close :: post
  | [] => ⟨[], .inl rfl⟩
  | .close :: post => ⟨[], .inr ⟨post, rfl⟩⟩
  | .write text :: calls => by
    obtain ⟨texts, rfl | ⟨post, rfl⟩⟩ := split_first_close calls
    · exact ⟨text :: texts, .inl rfl⟩
    · exact ⟨text :: texts, .inr ⟨post, rfl⟩⟩

/-- Over any system, the calls on a new object sink make at most one call on the system. The
writes before the first close succeed and fill the buffer; without a close nothing else
happens. The first close stores the concatenated writes under the sink's bucket and key, and
answers as the store does; every later write fails naming the sink, every later close succeeds,
and neither calls the system. -/
theorem objectSink_run (calls : List SinkCall) : ∃ texts : List String,
    (calls = texts.map .write ∧
      Sink.run h ⟨.object b k, "", false⟩ calls =
        pure (texts.map fun _ => .ok (), ⟨.object b k, String.join texts, false⟩)) ∨
    ∃ post, calls = texts.map .write ++ .close :: post ∧
      Sink.run h ⟨.object b k, "", false⟩ calls =
        (fun r => ((texts.map fun _ => Except.ok ()) ++
            r.mapError ("failed to upload " ++ (Target.object b k).text ++ ": " ++ ·) ::
              post.map (SinkCall.answerClosed (.object b k)),
          (⟨.object b k, String.join texts, true⟩ : Sink))) <$>
          h.putObject b k (String.join texts) csvContentType := by
  obtain ⟨texts, rfl | ⟨post, rfl⟩⟩ := SinkCall.split_first_close calls
  · refine ⟨texts, .inl ⟨rfl, ?_⟩⟩
    have := Sink.run_open_object_writes h b k [] "" texts
    rw [List.append_nil, String.empty_append] at this
    rw [this, Sink.run, map_pure, Prod.map_apply, List.append_nil]
    rfl
  · refine ⟨texts, .inr ⟨post, rfl, ?_⟩⟩
    rw [Sink.run_open_object_writes, String.empty_append, Sink.run_open_object_close,
      Functor.map_map]
    rfl

/-- Sinks deliver exactly what was written before they were closed. Opening gives the command's
output exactly for `-` and the empty target; an object target opens exactly when its path gives
a bucket and a non-empty key not ending in `/` and a client can be made and is made, and any
other target is a file. Over any system, the calls on a new object sink store one object at
most: on the first close, under the sink's bucket and key, holding every write made before it;
later writes fail and change nothing, later closes succeed without storing. -/
theorem sinks_deliver_writes_before_close :
    (∀ (w : World) (objects : Bool) (region target : String),
      ((∃ s, ((openSink World.host objects region target).run w).1 = .ok s ∧
          s.target = .output) ↔ target = "" ∨ target = "-") ∧
        (isObjectPath target = true → ∀ s,
          ((openSink World.host objects region target).run w).1 = .ok s ↔
            ∃ b k, parseObjectPath target = .ok (b, k) ∧ k ≠ "" ∧ k.endsWith "/" = false ∧
              objects = true ∧ w.objectClientError = none ∧ s = ⟨.object b k, "", false⟩) ∧
        (¬(target = "" ∨ target = "-") → isObjectPath target = false → ∀ s,
          ((openSink World.host objects region target).run w).1 = .ok s →
            s = ⟨.file target, "", false⟩)) ∧
    ∀ {m : Type → Type} [Monad m] [LawfulMonad m] (h : Host m) (b k : String)
      (calls : List SinkCall), ∃ texts : List String,
      (calls = texts.map .write ∧
        Sink.run h ⟨.object b k, "", false⟩ calls =
          pure (texts.map fun _ => .ok (), ⟨.object b k, String.join texts, false⟩)) ∨
      ∃ post, calls = texts.map .write ++ .close :: post ∧
        Sink.run h ⟨.object b k, "", false⟩ calls =
          (fun r => ((texts.map fun _ => Except.ok ()) ++
              r.mapError ("failed to upload " ++ (Target.object b k).text ++ ": " ++ ·) ::
                post.map (SinkCall.answerClosed (.object b k)),
            (⟨.object b k, String.join texts, true⟩ : Sink))) <$>
            h.putObject b k (String.join texts) csvContentType :=
  ⟨openSink_targets, fun h b k calls => objectSink_run h b k calls⟩

end SqlSearch.Export
