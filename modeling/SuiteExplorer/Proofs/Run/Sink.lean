/-
  SuiteExplorer/Proofs/Run/Sink.lean
  ==================================
  **A run whose listener may fail.**

  A step of such a run is the step of a run in which nothing fails, up to a failure.  There
  are three ways for a failure to end the work on an entry (`Yields`): it comes before
  the entry has reached a state, or at the log of a debugger when it has, or there is none.
  Between the entries it ends the run (`Goes`).

  A listener that never fails therefore leaves every run as it is (`Steady.run_eq`).
-/
import SuiteExplorer.Proofs.Run.Grounds
import SuiteExplorer.Run.Sink

namespace SuiteExplorer.Sink

open Execution (Streams ProcessOutcome)

variable {sink : Sink} {debug : Bool} {x x' : Execution} {w : Workbench} {e : QueueEntry}

/-- The listener fails for this reason at something that it may be told. -/
def Fails (sink : Sink) (reason : String) : Prop := ∃ texts, sink texts = some reason

theorem fault?_cases (sink : Sink) (x x' : Execution) :
    sink.fault? x x' = none ∨
      ∃ reason, sink.fault? x x' = some reason ∧ sink x'.told = some reason := by
  cases hfault : sink.fault? x x' with
  | none => exact Or.inl rfl
  | some reason =>
    refine Or.inr ⟨reason, rfl, ?_⟩
    unfold fault? at hfault
    split at hfault
    · cases hfault
    · exact hfault

/-! ## 1. Waiting for a process -/

/-- Of what a stream gives, all is told, or the listener fails at some of it. -/
theorem pump_cases (sink : Sink) (w : Workbench) (pieces : List Bytes) (x : Execution)
    (s : Stream) :
    (∃ x' s', sink.pump x w s pieces = (x', s', none) ∧ x.pump w s pieces = (x', s') ∧
        x.Quiet x') ∨
      ∃ x' s' reason, sink.pump x w s pieces = (x', s', some reason) ∧ sink.Fails reason ∧
        x.Quiet x' := by
  induction pieces generalizing x s with
  | nil => exact Or.inl ⟨x, s, rfl, rfl, ⟨rfl, rfl, rfl, rfl⟩⟩
  | cons piece rest ih =>
    have hpassed := x.quiet_passOn w s (Text.Utf8.feed s.pending piece).1
      (Text.Utf8.feed s.pending piece).2
    unfold pump passOn Execution.pump
    dsimp only
    generalize x.passOn w s (Text.Utf8.feed s.pending piece).1
      (Text.Utf8.feed s.pending piece).2 = passed at *
    obtain ⟨x₁, s₁⟩ := passed
    rcases sink.fault?_cases x x₁ with hnone | ⟨reason, hfault, hfails⟩
    · rw [hnone]
      rcases ih x₁ s₁ with
        ⟨x', s', hpumped, hsame, hquiet⟩ | ⟨x', s', reason, hends, hfails, hquiet⟩
      · exact Or.inl ⟨x', s', hpumped, hsame, hpassed.trans hquiet⟩
      · exact Or.inr ⟨x', s', reason, hends, hfails, hpassed.trans hquiet⟩
    · rw [hfault]
      exact Or.inr ⟨x₁, s₁, reason, rfl, ⟨_, hfails⟩, hpassed⟩

theorem pumpChunk_cases (sink : Sink) (w : Workbench) (bytes : Bytes) (x : Execution)
    (s : Stream) :
    (∃ x' s', sink.pumpChunk x w s bytes = (x', s', none) ∧
        x.pumpChunk w s bytes = (x', s') ∧ x.Quiet x') ∨
      ∃ x' s' reason, sink.pumpChunk x w s bytes = (x', s', some reason) ∧ sink.Fails reason ∧
        x.Quiet x' :=
  sink.pump_cases w (reads (bytes.length + 1) bytes) x s

theorem endStream_cases (sink : Sink) (w : Workbench) (x : Execution) (s : Stream) :
    (∃ x' s', sink.endStream x w s = (x', s', none) ∧ x.endStream w s = (x', s') ∧
        x.Quiet x') ∨
      ∃ x' s' reason, sink.endStream x w s = (x', s', some reason) ∧ sink.Fails reason ∧
        x.Quiet x' := by
  have hpassed : x.Quiet (x.endStream w s).1 := x.quiet_passOn w s _ _
  have hends : sink.endStream x w s =
      ((x.endStream w s).1, (x.endStream w s).2, sink.fault? x (x.endStream w s).1) := rfl
  rw [hends]
  rcases sink.fault?_cases x (x.endStream w s).1 with hnone | ⟨reason, hfault, hfails⟩
  · rw [hnone]
    exact Or.inl ⟨_, _, rfl, rfl, hpassed⟩
  · rw [hfault]
    exact Or.inr ⟨_, _, reason, rfl, ⟨_, hfails⟩, hpassed⟩

theorem quiet_drain (sink : Sink) (x : Execution) (w : Workbench) (s : Stream) (bytes : Bytes) :
    x.Quiet (sink.drain x w s bytes) := by
  unfold drain
  rcases sink.pumpChunk_cases w bytes x s with
    ⟨x', s', hpumped, -, hquiet⟩ | ⟨x', s', reason, hends, -, hquiet⟩
  · rw [hpumped]
    have hended : x'.Quiet (sink.endStream x' w s').1 := x'.quiet_passOn w s' _ _
    exact hquiet.trans hended
  · rw [hends]
    exact hquiet

/-- The wait for a process comes to `r` when nothing fails, and to `r'`. -/
inductive Awaits (sink : Sink) (x : Execution) (r : Execution × Streams × ProcessOutcome)
    (r' : Execution × Streams × Except String ProcessOutcome) : Prop where
  | same (h : r' = (r.1, r.2.1, .ok r.2.2))
  | fails (reason : String) (hfails : sink.Fails reason) (hends : r'.2.2 = .error reason)
    (hquiet : x.Quiet r'.1)

theorem Awaits.after {r : Execution × Streams × ProcessOutcome}
    {r' : Execution × Streams × Except String ProcessOutcome} (h' : Awaits sink x' r r')
    (h : x.Quiet x') : Awaits sink x r r' := by
  cases h' with
  | same h' => exact .same h'
  | fails reason hfails hends hquiet => exact .fails reason hfails hends (h.trans hquiet)

theorem finishProcess_awaits (sink : Sink) (x : Execution) (w : Workbench) (s : Streams)
    (last : ProcessEnd) (lag : Nat) :
    Awaits sink x (x.finishProcess w s last lag) (sink.finishProcess x w s last lag) := by
  unfold finishProcess Execution.finishProcess
  rcases sink.endStream_cases w x s.stdout with
    ⟨x', stdout, hended, hsame, hout⟩ | ⟨x', stdout, reason, hends, hfails, hquiet⟩
  · rw [hended, hsame]
    dsimp only
    split
    · exact .same rfl
    · rcases sink.endStream_cases w x' s.stderr with
        ⟨x'', stderr, hended, hsame, -⟩ | ⟨x'', stderr, reason, hends, hfails, hquiet⟩
      · rw [hended, hsame]
        dsimp only
        split
        · exact .same rfl
        · cases last with
          | exits code => exact .same rfl
          | hangs => exact .same rfl
      · rw [hends]
        exact .fails reason hfails rfl (hout.trans hquiet)
  · rw [hends]
    exact .fails reason hfails rfl (hquiet.trans (sink.quiet_drain x' w s.stderr []))

/-- **The wait for a process** ends at a failure, or goes as it does when nothing fails. -/
theorem communicate_awaits (sink : Sink) (w : Workbench) (last : ProcessEnd)
    (events : List ProcessEvent) (lag : Nat) (x : Execution) (s : Streams) :
    Awaits sink x (x.communicate w s last lag events) (sink.communicate x w s last lag events) := by
  induction events generalizing x s lag with
  | nil =>
    unfold communicate Execution.communicate
    split
    · exact .same rfl
    · exact sink.finishProcess_awaits x w s last _
  | cons event rest ih =>
    unfold communicate Execution.communicate
    split
    · exact .same rfl
    · cases event with
      | stdout bytes =>
        dsimp only
        rcases sink.pumpChunk_cases w bytes x s.stdout with
          ⟨x', stdout, hpumped, hsame, hquiet⟩ | ⟨x', stdout, reason, hends, hfails, hquiet⟩
        · rw [hpumped, hsame]
          exact (ih _ _ _).after hquiet
        · rw [hends]
          exact .fails reason hfails rfl (hquiet.trans (sink.quiet_drain x' w _ _))
      | stderr bytes =>
        dsimp only
        rcases sink.pumpChunk_cases w bytes x s.stderr with
          ⟨x', stderr, hpumped, hsame, hquiet⟩ | ⟨x', stderr, reason, hends, hfails, hquiet⟩
        · rw [hpumped, hsame]
          exact (ih _ _ _).after hquiet
        · rw [hends]
          exact .fails reason hfails rfl (hquiet.trans (sink.quiet_drain x' w _ _))
      | cancel => exact (ih _ _ _).after ⟨rfl, rfl, rfl, rfl⟩
      | gone => exact ih _ _ _

/-! ## 2. The work on an entry -/

/-- The work on an entry leads from `x` to `r` when nothing fails, and to `r'`. -/
inductive Yields (sink : Sink) (debug : Bool) (x : Execution) (r r' : Execution × EntryEnd) :
    Prop where
  | same (h : r' = r)
  /-- the failure comes before the entry has reached a state -/
  | early (reason : String) (hfails : sink.Fails reason) (hends : r'.2 = .failed reason)
    (hts : r'.1.record.transitions = x.record.transitions)
  /-- the failure comes at the log of a debugger -/
  | late (reason : String) (hdebug : debug = true) (hfails : sink r.1.told = some reason)
    (h : r' = (r.1, .failed reason)) (hends : r.2 = .finished)

variable {r r' : Execution × EntryEnd}

theorem Yields.after (h' : Yields sink debug x' r r')
    (h : x'.record.transitions = x.record.transitions) : Yields sink debug x r r' := by
  cases h' with
  | same h' => exact .same h'
  | early reason hfails hends hts => exact .early reason hfails hends (hts.trans h)
  | late reason hdebug hfails h' hends => exact .late reason hdebug hfails h' hends

/-- A failure at a text that is told before anything is recorded. -/
theorem orFail_yields {y : Execution} (hts : x'.record.transitions = y.record.transitions)
    (next : Execution × EntryEnd) : Yields sink debug y next (sink.orFail x x' next) := by
  unfold orFail
  rcases sink.fault?_cases x x' with hnone | ⟨reason, hfault, hfails⟩
  · rw [hnone]
    exact .same rfl
  · rw [hfault]
    exact .early reason ⟨_, hfails⟩ rfl hts

theorem settle_yields (sink : Sink) (x : Execution) (w : Workbench) (e : QueueEntry)
    (s : Streams) (code elapsed : Int) :
    Yields sink debug x (x.settle w e s code elapsed, .finished)
      (sink.settle x w e s code elapsed) := by
  unfold settle
  dsimp only
  split
  · exact .same rfl
  · exact orFail_yields (x.quiet_say w _).transitions _

theorem runProcess_yields (sink : Sink) (x : Execution) (w : Workbench) (e : QueueEntry)
    (spawn : Spawn) :
    Yields sink debug x (x.runProcess w e spawn) (sink.runProcess x w e spawn) := by
  unfold runProcess Execution.runProcess
  dsimp only
  cases x.processes.headD .silent with
  | refused reason => exact .same rfl
  | runs events last elapsed =>
    have hquiet := (Execution.quiet_communicate w last events (x.lags.headD 0)
      (x.beginProcess e spawn) {}).transitions
    have hwait := sink.communicate_awaits w last events (x.lags.headD 0) (x.beginProcess e spawn) {}
    dsimp only
    generalize (x.beginProcess e spawn).communicate w {} last (x.lags.headD 0) events = waited at *
    generalize sink.communicate (x.beginProcess e spawn) w {} last (x.lags.headD 0) events =
      waited' at *
    obtain ⟨x', s, outcome⟩ := waited
    cases hwait with
    | same h =>
      subst h
      cases outcome with
      | exited code => exact (sink.settle_yields x' w e s code elapsed).after hquiet
      | cancelled => exact .same rfl
      | never => exact .same rfl
    | fails reason hfails hends hquiet =>
      obtain ⟨x'', s'', outcome''⟩ := waited'
      subst hends
      have hkilled := (x''.quiet_kill s''.gone).transitions
      exact .early reason hfails rfl (hkilled.trans hquiet.transitions)

theorem runEntry_yields (sink : Sink) (x : Execution) (w : Workbench) (e : QueueEntry) :
    Yields sink debug x (x.runEntry w e) (sink.runEntry x w e) := by
  have hrecord : (x.lookUp w).2.record = x.record := rfl
  unfold runEntry Execution.runEntry
  generalize x.lookUp w = found at *
  obtain ⟨toolchain?, x'⟩ := found
  have htransitions : x'.record.transitions = x.record.transitions :=
    congrArg Record.transitions hrecord
  cases toolchain? with
  | none =>
    apply orFail_yields
    rw [(Execution.quiet_say _ w _).transitions]
    exact htransitions
  | some toolchain =>
    dsimp only
    cases w.libraries.find? (·.owns e.what) with
    | none => exact .same rfl
    | some library =>
      dsimp only
      cases library.runArguments e.what with
      | error fault => exact .same rfl
      | ok arguments => exact (sink.runProcess_yields x' w e _).after htransitions

/-! ### 2.1 In a debug session -/

theorem conclude_yields (sink : Sink) (a : Attempt) (w : Workbench) (e : QueueEntry) :
    Yields sink true a.execution (Execution.concludeSession a w e) (sink.conclude a w e) := by
  unfold conclude Execution.concludeSession
  cases a.execution.concludeDebug w e a.tracker? with
  | error fault => exact .same rfl
  | ok x =>
    dsimp only
    unfold orFail
    rcases sink.fault?_cases x (x.showDebuggerLog w a.logFile) with
      hnone | ⟨reason, hfault, hfails⟩
    · rw [hnone]
      exact .same rfl
    · rw [hfault]
      exact .late reason rfl hfails rfl rfl

theorem concludeSession_yields (sink : Sink) (a : Attempt) (w : Workbench) (e : QueueEntry) :
    Yields sink true a.execution (Execution.concludeSession a w e)
      (sink.concludeSession a w e) := by
  unfold concludeSession
  split
  · next transcript _ =>
    unfold orFail
    rcases sink.fault?_cases a.execution (a.execution.say w transcript) with
      hnone | ⟨reason, hfault, hfails⟩
    · rw [hnone]
      exact sink.conclude_yields a w e
    · rw [hfault]
      exact .early reason ⟨_, hfails⟩ rfl (Execution.quiet_say _ w _).transitions
  · exact sink.conclude_yields a w e

theorem awaitSession_yields (sink : Sink) (a : Attempt) (w : Workbench) (e : QueueEntry)
    (script : HostScript) :
    Yields sink true a.execution (Execution.awaitSession a w e script)
      (sink.awaitSession a w e script) := by
  unfold awaitSession Execution.awaitSession
  cases hwait : a.awaitUntil Attempt.ended? script.events with
  | mk a' rest =>
    obtain ⟨rest, last⟩ := rest
    have hquiet := (Execution.quiet_awaitUntil hwait).transitions
    have hconcludes := (sink.concludeSession_yields a' w e).after hquiet
    dsimp only
    cases last with
    | cancelRequested => exact .same rfl
    | never => exact .same rfl
    | arrived s => exact hconcludes
    | calledOff =>
      cases a'.execution.cancel != .impossible with
      | false => exact .same rfl
      | true => exact hconcludes

theorem startSession_yields (sink : Sink) (x : Execution) (w : Workbench) (e : QueueEntry)
    (token : String) (configuration : Entries) (logFile : Path) :
    Yields sink true x (x.startSession w e token configuration logFile)
      (sink.startSession x w e token configuration logFile) := by
  have hmeanwhile := (Execution.quiet_deliverAll (x.hosts.headD {}).meanwhile
    (x.beginAttempt e token configuration logFile)).transitions
  unfold startSession Execution.startSession
  dsimp only
  cases (x.hosts.headD {}).start with
  | fails reason => exact .same rfl
  | refuses =>
    apply orFail_yields
    rw [(Execution.quiet_say _ w _).transitions]
    exact hmeanwhile
  | accepts => exact (sink.awaitSession_yields _ w e _).after hmeanwhile

/-- Giving a token up changes neither what was recorded nor what was told. -/
theorem Yields.release (h : Yields sink debug x r r') (token : String) :
    Yields sink debug x ({ r.1 with correlator := r.1.correlator.release token }, r.2)
      ({ r'.1 with correlator := r'.1.correlator.release token }, r'.2) := by
  cases h with
  | same h =>
    subst h
    exact .same rfl
  | early reason hfails hends hts => exact .early reason hfails hends hts
  | late reason hdebug hfails h hends =>
    subst h
    exact .late reason hdebug hfails rfl hends

theorem debugEntry_yields (sink : Sink) (x : Execution) (w : Workbench) (e : QueueEntry) :
    Yields sink true x (x.debugEntry w e) (sink.debugEntry x w e) := by
  unfold debugEntry Execution.debugEntry
  split
  · apply orFail_yields
    exact (Execution.quiet_say _ w _).transitions
  · have hquiet := (x.quiet_launchConfiguration w e.node e.what).transitions
    generalize x.launchConfiguration w e.node e.what = launch at *
    obtain ⟨x', answer⟩ := launch
    have hrefused : Yields sink true x (x'.reach e.ref .skipped, .finished)
        (sink.orFail x x' (x'.reach e.ref .skipped, .finished)) := orFail_yields hquiet _
    cases answer with
    | error refusal =>
      cases refusal with
      | noToolchain => exact hrefused
      | noLibrary => exact hrefused
      | badTemplate fault => exact .same rfl
    | ok bare =>
      dsimp only
      cases (if w.writesLogs then x'.files.ensureFolder w.logDirectory else .ok x'.files) with
      | error fault => exact .same rfl
      | ok files =>
        have hstarted := sink.startSession_yields
          { x' with tokens := x'.tokens + 1, files := files } w e x'.newToken
        exact ((hstarted _ _).after hquiet).release x'.newToken

/-! ## 3. Runs -/

/-- The visit of an entry leads from `x` to `r` when nothing fails, and to `r'`. -/
inductive Goes (sink : Sink) (w : Workbench) (debug : Bool) (e : QueueEntry) (x : Execution)
    (r r' : Execution × Bool) : Prop where
  | same (h : r' = r)
  /-- the failure comes when the entry has been completed -/
  | completed (reason : String) (hfails : sink.Fails reason) (h : r' = (r.1, false))
  /-- the failure comes before the entry is begun or skipped -/
  | unbegun (reason : String) (hfails : sink.Fails reason) (hends : r'.2 = false)
    (hts : r'.1.record.transitions = x.record.transitions)
  | early (reason : String) (hfails : sink.Fails reason)
    (hts : r'.1.record.transitions = x.record.transitions ++
      [⟨e.ref, .started, none, none⟩, ⟨e.ref, .errored, some reason, none⟩])
  | late (reason : String) (ts : List (Transition NodeRef)) (hdebug : debug = true)
    (hfails : ∃ texts, texts <+: r'.1.told ∧ sink texts = some reason)
    (hts : r'.1.record.transitions =
      x.record.transitions ++ ts ++ [⟨e.ref, .errored, some reason, none⟩])
    (hcourse : Course (Execution.Grounds w e x r'.1 true) e ts)

theorem complete_cases (sink : Sink) (x : Execution) (w : Workbench) (e : QueueEntry) :
    sink.complete x w e = (x.complete w e, true) ∨
      ∃ reason, sink.Fails reason ∧ sink.complete x w e = (x.complete w e, false) := by
  unfold complete
  dsimp only
  rcases sink.fault?_cases x (x.complete w e) with hnone | ⟨reason, hfault, hfails⟩
  · rw [hnone]
    exact Or.inl rfl
  · rw [hfault]
    exact Or.inr ⟨reason, ⟨_, hfails⟩, rfl⟩

theorem fst_complete (sink : Sink) (x : Execution) (w : Workbench) (e : QueueEntry) :
    (sink.complete x w e).1 = x.complete w e := rfl

theorem transitions_broken (x : Execution) (w : Workbench) (e : QueueEntry) (reason : String) :
    ((x.breakOff e reason).complete w e).record.transitions =
      x.record.transitions ++ [⟨e.ref, .errored, some reason, none⟩] :=
  (Execution.quiet_say _ w _).transitions

theorem told_broken (x : Execution) (w : Workbench) (e : QueueEntry) (reason : String) :
    x.told <+: ((x.breakOff e reason).complete w e).told := by
  have hbroken : ((x.breakOff e reason).clearBusy e.ref).told = x.told := x.told_note _
  rw [← hbroken]
  exact Execution.told_say _ w _

/-- **A failure in the work on an entry** breaks the entry off, and one outside of it the run. -/
theorem startEntry_goes (sink : Sink) (x : Execution) (w : Workbench) (debug : Bool)
    (e : QueueEntry) :
    Goes sink w debug e x (x.startEntry w debug e) (sink.startEntry x w debug e) := by
  have hsaid := x.quiet_say w s!"Running {e.kindName} {e.node.id}"
  have hrests := (x.rests_say w s!"Running {e.kindName} {e.node.id}").trans
    (Execution.rests_reach _ e.ref .started)
  unfold startEntry Execution.startEntry
  dsimp only
  rcases sink.fault?_cases x (x.say w s!"Running {e.kindName} {e.node.id}") with
    hnone | ⟨reason, hfault, hfails⟩
  · rw [hnone]
    dsimp only
    have hstarted : ((x.say w s!"Running {e.kindName} {e.node.id}").reach e.ref
        .started).record.transitions = x.record.transitions ++ [⟨e.ref, .started, none, none⟩] := by
      rw [← hsaid.transitions]
      rfl
    generalize (x.say w s!"Running {e.kindName} {e.node.id}").reach e.ref .started = x₁ at *
    have hyields : Yields sink debug x₁ (if debug then x₁.debugEntry w e else x₁.runEntry w e)
        (if debug then sink.debugEntry x₁ w e else sink.runEntry x₁ w e) := by
      cases debug with
      | true => exact sink.debugEntry_yields x₁ w e
      | false => exact sink.runEntry_yields x₁ w e
    have hearns : debug = true → Execution.Earns w true e x₁
        (if debug then x₁.debugEntry w e else x₁.runEntry w e).1 := by
      rintro rfl
      exact x₁.debugEntry_earns w e
    generalize (if debug then x₁.debugEntry w e else x₁.runEntry w e) = r at *
    generalize (if debug then sink.debugEntry x₁ w e else sink.runEntry x₁ w e) = r' at *
    obtain ⟨x₂, last⟩ := r
    cases hyields with
    | same h =>
      subst h
      cases last with
      | finished =>
        dsimp only
        rcases sink.complete_cases x₂ w e with hgoes | ⟨reason, hfails, hbreaks⟩
        · exact .same hgoes
        · exact .completed reason hfails hbreaks
      | failed reason =>
        dsimp only
        rcases sink.complete_cases (x₂.breakOff e reason) w e with
          hgoes | ⟨reason', hfails, hbreaks⟩
        · exact .same hgoes
        · exact .completed reason' hfails hbreaks
      | abandoned => exact .same rfl
    | early reason hfails hends hts =>
      obtain ⟨x', last'⟩ := r'
      subst hends
      refine .early reason hfails ?_
      rw [fst_complete, transitions_broken, hts, hstarted, List.append_assoc]
      rfl
    | late reason hdebug hfails h hends =>
      subst h
      obtain ⟨ts, hts, hcourse⟩ := hearns hdebug
      have hbroken : x₂.Rests (x₂.breakOff e reason) := ⟨⟨rfl, rfl⟩, rfl, rfl, rfl, rfl⟩
      have hends := hbroken.trans (Execution.rests_complete _ w e)
      refine .late reason (⟨e.ref, .started, none, none⟩ :: ts) hdebug
        ⟨_, told_broken x₂ w e reason, hfails⟩ ?_ ?_
      · rw [fst_complete, transitions_broken, hts, hstarted, List.append_assoc x.record.transitions]
        rfl
      · exact .own none none (by decide) (by decide)
          (hcourse.mono fun _ hs => (hs.after hrests).before hends)
  · rw [hfault]
    exact .unbegun reason ⟨_, hfails⟩ rfl hsaid.transitions

/-- **The visit of an entry** with a listener that may fail. -/
theorem entry_goes (sink : Sink) (x : Execution) (w : Workbench) (debug : Bool)
    (e : QueueEntry) : Goes sink w debug e x (x.entry w debug e) (sink.entry x w debug e) := by
  have harrive : x.Rests x.arrive := ⟨⟨rfl, rfl⟩, rfl, rfl, rfl, rfl⟩
  unfold entry Execution.entry
  dsimp only
  split
  · rcases sink.fault?_cases x.arrive (x.arrive.say w s!"Skipped {e.node.id}") with
      hnone | ⟨reason, hfault, hfails⟩
    · rw [hnone]
      exact .same rfl
    · rw [hfault]
      exact .unbegun reason ⟨_, hfails⟩ rfl (Execution.quiet_say _ w _).transitions
  · cases sink.startEntry_goes x.arrive w debug e with
    | same h => exact .same h
    | completed reason hfails h => exact .completed reason hfails h
    | unbegun reason hfails hends hts => exact .unbegun reason hfails hends hts
    | early reason hfails hts => exact .early reason hfails hts
    | late reason ts hdebug hfails hts hcourse =>
      exact .late reason ts hdebug hfails hts (hcourse.mono fun _ hs => hs.after harrive)

/-! ### 3.1 Without failures -/

/-- The listener never fails. -/
def Steady (sink : Sink) : Prop := ∀ texts, sink texts = none

theorem quiet_steady : quiet.Steady := fun _ => rfl

theorem Steady.not_fails (h : sink.Steady) {reason : String} : ¬ sink.Fails reason := by
  rintro ⟨texts, hfails⟩
  rw [h texts] at hfails
  cases hfails

theorem Steady.entry_eq (h : sink.Steady) (x : Execution) (w : Workbench) (debug : Bool)
    (e : QueueEntry) : sink.entry x w debug e = x.entry w debug e := by
  cases sink.entry_goes x w debug e with
  | same hsame => exact hsame
  | completed reason hfails _ => exact absurd hfails h.not_fails
  | unbegun reason hfails _ _ => exact absurd hfails h.not_fails
  | early reason hfails _ => exact absurd hfails h.not_fails
  | late reason ts _ hfails _ _ =>
    obtain ⟨texts, -, hfails⟩ := hfails
    exact absurd ⟨texts, hfails⟩ h.not_fails

theorem Steady.entries_eq (h : sink.Steady) (w : Workbench) (debug : Bool)
    (q : List QueueEntry) (x : Execution) : sink.entries x w debug q = x.entries w debug q := by
  induction q generalizing x with
  | nil => rfl
  | cons e rest ih =>
    rw [entries, Execution.entries, h.entry_eq]
    cases x.entry w debug e with
    | mk x' goesOn =>
      cases goesOn with
      | true => exact ih x'
      | false => rfl

/-- **With a listener that never fails** a run is what it is with one that takes whatever it is
    told. -/
theorem Steady.run_eq (h : sink.Steady) (c : Catalog) (w : Workbench) (r : RunRequest)
    (x : Execution) : sink.run c w r x = c.run w r x := by
  have hfault : ∀ y y' : Execution, sink.fault? y y' = none := by
    intro y y'
    unfold fault?
    split
    · rfl
    · exact h _
  unfold run Catalog.run
  dsimp only
  cases Queue.rejection? r.debug (c.queue r) with
  | some p =>
    dsimp only
    rw [hfault]
    rfl
  | none => rw [queue, Execution.queue, h.entries_eq]

end SuiteExplorer.Sink
