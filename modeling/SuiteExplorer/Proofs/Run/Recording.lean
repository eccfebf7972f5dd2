/-
  SuiteExplorer/Proofs/Run/Recording.lean
  =======================================
  **What the work on one entry leaves in the record of a run.**

  Most of what happens while an entry is worked on records no state at all: output
  is passed on, the journal is written, a debug host reports its sessions.  Such a
  step is `Quiet`.  What is left are the few places where a state is reached, and
  each way through the work on an entry passes exactly one of them: `Ending` lists
  what it may record there.  `startEntry_records` says so of both kinds of work,
  for every behaviour of the toolchain, of processes and of debug hosts.
-/
import SuiteExplorer.Run.Run

namespace SuiteExplorer

/-! ## 1. Recording -/

/-- The transitions of several nodes that reach one state. -/
def Transition.each (refs : List NodeRef) (state : RunState) : List (Transition NodeRef) :=
  refs.map fun n => ⟨n, state, none, none⟩

namespace Execution

/-- A step records no state, nobody begins or ends work on a node in it, and nothing is
    executed. -/
structure Quiet (x x' : Execution) : Prop where
  transitions : x'.record.transitions = x.record.transitions
  busy : x'.busy = x.busy
  spawns : x'.spawns = x.spawns
  launched : x'.launched = x.launched

/-- The work on `n` that leads from `x` to `x'` records the transitions `ts`; other
    nodes are as busy as they were. -/
structure Records (n : NodeRef) (x x' : Execution) (ts : List (Transition NodeRef)) : Prop where
  transitions : x'.record.transitions = x.record.transitions ++ ts
  busy : x'.busy.filter (· ≠ n) = x.busy.filter (· ≠ n)

variable {x x' x'' : Execution} {n : NodeRef} {ts us : List (Transition NodeRef)}

theorem Quiet.refl (x : Execution) : x.Quiet x := ⟨rfl, rfl, rfl, rfl⟩

theorem Quiet.trans (h : x.Quiet x') (h' : x'.Quiet x'') : x.Quiet x'' :=
  ⟨h'.transitions.trans h.transitions, h'.busy.trans h.busy, h'.spawns.trans h.spawns,
    h'.launched.trans h.launched⟩

theorem Quiet.records (h : x.Quiet x') : Records n x x' [] :=
  ⟨by rw [h.transitions, List.append_nil], by rw [h.busy]⟩

theorem Records.trans (h : Records n x x' ts) (h' : Records n x' x'' us) :
    Records n x x'' (ts ++ us) :=
  ⟨by rw [h'.transitions, h.transitions, List.append_assoc], h'.busy.trans h.busy⟩

theorem Records.after (h' : Records n x' x'' ts) (h : x.Quiet x') : Records n x x'' ts :=
  h.records.trans h'

theorem Records.before (h : Records n x x' ts) (h' : x'.Quiet x'') : Records n x x'' ts := by
  simpa using h.trans h'.records

theorem records_noteState (x : Execution) (t : Transition NodeRef) :
    Records n x (x.noteState t) [t] := ⟨rfl, rfl⟩

theorem records_reach (x : Execution) (ref : NodeRef) (state : RunState) :
    Records n x (x.reach ref state) [⟨ref, state, none, none⟩] := ⟨rfl, rfl⟩

theorem busy_reachAll (refs : List NodeRef) (state : RunState) (x : Execution) :
    (x.reachAll refs state).busy = x.busy := by
  induction refs generalizing x with
  | nil => rfl
  | cons r refs ih => exact ih (x.reach r state)

theorem transitions_reachAll (refs : List NodeRef) (state : RunState) (x : Execution) :
    (x.reachAll refs state).record.transitions =
      x.record.transitions ++ Transition.each refs state := by
  induction refs generalizing x with
  | nil => exact (List.append_nil _).symm
  | cons r refs ih =>
    have hreach : (x.reach r state).record.transitions =
        x.record.transitions ++ [⟨r, state, none, none⟩] := rfl
    have hrest := ih (x.reach r state)
    rw [hreach, List.append_assoc] at hrest
    exact hrest

/-- States that are reached are recorded, and nothing else happens. -/
theorem reachAll_eq (refs : List NodeRef) (state : RunState) (x : Execution) :
    x.reachAll refs state = { x with record := (x.reachAll refs state).record } := by
  induction refs generalizing x with
  | nil => rfl
  | cons r refs ih => exact ih (x.reach r state)

theorem records_reachAll (refs : List NodeRef) (state : RunState) (x : Execution) :
    Records n x (x.reachAll refs state) (Transition.each refs state) :=
  ⟨transitions_reachAll refs state x, by rw [busy_reachAll]⟩

theorem records_setBusy (x : Execution) (n : NodeRef) : Records n x (x.setBusy n) [] := by
  refine ⟨(List.append_nil _).symm, ?_⟩
  rw [setBusy, List.filter_cons_of_neg (by simp)]

/-! ## 2. Output and processes are quiet -/

theorem quiet_note (x : Execution) (e : JournalEvent) : x.Quiet (x.note e) := ⟨rfl, rfl, rfl, rfl⟩

theorem quiet_noteAll (journal : Journal) (x : Execution) : x.Quiet (x.noteAll journal) := by
  induction journal generalizing x with
  | nil => exact .refl x
  | cons e journal ih => exact (x.quiet_note e).trans (ih (x.note e))

theorem quiet_tell (x : Execution) (w : Workbench) (text : String) : x.Quiet (x.tell w text) := by
  unfold tell
  split
  · exact ⟨rfl, rfl, rfl, rfl⟩
  · exact .refl x

theorem quiet_append (x : Execution) (w : Workbench) (text : String) :
    x.Quiet (x.append w text) := by
  have happend : x.Quiet { x with record := x.record.append text } := ⟨rfl, rfl, rfl, rfl⟩
  exact happend.trans (quiet_tell _ w text)

theorem quiet_say (x : Execution) (w : Workbench) (line : String) : x.Quiet (x.say w line) :=
  x.quiet_append w _

theorem told_note (x : Execution) (event : JournalEvent) : (x.note event).told = x.told := by
  simp [told, note, Notice.told?]

/-- What has been told stays told. -/
theorem told_say (x : Execution) (w : Workbench) (line : String) :
    x.told <+: (x.say w line).told := by
  unfold say append tell
  split
  · simp only [told, List.filterMap_append]
    exact List.prefix_append _ _
  · exact List.prefix_refl _

theorem quiet_report (x : Execution) (e : JournalEvent) (p : Problem) :
    x.Quiet ((x.note e).addProblem p) := ⟨rfl, rfl, rfl, rfl⟩

theorem quiet_arrive (x : Execution) : x.Quiet x.arrive := ⟨rfl, rfl, rfl, rfl⟩

/-! ### 2.1 Waiting for a process -/

section Waiting

variable {P : Execution → Prop} {w : Workbench}

/-- What output does not change, passing characters on does not change. -/
theorem passOn_keeps (happend : ∀ x text, P x → P (x.append w text)) {x : Execution} (hx : P x)
    (s : Stream) (pending : Text.Utf8.Pending) (chars : List Char) :
    P (x.passOn w s pending chars).1 := by
  unfold passOn
  split
  · exact hx
  · exact happend x _ hx

theorem pump_keeps (happend : ∀ x text, P x → P (x.append w text)) (pieces : List Bytes)
    {x : Execution} (hx : P x) (s : Stream) : P (x.pump w s pieces).1 := by
  induction pieces generalizing x s with
  | nil => exact hx
  | cons piece rest ih => exact ih (passOn_keeps happend hx s _ _) _

theorem finishProcess_keeps (happend : ∀ x text, P x → P (x.append w text)) {x : Execution}
    (hx : P x) (s : Streams) (last : ProcessEnd) (lag : Nat) :
    P (x.finishProcess w s last lag).1 := by
  have hout : P (x.endStream w s.stdout).1 := passOn_keeps happend hx s.stdout _ _
  have herr : P ((x.endStream w s.stdout).1.endStream w s.stderr).1 :=
    passOn_keeps happend hout s.stderr _ _
  unfold finishProcess
  dsimp only
  split
  · exact hout
  · split
    · exact herr
    · cases last with
      | exits code => exact herr
      | hangs => exact herr

/-- **While a process is waited for**, there is output and the run may be cancelled.  What
    neither of them changes stays. -/
theorem communicate_keeps (happend : ∀ x text, P x → P (x.append w text))
    (hcancel : ∀ x : Execution, P x → P { x with cancel := x.cancel.set }) {x : Execution}
    (hx : P x) (s : Streams) (last : ProcessEnd) (lag : Nat) (events : List ProcessEvent) :
    P (x.communicate w s last lag events).1 := by
  induction events generalizing x s lag with
  | nil =>
    unfold communicate
    split
    · exact hx
    · exact finishProcess_keeps happend hx s last _
  | cons e rest ih =>
    unfold communicate
    split
    · exact hx
    · cases e with
      | stdout bytes => exact ih (pump_keeps happend _ hx s.stdout) _ _
      | stderr bytes => exact ih (pump_keeps happend _ hx s.stderr) _ _
      | cancel => exact ih (hcancel x hx) s _
      | gone => exact ih hx _ _

end Waiting

/-- What may come of waiting for a process that ends in one of the ways there are. -/
inductive WaitsFor : ProcessEnd → ProcessOutcome → Prop where
  | exited (code : Int) : WaitsFor (.exits code) (.exited code)
  | cancelled (last : ProcessEnd) : WaitsFor last .cancelled
  | never : WaitsFor .hangs .never

theorem communicate_waitsFor (w : Workbench) (last : ProcessEnd) (events : List ProcessEvent)
    (lag : Nat) (x : Execution) (s : Streams) :
    WaitsFor last (x.communicate w s last lag events).2.2 := by
  induction events generalizing x s lag with
  | nil =>
    unfold communicate
    split
    · exact .cancelled last
    · unfold finishProcess
      dsimp only
      split
      · exact .cancelled last
      · split
        · exact .cancelled last
        · cases last with
          | exits code => exact .exited code
          | hangs =>
            dsimp only
            split
            · exact .cancelled .hangs
            · exact .never
  | cons e rest ih =>
    unfold communicate
    split
    · exact .cancelled last
    · cases e with
      | stdout bytes => exact ih _ _ _
      | stderr bytes => exact ih _ _ _
      | cancel => exact ih _ _ _
      | gone => exact ih _ _ _

theorem quiet_passOn (x : Execution) (w : Workbench) (s : Stream)
    (pending : Text.Utf8.Pending) (chars : List Char) : x.Quiet (x.passOn w s pending chars).1 :=
  passOn_keeps (fun y text hy => hy.trans (y.quiet_append w text)) (.refl x) s pending chars

/-- Waiting for a process records nothing, whatever it does. -/
theorem quiet_communicate (w : Workbench) (last : ProcessEnd) (events : List ProcessEvent)
    (lag : Nat) (x : Execution) (s : Streams) :
    x.Quiet (x.communicate w s last lag events).1 :=
  communicate_keeps (fun y text hy => hy.trans (y.quiet_append w text))
    (fun _ hy => hy.trans ⟨rfl, rfl, rfl, rfl⟩) (.refl x) s last lag events

/-! ## 3. Debug hosts are quiet -/

theorem quiet_hear (a : Attempt) (f : DebugTracker → DebugTracker) :
    a.execution.Quiet (a.hear f).execution := by
  unfold Attempt.hear
  split
  · exact .refl _
  · exact ⟨rfl, rfl, rfl, rfl⟩

theorem quiet_deliver (a : Attempt) (e : HostEvent) :
    a.execution.Quiet (a.deliver e).execution := by
  cases e with
  | claim who =>
    simp only [Attempt.deliver]
    split
    · exact ⟨rfl, rfl, rfl, rfl⟩
    · exact ⟨rfl, rfl, rfl, rfl⟩
  | started who => exact ⟨rfl, rfl, rfl, rfl⟩
  | terminated who =>
    have hset : a.execution.Quiet (a.setCorrelator
        (a.execution.correlator.sessionTerminated (a.sessionOf who)).1).execution :=
      ⟨rfl, rfl, rfl, rfl⟩
    exact hset.trans (quiet_noteAll _ _)
  | message m => exact quiet_hear a _
  | adapterError text => exact quiet_hear a _
  | adapterExit code => exact quiet_hear a _
  | log content => exact ⟨rfl, rfl, rfl, rfl⟩
  | cancel => exact ⟨rfl, rfl, rfl, rfl⟩
  | dispose => exact ⟨rfl, rfl, rfl, rfl⟩

theorem quiet_deliverAll (events : List HostEvent) (a : Attempt) :
    a.execution.Quiet (a.deliverAll events).execution := by
  induction events generalizing a with
  | nil => exact .refl _
  | cons e events ih => exact (quiet_deliver a e).trans (ih (a.deliver e))

theorem quiet_awaitUntil {decided? : Attempt → Option WaitEnd} {events rest : List HostEvent}
    {a a' : Attempt} {last : WaitEnd} (h : a.awaitUntil decided? events = (a', rest, last)) :
    a.execution.Quiet a'.execution := by
  induction events generalizing a with
  | nil =>
    cases h
    exact .refl _
  | cons e events ih =>
    unfold Attempt.awaitUntil at h
    split at h
    · cases h
      exact .refl _
    · exact (quiet_deliver a e).trans (ih h)

theorem quiet_awaitStop (a : Attempt) (id : Entries) (script : HostScript)
    (events : List HostEvent) :
    a.execution.Quiet (a.awaitStop id script events).1.execution := by
  unfold Attempt.awaitStop
  split
  · exact .refl _
  · split
    · next hend => exact quiet_awaitUntil hend
    · next hend => exact quiet_awaitUntil hend
    · next hend => exact (quiet_awaitUntil hend).trans (quiet_note _ _)

/-- Stopping a session records nothing, whatever the host does meanwhile. -/
theorem quiet_stop (a : Attempt) (e : QueueEntry) (script : HostScript)
    (events : List HostEvent) : a.execution.Quiet (a.stop e script events).1.execution := by
  unfold Attempt.stop
  split
  · -- the session has started, and its end is waited for unless it has come
    next hstart =>
      have hstarted := quiet_awaitUntil hstart
      dsimp only
      split
      · exact hstarted.trans (quiet_note _ _)
      · refine Quiet.trans (hstarted.trans ?_) (quiet_awaitStop _ _ _ _)
        exact ⟨rfl, rfl, rfl, rfl⟩
  · next hstart => exact quiet_awaitUntil hstart
  · next hstart => exact (quiet_awaitUntil hstart).trans (quiet_note _ _)

theorem quiet_showDebuggerLog (x : Execution) (w : Workbench) (path : Path) :
    x.Quiet (x.showDebuggerLog w path) := by
  unfold showDebuggerLog
  split
  · exact .refl x
  · dsimp only
    split
    · exact .refl x
    · exact x.quiet_say w _

theorem quiet_launchConfiguration (x : Execution) (w : Workbench) (node : NodeInfo)
    (what : Runnable) : x.Quiet (x.launchConfiguration w node what).1 := by
  have hlook : x.Quiet ((x.lookUp w).2.noteNoToolchain w) := ⟨rfl, rfl, rfl, rfl⟩
  unfold launchConfiguration
  dsimp only
  split
  · exact hlook.trans (quiet_tell _ w _)
  · exact ⟨rfl, rfl, rfl, rfl⟩

end Execution

/-! ## 4. How the work on an entry may end -/

/-- What the work on a started entry records last.  Children are in step with their
    suite: they pass with it, and are skipped when it fails. -/
inductive Ending (e : QueueEntry) : List (Transition NodeRef) → Prop where
  | passed (duration : Option Int) :
    Ending e (⟨e.ref, .passed, none, duration⟩ :: Transition.each e.children .passed)
  | failed (message : Option String) (duration : Option Int) :
    Ending e (⟨e.ref, .failed, message, duration⟩ :: Transition.each e.children .skipped)
  | skipped : Ending e [⟨e.ref, .skipped, none, none⟩]
  | errored (reason : String) : Ending e [⟨e.ref, .errored, some reason, none⟩]
  | cancelled (duration : Option Int) :
    Ending e [⟨e.ref, .skipped, none, none⟩,
      ⟨e.ref, .errored, some Execution.cancelledMessage, duration⟩]

/-- What the work on an entry has recorded when it ends.  If it broke off, that is
    nothing yet. -/
inductive EntryEnd.Leaves (e : QueueEntry) : EntryEnd → List (Transition NodeRef) → Prop where
  | finished {ending : List (Transition NodeRef)} : Ending e ending → Leaves e .finished ending
  | failed (reason : String) : Leaves e (.failed reason) []
  | abandoned : Leaves e .abandoned []

namespace Execution

/-- The work on an entry has led from `x` to the given execution and end. -/
def WorksOn (e : QueueEntry) (x : Execution) (r : Execution × EntryEnd) : Prop :=
  ∃ ts, Records e.ref x r.1 ts ∧ r.2.Leaves e ts

variable {x x' : Execution} {e : QueueEntry} {ending : List (Transition NodeRef)}

theorem WorksOn.of_ending (hending : Ending e ending) (h : Records e.ref x x' ending) :
    WorksOn e x (x', .finished) :=
  ⟨ending, h, .finished hending⟩

theorem WorksOn.of_failed (reason : String) (h : Records e.ref x x' []) :
    WorksOn e x (x', .failed reason) :=
  ⟨[], h, .failed reason⟩

theorem WorksOn.of_abandoned (h : Records e.ref x x' []) : WorksOn e x (x', .abandoned) :=
  ⟨[], h, .abandoned⟩

theorem WorksOn.after {r : Execution × EntryEnd} (h' : WorksOn e x' r)
    (h : Records e.ref x x' []) : WorksOn e x r := by
  obtain ⟨ts, hrecords, hleaves⟩ := h'
  exact ⟨ts, by simpa using h.trans hrecords, hleaves⟩

/-- An entry that is not worked on any further is skipped. -/
theorem WorksOn.of_skipped (h : x.Quiet x') : WorksOn e x (x'.reach e.ref .skipped, .finished) :=
  .of_ending .skipped ((x'.records_reach e.ref .skipped).after h)

/-! ### 4.1 In a process -/

theorem settle_worksOn (x : Execution) (w : Workbench) (e : QueueEntry) (s : Streams)
    (code elapsed : Int) : WorksOn e x (x.settle w e s code elapsed, .finished) := by
  unfold settle
  split
  · exact .of_ending (.passed (some elapsed))
      ((x.records_noteState _).trans (records_reachAll e.children .passed _))
  · exact .of_ending (.failed _ (some elapsed))
      (((records_noteState _ _).after (x.quiet_say w _)).trans
        (records_reachAll e.children .skipped _))

/-- Killing a process counts it, if it is still there, and does nothing else. -/
theorem kill_eq (x : Execution) (gone : Bool) :
    x.kill gone = { x with killed := x.killed + (!gone).toNat } := by
  cases gone with
  | true => rfl
  | false => rfl

theorem quiet_kill (x : Execution) (gone : Bool) : x.Quiet (x.kill gone) := by
  rw [kill_eq]
  exact ⟨rfl, rfl, rfl, rfl⟩

theorem settleCancelled_worksOn (x : Execution) (e : QueueEntry) (gone : Bool) (elapsed : Int) :
    WorksOn e x (x.settleCancelled e gone elapsed, .finished) := by
  have hkilled := (x.quiet_kill gone).trans
    (quiet_note _ (.info "test_process_cancelled" [("test_id", .text e.node.id)]))
  have hskipped := (records_reach _ e.ref .skipped).after (n := e.ref) hkilled
  exact .of_ending (.cancelled (some elapsed)) (hskipped.trans (records_noteState _ _))

theorem runProcess_worksOn (x : Execution) (w : Workbench) (e : QueueEntry) (spawn : Spawn) :
    WorksOn e x (x.runProcess w e spawn) := by
  have hbusy := x.records_setBusy e.ref
  have hbegun : Records e.ref x (x.beginProcess e spawn) [] := ⟨hbusy.transitions, hbusy.busy⟩
  unfold runProcess
  dsimp only
  split
  · exact .of_failed _ hbegun
  · next events last elapsed _ =>
    have hwait := quiet_communicate w last events (x.lags.headD 0) (x.beginProcess e spawn) {}
    -- the three ways in which the wait for a process ends
    split
    · next heq =>
      rw [heq] at hwait
      exact (settle_worksOn _ w e _ _ elapsed).after (hbegun.before hwait)
    · next heq =>
      rw [heq] at hwait
      exact (settleCancelled_worksOn _ e _ elapsed).after (hbegun.before hwait)
    · next heq =>
      rw [heq] at hwait
      exact .of_abandoned (hbegun.before hwait)

/-- **Running an entry** records one of its endings, if the run goes on. -/
theorem runEntry_worksOn (x : Execution) (w : Workbench) (e : QueueEntry) :
    WorksOn e x (x.runEntry w e) := by
  have hlook : x.Quiet (x.lookUp w).2 := ⟨rfl, rfl, rfl, rfl⟩
  unfold runEntry
  split
  · next x' heq =>
    rw [heq] at hlook
    have hnoted := hlook.trans (x'.quiet_note (.debug "go_binary_not_found"
      [("binary", .text w.toolchain.goBinary)]))
    exact .of_skipped ((hnoted.trans (quiet_report _ _ _)).trans (quiet_say _ w _))
  · next toolchain x' heq =>
    rw [heq] at hlook
    split
    · exact .of_skipped (hlook.trans (quiet_note _ _))
    · split
      · exact .of_failed _ hlook.records
      · exact (runProcess_worksOn x' w e _).after hlook.records

/-! ### 4.2 In a debug session -/

theorem settleDebugged_worksOn (x : Execution) (e : QueueEntry) (verdict : RunState)
    (transcript : String) : WorksOn e x (x.settleDebugged e verdict transcript, .finished) := by
  unfold settleDebugged
  split
  · exact .of_ending (.passed none)
      ((x.records_reach e.ref .passed).trans (records_reachAll e.children .passed _))
  · exact .of_ending (.failed (some transcript) none)
      ((x.records_noteState _).trans (records_reachAll e.children .skipped _))
  · exact .of_skipped (.refl x)

/-- A session that ends comes to a verdict, and at most something is said before it. -/
theorem concludeDebug_eq_ok {x x' : Execution} {w : Workbench} {e : QueueEntry}
    {tracker? : Option DebugTracker} (h : x.concludeDebug w e tracker? = .ok x') :
    ∃ x₁ verdict transcript, (x₁ = x ∨ ∃ said, x₁ = x.say w said) ∧
      DebugTracker.verdict? tracker? = .ok verdict ∧
        x' = x₁.settleDebugged e verdict transcript := by
  unfold concludeDebug at h
  cases tracker? with
  | none =>
    cases h
    exact ⟨x, .skipped, "", Or.inl rfl, rfl, rfl⟩
  | some t =>
    cases htranscript : t.transcript with
    | error fault => simp [htranscript, bind, Except.bind] at h
    | ok transcript =>
      cases hverdict : DebugTracker.verdict? (some t) with
      | error fault => simp [htranscript, hverdict, bind, Except.bind] at h
      | ok verdict =>
        simp only [htranscript, hverdict, bind, Except.bind, pure, Except.pure,
          Option.isSome_some, if_true, Except.ok.injEq] at h
        exact ⟨x.say w transcript, verdict, transcript, Or.inr ⟨transcript, rfl⟩, rfl, h.symm⟩

theorem concludeDebug_worksOn {x x' : Execution} {w : Workbench} {e : QueueEntry}
    {tracker? : Option DebugTracker} (h : x.concludeDebug w e tracker? = .ok x') :
    WorksOn e x (x', .finished) := by
  obtain ⟨x₁, verdict, transcript, hsaid, -, rfl⟩ := concludeDebug_eq_ok h
  rcases hsaid with rfl | ⟨said, rfl⟩
  · exact settleDebugged_worksOn x₁ e _ _
  · exact (settleDebugged_worksOn _ e _ _).after (x.quiet_say w said).records

/-- Waiting for a session ends in a verdict, in its being stopped, or not at all. -/
theorem awaitSession_worksOn (a : Attempt) (w : Workbench) (e : QueueEntry)
    (script : HostScript) : WorksOn e a.execution (awaitSession a w e script) := by
  unfold awaitSession
  split
  next a' rest last hwait =>
    refine WorksOn.after ?_ (quiet_awaitUntil hwait).records
    dsimp only
    split
    · have hstop := quiet_stop a' e script rest
      cases hend : a'.stop e script rest with
      | mk a'' ended =>
        rw [hend] at hstop
        cases ended with
        | finished =>
          refine WorksOn.after ?_ hstop.records
          exact .of_ending (.cancelled none) (((records_reach _ e.ref .skipped)).trans
            (records_noteState _ _))
        | failed reason => exact .of_failed reason hstop.records
        | abandoned => exact .of_abandoned hstop.records
    · exact .of_abandoned (Quiet.refl _).records
    · exact .of_abandoned (Quiet.refl _).records
    · unfold concludeSession
      cases hconclude : a'.execution.concludeDebug w e a'.tracker? with
      | error fault => exact .of_failed _ (Quiet.refl _).records
      | ok x' =>
        obtain ⟨ts, hrecords, hleaves⟩ := concludeDebug_worksOn hconclude
        exact ⟨ts, hrecords.before (x'.quiet_showDebuggerLog w _), hleaves⟩

theorem startSession_worksOn (x : Execution) (w : Workbench) (e : QueueEntry) (token : String)
    (configuration : Entries) (logFile : Path) :
    WorksOn e x (x.startSession w e token configuration logFile) := by
  have hbusy := x.records_setBusy e.ref
  have hasked : Records e.ref x (x.beginSession e token configuration) [] :=
    ⟨hbusy.transitions, hbusy.busy⟩
  have hbegun := hasked.before
    (quiet_deliverAll (x.hosts.headD {}).meanwhile (x.beginAttempt e token configuration logFile))
  unfold startSession
  dsimp only
  split
  · exact .of_failed _ hbegun
  · exact (WorksOn.of_skipped ((quiet_report _ _ _).trans (quiet_say _ w _))).after hbegun
  · exact (awaitSession_worksOn _ w e _).after hbegun

/-- **Debugging an entry** records one of its endings, if the run goes on. -/
theorem debugEntry_worksOn (x : Execution) (w : Workbench) (e : QueueEntry) :
    WorksOn e x (x.debugEntry w e) := by
  unfold debugEntry
  split
  · exact .of_skipped ((x.quiet_report _ _).trans (quiet_say _ w _))
  · have hlaunch := x.quiet_launchConfiguration w e.node e.what
    split
    · next heq =>
      rw [heq] at hlaunch
      exact .of_failed _ hlaunch.records
    · next heq =>
      rw [heq] at hlaunch
      exact .of_skipped hlaunch
    · next heq =>
      rw [heq] at hlaunch
      dsimp only
      split
      · exact .of_failed _ (Quiet.records
          ⟨hlaunch.transitions, hlaunch.busy, hlaunch.spawns, hlaunch.launched⟩)
      · refine WorksOn.after ?_ hlaunch.records
        obtain ⟨ts, hrecords, hleaves⟩ := startSession_worksOn _ w e _ _ _
        exact ⟨ts, ⟨hrecords.transitions, hrecords.busy⟩, hleaves⟩

end Execution
end SuiteExplorer
