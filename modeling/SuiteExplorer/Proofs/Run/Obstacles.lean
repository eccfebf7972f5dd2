/-
  SuiteExplorer/Proofs/Run/Obstacles.lean
  =======================================
  **What is reported of an entry that could not be executed.**

  An entry may be started and yet not be executed: the toolchain is not found, no debug
  host is attached, or the host does not start the session.  In each case the entry is
  skipped, and a report is three things: a problem in the record, a line in the output of
  the run, and a run that does not count as a success.

  Every obstacle is reported so, in both ways to run an entry, but for one: when an entry
  is debugged and a host is there, the missing toolchain is found where the launch
  configuration is made, which is also made without any run.  Then the line is told to
  the listener only, no problem is recorded, and the run is a success
  (`reports_obstacle_iff`).
-/
import SuiteExplorer.Proofs.Run.Lockstep
import SuiteExplorer.Proofs.Run.Report

namespace SuiteExplorer

open Transition

/-! ## 1. Obstacles -/

/-- What may keep an entry that was started from being executed. -/
inductive Obstacle where
  /-- the executable of the toolchain is not found -/
  | toolchain
  /-- no debug host is attached -/
  | debugger
  /-- the debug host does not start the session -/
  | refusal
deriving Repr, DecidableEq

namespace Obstacle

/-- The problem that is to be recorded. -/
def problem (w : Workbench) (e : QueueEntry) : Obstacle → Problem
  | toolchain => .noToolchain w.toolchain.goBinary
  | debugger => .noDebugger
  | refusal => .sessionRefused e.node.id

/-- The line that is to be in the output of the run. -/
def line (w : Workbench) (e : QueueEntry) : Obstacle → String
  | toolchain => Execution.noToolchainLine
  | debugger => s!"error: {(debugger.problem w e).message}"
  | refusal => s!"error: {(refusal.problem w e).message}"

/-- The toolchain is missing for an entry that is debugged. -/
def IsSilent (debug : Bool) (o : Obstacle) : Prop := debug = true ∧ o = toolchain

instance (debug : Bool) (o : Obstacle) : Decidable (o.IsSilent debug) :=
  inferInstanceAs (Decidable (_ ∧ _))

/-- The record of an entry that an obstacle keeps from being executed. -/
def leaves (w : Workbench) (debug : Bool) (e : QueueEntry) (o : Obstacle) (r : Record NodeRef) :
    Record NodeRef :=
  if o.IsSilent debug then r.reach e.ref .skipped
  else ((r.addProblem (o.problem w e)).append (o.line w e ++ "\r\n")).reach e.ref .skipped

/-- From `x` to `x'` an obstacle is in the way of an entry, as the world has it: the
    executable cannot be found at its turn, there is no host, or the host was asked for
    a session and refuses. -/
inductive Hinders (w : Workbench) (x x' : Execution) : Bool → Obstacle → Prop where
  | run (h : w.toolchain.resolve? (x.lookups.headD w.executables) = none) :
    Hinders w x x' false toolchain
  | unhosted (h : w.hasDebugger = false) : Hinders w x x' true debugger
  | debug (hhost : w.hasDebugger = true)
    (h : w.toolchain.resolve? (x.lookups.headD w.executables) = none) :
    Hinders w x x' true toolchain
  | refused (hasked : x.launched.length < x'.launched.length)
    (h : (x.hosts.headD {}).start = .refuses) : Hinders w x x' true refusal

theorem Hinders.congr {w : Workbench} {x x' y y' : Execution} {debug : Bool} {o : Obstacle}
    (h : Hinders w x x' debug o) (hlookups : y.lookups = x.lookups) (hhosts : y.hosts = x.hosts)
    (hbefore : y.launched = x.launched) (hafter : y'.launched = x'.launched) :
    Hinders w y y' debug o := by
  cases h with
  | run h => exact .run (hlookups ▸ h)
  | unhosted h => exact .unhosted h
  | debug hhost h => exact .debug hhost (hlookups ▸ h)
  | refused hasked h => exact .refused (by rwa [hafter, hbefore]) (hhosts ▸ h)

end Obstacle

/-! ## 2. The work on an entry with an obstacle -/

namespace Execution

/-- Words for a listener are no part of the record. -/
theorem record_tell (x : Execution) (w : Workbench) (text : String) :
    (x.tell w text).record = x.record := by
  unfold tell
  split <;> rfl

theorem record_say (x : Execution) (w : Workbench) (line : String) :
    (x.say w line).record = x.record.append (line ++ "\r\n") :=
  record_tell { x with record := x.record.append (line ++ "\r\n") } w _

/-- What is said takes nothing from what the world will answer. -/
theorem answers_say (x : Execution) (w : Workbench) (line : String) :
    (x.say w line).lookups = x.lookups ∧ (x.say w line).hosts = x.hosts := by
  unfold say append tell
  split <;> exact ⟨rfl, rfl⟩

theorem record_noteAll (journal : Journal) (x : Execution) :
    (x.noteAll journal).record = x.record := by
  induction journal generalizing x with
  | nil => rfl
  | cons e journal ih => exact ih (x.note e)

theorem record_deliver (a : Attempt) (e : HostEvent) :
    (a.deliver e).execution.record = a.execution.record := by
  have hhear : ∀ f, (a.hear f).execution.record = a.execution.record := by
    intro f
    unfold Attempt.hear
    split <;> rfl
  cases e with
  | claim who =>
    simp only [Attempt.deliver]
    split <;> rfl
  | started who => rfl
  | terminated who => exact record_noteAll _ _
  | message m => exact hhear _
  | adapterError text => exact hhear _
  | adapterExit code => exact hhear _
  | log content => rfl
  | cancel => rfl
  | dispose => rfl

theorem record_deliverAll (events : List HostEvent) (a : Attempt) :
    (a.deliverAll events).execution.record = a.execution.record := by
  induction events generalizing a with
  | nil => rfl
  | cons e events ih => exact (ih (a.deliver e)).trans (record_deliver a e)

/-- The work on an entry ends with what the obstacle leaves, and no process is spawned. -/
structure Stops (w : Workbench) (debug : Bool) (e : QueueEntry) (o : Obstacle) (x : Execution)
    (r : Execution × EntryEnd) : Prop where
  record : r.1.record = o.leaves w debug e x.record
  spawns : r.1.spawns = x.spawns
  ends : r.2 = .finished

variable {x : Execution} {w : Workbench} {e : QueueEntry} {o : Obstacle}

theorem runEntry_stops (h : Obstacle.Hinders w x (x.runEntry w e).1 false o) :
    Stops w false e o x (x.runEntry w e) := by
  cases h with
  | run h =>
    have hwork : x.runEntry w e = (((((x.lookUp w).2.noteNoToolchain w).addProblem
        (.noToolchain w.toolchain.goBinary)).say w noToolchainLine).reach e.ref .skipped,
          .finished) := by
      unfold runEntry lookUp
      rw [h]
    rw [hwork]
    refine ⟨?_, (quiet_say _ w _).spawns, rfl⟩
    exact congrArg (fun r : Record NodeRef => r.reach e.ref .skipped) (record_say _ w _)

theorem startSession_stops (h : (x.hosts.headD {}).start = .refuses) (token : String)
    (configuration : Entries) (logFile : Path) :
    Stops w true e .refusal x (x.startSession w e token configuration logFile) := by
  have hheard := quiet_deliverAll (x.hosts.headD {}).meanwhile
    (x.beginAttempt e token configuration logFile)
  have hrecord := record_deliverAll (x.hosts.headD {}).meanwhile
    (x.beginAttempt e token configuration logFile)
  unfold startSession
  dsimp only
  rw [h]
  refine ⟨?_, (quiet_say _ w _).spawns.trans hheard.spawns, rfl⟩
  have hsaid := congrArg (fun r : Record NodeRef =>
    (r.addProblem (Obstacle.refusal.problem w e)).append (Obstacle.refusal.line w e ++ "\r\n"))
    hrecord
  exact congrArg (fun r : Record NodeRef => r.reach e.ref .skipped) ((record_say _ w _).trans hsaid)

/-- A launch configuration takes one look for the toolchain, and nothing else. -/
theorem launchConfiguration_of_ok {x' : Execution} {node : NodeInfo} {what : Runnable}
    {bare : Entries} (h : x.launchConfiguration w node what = (x', .ok bare)) :
    x' = { x with lookups := x.lookups.tail } := by
  unfold launchConfiguration at h
  dsimp only at h
  split at h
  · cases h
  · exact (congrArg Prod.fst h).symm

/-- A host that is asked for a session and refuses. -/
theorem debugEntry_stops_of_refused
    (hasked : x.launched.length < (x.debugEntry w e).1.launched.length)
    (h : (x.hosts.headD {}).start = .refuses) : Stops w true e .refusal x (x.debugEntry w e) := by
  -- wherever no host is asked, the sessions are those that there were
  have hidle : ∀ {x' : Execution}, x'.launched = x.launched →
      ¬x.launched.length < x'.launched.length := by
    intro x' hsame
    rw [hsame]
    exact Nat.lt_irrefl _
  unfold debugEntry at hasked ⊢
  by_cases hhost : (!w.hasDebugger) = true
  · rw [if_pos hhost] at hasked
    exact absurd hasked (hidle (quiet_say _ w _).launched)
  rw [if_neg hhost] at hasked ⊢
  have hlaunch := x.quiet_launchConfiguration w e.node e.what
  cases hconf : x.launchConfiguration w e.node e.what with
  | mk x' answer =>
    rw [hconf] at hasked hlaunch
    cases answer with
    | error refusal =>
      cases refusal with
      | noToolchain => exact absurd hasked (hidle hlaunch.launched)
      | noLibrary => exact absurd hasked (hidle hlaunch.launched)
      | badTemplate fault => exact absurd hasked (hidle hlaunch.launched)
    | ok bare =>
      obtain rfl := launchConfiguration_of_ok hconf
      dsimp only at hasked ⊢
      split
      · next hfolder =>
        rw [hfolder] at hasked
        exact absurd hasked (hidle rfl)
      · next files hfolder =>
        have hstops := fun token configuration logFile => startSession_stops (w := w) (e := e)
          (x := { x with lookups := x.lookups.tail, tokens := x.tokens + 1, files := files })
          h token configuration logFile
        exact ⟨(hstops _ _ _).record, (hstops _ _ _).spawns, (hstops _ _ _).ends⟩

/-- **Debugging an entry** with an obstacle in the way. -/
theorem debugEntry_stops (h : Obstacle.Hinders w x (x.debugEntry w e).1 true o) :
    Stops w true e o x (x.debugEntry w e) := by
  cases h with
  | unhosted h =>
    have hwork : x.debugEntry w e = ((((x.note (.warning "debugger_unavailable"
        Problem.noDebugger.report.entries)).addProblem .noDebugger).say w
          s!"error: {Problem.noDebugger.message}").reach e.ref .skipped, .finished) := by
      unfold debugEntry
      rw [h]
      rfl
    rw [hwork]
    refine ⟨?_, (quiet_say _ w _).spawns, rfl⟩
    exact congrArg (fun r : Record NodeRef => r.reach e.ref .skipped) (record_say _ w _)
  | debug hhost h =>
    have hwork : x.debugEntry w e = ((((x.lookUp w).2.noteNoToolchain w).tell w
        (noToolchainLine ++ "\r\n")).reach e.ref .skipped, .finished) := by
      unfold debugEntry launchConfiguration Workbench.launchConfiguration lookUp
      rw [hhost, h]
      rfl
    rw [hwork]
    refine ⟨?_, (quiet_tell _ w _).spawns, rfl⟩
    exact congrArg (fun r : Record NodeRef => r.reach e.ref .skipped) (record_tell _ w _)
  | refused hasked h => exact debugEntry_stops_of_refused hasked h

/-! ### 2.1 The whole visit -/

/-- The lines that the work on an entry begins and ends with. -/
def beginLine (e : QueueEntry) : String := s!"Running {e.kindName} {e.node.id}" ++ "\r\n"

def endLine (e : QueueEntry) : String := s!"Completed {e.kindName} {e.node.id}" ++ "\r\n"

/-- The work on an entry, from when it is started to when it is completed. -/
def work (x : Execution) (w : Workbench) (debug : Bool) (e : QueueEntry) : Execution × EntryEnd :=
  if debug then x.debugEntry w e else x.runEntry w e

/-- An entry as it is started. -/
def begin (x : Execution) (w : Workbench) (e : QueueEntry) : Execution :=
  (x.say w s!"Running {e.kindName} {e.node.id}").reach e.ref .started

theorem work_stops {debug : Bool} (h : Obstacle.Hinders w x (x.work w debug e).1 debug o) :
    Stops w debug e o x (x.work w debug e) := by
  cases debug with
  | true => exact debugEntry_stops h
  | false => exact runEntry_stops h

theorem startEntry_eq (x : Execution) (w : Workbench) (debug : Bool) (e : QueueEntry) :
    x.startEntry w debug e = match ((x.begin w e).work w debug e).2 with
      | .finished => (((x.begin w e).work w debug e).1.complete w e, true)
      | .failed reason => ((((x.begin w e).work w debug e).1.breakOff e reason).complete w e, true)
      | .abandoned => (((x.begin w e).work w debug e).1.clearBusy e.ref, false) := rfl

/-- Completing an entry asks for no session. -/
theorem launched_startEntry (x : Execution) (w : Workbench) (debug : Bool) (e : QueueEntry) :
    (x.startEntry w debug e).1.launched = ((x.begin w e).work w debug e).1.launched := by
  rw [startEntry_eq]
  cases ((x.begin w e).work w debug e).2 with
  | finished => exact (rests_complete _ w e).launched
  | failed reason => exact (rests_complete (breakOff _ e reason) w e).launched
  | abandoned => rfl

/-- **An entry with an obstacle in its way** is started, skipped and completed. -/
theorem startEntry_stops {debug : Bool}
    (h : Obstacle.Hinders w x (x.startEntry w debug e).1 debug o) :
    (x.startEntry w debug e).1.record =
        (o.leaves w debug e ((x.record.append (beginLine e)).reach e.ref .started)).append
          (endLine e) ∧
      (x.startEntry w debug e).1.spawns = x.spawns := by
  obtain ⟨hlookups, hhosts⟩ := x.answers_say w s!"Running {e.kindName} {e.node.id}"
  have hsaid := x.quiet_say w s!"Running {e.kindName} {e.node.id}"
  have hbegun : (x.begin w e).record = (x.record.append (beginLine e)).reach e.ref .started :=
    congrArg (fun r : Record NodeRef => r.reach e.ref .started) (x.record_say w _)
  have hstops : Stops w debug e o (x.begin w e) ((x.begin w e).work w debug e) :=
    work_stops (h.congr hlookups hhosts hsaid.launched (x.launched_startEntry w debug e).symm)
  rw [startEntry_eq, hstops.ends]
  constructor
  · refine (record_say _ w _).trans ?_
    exact congrArg (fun r : Record NodeRef => r.append (endLine e)) (hbegun ▸ hstops.record)
  · exact (rests_complete _ w e).spawns.trans (hstops.spawns.trans hsaid.spawns)

end Execution

/-! ## 3. Visits -/

namespace Visit

/-- The run was not cancelled when it came to the entry. -/
def Started (v : Visit) : Prop := ∃ t ∈ v.block, t.node = v.entry.ref ∧ t.state = .started

instance (v : Visit) : Decidable v.Started :=
  inferInstanceAs (Decidable (∃ t ∈ v.block, t.node = v.entry.ref ∧ t.state = .started))

variable {v : Visit} {w : Workbench} {debug : Bool} {o : Obstacle}

/-- An entry that is started is worked on. -/
theorem after_of_started (hafter : v.after = (v.before.entry w debug v.entry).1)
    (hstarted : v.Started) : v.after = (v.before.arrive.startEntry w debug v.entry).1 := by
  obtain ⟨t, ht, -, hstate⟩ := hstarted
  unfold Execution.entry at hafter
  dsimp only at hafter
  split at hafter
  · have hskipped : v.after.record.transitions =
        v.before.record.transitions ++ [⟨v.entry.ref, .skipped, none, none⟩] := by
      rw [hafter]
      exact congrArg (· ++ _) (Execution.quiet_say _ w _).transitions
    rw [block, hskipped, List.drop_left, List.mem_singleton] at ht
    rw [ht] at hstate
    cases hstate
  · exact hafter

/-- What a visit leaves in the record if an obstacle is in the way of its entry. -/
structure Stopped (w : Workbench) (debug : Bool) (o : Obstacle) (v : Visit) : Prop where
  record : v.after.record =
    (o.leaves w debug v.entry ((v.before.record.append (Execution.beginLine v.entry)).reach
      v.entry.ref .started)).append (Execution.endLine v.entry)
  spawns : v.after.spawns = v.before.spawns

theorem stopped (hafter : v.after = (v.before.entry w debug v.entry).1) (hstarted : v.Started)
    (h : Obstacle.Hinders w v.before v.after debug o) : v.Stopped w debug o := by
  have hstart := after_of_started hafter hstarted
  rw [hstart] at h
  have harrived : Obstacle.Hinders w v.before.arrive
      (v.before.arrive.startEntry w debug v.entry).1 debug o := h.congr rfl rfl rfl rfl
  obtain ⟨hrecord, hspawns⟩ := Execution.startEntry_stops harrived
  rw [← hstart] at hrecord hspawns
  exact ⟨hrecord, hspawns⟩

theorem Stopped.transitions (h : v.Stopped w debug o) :
    v.after.record.transitions = v.before.record.transitions ++
      [⟨v.entry.ref, .started, none, none⟩, ⟨v.entry.ref, .skipped, none, none⟩] := by
  rw [h.record, Obstacle.leaves]
  split
  · exact List.append_assoc ..
  · exact List.append_assoc ..

/-- The entry ends as skipped. -/
theorem Stopped.ending (h : v.Stopped w debug o) : v.ending? = some .skipped := by
  rw [ending?, block, h.transitions, List.drop_left]
  simp [lastState?]

/-- An obstacle that is not silent adds its problem and its line. -/
theorem Stopped.reports (h : v.Stopped w debug o) (ho : ¬o.IsSilent debug) :
    v.after.record.problems = v.before.record.problems ++ [o.problem w v.entry] ∧
      v.after.record.pieces = v.before.record.pieces ++ [Execution.beginLine v.entry,
        o.line w v.entry ++ "\r\n", Execution.endLine v.entry] := by
  rw [h.record, Obstacle.leaves, if_neg ho]
  refine ⟨rfl, ?_⟩
  simp [Record.append, Record.reach, Record.note, Record.addProblem]

/-- A silent one adds nothing. -/
theorem Stopped.silent (h : v.Stopped w debug o) (ho : o.IsSilent debug) :
    v.after.record.problems = v.before.record.problems ∧
      v.after.record.pieces = v.before.record.pieces ++ [Execution.beginLine v.entry,
        Execution.endLine v.entry] := by
  rw [h.record, Obstacle.leaves, if_pos ho]
  refine ⟨rfl, ?_⟩
  simp [Record.append, Record.reach, Record.note]

end Visit

/-! ## 4. Reports stay

A request to debug has one entry, so only a run may go on after an obstacle.  What it has
reported by then is never taken back. -/

namespace Execution

/-- Problems and pieces of output are added, and none is taken back. -/
structure Adds (x x' : Execution) : Prop where
  problems : x.record.problems <+: x'.record.problems
  pieces : x.record.pieces <+: x'.record.pieces

variable {x x' x'' : Execution} {w : Workbench}

theorem Adds.refl (x : Execution) : x.Adds x := ⟨List.prefix_refl _, List.prefix_refl _⟩

theorem Adds.trans (h : x.Adds x') (h' : x'.Adds x'') : x.Adds x'' :=
  ⟨h.problems.trans h'.problems, h.pieces.trans h'.pieces⟩

theorem adds_of_record (h : x'.record = x.record) : x.Adds x' :=
  ⟨h ▸ List.prefix_refl _, h ▸ List.prefix_refl _⟩

theorem adds_append (x : Execution) (w : Workbench) (text : String) : x.Adds (x.append w text) := by
  have hrecord : (x.append w text).record = x.record.append text :=
    record_tell { x with record := x.record.append text } w text
  constructor
  · rw [hrecord]
    exact List.prefix_refl _
  · rw [hrecord]
    exact List.prefix_append _ _

theorem adds_say (x : Execution) (w : Workbench) (line : String) : x.Adds (x.say w line) :=
  x.adds_append w _

theorem adds_reach (x : Execution) (ref : NodeRef) (state : RunState) :
    x.Adds (x.reach ref state) :=
  ⟨List.prefix_refl _, List.prefix_refl _⟩

theorem adds_noteState (x : Execution) (t : Transition NodeRef) : x.Adds (x.noteState t) :=
  ⟨List.prefix_refl _, List.prefix_refl _⟩

/-- States are no reports. -/
theorem reports_reachAll (refs : List NodeRef) (state : RunState) (x : Execution) :
    (x.reachAll refs state).record.problems = x.record.problems ∧
      (x.reachAll refs state).record.pieces = x.record.pieces := by
  induction refs generalizing x with
  | nil => exact ⟨rfl, rfl⟩
  | cons r refs ih => exact ih (x.reach r state)

theorem adds_reachAll (refs : List NodeRef) (state : RunState) (x : Execution) :
    x.Adds (x.reachAll refs state) := by
  obtain ⟨hproblems, hpieces⟩ := reports_reachAll refs state x
  exact ⟨hproblems ▸ List.prefix_refl _, hpieces ▸ List.prefix_refl _⟩

theorem adds_communicate (w : Workbench) (last : ProcessEnd) (events : List ProcessEvent)
    (lag : Nat) (x : Execution) (s : Streams) : x.Adds (x.communicate w s last lag events).1 :=
  communicate_keeps (fun y text hy => hy.trans (y.adds_append w text))
    (fun _ hy => hy.trans (adds_of_record rfl)) (.refl x) s last lag events

theorem adds_settle (x : Execution) (w : Workbench) (e : QueueEntry) (s : Streams)
    (code elapsed : Int) : x.Adds (x.settle w e s code elapsed) := by
  unfold settle
  split
  · exact (x.adds_noteState _).trans (adds_reachAll e.children .passed _)
  · exact ((x.adds_say w _).trans (adds_noteState _ _)).trans
      (adds_reachAll e.children .skipped _)

theorem adds_runProcess (x : Execution) (w : Workbench) (e : QueueEntry) (spawn : Spawn) :
    x.Adds (x.runProcess w e spawn).1 := by
  have hbegun : x.Adds (x.beginProcess e spawn) := adds_of_record rfl
  unfold runProcess
  dsimp only
  split
  · exact hbegun
  · next events last elapsed _ =>
    have hwait := adds_communicate w last events (x.lags.headD 0) (x.beginProcess e spawn) {}
    split
    · next heq =>
      rw [heq] at hwait
      exact (hbegun.trans hwait).trans (adds_settle _ w e _ _ elapsed)
    · next x' s heq =>
      rw [heq] at hwait
      have hkilled : x'.Adds (x'.settleCancelled e s.gone elapsed) := by
        rw [settleCancelled, kill_eq]
        exact ⟨List.prefix_refl _, List.prefix_refl _⟩
      exact (hbegun.trans hwait).trans hkilled
    · next heq =>
      rw [heq] at hwait
      exact hbegun.trans hwait

theorem adds_runEntry (x : Execution) (w : Workbench) (e : QueueEntry) :
    x.Adds (x.runEntry w e).1 := by
  have hlook : x.Adds (x.lookUp w).2 := adds_of_record rfl
  unfold runEntry
  split
  · next x' heq =>
    rw [heq] at hlook
    have hproblem :
        x'.Adds ((x'.noteNoToolchain w).addProblem (.noToolchain w.toolchain.goBinary)) :=
      ⟨List.prefix_append _ _, List.prefix_refl _⟩
    exact ((hlook.trans hproblem).trans (adds_say _ w _)).trans (adds_reach _ _ _)
  · next toolchain x' heq =>
    rw [heq] at hlook
    split
    · exact hlook.trans ⟨List.prefix_refl _, List.prefix_refl _⟩
    · split
      · exact hlook
      · exact hlook.trans (x'.adds_runProcess w e _)

theorem adds_complete (x : Execution) (w : Workbench) (e : QueueEntry) :
    x.Adds (x.complete w e) := by
  have hclear : x.Adds (x.clearBusy e.ref) := adds_of_record rfl
  exact hclear.trans (adds_say _ w _)

theorem adds_startEntry (x : Execution) (w : Workbench) (e : QueueEntry) :
    x.Adds (x.startEntry w false e).1 := by
  have hbegun : x.Adds (x.begin w e) := (x.adds_say w _).trans (adds_reach _ _ _)
  have hwork : x.Adds ((x.begin w e).work w false e).1 := hbegun.trans (adds_runEntry _ w e)
  refine hwork.trans ?_
  rw [startEntry_eq]
  cases ((x.begin w e).work w false e).2 with
  | finished => exact adds_complete _ w e
  | failed reason =>
    have hbroken : ∀ x : Execution, x.Adds (x.breakOff e reason) := fun x =>
      ⟨List.prefix_refl _, List.prefix_refl _⟩
    exact (hbroken _).trans (adds_complete _ w e)
  | abandoned => exact adds_of_record rfl

theorem adds_entry (x : Execution) (w : Workbench) (e : QueueEntry) :
    x.Adds (x.entry w false e).1 := by
  have harrive : x.Adds x.arrive := adds_of_record rfl
  unfold entry
  dsimp only
  split
  · exact (harrive.trans (adds_say _ w _)).trans (adds_reach _ _ _)
  · exact harrive.trans (adds_startEntry _ w e)

theorem adds_entries (w : Workbench) (q : List QueueEntry) (x : Execution) :
    x.Adds (x.entries w false q).1 := by
  induction q generalizing x with
  | nil => exact .refl x
  | cons e rest ih =>
    have hentry := x.adds_entry w e
    rw [entries]
    split
    · next x' heq =>
      rw [heq] at hentry
      exact hentry.trans (ih x')
    · next x' heq =>
      rw [heq] at hentry
      exact hentry

/-- **What a visit has reported** is in the record of the run. -/
theorem adds_of_visit (w : Workbench) (q : List QueueEntry) (x : Execution) :
    ∀ v ∈ x.visits w false q, v.after.Adds (x.entries w false q).1 := by
  induction q generalizing x with
  | nil => exact List.forall_mem_nil _
  | cons e rest ih =>
    cases hentry : x.entry w false e with
    | mk x' goesOn =>
      cases goesOn with
      | true =>
        obtain ⟨hvisits, hentries⟩ := visits_cons_of_goesOn hentry rest
        rw [hvisits, hentries]
        exact List.forall_mem_cons.mpr ⟨adds_entries w rest x', ih x'⟩
      | false =>
        obtain ⟨hvisits, hentries⟩ := visits_cons_of_breaksOff hentry rest
        rw [hvisits, hentries]
        exact List.forall_mem_singleton.mpr (.refl x')

end Execution

/-! ## 5. Runs -/

/-- An obstacle is reported: the visit adds its problem to the record and nobody takes it
    out again, its line is in the output of the run, and the run is no success. -/
structure Obstacle.Reported (w : Workbench) (v : Visit) (o : Obstacle)
    (report : RunReport NodeRef) : Prop where
  added : v.after.record.problems = v.before.record.problems ++ [o.problem w v.entry]
  kept : v.after.record.problems <+: report.record.problems
  line : ∃ before after,
    report.record.output = before ++ (o.line w v.entry ++ "\r\n") ++ after
  unsuccessful : report.ok = false

/-- Nothing is reported but that the entry has come and gone, and the run is a success. -/
structure Visit.Unreported (v : Visit) (report : RunReport NodeRef) : Prop where
  problems : report.record.problems = []
  output : report.record.output =
    String.join [Execution.beginLine v.entry, Execution.endLine v.entry]
  successful : report.ok = true

theorem RunReport.ok_eq_false_of_problem {report : RunReport NodeRef} {p : Problem}
    (h : p ∈ report.record.problems) : report.ok = false := by
  have hsome : report.record.problems.isEmpty = false := by
    rw [List.isEmpty_eq_false_iff]
    exact List.ne_nil_of_mem h
  rw [ok, hsome, Bool.and_false, Bool.false_and]

/-- What a visit has reported and a run has kept is reported of the run. -/
theorem Visit.Stopped.reported {v : Visit} {w : Workbench} {debug : Bool} {o : Obstacle}
    {report : RunReport NodeRef} (h : v.Stopped w debug o) (ho : ¬o.IsSilent debug)
    (hproblems : v.after.record.problems <+: report.record.problems)
    (hpieces : v.after.record.pieces <+: report.record.pieces) : o.Reported w v report := by
  obtain ⟨hadded, hsaid⟩ := h.reports ho
  obtain ⟨later, hlater⟩ := hpieces
  refine ⟨hadded, hproblems, ?_, ?_⟩
  · refine ⟨String.join (v.before.record.pieces ++ [Execution.beginLine v.entry]),
      String.join (Execution.endLine v.entry :: later), ?_⟩
    rw [Record.output, ← hlater, hsaid]
    simp only [String.join_append, String.join_cons, String.append_assoc, String.join_nil,
      String.append_empty]
  · apply RunReport.ok_eq_false_of_problem (p := o.problem w v.entry)
    apply hproblems.subset
    rw [hadded]
    exact List.mem_append_right _ (List.mem_singleton_self _)

namespace Catalog

variable {c : Catalog} {w : Workbench} {r : RunRequest} {x : Execution}

/-- A run has reported nothing when its entries are enqueued. -/
theorem reports_begun (c : Catalog) (w : Workbench) (r : RunRequest) (x : Execution) :
    (c.begun w r x).record.problems = [] ∧ (c.begun w r x).record.pieces = [] :=
  Execution.reports_reachAll _ .enqueued _

/-- The only visit of a request to debug leads from its beginning to its end. -/
theorem visits_of_debug (haccepted : (c.run w r x).report.rejected = none)
    (hdebug : r.debug = true) {v : Visit} (hv : v ∈ c.visits w r x) :
    v.before = c.begun w r x ∧ (c.run w r x).report = ⟨v.after.record, [v.entry.ref], none⟩ := by
  obtain ⟨e, hqueue⟩ := queue_of_debug (rejection?_of_accepted haccepted) hdebug
  obtain ⟨hreport, -, -⟩ := run_of_accepted haccepted
  rw [hqueue, Execution.entries_singleton] at hreport
  rw [visits, hqueue, Execution.visits_singleton, List.mem_singleton] at hv
  rw [hv]
  exact ⟨rfl, hreport⟩

/-- **What a visit has reported** is reported of the run. -/
theorem kept_of_visit (haccepted : (c.run w r x).report.rejected = none) {v : Visit}
    (hv : v ∈ c.visits w r x) :
    v.after.record.problems <+: (c.run w r x).report.record.problems ∧
      v.after.record.pieces <+: (c.run w r x).report.record.pieces := by
  cases hdebug : r.debug with
  | true =>
    obtain ⟨-, hreport⟩ := visits_of_debug haccepted hdebug hv
    rw [hreport]
    exact ⟨List.prefix_refl _, List.prefix_refl _⟩
  | false =>
    obtain ⟨hreport, -, -⟩ := run_of_accepted haccepted
    rw [visits, hdebug] at hv
    rw [hdebug] at hreport
    obtain ⟨hproblems, hpieces⟩ := Execution.adds_of_visit w _ _ v hv
    rw [hreport]
    exact ⟨hproblems, hpieces⟩

/-- The run of an entry that a silent obstacle keeps from being executed. -/
theorem unreported_of_silent {o : Obstacle} {v : Visit} (ho : o.IsSilent r.debug)
    (haccepted : (c.run w r x).report.rejected = none) (hv : v ∈ c.visits w r x)
    (h : v.Stopped w r.debug o) : v.Unreported (c.run w r x).report := by
  obtain ⟨hbefore, hreport⟩ := visits_of_debug haccepted ho.1 hv
  obtain ⟨hproblems, hpieces⟩ := h.silent ho
  obtain ⟨hnoProblems, hnoPieces⟩ := reports_begun c w r x
  rw [hbefore, hnoProblems] at hproblems
  rw [hbefore, hnoPieces, List.nil_append] at hpieces
  rw [hreport]
  refine ⟨hproblems, congrArg String.join hpieces, ?_⟩
  refine RunReport.ok_eq_true rfl hproblems fun n hn s hs => ?_
  -- the entry is skipped last, and it is the only one
  obtain rfl : n = v.entry.ref := List.mem_singleton.mp hn
  have hends : lastState? v.after.record.transitions v.entry.ref = some .skipped := by
    rw [h.transitions, lastState?_append]
    simp [lastState?]
  rw [RunReport.finalState?_eq, hends] at hs
  rw [← Option.some.inj hs]
  rfl

/-- **When an obstacle is reported.**  Take any catalog, any request that is not turned
    down, to run or to debug, any behaviour of the world, and any visit of the run on
    which the entry is started while the toolchain is not found, no host is attached, or
    the host refuses to start a session.  No process is spawned on the visit, and the
    entry is skipped.  The problem is recorded, the line is in the output and the run is
    no success, except in one case: if an entry is debugged, a host is attached and the
    toolchain is not found, then there is no problem and no such line, and the run is a
    success. -/
theorem reports_obstacle_iff (haccepted : (c.run w r x).report.rejected = none) {v : Visit}
    (hv : v ∈ c.visits w r x) (hstarted : v.Started) {o : Obstacle}
    (h : o.Hinders w v.before v.after r.debug) :
    let report := (c.run w r x).report
    (v.after.spawns = v.before.spawns ∧ v.ending? = some .skipped) ∧
      (o.Reported w v report ↔ ¬o.IsSilent r.debug) ∧
      (o.IsSilent r.debug → v.Unreported report) := by
  intro report
  have hafter := Execution.after_of_visit hv
  have hstopped : v.Stopped w r.debug o := Visit.stopped hafter hstarted h
  refine ⟨⟨hstopped.spawns, hstopped.ending⟩, ⟨fun hreported ho => ?_, fun ho => ?_⟩, fun ho => ?_⟩
  · have hadded := hreported.added
    rw [(hstopped.silent ho).1] at hadded
    exact List.cons_ne_nil _ _ (List.self_eq_append_right.mp hadded)
  · obtain ⟨hproblems, hpieces⟩ := kept_of_visit haccepted hv
    exact hstopped.reported ho hproblems hpieces
  · exact unreported_of_silent ho haccepted hv hstopped

/-! ### 5.1 Without a toolchain

Three tests and a suite are run without a toolchain, and a suite is debugged by a host
that refuses. -/

def bareBench : Workbench := { pairBench with executables := [] }

def refusingWorld : Execution where
  hosts := [{ start := .refuses }]

theorem reports_obstacle_pair :
    let c := (fresh pairSettings []).performAll pairActs
    let ran := c.run bareBench pairRequest {}
    let debugged := c.run pairBench debugRequest refusingWorld
    (∀ v ∈ c.visits bareBench pairRequest {},
        Obstacle.toolchain.Reported bareBench v ran.report) ∧
      (∀ v ∈ c.visits pairBench debugRequest refusingWorld,
        Obstacle.refusal.Reported pairBench v debugged.report) ∧
      ran.report.record.problems.map (·.code) = List.replicate 4 .toolchainUnavailable ∧
      debugged.report.record.problems.map (·.code) = [.debugSessionNotStarted] := by
  intro c ran debugged
  have hran : ∀ v ∈ c.visits bareBench pairRequest {}, v.Started ∧
      bareBench.toolchain.resolve? (v.before.lookups.headD bareBench.executables) = none := by
    decide +kernel
  have hdebugged : ∀ v ∈ c.visits pairBench debugRequest refusingWorld, v.Started ∧
      v.before.launched.length < v.after.launched.length ∧
      (v.before.hosts.headD {}).start = .refuses := by
    decide +kernel
  refine ⟨fun v hv => ?_, fun v hv => ?_, by decide +kernel, by decide +kernel⟩
  · obtain ⟨hstarted, hmissing⟩ := hran v hv
    exact (reports_obstacle_iff (by decide +kernel) hv hstarted (.run hmissing)).2.1.mpr
      (by decide)
  · obtain ⟨hstarted, hasked, hrefuses⟩ := hdebugged v hv
    exact (reports_obstacle_iff (by decide +kernel) hv hstarted (.refused hasked hrefuses)).2.1.mpr
      (by decide)

/-- The same suite without a toolchain, debugged and run: only the run says so. -/
theorem silent_without_toolchain :
    let c := (fresh pairSettings []).performAll pairActs
    let debugged := c.run bareBench debugRequest {}
    let ran := c.run bareBench { debugRequest with debug := false } {}
    (debugged.report.rejected = none ∧
        (c.visits bareBench debugRequest {}).length = 1 ∧
        (∀ v ∈ c.visits bareBench debugRequest {}, v.Started ∧
          bareBench.toolchain.resolve? (v.before.lookups.headD bareBench.executables) = none ∧
          v.after.spawns = [] ∧ v.after.launched.length = 0) ∧
        debugged.report.record.problems = [] ∧
        debugged.report.record.output =
          "Running suite Suite\r\nCompleted suite Suite\r\n" ∧
        debugged.report.ok = true) ∧
      ran.report.record.problems.map (·.code) = [.toolchainUnavailable] ∧
      ran.report.record.output = "Running suite Suite\r\n" ++
        (Execution.noToolchainLine ++ "\r\n") ++ "Completed suite Suite\r\n" ∧
      ran.report.ok = false := by
  decide +kernel

end Catalog

end SuiteExplorer
