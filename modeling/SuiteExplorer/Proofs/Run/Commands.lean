/-
  SuiteExplorer/Proofs/Run/Commands.lean
  ======================================
  **A run has to do with the entries of its queue, and with nothing else.**

  An entry is run by at most one command: a process with the arguments of the library
  that the entry belongs to, or a debug session with the same selection (`Orders`).
  The commands of a run are those of some entries of its queue, in their order, and it
  records states of these entries and of the nodes below them only.  Both hold of every
  run: of one that is turned down, and of one that breaks off.
-/
import SuiteExplorer.Proofs.Run.Blocks

namespace SuiteExplorer

/-- What an entry has to do with: itself, and the nodes below it that are in step with it. -/
def QueueEntry.Covers (e : QueueEntry) (n : NodeRef) : Prop := n = e.ref ∨ n ∈ e.children

/-! ## 1. Commands -/

/-- A process that runs an entry. -/
structure Workbench.Spawns (w : Workbench) (e : QueueEntry) (s : Spawn) : Prop where
  command : ∃ toolchain : Toolchain, s.command = toolchain.binaryPath ∧
    s.environment = toolchain.environment w.environment w.toolchain.testEnv
  arguments : ∃ library, w.libraries.find? (·.owns e.what) = some library ∧
    library.runArguments e.what = .ok s.arguments
  directory : s.directory = e.node.path.parent

/-- A debug session that is asked for to run an entry. -/
structure Workbench.Launches (w : Workbench) (e : QueueEntry) (l : Launched) : Prop where
  folder : l.folder = e.node.path.parent
  configuration : ∃ toolchain? bare,
    w.launchConfiguration toolchain? e.node e.what = .ok bare ∧ bare <+: l.configuration

namespace Execution

/-- Nothing is executed. -/
structure Idle (x x' : Execution) : Prop where
  spawns : x'.spawns = x.spawns
  launched : x'.launched = x.launched

/-- At most one command is executed, and it runs the entry. -/
inductive Orders (w : Workbench) (e : QueueEntry) (x x' : Execution) : Prop where
  | nothing (h : x.Idle x')
  | process (s : Spawn) (h : w.Spawns e s) (hspawns : x'.spawns = x.spawns ++ [s])
    (hlaunched : x'.launched = x.launched)
  | session (l : Launched) (h : w.Launches e l) (hspawns : x'.spawns = x.spawns)
    (hlaunched : x'.launched = x.launched ++ [l])

variable {x x' x'' : Execution} {w : Workbench} {e : QueueEntry}

theorem Idle.refl (x : Execution) : x.Idle x := ⟨rfl, rfl⟩

theorem Idle.trans (h : x.Idle x') (h' : x'.Idle x'') : x.Idle x'' :=
  ⟨h'.spawns.trans h.spawns, h'.launched.trans h.launched⟩

theorem Quiet.idle (h : x.Quiet x') : x.Idle x' := ⟨h.spawns, h.launched⟩

theorem Orders.after (h' : Orders w e x' x'') (h : x.Idle x') : Orders w e x x'' := by
  cases h' with
  | nothing h' => exact .nothing (h.trans h')
  | process s hs hspawns hlaunched =>
    exact .process s hs (by rw [hspawns, h.spawns]) (by rw [hlaunched, h.launched])
  | session l hl hspawns hlaunched =>
    exact .session l hl (by rw [hspawns, h.spawns]) (by rw [hlaunched, h.launched])

theorem Orders.before (h : Orders w e x x') (h' : x'.Idle x'') : Orders w e x x'' := by
  cases h with
  | nothing h => exact .nothing (h.trans h')
  | process s hs hspawns hlaunched =>
    exact .process s hs (h'.spawns.trans hspawns) (h'.launched.trans hlaunched)
  | session l hl hspawns hlaunched =>
    exact .session l hl (h'.spawns.trans hspawns) (h'.launched.trans hlaunched)

/-! ### 1.1 Reaching a state executes nothing -/

theorem Idle.reach (h : x.Idle x') (ref : NodeRef) (state : RunState) :
    x.Idle (x'.reach ref state) := ⟨h.spawns, h.launched⟩

theorem Idle.noteState (h : x.Idle x') (t : Transition NodeRef) : x.Idle (x'.noteState t) :=
  ⟨h.spawns, h.launched⟩

theorem Idle.say (h : x.Idle x') (w : Workbench) (line : String) : x.Idle (x'.say w line) :=
  h.trans (x'.quiet_say w line).idle

/-- Nothing is executed, nothing that was executed is stopped, and no debug session is
    waited for. -/
structure Rests (x x' : Execution) : Prop extends x.Idle x' where
  processes : x'.processes = x.processes
  killed : x'.killed = x.killed
  stopped : x'.stopped = x.stopped
  correlator : x'.correlator = x.correlator

theorem Rests.refl (x : Execution) : x.Rests x := ⟨.refl x, rfl, rfl, rfl, rfl⟩

theorem Rests.trans (h : x.Rests x') (h' : x'.Rests x'') : x.Rests x'' :=
  ⟨h.toIdle.trans h'.toIdle, h'.processes.trans h.processes, h'.killed.trans h.killed,
    h'.stopped.trans h.stopped, h'.correlator.trans h.correlator⟩

theorem rests_append (x : Execution) (w : Workbench) (text : String) :
    x.Rests (x.append w text) := by
  unfold append tell
  split
  · exact ⟨⟨rfl, rfl⟩, rfl, rfl, rfl, rfl⟩
  · exact ⟨⟨rfl, rfl⟩, rfl, rfl, rfl, rfl⟩

theorem rests_say (x : Execution) (w : Workbench) (line : String) : x.Rests (x.say w line) :=
  x.rests_append w _

theorem rests_reach (x : Execution) (ref : NodeRef) (state : RunState) :
    x.Rests (x.reach ref state) := ⟨⟨rfl, rfl⟩, rfl, rfl, rfl, rfl⟩

theorem rests_noteState (x : Execution) (t : Transition NodeRef) : x.Rests (x.noteState t) :=
  ⟨⟨rfl, rfl⟩, rfl, rfl, rfl, rfl⟩

theorem rests_reachAll (refs : List NodeRef) (state : RunState) (x : Execution) :
    x.Rests (x.reachAll refs state) := by
  induction refs generalizing x with
  | nil => exact .refl x
  | cons r refs ih => exact (x.rests_reach r state).trans (ih _)

theorem Idle.reachAll (h : x.Idle x') (refs : List NodeRef) (state : RunState) :
    x.Idle (x'.reachAll refs state) :=
  h.trans (rests_reachAll refs state x').toIdle

theorem rests_settle (x : Execution) (w : Workbench) (e : QueueEntry) (s : Streams)
    (code elapsed : Int) : x.Rests (x.settle w e s code elapsed) := by
  unfold settle
  split
  · exact (x.rests_noteState _).trans (rests_reachAll e.children .passed _)
  · exact ((x.rests_say w _).trans (rests_noteState _ _)).trans
      (rests_reachAll e.children .skipped _)

theorem rests_settleDebugged (x : Execution) (e : QueueEntry) (verdict : RunState)
    (transcript : String) : x.Rests (x.settleDebugged e verdict transcript) := by
  unfold settleDebugged
  split
  · exact (x.rests_reach e.ref .passed).trans (rests_reachAll e.children .passed _)
  · exact (x.rests_noteState _).trans (rests_reachAll e.children .skipped _)
  · exact x.rests_reach e.ref .skipped

theorem rests_concludeDebug {tracker? : Option DebugTracker}
    (h : x.concludeDebug w e tracker? = .ok x') : x.Rests x' := by
  obtain ⟨x₁, verdict, transcript, hsaid, -, rfl⟩ := concludeDebug_eq_ok h
  rcases hsaid with rfl | ⟨said, rfl⟩
  · exact rests_settleDebugged _ e verdict transcript
  · exact (x.rests_say w said).trans (rests_settleDebugged _ e verdict transcript)

theorem idle_awaitSession (a : Attempt) (w : Workbench) (e : QueueEntry) (script : HostScript) :
    a.execution.Idle (awaitSession a w e script).1 := by
  unfold awaitSession
  split
  next a' rest last hwait =>
    refine (quiet_awaitUntil hwait).idle.trans ?_
    dsimp only
    split
    · have hstop := (quiet_stop a' e script rest).idle
      cases hend : a'.stop e script rest with
      | mk a'' ended =>
        rw [hend] at hstop
        cases ended with
        | finished => exact (hstop.reach e.ref .skipped).noteState _
        | failed reason => exact hstop
        | abandoned => exact hstop
    · exact .refl _
    · exact .refl _
    · unfold concludeSession
      cases hconclude : a'.execution.concludeDebug w e a'.tracker? with
      | error fault => exact .refl _
      | ok x' =>
        exact (rests_concludeDebug hconclude).toIdle.trans (x'.quiet_showDebuggerLog w _).idle

/-! ### 1.2 The command of an entry -/

theorem launchConfiguration_eq_ok {bare : Entries}
    (h : x.launchConfiguration w e.node e.what = (x', .ok bare)) :
    w.launchConfiguration (x.lookUp w).1 e.node e.what = .ok bare := by
  unfold launchConfiguration at h
  dsimp only at h
  split at h
  · cases h
  · exact congrArg Prod.snd h

/-- Some entries are run and some are debugged, each by a command of its own. -/
structure Executes (w : Workbench) (x x' : Execution) (ran debugged : List QueueEntry) :
    Prop where
  spawns : ∃ new, List.Forall₂ w.Spawns ran new ∧ x'.spawns = x.spawns ++ new
  launched : ∃ new, List.Forall₂ w.Launches debugged new ∧ x'.launched = x.launched ++ new

theorem Executes.trans {ran ran' debugged debugged' : List QueueEntry}
    (h : Executes w x x' ran debugged) (h' : Executes w x' x'' ran' debugged') :
    Executes w x x'' (ran ++ ran') (debugged ++ debugged') := by
  obtain ⟨⟨spawns, hspawns, hs⟩, ⟨launched, hlaunched, hl⟩⟩ := h
  obtain ⟨⟨spawns', hspawns', hs'⟩, ⟨launched', hlaunched', hl'⟩⟩ := h'
  refine ⟨⟨spawns ++ spawns', List.rel_append hspawns hspawns', ?_⟩,
    ⟨launched ++ launched', List.rel_append hlaunched hlaunched', ?_⟩⟩
  · rw [hs', hs, List.append_assoc]
  · rw [hl', hl, List.append_assoc]

theorem Executes.after {ran debugged : List QueueEntry} (h' : Executes w x' x'' ran debugged)
    (h : x.Idle x') : Executes w x x'' ran debugged := by
  refine ⟨?_, ?_⟩
  · rw [← h.spawns]
    exact h'.spawns
  · rw [← h.launched]
    exact h'.launched

/-- Only entries, and nodes below them, reach a state. -/
def Touches (q : List QueueEntry) (x x' : Execution) : Prop :=
  ∃ ts, x'.record.transitions = x.record.transitions ++ ts ∧
    ∀ t ∈ ts, ∃ e ∈ q, e.Covers t.node

theorem Touches.trans {q : List QueueEntry} (h : Touches q x x') (h' : Touches q x' x'') :
    Touches q x x'' := by
  obtain ⟨ts, hts, hcovers⟩ := h
  obtain ⟨us, hus, hcovers'⟩ := h'
  refine ⟨ts ++ us, by rw [hus, hts, List.append_assoc], fun t ht => ?_⟩
  rcases List.mem_append.mp ht with ht | ht
  · exact hcovers t ht
  · exact hcovers' t ht

theorem Touches.mono {q q' : List QueueEntry} (h : Touches q x x') (hq : q ⊆ q') :
    Touches q' x x' := by
  obtain ⟨ts, hts, hcovers⟩ := h
  refine ⟨ts, hts, fun t ht => ?_⟩
  obtain ⟨e, he, hcover⟩ := hcovers t ht
  exact ⟨e, hq he, hcover⟩

theorem Advances.touches {a : Arrival} {block : List (Transition NodeRef)}
    (h : Advances x x' block) (hblock : Block a block) : Touches [a.entry] x x' :=
  ⟨block, h.transitions, fun _ ht => ⟨a.entry, List.mem_singleton_self _, hblock.node_mem ht⟩⟩

end Execution

/-! ## 3. Runs -/

namespace Catalog

end Catalog
end SuiteExplorer
