/-
  SuiteExplorer/Run/Sink.lean
  ===========================
  A run whose listener may fail at what it is told. What was being done when the
  text was told stops there: in the work on an entry a failure ends the entry, and
  its process is killed; between the entries it ends the run.

  Each function here is the one of the same name of a run whose listener takes
  whatever it is told.
-/
import SuiteExplorer.Run.Run

namespace SuiteExplorer

open Text
open Execution (Streams ProcessOutcome)

/-- Who listens to a run: for all the texts told so far, the reason for which it fails at the
    last of them, if it does. -/
def Sink := List String → Option String

namespace Sink

/-- One that never fails. -/
def quiet : Sink := fun _ => none

/-- The failure at the text that is told between `x` and `x'`, if there is one. -/
def fault? (sink : Sink) (x x' : Execution) : Option String :=
  if x'.told.length = x.told.length then none else sink x'.told

/-- Go on with an entry, unless there is a failure between `x` and `x'`. -/
def orFail (sink : Sink) (x x' : Execution) (next : Execution × EntryEnd) :
    Execution × EntryEnd :=
  match sink.fault? x x' with
  | some reason => (x', .failed reason)
  | none => next

/-! ## 1. Streams -/

def passOn (sink : Sink) (x : Execution) (w : Workbench) (s : Stream) (pending : Utf8.Pending)
    (chars : List Char) : Execution × Stream × Option String :=
  let (x', s') := x.passOn w s pending chars
  (x', s', sink.fault? x x')

def pump (sink : Sink) (x : Execution) (w : Workbench) (s : Stream) :
    List Bytes → Execution × Stream × Option String
  | [] => (x, s, none)
  | piece :: rest =>
    let (pending, chars) := Utf8.feed s.pending piece
    match sink.passOn x w s pending chars with
    | (x, s, some reason) => (x, s, some reason)
    | (x, s, none) => sink.pump x w s rest

def pumpChunk (sink : Sink) (x : Execution) (w : Workbench) (s : Stream) (bytes : Bytes) :
    Execution × Stream × Option String :=
  sink.pump x w s (reads (bytes.length + 1) bytes)

def endStream (sink : Sink) (x : Execution) (w : Workbench) (s : Stream) :
    Execution × Stream × Option String :=
  sink.passOn x w s {} (Utf8.finish s.pending)

/-- What one stream of a process still gives after a failure at the other one. Nobody asks for
    a failure at that. -/
def drain (sink : Sink) (x : Execution) (w : Workbench) (s : Stream) (bytes : Bytes) :
    Execution :=
  match sink.pumpChunk x w s bytes with
  | (x, _, some _) => x
  | (x, s, none) => (sink.endStream x w s).1

/-! ## 2. Processes -/

def finishProcess (sink : Sink) (x : Execution) (w : Workbench) (s : Streams) (last : ProcessEnd)
    (lag : Nat) : Execution × Streams × Except String ProcessOutcome :=
  match sink.endStream x w s.stdout with
  | (x, stdout, some reason) =>
    (sink.drain x w s.stderr [], { s with stdout := stdout }, .error reason)
  | (x, stdout, none) =>
    let s := { s with stdout := stdout }
    if x.sees lag then (x, s, .ok .cancelled)
    else
      let lag := x.lagLeft lag
      match sink.endStream x w s.stderr with
      | (x, stderr, some reason) => (x, { s with stderr := stderr }, .error reason)
      | (x, stderr, none) =>
        let s := { s with stderr := stderr }
        if x.sees lag then (x, s, .ok .cancelled)
        else match last with
          | .exits code => (x, s, .ok (.exited code))
          | .hangs => (x, s, .ok (if x.cancel.isSet then .cancelled else .never))

/-- Wait for a process. The wait ends at a failure; of the other stream there may be some more
    until the process is gone. -/
def communicate (sink : Sink) (x : Execution) (w : Workbench) (s : Streams) (last : ProcessEnd)
    (lag : Nat) : List ProcessEvent → Execution × Streams × Except String ProcessOutcome
  | [] =>
    if x.sees lag then (x, s, .ok .cancelled)
    else sink.finishProcess x w s last (x.lagLeft lag)
  | e :: rest =>
    if x.sees lag then (x, s, .ok .cancelled)
    else match e with
      | .stdout bytes =>
        match sink.pumpChunk x w s.stdout bytes with
        | (x', stdout, some reason) =>
          (sink.drain x' w s.stderr ((rest.take lag).flatMap (·.err)),
            { s with stdout := stdout }, .error reason)
        | (x', stdout, none) =>
          sink.communicate x' w { s with stdout := stdout } last (x.lagLeft lag) rest
      | .stderr bytes =>
        match sink.pumpChunk x w s.stderr bytes with
        | (x', stderr, some reason) =>
          (sink.drain x' w s.stdout ((rest.take lag).flatMap (·.out)),
            { s with stderr := stderr }, .error reason)
        | (x', stderr, none) =>
          sink.communicate x' w { s with stderr := stderr } last (x.lagLeft lag) rest
      | .cancel =>
        sink.communicate { x with cancel := x.cancel.set } w s last (x.lagLeft lag) rest
      | .gone => sink.communicate x w { s with gone := true } last (x.lagLeft lag) rest

/-! ## 3. Entries -/

def settle (sink : Sink) (x : Execution) (w : Workbench) (e : QueueEntry) (s : Streams)
    (code elapsed : Int) : Execution × EntryEnd :=
  let settled := (x.settle w e s code elapsed, .finished)
  if code = 0 then settled
  else sink.orFail x (x.say w s!"test failed (exit code: {code}): {e.node.id}") settled

def runProcess (sink : Sink) (x : Execution) (w : Workbench) (e : QueueEntry) (spawn : Spawn) :
    Execution × EntryEnd :=
  let begun := x.beginProcess e spawn
  match x.processes.headD .silent with
  | .refused reason => (begun, .failed reason)
  | .runs events last elapsed =>
    match sink.communicate begun w {} last (x.lags.headD 0) events with
    | (x, s, .ok (.exited code)) => sink.settle x w e s code elapsed
    | (x, s, .ok .cancelled) => (x.settleCancelled e s.gone elapsed, .finished)
    | (x, _, .ok .never) => (x, .abandoned)
    | (x, s, .error reason) => (x.kill s.gone, .failed reason)

def runEntry (sink : Sink) (x : Execution) (w : Workbench) (e : QueueEntry) :
    Execution × EntryEnd :=
  match x.lookUp w with
  | (none, x) =>
    let x := (x.noteNoToolchain w).addProblem (.noToolchain w.toolchain.goBinary)
    let said := x.say w Execution.noToolchainLine
    sink.orFail x said (said.reach e.ref .skipped, .finished)
  | (some toolchain, x) =>
    match w.libraries.find? (·.owns e.what) with
    | none =>
      ((x.note (.warning "no_adapter_for_test" [("test_id", .text e.node.id)])).reach e.ref
        .skipped, .finished)
    | some library =>
      match library.runArguments e.what with
      | .error fault => (x, .failed fault.message)
      | .ok arguments => sink.runProcess x w e
          { command := toolchain.binaryPath, arguments := arguments,
            directory := e.node.path.parent,
            environment := toolchain.environment w.environment w.toolchain.testEnv }

/-! ### 3.1 In a debug session -/

/-- Conclude a session that is over. The log of its debugger is shown last, when the entry has
    reached its state. -/
def conclude (sink : Sink) (a : Attempt) (w : Workbench) (e : QueueEntry) :
    Execution × EntryEnd :=
  match a.execution.concludeDebug w e a.tracker? with
  | .error fault => (a.execution, .failed fault.message)
  | .ok x =>
    let shown := x.showDebuggerLog w a.logFile
    sink.orFail x shown (shown, .finished)

/-- Conclude a session that is over: first what it said is shown, if it was heard. -/
def concludeSession (sink : Sink) (a : Attempt) (w : Workbench) (e : QueueEntry) :
    Execution × EntryEnd :=
  match a.tracker?.map DebugTracker.transcript with
  | some (.ok transcript) =>
    sink.orFail a.execution (a.execution.say w transcript) (sink.conclude a w e)
  | _ => sink.conclude a w e

def awaitSession (sink : Sink) (a : Attempt) (w : Workbench) (e : QueueEntry)
    (script : HostScript) : Execution × EntryEnd :=
  let (a, rest, w') := a.awaitUntil Attempt.ended? script.events
  let canCancel := a.execution.cancel != .impossible
  match w', canCancel with
  | .cancelRequested, _ =>
    match a.stop e script rest with
    | (a, .finished) =>
      ((a.execution.reach e.ref .skipped).noteState
        ⟨e.ref, .errored, some Execution.cancelledMessage, none⟩, .finished)
    | (a, last) => (a.execution, last)
  | .never, _ => (a.execution, .abandoned)
  | .calledOff, false => (a.execution, .abandoned)
  | _, _ => sink.concludeSession a w e

def startSession (sink : Sink) (x : Execution) (w : Workbench) (e : QueueEntry) (token : String)
    (configuration : Entries) (logFile : Path) : Execution × EntryEnd :=
  let script := x.hosts.headD {}
  let a := (x.beginAttempt e token configuration logFile).deliverAll script.meanwhile
  match script.start with
  | .fails reason => (a.execution, .failed reason)
  | .refuses =>
    let problem := Problem.sessionRefused e.node.id
    let noted := (a.execution.note
      (.warning "debug_session_not_started" problem.report.entries)).addProblem problem
    let said := noted.say w s!"error: {problem.message}"
    sink.orFail noted said (said.reach e.ref .skipped, .finished)
  | .accepts => sink.awaitSession a w e script

def debugEntry (sink : Sink) (x : Execution) (w : Workbench) (e : QueueEntry) :
    Execution × EntryEnd :=
  if !w.hasDebugger then
    let problem := Problem.noDebugger
    let x := (x.note (.warning "debugger_unavailable" problem.report.entries)).addProblem problem
    let said := x.say w s!"error: {problem.message}"
    sink.orFail x said (said.reach e.ref .skipped, .finished)
  else
    match x.launchConfiguration w e.node e.what with
    | (x, .error (.badTemplate fault)) => (x, .failed fault.message)
    | (x', .error _) => sink.orFail x x' (x'.reach e.ref .skipped, .finished)
    | (x, .ok bare) =>
      let token := x.newToken
      let logFile := w.logDirectory.child token
      let own : Entries := [(correlationKey, .text token), ("showLog", .bool w.showLog)]
      let log : Entries := if w.writesLogs then [("logDest", .text logFile.text)] else []
      let configuration := bare ++ own ++ log
      let x := { x with tokens := x.tokens + 1 }
      match if w.writesLogs then x.files.ensureFolder w.logDirectory else .ok x.files with
      | .error fault => (x, .failed (fault.message w.logDirectory))
      | .ok files =>
        let (x, last) :=
          sink.startSession { x with files := files } w e token configuration logFile
        ({ x with correlator := x.correlator.release token }, last)

/-! ## 4. Runs -/

/-- Complete an entry. Gives whether the run goes on. -/
def complete (sink : Sink) (x : Execution) (w : Workbench) (e : QueueEntry) : Execution × Bool :=
  let completed := x.complete w e
  (completed, (sink.fault? x completed).isNone)

def startEntry (sink : Sink) (x : Execution) (w : Workbench) (debug : Bool) (e : QueueEntry) :
    Execution × Bool :=
  let said := x.say w s!"Running {e.kindName} {e.node.id}"
  match sink.fault? x said with
  | some _ => (said, false)
  | none =>
    let x := said.reach e.ref .started
    let (x, last) := if debug then sink.debugEntry x w e else sink.runEntry x w e
    match last with
    | .finished => sink.complete x w e
    | .failed reason => sink.complete (x.breakOff e reason) w e
    | .abandoned => (x.clearBusy e.ref, false)

def entry (sink : Sink) (x : Execution) (w : Workbench) (debug : Bool) (e : QueueEntry) :
    Execution × Bool :=
  let x := x.arrive
  if x.cancel.isSet then
    let said := x.say w s!"Skipped {e.node.id}"
    match sink.fault? x said with
    | some _ => (said, false)
    | none => (said.reach e.ref .skipped, true)
  else sink.startEntry x w debug e

def entries (sink : Sink) (x : Execution) (w : Workbench) (debug : Bool) :
    List QueueEntry → Execution × Bool
  | [] => (x, true)
  | e :: rest =>
    match sink.entry x w debug e with
    | (x, true) => sink.entries x w debug rest
    | (x, false) => (x, false)

def queue (sink : Sink) (x : Execution) (w : Workbench) (debug : Bool) (q : List QueueEntry) :
    Execution × Bool :=
  let (x, completed) := sink.entries (x.enqueue w debug q) w debug q
  (x.note (.info "test_run_completed" [("run_id", .text w.runId)]), completed)

/-- A run of a catalog. It breaks off where nothing takes a failure. -/
def run (sink : Sink) (c : Catalog) (w : Workbench) (r : RunRequest) (x : Execution) :
    RunResult :=
  let q := c.queue r
  let x := { x with record := { debug := r.debug } }
  match Queue.rejection? r.debug q with
  | some p =>
    let rejected := x.reject w p
    { catalog := c
      execution := rejected
      report := { record := rejected.record, rejected := some p }
      completed := (sink.fault? x rejected).isNone }
  | none =>
    let (x, completed) := sink.queue x w r.debug q
    { catalog := c.applyTransitions x.record.transitions
      execution := x
      report := { record := x.record, entries := q.map (·.ref) }
      completed := completed }

end Sink
end SuiteExplorer
