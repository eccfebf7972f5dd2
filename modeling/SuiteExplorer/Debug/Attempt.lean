/-
  SuiteExplorer/Debug/Attempt.lean
  ================================
  Debugging one entry: a session is asked for under a fresh token, its end is
  waited for, and what its tracker heard decides the state of the entry. When
  the run is cancelled, the host is asked to stop the session.
-/
import SuiteExplorer.Debug.Launch
import SuiteExplorer.Run.Execution
import SuiteExplorer.Text.Utf8

namespace SuiteExplorer

/-! ## 1. Launch configurations -/

inductive LaunchRefusal where
  | noToolchain
  | noLibrary
  | badTemplate (fault : Text.TemplateError)
deriving Repr, DecidableEq

/-- The launch configuration of a suite or test, without what belongs to one
    attempt. -/
def Workbench.launchConfiguration (w : Workbench) (toolchain? : Option Toolchain)
    (node : NodeInfo) (what : Runnable) : Except LaunchRefusal Entries :=
  match toolchain? with
  | none => .error .noToolchain
  | some toolchain =>
    match w.libraries.find? (·.owns what) with
    | none => .error .noLibrary
    | some library =>
      match library.debugArguments what with
      | .error fault => .error (.badTemplate fault)
      | .ok arguments =>
        let directory := node.path.parent.text
        .ok [("type", .text "go"), ("request", .text "launch"), ("mode", .text "test"),
          ("name", .text s!"Debug test {node.id}"), ("cwd", .text directory),
          ("env", .map (Environment.overlay toolchain.env w.toolchain.testEnv).entries),
          ("program", .text directory), ("args", .list (arguments.map .text))]

namespace Execution

/-- The launch configuration of a suite or test. That the toolchain is missing
    is noted and told, but is no output of a run. -/
def launchConfiguration (x : Execution) (w : Workbench) (node : NodeInfo) (what : Runnable) :
    Execution × Except LaunchRefusal Entries :=
  let (toolchain?, x) := x.lookUp w
  match w.launchConfiguration toolchain? node what with
  | .error .noToolchain =>
    ((x.noteNoToolchain w).tell w (noToolchainLine ++ "\r\n"), .error .noToolchain)
  | other => (x, other)

end Execution

/-! ## 2. Attempts -/

structure Attempt where
  execution : Execution
  /-- the place of the registration -/
  place : Nat
  session : DebugSession
  logFile : Path
  /-- the registration whose tracker hears the session -/
  claimed : Option Nat := none

inductive WaitEnd where
  | arrived (session : DebugSession)
  | calledOff
  | cancelRequested
  /-- nothing will happen any more -/
  | never
deriving Repr, DecidableEq

namespace Attempt

def registration? (a : Attempt) : Option Registration :=
  a.execution.correlator.history[a.place]?

def started (a : Attempt) : Awaited := (a.registration?.map (·.started)).getD .cancelled

def terminated (a : Attempt) : Awaited := (a.registration?.map (·.terminated)).getD .cancelled

def tracker? (a : Attempt) : Option DebugTracker := a.registration?.bind (·.tracker)

def sessionOf (a : Attempt) : HostSession → DebugSession
  | .launched => a.session
  | .other s => s

def setCorrelator (a : Attempt) (c : Correlator) : Attempt :=
  { a with execution := { a.execution with correlator := c } }

def hear (a : Attempt) (f : DebugTracker → DebugTracker) : Attempt :=
  match a.claimed with
  | none => a
  | some place =>
    a.setCorrelator (a.execution.correlator.change place fun r =>
      { r with tracker := r.tracker.map f })

def deliver (a : Attempt) (e : HostEvent) : Attempt :=
  let c := a.execution.correlator
  match e with
  | .claim who =>
    let s := a.sessionOf who
    let (c', granted) := c.claimTracker s
    let a' := a.setCorrelator c'
    if granted && s.token = a.session.token then { a' with claimed := c.match? s } else a'
  | .started who => a.setCorrelator (c.sessionStarted (a.sessionOf who))
  | .terminated who =>
    let (c', journal) := c.sessionTerminated (a.sessionOf who)
    let a' := a.setCorrelator c'
    { a' with execution := a'.execution.noteAll journal }
  | .message m => a.hear fun t => (t.onMessage m).toOption.getD t
  | .adapterError text => a.hear (·.onError text)
  | .adapterExit code => a.hear (·.onExit code)
  | .log content =>
    { a with execution := { a.execution with
        files := a.execution.files.write a.logFile content } }
  | .cancel => { a with execution := { a.execution with cancel := a.execution.cancel.set } }
  | .dispose => a.setCorrelator c.dispose

def deliverAll (a : Attempt) (events : List HostEvent) : Attempt := events.foldl deliver a

/-- What something that is waited for has come to. -/
def settled? : Awaited → Option WaitEnd
  | .pending => none
  | .cancelled => some .calledOff
  | .arrived s => some (.arrived s)

def ended? (a : Attempt) : Option WaitEnd :=
  match settled? a.terminated with
  | some w => some w
  | none => if a.execution.cancel.isSet then some .cancelRequested else none

/-- Let events happen until something is decided. Also gives the events that
    have not happened yet. -/
def awaitUntil (decided? : Attempt → Option WaitEnd) (a : Attempt) :
    List HostEvent → Attempt × List HostEvent × WaitEnd
  | [] => (a, [], (decided? a).getD .never)
  | e :: rest =>
    match decided? a with
    | some w => (a, e :: rest, w)
    | none => (a.deliver e).awaitUntil decided? rest

def note (a : Attempt) (e : JournalEvent) : Attempt := { a with execution := a.execution.note e }

/-- Ask the host to stop a session that has started. -/
def ask (a : Attempt) (s : DebugSession) : Attempt :=
  { a with execution := { a.execution with stopped := a.execution.stopped ++ [s.id] } }

/-- Wait for the end of a session that the host was asked to stop. -/
def awaitStop (a : Attempt) (id : Entries) (script : HostScript) (events : List HostEvent) :
    Attempt × EntryEnd :=
  match script.stopFails with
  | some reason => (a, .failed reason)
  | none =>
    match a.awaitUntil (fun a => settled? a.terminated) (events ++ script.onStop) with
    | (a, _, .arrived _) => (a, .finished)
    | (a, _, .calledOff) => (a, .abandoned)
    | (a, _, _) => (a.note (.warning "debug_session_not_terminated" id), .finished)

/-- Ask the host to stop the session, and wait for its end. A session that never
    starts cannot be stopped. -/
def stop (a : Attempt) (e : QueueEntry) (script : HostScript) (events : List HostEvent) :
    Attempt × EntryEnd :=
  match a.awaitUntil (fun a => settled? a.started) events with
  | (a, rest, .arrived s) =>
    let id : Entries := [("test_id", .text e.node.id), ("session_id", .text s.id)]
    let a := a.note (.info "debug_session_cancelled" id)
    if a.terminated.isSettled then (a, .finished) else (a.ask s).awaitStop id script rest
  | (a, _, .calledOff) => (a, .abandoned)
  | (a, _, _) =>
    (a.note (.warning "debug_session_never_started"
      [("test_id", .text e.node.id), ("token", .text (a.session.token.getD ""))]), .finished)

end Attempt

/-! ## 3. Entries -/

namespace Execution

/-- An entry whose session ended reaches the state of its verdict, and the tests
    below it theirs. -/
def settleDebugged (x : Execution) (e : QueueEntry) (verdict : RunState) (transcript : String) :
    Execution :=
  match verdict with
  | .passed => (x.reach e.ref .passed).reachAll e.children .passed
  | .failed =>
    (x.noteState ⟨e.ref, .failed, some transcript, none⟩).reachAll e.children .skipped
  | _ => x.reach e.ref .skipped

/-- Show what a session said, and let it decide the state of its entry. -/
def concludeDebug (x : Execution) (w : Workbench) (e : QueueEntry) (tracker? : Option DebugTracker) :
    Except NotText Execution := do
  let transcript ← match tracker? with
    | none => pure ""
    | some t => t.transcript
  let x := if tracker?.isSome then x.say w transcript else x
  let verdict ← DebugTracker.verdict? tracker?
  return x.settleDebugged e verdict transcript

/-- Show the log that the debugger has written. -/
def showDebuggerLog (x : Execution) (w : Workbench) (path : Path) : Execution :=
  match x.files.read? path with
  | none => x
  | some bytes =>
    let log := Text.withCrLf (Text.plainLf (Text.Utf8.decode bytes))
    if log.isEmpty then x else x.say w log

/-- Conclude a session that is over, and show the log of its debugger. -/
def concludeSession (a : Attempt) (w : Workbench) (e : QueueEntry) : Execution × EntryEnd :=
  match a.execution.concludeDebug w e a.tracker? with
  | .error fault => (a.execution, .failed fault.message)
  | .ok x => (x.showDebuggerLog w a.logFile, .finished)

/-- The wait for a session that the host has agreed to start. -/
def awaitSession (a : Attempt) (w : Workbench) (e : QueueEntry) (script : HostScript) :
    Execution × EntryEnd :=
  let (a, rest, w') := a.awaitUntil Attempt.ended? script.events
  let canCancel := a.execution.cancel != .impossible
  match w', canCancel with
  | .cancelRequested, _ =>
    match a.stop e script rest with
    | (a, .finished) =>
      ((a.execution.reach e.ref .skipped).noteState
        ⟨e.ref, .errored, some cancelledMessage, none⟩, .finished)
    | (a, last) => (a.execution, last)
  | .never, _ => (a.execution, .abandoned)
  | .calledOff, false => (a.execution, .abandoned)
  | _, _ => concludeSession a w e

/-- An entry is being worked on by the host, under a token. -/
def beginSession (x : Execution) (e : QueueEntry) (token : String) (configuration : Entries) :
    Execution :=
  { x.setBusy e.ref with
    hosts := x.hosts.tail
    correlator := (x.correlator.register token).1
    launched := x.launched ++ [⟨e.node.path.parent, configuration⟩] }

/-- The attempt that begins with that. -/
def beginAttempt (x : Execution) (e : QueueEntry) (token : String) (configuration : Entries)
    (logFile : Path) : Attempt :=
  let begun := x.beginSession e token configuration
  { execution := begun
    place := (x.correlator.register token).2
    session := ⟨s!"session-{begun.launched.length}", some token⟩
    logFile := logFile }

/-- Ask the host for a session under a token. -/
def startSession (x : Execution) (w : Workbench) (e : QueueEntry) (token : String)
    (configuration : Entries) (logFile : Path) : Execution × EntryEnd :=
  let script := x.hosts.headD {}
  let a := (x.beginAttempt e token configuration logFile).deliverAll script.meanwhile
  match script.start with
  | .fails reason => (a.execution, .failed reason)
  | .refuses =>
    let problem := Problem.sessionRefused e.node.id
    let noted := (a.execution.note
      (.warning "debug_session_not_started" problem.report.entries)).addProblem problem
    ((noted.say w s!"error: {problem.message}").reach e.ref .skipped, .finished)
  | .accepts => awaitSession a w e script

/-- The token of the next attempt. -/
def newToken (x : Execution) : String := s!"token-{x.tokens + 1}"

/-- Debug an entry. Its token is given up in the end, however that comes. -/
def debugEntry (x : Execution) (w : Workbench) (e : QueueEntry) : Execution × EntryEnd :=
  if !w.hasDebugger then
    let problem := Problem.noDebugger
    let x := (x.note (.warning "debugger_unavailable" problem.report.entries)).addProblem problem
    ((x.say w s!"error: {problem.message}").reach e.ref .skipped, .finished)
  else
    match x.launchConfiguration w e.node e.what with
    | (x, .error (.badTemplate fault)) => (x, .failed fault.message)
    | (x, .error _) => (x.reach e.ref .skipped, .finished)
    | (x, .ok bare) =>
      let token := x.newToken
      let logFile := w.logDirectory.child token
      let own : Entries := [(correlationKey, .text token), ("showLog", .bool w.showLog)]
      let log : Entries := if w.writesLogs then [("logDest", .text logFile.text)] else []
      let configuration := bare ++ own ++ log
      let x := { x with tokens := x.tokens + 1 }
      match if w.writesLogs then x.files.ensureFolder w.logDirectory else .ok x.files with
      | .error fault => (x, .failed (fault.message w.logDirectory))
      | .ok files =>
        let (x, last) := { x with files := files }.startSession w e token configuration logFile
        ({ x with correlator := x.correlator.release token }, last)

end Execution
end SuiteExplorer
