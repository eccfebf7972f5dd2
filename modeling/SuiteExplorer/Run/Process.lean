/-
  SuiteExplorer/Run/Process.lean
  ==============================
  Running one entry in a process of its own. What the process writes is passed
  on as it comes; its exit code decides the state of the entry, and with it that
  of the tests of a suite.
-/
import SuiteExplorer.Run.Execution
import SuiteExplorer.Text.Utf8

namespace SuiteExplorer

open Text

/-! ## 1. Streams -/

/-- How many bytes are taken from a stream at a time. -/
def readSize : Nat := 4096

def reads : Nat → Bytes → List Bytes
  | 0, _ => []
  | fuel + 1, bytes =>
    if bytes.isEmpty then [] else bytes.take readSize :: reads fuel (bytes.drop readSize)

/-- One stream of a process: the character it is in the middle of, and the texts
    it has given so far. -/
structure Stream where
  pending : Utf8.Pending := {}
  texts : List String := []
deriving Repr, DecidableEq

def Stream.text (s : Stream) : String := String.join s.texts

namespace Execution

/-- Pass characters on, if there are any. -/
def passOn (x : Execution) (w : Workbench) (s : Stream) (pending : Utf8.Pending)
    (chars : List Char) : Execution × Stream :=
  if chars.isEmpty then (x, { s with pending := pending })
  else
    let text := String.ofList chars
    (x.append w text, ⟨pending, s.texts ++ [text]⟩)

/-- Pass on what a stream gives, read by read. -/
def pump (x : Execution) (w : Workbench) (s : Stream) : List Bytes → Execution × Stream
  | [] => (x, s)
  | piece :: rest =>
    let (pending, chars) := Utf8.feed s.pending piece
    let (x, s) := x.passOn w s pending chars
    x.pump w s rest

def pumpChunk (x : Execution) (w : Workbench) (s : Stream) (bytes : Bytes) : Execution × Stream :=
  x.pump w s (reads (bytes.length + 1) bytes)

def endStream (x : Execution) (w : Workbench) (s : Stream) : Execution × Stream :=
  x.passOn w s {} (Utf8.finish s.pending)

/-! ## 2. Processes -/

structure Streams where
  stdout : Stream := {}
  stderr : Stream := {}
  /-- the process has exited by itself -/
  gone : Bool := false
deriving Repr, DecidableEq

inductive ProcessOutcome where
  | exited (code : Int)
  | cancelled
  | never
deriving Repr, DecidableEq

/-- Both streams end, standard output first, and then the process ends, if it
    does so by itself. What was left in a stream may cancel the run. -/
def finishProcess (x : Execution) (w : Workbench) (s : Streams) (last : ProcessEnd) (lag : Nat) :
    Execution × Streams × ProcessOutcome :=
  let (x, stdout) := x.endStream w s.stdout
  let s := { s with stdout := stdout }
  if x.sees lag then (x, s, .cancelled)
  else
    let lag := x.lagLeft lag
    let (x, stderr) := x.endStream w s.stderr
    let s := { s with stderr := stderr }
    if x.sees lag then (x, s, .cancelled)
    else match last with
      | .exits code => (x, s, .exited code)
      | .hangs => (x, s, if x.cancel.isSet then .cancelled else .never)

/-- Wait for a process. Before anything of it is passed on, it is seen whether
    the run is cancelled, unless that is seen late. -/
def communicate (x : Execution) (w : Workbench) (s : Streams) (last : ProcessEnd) (lag : Nat) :
    List ProcessEvent → Execution × Streams × ProcessOutcome
  | [] =>
    if x.sees lag then (x, s, .cancelled) else x.finishProcess w s last (x.lagLeft lag)
  | e :: rest =>
    if x.sees lag then (x, s, .cancelled)
    else match e with
      | .stdout bytes =>
        let (x', stdout) := x.pumpChunk w s.stdout bytes
        x'.communicate w { s with stdout := stdout } last (x.lagLeft lag) rest
      | .stderr bytes =>
        let (x', stderr) := x.pumpChunk w s.stderr bytes
        x'.communicate w { s with stderr := stderr } last (x.lagLeft lag) rest
      | .cancel =>
        { x with cancel := x.cancel.set }.communicate w s last (x.lagLeft lag) rest
      | .gone => x.communicate w { s with gone := true } last (x.lagLeft lag) rest

/-! ## 3. Entries -/

/-- An entry whose process exited reaches its state, and the tests below it
    theirs: they pass with their suite, and are skipped when it fails, because
    its output does not say which of them failed. -/
def settle (x : Execution) (w : Workbench) (e : QueueEntry) (s : Streams) (code elapsed : Int) :
    Execution :=
  if code = 0 then
    (x.noteState ⟨e.ref, .passed, none, some elapsed⟩).reachAll e.children .passed
  else
    let x := x.say w s!"test failed (exit code: {code}): {e.node.id}"
    (x.noteState ⟨e.ref, .failed, some (s.stdout.text ++ "\r\n" ++ s.stderr.text),
      some elapsed⟩).reachAll e.children .skipped

/-- Kill a process, unless it has exited by itself. -/
def kill (x : Execution) (gone : Bool) : Execution :=
  if gone then x else { x with killed := x.killed + 1 }

def settleCancelled (x : Execution) (e : QueueEntry) (gone : Bool) (elapsed : Int) : Execution :=
  let x := (x.kill gone).note
    (.info "test_process_cancelled" [("test_id", .text e.node.id)])
  (x.reach e.ref .skipped).noteState ⟨e.ref, .errored, some cancelledMessage, some elapsed⟩

def beginProcess (x : Execution) (e : QueueEntry) (spawn : Spawn) : Execution :=
  { (x.setBusy e.ref).note (.debug "spawning_test_process" [("test_id", .text e.node.id),
      ("command", .list ((spawn.command :: spawn.arguments).map .text))]) with
    spawns := x.spawns ++ [spawn]
    processes := x.processes.tail
    lags := x.lags.tail }

def runProcess (x : Execution) (w : Workbench) (e : QueueEntry) (spawn : Spawn) :
    Execution × EntryEnd :=
  let begun := x.beginProcess e spawn
  match x.processes.headD .silent with
  | .refused reason => (begun, .failed reason)
  | .runs events last elapsed =>
    match begun.communicate w {} last (x.lags.headD 0) events with
    | (x, s, .exited code) => (x.settle w e s code elapsed, .finished)
    | (x, s, .cancelled) => (x.settleCancelled e s.gone elapsed, .finished)
    | (x, _, .never) => (x, .abandoned)

def runEntry (x : Execution) (w : Workbench) (e : QueueEntry) : Execution × EntryEnd :=
  match x.lookUp w with
  | (none, x) =>
    let x := (x.noteNoToolchain w).addProblem (.noToolchain w.toolchain.goBinary)
    ((x.say w noToolchainLine).reach e.ref .skipped, .finished)
  | (some toolchain, x) =>
    match w.libraries.find? (·.owns e.what) with
    | none =>
      ((x.note (.warning "no_adapter_for_test" [("test_id", .text e.node.id)])).reach e.ref
        .skipped, .finished)
    | some library =>
      match library.runArguments e.what with
      | .error fault => (x, .failed fault.message)
      | .ok arguments => x.runProcess w e
          { command := toolchain.binaryPath, arguments := arguments,
            directory := e.node.path.parent,
            environment := toolchain.environment w.environment w.toolchain.testEnv }

end Execution
end SuiteExplorer
