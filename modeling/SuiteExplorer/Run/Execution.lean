/-
  SuiteExplorer/Run/Execution.lean
  ================================
  A run while it goes on: its record so far, what has been asked of the world,
  and what the world will answer. Processes and debug hosts are given as scripts
  of their behaviour, so that a run is a function.
-/
import SuiteExplorer.Debug.Host
import SuiteExplorer.Run.Queue
import SuiteExplorer.Run.Record
import SuiteExplorer.Toolchain

namespace SuiteExplorer

/-! ## 1. What a run works with -/

structure Workbench where
  runId : String := ""
  executables : Executables := []
  toolchain : ToolchainSettings := {}
  /-- the explorer's own environment -/
  environment : Environment := []
  libraries : List Library := []
  /-- someone is told every piece of output -/
  hasListener : Bool := true
  hasDebugger : Bool := true
  logDirectory : Path := {}
  showLog : Bool := true
  writesLogs : Bool := true
deriving Repr

/-- The systems on which debuggers can be asked to write a log. -/
def logSystems : List String := ["linux", "darwin"]

/-- The system is one of these, whatever its version. -/
def canWriteLogs (system : String) : Bool := logSystems.any fun s => s.isPrefixOf system

/-! ## 2. The world -/

/-- Whether a run is to be cancelled. It may be set off by a piece of output
    that holds a certain text. -/
inductive CancelRequest where
  | impossible
  | possible (isSet : Bool) (trigger : Option String := none)
deriving Repr, DecidableEq

namespace CancelRequest

def isSet : CancelRequest → Bool
  | impossible => false
  | possible b _ => b

def set : CancelRequest → CancelRequest
  | impossible => impossible
  | possible _ trigger => possible true trigger

def heard (r : CancelRequest) (text : String) : CancelRequest :=
  match r with
  | possible false (some trigger) =>
    possible (Text.holds trigger.toList text.toList) (some trigger)
  | r => r

end CancelRequest

inductive ProcessEvent where
  | stdout (bytes : Bytes)
  | stderr (bytes : Bytes)
  | cancel
  /-- the process exits by itself while its streams are still open -/
  | gone
deriving Repr, DecidableEq

namespace ProcessEvent

/-- What a process writes to its standard output in an event. -/
def out : ProcessEvent → Bytes
  | stdout bytes => bytes
  | _ => []

/-- What a process writes to its standard error in an event. -/
def err : ProcessEvent → Bytes
  | stderr bytes => bytes
  | _ => []

end ProcessEvent

/-- How the wait for a process comes to its end: both streams are at theirs and there is an
    exit code, or that never happens. -/
inductive ProcessEnd where
  | exits (code : Int)
  | hangs
deriving Repr, DecidableEq

inductive ProcessScript where
  | refused (reason : String)
  | runs (events : List ProcessEvent) (last : ProcessEnd) (elapsed : Int := 0)
deriving Repr, DecidableEq

/-- A process that says nothing and succeeds. -/
def ProcessScript.silent : ProcessScript := .runs [] (.exits 0)

structure Spawn where
  command : String
  arguments : List String
  directory : Path
  environment : Environment
deriving Repr, DecidableEq

/-- A debug session that was asked for. -/
structure Launched where
  folder : Path
  configuration : Entries
deriving Repr

/-! ## 3. The state of a run -/

/-- What a run lets others know. -/
inductive Notice where
  | told (text : String)
  | noted (event : JournalEvent)
deriving Repr

def Notice.told? : Notice → Option String
  | told text => some text
  | noted _ => none

def Notice.event? : Notice → Option JournalEvent
  | told _ => none
  | noted e => some e

structure Execution where
  record : Record NodeRef := {}
  /-- what others have been let know, in order -/
  notices : List Notice := []
  cancel : CancelRequest := .impossible
  /-- for each of the entries to come, whether someone cancels before it is
      reached -/
  interruptions : List Bool := []
  /-- what can be found each time that the toolchain is looked for; afterwards
      what the workbench says -/
  lookups : List Executables := []
  processes : List ProcessScript := []
  /-- for each of the processes to come, how much more of it is passed on before a
      cancellation is seen -/
  lags : List Nat := []
  hosts : List HostScript := []
  correlator : Correlator := {}
  /-- how many tokens have been made -/
  tokens : Nat := 0
  files : FileTree := .empty
  spawns : List Spawn := []
  killed : Nat := 0
  launched : List Launched := []
  /-- the sessions that a host was asked to stop -/
  stopped : List String := []
  /-- the nodes that are being worked on -/
  busy : List NodeRef := []

inductive EntryEnd where
  | finished
  | failed (reason : String)
  /-- the run itself broke off -/
  | abandoned
deriving Repr, DecidableEq

namespace Execution

def told (x : Execution) : List String := x.notices.filterMap Notice.told?

def journal (x : Execution) : Journal := x.notices.filterMap Notice.event?

def note (x : Execution) (e : JournalEvent) : Execution :=
  { x with notices := x.notices ++ [.noted e] }

def noteAll (x : Execution) (journal : Journal) : Execution := journal.foldl note x

/-- Tell the listener something that is not output of the run. Here it takes whatever it is
    told; `Sink` has the run of a listener that fails. -/
def tell (x : Execution) (w : Workbench) (text : String) : Execution :=
  if w.hasListener then
    { x with notices := x.notices ++ [.told text], cancel := x.cancel.heard text }
  else x

def append (x : Execution) (w : Workbench) (text : String) : Execution :=
  { x with record := x.record.append text }.tell w text

/-- Add a line of the explorer's own to the output of the run. -/
def say (x : Execution) (w : Workbench) (line : String) : Execution := x.append w (line ++ "\r\n")

def reach (x : Execution) (ref : NodeRef) (state : RunState) : Execution :=
  { x with record := x.record.reach ref state }

def noteState (x : Execution) (t : Transition NodeRef) : Execution :=
  { x with record := x.record.note t }

def reachAll (x : Execution) (refs : List NodeRef) (state : RunState) : Execution :=
  refs.foldl (fun x r => x.reach r state) x

def addProblem (x : Execution) (p : Problem) : Execution :=
  { x with record := x.record.addProblem p }

def setBusy (x : Execution) (ref : NodeRef) : Execution := { x with busy := ref :: x.busy }

def clearBusy (x : Execution) (ref : NodeRef) : Execution :=
  { x with busy := x.busy.filter (· ≠ ref) }

def noToolchainLine : String := "error: cannot retrieve go execution command"

/-- What an entry that was cancelled ends with. -/
def cancelledMessage : String := "Cancelled"

/-- A cancellation is seen by who waits for something, after some lag. -/
def sees (x : Execution) (lag : Nat) : Bool := x.cancel.isSet && lag == 0

/-- The lag that is left when one more thing happens. -/
def lagLeft (x : Execution) (lag : Nat) : Nat := if x.cancel.isSet then lag - 1 else lag

def arrive (x : Execution) : Execution :=
  { x with
    cancel := if x.interruptions.headD false then x.cancel.set else x.cancel
    interruptions := x.interruptions.tail }

def lookUp (x : Execution) (w : Workbench) : Option Toolchain × Execution :=
  (w.toolchain.resolve? (x.lookups.headD w.executables), { x with lookups := x.lookups.tail })

def noteNoToolchain (x : Execution) (w : Workbench) : Execution :=
  (x.note (.debug "go_binary_not_found" [("binary", .text w.toolchain.goBinary)])).note
    (.error "toolchain_unavailable" (Problem.noToolchain w.toolchain.goBinary).report.entries)

end Execution
end SuiteExplorer
