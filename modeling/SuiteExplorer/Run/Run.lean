/-
  SuiteExplorer/Run/Run.lean
  ==========================
  A whole run: the queue of a request is worked off entry by entry. What keeps
  one entry from running never keeps the others from it; a request that selects
  nothing, or more than one entry to debug, is turned down before anything runs.
-/
import SuiteExplorer.Debug.Attempt
import SuiteExplorer.Run.Process

namespace SuiteExplorer

namespace Execution

def breakOff (x : Execution) (e : QueueEntry) (reason : String) : Execution :=
  (x.note (.fault "test_entry_failed" [("test_id", .text e.node.id)])).noteState
    ⟨e.ref, .errored, some reason, none⟩

/-- Nobody works on an entry any more. -/
def complete (x : Execution) (w : Workbench) (e : QueueEntry) : Execution :=
  (x.clearBusy e.ref).say w s!"Completed {e.kindName} {e.node.id}"

/-- Work on an entry that is not skipped from the start. Gives whether the run
    goes on. -/
def startEntry (x : Execution) (w : Workbench) (debug : Bool) (e : QueueEntry) :
    Execution × Bool :=
  let x := (x.say w s!"Running {e.kindName} {e.node.id}").reach e.ref .started
  let (x, last) := if debug then x.debugEntry w e else x.runEntry w e
  match last with
  | .finished => (x.complete w e, true)
  | .failed reason => ((x.breakOff e reason).complete w e, true)
  | .abandoned => (x.clearBusy e.ref, false)

/-- Work on one entry. Once the run is cancelled it is only skipped. -/
def entry (x : Execution) (w : Workbench) (debug : Bool) (e : QueueEntry) : Execution × Bool :=
  let x := x.arrive
  if x.cancel.isSet then ((x.say w s!"Skipped {e.node.id}").reach e.ref .skipped, true)
  else x.startEntry w debug e

/-- Work off a queue. Gives whether it came to its end. -/
def entries (x : Execution) (w : Workbench) (debug : Bool) :
    List QueueEntry → Execution × Bool
  | [] => (x, true)
  | e :: rest =>
    match x.entry w debug e with
    | (x, true) => x.entries w debug rest
    | (x, false) => (x, false)

def reject (x : Execution) (w : Workbench) (p : Problem) : Execution :=
  (x.note (.warning "test_run_rejected" p.report.entries)).say w p.message

/-- Enter all entries of a queue before the first is worked on. -/
def enqueue (x : Execution) (w : Workbench) (debug : Bool) (q : List QueueEntry) : Execution :=
  (x.note (.info "test_run_started" [("run_id", .text w.runId), ("entries", .int q.length),
    ("debug", .bool debug)])).reachAll (q.map (·.ref)) .enqueued

/-- Work off a queue from its first entry to its last. -/
def queue (x : Execution) (w : Workbench) (debug : Bool) (q : List QueueEntry) :
    Execution × Bool :=
  let (x, completed) := (x.enqueue w debug q).entries w debug q
  (x.note (.info "test_run_completed" [("run_id", .text w.runId)]), completed)

end Execution

/-- Why a queue cannot be worked off. -/
def Queue.rejection? (debug : Bool) (q : List QueueEntry) : Option Problem :=
  if q.isEmpty then some .nothingSelected
  else if debug && 1 < q.length then some (.severalDebugged (.int q.length))
  else none

structure RunResult where
  catalog : Catalog
  execution : Execution
  report : RunReport NodeRef
  /-- the run did not break off -/
  completed : Bool := true

namespace Catalog

/-- Every node shows the last state it has reached. -/
def applyTransitions (c : Catalog) (ts : List (Transition NodeRef)) : Catalog :=
  ts.foldl (fun c t => c.setState t.node t.state) c

def run (c : Catalog) (w : Workbench) (r : RunRequest) (x : Execution) : RunResult :=
  let q := c.queue r
  let x := { x with record := { debug := r.debug } }
  match Queue.rejection? r.debug q with
  | some p =>
    let x := x.reject w p
    { catalog := c, execution := x, report := { record := x.record, rejected := some p } }
  | none =>
    let (x, completed) := x.queue w r.debug q
    { catalog := c.applyTransitions x.record.transitions
      execution := x
      report := { record := x.record, entries := q.map (·.ref) }
      completed := completed }

end Catalog
end SuiteExplorer
