/-
  SuiteExplorer/Watch/Watcher.lean
  ================================
  A watcher of one workspace root. While it runs, each batch of changes is
  delivered change by change, in order of the paths. It runs from a start until
  it is stopped or its source of events fails or ends; a later start begins
  anew. What runs is a task, and what stops it a flag that its source of events
  looks at; both outlive the run. The task works in steps: it waits for its
  source and for the receiver of each change, and while it waits anything else
  may happen.
-/
import SuiteExplorer.Journal.Event
import SuiteExplorer.Watch.Filter

namespace SuiteExplorer.Watch

inductive ChangeKind where
  | created
  | modified
  | deleted
deriving Repr, DecidableEq

def ChangeKind.name : ChangeKind → String
  | created => "created"
  | modified => "modified"
  | deleted => "deleted"

/-- A change as the file system reports it, with the path as it is written. -/
structure Change where
  kind : ChangeKind
  path : String
deriving Repr, DecidableEq

structure FileEvent where
  kind : ChangeKind
  path : Path
deriving Repr, DecidableEq

def Change.event (c : Change) : FileEvent := ⟨c.kind, .ofString c.path⟩

/-- The changes of a batch that are delivered, in the order of their paths as written. -/
def Filter.sorted (f : Filter) (batch : List Change) : List Change :=
  (batch.filter fun c => f.accepts c.path).mergeSort fun a b => a.path ≤ b.path

def Filter.events (f : Filter) (batch : List Change) : List FileEvent :=
  (f.sorted batch).map (·.event)

/-- The task of a watcher, which takes batch after batch from the event source. -/
inductive Task where
  /-- it waits for the next batch -/
  | live
  /-- the source has failed or ended -/
  | done
deriving Repr, DecidableEq

/-- A watcher. Flag and task are not renewed when it is stopped: the next start finds them
    the way the last run has left them. -/
structure Watcher where
  filter : Filter
  /-- the event source has been asked to end -/
  stopping : Bool := false
  /-- the task of the last start, unless it was taken away -/
  task : Option Task := none

namespace Watcher

/-- A watcher that has been started once. -/
def running (filter : Filter) : Watcher := { filter, task := some .live }

def isRunning (w : Watcher) : Bool := w.task = some .live

@[simp] theorem filter_running (f : Filter) : (running f).filter = f := rfl

@[simp] theorem isRunning_running (f : Filter) : (running f).isRunning = true := rfl

/-- The event source gives batches until it is asked to end. -/
def hears (w : Watcher) : Bool := w.isRunning && !w.stopping

/-- Start, unless it runs. -/
def start (w : Watcher) : Watcher × Journal :=
  if w.isRunning then (w, [])
  else ({ w with stopping := false, task := some .live },
    [.debug "watcher_started"
      [("root", .text w.filter.root.text), ("pattern", .text w.filter.pattern)]])

/-- Stop: ask the source to end, and take the task away. -/
def stop (w : Watcher) : Watcher := { w with stopping := true, task := none }

/-- The event source ends, and the task with it. -/
def finish (w : Watcher) : Watcher := if w.isRunning then { w with task := some .done } else w

/-- The event source fails. That is an error only if nobody has asked it to end. -/
def fail (w : Watcher) (reason : String) : Watcher × Journal :=
  (w.finish, if w.hears then
    [.error "watcher_error" [("root", .text w.filter.root.text), ("error", .text reason)]]
  else [])

/-- What the receiver is called for with a batch that comes alone. -/
def delivery (w : Watcher) (batch : List Change) : List FileEvent :=
  if w.hears then w.filter.events batch else []

/-- What is noted when the receiver of an event fails; the batch goes on. -/
def failedDelivery (e : FileEvent) : JournalEvent :=
  .fault "watch_event_failed" [("path", .text e.path.text), ("kind", .text e.kind.name)]

/-! ## What happens to a watcher -/

/-- What the event source has for the task. After a failure or its end it has nothing more. -/
inductive Given where
  | batch (changes : List Change)
  | failure (reason : String)
  | ending
deriving Repr, DecidableEq

def Given.isLast : Given → Bool
  | batch _ => false
  | failure _ | ending => true

/-- How many steps it takes at most. -/
def Given.load : Given → Nat
  | batch changes => changes.length + 1
  | failure _ | ending => 1

def Given.loads : List Given → Nat
  | [] => 0
  | g :: rest => g.load + loads rest

/-- A call of a watcher, an act of its event source, or a step of its task. A call is made
    when the one before has returned. -/
inductive Happening where
  | start
  /-- the task is taken away in the middle of what it does; its end is waited for -/
  | stop
  /-- a stop that does not wait for the end of the task -/
  | close
  /-- the source has a batch of changes -/
  | push (batch : List Change)
  | fail (reason : String)
  /-- the source ends -/
  | finish
  /-- the task goes on as far as the next thing it waits for -/
  | step
deriving Repr, DecidableEq

/-- A watcher with its task, the calls of its receiver so far, and what has been noted. -/
structure Course where
  watcher : Watcher
  /-- what the source has, and the task has not taken yet -/
  given : List Given := []
  /-- the events of the batch in hand for which the receiver is still to be called -/
  rest : List FileEvent := []
  /-- the event that the receiver is at work for -/
  called : Option FileEvent := none
  calls : List FileEvent := []
  journal : Journal := []

namespace Course

/-- The source has something for the task. -/
def give (c : Course) (g : Given) : Course :=
  if c.watcher.hears && !c.given.any (·.isLast) then { c with given := c.given ++ [g] } else c

/-- The receiver is called for the next event of the batch in hand. -/
def proceed (c : Course) : Course :=
  match c.rest with
  | [] => { c with called := none }
  | e :: rest => { c with rest := rest, called := some e, calls := c.calls ++ [e] }

/-- The task takes what its source has next. A failure and the end are its own end. -/
def take (c : Course) : Course :=
  match c.given with
  | [] => c
  | .batch changes :: given =>
    proceed { c with given := given, rest := c.watcher.filter.events changes }
  | .failure reason :: given =>
    { c with given := given, watcher := (c.watcher.fail reason).1
             journal := c.journal ++ (c.watcher.fail reason).2 }
  | .ending :: given => { c with given := given, watcher := c.watcher.finish }

/-- A step of the task: the receiver that is at work returns, or fails, which is noted, and
    is called for the next event; if none is at work, the task goes to its source. `raises`
    tells for which events the receiver fails. -/
def step (raises : FileEvent → Bool) (c : Course) : Course :=
  match c.called with
  | none => c.take
  | some e =>
    proceed { c with journal := c.journal ++ if raises e then [failedDelivery e] else [] }

/-- The task is taken away, and with it the batch in hand and the source. -/
def abandon (c : Course) : Course :=
  { c with watcher := c.watcher.stop, given := [], rest := [], called := none }

/-- One thing happens. -/
def meet (raises : FileEvent → Bool) (c : Course) : Happening → Course
  | .start => { c with watcher := c.watcher.start.1, journal := c.journal ++ c.watcher.start.2 }
  | .stop | .close => c.abandon
  | .push batch => c.give (.batch batch)
  | .fail reason => c.give (.failure reason)
  | .finish => c.give .ending
  | .step => c.step raises

/-- A bound for the steps that the task can go on with what it has. -/
def load (c : Course) : Nat :=
  c.called.toList.length + c.rest.length + Given.loads c.given

end Course

/-- The course of a watcher to which all this happens. -/
def course (filter : Filter) (raises : FileEvent → Bool) (hs : List Happening) : Course :=
  hs.foldl (Course.meet raises) { watcher := { filter } }

end Watcher
end SuiteExplorer.Watch
