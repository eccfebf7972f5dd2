/-
  SuiteExplorer/Catalog/Following.lean
  ====================================
  Keeping the catalog up to date while files change.
-/
import SuiteExplorer.Catalog.Rescan

namespace SuiteExplorer.Catalog

open Watch

def onCreated (c : Catalog) (files : FileTree) (path : Path) : Catalog × Bool × Journal :=
  c.discoverQuietly files path none

/-- A file was modified: discover it anew, and drop what then holds no tests. -/
def onModified (c : Catalog) (files : FileTree) (path : Path) : Catalog × Bool × Journal :=
  let (c, changed, journal) := match c.fileAt? path with
    | none => c.discoverQuietly files path none
    | some f => c.refreshQuietly files f.info.ref
  let (c, removed, later) := c.prune
  (c, changed || 0 < removed, journal ++ later)

/-- A file was deleted: remove its node, and drop what then holds no tests. -/
def onDeleted (c : Catalog) (path : Path) : Catalog × Bool × Journal :=
  match c.removeFile path with
  | (c, false) => (c, false, [])
  | (c, true) =>
    let (c, _, journal) := c.prune
    (c, true, journal)

def follow (c : Catalog) (files : FileTree) (e : FileEvent) : Catalog × Report :=
  let (c, changed, journal) := match e.kind with
    | .created => c.onCreated files e.path
    | .modified => c.onModified files e.path
    | .deleted => c.onDeleted e.path
  c.notifyIf changed journal

/-- Follow changes one after the other. A listener that fails is noted, and the
    next change is followed. -/
def followEach (c : Catalog) (files : FileTree) : List FileEvent → Catalog × Report
  | [] => (c, {})
  | e :: rest =>
    let (c, now) := c.follow files e
    let (c, later) := c.followEach files rest
    let failed := if now.failure.isSome then [Watcher.failedDelivery e] else []
    (c, ⟨now.called ++ later.called, none, now.journal ++ failed ++ later.journal⟩)

def watchedRoots (c : Catalog) : List Path :=
  (c.watchers.filter (·.isRunning)).map (·.filter.root)

/-- A batch of changes below a watched root arrives. Gives whether anyone
    watches the root. -/
def deliver (c : Catalog) (files : FileTree) (root : Path) (batch : List Change) :
    Catalog × Bool × Report :=
  match c.watchers.find? fun w => w.isRunning && w.filter.root = root with
  | none => (c, false, {})
  | some w =>
    let (c, report) := c.followEach files (w.delivery batch)
    (c, true, report)

/-- The source of changes below a root fails. Gives whether anyone watched it. -/
def breakWatch (c : Catalog) (root : Path) (reason : String) : Catalog × Bool × Journal :=
  let breaks (w : Watcher) : Bool := w.isRunning && w.filter.root = root
  ({ c with watchers := c.watchers.map fun w => if breaks w then (w.fail reason).1 else w },
    c.watchers.any breaks,
    (c.watchers.filter breaks).flatMap fun w => (w.fail reason).2)

end SuiteExplorer.Catalog
