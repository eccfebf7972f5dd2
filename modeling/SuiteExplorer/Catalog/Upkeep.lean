/-
  SuiteExplorer/Catalog/Upkeep.lean
  =================================
  Taking nodes out of the catalog: what a node holds before it is discovered
  anew, the node of a file that is gone, and nodes that hold no tests.
-/
import SuiteExplorer.Catalog.Discovery

namespace SuiteExplorer.Catalog

/-! ## 1. Emptying a node -/

/-- Take out what one suite, file or package of the tree holds. -/
def emptySuite (ref : NodeRef) (s : SuiteNode) : SuiteNode :=
  if s.info.ref = ref then { s with tests := [] } else s

def emptyFile (ref : NodeRef) (f : FileNode) : FileNode :=
  if f.info.ref = ref then { f with suites := [] }
  else { f with suites := f.suites.map (emptySuite ref) }

def emptyPackage (ref : NodeRef) (p : PackageNode) : PackageNode :=
  if p.info.ref = ref then { p with files := [] }
  else { p with files := p.files.map (emptyFile ref) }

def childrenOf (c : Catalog) (ref : NodeRef) : List Subtree :=
  ((c.subtree? ref).map (·.children)).getD []

/-- Take out what a node holds, whether it is in the tree or has left it. -/
def clearChildren (c : Catalog) (ref : NodeRef) : Catalog :=
  let children := c.childrenOf ref
  let departed := c.books.departed.map fun d => { d with tree := d.tree.emptied ref }
  { c with
    packages := c.packages.map (emptyPackage ref)
    books := { c.books with departed := departed }.departAll children }

def pathOf (c : Catalog) (ref : NodeRef) : Path :=
  ((c.subtree? ref).map (·.info.path)).getD {}

/-! ## 2. Refreshing -/

/-- Empty a node and discover its file anew. The listeners are not told yet. -/
def refreshQuietly (c : Catalog) (files : FileTree) (ref : NodeRef) : Catalog × Bool × Journal :=
  let held := !(c.childrenOf ref).isEmpty
  let (c', changed, journal) := (c.clearChildren ref).discoverQuietly files (c.pathOf ref) none
  (c', changed || held, journal)

def refreshFile (c : Catalog) (files : FileTree) (ref : NodeRef) : Catalog × Report :=
  let (c, changed, journal) := c.refreshQuietly files ref
  c.notifyIf changed journal

def discoverEach (c : Catalog) (files : FileTree) : List Path → Catalog × Bool × Journal
  | [] => (c, false, [])
  | path :: rest =>
    let (c, changed, journal) := c.discoverQuietly files path none
    let (c, more, later) := c.discoverEach files rest
    (c, changed || more, journal ++ later)

/-- Empty a node and discover every file of its directory. -/
def refreshPackage (c : Catalog) (files : FileTree) (ref : NodeRef) : Catalog × Report :=
  let held := !(c.childrenOf ref).isEmpty
  let directory := c.pathOf ref
  let c := c.clearChildren ref
  match files.directoryFiles? directory with
  | none =>
    c.notifyIf held [.warning "directory_read_failed" [("path", .text directory.text),
      ("error", .text ((files.readFault directory).message directory))]]
  | some paths =>
    let (c, changed, journal) := c.discoverEach files paths
    c.notifyIf (changed || held) journal

/-! ## 3. Nodes that hold no tests -/

/-- A file without its suites that hold no tests. -/
def pruneFile (f : FileNode) : FileNode :=
  { f with suites := f.suites.filter fun s => !s.tests.isEmpty }

/-- A package without its files that then hold nothing. -/
def prunePackage (p : PackageNode) : PackageNode :=
  { p with files := (p.files.map pruneFile).filter fun f => !f.suites.isEmpty }

def emptySuites (p : PackageNode) : List SuiteNode :=
  p.files.flatMap fun f => f.suites.filter (·.tests.isEmpty)

/-- The files of a package that hold nothing once such suites are gone. -/
def emptyFiles (p : PackageNode) : List FileNode :=
  (p.files.map pruneFile).filter (·.suites.isEmpty)

/-- Remove suites without tests, then files without suites, then packages without
    files. Gives how many nodes have left. -/
def prune (c : Catalog) : Catalog × Nat × Journal :=
  let suites := (c.packages.flatMap emptySuites).map (·.subtree)
  let files := (c.packages.flatMap emptyFiles).map (·.subtree)
  let packages := c.packages.map prunePackage
  let empty := (packages.filter (·.files.isEmpty)).map (·.subtree)
  let removed := suites.length + files.length + empty.length
  ({ c with
      packages := packages.filter fun p => !p.files.isEmpty
      books := c.books.departAll (suites ++ files ++ empty) },
    removed,
    if removed = 0 then [] else [.debug "catalog_pruned" [("removed", .int removed)]])

/-! ## 4. Files that are gone -/

/-- Remove the node of a file, if there is one. What held it stays. -/
def removeFile (c : Catalog) (path : Path) : Catalog × Bool :=
  match c.fileAt? path with
  | none => (c, false)
  | some f =>
    ({ c with
        packages := c.packages.map fun p =>
          { p with files := p.files.filter fun g => g.info.ref ≠ f.info.ref }
        books := c.books.depart f.subtree },
      true)

/-! ## 5. Everything -/

def clear (c : Catalog) : Catalog :=
  { c with packages := [], books := { c.books.departAll c.trees with index := [] } }

/-- Close all watches. They are given up, and what they are left as is kept. -/
def closeWatches (c : Catalog) : Catalog :=
  { c with watchers := [], closed := c.closed ++ c.watchers.map (·.stop) }

/-- Give everything up: the tree, the watches and the listeners. -/
def dispose (c : Catalog) : Catalog := { c.closeWatches.clear with listeners := [] }

end SuiteExplorer.Catalog
