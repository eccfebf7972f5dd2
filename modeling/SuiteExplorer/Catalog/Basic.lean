/-
  SuiteExplorer/Catalog/Basic.lean
  ================================
  The catalog of tests: the tree of packages, its books, and who listens to it.
-/
import SuiteExplorer.Catalog.Books
import SuiteExplorer.Files.Listing
import SuiteExplorer.Text.Utf8
import SuiteExplorer.Watch.Watcher

namespace SuiteExplorer

/-! ## 1. Listeners -/

/-- Someone who wants to know when the catalog has changed. Whether a call
    fails may depend on how many calls there have been before. -/
structure Listener where
  name : String
  fails : Nat → Bool := fun _ => false

structure ListenerFailure where
  name : String
deriving Repr, DecidableEq

def ListenerFailure.message (f : ListenerFailure) : String := s!"listener {f.name}"

/-- The listeners that are called, in order, when `calls` calls have been made
    before. The first one that fails ends the round. -/
def callListeners (calls : Nat) : List Listener → List String × Option ListenerFailure
  | [] => ([], none)
  | l :: rest =>
    if l.fails calls then ([l.name], some ⟨l.name⟩)
    else
      let (more, failure) := callListeners (calls + 1) rest
      (l.name :: more, failure)

/-! ## 2. The catalog -/

structure CatalogSettings where
  roots : List Path := []
  libraries : List Library := []
  includePattern : String := "**/*_test.go"
  extra : List String := []
  /-- the roots are watched once they have been listed -/
  watches : Bool := false
  /-- what the library that watches them ignores on its own -/
  ignored : Watch.Ignored := .usual

/-- What a watch of a root reports. -/
def CatalogSettings.filterOf (s : CatalogSettings) (root : Path) : Watch.Filter :=
  ⟨root, s.includePattern, s.extra, s.ignored⟩

structure Catalog where
  settings : CatalogSettings
  packages : List PackageNode := []
  books : Books := {}
  listeners : List Listener := []
  /-- how often a listener has been called -/
  calls : Nat := 0
  watchers : List Watch.Watcher := []
  /-- the watches of earlier rescans, as closing has left them -/
  closed : List Watch.Watcher := []

namespace Catalog

/-! ## 3. Queries -/

def trees (c : Catalog) : List Subtree := c.packages.map (·.subtree)

/-- All nodes, each before what it holds. -/
def infos (c : Catalog) : List NodeInfo := Subtree.infosOf c.trees

/-- What a node stands for; a node that has left the catalog stands for
    nothing. -/
def meaning? (c : Catalog) (ref : NodeRef) : Option Meaning := c.books.meaning? ref

def files (c : Catalog) : List FileNode := c.packages.flatMap (·.files)

/-- The nodes that lead somewhere in a file: the tests. -/
def tests (c : Catalog) : List NodeInfo := c.infos.filter (·.span.isSome)

def fileAt? (c : Catalog) (path : Path) : Option FileNode :=
  c.files.find? fun f => f.info.path = path

/-- A node, wherever it is now, with all below it. -/
def subtree? (c : Catalog) (ref : NodeRef) : Option Subtree :=
  match Subtree.findIn? ref c.trees with
  | some t => some t
  | none => Subtree.findIn? ref (c.books.departed.map (·.tree))

/-- The ids that lead down to a node inside the tree it is in now. -/
def idsWithin (c : Catalog) (ref : NodeRef) : List String :=
  match Subtree.idsToIn? ref c.trees with
  | some ids => ids
  | none => (Subtree.idsToIn? ref (c.books.departed.map (·.tree))).getD []

/-- The suite that a replaced test was in. -/
def formerSuite? (c : Catalog) (ref : NodeRef) : Option NodeRef :=
  (c.books.departed.find? fun d => d.tree.info.ref = ref).bind (·.parent)

/-- The ids on the way down to a node; one that has left may begin anew. -/
def whereIs (c : Catalog) (ref : NodeRef) : List String :=
  match c.formerSuite? ref with
  | none => c.idsWithin ref
  | some suite => c.idsWithin suite ++ c.idsWithin ref

/-- The node that a chain of ids from a package down leads to. -/
def refIn? (ids : List String) (ts : List Subtree) : Option NodeRef :=
  match ids with
  | [] => none
  | [id] => (ts.find? (·.info.id = id)).map (·.info.ref)
  | id :: rest => (ts.find? (·.info.id = id)).bind fun t => refIn? rest t.children

def refAt? (c : Catalog) (ids : List String) : Option NodeRef := refIn? ids c.trees

/-- The first root that a path lies below. -/
def rootOf? (c : Catalog) (path : Path) : Option Path :=
  c.settings.roots.find? fun r => (path.below? r).isSome

def named (c : Catalog) (name : String) : List NodeRef :=
  (c.infos.filter fun i => i.id = name && ((c.meaning? i.ref).bind Meaning.runnable?).isSome).map
    (·.ref)

/-! ## 4. Telling listeners -/

/-- What an operation led to beside the new catalog. -/
structure Report where
  called : List String := []
  failure : Option ListenerFailure := none
  journal : Journal := []

/-- Tell the listeners that the catalog has changed. Nothing they do changes
    it. -/
def notify (c : Catalog) : Catalog × List String × Option ListenerFailure :=
  let (called, failure) := callListeners c.calls c.listeners
  ({ c with calls := c.calls + called.length }, called, failure)

def notifyIf (c : Catalog) (changed : Bool) (journal : Journal) : Catalog × Report :=
  if changed then
    let (c, called, failure) := c.notify
    (c, ⟨called, failure, journal⟩)
  else (c, ⟨[], none, journal⟩)

/-- Change what every node has, also of those that have left. -/
def mapInfo (c : Catalog) (f : NodeInfo → NodeInfo) : Catalog :=
  { c with
    packages := c.packages.map (·.mapInfo f)
    books := { c.books with
      departed := c.books.departed.map fun d => { d with tree := d.tree.mapInfo f } } }

def setState (c : Catalog) (ref : NodeRef) (state : RunState) : Catalog :=
  c.mapInfo fun i => if i.ref = ref then { i with state := some state } else i

end Catalog
end SuiteExplorer
