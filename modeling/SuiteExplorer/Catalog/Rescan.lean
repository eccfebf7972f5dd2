/-
  SuiteExplorer/Catalog/Rescan.lean
  =================================
  Building the catalog anew: everything is taken out, each root is listed, and
  the files of its listing are discovered in their order. A rescan that is
  cancelled stops where it is and keeps what it has found.
-/
import SuiteExplorer.Catalog.Upkeep

namespace SuiteExplorer

/-- How far a rescan is when it looks whether it has been cancelled. -/
structure RescanProgress where
  /-- how often it has looked before -/
  looks : Nat := 0
  /-- how many calls of listeners it has led to -/
  calls : Nat := 0
  /-- a root is being listed, and the listing may come before the cancellation is
      seen -/
  lists : Bool := false
deriving Repr, DecidableEq

/-- Whether a rescan is cancelled, at each point of its progress. -/
abbrev CancelSignal := RescanProgress → Bool

def CancelSignal.never : CancelSignal := fun _ => false

structure Rescan where
  catalog : Catalog
  progress : RescanProgress := {}
  called : List String := []
  journal : Journal := []

namespace Rescan

def note (r : Rescan) (journal : Journal) : Rescan := { r with journal := r.journal ++ journal }

def look (r : Rescan) (cancelled : CancelSignal) : Rescan × Bool :=
  ({ r with progress := ⟨r.progress.looks + 1, r.progress.calls, false⟩ }, cancelled r.progress)

/-- Discover one file. A listener that fails does not end the rescan. -/
def file (r : Rescan) (files : FileTree) (path : Path) : Rescan :=
  let (c, _, report) := r.catalog.discover files path
  { catalog := c
    progress := { r.progress with calls := r.progress.calls + report.called.length }
    called := r.called ++ report.called
    journal := r.journal ++ report.journal ++
      if report.failure.isSome then [.fault "discovery_failed" [("path", .text path.text)]] else [] }

def eachFile (r : Rescan) (files : FileTree) (cancelled : CancelSignal) : List Path → Rescan
  | [] => r
  | path :: rest =>
    let (r, stop) := r.look cancelled
    if stop then r else (r.file files path).eachFile files cancelled rest

/-- Begin to list a root. From now on it is watched, if roots are watched. -/
def watch (r : Rescan) (root : Path) : Rescan :=
  let s := r.catalog.settings
  let r := { r with progress := { r.progress with lists := true } }
  if s.watches then
    let (w, journal) := Watch.Watcher.start { filter := s.filterOf root }
    { r with catalog := { r.catalog with watchers := r.catalog.watchers ++ [w] } }.note journal
  else r

/-- List the roots and discover their files. The first root that is reached
    after the rescan was cancelled ends it. -/
def eachRoot (r : Rescan) (files : FileTree) (cancelled : CancelSignal) : List Path → Rescan
  | [] => r
  | root :: rest =>
    let (r, stop) := (r.watch root).look cancelled
    if stop then r.note [.info "rescan_cancelled" [("root", .text root.text)]]
    else
      let s := r.catalog.settings
      (r.eachFile files cancelled (files.listing root s.includePattern s.extra)).eachRoot files
        cancelled rest

end Rescan

namespace Catalog

/-- Build the catalog anew. Gives the nodes of the files that were found. A
    rescan that is cancelled before it begins changes nothing. -/
def rescan (c : Catalog) (files : FileTree) (cancelled : CancelSignal := .never) :
    Catalog × List NodeRef × Report :=
  let (start, stop) := Rescan.look { catalog := c } cancelled
  if stop then (c, [], {})
  else
    let r := { start with catalog := c.clear.closeWatches }.eachRoot files cancelled
      c.settings.roots
    let found := r.catalog.files.map (·.info.ref)
    let journal := r.journal ++ [.info "rescan_complete"
      [("roots", .int c.settings.roots.length), ("files", .int found.length)]]
    (r.catalog, found, ⟨r.called, none, journal⟩)

/-- Bring a node up to date, the way a test explorer asks for it; without a node
    everything. -/
def resolve (c : Catalog) (files : FileTree) (ref? : Option NodeRef) : Catalog × Report :=
  match ref? with
  | none =>
    let (c, _, report) := c.rescan files
    (c, report)
  | some ref =>
    match c.meaning? ref with
    | none => (c, {})
    | some .package => c.refreshPackage files ref
    | some .file => c.refreshFile files ref
    | some (.runnable _) =>
      let (c, _, report) := c.discover files (c.pathOf ref)
      (c, report)

end Catalog
end SuiteExplorer
