/-
  SuiteExplorer/Catalog/Discovery.lean
  ====================================
  Entering the tests of one file. Nodes are found again by their ids, so that a
  file that is read twice keeps its nodes; only the nodes of tests are made
  anew, each in the place of the one before it. Nothing is ever taken away here
  that the file no longer holds.
-/
import SuiteExplorer.Catalog.Basic

namespace SuiteExplorer

/-! ## 1. Entering a declaration -/

/-- Enter a test into its suite. One with the same id gives way to it. -/
def SuiteNode.enter (s : SuiteNode) (b : Books) (path : Path) (d : Declaration) :
    SuiteNode × Books :=
  let (ref, b) := b.enter (.runnable (.test d))
  let test : NodeInfo :=
    { ref := ref, id := d.qualifiedName, label := d.name, path := path, span := some d.span }
  match s.tests.find? (·.id = test.id) with
  | none => ({ s with tests := s.tests ++ [test] }, b)
  | some old =>
    ({ s with tests := s.tests.map fun t => if t.id = test.id then test else t },
      b.depart (.leaf old) (some s.info.ref))

/-- Enter a test into its file, in the suite of its receiver. A new suite is of
    the library of its first test. -/
def FileNode.enter (f : FileNode) (b : Books) (path : Path) (d : Declaration) :
    FileNode × Books :=
  let receiver := d.receiver.getD ""
  match f.suites.find? (·.info.id = receiver) with
  | some s =>
    let (s', b) := s.enter b path d
    ({ f with suites := f.suites.map fun t => if t.info.id = receiver then s' else t }, b)
  | none =>
    let (ref, b) := b.enter (.runnable (.suite ⟨receiver, d.kind⟩))
    let s : SuiteNode := { info := { ref := ref, id := receiver, label := receiver, path := path } }
    let (s', b) := s.enter b path d
    ({ f with suites := f.suites ++ [s'] }, b)

def FileNode.enterAll (f : FileNode) (b : Books) (path : Path) :
    List Declaration → FileNode × Books
  | [] => (f, b)
  | d :: rest =>
    let (f', b) := f.enter b path d
    f'.enterAll b path rest

def PackageNode.enter (p : PackageNode) (b : Books) (path : Path) (ds : List Declaration) :
    PackageNode × Books :=
  match p.files.find? (·.info.id = path.stem) with
  | some f =>
    let (f', b) := f.enterAll b path ds
    ({ p with files := p.files.map fun g => if g.info.id = path.stem then f' else g }, b)
  | none =>
    let (ref, b) := b.enter .file
    let f : FileNode := { info := { ref := ref, id := path.stem, label := path.name, path := path } }
    let (f', b) := f.enterAll b path ds
    ({ p with files := p.files ++ [f'] }, b)

namespace Catalog

/-- The id of a package: its directory and its name. -/
def packageId (directory : Path) (name : String) : String := s!"{directory.text}:{name}"

/-- How a package is shown: behind the way to its directory from the first root that
    holds it, else behind the directory as it is written. A way that is a single dot is
    left out. -/
def packageLabel (c : Catalog) (directory : Path) (name : String) : String :=
  let shown := match c.settings.roots.findSome? directory.below? with
    | some names => (Path.relative names).text
    | none => directory.text
  if shown = "." then name else shown ++ "/" ++ name

def enterFile (c : Catalog) (path : Path) (package : String) (ds : List Declaration) : Catalog :=
  let directory := path.parent
  let id := packageId directory package
  match c.packages.find? (·.info.id = id) with
  | some p =>
    let (p', b) := p.enter c.books path ds
    { c with packages := c.packages.map fun q => if q.info.id = id then p' else q, books := b }
  | none =>
    let (ref, b) := c.books.enter .package
    let p : PackageNode :=
      { info := { ref := ref, id := id, label := c.packageLabel directory package,
                  path := directory } }
    let (p', b) := p.enter b path ds
    { c with packages := c.packages ++ [p'], books := b }

/-! ## 2. Discovering a file -/

/-- The tests of a text that belong to the libraries, library by library. -/
def declarationsIn (c : Catalog) (text : String) : List Declaration :=
  c.settings.libraries.flatMap (·.declarations text)

/-- The path may be that of a test file, as seen from the first root above it. -/
def isCandidate (c : Catalog) (path : Path) : Bool :=
  Exclusion.isCandidate path (c.rootOf? path) c.settings.extra

/-- The content of a file as text, or why there is none. No path that is asked for has a null
    character, since no file's path has one. -/
def readText (files : FileTree) (path : Path) : Option String × Journal :=
  match files.read? path with
  | some bytes => (some (Text.Utf8.decode bytes), [])
  | none => (none, [.warning "file_read_failed" [("path", .text path.text),
      ("error", .text ((files.readFault path).message path))]])

/-- Enter the tests of a text. Gives whether there are any. -/
def discoverText (c : Catalog) (path : Path) (text : String) : Catalog × Bool × Journal :=
  match PackageClause.ofLines (Text.splitLines text.toList) with
  | none => (c, false, [])
  | some clause =>
    match c.declarationsIn text with
    | [] => (c, false, [])
    | ds => (c.enterFile path clause.name ds, true,
        [.debug "file_discovered" [("path", .text path.text), ("package", .text clause.name),
          ("tests", .int ds.length)]])

/-- Enter the tests of a file, read from disk unless its content is given. The
    listeners are not told yet. -/
def discoverQuietly (c : Catalog) (files : FileTree) (path : Path) (content : Option String) :
    Catalog × Bool × Journal :=
  if !c.isCandidate path then (c, false, [])
  else match content with
    | some text => c.discoverText path text
    | none =>
      match readText files path with
      | (some text, _) => c.discoverText path text
      | (none, journal) => (c, false, journal)

/-- Enter the tests of a file. Gives whether there are any. -/
def discover (c : Catalog) (files : FileTree) (path : Path) (content : Option String := none) :
    Catalog × Bool × Report :=
  let (c, changed, journal) := c.discoverQuietly files path content
  let (c, report) := c.notifyIf changed journal
  (c, changed, report)

end Catalog
end SuiteExplorer
