/-
  SuiteExplorer/Catalog/Node.lean
  ===============================
  The nodes of the catalog: packages hold files, files hold suites, suites hold
  tests. Each node has a number of its own, by which it is the same node even
  when another one takes its id.
-/
import SuiteExplorer.Library
import SuiteExplorer.Path
import SuiteExplorer.Run.State

namespace SuiteExplorer

/-- The number of a node. No two nodes of a catalog ever have the same. -/
abbrev NodeRef := Nat

/-- What every node has. The path of a package is its directory, that of any
    other node its file; only tests have a span. -/
structure NodeInfo where
  ref : NodeRef
  id : String
  label : String
  path : Path
  span : Option Span := none
  state : Option RunState := none
deriving Repr, DecidableEq

structure SuiteNode where
  info : NodeInfo
  tests : List NodeInfo := []
deriving Repr, DecidableEq

structure FileNode where
  info : NodeInfo
  suites : List SuiteNode := []
deriving Repr, DecidableEq

structure PackageNode where
  info : NodeInfo
  files : List FileNode := []
deriving Repr, DecidableEq

/-! ## 1. Nodes of any kind -/

/-- A node of any kind with everything below it. -/
inductive Subtree where
  | node (info : NodeInfo) (children : List Subtree)
deriving Repr

namespace Subtree

def info : Subtree → NodeInfo
  | node i _ => i

def children : Subtree → List Subtree
  | node _ cs => cs

def leaf (i : NodeInfo) : Subtree := node i []

mutual

/-- A node and all below it, each before what it holds. -/
def infos : Subtree → List NodeInfo
  | node i cs => i :: infosOf cs

def infosOf : List Subtree → List NodeInfo
  | [] => []
  | t :: rest => infos t ++ infosOf rest

end

mutual

/-- The node with a number, with everything below it. -/
def find? (ref : NodeRef) : Subtree → Option Subtree
  | node i cs => if i.ref = ref then some (node i cs) else findIn? ref cs

def findIn? (ref : NodeRef) : List Subtree → Option Subtree
  | [] => none
  | t :: rest =>
    match find? ref t with
    | some found => some found
    | none => findIn? ref rest

end

mutual

/-- The ids that lead down to the node with a number. -/
def idsTo? (ref : NodeRef) : Subtree → Option (List String)
  | node i cs => if i.ref = ref then some [i.id] else (idsToIn? ref cs).map (i.id :: ·)

def idsToIn? (ref : NodeRef) : List Subtree → Option (List String)
  | [] => none
  | t :: rest =>
    match idsTo? ref t with
    | some ids => some ids
    | none => idsToIn? ref rest

end

mutual

/-- The tree with what the node with a number holds taken out of it. -/
def emptied (ref : NodeRef) : Subtree → Subtree
  | node i cs => if i.ref = ref then node i [] else node i (emptiedIn ref cs)

def emptiedIn (ref : NodeRef) : List Subtree → List Subtree
  | [] => []
  | t :: rest => emptied ref t :: emptiedIn ref rest

end

mutual

def mapInfo (f : NodeInfo → NodeInfo) : Subtree → Subtree
  | node i cs => node (f i) (mapInfoIn f cs)

def mapInfoIn (f : NodeInfo → NodeInfo) : List Subtree → List Subtree
  | [] => []
  | t :: rest => mapInfo f t :: mapInfoIn f rest

end

def refs (t : Subtree) : List NodeRef := t.infos.map (·.ref)

end Subtree

/-! ## 2. Nodes of each kind as trees -/

namespace SuiteNode

def subtree (s : SuiteNode) : Subtree := .node s.info (s.tests.map .leaf)

def mapInfo (f : NodeInfo → NodeInfo) (s : SuiteNode) : SuiteNode :=
  ⟨f s.info, s.tests.map f⟩

end SuiteNode

namespace FileNode

def subtree (n : FileNode) : Subtree := .node n.info (n.suites.map (·.subtree))

def mapInfo (f : NodeInfo → NodeInfo) (n : FileNode) : FileNode :=
  ⟨f n.info, n.suites.map (·.mapInfo f)⟩

end FileNode

namespace PackageNode

def subtree (p : PackageNode) : Subtree := .node p.info (p.files.map (·.subtree))

def mapInfo (f : NodeInfo → NodeInfo) (p : PackageNode) : PackageNode :=
  ⟨f p.info, p.files.map (·.mapInfo f)⟩

end PackageNode
end SuiteExplorer
