/-
  SuiteExplorer/Run/Queue.lean
  ============================
  From a selection of nodes to what is run, in order: going down from each
  selected node, the first suites and tests that are met. A node that is
  excluded, or that has left the catalog, contributes nothing.
-/
import SuiteExplorer.Catalog.Basic

namespace SuiteExplorer

/-- What is to be run. Without a selection it is everything. -/
structure RunRequest where
  selected : Option (List NodeRef) := none
  excluded : List NodeRef := []
  debug : Bool := false
deriving Repr, DecidableEq

/-- One suite or test that is run, and the nodes below it. -/
structure QueueEntry where
  node : NodeInfo
  what : Runnable
  children : List NodeRef := []
deriving Repr

namespace QueueEntry

def ref (e : QueueEntry) : NodeRef := e.node.ref

def kindName (e : QueueEntry) : String :=
  match e.what with
  | .suite _ => "suite"
  | .test _ => "test"

end QueueEntry

namespace Queue

mutual

/-- The entries below a node, itself included. -/
def below (meaning? : NodeRef → Option Meaning) (excluded : List NodeRef) :
    Subtree → List QueueEntry
  | .node i cs =>
    if excluded.contains i.ref then []
    else match meaning? i.ref with
      | none => []
      | some (.runnable what) => [⟨i, what, cs.map (·.info.ref)⟩]
      | some _ => belowAll meaning? excluded cs

def belowAll (meaning? : NodeRef → Option Meaning) (excluded : List NodeRef) :
    List Subtree → List QueueEntry
  | [] => []
  | t :: rest => below meaning? excluded t ++ belowAll meaning? excluded rest

end
end Queue

/-- The trees that a request begins with. -/
def Catalog.selectedTrees (c : Catalog) (r : RunRequest) : List Subtree :=
  match r.selected with
  | none => c.trees
  | some refs => refs.filterMap c.subtree?

def Catalog.queue (c : Catalog) (r : RunRequest) : List QueueEntry :=
  Queue.belowAll c.meaning? r.excluded (c.selectedTrees r)

end SuiteExplorer
