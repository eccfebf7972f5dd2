/-
  SuiteExplorer/Catalog/Books.lean
  ================================
  What the catalog knows beside its tree: what each node of the tree stands
  for, the nodes that have left the tree, and the number for the next node.
-/
import SuiteExplorer.Catalog.Node

namespace SuiteExplorer

/-- A tree of nodes that has left the catalog. A test that another one has
    replaced still knows the suite it was in. -/
structure Departed where
  tree : Subtree
  parent : Option NodeRef := none
deriving Repr

structure Books where
  index : List (NodeRef × Meaning) := []
  departed : List Departed := []
  nextRef : NodeRef := 0
deriving Repr

namespace Books

/-- What a node stands for, as long as it is in the tree. -/
def meaning? (b : Books) (ref : NodeRef) : Option Meaning :=
  (b.index.find? (·.1 = ref)).map (·.2)

/-- A number for a new node, which stands for something from now on. -/
def enter (b : Books) (m : Meaning) : NodeRef × Books :=
  (b.nextRef, { b with index := (b.nextRef, m) :: b.index, nextRef := b.nextRef + 1 })

/-- These nodes no longer stand for anything. -/
def forget (b : Books) (refs : List NodeRef) : Books :=
  { b with index := b.index.filter fun e => !refs.contains e.1 }

/-- A tree of nodes leaves the catalog: none of them stands for anything any
    longer. -/
def depart (b : Books) (t : Subtree) (parent : Option NodeRef := none) : Books :=
  { b.forget t.refs with departed := b.departed ++ [⟨t, parent⟩] }

def departAll (b : Books) (ts : List Subtree) : Books := ts.foldl (fun b t => b.depart t) b

end Books
end SuiteExplorer
