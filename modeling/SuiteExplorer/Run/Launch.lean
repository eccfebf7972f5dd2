/-
  SuiteExplorer/Run/Launch.lean
  =============================
  The launch configuration of a node of the catalog, for a debugger that the
  explorer does not start itself.
-/
import SuiteExplorer.Debug.Attempt

namespace SuiteExplorer.Catalog

/-- The launch configuration of a suite or test of the catalog. Any other node
    has none, nor has one whose toolchain or library is missing. -/
def launchConfiguration (c : Catalog) (w : Workbench) (x : Execution) (ref : NodeRef) :
    Execution × Option Entries :=
  match (c.subtree? ref).map (·.info), (c.meaning? ref).bind Meaning.runnable? with
  | some node, some what =>
    let (x, answer) := x.launchConfiguration w node what
    (x, answer.toOption)
  | _, _ => (x, none)

end SuiteExplorer.Catalog
