/-
  SuiteExplorer/Catalog/Selection.lean
  ====================================
  Selecting suites and tests by their names.
-/
import SuiteExplorer.Catalog.Basic

namespace SuiteExplorer

structure UnknownTest where
  name : String
deriving Repr, DecidableEq

def UnknownTest.message (e : UnknownTest) : String := s!"No suite or test named '{e.name}'"

namespace Catalog

/-- Add nodes to a selection that does not hold them yet. -/
def select (selected : List NodeRef) : List NodeRef → List NodeRef
  | [] => selected
  | r :: rest => select (if selected.contains r then selected else selected ++ [r]) rest

/-- The suites and tests with these names, in all packages, each of them once.
    The first name that no node has is the error. -/
def selectNamed (c : Catalog) (names : List String) : Except UnknownTest (List NodeRef) :=
  names.foldlM
    (fun selected name =>
      match c.named name with
      | [] => .error ⟨name⟩
      | refs => .ok (select selected refs))
    []

end Catalog
end SuiteExplorer
