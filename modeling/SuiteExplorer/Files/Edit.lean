/-
  SuiteExplorer/Files/Edit.lean
  =============================
  Changes that someone else makes to files.
-/
import SuiteExplorer.Files.Tree

namespace SuiteExplorer

inductive FileEdit where
  | write (path : Path) (content : Bytes)
  /-- remove a file, or a folder with all it holds -/
  | remove (path : Path)
deriving Repr, DecidableEq

namespace FileTree

def edit (t : FileTree) : FileEdit → FileTree
  | .write path content => t.write path content
  | .remove path => t.remove path

def editAll (t : FileTree) (edits : List FileEdit) : FileTree := edits.foldl edit t

end FileTree
end SuiteExplorer
