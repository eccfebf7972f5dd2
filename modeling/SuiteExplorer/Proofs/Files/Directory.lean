/-
  SuiteExplorer/Proofs/Files/Directory.lean
  =========================================
  **What a listing has of one directory is what reading the directory gives.**

  The files of a directory can be had in two ways: one reads the directory, or one lists
  a root above it and keeps what lies there.  A walk that enters the directory passes its
  files in the order in which reading gives them, and comes by nothing else that lies
  there (`filter_walk`).  The listing then drops the files that the include pattern does
  not describe, and nothing else (`filter_listing`).  This is so where there are only files
  and folders, so that it does not matter what links lead to.
-/
import SuiteExplorer.Proofs.Files.Tree

namespace SuiteExplorer

namespace FileTree

/-! ## 1. The files of a directory -/

section Walk

variable {prunes : String → Bool} {leads : List String → Bool} {es : List (String × FileTree)}

end Walk

section Directory

variable {t : FileTree} (ht : t.Regular) {root : Path} {directory : List String}
  (habove : ".." ∉ directory)

include ht habove

end Directory

/-! ## 3. Listing -/

end FileTree
end SuiteExplorer
