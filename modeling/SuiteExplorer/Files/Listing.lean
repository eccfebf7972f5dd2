/-
  SuiteExplorer/Files/Listing.lean
  ================================
  Listing a workspace: everything but directories that the include pattern
  describes, found by walking down from the root without entering excluded
  directories. In each directory the entries that are no directories come first,
  then the subdirectories, both in the order of their names. A link to a directory
  counts as a directory, but it is never entered.
-/
import SuiteExplorer.Files.Tree
import SuiteExplorer.Exclusion

namespace SuiteExplorer

namespace FileTree

/-- The entry is a directory, or a link that leads to one. -/
def isDirectory (leads : Bool) : FileTree → Bool
  | folder _ => true
  | link _ => leads
  | _ => false

/-- The names of the entries that are no directories. `leads` tells which names lead to a
    directory when links are followed. -/
def filesOf (leads : List String → Bool) (es : List (String × FileTree)) : List String :=
  (es.filter fun e => !e.2.isDirectory (leads [e.1])).map (·.1)

mutual

/-- The names that lead to each entry below a folder that is no directory, without
    entering links or the directories that `prunes` names. -/
def walk (prunes : String → Bool) (leads : List String → Bool) : FileTree → List (List String)
  | folder es =>
    ((filesOf leads es).mergeSort (· ≤ ·)).map (fun n => [n]) ++
      ((walkEntries prunes leads es).mergeSort (fun a b => a.1 ≤ b.1)).flatMap (·.2)
  | _ => []

/-- For each directory to be entered, its name and the names of what the walk finds below
    it. -/
def walkEntries (prunes : String → Bool) (leads : List String → Bool) :
    List (String × FileTree) → List (String × List (List String))
  | [] => []
  | (n, folder es) :: rest =>
    if prunes n then walkEntries prunes leads rest
    else (n, (walk prunes (fun names => leads (n :: names)) (folder es)).map (n :: ·)) ::
      walkEntries prunes leads rest
  | _ :: rest => walkEntries prunes leads rest

end

/-- What a walk from the root of a workspace finds whose path below the root is described
    by the include pattern, in the order of the walk. -/
def listing (t : FileTree) (root : Path) (pattern : String) (extra : List String) : List Path :=
  match t.at? root with
  | none => []
  | some below =>
    let leads := fun names => t.isFolderAt { root with names := root.names ++ names }
    (below.walk (Exclusion.prunes extra) leads).filterMap fun names =>
      if Exclusion.includes pattern (Path.relative names).text then
        some { root with names := root.names ++ names }
      else none

/-- The files that lie directly in a directory, in order of their names; a link to a file
    is one. `none` when the directory cannot be read. -/
def directoryFiles? (t : FileTree) (directory : Path) : Option (List Path) :=
  match t.at? directory with
  | some (folder es) =>
    some ((((es.map (·.1)).filter fun n => t.isFileAt (directory.child n)).mergeSort (· ≤ ·)).map
      directory.child)
  | _ => none

end FileTree
end SuiteExplorer
