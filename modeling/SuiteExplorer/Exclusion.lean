/-
  SuiteExplorer/Exclusion.lean
  ============================
  Which files may hold tests. The Go tool itself ignores `testdata` directories
  and names that begin with a dot or an underscore. Below a workspace root,
  version control data, dependency trees and the user's own exclusions are not
  entered either.
-/
import SuiteExplorer.Path
import SuiteExplorer.Text.Glob

namespace SuiteExplorer.Exclusion

def testFileEnding : String := "_test.go"

/-- The directory whose content is ancillary data, never tests. -/
def dataDirectory : String := "testdata"

/-- The directories that are never entered. -/
def builtIn : List String :=
  [".git", ".svn", ".hg", ".bzr", ".gosuite", "vendor", "node_modules", dataDirectory]

/-- Names that the Go tool ignores. -/
def ignoresName (name : String) : Bool :=
  match name.toList with
  | c :: _ => c = '.' || c = '_'
  | [] => false

/-- The directory is not entered while a workspace is listed. -/
def prunes (extra : List String) (directory : String) : Bool :=
  builtIn.contains directory || extra.contains directory || ignoresName directory

/-- The file may hold tests: by its name and, when it lies below the root it is
    seen from, by the directories in between. -/
def isCandidate (path : Path) (root? : Option Path) (extra : List String) : Bool :=
  path.name.endsWith testFileEnding
    && !path.names.contains dataDirectory
    && !ignoresName path.name
    && match root?.bind path.below? with
      | none => true
      | some names => !names.dropLast.any (prunes extra)

/-- How an include pattern begins that also reaches files at the root itself. -/
def anywhere : List Char := ['*', '*', '/']

/-- The include pattern describes a path relative to the workspace root. A
    leading `**/` also matches files at the root itself. -/
def includes (pattern : String) (relative : String) : Bool :=
  (Text.Glob.ofString pattern).accepts relative.toList
    || (anywhere.isPrefixOf pattern.toList
      && (Text.Glob.ofString (String.ofList (pattern.toList.drop 3))).accepts relative.toList)

end SuiteExplorer.Exclusion
