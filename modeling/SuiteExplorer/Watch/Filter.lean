/-
  SuiteExplorer/Watch/Filter.lean
  ===============================
  Which changes a watched root reports. The library that watches has a filter of
  its own, to which the names of directories that are never entered are added; it
  looks at all names of a path. What that filter lets through must be a test file
  that a listing of the root would reach.
-/
import SuiteExplorer.Exclusion

namespace SuiteExplorer.Watch

open Text

/-! ## 1. The filter of the library

The library is not part of this program, so what it ignores is a parameter of
all that follows. That it looks at the names of a path in this way is what it
documents. -/

/-- What the filter of the library ignores. -/
structure Ignored where
  /-- names of directories; no path with one of them passes -/
  directories : List String
  /-- names of files that do not pass -/
  isScratch : String → Bool

/-- The pieces between the slashes of a written path. -/
def writtenNames (path : String) : List (List Char) :=
  cutAt '/' (path.toList.dropWhile (· = '/'))

namespace Ignored

/-- A path passes unless one of its names is that of an ignored directory, or its
    last one that of an ignored file. -/
def passes (ignored : Ignored) (path : String) : Bool :=
  let names := writtenNames path
  !names.any (fun n => ignored.directories.contains (String.ofList n))
    && !ignored.isScratch (String.ofList (names.getLast?.getD []))

/-- Further directories are ignored. -/
def adding (ignored : Ignored) (directories : List String) : Ignored :=
  { ignored with directories := ignored.directories ++ directories }

/-- The directories in which tools keep their own data. -/
def toolDirectories : List String :=
  ["__pycache__", ".git", ".hg", ".svn", ".tox", ".venv", ".idea", "node_modules", ".mypy_cache",
    ".pytest_cache", ".hypothesis"]

def endsAs (pattern : String) (name : List Char) : Bool :=
  (Glob.ofString ("*" ++ pattern)).accepts name

def startsAs (word : String) (name : List Char) : Bool := word.toList.isPrefixOf name

/-- Files that editors and compilers write beside the real ones. -/
def isScratchFile (name : List Char) : Bool :=
  endsAs ".py[cod]" name || endsAs ".___jb_???___" name || endsAs ".sw?" name || endsAs "~" name
    || startsAs ".#" name || name = ".DS_Store".toList || startsAs "flycheck_" name

/-- What the library ignores that the program runs with. -/
def usual : Ignored := ⟨toolDirectories, fun name => isScratchFile name.toList⟩

end Ignored

/-! ## 2. The filter of a root -/

structure Filter where
  root : Path
  pattern : String
  extra : List String := []
  ignored : Ignored := .usual

/-- The library lets the path through, which is told to ignore the directories that
    a listing never enters, too. -/
def Filter.isPlain (f : Filter) (path : String) : Bool :=
  (f.ignored.adding (Exclusion.builtIn ++ f.extra)).passes path

/-- A change at the written path is reported. -/
def Filter.accepts (f : Filter) (path : String) : Bool :=
  f.isPlain path &&
    match (Path.ofString path).below? f.root with
    | none => false
    | some names =>
      Exclusion.includes f.pattern (Path.relative names).text
        && Exclusion.isCandidate (Path.ofString path) (some f.root) f.extra

end SuiteExplorer.Watch
