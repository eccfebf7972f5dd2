/-
  SuiteExplorer/Path.lean
  =======================
  Slash-separated paths as values. Nothing here looks at a file system: `.` and
  doubled slashes carry no meaning and are dropped, while `..` is kept because
  only a file system knows what it leads to.
-/
import SuiteExplorer.Text.Lines

namespace SuiteExplorer

/-- Where a path starts. Exactly two leading slashes are a start of their own;
    any other number of them is the root. -/
inductive Anchor where
  | here
  | root
  | doubleRoot
deriving Repr, DecidableEq

def Anchor.text : Anchor → String
  | here => ""
  | root => "/"
  | doubleRoot => "//"

def Anchor.ofChars (s : List Char) : Anchor :=
  match (s.takeWhile (· = '/')).length with
  | 0 => here
  | 2 => doubleRoot
  | _ => root

/-- A path: its anchor and the names below it. -/
structure Path where
  anchor : Anchor := .root
  names : List String := []
deriving Repr, DecidableEq

namespace Path

/-- The names between the slashes of a written path that carry a meaning. -/
def namesOf (s : List Char) : List String :=
  ((Text.cutAt '/' s).filter fun n => n ≠ [] && n ≠ ['.']).map String.ofList

def ofString (s : String) : Path := ⟨Anchor.ofChars s.toList, namesOf s.toList⟩

/-- The written form; the path without anchor and names is a single dot. -/
def text (p : Path) : String :=
  match p.anchor, p.names with
  | .here, [] => "."
  | anchor, names => anchor.text ++ "/".intercalate names

def isAbsolute (p : Path) : Bool := p.anchor ≠ .here

/-- The last name, empty for a path without names. -/
def name (p : Path) : String := p.names.getLast?.getD ""

/-- The path without its last name. A path without names is its own parent. -/
def parent (p : Path) : Path := { p with names := p.names.dropLast }

def child (p : Path) (name : String) : Path := { p with names := p.names ++ [name] }

/-- Follow a second path from this one; an anchored path is followed from its
    own start. -/
def join (p q : Path) : Path :=
  if q.isAbsolute then q else { p with names := p.names ++ q.names }

/-- The last name without its last extension. -/
def stem (p : Path) : String :=
  match p.name.toList.reverse.dropWhile (· ≠ '.') with
  | [] => p.name
  | _ :: before => String.ofList before.reverse

/-- The names that lead from a directory down to this path, if it lies there.
    A path lies in itself. -/
def below? (p root : Path) : Option (List String) :=
  if p.anchor = root.anchor && root.names.isPrefixOf p.names then
    some (p.names.drop root.names.length)
  else none

/-- A path given by the names alone, as seen from a root. -/
def relative (names : List String) : Path := ⟨.here, names⟩

/-- Follow `..` without asking a file system; above the root is the root. -/
def collapse (p : Path) : Path :=
  { p with names := (p.names.foldl step []).reverse }
where
  step (taken : List String) (n : String) : List String :=
    if n = ".." then taken.tail else n :: taken

/-- The homes of accounts that are there on every machine. -/
def commonHomes : List (String × String) := [("root", "/root")]

/-- The home directory that a leading name stands for: the own one, without
    slashes at its end, or that of a known account. -/
def homeOf? (home : String) (name : List Char) : Option String :=
  match name with
  | ['~'] =>
    let bare := (home.toList.reverse.dropWhile (· = '/')).reverse
    some (if bare.isEmpty then "/" else String.ofList bare)
  | _ => commonHomes.lookup (String.ofList name.tail)

/-- Read a leading `~` as a home directory. There is no path if that is not
    known, or would begin with `~` itself. -/
def expandHome? (home : String) (p : Path) : Option Path :=
  match p.anchor, p.names with
  | .here, first :: rest =>
    if first.startsWith "~" then
      ((homeOf? home first.toList).filter fun h => !h.startsWith "~").map fun h =>
        let base := ofString h
        { base with names := base.names ++ rest }
    else some p
  | _, _ => some p

end Path
end SuiteExplorer
