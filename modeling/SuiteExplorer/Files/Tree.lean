/-
  SuiteExplorer/Files/Tree.lean
  =============================
  A file system as a value: a tree of folders with files, links and other things
  at its leaves. A name appears at most once in a folder that the operations here
  have built. A link is followed from the folder it is in, and `..` leads up from
  the folder that one has come to.
-/
import SuiteExplorer.Path
import SuiteExplorer.Text.Quoted

namespace SuiteExplorer

abbrev Bytes := List UInt8

inductive FileTree where
  | file (content : Bytes)
  | folder (entries : List (String × FileTree))
  /-- a link; its target is seen from the folder that it is in -/
  | link (target : Path)
  /-- anything else, such as a pipe or a socket; nothing is read from it -/
  | special
deriving Repr

namespace FileTree

def empty : FileTree := folder []

def isFile : FileTree → Bool
  | file _ => true
  | _ => false

def isFolder : FileTree → Bool
  | folder _ => true
  | _ => false

/-- The entries of a folder; nothing else has any. -/
def entries : FileTree → List (String × FileTree)
  | folder es => es
  | _ => []

def entry? (t : FileTree) (name : String) : Option FileTree :=
  (t.entries.find? (·.1 = name)).map (·.2)

/-! ## 1. Looking up -/

/-- Where one has come to: what is there, and the folders above it, the nearest one
    first. -/
structure Place where
  here : FileTree
  above : List FileTree := []
deriving Repr

/-- One folder up; above the topmost folder is that folder itself. -/
def Place.up (p : Place) : Place :=
  match p.above with
  | [] => p
  | t :: more => ⟨t, more⟩

/-- Go on along names. `follow` goes on from a link in the folder that one has come to:
    along its target, and then along the names that are left. -/
def goWith (follow : Place → Path → List String → Option Place) (p : Place) :
    List String → Option Place
  | [] => some p
  | n :: rest =>
    if !p.here.isFolder then none
    else if n = ".." then goWith follow p.up rest
    else match p.here.entry? n with
      | none => none
      | some (link target) => follow p target rest
      | some e => goWith follow ⟨e, p.here :: p.above⟩ rest

/-- Go on along names, and follow at most so many links. -/
def go (top : FileTree) : Nat → Place → List String → Option Place
  | 0 => goWith fun _ _ _ => none
  | links + 1 => goWith fun p target rest =>
    go top links (if target.isAbsolute then { here := top } else p) (target.names ++ rest)

/-- How many links are followed on one way. -/
def linkLimit : Nat := 40

/-- What an absolute path leads to, all links on the way followed. -/
def at? (t : FileTree) (p : Path) : Option FileTree :=
  (go t linkLimit { here := t } p.names).map (·.here)

/-- The content of the file at a path; what is no file has none. -/
def read? (t : FileTree) (p : Path) : Option Bytes :=
  match t.at? p with
  | some (file content) => some content
  | _ => none

def isFileAt (t : FileTree) (p : Path) : Bool := ((t.at? p).map isFile).getD false

def isFolderAt (t : FileTree) (p : Path) : Bool := ((t.at? p).map isFolder).getD false

def has (t : FileTree) (p : Path) : Bool := (t.at? p).isSome

inductive ReadFault where
  | missing
  /-- it is a file, or lies below one -/
  | notFolder
  | isFolder
deriving Repr, DecidableEq

/-- What stands in the way of reading a path: a folder as a file, or anything
    else as a folder. -/
def readFault (t : FileTree) (p : Path) : ReadFault :=
  match t.at? p with
  | some (folder _) => .isFolder
  | some _ => .notFolder
  | none =>
    let above := (List.range p.names.length).filterMap fun n =>
      t.at? { p with names := p.names.take n }
    if above.any fun e => !e.isFolder then .notFolder else .missing

/-- The wording of a fault, the way the system reports it. -/
def ReadFault.message (fault : ReadFault) (p : Path) : String :=
  let path := Text.quoted p.text
  match fault with
  | missing => s!"[Errno 2] No such file or directory: {path}"
  | notFolder => s!"[Errno 20] Not a directory: {path}"
  | isFolder => s!"[Errno 21] Is a directory: {path}"

/-! ## 2. Changing

A change goes by the names of a path as they are: it follows no link. -/

/-- Set the entry of a name: in its place if there is one, else at the end. -/
def setEntry (name : String) (value : FileTree) :
    List (String × FileTree) → List (String × FileTree)
  | [] => [(name, value)]
  | (n, e) :: rest => if n = name then (n, value) :: rest else (n, e) :: setEntry name value rest

/-- Put something at the end of a chain of names; folders on the way come into
    being, and what is no folder gives way to one. -/
def put (value : FileTree) : List String → FileTree → FileTree
  | [], _ => value
  | n :: rest, t => folder (setEntry n (put value rest ((t.entry? n).getD empty)) t.entries)

/-- Write a file, with the folders above it. -/
def write (t : FileTree) (p : Path) (content : Bytes) : FileTree :=
  put (file content) p.collapse.names t

/-- Add to the end of a file, which comes into being if need be. -/
def append (t : FileTree) (p : Path) (content : Bytes) : FileTree :=
  t.write p (((t.read? p).getD []) ++ content)

/-- Make a folder, with the folders above it; one that exists is kept. -/
def makeFolder (t : FileTree) (p : Path) : FileTree :=
  match t.at? p.collapse with
  | some (folder _) => t
  | _ => put empty p.collapse.names t

inductive WriteFault where
  /-- a file has the name of the folder -/
  | isFile
  /-- there is a file on the way -/
  | belowFile
  /-- a folder has the name of the file -/
  | isFolder
deriving Repr, DecidableEq

def WriteFault.message (fault : WriteFault) (p : Path) : String :=
  let path := Text.quoted p.text
  match fault with
  | isFile => s!"[Errno 17] File exists: {path}"
  | belowFile => s!"[Errno 20] Not a directory: {path}"
  | isFolder => s!"[Errno 21] Is a directory: {path}"

/-- The paths above a path and itself, from the top down. -/
def pathsTo (p : Path) : List Path :=
  (List.range p.names.length).map fun n => { p with names := p.names.take (n + 1) }

/-- See to it that a folder is there, with the folders above it. -/
def ensureFolder (t : FileTree) (p : Path) : Except WriteFault FileTree :=
  match t.at? p with
  | some (folder _) => .ok t
  | some _ => .error .isFile
  | none =>
    if (pathsTo p).any fun q => ((t.at? q).map fun e => !e.isFolder).getD false then
      .error .belowFile
    else .ok ((pathsTo p).foldl makeFolder t)

/-- See to it that a file is there, with the folders above it. -/
def ensureFile (t : FileTree) (p : Path) : Except WriteFault FileTree := do
  let t ← t.ensureFolder p.parent
  match t.at? p.collapse with
  | some (folder _) => throw .isFolder
  | _ => return t.append p []

/-- Take the entry at the end of a chain of names away, a folder with all it
    holds. -/
def erase : List String → FileTree → FileTree
  | [], _ => empty
  | [n], t => folder (t.entries.filter (·.1 ≠ n))
  | n :: rest, t =>
    match t.entry? n with
    | none => t
    | some e => folder (setEntry n (erase rest e) t.entries)

def remove (t : FileTree) (p : Path) : FileTree :=
  if t.has p then erase p.collapse.names t else t

end FileTree
end SuiteExplorer
