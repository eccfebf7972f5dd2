/-
  SuiteExplorer/Source/Declarations.lean
  ======================================
  From signatures to test methods: the argument's qualifier is resolved
  against the file's imports. An alias decides by the import it names, whatever
  its text; a qualifier that is no alias must be the package name of a known
  library that is imported without alias. An alias that two imports bind makes
  the whole file ambiguous, and then nothing is reported.
-/
import SuiteExplorer.Source.Imports
import SuiteExplorer.Source.Signature

namespace SuiteExplorer.Declarations

open Text

inductive Resolution where
  /-- two or more imports bind this alias -/
  | ambiguous
  /-- neither an alias nor the name of a library imported here -/
  | unknown
  | resolved (modulePath : String)
deriving Repr, DecidableEq

def resolve (imports : List Import) (qualifier : String) : Resolution :=
  match imports.filter fun i => i.localName = some qualifier && !qualifier.isEmpty with
  | [only] => .resolved only.modulePath
  | _ :: _ :: _ => .ambiguous
  | [] =>
    match LibraryKind.ofPackageName? qualifier with
    | none => .unknown
    | some kind =>
      if imports.any fun i => i.modulePath = kind.modulePath && i.localName = none then
        .resolved kind.modulePath
      else .unknown

/-- The signatures with a nonempty qualifier, each with its line number, among
    lines of which the first has number `n`. -/
def qualified (n : Nat) : List Line → List (Nat × Signature × String)
  | [] => []
  | line :: rest =>
    match Signature.ofLine? line with
    | some s =>
      match s.qualifier with
      | some q => if q.isEmpty then qualified (n + 1) rest else (n, s, q) :: qualified (n + 1) rest
      | none => qualified (n + 1) rest
    | none => qualified (n + 1) rest

/-- The test method that a signature with a resolved qualifier declares. -/
def declare (n : Nat) (s : Signature) (modulePath : String) : Declaration :=
  { kind := LibraryKind.ofModulePath? modulePath
    name := s.name
    line := n
    span := ⟨n, 0, n, s.width⟩
    receiver := some s.receiver
    argument := some ⟨modulePath, s.argument⟩ }

/-- The test methods of a file from line `start` on, in source order. -/
def ofLines (imports : List Import) (lines : List Line) (start : Nat := 0) :
    List Declaration :=
  let found := qualified start (lines.drop start)
  if found.any fun f => resolve imports f.2.2 = .ambiguous then []
  else found.filterMap fun (n, s, q) =>
    match resolve imports q with
    | .resolved modulePath => some (declare n s modulePath)
    | _ => none

end SuiteExplorer.Declarations
