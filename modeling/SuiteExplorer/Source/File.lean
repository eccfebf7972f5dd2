/-
  SuiteExplorer/Source/File.lean
  ==============================
  Reading a whole test file. There is no expression or statement parsing: a
  text that would confuse a compiler yields fewer declarations, or none.
-/
import SuiteExplorer.Source.Declarations

namespace SuiteExplorer

open Text

namespace PackageClause

def pattern : LinePattern := [.lit "package ".toList, .fewSome, .maybe '\r', .finish]

def ofLine? (n : Nat) (line : Line) : Option PackageClause :=
  (pattern.match? line).bind fun m =>
    match m.texts with
    | some name :: _ => some ⟨String.ofList name, n⟩
    | _ => none

/-- The first package clause among lines of which the first has number `n`. -/
def firstFrom (n : Nat) : List Line → Option PackageClause
  | [] => none
  | line :: rest =>
    match ofLine? n line with
    | some found => some found
    | none => firstFrom (n + 1) rest

def ofLines (lines : List Line) : Option PackageClause := firstFrom 0 lines

end PackageClause

namespace SourceFile

/-- Read a file from its lines; `none` without a package clause. Imports and
    test methods are read from the line after the clause. -/
def ofLines (lines : List Line) : Option SourceFile :=
  (PackageClause.ofLines lines).map fun clause =>
    let imports := Imports.ofLines lines (clause.line + 1)
    { package := clause
      imports := imports
      declarations := Declarations.ofLines imports lines (clause.line + 1) }

def ofText (text : String) : Option SourceFile := ofLines (splitLines text.toList)

end SourceFile
end SuiteExplorer
