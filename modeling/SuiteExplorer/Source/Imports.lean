/-
  SuiteExplorer/Source/Imports.lean
  =================================
  Reading the import table: single-line imports, and parenthesised blocks. A
  block that is never closed contributes nothing, and reading goes on with the
  line after its opening.
-/
import SuiteExplorer.Source.Basic
import SuiteExplorer.Text.LinePattern

namespace SuiteExplorer.Imports

open Text

/-! ## 1. The forms a line can have -/

def singlePattern : LinePattern :=
  [.lit "import ".toList, .fewThen [' '], .lit ['"'], .few, .lit ['"'], .maybe '\r', .finish]

def openingPattern : LinePattern := [.lit "import (".toList, .maybe '\r', .finish]

def closingPattern : LinePattern := [.lit [')'], .maybe '\r', .finish]

def entryPattern : LinePattern :=
  [.blanks, .fewThen [' '], .lit ['"'], .few, .lit ['"'], .maybe '\r', .finish]

/-- An import from an alias text and a module text. An empty alias is none. -/
def entry (line : Nat) (alias? : Option (List Char)) (modulePath : List Char) : Import :=
  { modulePath := String.ofList modulePath
    line := line
    localName := (alias?.filter (!·.isEmpty)).map String.ofList }

/-- The import that a single-line declaration names. -/
def single? (n : Nat) (line : Line) : Option Import :=
  (singlePattern.match? line).bind fun m =>
    match m.texts with
    | [alias?, some modulePath, _] => some (entry n alias? modulePath)
    | _ => none

/-- The import that a line within a block names. -/
def memberOfBlock? (n : Nat) (line : Line) : Option Import :=
  (entryPattern.match? line).bind fun m =>
    match m.texts with
    | [_, alias?, some modulePath, _] => some (entry n alias? modulePath)
    | _ => none

def opens (line : Line) : Bool := openingPattern.accepts line

def closes (line : Line) : Bool := closingPattern.accepts line

/-! ## 2. The table -/

/-- Read the imports of some lines, the first of which has number `n`. Within
    a block every line is an entry or nothing, up to the closing one; a block
    is entered only if it is closed later on. -/
def scan (inBlock : Bool) (n : Nat) : List Line → List Import
  | [] => []
  | line :: rest =>
    if inBlock then
      if closes line then scan false (n + 1) rest
      else (memberOfBlock? n line).toList ++ scan true (n + 1) rest
    else
      match single? n line with
      | some found => found :: scan false (n + 1) rest
      | none => scan (opens line && rest.any closes) (n + 1) rest

/-- The imports among the lines of a file from line `start` on, in source
    order. -/
def ofLines (lines : List Line) (start : Nat := 0) : List Import :=
  scan false start (lines.drop start)

end SuiteExplorer.Imports
