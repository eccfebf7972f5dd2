/-
  SuiteExplorer/Source/Basic.lean
  ===============================
  What is read from a Go test file: the package clause, the import table and
  the suite-style test methods. Lines and columns count from zero, columns in
  characters.
-/

namespace SuiteExplorer

/-- The suite-style test libraries that are recognised. -/
inductive LibraryKind where
  | gocheck
  | qtsuite
deriving Repr, DecidableEq

namespace LibraryKind

def all : List LibraryKind := [gocheck, qtsuite]

/-- The name a library goes by, here and in answers. -/
def name : LibraryKind → String
  | gocheck => "gocheck"
  | qtsuite => "qtsuite"

def modulePath : LibraryKind → String
  | gocheck => "gopkg.in/check.v1"
  | qtsuite => "github.com/frankban/quicktest/qtsuite"

/-- The package name the module goes by when it is imported without alias. -/
def packageName : LibraryKind → String
  | gocheck => "check"
  | qtsuite => "qtsuite"

def ofName? (s : String) : Option LibraryKind := all.find? (·.name = s)

/-- The library that a module is. -/
def ofModulePath? (s : String) : Option LibraryKind := all.find? (·.modulePath = s)

/-- The library that goes by a package name. -/
def ofPackageName? (s : String) : Option LibraryKind := all.find? (·.packageName = s)

@[simp] theorem ofName?_name (k : LibraryKind) : ofName? k.name = some k := by
  cases k <;> rfl

end LibraryKind

structure PackageClause where
  name : String
  line : Nat
deriving Repr, DecidableEq

/-- One entry of the import table. An alias is a name that is local to its file. -/
structure Import where
  modulePath : String
  line : Nat
  localName : Option String := none
deriving Repr, DecidableEq

/-- A stretch of source text, from a line and column to a line and column. -/
structure Span where
  startLine : Nat
  startColumn : Nat
  endLine : Nat
  endColumn : Nat
deriving Repr, DecidableEq

/-- The type of a test method's argument, its module resolved. -/
structure ArgumentType where
  modulePath : String
  name : String
deriving Repr, DecidableEq

/-- A suite-style test method. `kind` is `none` when the argument's module is
    an aliased one that is no known library. -/
structure Declaration where
  kind : Option LibraryKind
  name : String
  line : Nat
  span : Span
  receiver : Option String := none
  argument : Option ArgumentType := none
deriving Repr, DecidableEq

/-- `Receiver.Name`, or the name alone without a receiver (an empty receiver
    counts as none). -/
def Declaration.qualifiedName (d : Declaration) : String :=
  match d.receiver with
  | none => d.name
  | some r => if r.isEmpty then d.name else s!"{r}.{d.name}"

/-- Everything that is read from one file. -/
structure SourceFile where
  package : PackageClause
  imports : List Import
  declarations : List Declaration
deriving Repr, DecidableEq

end SuiteExplorer
