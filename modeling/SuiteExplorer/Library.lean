/-
  SuiteExplorer/Library.lean
  ==========================
  Test libraries: which declarations are a library's own, and how a suite or a
  single test is selected on the command line. The differences between
  libraries are data, so that nothing else branches on the library.
-/
import SuiteExplorer.Source.File
import SuiteExplorer.Text.Template

namespace SuiteExplorer

open Text

/-! ## 1. What can be run -/

/-- A receiver type that groups test methods. Its kind is that of the first
    declaration seen for the receiver. -/
structure Suite where
  name : String
  kind : Option LibraryKind := none
deriving Repr, DecidableEq

/-- Something that maps onto one invocation: a suite or a single test. -/
inductive Runnable where
  | suite (suite : Suite)
  | test (declaration : Declaration)
deriving Repr, DecidableEq

def Runnable.kind : Runnable → Option LibraryKind
  | suite s => s.kind
  | test d => d.kind

/-- What a node of the catalog stands for. -/
inductive Meaning where
  | package
  | file
  | runnable (what : Runnable)
deriving Repr, DecidableEq

/-- The four kinds of catalog nodes, by name. -/
def Meaning.kindName : Meaning → String
  | package => "package"
  | file => "file"
  | runnable (.suite _) => "suite"
  | runnable (.test _) => "function"

/-- Only suites and tests map onto an invocation. -/
def Meaning.runnable? : Meaning → Option Runnable
  | runnable what => some what
  | _ => none

/-! ## 2. Selecting on the command line -/

/-- How a library selects tests. The templates may use `{qualified}`,
    `{receiver}` and `{function}`, or `{suite}`. -/
structure Selector where
  runFlag : String
  debugFlag : String
  testTemplate : String
  suiteTemplate : String := "^\x7bsuite\x7d$"
deriving Repr, DecidableEq

/-- The pattern that selects a suite or test. -/
def Selector.patternFor (s : Selector) : Runnable → Except TemplateError String
  | .suite suite => Template.expand s.suiteTemplate [("suite", suite.name)]
  | .test d =>
    Template.expand s.testTemplate
      [("qualified", d.qualifiedName), ("receiver", d.receiver.getD ""), ("function", d.name)]

/-! ## 3. Libraries -/

/-- A test library. A suite or test is its own when the kinds agree. -/
structure Library where
  id : String
  kind : Option LibraryKind
  selector : Selector
deriving Repr, DecidableEq

namespace Library

def owns (l : Library) (what : Runnable) : Bool := what.kind = l.kind

/-- The declarations of a text that belong to this library, in source order. -/
def declarations (l : Library) (text : String) : List Declaration :=
  match SourceFile.ofText text with
  | none => []
  | some file => file.declarations.filter fun d => d.kind = l.kind

/-- The arguments of the toolchain that run a suite or test. -/
def runArguments (l : Library) (what : Runnable) : Except TemplateError (List String) :=
  (l.selector.patternFor what).map fun pattern => ["test", l.selector.runFlag, pattern]

/-- The arguments of the debugged program that run a suite or test. -/
def debugArguments (l : Library) (what : Runnable) : Except TemplateError (List String) :=
  (l.selector.patternFor what).map fun pattern => [l.selector.debugFlag, pattern]

/-- Selects by `Receiver.Test`. -/
def gocheck : Library where
  id := "gocheck"
  kind := some .gocheck
  selector :=
    { runFlag := "-check.f", debugFlag := "-check.f", testTemplate := "^\x7bqualified\x7d$" }

/-- Suites run as subtests of a plain test, so a single test is selected by its
    own name below any parent. -/
def qtsuite : Library where
  id := "qtsuite"
  kind := some .qtsuite
  selector :=
    { runFlag := "-run", debugFlag := "-test.run", testTemplate := ".*/\x7bfunction\x7d$" }

end Library

/-! ## 4. Registries -/

/-- Libraries by id, in the order in which their ids were first registered. -/
structure Registry where
  libraries : List Library := []
deriving Repr

/-- No library is registered under this id. -/
structure UnknownLibrary where
  id : String
deriving Repr, DecidableEq

def UnknownLibrary.message (e : UnknownLibrary) : String := s!"Unknown test library: {e.id}"

namespace Registry

/-- Register a library; one registered before under the same id is replaced in
    its place. -/
def register (r : Registry) (l : Library) : Registry :=
  if r.libraries.any fun k => k.id = l.id then
    ⟨r.libraries.map fun k => if k.id = l.id then l else k⟩
  else ⟨r.libraries ++ [l]⟩

def find? (r : Registry) (id : String) : Option Library := r.libraries.find? (·.id = id)

/-- The libraries of some ids in their order; without ids all, in order of
    registration. The first unknown id is the error. -/
def select (r : Registry) (ids? : Option (List String)) : Except UnknownLibrary (List Library) :=
  match ids? with
  | none => .ok r.libraries
  | some ids => ids.mapM fun id =>
      match r.find? id with
      | some l => .ok l
      | none => .error ⟨id⟩

/-- The libraries that come with the explorer. -/
def standard : Registry := (Registry.register {} .gocheck).register .qtsuite

end Registry
end SuiteExplorer
