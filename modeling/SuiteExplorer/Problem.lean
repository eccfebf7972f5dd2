/-
  SuiteExplorer/Problem.lean
  ==========================
  What can go wrong, each with a code of its own: codes from 2000 are about
  settings, codes from 7000 about running tests.
-/
import SuiteExplorer.Value.Basic

namespace SuiteExplorer

/-! ## 1. Codes -/

inductive ProblemCode where
  | configParseError
  | configInvalidValue
  | toolchainUnavailable
  | emptySelection
  | multiDebugUnsupported
  | debugSessionNotStarted
  | debuggerUnavailable
deriving Repr, DecidableEq

namespace ProblemCode

def all : List ProblemCode :=
  [configParseError, configInvalidValue, toolchainUnavailable, emptySelection,
    multiDebugUnsupported, debugSessionNotStarted, debuggerUnavailable]

def number : ProblemCode → Nat
  | configParseError => 2001
  | configInvalidValue => 2002
  | toolchainUnavailable => 7001
  | emptySelection => 7002
  | multiDebugUnsupported => 7003
  | debugSessionNotStarted => 7004
  | debuggerUnavailable => 7005

def name : ProblemCode → String
  | configParseError => "CONFIG_PARSE_ERROR"
  | configInvalidValue => "CONFIG_INVALID_VALUE"
  | toolchainUnavailable => "TOOLCHAIN_UNAVAILABLE"
  | emptySelection => "EMPTY_SELECTION"
  | multiDebugUnsupported => "MULTI_DEBUG_UNSUPPORTED"
  | debugSessionNotStarted => "DEBUG_SESSION_NOT_STARTED"
  | debuggerUnavailable => "DEBUGGER_UNAVAILABLE"

def ofName? (s : String) : Option ProblemCode := all.find? (·.name = s)

@[simp] theorem ofName?_name (c : ProblemCode) : ofName? c.name = some c := by
  cases c <;> rfl

end ProblemCode

/-! ## 2. What is told about a problem -/

/-- A problem as it is shown: its code, a sentence, and details for programs. -/
structure ProblemReport where
  code : ProblemCode
  message : Value
  retryable : Value := .bool false
  details : Value := .map []
deriving Repr

namespace ProblemReport

/-- The report as entries, the way it is written to a journal. -/
def entries (r : ProblemReport) : Entries :=
  [("code", .int r.code.number), ("error", .text r.code.name), ("message", r.message),
    ("retryable", r.retryable), ("details", r.details)]

def line (r : ProblemReport) : String :=
  s!"[{r.code.number}] {r.code.name}: {r.message.display}"

end ProblemReport

/-! ## 3. Causes -/

/-- What went wrong, with the values it is told about. -/
inductive Problem where
  | unreadableSettings (path reason : Value)
  /-- a setting has a value that it cannot have -/
  | invalidSetting (field value reason : Value)
  /-- the executable of the toolchain is not found -/
  | noToolchain (binary : Value)
  /-- the selection holds nothing that can be run -/
  | nothingSelected
  /-- several entries were to be debugged at once -/
  | severalDebugged (count : Value)
  | sessionRefused (testId : Value)
  /-- no host is there to debug with -/
  | noDebugger
deriving Repr

namespace Problem

def code : Problem → ProblemCode
  | unreadableSettings .. => .configParseError
  | invalidSetting .. => .configInvalidValue
  | noToolchain _ => .toolchainUnavailable
  | nothingSelected => .emptySelection
  | severalDebugged _ => .multiDebugUnsupported
  | sessionRefused _ => .debugSessionNotStarted
  | noDebugger => .debuggerUnavailable

def message : Problem → String
  | unreadableSettings path reason => s!"Failed to parse config at {path.display}: {reason.display}"
  | invalidSetting field _ reason => s!"Invalid value for '{field.display}': {reason.display}"
  | noToolchain binary => s!"cannot resolve `{binary.display}` execution command"
  | nothingSelected => "No tests to run"
  | severalDebugged _ => "Debugging multiple tests is not supported"
  | sessionRefused _ => "debug session did not start"
  | noDebugger => "No debug host is attached"

def details : Problem → Entries
  | unreadableSettings path reason => [("path", path), ("reason", reason)]
  | invalidSetting field value reason =>
    [("field", field), ("value", .text value.display), ("reason", reason)]
  | noToolchain binary => [("binary", binary)]
  | severalDebugged count => [("count", count)]
  | sessionRefused testId => [("test_id", testId)]
  | nothingSelected | noDebugger => []

/-- What is told about the problem. None of them is worth a second attempt
    without a change. -/
def report (p : Problem) : ProblemReport :=
  { code := p.code, message := .text p.message, details := .map p.details }

/-- A problem by its name and what it is told about: each particular is needed,
    and there are no others. -/
def ofTold? (name : String) (told : Entries) : Option Problem :=
  let given (key : Atom) : Value := (Entries.get? told key).getD .null
  let problem (keys : List Atom) (p : Problem) : Option Problem :=
    if keys.all (fun k => (Entries.get? told k).isSome) && told.length = keys.length then some p
    else none
  match name with
  | "parse_error" =>
    problem ["path", "reason"] (unreadableSettings (given "path") (given "reason"))
  | "invalid_value" =>
    problem ["field", "value", "reason"]
      (invalidSetting (given "field") (given "value") (given "reason"))
  | "toolchain_unavailable" => problem ["binary"] (noToolchain (given "binary"))
  | "empty_selection" => problem [] nothingSelected
  | "multi_debug_unsupported" => problem ["count"] (severalDebugged (given "count"))
  | "debug_session_not_started" => problem ["test_id"] (sessionRefused (given "test_id"))
  | "debugger_unavailable" => problem [] noDebugger
  | _ => none

/-- The problem lies in the settings, not in running tests. -/
def isAboutSettings (p : Problem) : Bool := p.code.number < 7000

end Problem
end SuiteExplorer
