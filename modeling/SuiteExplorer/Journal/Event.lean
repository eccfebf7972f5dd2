/-
  SuiteExplorer/Journal/Event.lean
  ================================
  What the explorer notes down while it works: named events with fields.
-/
import SuiteExplorer.Value.Basic

namespace SuiteExplorer

/-- How much an event matters. -/
inductive Severity where
  | debug
  | info
  | warning
  | error
  | critical
deriving Repr, DecidableEq

namespace Severity

def all : List Severity := [debug, info, warning, error, critical]

def weight : Severity → Nat
  | debug => 10
  | info => 20
  | warning => 30
  | error => 40
  | critical => 50

def name : Severity → String
  | debug => "debug"
  | info => "info"
  | warning => "warning"
  | error => "error"
  | critical => "critical"

def levelName (s : Severity) : String := s.name.toUpper

def ofLevelName? (name : String) : Option Severity := all.find? (·.levelName = name)

def reaches (s threshold : Severity) : Bool := threshold.weight ≤ s.weight

end Severity

structure JournalEvent where
  severity : Severity
  name : String
  fields : Entries := []
  /-- it tells of a fault that was caught -/
  isFault : Bool := false
deriving Repr

/-- Events in the order in which they were noted. -/
abbrev Journal := List JournalEvent

namespace JournalEvent

def debug (name : String) (fields : Entries) : JournalEvent := ⟨.debug, name, fields, false⟩

def info (name : String) (fields : Entries) : JournalEvent := ⟨.info, name, fields, false⟩

def warning (name : String) (fields : Entries) : JournalEvent := ⟨.warning, name, fields, false⟩

def error (name : String) (fields : Entries) : JournalEvent := ⟨.error, name, fields, false⟩

/-- The name and the speaker of an event cannot be told among its fields. -/
def isTellable (e : JournalEvent) : Bool :=
  (Entries.get? e.fields "event").isNone && (Entries.get? e.fields "self").isNone

/-- A fault was caught, and the work goes on. -/
def fault (name : String) (fields : Entries) : JournalEvent := ⟨.error, name, fields, true⟩

end JournalEvent
end SuiteExplorer
