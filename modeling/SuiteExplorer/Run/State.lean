/-
  SuiteExplorer/Run/State.lean
  ============================
  The states a node of the catalog goes through in a run: it is enqueued, then
  started, then reaches one of four final states.
-/

namespace SuiteExplorer

inductive RunState where
  | enqueued
  | started
  | passed
  | failed
  | skipped
  | errored
deriving Repr, DecidableEq

namespace RunState

def all : List RunState := [enqueued, started, passed, failed, skipped, errored]

def name : RunState → String
  | enqueued => "enqueued"
  | started => "started"
  | passed => "passed"
  | failed => "failed"
  | skipped => "skipped"
  | errored => "errored"

def ofName? (s : String) : Option RunState := all.find? (·.name = s)

/-- A run leaves no node in a state that is not final. -/
def isFinal : RunState → Bool
  | enqueued | started => false
  | passed | failed | skipped | errored => true

/-- The states that make a run unsuccessful. -/
def isBad : RunState → Bool
  | failed | errored => true
  | _ => false

@[simp] theorem ofName?_name (s : RunState) : ofName? s.name = some s := by
  cases s <;> rfl

end RunState
end SuiteExplorer
