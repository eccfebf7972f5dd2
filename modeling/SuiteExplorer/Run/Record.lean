/-
  SuiteExplorer/Run/Record.lean
  =============================
  The record of one run: every state a node went through, the output of all
  entries in the order in which it came, and the problems that kept entries
  from running.
-/
import SuiteExplorer.Problem
import SuiteExplorer.Run.State

namespace SuiteExplorer

/-- A node reaches a state. The duration, in milliseconds, is given for states
    that a process has led to. -/
structure Transition (α : Type) where
  node : α
  state : RunState
  message : Option String := none
  duration : Option Int := none
deriving Repr, DecidableEq

/-- The record of a run over nodes of any kind. Output is kept as the pieces in
    which it was appended, which are also what a listener of the run is told. -/
structure Record (α : Type) where
  debug : Bool := false
  transitions : List (Transition α) := []
  pieces : List String := []
  problems : List Problem := []
deriving Repr

namespace Record

variable {α : Type} [DecidableEq α]

def output (r : Record α) : String := String.join r.pieces

def append (r : Record α) (text : String) : Record α := { r with pieces := r.pieces ++ [text] }

def note (r : Record α) (t : Transition α) : Record α :=
  { r with transitions := r.transitions ++ [t] }

/-- A node reaches a state that needs no explanation. -/
def reach (r : Record α) (node : α) (state : RunState) : Record α := r.note ⟨node, state, none, none⟩

def addProblem (r : Record α) (p : Problem) : Record α := { r with problems := r.problems ++ [p] }

def statesOf (r : Record α) (node : α) : List RunState :=
  (r.transitions.filter (·.node = node)).map (·.state)

def finalState? (r : Record α) (node : α) : Option RunState := (r.statesOf node).getLast?

end Record

/-- The outcome of a run request: its record and queue, or why it was turned
    down. -/
structure RunReport (α : Type) where
  record : Record α
  entries : List α := []
  rejected : Option Problem := none
deriving Repr

namespace RunReport

variable {α : Type} [DecidableEq α]

/-- The entries that ended as failed. -/
def failed (r : RunReport α) : List α :=
  r.entries.filter fun n => r.record.finalState? n = some .failed

/-- The request was accepted, every entry could run, and none ended badly. -/
def ok (r : RunReport α) : Bool :=
  r.rejected.isNone && r.record.problems.isEmpty
    && r.entries.all fun n => !((r.record.finalState? n).any (·.isBad))

end RunReport
end SuiteExplorer
