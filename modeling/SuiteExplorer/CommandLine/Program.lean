/-
  SuiteExplorer/CommandLine/Program.lean
  ======================================
  The whole program: from its arguments and the world it finds to what it shows,
  what it leaves behind, and its exit status.
-/
import SuiteExplorer.CommandLine.Commands
import SuiteExplorer.CommandLine.Invocation

namespace SuiteExplorer.CommandLine

structure Outcome where
  status : Nat
  terminal : Terminal
  /-- a fault that no one has handled -/
  fault? : Option Fault := none

def perform (verbose : Bool) : Command → Action Unit
  | .discover path asJson => discover verbose path asJson
  | .launchConfig name path => launchConfig verbose name path
  | .run path tests excluded => run verbose path tests excluded
  | .watch path => watch verbose path

/-- The outcome of a command, however it ends. -/
def Action.outcome (a : Action Unit) (w : World) : Outcome :=
  match (a.run w).run.run { files := w.files } with
  | (.ok (), t) => ⟨0, t, none⟩
  | (.error .failed, t) => ⟨1, t, none⟩
  | (.error (.complaint message), t) => ⟨1, t.printError s!"Error: {message}\n", none⟩
  | (.error (.fault f), t) => ⟨1, t, some f⟩

def versionLine : String := "gosuite, version 0.1.0\n"

/-- The program. Misuse has a status of its own. -/
def execute (w : World) (args : List String) : Outcome :=
  let t : Terminal := { files := w.files }
  match request w.look args with
  | .error m => ⟨2, t.printError (m.error.page w.program m.topic), none⟩
  | .ok .version => ⟨0, t.print versionLine, none⟩
  | .ok (.page topic) => ⟨0, t.print (topic.page w.program), none⟩
  | .ok .nothing => ⟨2, t.printError (Topic.page w.program none), none⟩
  | .ok (.perform verbose command) => (perform verbose command).outcome w

end SuiteExplorer.CommandLine
