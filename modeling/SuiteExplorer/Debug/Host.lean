/-
  SuiteExplorer/Debug/Host.lean
  =============================
  How a debug host may behave: what it answers when it is asked to start a
  session, and what it reports afterwards, event by event.
-/
import SuiteExplorer.Debug.Correlator
import SuiteExplorer.Files.Tree

namespace SuiteExplorer

/-- The session an event is about: the one that is launched, or any other. -/
inductive HostSession where
  | launched
  | other (session : DebugSession)
deriving Repr, DecidableEq

/-- Something that happens while a session is asked for or waited for. -/
inductive HostEvent where
  /-- the host asks for a tracker of the session -/
  | claim (who : HostSession)
  | started (who : HostSession)
  | terminated (who : HostSession)
  /-- the debug adapter sends a message to the tracker of the session -/
  | message (m : Value)
  | adapterError (text : String)
  | adapterExit (code : Option Int)
  | log (content : Bytes)
  | cancel
  | dispose
deriving Repr

inductive StartAnswer where
  | accepts
  | refuses
  | fails (reason : String)
deriving Repr, DecidableEq

structure HostScript where
  /-- what happens before it answers -/
  meanwhile : List HostEvent := []
  start : StartAnswer := .accepts
  /-- what happens while the session is waited for -/
  events : List HostEvent := []
  /-- why asking it to stop a session fails, if it does -/
  stopFails : Option String := none
  /-- what happens once the host has been asked to stop -/
  onStop : List HostEvent := [.terminated .launched]
deriving Repr

end SuiteExplorer
