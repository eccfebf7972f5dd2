/-
  SuiteExplorer/Debug/Correlator.lean
  ===================================
  Matching the events of a debug host with the attempts that wait for them. A
  host reports all its sessions on one stream; each attempt registers a token
  of its own and embeds it in its launch configuration, so that a session whose
  configuration carries the token belongs to that attempt.

  A registration is dropped when its session ends, when it is released, or when
  everything is disposed of. What waited for it is then settled for good.
-/
import SuiteExplorer.Debug.Tracker
import SuiteExplorer.Journal.Event

namespace SuiteExplorer

/-- The key of a launch configuration that holds the token. -/
def correlationKey : String := "goTestSessionID"

/-- A session of a debug host, with the token its configuration carries. -/
structure DebugSession where
  id : String
  token : Option String := none
deriving Repr, DecidableEq

/-- Something that is waited for: it happens once, with a session, or is called
    off. -/
inductive Awaited where
  | pending
  | cancelled
  | arrived (session : DebugSession)
deriving Repr, DecidableEq

namespace Awaited

def isSettled : Awaited → Bool
  | pending => false
  | _ => true

/-- Let it happen, unless it is settled. -/
def arrive (a : Awaited) (s : DebugSession) : Awaited :=
  match a with
  | pending => arrived s
  | settled => settled

/-- Call it off, unless it is settled. -/
def cancel : Awaited → Awaited
  | pending => cancelled
  | settled => settled

end Awaited

/-- One debug attempt that waits for events of the host. -/
structure Registration where
  token : String
  tracker : Option DebugTracker := none
  session : Option DebugSession := none
  started : Awaited := .pending
  terminated : Awaited := .pending
deriving Repr

namespace Registration

/-- Call off everything that is still waited for. -/
def cancel (r : Registration) : Registration :=
  { r with started := r.started.cancel, terminated := r.terminated.cancel }

/-- The session starts; only the first start counts. -/
def start (r : Registration) (s : DebugSession) : Registration :=
  if r.started.isSettled then r else { r with session := some s, started := .arrived s }

/-- The session ends, having started at the latest now. -/
def terminate (r : Registration) (s : DebugSession) : Registration :=
  let r := r.start s
  { r with terminated := r.terminated.arrive s }

end Registration

/-- All registrations ever made, and for each pending token the place of its
    latest one. -/
structure Correlator where
  history : List Registration := []
  live : List (String × Nat) := []
deriving Repr

namespace Correlator

/-- The tokens that are pending, in order of registration. -/
def pendingTokens (c : Correlator) : List String := c.live.map (·.1)

/-- The place of the pending registration of a token. -/
def place? (c : Correlator) (token : String) : Option Nat :=
  (c.live.find? (·.1 = token)).map (·.2)

def change (c : Correlator) (place : Nat) (f : Registration → Registration) : Correlator :=
  { c with history := c.history.modify place f }

/-- Note the place of a token: instead of its earlier one, or at the end. -/
def enter (token : String) (place : Nat) : List (String × Nat) → List (String × Nat)
  | [] => [(token, place)]
  | (t, p) :: rest => if t = token then (t, place) :: rest else (t, p) :: enter token place rest

def drop (c : Correlator) (token : String) : Correlator :=
  { c with live := c.live.filter (·.1 ≠ token) }

/-- Register a token, which becomes pending. Also gives the place of the new
    registration. -/
def register (c : Correlator) (token : String) : Correlator × Nat :=
  let place := c.history.length
  ({ history := c.history ++ [{ token := token }], live := enter token place c.live }, place)

def release (c : Correlator) (token : String) : Correlator :=
  match c.place? token with
  | none => c
  | some place => (c.change place .cancel).drop token

def dispose (c : Correlator) : Correlator :=
  { history := c.live.foldl (fun h e => h.modify e.2 .cancel) c.history, live := [] }

/-- The place of the pending registration that a session belongs to. -/
def match? (c : Correlator) (s : DebugSession) : Option Nat := s.token.bind c.place?

/-- Claim the tracker of a session; only the first claim for a registration
    gets one. -/
def claimTracker (c : Correlator) (s : DebugSession) : Correlator × Bool :=
  match c.match? s with
  | none => (c, false)
  | some place =>
    match c.history[place]? with
    | none => (c, false)
    | some r =>
      if r.tracker.isSome then (c, false)
      else (c.change place fun r => { r with tracker := some {} }, true)

def sessionStarted (c : Correlator) (s : DebugSession) : Correlator :=
  match c.match? s with
  | none => c
  | some place => c.change place (·.start s)

def sessionTerminated (c : Correlator) (s : DebugSession) : Correlator × Journal :=
  match c.match? s, s.token with
  | some place, some token =>
    ((c.change place (·.terminate s)).drop token,
      [.debug "debug_session_terminated" [("session_id", .text s.id), ("token", .text token)]])
  | _, _ => (c, [])

end Correlator
end SuiteExplorer
