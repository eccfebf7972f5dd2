/-
  SuiteExplorer/Debug/Tracker.lean
  ================================
  What a debug session said while it ran, and the verdict that follows from it.
  An adapter's error decides first, then an exit code, then a line of standard
  output that is exactly `PASS` or `FAIL`. Anything else decides nothing, and
  the test counts as skipped.
-/
import SuiteExplorer.Run.State
import SuiteExplorer.Text.Lines
import SuiteExplorer.Value.Basic

namespace SuiteExplorer

/-- What one debug session said. Output pieces are kept as they came, whether
    they are texts or not. -/
structure DebugTracker where
  stdout : List Value := []
  stderr : List Value := []
  others : List Value := []
  error : Option String := none
  exitCode : Option Int := none
deriving Repr

/-- A part of a message that should be a mapping is none. -/
inductive MessageFault where
  | message
  | body
deriving Repr, DecidableEq

/-- A piece of output that is no text, with its place among its kind. -/
structure NotText where
  index : Nat
  piece : Value
deriving Repr

namespace NotText

def kindName : Value → String
  | .atom a => match a with
    | .null => "NoneType"
    | .bool _ => "bool"
    | .int _ => "int"
    | .float _ => "float"
    | .text _ => "str"
    | .bytes _ => "bytes"
    | .moment _ => "datetime"
  | .list _ | .again _ false => "list"
  | .tuple _ => "tuple"
  | .set _ => "set"
  | .map _ | .again _ true => "dict"

def message (e : NotText) : String :=
  s!"sequence item {e.index}: expected str instance, {kindName e.piece} found"

end NotText

namespace DebugTracker

/-! ## 1. Listening -/

def saysText (v : Option Value) (s : String) : Bool :=
  match v with
  | some (.text t) => t = s
  | _ => false

def addOutput (t : DebugTracker) (category : Option Value) (piece : Value) : DebugTracker :=
  if saysText category "stdout" then { t with stdout := t.stdout ++ [piece] }
  else if saysText category "stderr" then { t with stderr := t.stderr ++ [piece] }
  else { t with others := t.others ++ [piece] }

/-- The body of a message. One that is missing or blank counts as empty. -/
def bodyOf (m : Value) : Value :=
  match m.get? "body" with
  | none => .map []
  | some body => if body.isBlank then .map [] else body

/-- A message of the debug adapter. Only output events matter. -/
def onMessage (t : DebugTracker) (m : Value) : Except MessageFault DebugTracker :=
  match m with
  | .map _ =>
    if saysText (m.get? "type") "event" && saysText (m.get? "event") "output" then
      match bodyOf m with
      | .map entries =>
        .ok (t.addOutput (Entries.get? entries "category")
          ((Entries.get? entries "output").getD (.text "")))
      | _ => .error .body
    else .ok t
  | _ => .error .message

def onError (t : DebugTracker) (text : String) : DebugTracker := { t with error := some text }

/-- The debug adapter ended, with or without an exit code. -/
def onExit (t : DebugTracker) (code : Option Int) : DebugTracker := { t with exitCode := code }

/-! ## 2. What was said -/

/-- The texts among pieces of output, or the first piece that is none. -/
def texts (n : Nat) : List Value → Except NotText (List String)
  | [] => .ok []
  | .text s :: rest => (texts (n + 1) rest).map (s :: ·)
  | piece :: _ => .error ⟨n, piece⟩

/-- Pieces of output put together, each behind a line end. -/
def joined (pieces : List Value) : Except NotText String :=
  (texts 0 pieces).map ("\r\n".intercalate ·)

/-- Standard output, error output and the rest, in this order. -/
def transcript (t : DebugTracker) : Except NotText String := do
  let stdout ← joined t.stdout
  let stderr ← joined t.stderr
  let others ← joined t.others
  return "\r\n".intercalate [stdout, stderr, others]

/-! ## 3. The verdict -/

def verdictOfLines (lines : List String) : RunState :=
  if lines.contains "PASS" then .passed
  else if lines.contains "FAIL" then .failed
  else .skipped

/-- The state that a finished session gives its test. -/
def verdict (t : DebugTracker) : Except NotText RunState :=
  match t.error, t.exitCode with
  | some _, _ => .ok .failed
  | none, some code => .ok (if code = 0 then .passed else .failed)
  | none, none => (joined t.stdout).map fun s => verdictOfLines (Text.outputLines s)

/-- The verdict of a session that may have had no tracker. -/
def verdict? : Option DebugTracker → Except NotText RunState
  | none => .ok .skipped
  | some t => t.verdict

end DebugTracker
end SuiteExplorer
