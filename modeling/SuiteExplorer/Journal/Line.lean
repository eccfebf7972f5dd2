/-
  SuiteExplorer/Journal/Line.lean
  ===============================
  How events of the journal become lines. An output takes an event when it
  reaches both the level of the journal and that of the output, and writes it
  either as a JSON object or as a line for the console.
-/
import SuiteExplorer.Settings.Basic
import SuiteExplorer.Value.Document

namespace SuiteExplorer

structure JournalRecord where
  event : JournalEvent
  /-- the part of the program that speaks -/
  logger : Option String := none
  runId : Option String := none
  /-- a message that a library noted by itself, under this name -/
  library : Option String := none
deriving Repr

namespace JournalRecord

/-- The field that marks a fault that was caught. -/
def faultField : String := "exc_info"

/-- The fields that the journal keeps for itself: they are never written. -/
def ownFields : List Atom := ["_record", "_from_structlog"]

/-- The fields of an event, with what is known beside it. The time is added
    last but for the run. -/
def entries (r : JournalRecord) (time : Value) : Entries :=
  let bound := match r.logger with
    | none => []
    | some name => [("logger", Value.text name)]
  let told := r.event.fields.foldl (fun es (k, v) => Entries.set k v es) bound
  let marked := if r.event.isFault && (Entries.get? told faultField).isNone
    then Entries.set faultField (.bool true) told else told
  let named := Entries.set "event" (.text r.event.name) marked
  let leveled := Entries.set "level" (.text r.event.severity.name) named
  let timed := Entries.set "timestamp" time leveled
  let known := match r.runId with
    | none => timed
    | some id => Entries.set "run_id" (.text id) timed
  known.filter fun e => !ownFields.contains e.1

/-! ## 1. Lines for the console -/

/-- A character because of which a text is put between quotes. -/
def needsQuotes (c : Char) : Bool :=
  c = ' ' || c = '\t' || c = '=' || c = '\r' || c = '\n' || c = '"' || c = '\''

/-- The value of a field: a simple text as it is, anything else literally. -/
def fieldText : Value → String
  | .text s => if s.toList.any needsQuotes then Text.quoted s else s
  | v => v.literal

def fieldPart (name : String) (v : Value) : String := s!"{name}={fieldText v}"

def bracketed (_name : String) (v : Value) : String := s!"[{v.display}]"

def bare (_name : String) (v : Value) : String := v.display

/-- The fields that have places of their own on a line, in their order, and how
    they are written there. -/
def places : List (String × (String → Value → String)) :=
  [("", fieldPart), ("timestamp", bare), ("level", bracketed), ("event", bare),
    ("logger", bracketed), ("logger_name", bracketed)]

/-- The fields that are written below the line. -/
def stackField : String := "stack"

def exceptionField : String := "exception"

/-- The fields that are not listed by their names. -/
def placed : List String := [stackField, exceptionField, faultField] ++ places.map (·.1)

/-- What is written below a line: a stack and the text of an exception, with a
    rule between them. -/
def below (es : Entries) : String :=
  let told (name : String) := (Entries.get? es name).filter (· != .null)
  let faulty := (told exceptionField).isSome || ((told faultField).map (!·.isBlank)).getD false
  let stack := (told stackField).map fun v =>
    "\n" ++ v.display ++ if faulty then "\n\n" ++ "".pushn '=' 79 ++ "\n" else ""
  let exception := (told exceptionField).map fun v => "\n" ++ v.display
  stack.getD "" ++ exception.getD ""

/-- A line for the console: time, level, event, logger, then the other fields in
    the order of their names. -/
def consoleLine (r : JournalRecord) (time : String) : String :=
  let es := r.entries (.text time)
  let front := places.filterMap fun (name, write) => (Entries.get? es name).map (write name)
  let others := (es.map fun (k, v) => (k.display, v)).filter fun e => !placed.contains e.1
  let sorted := others.mergeSort fun a b => a.1 ≤ b.1
  let parts := front ++ sorted.map fun (k, v) => fieldPart k v
  let line := " ".intercalate (parts.filter (· ≠ ""))
  String.ofList (line.toList.reverse.dropWhile (· = ' ')).reverse ++ below es

end JournalRecord

/-! ## 2. Outputs -/

inductive JournalLine where
  | object (entries : Entries)
  | console (text : String)
deriving Repr

def JournalLine.text : JournalLine → String
  | object es => Document.line (.map es)
  | console s => s

/-- The watching library notes every change it drops, so less than a warning of
    it is never wanted. -/
def quietLibrary : String := "watchfiles.main"

/-- The level that a record has to reach to be noted at all. -/
def LoggingSettings.threshold (s : LoggingSettings) (r : JournalRecord) : Severity :=
  match r.library with
  | none => s.level
  | some name =>
    if name = quietLibrary || (quietLibrary ++ ".").isPrefixOf name then .warning else s.level

/-- The lines that a record becomes, each with where it is written. -/
def LoggingSettings.lines (s : LoggingSettings) (r : JournalRecord) (time : String)
    (objectTime : Value) : List (LogDestination × JournalLine) :=
  if r.event.severity.reaches (s.threshold r) then
    s.outputs.filterMap fun o =>
      if r.event.severity.reaches (o.level.getD s.level) then
        some (o.destination, match o.format with
          | .json => .object (r.entries objectTime)
          | .console => .console (r.consoleLine time))
      else none
  else []

/-- The first file that the journal is written to. -/
def LoggingSettings.file? (s : LoggingSettings) : Option Path :=
  s.outputs.findSome? fun o =>
    match o.destination with
    | .file path => some path
    | _ => none

end SuiteExplorer
