/-
  SuiteExplorer/CommandLine/Terminal.lean
  =======================================
  Where a command works: the world it finds, what it has shown and written so
  far, and how it can end before its time.
-/
import SuiteExplorer.Display.Markup
import SuiteExplorer.Display.Wrap
import SuiteExplorer.Files.Edit
import SuiteExplorer.Journal.Line
import SuiteExplorer.Run.Execution
import SuiteExplorer.Watch.Watcher

namespace SuiteExplorer.CommandLine

/-! ## 1. The world of a command -/

/-- Changes that are made while a workspace is watched, and how they are
    reported. -/
structure WatchBatch where
  edits : List FileEdit := []
  changes : List Watch.Change := []
deriving Repr

/-- What a command finds when it starts, and what will happen while it works. -/
structure World where
  program : String := "gosuite"
  userHome : String := ""
  directory : Path := {}
  environment : Environment := []
  executables : Executables := []
  files : FileTree := .empty
  processes : List ProcessScript := []
  batches : List WatchBatch := []
  runId : String := ""
  /-- the time, as it is written to the journal -/
  time : String := ""

def World.path (w : World) (written : String) : Path := w.directory.join (.ofString written)

/-- What a written path leads to. Nothing is written as the empty path. -/
def World.look (w : World) (written : String) : Option FileTree :=
  if written.isEmpty then none else w.files.at? (w.path written)

def defaultColumns : Nat := 80

def World.columns (w : World) : Nat :=
  ((w.environment.lookup "COLUMNS").bind fun s => Text.decimal? s.toList).getD defaultColumns

/-! ## 2. What a command shows -/

structure Terminal where
  files : FileTree
  logging : LoggingSettings := {}
  stdout : String := ""
  stderr : String := ""
  spawns : List Spawn := []

namespace Terminal

def print (t : Terminal) (text : String) : Terminal := { t with stdout := t.stdout ++ text }

def printError (t : Terminal) (text : String) : Terminal := { t with stderr := t.stderr ++ text }

def writeLine (t : Terminal) (directory : Path) :
    LogDestination × JournalLine → Terminal
  | (.stdout, l) => t.print (l.text ++ "\n")
  | (.stderr, l) => t.printError (l.text ++ "\n")
  | (.file path, l) =>
    { t with files := t.files.append (directory.join path) (l.text ++ "\n").toUTF8.toList }

/-- Open the journal: its files come into being, up to the first that cannot. -/
def openJournal (t : Terminal) (directory : Path) (logging : LoggingSettings) :
    Terminal × Option FileTree.WriteFault :=
  logging.outputs.foldl
    (fun (t, fault?) o => match fault?, o.destination with
      | none, .file path => match t.files.ensureFile (directory.join path) with
        | .ok files => ({ t with files := files }, none)
        | .error fault => (t, some fault)
      | _, _ => (t, fault?))
    ({ t with logging := logging }, none)

end Terminal

/-! ## 3. Actions -/

inductive Fault where
  | settings (e : SettingsError)
  | markup (e : Markup.MarkupError)
  | file (e : FileTree.WriteFault)
deriving Repr

def Fault.message : Fault → String
  | settings e => e.message
  | markup e => e.message
  | file .isFile => "a file has the name of a folder"
  | file .belowFile => "a file lies on the way to a file"
  | file .isFolder => "a folder has the name of a file"

inductive Ending where
  | failed
  | complaint (message : String)
  | fault (f : Fault)
deriving Repr

abbrev Action := ReaderT World (ExceptT Ending (StateM Terminal))

namespace Action

def print (text : String) : Action Unit := modify (·.print text)

def printLine (text : String) : Action Unit := print (text ++ "\n")

def printErrorLine (text : String) : Action Unit := modify (·.printError (text ++ "\n"))

/-- The value, unless there is a fault in a text with style tags. -/
def drawn : Except Markup.MarkupError α → Action α
  | .ok a => return a
  | .error e => throw (.fault (.markup e))

/-- A text with style tags, as it is shown: on lines that fit the screen, or on
    lines of any length. There is nothing to see on a screen without cells. -/
def shown (text : String) (fits : Bool) : Action String := do
  let room := (← read).columns
  let plain ← drawn (Markup.plain text)
  let lines := if fits then Display.wrap room plain else Display.unwrapped room plain
  return if room = 0 then "" else String.join (lines.map fun line => String.ofList line ++ "\n")

def printMarkup (text : String) : Action Unit := do print (← shown text true)

def printErrorMarkup (text : String) (fits : Bool := true) : Action Unit := do
  let text ← shown text fits
  modify (·.printError text)

/-- Note an event in the journal, perhaps as one of a run. -/
def note (runId : Option String) (e : JournalEvent) : Action Unit := do
  let w ← read
  modify fun t =>
    (t.logging.lines { event := e, runId := runId } w.time (.text w.time)).foldl
      (·.writeLine w.directory ·) t

def noteAll (journal : Journal) : Action Unit := journal.forM (note none)

/-- The value, unless there is a fault in the settings. -/
def settled : Except SettingsError α → Action α
  | .ok a => return a
  | .error (.problem p) => throw (.complaint p.report.line)
  | .error e => throw (.fault (.settings e))

/-- The value, unless something is to be complained about. -/
def orComplain (message : ε → String) : Except ε α → Action α
  | .ok a => return a
  | .error e => throw (.complaint (message e))

end Action

end SuiteExplorer.CommandLine
