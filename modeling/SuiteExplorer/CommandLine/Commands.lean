/-
  SuiteExplorer/CommandLine/Commands.lean
  =======================================
  The commands: each loads the settings of a workspace, builds its catalog, and
  then shows it, runs it, prints a launch configuration, or follows changes.
-/
import SuiteExplorer.Catalog.Following
import SuiteExplorer.Catalog.Selection
import SuiteExplorer.CommandLine.Terminal
import SuiteExplorer.CommandLine.TreeText
import SuiteExplorer.Run.Launch
import SuiteExplorer.Run.Run
import SuiteExplorer.Settings.Load

namespace SuiteExplorer.CommandLine

/-! ## 1. Workspaces -/

structure Workspace where
  root : Path
  settings : Settings
deriving Repr

def settingsFile (files : FileTree) (path : Path) : SettingsFile :=
  match files.at? path with
  | none => .missing
  | some (.folder _) => .folder
  | some (.file bytes) => .content bytes
  | some _ => .missing

def World.sources (w : World) (files : FileTree) (root : Path) : SettingsSources :=
  { environment := w.environment
    workspaceFile := settingsFile files (SettingsSources.workspacePath root)
    userFile := settingsFile files (SettingsSources.userPath w.userHome)
    root := root, userHome := w.userHome }

/-- Load the settings of a workspace, and open its journal. -/
def openWorkspace (verbose : Bool) (path : String) : Action Workspace := do
  let w ← read
  let root := (w.path path).collapse
  let settings ← Action.settled (Settings.load .usual (w.sources (← get).files root))
  let logging := if verbose then { settings.logging with level := .debug } else settings.logging
  let (t, fault?) := (← get).openJournal w.directory logging
  set t
  match fault? with
  | some fault => throw (.fault (.file fault))
  | none => return ⟨root, settings⟩

def Workspace.catalog (ws : Workspace) (libraries : List Library) (watches : Bool) : Catalog :=
  let discovery := ws.settings.discovery
  { settings :=
      { roots := [ws.root], libraries := libraries, includePattern := discovery.includePattern
        extra := discovery.extraExcluded, watches := watches } }

def openCatalog (ws : Workspace) (watches : Bool := false) : Action Catalog := do
  let libraries ← Action.orComplain UnknownLibrary.message
    (Registry.standard.select ws.settings.discovery.libraries)
  let (c, _, report) := (ws.catalog libraries watches).rescan (← get).files
  Action.noteAll report.journal
  return c

def workbench (ws : Workspace) (c : Catalog) : Action Workbench := do
  let w ← read
  let sources := w.sources .empty ws.root
  let logs ← Action.settled (ws.settings.debugLogDirectory sources.home ws.root)
  return { runId := w.runId, executables := w.executables, toolchain := ws.settings.toolchain
           environment := w.environment, libraries := c.settings.libraries
           hasDebugger := false, logDirectory := logs, showLog := ws.settings.debug.showLog }

def select (c : Catalog) (names : List String) : Action (List NodeRef) :=
  Action.orComplain UnknownTest.message (c.selectNamed names)

/-! ## 2. Discovering -/

def testEntry (c : Catalog) (i : NodeInfo) : Value :=
  let place : Entries := [("id", .text i.id), ("path", .text i.path.text),
    ("line", match i.span with
      | some s => .int (s.startLine + 1)
      | none => .null)]
  let optional : Option String → Value
    | some s => .text s
    | none => .null
  match c.meaning? i.ref with
  | some (.runnable (.test d)) =>
    let own : Entries := [("kind", optional (d.kind.map (·.name))), ("suite", optional d.receiver)]
    .map (place ++ own)
  | _ => .map place

def printTree (c : Catalog) (root : Path) : Action Unit := do
  (← Action.drawn (c.treeText (← read).columns root)).forM Action.printLine

def discover (verbose : Bool) (path : String) (asJson : Bool) : Action Unit := do
  let ws ← openWorkspace verbose path
  let c ← openCatalog ws
  if asJson then
    Action.printLine (Document.render (.list (c.tests.map (testEntry c))))
  else if c.packages.isEmpty then
    Action.printMarkup "[yellow]No suite tests found[/yellow]"
  else printTree c ws.root

/-! ## 3. Running -/

def stateMarkup : Option RunState → String
  | some .passed => "[green]passed[/green]"
  | some .failed => "[red]failed[/red]"
  | some .skipped => "[yellow]skipped[/yellow]"
  | some .errored => "[red]errored[/red]"
  | some s => s.name
  | none => "unknown"

/-- Show what a run told and noted, as it happened. -/
def showNotices (runId : Option String) (notices : List Notice) : Action Unit :=
  notices.forM fun
    | .told text => Action.print (Text.withLf text)
    | .noted e => Action.note runId e

/-- Texts without those that are repeated. -/
def distinct (texts : List String) : List String :=
  texts.foldl (fun seen t => if seen.contains t then seen else seen ++ [t]) []

/-- Show how the entries of a run ended, and what kept them from running. -/
def showReport (c : Catalog) (report : RunReport NodeRef) : Action Unit := do
  report.entries.forM fun ref => do
    let id := ((c.subtree? ref).map (·.info.id)).getD ""
    let state := stateMarkup (report.record.finalState? ref)
    Action.printErrorMarkup s!"  {state} {id}"
  (distinct (report.record.problems.map (·.message))).forM fun message =>
    Action.printErrorMarkup s!"[red]error:[/red] {message}"
  if !report.ok then
    if let some file := (← get).logging.file? then
      Action.printErrorMarkup s!"[dim]Details in {file.text}[/dim]" false
    throw .failed

/-- Run suites and tests: those with the given names, or all. -/
def run (verbose : Bool) (path : String) (names excluded : List String) : Action Unit := do
  let ws ← openWorkspace verbose path
  let c ← openCatalog ws
  let selected ← if names.isEmpty then pure none else some <$> select c names
  let excluded ← select c excluded
  let bench ← workbench ws c
  let w ← read
  let r := c.run bench { selected := selected, excluded := excluded }
    { processes := w.processes, files := (← get).files }
  let runId := if r.report.rejected.isSome then none else some w.runId
  showNotices runId r.execution.notices
  modify fun t => { t with spawns := t.spawns ++ r.execution.spawns }
  match r.report.rejected with
  | some p => throw (.complaint p.message)
  | none => showReport r.catalog r.report

/-! ## 4. Launch configurations -/

def launchConfig (verbose : Bool) (name path : String) : Action Unit := do
  let ws ← openWorkspace verbose path
  let c ← openCatalog ws
  match ← select c [name] with
  | [ref] =>
    let (x, configuration) := c.launchConfiguration (← workbench ws c) {} ref
    x.notices.forM fun
      | .told text => Action.printErrorLine (String.ofList (Text.trimEnd text.toList))
      | .noted e => Action.note none e
    match configuration with
    | some es => Action.printLine (Launch.document (.map es))
    | none => throw (.complaint s!"Cannot build a launch configuration for '{name}'")
  | refs => throw (.complaint s!"'{name}' is ambiguous ({refs.length} matches)")

/-! ## 5. Watching -/

/-- Follow one change, and say how many tests there are if it changed anything. -/
def followChange (c : Catalog) (e : Watch.FileEvent) : Action Catalog := do
  let (c, report) := c.follow (← get).files e
  Action.noteAll report.journal
  if !report.called.isEmpty then
    Action.printMarkup s!"[dim]catalog updated:[/dim] {c.tests.length} tests"
  return c

def followBatch (c : Catalog) (batch : WatchBatch) : Action Catalog := do
  modify fun t => { t with files := t.files.editAll batch.edits }
  (c.watchers.flatMap (·.delivery batch.changes)).foldlM followChange c

def screen : Listener := { name := "screen" }

/-- Show the tests of a workspace, and then follow its changes. -/
def watch (verbose : Bool) (path : String) : Action Unit := do
  let ws ← openWorkspace verbose path
  let c ← openCatalog ws true
  printTree c ws.root
  Action.printMarkup "[dim]Watching for changes (Ctrl-C to stop)[/dim]"
  let _ ← (← read).batches.foldlM followBatch { c with listeners := [screen] }

end SuiteExplorer.CommandLine
