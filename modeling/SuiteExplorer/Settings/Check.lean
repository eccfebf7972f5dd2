/-
  SuiteExplorer/Settings/Check.lean
  ================================
  From values to settings. Everything in a section that is not known there is
  ignored, but a section that is not known is an error. Of several faults the
  first counts, in the order of sections and of settings within a section.
-/
import SuiteExplorer.Settings.Kinds
import SuiteExplorer.Text.Blank

namespace SuiteExplorer

/-! ## 1. Values of several parts -/

namespace Kinds

variable (k : Kinds)

/-- A text, or nothing. -/
def text? (location : List String) : Value → Checked (Option String)
  | .null => .ok none
  | v => (k.text location v).map some

def level? (location : List String) : Value → Checked (Option Severity)
  | .null => .ok none
  | v => (k.level location v).map some

/-- Each item is checked where it stands, counted from zero. -/
def each (location : List String) (check : List String → Value → Checked α) :
    Nat → List Value → Checked (List α)
  | _, [] => .ok []
  | n, v :: rest => do
    let first ← check (location ++ [toString n]) v
    let more ← each location check (n + 1) rest
    return first :: more

def list (check : List String → Value → Checked α) (location : List String) (v : Value) :
    Checked (List α) := do
  each location check 0 (← k.items location v)

/-- A key where it stands: a truth value by its number, everything else that is
    no text literally. -/
def keyName : Atom → String
  | .text s => s
  | .bool b => toString b.toNat
  | k => k.literal

/-- The variable that an entry gives. -/
def variableOf (location : List String) (e : Atom × Value) : Checked (String × String) := do
  let place := location ++ [keyName e.1]
  let name ← k.text (place ++ ["[key]"]) (.atom e.1)
  let value ← k.text place e.2
  return (name, value)

def environment (location : List String) (v : Value) : Checked Environment := do
  let es ← k.dictionary location v
  Environment.ofList <$> es.mapM (k.variableOf location)

/-- An include pattern holds more than blanks. -/
def pattern (location : List String) (v : Value) : Checked String := do
  let s ← k.text location v
  if Text.allBlank s then throw ⟨location, v, "Value error, include_pattern must not be empty"⟩
  return s

end Kinds

/-! ## 2. Settings in their section -/

/-- A setting that may be left out. -/
def Checked.setting (location : List String) (es : Entries) (name : String) (default : α)
    (check : List String → Value → Checked α) : Checked α :=
  match Entries.get? es name with
  | none => .ok default
  | some v => check (location ++ [name]) v

open Checked

/-- A destination is a stream or a file with an absolute path. -/
def LogDestination.check (k : Kinds) (home : String) (location : List String) (v : Value) :
    Checked LogDestination := do
  let s ← k.text location v
  if s = "stderr" then return .stderr
  if s = "stdout" then return .stdout
  let path := ((Path.ofString s).expandHome? home).getD {}
  if path.isAbsolute then return .file path
  throw ⟨location, v, s!"Value error, File destination must be absolute path: {s}"⟩

def LogOutput.check (k : Kinds) (home : String) (location : List String) (v : Value) :
    Checked LogOutput := do
  let es ← k.entries location "LogOutputConfig" (v.wholeTo 1)
  let format ← setting location es "format" .console k.format
  let destination ← setting location es "destination" .stderr (LogDestination.check k home)
  let level ← setting location es "level" none k.level?
  return ⟨format, destination, level⟩

def LoggingSettings.check (k : Kinds) (home : String) (location : List String) (v : Value) :
    Checked LoggingSettings := do
  let es ← k.entries location "LoggingConfig" v
  let default : LoggingSettings := {}
  let level ← setting location es "level" default.level k.level
  let outputs ← setting location es "outputs" default.outputs (k.list (LogOutput.check k home))
  return ⟨level, outputs⟩

def ToolchainSettings.check (k : Kinds) (location : List String) (v : Value) :
    Checked ToolchainSettings := do
  let es ← k.entries location "ToolchainConfig" v
  let default : ToolchainSettings := {}
  let goBinary ← setting location es "go_binary" default.goBinary k.text
  let env ← setting location es "env" default.env k.environment
  let testEnv ← setting location es "test_env_vars" default.testEnv k.environment
  return ⟨goBinary, env, testEnv⟩

def DiscoverySettings.check (k : Kinds) (location : List String) (v : Value) :
    Checked DiscoverySettings := do
  let es ← k.entries location "DiscoveryConfig" v
  let default : DiscoverySettings := {}
  let pattern ← setting location es "include_pattern" default.includePattern k.pattern
  let extra ← setting location es "extra_excluded_dirs" default.extraExcluded (k.list k.text)
  let libraries ← setting location es "libraries" default.libraries (k.list k.text)
  return ⟨pattern, extra, libraries⟩

def DebugSettings.check (k : Kinds) (location : List String) (v : Value) :
    Checked DebugSettings := do
  let es ← k.entries location "DebugConfig" v
  let default : DebugSettings := {}
  let logDir ← setting location es "log_dir" default.logDir k.text?
  let showLog ← setting location es "show_log" default.showLog k.truth
  return ⟨logDir, showLog⟩

namespace Settings

/-! ## 3. All settings -/

/-- The sections, in the order in which they are checked. -/
def sections : List String := ["logging", "toolchain", "discovery", "debug"]

def check (k : Kinds) (home : String) (es : Entries) : Checked Settings := do
  let logging ← setting [] es "logging" {} (LoggingSettings.check k home)
  let toolchain ← setting [] es "toolchain" {} (ToolchainSettings.check k)
  let discovery ← setting [] es "discovery" {} (DiscoverySettings.check k)
  let debug ← setting [] es "debug" {} (DebugSettings.check k)
  k.known sections es
  return ⟨logging, toolchain, discovery, debug⟩

/-- An output of the journal goes to a home directory that is not known. That
    cannot be told from the value alone, so it comes before any fault. -/
def namesUnknownHome (k : Kinds) (home : String) (logging : Value) : Bool :=
  match (logging.get? "outputs").bind Value.wholeItems? with
  | some outputs => outputs.any fun o =>
      match (o.get? "destination").map (k.text []) with
      | some (.ok s) => ((Path.ofString s).expandHome? home).isNone
      | _ => false
  | none => false

def ofEntries (k : Kinds) (home : String) (es : Entries) : Except SettingsError Settings :=
  if ((Entries.get? es "logging").map (namesUnknownHome k home)).getD false then
    .error .unknownHome
  else (check k home es).mapError fun f => .problem f.problem

end Settings

def LoggingSettings.ofValue (k : Kinds) (home : String) (v : Value) : Checked LoggingSettings :=
  LoggingSettings.check k home [] v

end SuiteExplorer
