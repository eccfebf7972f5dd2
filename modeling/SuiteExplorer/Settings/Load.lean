/-
  SuiteExplorer/Settings/Load.lean
  ================================
  Where settings come from. In rising precedence: built-in values, the user's
  own file, the file of the workspace, the environment, and what is given
  directly. Mappings are merged key by key, anything else is taken whole. How a
  document, an environment and a value are read, and how the file's settings, the
  environment and what is given directly are put together, is the work of
  libraries that are not part of the program; the two files it merges itself.
-/
import SuiteExplorer.Settings.Environment
import SuiteExplorer.Value.Yaml.Meaning

namespace SuiteExplorer

inductive SettingsFile where
  | missing
  | folder
  | content (bytes : List UInt8)
deriving Repr, DecidableEq

structure SettingsSources where
  direct : Entries := []
  environment : Environment := []
  workspaceFile : SettingsFile := .missing
  userFile : SettingsFile := .missing
  root : Path := {}
  /-- the home directory in which the user's own file is looked for -/
  userHome : String := ""
deriving Repr

/-- The libraries by which settings are loaded. -/
structure SettingsLibraries where
  /-- the value of a document -/
  document : String → Except Yaml.Fault Value
  /-- what an environment says, section by section -/
  environment : Environment → Except SettingsError Entries
  /-- the entries of one source over those of the sources below it -/
  merge : Entries → Entries → Entries
  kinds : Kinds

/-- The libraries that the program runs with. -/
def SettingsLibraries.usual : SettingsLibraries where
  document := Yaml.ofString
  environment := Settings.environmentEntries
  merge := Value.overlayEntries
  kinds := .usual

/-- What each source of settings says, in rising precedence. -/
structure SettingsLayers where
  user : Entries := []
  workspace : Entries := []
  environment : Entries := []
  direct : Entries := []

/-- All sources in one. The files are merged with each other first. -/
def SettingsLayers.merged (merge : Entries → Entries → Entries) (l : SettingsLayers) : Entries :=
  merge (Value.overlayEntries l.user l.workspace) (merge l.environment l.direct)

namespace SettingsSources

/-- The home directory that paths begin with. -/
def home (s : SettingsSources) : String := (Environment.get? s.environment "HOME").getD ""

def workspacePath (root : Path) : Path := (root.child ownDirectory).child "config.yaml"

def userPath (home : String) : Path :=
  (((Path.ofString home).child ".config").child "gosuite").child "config.yaml"

/-- Why a file cannot be read. -/
def malformed : String := "<yaml>"

def notMapping : String := "top-level value must be a mapping"

/-- How many mappings stand inside of each other in settings: the sections, the settings of a
    section, and the variables of an environment. -/
def depth : Nat := 3

/-- The entries of a document; one that holds nothing has none. A mapping in it that holds
    itself does so as the document has it, whatever the document is laid over. -/
def documentEntries (lib : SettingsLibraries) (path : Path) (text : String) :
    Except SettingsError Entries :=
  match lib.document text with
  | .error .malformed => .error (.problem (.unreadableSettings path.text malformed))
  | .error fault => .error (.document fault)
  | .ok v =>
    if v.isBlank then .ok []
    else match v.wholeTo depth with
      | .map es => .ok es
      | _ => .error (.problem (.unreadableSettings path.text notMapping))

/-- The entries of a settings file; one that is missing has none. -/
def fileEntries (lib : SettingsLibraries) (path : Path) :
    SettingsFile → Except SettingsError Entries
  | .missing => .ok []
  | .folder => .error .folder
  | .content bytes =>
    match String.fromUTF8? ⟨bytes.toArray⟩ with
    | some text => documentEntries lib path text
    | none => .error .notUtf8

def namesAreTexts (es : Entries) : Bool :=
  es.all fun e => match e.1 with
    | .text _ => true
    | _ => false

/-- What the sources say, each by itself. -/
def layers (lib : SettingsLibraries) (s : SettingsSources) :
    Except SettingsError SettingsLayers := do
  let workspace ← fileEntries lib (workspacePath s.root) s.workspaceFile
  let user ← fileEntries lib (userPath s.userHome) s.userFile
  let environment ← lib.environment s.environment
  return ⟨user, workspace, environment, s.direct⟩

def entries (lib : SettingsLibraries) (s : SettingsSources) : Except SettingsError Entries := do
  let all := (← s.layers lib).merged lib.merge
  if namesAreTexts all then return all else throw .nameNotText

end SettingsSources

def Settings.load (lib : SettingsLibraries) (s : SettingsSources) :
    Except SettingsError Settings := do
  let es ← s.entries lib
  Settings.ofEntries lib.kinds s.home es

end SuiteExplorer
