/-
  SuiteExplorer/Settings/Basic.lean
  =================================
  The settings of the explorer, with the values they have when nothing is said.
-/
import SuiteExplorer.Journal.Event
import SuiteExplorer.Path
import SuiteExplorer.Problem
import SuiteExplorer.Toolchain
import SuiteExplorer.Value.Yaml.Cursor

namespace SuiteExplorer

inductive LogFormat where
  | json
  | console
deriving Repr, DecidableEq

def LogFormat.name : LogFormat → String
  | json => "json"
  | console => "console"

inductive LogDestination where
  | stderr
  | stdout
  | file (path : Path)
deriving Repr, DecidableEq

def LogDestination.text : LogDestination → String
  | stderr => "stderr"
  | stdout => "stdout"
  | file path => path.text

/-- One output of the journal. Without a level it takes that of the journal. -/
structure LogOutput where
  format : LogFormat := .console
  destination : LogDestination := .stderr
  level : Option Severity := none
deriving Repr, DecidableEq

structure LoggingSettings where
  level : Severity := .warning
  outputs : List LogOutput := [{}]
deriving Repr, DecidableEq

structure DiscoverySettings where
  includePattern : String := "**/*_test.go"
  extraExcluded : List String := []
  libraries : List String := ["gocheck", "qtsuite"]
deriving Repr, DecidableEq

structure DebugSettings where
  logDir : Option String := none
  showLog : Bool := true
deriving Repr, DecidableEq

structure Settings where
  logging : LoggingSettings := {}
  toolchain : ToolchainSettings := {}
  discovery : DiscoverySettings := {}
  debug : DebugSettings := {}
deriving Repr, DecidableEq

inductive SettingsError where
  | problem (p : Problem)
  /-- the environment gives a section a value that is no JSON -/
  | undecodable (name : String)
  /-- a path starts at a home directory that is not known -/
  | unknownHome
  | folder
  /-- a file is not written in UTF-8 -/
  | notUtf8
  /-- a file holds a value that cannot be made sense of -/
  | document (fault : Yaml.Fault)
  /-- the name of a section is no text -/
  | nameNotText
deriving Repr

namespace SettingsError

def message : SettingsError → String
  | problem p => p.message
  | undecodable name =>
    s!"error parsing value for field \"{name}\" from source \"EnvSettingsSource\""
  | unknownHome => "Could not determine home directory."
  | folder => "a settings file is a folder"
  | notUtf8 => "a settings file is not written in UTF-8"
  | document (.invalid message) => message
  | document (.unknownWord word) => word
  | document _ => "a settings file holds a value that cannot be made sense of"
  | nameNotText => "the name of a section is no text"

end SettingsError

/-- The directory below a workspace root that holds the explorer's own files. -/
def ownDirectory : String := ".gosuite"

def Settings.debugLogDirectory (s : Settings) (home : String) (root : Path) :
    Except SettingsError Path :=
  match s.debug.logDir with
  | none => .ok ((root.child ownDirectory).child "logs")
  | some dir =>
    if dir.isEmpty then .ok ((root.child ownDirectory).child "logs")
    else match (Path.ofString dir).expandHome? home with
      | some path => .ok path
      | none => .error .unknownHome

end SuiteExplorer
