/-
  SuiteExplorer/CommandLine/Usage.lean
  ====================================
  What the command line offers: the options of the program and of each of its
  commands, and the pages that explain them.
-/
import SuiteExplorer.CommandLine.Arguments

namespace SuiteExplorer.CommandLine

/-! ## 1. Commands and options -/

inductive CommandName where
  | discover
  | launchConfig
  | run
  | watch
deriving Repr, DecidableEq

inductive OptionKey where
  | version
  | verbose
  | help
  | json
  | test
  | exclude
  | path
deriving Repr, DecidableEq

namespace OptionKey

def names : OptionKey → List String
  | version => ["--version"]
  | verbose => ["-v", "--verbose"]
  | help => ["--help"]
  | json => ["--json"]
  | test => ["-t", "--test"]
  | exclude => ["-x", "--exclude"]
  | path => ["--path"]

def value? : OptionKey → Option String
  | test | exclude => some "TEXT"
  | path => some "DIRECTORY"
  | _ => none

def description : OptionKey → String
  | version => "Show the version and exit."
  | verbose => "Enable debug logging"
  | help => "Show this message and exit."
  | json => "Output as JSON"
  | test => "Suite or Suite.TestX to run"
  | exclude => "Suite or Suite.TestX to skip"
  | path => "Workspace root"

def spec (k : OptionKey) : OptionSpec OptionKey := ⟨k, k.names, k.value?.isSome⟩

end OptionKey

namespace CommandName

def all : List CommandName := [discover, launchConfig, run, watch]

def name : CommandName → String
  | discover => "discover"
  | launchConfig => "launch-config"
  | run => "run"
  | watch => "watch"

def ofName? (s : String) : Option CommandName := all.find? (·.name = s)

def options : CommandName → List OptionKey
  | discover => [.json, .help]
  | launchConfig => [.path, .help]
  | run => [.test, .exclude, .help]
  | watch => [.help]

def operand : CommandName → String
  | launchConfig => "NAME"
  | _ => "[PATH]"

def description : CommandName → List String
  | discover =>
    ["Discover gocheck and qtsuite tests.",
      "PATH is the workspace root (default: current directory)."]
  | launchConfig => ["Print the debugger launch configuration for NAME (Suite or Suite.TestX)."]
  | run =>
    ["Run suite tests.",
      "PATH is the workspace root (default: current directory). Without --test every discovered suite and test runs."]
  | watch =>
    ["Discover tests, then follow file changes.",
      "PATH is the workspace root (default: current directory)."]

end CommandName

def programOptions : List OptionKey := [.version, .verbose, .help]

/-! ## 2. Pages -/

/-- What a usage error or a page is about: the program or one of its commands. -/
abbrev Topic := Option CommandName

def Topic.call (program : String) : Topic → String
  | none => program
  | some c => s!"{program} {c.name}"

def Topic.usage (program : String) (t : Topic) : String :=
  match t with
  | none => s!"Usage: {program} [OPTIONS] COMMAND [ARGS]..."
  | some c => s!"Usage: {program} {c.name} [OPTIONS] {c.operand}"

/-- An error in how an option is written is shown without the usage of the
    command. -/
def UsageError.isBare : UsageError → Bool
  | .valueMissing _ | .valueUnwanted _ => true
  | _ => false

def UsageError.page (e : UsageError) (program : String) (t : Topic) : String :=
  let hint := if e.isBare then ""
    else s!"{t.usage program}\nTry '{t.call program} --help' for help.\n\n"
  s!"{hint}Error: {e.message}\n"

/-- Two columns, the left one as wide as its widest text. -/
def columns (rows : List (String × String)) : String :=
  let width := (rows.map (·.1.length)).foldl max 0
  String.join (rows.map fun (left, right) =>
    let gap := String.ofList (List.replicate (width - left.length + 2) ' ')
    s!"  {left}{gap}{right}\n")

def OptionKey.row (k : OptionKey) : String × String :=
  let names := ", ".intercalate k.names
  (match k.value? with
    | none => names
    | some value => s!"{names} {value}", k.description)

def programDescription : List String :=
  ["gosuite - gocheck and qtsuite test discovery and execution."]

def Topic.page (program : String) (t : Topic) : String :=
  let (text, options) := match t with
    | none => (programDescription, programOptions)
    | some c => (c.description, c.options)
  let commands := match t with
    | none => "\nCommands:\n" ++
        columns (CommandName.all.map fun c => (c.name, c.description.headD ""))
    | some _ => ""
  t.usage program ++ "\n\n" ++ String.join (text.map fun p => s!"  {p}\n\n") ++ "Options:\n"
    ++ columns (options.map (·.row)) ++ commands

end SuiteExplorer.CommandLine
