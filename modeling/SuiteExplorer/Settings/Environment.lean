/-
  SuiteExplorer/Settings/Environment.lean
  =======================================
  Settings from the environment. `GOSUITE__SECTION` gives a whole section as
  JSON, `GOSUITE__SECTION__SETTING` a single setting, and further names behind
  double underscores reach into it. Capitals make no difference; what is reached
  into is spelled in small letters.
-/
import SuiteExplorer.Settings.Check
import SuiteExplorer.Text.Lower
import SuiteExplorer.Value.Json

namespace SuiteExplorer.Settings

/-- How the variables that hold settings begin. -/
def variableStart : String := "gosuite__"

/-- Cut at each double underscore. -/
def cutAtDouble : List Char → List (List Char)
  | '_' :: '_' :: rest => [] :: cutAtDouble rest
  | c :: rest =>
    match cutAtDouble rest with
    | [] => [[c]]
    | piece :: more => (c :: piece) :: more
  | [] => [[]]

/-- The settings of a section that are known. -/
def settingNames : String → List String
  | "logging" => ["level", "outputs"]
  | "toolchain" => ["go_binary", "env", "test_env_vars"]
  | "discovery" => ["include_pattern", "extra_excluded_dirs", "libraries"]
  | "debug" => ["log_dir", "show_log"]
  | _ => []

/-- The settings that hold other values, and so are given as JSON. -/
def isCompound (name : String) : Bool :=
  ["outputs", "env", "test_env_vars", "extra_excluded_dirs", "libraries"].contains name

/-- Put a value where a chain of names leads. A name that already leads to a
    single value leads no further. -/
def plant (value : Value) : List String → Entries → Entries
  | [], es => es
  | [last], es => Entries.set last value es
  | key :: rest, es =>
    match Entries.get? es key with
    | none => Entries.set key (.map (plant value rest [])) es
    | some (.map inner) => Entries.set key (.map (plant value rest inner)) es
    | some _ => es

/-- The value of a variable: JSON for a compound setting that is not empty. -/
def variableValue (name : String) (names : List String) (raw : String) :
    Except SettingsError Value :=
  match names with
  | [setting] =>
    if (settingNames name).contains setting && isCompound setting && !raw.isEmpty then
      match Json.ofString? raw with
      | some v => .ok v
      | none => .error (.undecodable name)
    else .ok (.text raw)
  | _ => .ok (.text raw)

/-- The settings of a section that have variables of their own. -/
def variableEntries (name : String) (env : Environment) : Except SettingsError Entries :=
  let start := (variableStart ++ name ++ "__").toList
  env.foldlM (fun es (given, raw) =>
    if start.isPrefixOf given.toList then do
      let names := (cutAtDouble (given.toList.drop start.length)).map String.ofList
      let value ← variableValue name names raw
      return plant value names es
    else return es) []

def respell (name : String) (es : Entries) : Entries :=
  Entries.ofList (es.map fun (k, v) =>
    let known? := (settingNames name).find? fun known =>
      Text.lower known = Text.lower k.display
    ((known?.map Atom.text).getD k, v))

def sectionValue? (name : String) (env : Environment) : Except SettingsError (Option Value) :=
  match Environment.get? env (variableStart ++ name) with
  | none => do
    let es ← variableEntries name env
    return if es.isEmpty then none else some (.map (respell name es))
  | some raw =>
    match Json.ofString? raw with
    | none => throw (.undecodable name)
    | some .null => return none
    | some (.map whole) => do
      let es ← variableEntries name env
      return some (.map (respell name (Value.overlayEntries whole es)))
    | some other => return some other

/-- What the environment says, section by section. -/
def environmentEntries (env : Environment) : Except SettingsError Entries := do
  let env := Environment.ofList (env.map fun (k, v) => (Text.lower k, v))
  let found ← sections.mapM fun name => do
    let v? ← sectionValue? name env
    return v?.map fun v => (Atom.text name, v)
  return found.filterMap id

end SuiteExplorer.Settings
