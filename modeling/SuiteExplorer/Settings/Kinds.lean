/-
  SuiteExplorer/Settings/Kinds.lean
  =================================
  What kind a value is of. The library that tells this is not part of the program:
  a check of settings asks it about each value on its own, and says itself what
  settings there are and which of them may be left out.
-/
import SuiteExplorer.Problem
import SuiteExplorer.Settings.Basic

namespace SuiteExplorer

/-- A value that cannot be taken, and where it stands. -/
structure SettingFault where
  location : List String
  value : Value
  reason : String
deriving Repr

namespace SettingFault

/-- Where the value stands, in one text. -/
def place (f : SettingFault) : String := ".".intercalate f.location

def problem (f : SettingFault) : Problem := .invalidSetting f.place f.value f.reason

end SettingFault

/-- Either a setting or the first fault of its value. -/
abbrev Checked (α : Type) := Except SettingFault α

/-- A library that tells what a value is taken for, where it stands. -/
structure Kinds where
  text : List String → Value → Checked String
  truth : List String → Value → Checked Bool
  level : List String → Value → Checked Severity
  format : List String → Value → Checked LogFormat
  /-- the items of a list -/
  items : List String → Value → Checked (List Value)
  dictionary : List String → Value → Checked Entries
  /-- the entries of a section, given with its class -/
  entries : List String → String → Value → Checked Entries
  /-- there are no entries but those of these names -/
  known : List String → Entries → Checked Unit

/-! ## The library that the program runs with -/

namespace Checked

/-- The text that bytes write, if they are UTF-8. -/
def textOfBytes? (b : List UInt8) : Option String := String.fromUTF8? ⟨b.toArray⟩

/-- A text, also given as its bytes. -/
def text (location : List String) (v : Value) : Checked String :=
  match v with
  | .text s => .ok s
  | .atom (.bytes b) =>
    match textOfBytes? b with
    | some s => .ok s
    | none => .error ⟨location, v,
        "Input should be a valid string, unable to parse raw data as a unicode string"⟩
  | _ => .error ⟨location, v, "Input should be a valid string"⟩

/-- A list, also given as a set. -/
def items (location : List String) (v : Value) : Checked (List Value) :=
  match v.wholeItems? with
  | some vs => .ok vs
  | none => .error ⟨location, v, "Input should be a valid list"⟩

def dictionary (location : List String) : Value → Checked Entries
  | .map es => .ok es
  | v => .error ⟨location, v, "Input should be a valid dictionary"⟩

def entries (location : List String) (kind : String) : Value → Checked Entries
  | .map es => .ok es
  | v => .error ⟨location, v, s!"Input should be a valid dictionary or instance of {kind}"⟩

/-- Words that stand for a truth value, in capitals or not. -/
def falseWords : List String := ["0", "off", "f", "false", "n", "no"]

def trueWords : List String := ["1", "on", "t", "true", "y", "yes"]

/-- The truth value that a word stands for. -/
def truthOfWord? (s : String) : Option Bool :=
  if falseWords.contains s.toLower then some false
  else if trueWords.contains s.toLower then some true
  else none

/-- What a number says about a truth value: whether it is an integer of 64 bits,
    and which truth value that stands for. -/
def truthOfNumber (n? : Option Int) : Option (Option Bool) :=
  (n?.filter fun n => -0x8000000000000000 ≤ n && n < 0x8000000000000000).map fun n =>
    if n = 0 then some false else if n = 1 then some true else none

/-- A truth value, also written as a word or as 0 or 1. -/
def truth (location : List String) (v : Value) : Checked Bool :=
  let interpreted (b? : Option Bool) : Checked Bool := match b? with
    | some b => .ok b
    | none => .error ⟨location, v, "Input should be a valid boolean, unable to interpret input"⟩
  let number (n? : Option Int) : Checked Bool := match truthOfNumber n? with
    | some b? => interpreted b?
    | none => .error ⟨location, v, "Input should be a valid boolean"⟩
  match v with
  | .bool b => .ok b
  | .int n => number (some n)
  | .float x => number x.toInt?
  | .text s => interpreted (truthOfWord? s)
  | .atom (.bytes b) => interpreted ((textOfBytes? b).bind truthOfWord?)
  | _ => number none

def word (read : String → Option α) (reason : String) (location : List String) (v : Value) :
    Checked α :=
  match v with
  | .text s => match read s with
    | some a => .ok a
    | none => .error ⟨location, v, reason⟩
  | _ => .error ⟨location, v, reason⟩

def level : List String → Value → Checked Severity :=
  word Severity.ofLevelName?
    "Input should be 'DEBUG', 'INFO', 'WARNING', 'ERROR' or 'CRITICAL'"

def format : List String → Value → Checked LogFormat :=
  word (fun s => [LogFormat.json, .console].find? (·.name = s))
    "Input should be 'json' or 'console'"

def known (names : List String) : Entries → Checked Unit
  | [] => .ok ()
  | (k, v) :: rest =>
    if names.contains k.display then known names rest
    else .error ⟨[k.display], v, "Extra inputs are not permitted"⟩

end Checked

def Kinds.usual : Kinds where
  text := Checked.text
  truth := Checked.truth
  level := Checked.level
  format := Checked.format
  items := Checked.items
  dictionary := Checked.dictionary
  entries := Checked.entries
  known := Checked.known

end SuiteExplorer
