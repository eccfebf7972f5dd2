/-
  SuiteExplorer/CommandLine/Arguments.lean
  ========================================
  Sorting the arguments of a command into options and operands. A long option
  takes its value after `=` or from the next argument, a short one from the rest
  of its argument or from the next one, and short options without a value can be
  written together. After `--` everything is an operand.
-/
import SuiteExplorer.CommandLine.Similar
import SuiteExplorer.Text.Quoted

namespace SuiteExplorer.CommandLine

open Text

/-! ## 1. Options -/

/-- An option of a command, under all its names. -/
structure OptionSpec (κ : Type) where
  key : κ
  names : List String
  takesValue : Bool := false
deriving Repr

def isShort (name : String) : Bool := name.length = 2

inductive UsageError where
  | unknownOption (name : String) (similar : List String)
  | valueMissing (name : String)
  | valueUnwanted (name : String)
  | unknownCommand (name : String) (similar : List String)
  | commandMissing
  | operandMissing (name : String)
  | surplus (operands : List String)
  | noDirectory (place path : String)
  | notDirectory (place path : String)
deriving Repr, DecidableEq

/-- A question about similar names, after a blank, if there are any. -/
def similarText : List String → String
  | [] => ""
  | [name] => s!" Did you mean {quoted name}?"
  | names =>
    let all := ", ".intercalate ((names.mergeSort (· ≤ ·)).map quoted)
    s!" (Did you mean one of: {all}?)"

def UsageError.message : UsageError → String
  | unknownOption name similar => s!"No such option {quoted name}.{similarText similar}"
  | valueMissing name => s!"Option {quoted name} requires an argument."
  | valueUnwanted name => s!"Option {quoted name} does not take a value."
  | unknownCommand name similar => s!"No such command {quoted name}.{similarText similar}"
  | commandMissing => "Missing command."
  | operandMissing name => s!"Missing argument '{name}'."
  | surplus [operand] => s!"Got unexpected extra argument ({operand})"
  | surplus operands =>
    let all := " ".intercalate operands
    s!"Got unexpected extra arguments ({all})"
  | noDirectory place path =>
    s!"Invalid value for '{place}': Directory {quoted path} does not exist."
  | notDirectory place path => s!"Invalid value for '{place}': Directory {quoted path} is a file."

/-! ## 2. Reading options -/

section

variable {κ : Type}

/-- An option as it was given. One that takes no value has the empty one. -/
abbrev Given (κ : Type) := List (κ × String)

/-- What one argument gave, and whether the next one was used up as its value. -/
abbrev Reading (κ : Type) := Except UsageError (Given κ × Bool)

def named? (specs : List (OptionSpec κ)) (name : String) : Option (OptionSpec κ) :=
  specs.find? (·.names.contains name)

def takeNext (spec : OptionSpec κ) (name : String) : Option String → Reading κ
  | none => .error (.valueMissing name)
  | some value => .ok ([(spec.key, value)], true)

def readShort (specs : List (OptionSpec κ)) (next? : Option String) : List Char → Reading κ
  | [] => .ok ([], false)
  | c :: more =>
    let name := String.ofList ['-', c]
    match named? specs name with
    | none => .error (.unknownOption name [])
    | some spec =>
      if !spec.takesValue then
        (readShort specs next? more).map fun (given, used) => ((spec.key, "") :: given, used)
      else if more.isEmpty then takeNext spec name next?
      else .ok ([(spec.key, String.ofList more)], false)

def readLong (spec : OptionSpec κ) (name : String) (value? next? : Option String) : Reading κ :=
  match spec.takesValue, value? with
  | true, some value => .ok ([(spec.key, value)], false)
  | true, none => takeNext spec name next?
  | false, some _ => .error (.valueUnwanted name)
  | false, none => .ok ([(spec.key, "")], false)

/-- An argument up to its first `=`, and what follows that. -/
def splitValue (arg : String) : String × Option String :=
  let chars := arg.toList
  let name := chars.takeWhile (· ≠ '=')
  let value? := match chars.drop name.length with
    | [] => none
    | _ :: value => some (String.ofList value)
  (String.ofList name, value?)

def longNames (specs : List (OptionSpec κ)) : List String :=
  (specs.flatMap (·.names)).filter fun name => !isShort name

/-- Read an argument that begins with a hyphen. -/
def readOption (specs : List (OptionSpec κ)) (arg : String) (next? : Option String) : Reading κ :=
  let (name, value?) := splitValue arg
  match if isShort name then none else named? specs name with
  | some spec => readLong spec name value? next?
  | none =>
    if "--".isPrefixOf arg then
      .error (.unknownOption name (Similar.closest name (longNames specs)))
    else readShort specs next? (arg.toList.drop 1)

/-! ## 3. Sorting arguments -/

/-- An argument is an option, though perhaps an unknown one. A hyphen by itself
    is none. -/
def isOption (arg : String) : Bool := "-".isPrefixOf arg && 1 < arg.length

/-- Sort arguments into options and operands. Where options may not follow
    operands, the first operand ends them. -/
def sortArguments (specs : List (OptionSpec κ)) (mixed : Bool) (args : List String) :
    Except UsageError (Given κ × List String) :=
  match args with
  | [] => .ok ([], [])
  | arg :: rest =>
    if arg = "--" then .ok ([], rest)
    else if isOption arg then do
      let (given, used) ← readOption specs arg rest.head?
      let (more, operands) ← if used then sortArguments specs mixed rest.tail
        else sortArguments specs mixed rest
      return (given ++ more, operands)
    else if mixed then do
      let (given, operands) ← sortArguments specs mixed rest
      return (given, arg :: operands)
    else .ok ([], arg :: rest)
termination_by args.length
decreasing_by all_goals simp only [List.length_cons, List.length_tail]; omega

end

end SuiteExplorer.CommandLine
