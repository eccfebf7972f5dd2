/-
  SuiteExplorer/CommandLine/Invocation.lean
  =========================================
  From arguments to what is asked for. Options are checked in the order in which
  they were given, then operands; a question for help or the version is answered
  before anything is checked.
-/
import SuiteExplorer.CommandLine.Usage
import SuiteExplorer.Files.Tree

namespace SuiteExplorer.CommandLine

inductive Command where
  | discover (path : String) (asJson : Bool)
  | launchConfig (name path : String)
  | run (path : String) (tests excluded : List String)
  | watch (path : String)
deriving Repr, DecidableEq

inductive Request where
  | version
  | page (topic : Topic)
  /-- nothing is asked for, so that help is needed -/
  | nothing
  | perform (verbose : Bool) (command : Command)
deriving Repr, DecidableEq

/-- An error, and where it was made. -/
structure Misuse where
  topic : Topic
  error : UsageError
deriving Repr, DecidableEq

/-- What a path leads to, if anything. -/
abbrev Look := String → Option FileTree

def checkDirectory (look : Look) (place path : String) : Except UsageError Unit :=
  match look path with
  | none => .error (.noDirectory place path)
  | some (.folder _) => .ok ()
  | some _ => .error (.notDirectory place path)

def Given.values (given : Given OptionKey) (k : OptionKey) : List String :=
  (given.filter (·.1 = k)).map (·.2)

def Given.last? (given : Given OptionKey) (k : OptionKey) : Option String :=
  (Given.values given k).getLast?

def Given.has (given : Given OptionKey) (k : OptionKey) : Bool := !(Given.values given k).isEmpty

def here : String := "."

def rootOperand (look : Look) (c : CommandName) (operands : List String) :
    Except UsageError String := do
  let path := operands.headD here
  checkDirectory look c.operand path
  return path

def endOperands : List String → Except UsageError Unit
  | [] => .ok ()
  | rest => .error (.surplus rest)

def command (look : Look) (given : Given OptionKey) (operands : List String) :
    CommandName → Except UsageError Command
  | .discover => do
    let path ← rootOperand look .discover operands
    endOperands operands.tail
    return .discover path (Given.has given .json)
  | .run => do
    let path ← rootOperand look .run operands
    endOperands operands.tail
    return .run path (Given.values given .test) (Given.values given .exclude)
  | .watch => do
    let path ← rootOperand look .watch operands
    endOperands operands.tail
    return .watch path
  | .launchConfig => do
    if let some path := Given.last? given .path then checkDirectory look "--path" path
    match operands with
    | [] => throw (.operandMissing CommandName.launchConfig.operand)
    | name :: rest =>
      let path := (Given.last? given .path).getD here
      checkDirectory look "--path" path
      endOperands rest
      return .launchConfig name path

def commandRequest (look : Look) (verbose : Bool) (c : CommandName) (args : List String) :
    Except UsageError Request := do
  let (given, operands) ← sortArguments (c.options.map (·.spec)) true args
  if Given.has given .help then return .page (some c)
  return .perform verbose (← command look given operands c)

/-- No command has this name. It may be an option in the place of a command. -/
def unknownCommand (name : String) : UsageError :=
  match sortArguments (programOptions.map (·.spec)) false [name] with
  | .error e => e
  | .ok _ => .unknownCommand name (Similar.closest name (CommandName.all.map (·.name)))

/-- What the options before a command ask for, if that is all. The first one that
    asks for something is answered. -/
def programRequest? (given : Given OptionKey) : Option Request :=
  given.findSome? fun g =>
    match g.1 with
    | .version => some .version
    | .help => some (.page none)
    | _ => none

def restRequest (look : Look) (verbose : Bool) : List String → Except Misuse Request
  | [] => .error ⟨none, .commandMissing⟩
  | name :: args =>
    match CommandName.ofName? name with
    | none => .error ⟨none, unknownCommand name⟩
    | some c => (commandRequest look verbose c args).mapError fun e => ⟨some c, e⟩

def request (look : Look) (args : List String) : Except Misuse Request :=
  match sortArguments (programOptions.map (·.spec)) false args with
  | .error e => .error ⟨none, e⟩
  | .ok (given, rest) =>
    match programRequest? given with
    | some r => .ok r
    | none =>
      if args.isEmpty then .ok .nothing
      else restRequest look (Given.has given .verbose) rest

end SuiteExplorer.CommandLine
