/-
  SuiteExplorer/Toolchain.lean
  ============================
  Finding the Go executable, and the environment that tests run in.
-/
import SuiteExplorer.Value.Basic

namespace SuiteExplorer

/-- Environment variables, each name at most once. -/
abbrev Environment := List (String × String)

namespace Environment

/-- Set a variable: in its place if it is there, else at the end. -/
def set (name value : String) : Environment → Environment
  | [] => [(name, value)]
  | (n, v) :: rest => if n = name then (n, value) :: rest else (n, v) :: set name value rest

def get? (env : Environment) (name : String) : Option String :=
  (env.find? (·.1 = name)).map (·.2)

/-- Lay variables over an environment; the later ones win. -/
def overlay (env later : Environment) : Environment :=
  later.foldl (fun acc e => set e.1 e.2 acc) env

/-- Variables of which a name may come twice: it keeps its first place and its
    last value. -/
def ofList (given : List (String × String)) : Environment := overlay [] given

def entries (env : Environment) : Entries := env.map fun e => (.text e.1, .text e.2)

end Environment

/-- Which executable is asked for, and what its environment is to hold. -/
structure ToolchainSettings where
  goBinary : String := "go"
  /-- laid over the environment of every invocation -/
  env : Environment := []
  /-- laid over that for tests alone -/
  testEnv : Environment := []
deriving Repr, DecidableEq

structure Toolchain where
  binaryPath : String
  env : Environment := []
deriving Repr, DecidableEq

/-- The environment of a process: that of the explorer, below that of the
    toolchain, below that of the tests. -/
def Toolchain.environment (t : Toolchain) (own testEnv : Environment) : Environment :=
  (own.overlay t.env).overlay testEnv

/-- The executables that can be found, by the name they are asked for. -/
abbrev Executables := List (String × String)

/-- Find the executable. An empty path counts as not found. -/
def ToolchainSettings.resolve? (s : ToolchainSettings) (executables : Executables) :
    Option Toolchain :=
  match Environment.get? executables s.goBinary with
  | none => none
  | some path => if path.isEmpty then none else some ⟨path, s.env⟩

end SuiteExplorer
