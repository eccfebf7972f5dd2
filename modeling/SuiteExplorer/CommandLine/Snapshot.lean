/-
  SuiteExplorer/CommandLine/Snapshot.lean
  =======================================
  Reading a world from a document. The explorer touches neither disk nor
  processes itself: whoever calls it says what there is to see and how processes
  behave. All keys of the document may be left out.

      directory     the working directory
      environment   variables and their values
      executables   names and paths of what can be started
      files         paths and contents
      processes     for each process its `stdout`, `stderr` and `exit`, or why
                    it is `refused`
      batches       for each batch of a watch what to `write` and `remove`, and
                    the `changes` that are reported, as kinds and paths
      run, time     what the run is called, and when it is
-/
import SuiteExplorer.CommandLine.Terminal
import SuiteExplorer.Value.Json

namespace SuiteExplorer.CommandLine.Snapshot

/-! ## 1. Parts of a document -/

def textOf : Value → String
  | .text s => s
  | _ => ""

/-- The text of a key; empty if there is none. -/
def textAt (v : Value) (key : String) : String := ((v.get? key).map textOf).getD ""

def itemsAt (v : Value) (key : String) : List Value :=
  match v.get? key with
  | some (.list vs) => vs
  | _ => []

def textsAt (v : Value) (key : String) : List (String × String) :=
  match v.get? key with
  | some (.map es) => es.map fun (k, w) => (k.display, textOf w)
  | _ => []

def bytesOf (s : String) : Bytes := s.toUTF8.toList

def writesAt (v : Value) (key : String) : List FileEdit :=
  (textsAt v key).map fun (path, content) => .write (.ofString path) (bytesOf content)

/-! ## 2. The world -/

/-- How a process behaves. All it writes comes at once, and without an exit code
    it succeeds. -/
def process (v : Value) : ProcessScript :=
  match v.get? "refused" with
  | some reason => .refused (textOf reason)
  | none =>
    let code := match v.get? "exit" with
      | some (.int n) => n
      | _ => 0
    .runs [.stdout (bytesOf (textAt v "stdout")), .stderr (bytesOf (textAt v "stderr"))]
      (.exits code)

def changeKind : String → Watch.ChangeKind
  | "created" => .created
  | "deleted" => .deleted
  | _ => .modified

def change? : Value → Option Watch.Change
  | .list [.text kind, .text path] => some ⟨changeKind kind, path⟩
  | _ => none

def batch (v : Value) : WatchBatch :=
  { edits := writesAt v "write" ++
      (itemsAt v "remove").map fun path => .remove (.ofString (textOf path))
    changes := (itemsAt v "changes").filterMap change? }

def world (v : Value) : World :=
  let directory := Path.ofString (textAt v "directory")
  { directory := directory
    environment := textsAt v "environment"
    userHome := ((textsAt v "environment").lookup "HOME").getD ""
    executables := textsAt v "executables"
    files := (FileTree.empty.makeFolder directory).editAll (writesAt v "files")
    processes := (itemsAt v "processes").map process
    batches := (itemsAt v "batches").map batch
    runId := textAt v "run"
    time := textAt v "time" }

def ofString? (s : String) : Option World := (Json.ofString? s).map world

end SuiteExplorer.CommandLine.Snapshot
