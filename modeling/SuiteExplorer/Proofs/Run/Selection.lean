/-
  SuiteExplorer/Proofs/Run/Selection.lean
  =======================================
  **What a request selects, and what a request leaves that is turned down.**

  The queue is built by a recursion over trees.  What it comes to is said here in terms of
  the ways down from the nodes that a request begins with, in the order of the tree
  (`Subtree.ways`): each way gives the suite or test at its end, if it is the first one on
  the way and no node of the way is excluded or has left (`Queue.met?`).  A queue without an
  entry, or to debug with several, is turned down, and that leaves nothing but a message
  (`TurnedDown`).
-/
import SuiteExplorer.Proofs.Run.Blocks

namespace SuiteExplorer

/-! ## 1. The ways down a tree -/

namespace Subtree

mutual

/-- The ways from a node down to each node below it, in the order of the tree, the shortest
    one being the node itself. -/
def ways : Subtree → List (List Subtree)
  | node i cs => [node i cs] :: (waysIn cs).map (node i cs :: ·)

def waysIn : List Subtree → List (List Subtree)
  | [] => []
  | t :: rest => ways t ++ waysIn rest

end

variable {ts : List Subtree}

theorem waysIn_eq_flatMap (ts : List Subtree) : waysIn ts = ts.flatMap ways := by
  induction ts with
  | nil => rfl
  | cons t ts ih => rw [waysIn, ih, List.flatMap_cons]

/-- A list of nodes in which each one holds the next. -/
abbrev Descends (way : List Subtree) : Prop := List.IsChain (fun t u => u ∈ t.children) way

mutual

theorem mem_ways_iff : ∀ (t : Subtree) {way : List Subtree},
    way ∈ t.ways ↔ ∃ rest, way = t :: rest ∧ Descends way
  | node i cs, way => by
    rw [ways, List.mem_cons, List.mem_map]
    constructor
    · rintro (rfl | ⟨below, hbelow, rfl⟩)
      · exact ⟨[], rfl, .singleton _⟩
      · obtain ⟨u, hu, rest, rfl, hdescends⟩ := (mem_waysIn_iff cs).mp hbelow
        exact ⟨u :: rest, rfl, .cons_cons hu hdescends⟩
    · rintro ⟨rest, rfl, hdescends⟩
      cases rest with
      | nil => exact .inl rfl
      | cons u rest =>
        cases hdescends with
        | cons_cons hu hdescends =>
          exact .inr ⟨u :: rest, (mem_waysIn_iff cs).mpr ⟨u, hu, rest, rfl, hdescends⟩, rfl⟩

/-- **The ways are all there are**: the lists of nodes that begin with one of the trees and in
    which each node holds the next. -/
theorem mem_waysIn_iff : ∀ (ts : List Subtree) {way : List Subtree},
    way ∈ waysIn ts ↔ ∃ t ∈ ts, ∃ rest, way = t :: rest ∧ Descends way
  | [], way => by simp [waysIn]
  | t :: ts, way => by
    rw [waysIn, List.mem_append, mem_ways_iff t, mem_waysIn_iff ts, List.exists_mem_cons_iff]

end

theorem ne_nil_of_mem_waysIn {way : List Subtree} (h : way ∈ waysIn ts) : way ≠ [] := by
  obtain ⟨t, -, rest, rfl, -⟩ := (mem_waysIn_iff ts).mp h
  exact List.cons_ne_nil t rest

/-- What the ways below a node come to when each is lengthened by the node. -/
theorem filterMap_waysIn_cons {β : Type} {f g : List Subtree → Option β} {t : Subtree}
    (h : ∀ way, way ≠ [] → f (t :: way) = g way) :
    ((waysIn ts).map (t :: ·)).filterMap f = (waysIn ts).filterMap g := by
  rw [List.filterMap_map]
  exact List.filterMap_congr fun way hway => h way (ne_nil_of_mem_waysIn hway)

mutual

theorem infos_ways : ∀ t : Subtree, t.ways.filterMap (·.getLast?.map info) = t.infos
  | node i cs => by
    have hbelow : ((waysIn cs).map (node i cs :: ·)).filterMap (·.getLast?.map info) =
        (waysIn cs).filterMap (·.getLast?.map info) :=
      filterMap_waysIn_cons fun way hway => by rw [List.getLast?_cons_of_ne_nil hway]
    rw [ways, List.filterMap_cons, hbelow, infosOf_waysIn cs]
    rfl

/-- **The ways come in the order of the tree**: one to each node. -/
theorem infosOf_waysIn : ∀ ts : List Subtree,
    (waysIn ts).filterMap (·.getLast?.map info) = infosOf ts
  | [] => rfl
  | t :: ts => by
    rw [waysIn, List.filterMap_append, infos_ways t, infosOf_waysIn ts, infosOf]

end

end Subtree

/-! ## 2. What a way gives -/

namespace Queue

variable {μ : Reading} {excluded : List NodeRef}

/-- The suite or test that a node stands for. -/
def runs? (μ : Reading) (t : Subtree) : Option Runnable := (μ t.info.ref).bind Meaning.runnable?

/-- The node is not excluded and has not left. -/
def counts (μ : Reading) (excluded : List NodeRef) (t : Subtree) : Bool :=
  !excluded.contains t.info.ref && (μ t.info.ref).isSome

/-- The suite or test at the end of a way, if it is the first one on the way and every node of
    the way counts. -/
def met? (μ : Reading) (excluded : List NodeRef) (way : List Subtree) : Option QueueEntry :=
  if way.all (counts μ excluded) && way.dropLast.all fun t => (runs? μ t).isNone then
    way.getLast?.bind fun t => (runs? μ t).map fun what => ⟨t.info, what, t.children.map (·.info.ref)⟩
  else none

theorem met?_singleton (t : Subtree) : met? μ excluded [t] =
    if counts μ excluded t then
      (runs? μ t).map fun what => ⟨t.info, what, t.children.map (·.info.ref)⟩
    else none := by
  simp [met?]

theorem met?_cons {t : Subtree} {way : List Subtree} (hway : way ≠ []) :
    met? μ excluded (t :: way) =
      if counts μ excluded t && (runs? μ t).isNone then met? μ excluded way else none := by
  unfold met?
  rw [List.all_cons, List.dropLast_cons_of_ne_nil hway, List.all_cons,
    List.getLast?_cons_of_ne_nil hway]
  cases counts μ excluded t with
  | false => rfl
  | true =>
    cases runs? μ t with
    | none => simp
    | some what => simp

mutual

theorem below_eq : ∀ t : Subtree, below μ excluded t = t.ways.filterMap (met? μ excluded)
  | .node i cs => by
    have hbelow : ((Subtree.waysIn cs).map (.node i cs :: ·)).filterMap (met? μ excluded) =
        (Subtree.waysIn cs).filterMap fun way =>
          if counts μ excluded (.node i cs) && (runs? μ (.node i cs)).isNone then
            met? μ excluded way else none :=
      Subtree.filterMap_waysIn_cons fun way hway => met?_cons hway
    have hcounts : counts μ excluded (.node i cs) =
        (!excluded.contains i.ref && (μ i.ref).isSome) := rfl
    have hruns : runs? μ (.node i cs) = (μ i.ref).bind Meaning.runnable? := rfl
    rw [Subtree.ways, List.filterMap_cons, hbelow, met?_singleton, below, hcounts, hruns]
    by_cases hexcluded : i.ref ∈ excluded
    · simp [hexcluded]
    · cases hmeaning : μ i.ref with
      | none => simp [hexcluded]
      | some m =>
        cases m with
        | runnable what => simp [hexcluded, Meaning.runnable?, Subtree.info, Subtree.children]
        | package => simp [hexcluded, Meaning.runnable?, belowAll_eq cs]
        | file => simp [hexcluded, Meaning.runnable?, belowAll_eq cs]

/-- **The queue of some trees**: what the ways down from them give, in the order of the ways. -/
theorem belowAll_eq : ∀ ts : List Subtree,
    belowAll μ excluded ts = (Subtree.waysIn ts).filterMap (met? μ excluded)
  | [] => rfl
  | t :: ts => by
    rw [belowAll, Subtree.waysIn, List.filterMap_append, below_eq t, belowAll_eq ts]

end

/-- The two reasons to turn a queue down. -/
theorem rejection?_eq_some_iff {debug : Bool} {q : List QueueEntry} {p : Problem} :
    rejection? debug q = some p ↔
      (q = [] ∧ p = .nothingSelected) ∨
        (debug = true ∧ 1 < q.length ∧ p = .severalDebugged (.int q.length)) := by
  unfold rejection?
  by_cases hempty : q = []
  · subst hempty
    simp [eq_comm]
  · rw [if_neg (by simpa using hempty)]
    by_cases hseveral : debug = true ∧ 1 < q.length
    · rw [if_pos (by simpa using hseveral)]
      simp [hempty, hseveral.1, hseveral.2, eq_comm]
    · rw [if_neg (by simpa using hseveral)]
      constructor
      · intro h
        cases h
      · rintro (⟨h, -⟩ | ⟨hdebug, hlength, -⟩)
        · exact absurd h hempty
        · exact absurd ⟨hdebug, hlength⟩ hseveral

end Queue

/-! ## 3. A request that is turned down -/

namespace Catalog

/-- All that a request leaves that is turned down: the message, a line in the journal and the
    report. -/
structure TurnedDown (c : Catalog) (w : Workbench) (r : RunRequest) (x : Execution) (p : Problem)
    (result : RunResult) : Prop where
  /-- no node has another state -/
  catalog : result.catalog = c
  /-- nothing is recorded but the message -/
  record : result.execution.record = { debug := r.debug, pieces := [p.message ++ "\r\n"] }
  report : result.report = { record := result.execution.record, rejected := some p }
  told : result.execution.told =
    x.told ++ if w.hasListener then [p.message ++ "\r\n"] else []
  journal : result.execution.journal = x.journal ++ [.warning "test_run_rejected" p.report.entries]
  /-- nothing is run, debugged, killed or stopped -/
  spawns : result.execution.spawns = x.spawns
  killed : result.execution.killed = x.killed
  launched : result.execution.launched = x.launched
  stopped : result.execution.stopped = x.stopped
  /-- no token is made or registered -/
  tokens : result.execution.tokens = x.tokens
  correlator : result.execution.correlator = x.correlator
  /-- no node is worked on, and no file is written -/
  busy : result.execution.busy = x.busy
  files : result.execution.files = x.files

end Catalog

namespace Execution

theorem told_reject (x : Execution) (w : Workbench) (p : Problem) :
    (x.reject w p).told = x.told ++ if w.hasListener then [p.message ++ "\r\n"] else [] := by
  unfold reject say append tell
  split
  · rw [told, note, List.filterMap_append, List.filterMap_append, List.append_assoc]
    rfl
  · rw [told, note, List.filterMap_append]
    rfl

theorem journal_reject (x : Execution) (w : Workbench) (p : Problem) :
    (x.reject w p).journal = x.journal ++ [.warning "test_run_rejected" p.report.entries] := by
  unfold reject say append tell
  split
  · rw [journal, note, List.filterMap_append, List.filterMap_append, List.append_assoc]
    rfl
  · rw [journal, note, List.filterMap_append]
    rfl

/-- Beside that, turning down only records the message; a text that is told may be what a
    cancellation waits for. -/
theorem reject_eq (x : Execution) (w : Workbench) (p : Problem) :
    ∃ notices cancel, x.reject w p =
      { x with record := x.record.append (p.message ++ "\r\n"), notices, cancel } := by
  unfold reject say append tell
  split
  · exact ⟨_, _, rfl⟩
  · exact ⟨_, _, rfl⟩

end Execution

namespace Catalog

variable {c : Catalog} {w : Workbench} {r : RunRequest} {x : Execution} {p : Problem}

theorem rejected_run (c : Catalog) (w : Workbench) (r : RunRequest) (x : Execution) :
    (c.run w r x).report.rejected = Queue.rejection? r.debug (c.queue r) := by
  unfold run
  dsimp only
  cases Queue.rejection? r.debug (c.queue r) with
  | none => rfl
  | some p => rfl

theorem turnedDown_run (h : Queue.rejection? r.debug (c.queue r) = some p) :
    c.TurnedDown w r x p (c.run w r x) := by
  let y : Execution := { x with record := { debug := r.debug } }
  have hrun : c.run w r x =
      { catalog := c, execution := y.reject w p,
        report := { record := (y.reject w p).record, rejected := some p } } := by
    unfold run
    dsimp only
    rw [h]
  obtain ⟨notices, cancel, hreject⟩ := y.reject_eq w p
  rw [hrun]
  refine ⟨rfl, ?_, rfl, y.told_reject w p, y.journal_reject w p, ?_, ?_, ?_, ?_, ?_, ?_, ?_, ?_⟩
  all_goals
    dsimp only
    rw [hreject]
  rfl

/-- **Queue and rejection.**  The queue is what the ways down from the selected nodes give, one
    node after the other.  A request is turned down if there is nothing in its queue, or if
    there are several entries to debug, and that leaves nothing but a message.  Any other
    request is worked on as it is queued. -/
theorem queue_and_rejection (c : Catalog) (w : Workbench) (r : RunRequest) (x : Execution) :
    c.queue r = (c.selectedTrees r).flatMap
        (fun t => t.ways.filterMap (Queue.met? c.meaning? r.excluded)) ∧
      (∀ p, (c.run w r x).report.rejected = some p ↔
        (c.queue r = [] ∧ p = .nothingSelected) ∨
          (r.debug = true ∧ 1 < (c.queue r).length ∧ p = .severalDebugged (.int (c.queue r).length))) ∧
      (∀ p, (c.run w r x).report.rejected = some p → c.TurnedDown w r x p (c.run w r x)) ∧
      ((c.run w r x).report.rejected = none →
        (c.run w r x).report.entries = (c.queue r).map (·.ref)) := by
  refine ⟨?_, ?_, ?_, ?_⟩
  · rw [queue, Queue.belowAll_eq, Subtree.waysIn_eq_flatMap, List.filterMap_flatMap]
  · intro p
    rw [rejected_run, Queue.rejection?_eq_some_iff]
  · intro p h
    exact turnedDown_run (rejected_run c w r x ▸ h)
  · intro h
    rw [(run_of_accepted h).1]

/-- A test and then its suite, to be debugged. -/
def pairToDebug : RunRequest := { selected := some [3, 2], debug := true }

theorem queue_and_rejection_pair :
    let c := (fresh pairSettings []).performAll pairActs
    let result := c.run pairBench pairToDebug {}
    (c.queue pairToDebug).map (·.ref) = [3, 2] ∧
      result.report.rejected = some (.severalDebugged (.int 2)) ∧
      c.TurnedDown pairBench pairToDebug {} (.severalDebugged (.int 2)) result := by
  dsimp only
  have hqueue : (((fresh pairSettings []).performAll pairActs).queue pairToDebug).map (·.ref) =
      [3, 2] := by decide +kernel
  have hlength : (((fresh pairSettings []).performAll pairActs).queue pairToDebug).length = 2 := by
    simpa using congrArg List.length hqueue
  obtain ⟨-, hrejected, hturned, -⟩ :=
    queue_and_rejection ((fresh pairSettings []).performAll pairActs) pairBench pairToDebug {}
  have hseveral := (hrejected (.severalDebugged (.int 2))).mpr
    (.inr ⟨rfl, by rw [hlength]; decide, by rw [hlength]; rfl⟩)
  exact ⟨hqueue, hseveral, hturned _ hseveral⟩

end Catalog

end SuiteExplorer
