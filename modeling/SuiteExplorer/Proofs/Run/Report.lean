/-
  SuiteExplorer/Proofs/Run/Report.lean
  ====================================
  **When a failure is reported as a success.**

  A report asks for the last state of every entry.  An entry that has failed keeps
  that state unless a later one touches the same node: the entry itself once more, or
  a suite that it is a test of.  `Queue.Apart` says that no entry of a queue is touched
  by a later one, and this is exactly what it takes for every failure to be reported
  (`reports_failures_iff_apart`): if it does not hold, there is a world in which one
  process fails, the others pass, and the report is one of success.
-/
import SuiteExplorer.Proofs.Run.Blocks

namespace SuiteExplorer

open Transition

/-- No entry is touched by a later one. -/
def Queue.Apart (q : List QueueEntry) : Prop :=
  q.Pairwise fun e later => e.ref ≠ later.ref ∧ e.ref ∉ later.children

/-! ## 1. A failure that nothing touches any more -/

section Block

variable {a : Arrival} {block : List (Transition NodeRef)} {t : Transition NodeRef}

/-- Only the entry itself fails in its block, and then the block leaves it so. -/
theorem Block.lastState?_of_bad (h : Block a block) (ht : t ∈ block)
    (hbad : t.state.isBad = true) (hown : a.entry.ref ∉ a.entry.children) :
    t.node = a.entry.ref ∧ ∃ s, lastState? block a.entry.ref = some s ∧ s.isBad = true := by
  cases h with
  | skipped e =>
    rw [List.mem_singleton.mp ht] at hbad
    cases hbad
  | worked e hending =>
    obtain ⟨own, below, s, hsplit⟩ := hending.split
    rw [hsplit.eq] at ht ⊢
    rcases List.mem_cons.mp ht with rfl | ht
    · cases hbad
    · rcases List.mem_append.mp ht with ht | ht
      · have hbelow : lastState? (Transition.each below s) e.ref = none := by
          rw [lastState?_eq_none]
          intro u hu hnode
          obtain ⟨n, hn, rfl⟩ := mem_each.mp hu
          exact hown (hnode ▸ hsplit.children hn)
        obtain ⟨s', hs', hsbad⟩ := hsplit.bad t ht hbad
        refine ⟨(hsplit.final t ht).1, s', ?_, hsbad⟩
        rw [← List.cons_append, lastState?_append, hbelow, Option.none_or,
          ← List.singleton_append, lastState?_append, hs', Option.some_or]
      · obtain ⟨n, -, rfl⟩ := mem_each.mp ht
        rcases hsplit.inStep with rfl | rfl
        · cases hbad
        · cases hbad

end Block

/-- Blocks touch no other nodes than their entries and those below them. -/
theorem node_mem_of_blocks {as : List Arrival} {blocks : List (List (Transition NodeRef))}
    (h : List.Forall₂ Block as blocks) {t : Transition NodeRef} (ht : t ∈ blocks.flatten) :
    ∃ a ∈ as, t.node = a.entry.ref ∨ t.node ∈ a.entry.children := by
  induction h with
  | nil => cases ht
  | @cons a block as blocks hblock _ ih =>
    rw [List.flatten_cons] at ht
    rcases List.mem_append.mp ht with ht | ht
    · exact ⟨a, List.mem_cons_self, hblock.node_mem ht⟩
    · obtain ⟨b, hb, hnode⟩ := ih ht
      exact ⟨b, List.mem_cons_of_mem _ hb, hnode⟩

/-- In a queue whose entries are apart, who fails is left failed. -/
theorem lastState?_of_bad {as : List Arrival} {blocks : List (List (Transition NodeRef))}
    (h : List.Forall₂ Block as blocks) (hapart : Queue.Apart (as.map (·.entry)))
    (hown : ∀ a ∈ as, a.entry.ref ∉ a.entry.children) {t : Transition NodeRef}
    (ht : t ∈ blocks.flatten) (hbad : t.state.isBad = true) :
    ∃ s, lastState? blocks.flatten t.node = some s ∧ s.isBad = true := by
  induction h with
  | nil => cases ht
  | @cons a block as blocks hblock hblocks ih =>
    obtain ⟨hlater, hrest⟩ := List.pairwise_cons.mp hapart
    rw [List.flatten_cons] at ht ⊢
    rw [lastState?_append]
    rcases List.mem_append.mp ht with ht | ht
    · obtain ⟨hnode, s, hs, hsbad⟩ :=
        hblock.lastState?_of_bad ht hbad (hown a List.mem_cons_self)
      have huntouched : lastState? blocks.flatten t.node = none := by
        rw [lastState?_eq_none]
        intro u hu hunode
        obtain ⟨later, hmem, hu'⟩ := node_mem_of_blocks hblocks hu
        obtain ⟨hne, hnot⟩ := hlater later.entry (List.mem_map_of_mem hmem)
        rw [hunode, hnode] at hu'
        exact hu'.elim hne hnot
      exact ⟨s, by rw [huntouched, Option.none_or, hnode, hs], hsbad⟩
    · obtain ⟨s, hs, hsbad⟩ := ih hrest (fun b hb => hown b (List.mem_cons_of_mem _ hb)) ht
      exact ⟨s, by rw [hs, Option.some_or], hsbad⟩

/-! ## 2. A world in which every process does as it is told -/

namespace Execution

/-- A process that ends with an exit code, and is silent before. -/
def exiting (code : Int) : ProcessScript := .runs [] (.exits code)

/-- Nobody cancels, nothing has gone wrong so far, and the next processes end with
    these exit codes. -/
structure Calm (codes : List Int) (x : Execution) : Prop where
  cancel : x.cancel = .impossible
  interruptions : x.interruptions = []
  lookups : x.lookups = []
  problems : x.record.problems = []
  processes : x.processes = codes.map exiting

/-- A library that selects everything of one kind. -/
def openLibrary (kind : Option LibraryKind) : Library where
  id := ""
  kind := kind
  selector := { runFlag := "", debugFlag := "", testTemplate := "", suiteTemplate := "" }

/-- A workbench with a toolchain, and with a library for every entry. -/
def openBench : Workbench where
  executables := [("go", "/go")]
  libraries := [openLibrary none, openLibrary (some .gocheck), openLibrary (some .qtsuite)]
  hasListener := false

theorem owner_openBench (what : Runnable) :
    openBench.libraries.find? (·.owns what) = some (openLibrary what.kind) := by
  have howns : ∀ kind, (openLibrary kind).owns what = decide (what.kind = kind) := fun _ => rfl
  cases hkind : what.kind with
  | none => simp [openBench, howns, hkind]
  | some kind => cases kind <;> simp [openBench, howns, hkind]

theorem runArguments_openLibrary (kind : Option LibraryKind) (what : Runnable) :
    (openLibrary kind).runArguments what = .ok ["test", "", ""] := by
  cases what with
  | suite suite => rfl
  | test d => rfl

variable {codes : List Int} {x : Execution}

/-- How an entry ends whose process ends with an exit code. -/
def exitEnding (e : QueueEntry) (code : Int) : List (Transition NodeRef) :=
  if code = 0 then ⟨e.ref, .passed, none, some 0⟩ :: Transition.each e.children .passed
  else ⟨e.ref, .failed, some "\r\n", some 0⟩ :: Transition.each e.children .skipped

/-- What such entries record.  Without an exit code it is that of success. -/
def exitBlocks : List QueueEntry → List Int → List (Transition NodeRef)
  | [], _ => []
  | e :: rest, codes =>
    ⟨e.ref, .started, none, none⟩ :: exitEnding e (codes.headD 0) ++ exitBlocks rest codes.tail

theorem Calm.say (h : Calm codes x) (line : String) : Calm codes (x.say openBench line) :=
  ⟨h.cancel, h.interruptions, h.lookups, h.problems, h.processes⟩

theorem Calm.reach (h : Calm codes x) (ref : NodeRef) (state : RunState) :
    Calm codes (x.reach ref state) :=
  ⟨h.cancel, h.interruptions, h.lookups, h.problems, h.processes⟩

theorem Calm.reachAll (refs : List NodeRef) (state : RunState) (h : Calm codes x) :
    Calm codes (x.reachAll refs state) := by
  induction refs generalizing x with
  | nil => exact h
  | cons r refs ih => exact ih (h.reach r state)

theorem Calm.communicate (h : Calm codes x) (code : Int) (lag : Nat) :
    x.communicate openBench {} (.exits code) lag [] = (x, {}, .exited code) := by
  simp [Execution.communicate, finishProcess, endStream, passOn, sees, h.cancel,
    CancelRequest.isSet, Text.Utf8.finish]

/-- A process that only exits settles its entry by its exit code. -/
theorem Calm.settle (h : Calm codes x) (e : QueueEntry) (code : Int) :
    Calm codes (x.settle openBench e {} code 0) ∧
      (x.settle openBench e {} code 0).record.transitions =
        x.record.transitions ++ exitEnding e code := by
  have hnote : ∀ {x : Execution} (t : Transition NodeRef), Calm codes x → Calm codes (x.noteState t) :=
    fun t h => ⟨h.cancel, h.interruptions, h.lookups, h.problems, h.processes⟩
  unfold Execution.settle exitEnding
  dsimp only
  split
  · refine ⟨(hnote _ h).reachAll e.children .passed, ?_⟩
    rw [transitions_reachAll]
    exact List.append_assoc ..
  · refine ⟨(hnote _ (h.say _)).reachAll e.children .skipped, ?_⟩
    rw [transitions_reachAll]
    exact List.append_assoc ..

theorem Calm.runProcess (h : Calm codes x) (e : QueueEntry) (spawn : Spawn) :
    ∃ x', x.runProcess openBench e spawn = (x', .finished) ∧ Calm codes.tail x' ∧
      x'.record.transitions = x.record.transitions ++ exitEnding e (codes.headD 0) := by
  have hscript : x.processes.headD .silent = exiting (codes.headD 0) := by
    rw [h.processes]
    cases codes <;> rfl
  have hbegun : Calm codes.tail (x.beginProcess e spawn) := by
    refine ⟨h.cancel, h.interruptions, h.lookups, h.problems, ?_⟩
    rw [List.map_tail, ← h.processes]
    rfl
  obtain ⟨hcalm, htransitions⟩ := hbegun.settle e (codes.headD 0)
  refine ⟨_, ?_, hcalm, htransitions⟩
  rw [Execution.runProcess, hscript]
  dsimp only [exiting]
  rw [hbegun.communicate]

theorem Calm.runEntry (h : Calm codes x) (e : QueueEntry) :
    ∃ x', x.runEntry openBench e = (x', .finished) ∧ Calm codes.tail x' ∧
      x'.record.transitions = x.record.transitions ++ exitEnding e (codes.headD 0) := by
  have hlook : x.lookUp openBench =
      (some ⟨"/go", []⟩, { x with lookups := x.lookups.tail }) := by
    rw [lookUp, h.lookups]
    rfl
  have hcalm : Calm codes { x with lookups := x.lookups.tail } :=
    ⟨h.cancel, h.interruptions, by rw [h.lookups]; rfl, h.problems, h.processes⟩
  rw [Execution.runEntry, hlook]
  dsimp only
  rw [owner_openBench]
  dsimp only
  rw [runArguments_openLibrary]
  exact hcalm.runProcess e _

theorem Calm.entry (h : Calm codes x) (e : QueueEntry) :
    ∃ x', x.entry openBench false e = (x', true) ∧ Calm codes.tail x' ∧
      x'.record.transitions = x.record.transitions ++
        ⟨e.ref, .started, none, none⟩ :: exitEnding e (codes.headD 0) := by
  have harrive : Calm codes x.arrive := by
    refine ⟨?_, by rw [arrive, h.interruptions]; rfl, h.lookups, h.problems, h.processes⟩
    rw [arrive, h.interruptions]
    exact h.cancel
  have hset : x.arrive.cancel.isSet = false := by
    rw [harrive.cancel]
    rfl
  obtain ⟨x', hrun, hcalm, htransitions⟩ :=
    ((harrive.say s!"Running {e.kindName} {e.node.id}").reach e.ref .started).runEntry e
  refine ⟨x'.complete openBench e, ?_, ?_, ?_⟩
  · rw [Execution.entry, hset, if_neg Bool.false_ne_true, startEntry, if_neg Bool.false_ne_true, hrun]
  · exact ⟨hcalm.cancel, hcalm.interruptions, hcalm.lookups, hcalm.problems, hcalm.processes⟩
  · have hcomplete : (x'.complete openBench e).record.transitions = x'.record.transitions := rfl
    rw [hcomplete, htransitions]
    exact List.append_assoc ..

/-- A queue is worked off, each entry with its exit code. -/
theorem Calm.entries (q : List QueueEntry) {codes : List Int} {x : Execution}
    (h : Calm codes x) :
    ∃ x', x.entries openBench false q = (x', true) ∧ x'.record.problems = [] ∧
      x'.record.transitions = x.record.transitions ++ exitBlocks q codes := by
  induction q generalizing codes x with
  | nil => exact ⟨x, rfl, h.problems, (List.append_nil _).symm⟩
  | cons e rest ih =>
    obtain ⟨x₁, hentry, hcalm, htransitions⟩ := h.entry e
    obtain ⟨x₂, hentries, hproblems, hrest⟩ := ih hcalm
    refine ⟨x₂, ?_, hproblems, ?_⟩
    · rw [Execution.entries, hentry]
      exact hentries
    · rw [hrest, htransitions, exitBlocks, List.append_assoc]

/-! ### 2.1 What such processes leave in the record -/

variable {q pre rest : List QueueEntry} {e later : QueueEntry} {t : Transition NodeRef}

theorem exitBlocks_append (pre rest : List QueueEntry) (codes : List Int) :
    exitBlocks (pre ++ rest) (List.replicate pre.length 0 ++ codes) =
      exitBlocks pre [] ++ exitBlocks rest codes := by
  induction pre with
  | nil => rfl
  | cons e pre ih =>
    have hcodes : List.replicate (e :: pre).length 0 ++ codes =
        (0 : Int) :: (List.replicate pre.length 0 ++ codes) := rfl
    rw [List.cons_append, hcodes, exitBlocks, List.headD_cons, List.tail_cons, ih, exitBlocks,
      List.append_assoc]
    rfl

/-- Processes that succeed leave nobody failed. -/
theorem not_bad_of_exitBlocks (ht : t ∈ exitBlocks q []) : t.state.isBad = false := by
  induction q with
  | nil => cases ht
  | cons e rest ih =>
    rcases List.mem_append.mp ht with ht | ht
    · rcases List.mem_cons.mp ht with rfl | ht
      · rfl
      · rcases List.mem_cons.mp ht with rfl | ht
        · rfl
        · obtain ⟨n, -, rfl⟩ := mem_each.mp ht
          rfl
    · exact ih ht

/-- They touch their entries and the nodes below them. -/
theorem touches_of_exitBlocks (hlater : later ∈ q) {n : NodeRef}
    (hn : n = later.ref ∨ n ∈ later.children) : ∃ t ∈ exitBlocks q [], t.node = n := by
  induction q with
  | nil => cases hlater
  | cons e rest ih =>
    rcases List.mem_cons.mp hlater with rfl | hlater
    · rcases hn with rfl | hn
      · exact ⟨_, List.mem_cons_self, rfl⟩
      · refine ⟨⟨n, .passed, none, none⟩, List.mem_append_left _ ?_, rfl⟩
        exact List.mem_cons_of_mem _ (List.mem_cons_of_mem _ (mem_each.mpr ⟨n, hn, rfl⟩))
    · obtain ⟨t, ht, hnode⟩ := ih hlater
      exact ⟨t, List.mem_append_right _ ht, hnode⟩

/-- Only the entry fails whose process fails. -/
theorem node_of_bad_exitBlock
    (ht : t ∈ (⟨e.ref, .started, none, none⟩ : Transition NodeRef) :: exitEnding e 1)
    (hbad : t.state.isBad = true) : t.node = e.ref := by
  rcases List.mem_cons.mp ht with rfl | ht
  · rfl
  · rcases List.mem_cons.mp ht with rfl | ht
    · rfl
    · obtain ⟨n, -, rfl⟩ := mem_each.mp ht
      cases hbad

/-- **A failure is masked** when all others succeed and a later entry touches the node. -/
theorem lastState?_of_masked (hlater : later ∈ rest)
    (htouch : e.ref = later.ref ∨ e.ref ∈ later.children) {n : NodeRef} {s : RunState}
    (hs : lastState? (exitBlocks pre [] ++ exitBlocks (e :: rest) [1]) n = some s) :
    s.isBad = false := by
  rw [exitBlocks, List.headD_cons, List.tail_cons, ← List.append_assoc, lastState?_append] at hs
  cases hlast : lastState? (exitBlocks rest []) n with
  | some s' =>
    obtain ⟨t, ht, -, rfl⟩ := mem_of_lastState? hlast
    rw [hlast, Option.some_or] at hs
    rw [← Option.some.inj hs]
    exact not_bad_of_exitBlocks ht
  | none =>
    rw [hlast, Option.none_or] at hs
    obtain ⟨t, ht, hnode, rfl⟩ := mem_of_lastState? hs
    rcases List.mem_append.mp ht with ht | ht
    · exact not_bad_of_exitBlocks ht
    · -- the failed entry itself is touched once more, so its failure does not come last
      rw [← Bool.not_eq_true]
      intro hbad
      have hentry := node_of_bad_exitBlock ht hbad
      obtain ⟨u, hu, hunode⟩ := touches_of_exitBlocks hlater htouch
      exact lastState?_eq_none.mp hlast u hu (by rw [hunode, ← hentry, hnode])

end Execution

/-! ## 3. Reports -/

namespace RunReport

variable {r : RunReport NodeRef}

theorem finalState?_eq (r : RunReport NodeRef) (n : NodeRef) :
    r.record.finalState? n = lastState? r.record.transitions n := rfl

theorem ok_eq_false {n : NodeRef} (hn : n ∈ r.entries) {s : RunState}
    (hs : r.record.finalState? n = some s) (hbad : s.isBad = true) : r.ok = false := by
  have hall : (r.entries.all fun n => !((r.record.finalState? n).any (·.isBad))) = false := by
    rw [List.all_eq_false]
    exact ⟨n, hn, by simp [hs, hbad]⟩
  rw [ok, hall, Bool.and_false]

theorem ok_eq_true (haccepted : r.rejected = none) (hproblems : r.record.problems = [])
    (hgood : ∀ n ∈ r.entries, ∀ s, r.record.finalState? n = some s → s.isBad = false) :
    r.ok = true := by
  have hall : (r.entries.all fun n => !((r.record.finalState? n).any (·.isBad))) = true := by
    rw [List.all_eq_true]
    intro n hn
    cases hs : r.record.finalState? n with
    | none => rfl
    | some s => simp [hgood n hn s hs]
  rw [ok, hall, haccepted, hproblems]
  rfl

end RunReport

theorem Queue.exists_touched {q : List QueueEntry} (h : ¬ Queue.Apart q) :
    ∃ pre e rest, q = pre ++ e :: rest ∧
      ∃ later ∈ rest, e.ref = later.ref ∨ e.ref ∈ later.children := by
  induction q with
  | nil => exact absurd List.Pairwise.nil h
  | cons e rest ih =>
    by_cases hrest : Queue.Apart rest
    · have htouched : ¬ ∀ later ∈ rest, e.ref ≠ later.ref ∧ e.ref ∉ later.children :=
        fun hlater => h (List.pairwise_cons.mpr ⟨hlater, hrest⟩)
      push Not at htouched
      obtain ⟨later, hlater, htouch⟩ := htouched
      exact ⟨[], e, rest, rfl, later, hlater, Classical.or_iff_not_imp_left.mpr htouch⟩
    · obtain ⟨pre, e', rest', rfl, hlater⟩ := ih hrest
      exact ⟨e :: pre, e', rest', rfl, hlater⟩

namespace Catalog

/-- Where nobody cancels and every process only exits, each with the next of these codes. -/
def exitingWorld (codes : List Int) : Execution := { processes := codes.map Execution.exiting }

theorem run_exitingWorld (c : Catalog) {r : RunRequest} (hdebug : r.debug = false)
    (hqueue : c.queue r ≠ []) (codes : List Int) :
    let result := c.run Execution.openBench r (exitingWorld codes)
    result.report.rejected = none ∧ result.completed = true ∧
      result.report.entries = (c.queue r).map (·.ref) ∧ result.report.record.problems = [] ∧
      result.report.record.transitions =
        Transition.each ((c.queue r).map (·.ref)) .enqueued ++
          Execution.exitBlocks (c.queue r) codes := by
  intro result
  have hrejection : Queue.rejection? r.debug (c.queue r) = none := by
    simp [Queue.rejection?, hdebug, hqueue]
  have haccepted : result.report.rejected = none := accepted_of_rejection? hrejection _ _
  have hcalm : Execution.Calm codes (c.begun Execution.openBench r (exitingWorld codes)) := by
    refine Execution.Calm.reachAll _ .enqueued ?_
    exact ⟨rfl, rfl, rfl, rfl, rfl⟩
  obtain ⟨hreport, -, hcompleted⟩ := run_of_accepted haccepted
  obtain ⟨x', hentries, hproblems, htransitions⟩ := hcalm.entries (c.queue r)
  rw [hdebug, hentries] at hreport hcompleted
  refine ⟨haccepted, hcompleted, ?_, ?_, ?_⟩
  · rw [hreport]
  · rw [hreport]
    exact hproblems
  · rw [hreport, htransitions, transitions_begun]

theorem apart_of_debug {c : Catalog} {r : RunRequest} (hdebug : r.debug = true)
    (h : Queue.rejection? r.debug (c.queue r) = none) : Queue.Apart (c.queue r) := by
  obtain ⟨e, hqueue⟩ := queue_of_debug h hdebug
  rw [hqueue]
  exact List.pairwise_singleton _ e

/-- **When failures are reported.**  Take any catalog that operations lead to, and any
    request.  That every run of it which leaves a queued node failed or errored at some
    point is reported as unsuccessful, whatever the world does, holds exactly if the
    request is one to debug, or no entry of its queue is touched by a later one. -/
theorem reports_failures_iff_apart (settings : CatalogSettings) (listeners : List Listener)
    (acts : List CatalogAct) (r : RunRequest) :
    let c := (fresh settings listeners).performAll acts
    (∀ (w : Workbench) (x : Execution),
        (c.run w r x).report.rejected = none → (c.run w r x).completed = true →
        (∃ t ∈ (c.run w r x).report.record.transitions,
          t.state.isBad = true ∧ t.node ∈ (c.run w r x).report.entries) →
        (c.run w r x).report.ok = false) ↔
      r.debug = true ∨ Queue.Apart (c.queue r) := by
  intro c
  have hsound : c.Sound := sound_performAll settings listeners acts
  constructor
  · intro hreports
    by_contra hnot
    push Not at hnot
    obtain ⟨hdebug, hapart⟩ := hnot
    rw [ne_eq, Bool.not_eq_true] at hdebug
    obtain ⟨pre, e, rest, hqueue, later, hlater, htouch⟩ := Queue.exists_touched hapart
    obtain ⟨haccepted, hcompleted, hentries, hproblems, htransitions⟩ :=
      run_exitingWorld c hdebug (by simp [hqueue]) (List.replicate pre.length 0 ++ [1])
    set result := c.run Execution.openBench r
      (exitingWorld (List.replicate pre.length 0 ++ [1])) with hresult
    rw [hqueue, Execution.exitBlocks_append] at htransitions
    have hfails : result.report.ok = false := by
      refine hreports _ _ haccepted hcompleted ⟨⟨e.ref, .failed, some "\r\n", some 0⟩, ?_, rfl, ?_⟩
      · rw [htransitions]
        refine List.mem_append_right _ (List.mem_append_right _ (List.mem_append_left _ ?_))
        exact List.mem_cons_of_mem _ List.mem_cons_self
      · rw [hentries, hqueue]
        exact List.mem_map_of_mem (by simp)
    have hok : result.report.ok = true := by
      refine RunReport.ok_eq_true haccepted hproblems fun n _ s hs => ?_
      rw [RunReport.finalState?_eq, htransitions, lastState?_append] at hs
      cases hlast : lastState? (Execution.exitBlocks pre [] ++
          Execution.exitBlocks (e :: rest) [1]) n with
      | some s' =>
        rw [hlast, Option.some_or] at hs
        rw [← Option.some.inj hs]
        exact Execution.lastState?_of_masked hlater htouch hlast
      | none =>
        rw [hlast, Option.none_or] at hs
        obtain ⟨t, ht, -, rfl⟩ := mem_of_lastState? hs
        obtain ⟨m, -, rfl⟩ := mem_each.mp ht
        rfl
    rw [hfails] at hok
    cases hok
  · rintro h w x haccepted hcompleted ⟨t, ht, hbad, hentry⟩
    have hapart : Queue.Apart (c.queue r) := by
      rcases h with hdebug | hapart
      · exact apart_of_debug hdebug (rejection?_of_accepted haccepted)
      · exact hapart
    obtain ⟨blocks, hblocks, htransitions, -⟩ := run_transitions haccepted hcompleted
    have hmap : (c.arrivals w r x).map (·.entry) = c.queue r :=
      Execution.map_entry_arrivals w r.debug _ _
    rw [htransitions] at ht
    rcases List.mem_append.mp ht with ht | ht
    · obtain ⟨n, -, rfl⟩ := mem_each.mp ht
      cases hbad
    · have hown : ∀ a ∈ c.arrivals w r x, a.entry.ref ∉ a.entry.children :=
        fun a ha => hsound.ref_not_mem_children (hmap ▸ List.mem_map_of_mem ha)
      obtain ⟨s, hs, hsbad⟩ := lastState?_of_bad hblocks (hmap ▸ hapart) hown ht hbad
      refine RunReport.ok_eq_false hentry ?_ hsbad
      rw [RunReport.finalState?_eq, htransitions, lastState?_append, hs, Option.some_or]

/-- A test fails and its suite passes after it: the report is one of success. -/
theorem failed_then_passed :
    let c := (fresh pairSettings []).performAll pairActs
    let result := c.run pairBench { selected := some [3, 2] } { processes := [.runs [] (.exits 1)] }
    result.report.rejected = none ∧ result.completed = true ∧
      (∃ t ∈ result.report.record.transitions,
        t.state = .failed ∧ t.node ∈ result.report.entries) ∧
      result.report.ok = true := by
  decide +kernel

end Catalog
end SuiteExplorer
