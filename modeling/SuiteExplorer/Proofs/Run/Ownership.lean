/-
  SuiteExplorer/Proofs/Run/Ownership.lean
  =======================================
  **Every suite and test of the tree has a library that runs it.**

  The libraries of a catalog never change.  Whatever is entered has been declared in some
  text and taken there for one of the libraries, because its kind is theirs; a suite takes
  its kind from the test that it is made for.  Nodes leave the tree, and tests give way to
  others, but nothing changes what a node stands for (`owned_performAll`).

  So where a run or a debugger looks for the library of a node, it finds one, and that there
  is none is noted nowhere (`libraries_own_tree`).
-/
import SuiteExplorer.Proofs.Catalog.Kinds
import SuiteExplorer.Proofs.Catalog.WellFormed
import SuiteExplorer.Proofs.Run.Queue
import SuiteExplorer.Proofs.Run.Recording
import SuiteExplorer.Run.Launch

namespace SuiteExplorer

/-! ## 1. What stands in the tree -/

/-- One of the libraries owns the suite or test. -/
def Library.Own (libraries : List Library) (what : Runnable) : Prop :=
  ∃ l ∈ libraries, l.owns what = true

theorem Library.own_iff {libraries : List Library} {what : Runnable} :
    Own libraries what ↔ (libraries.find? (·.owns what)).isSome = true := by
  rw [List.find?_isSome, Own]

namespace Catalog

/-- The libraries own the suites and the tests of the tree. -/
structure OwnedBy (c : Catalog) (libraries : List Library) : Prop where
  suites : ∀ f ∈ c.files, ∀ s ∈ f.suites, ∃ suite,
    c.meaning? s.info.ref = some (.runnable (.suite suite)) ∧
      Library.Own libraries (.suite suite)
  tests : ∀ f ∈ c.files, ∀ s ∈ f.suites, ∀ t ∈ s.tests, ∃ d,
    c.meaning? t.ref = some (.runnable (.test d)) ∧ Library.Own libraries (.test d)
  /-- No test is of a kind without a library. -/
  kinds : ∀ f ∈ c.files, ∀ s ∈ f.suites, ∀ t ∈ s.tests, ∀ d,
    c.meaning? t.ref = some (.runnable (.test d)) → d.kind ∈ libraries.map (·.kind)

/-- Every node of the tree is an entry. -/
theorem exists_entry_of_mem_infos {c : Catalog} {i : NodeInfo} (h : i ∈ c.infos) :
    ∃ ids, ⟨ids, i.outline c.meaning?⟩ ∈ c.entries := by
  rcases mem_infos.mp h with ⟨p, hp, rfl⟩ | ⟨f, hf, hbelow⟩
  · exact ⟨_, entry_package hp⟩
  · obtain ⟨p, hp, hfp⟩ := mem_files.mp hf
    rcases hbelow with rfl | ⟨s, hs, rfl | ht⟩
    · exact ⟨_, entry_file hp hfp⟩
    · exact ⟨_, entry_suite hp hfp hs⟩
    · exact ⟨_, entry_test hp hfp hs ht⟩

/-- What a node of a file stands for is of the kind of a declaration of the file. -/
theorem kind_of_mem_nodesOf {label : Labels} {q : Path} {package : String}
    {ds : List Declaration} {e : Entry} {what : Runnable}
    (h : e ∈ nodesOf label q package ds) (hmeaning : e.node.meaning = some (.runnable what)) :
    ∃ d ∈ ds, what.kind = d.kind := by
  simp only [nodesOf, List.cons_append, List.nil_append, List.mem_cons, List.mem_append,
    List.mem_map] at h
  rcases h with rfl | rfl | ⟨d, hd, rfl⟩ | ⟨d, hd, rfl⟩
  · cases hmeaning
  · cases hmeaning
  · obtain rfl := Meaning.runnable.inj (Option.some.inj hmeaning)
    exact ⟨d, founders_subset ds hd, rfl⟩
  · obtain rfl := Meaning.runnable.inj (Option.some.inj hmeaning)
    exact ⟨d, latest_subset ds hd, rfl⟩

/-- Every declaration that an operation finds is of the kind of a library. -/
theorem kind_of_plan {c : Catalog} {act : CatalogAct} {q : Path} {package : String}
    {ds : List Declaration} {d : Declaration} (h : act.plan c q = some (package, ds))
    (hd : d ∈ ds) : ∃ l ∈ c.settings.libraries, d.kind = l.kind := by
  obtain ⟨-, text, hfound⟩ := exists_text_of_plan h
  obtain ⟨l, hl, hdl⟩ := mem_declarations_of_findingsIn? hfound hd
  exact ⟨l, hl, Library.kind_of_mem_declarations hdl⟩

section Performed

variable (settings : CatalogSettings) (listeners : List Listener) (acts : List CatalogAct)

/-- **A library owns whatever a node stands for.** -/
theorem owned_performAll {ref : NodeRef} {what : Runnable}
    (h : ((fresh settings listeners).performAll acts).meaning? ref = some (.runnable what)) :
    Library.Own settings.libraries what := by
  have hsound := sound_performAll settings listeners acts
  have hknown : ref ∈ ((fresh settings listeners).performAll acts).infos.map (·.ref) := by
    rw [map_ref_infos, ← hsound.booked.tracks.known]
    exact Option.isSome_iff_exists.mpr ⟨_, h⟩
  obtain ⟨i, hi, rfl⟩ := List.mem_map.mp hknown
  obtain ⟨ids, hentry⟩ := exists_entry_of_mem_infos hi
  obtain ⟨act, -, q, package, ds, hplan, hnode⟩ :=
    mem_entries_performAll settings listeners acts hentry
  obtain ⟨d, hd, hkind⟩ := kind_of_mem_nodesOf hnode h
  obtain ⟨l, hl, howns⟩ := kind_of_plan hplan hd
  refine ⟨l, hl, ?_⟩
  rw [Library.owns, hkind, howns, decide_eq_true_eq]

theorem ownedBy_performAll :
    ((fresh settings listeners).performAll acts).OwnedBy settings.libraries := by
  have hsound := sound_performAll settings listeners acts
  constructor
  · intro f hf s hs
    obtain ⟨suite, hsuite⟩ := hsound.meaning_suite hf hs
    exact ⟨suite, hsuite, owned_performAll settings listeners acts hsuite⟩
  · intro f hf s hs t ht
    obtain ⟨d, htest⟩ := hsound.meaning_test hf hs ht
    exact ⟨d, htest, owned_performAll settings listeners acts htest⟩
  · intro f hf s hs t ht d htest
    obtain ⟨l, hl, howns⟩ := owned_performAll settings listeners acts htest
    rw [Library.owns, decide_eq_true_eq] at howns
    exact List.mem_map.mpr ⟨l, hl, howns.symm⟩

end Performed

end Catalog

/-! ## 2. Runs -/

namespace Execution

/-- What has been noted of entries without a library. -/
def strays (x : Execution) : Journal := x.journal.filter (·.name = "no_adapter_for_test")

variable {x : Execution} {w : Workbench} {e : QueueEntry}

theorem strays_note {event : JournalEvent} (h : event.name ≠ "no_adapter_for_test") :
    (x.note event).strays = x.strays := by
  simp [strays, journal, note, Notice.event?, h]

@[simp] theorem strays_tell (text : String) : (x.tell w text).strays = x.strays := by
  unfold tell
  split
  · simp [strays, journal, Notice.event?]
  · rfl

@[simp] theorem strays_append (text : String) : (x.append w text).strays = x.strays := by
  rw [append, strays_tell]
  rfl

@[simp] theorem strays_say (line : String) : (x.say w line).strays = x.strays := by
  rw [say, strays_append]

@[simp] theorem strays_reach (ref : NodeRef) (state : RunState) :
    (x.reach ref state).strays = x.strays := rfl

@[simp] theorem strays_noteState (t : Transition NodeRef) :
    (x.noteState t).strays = x.strays := rfl

@[simp] theorem strays_reachAll (refs : List NodeRef) (state : RunState) :
    (x.reachAll refs state).strays = x.strays := by
  rw [reachAll_eq]
  rfl

/-! ### 2.1 One entry -/

theorem strays_communicate (s : Streams) (last : ProcessEnd) (lag : Nat)
    (events : List ProcessEvent) : (x.communicate w s last lag events).1.strays = x.strays := by
  apply communicate_keeps (P := fun y => y.strays = x.strays)
  · intro y text hy
    rw [strays_append, hy]
  · intro y hy
    exact hy
  · rfl

theorem strays_settle (s : Streams) (code elapsed : Int) :
    (x.settle w e s code elapsed).strays = x.strays := by
  unfold settle
  split
  · simp
  · simp

theorem strays_runProcess (spawn : Spawn) : (x.runProcess w e spawn).1.strays = x.strays := by
  have hbegun : (x.beginProcess e spawn).strays = x.strays := by
    have hnote := @strays_note (x.setBusy e.ref) (.debug "spawning_test_process"
      [("test_id", .text e.node.id),
        ("command", .list ((spawn.command :: spawn.arguments).map .text))])
    exact hnote (by simp [JournalEvent.debug])
  unfold runProcess
  dsimp only
  split
  · exact hbegun
  · next events last elapsed _ =>
    have hwait : ((x.beginProcess e spawn).communicate w {} last (x.lags.headD 0) events).1.strays =
        x.strays := by
      rw [strays_communicate, hbegun]
    split
    · next heq =>
      rw [heq] at hwait
      rw [strays_settle]
      exact hwait
    · next heq =>
      rw [heq] at hwait
      rw [settleCancelled, strays_noteState, strays_reach,
        strays_note (by simp [JournalEvent.info]), kill_eq]
      exact hwait
    · next heq =>
      rw [heq] at hwait
      exact hwait

/-- **An entry with a library** is never noted as one without. -/
theorem strays_runEntry (h : Library.Own w.libraries e.what) :
    (x.runEntry w e).1.strays = x.strays := by
  obtain ⟨l, hl⟩ := Option.isSome_iff_exists.mp (Library.own_iff.mp h)
  have hlook : (x.lookUp w).2.strays = x.strays := rfl
  unfold runEntry
  split
  · next y heq =>
    rw [heq] at hlook
    simp only [strays_reach, strays_say]
    rw [← hlook]
    have hnoted : (y.noteNoToolchain w).strays = y.strays := by
      rw [noteNoToolchain, strays_note (by simp [JournalEvent.error]),
        strays_note (by simp [JournalEvent.debug])]
    exact hnoted
  · next toolchain y heq =>
    rw [heq] at hlook
    rw [hl]
    dsimp only
    split
    · exact hlook
    · rw [strays_runProcess, hlook]

@[simp] theorem strays_complete : (x.complete w e).strays = x.strays := by
  rw [complete, strays_say]
  rfl

@[simp] theorem strays_breakOff (reason : String) : (x.breakOff e reason).strays = x.strays := by
  rw [breakOff, strays_noteState, strays_note (by simp [JournalEvent.fault])]

theorem strays_startEntry (h : Library.Own w.libraries e.what) :
    (x.startEntry w false e).1.strays = x.strays := by
  have hwork := strays_runEntry (x := (x.say w s!"Running {e.kindName} {e.node.id}").reach e.ref
    .started) h
  rw [strays_reach, strays_say] at hwork
  unfold startEntry
  dsimp only
  rw [if_neg Bool.false_ne_true]
  split
  · rw [strays_complete, hwork]
  · rw [strays_complete, strays_breakOff, hwork]
  · exact hwork

theorem strays_entry (h : Library.Own w.libraries e.what) :
    (x.entry w false e).1.strays = x.strays := by
  have harrive : x.arrive.strays = x.strays := rfl
  unfold entry
  dsimp only
  split
  · rw [strays_reach, strays_say, harrive]
  · rw [strays_startEntry h, harrive]

/-! ### 2.2 A queue -/

theorem strays_entries {q : List QueueEntry} (h : ∀ e ∈ q, Library.Own w.libraries e.what) :
    (x.entries w false q).1.strays = x.strays := by
  induction q generalizing x with
  | nil => rfl
  | cons e rest ih =>
    obtain ⟨he, hrest⟩ := List.forall_mem_cons.mp h
    have hentry := strays_entry (x := x) he
    unfold entries
    split
    · next heq =>
      rw [heq] at hentry
      rw [ih hrest, hentry]
    · next heq =>
      rw [heq] at hentry
      exact hentry

theorem strays_queue {q : List QueueEntry} (h : ∀ e ∈ q, Library.Own w.libraries e.what) :
    (x.queue w false q).1.strays = x.strays := by
  have hbegun : (x.enqueue w false q).strays = x.strays := by
    rw [enqueue, strays_reachAll, strays_note (by simp [JournalEvent.info])]
  unfold queue
  dsimp only
  rw [strays_note (by simp [JournalEvent.info]), strays_entries h, hbegun]

end Execution

namespace Catalog

theorem strays_run {c : Catalog} {w : Workbench} {r : RunRequest} (hdebug : r.debug = false)
    (h : ∀ e ∈ c.queue r, Library.Own w.libraries e.what) (x : Execution) :
    (c.run w r x).execution.strays = x.strays := by
  have hrecord : ({ x with record := { debug := r.debug } } : Execution).strays = x.strays := rfl
  unfold run
  dsimp only
  split
  · rw [Execution.reject, Execution.strays_say,
      Execution.strays_note (by simp [JournalEvent.warning]), hrecord]
  · rw [hdebug, Execution.strays_queue h]
    rfl

/-! ## 3. Launch configurations -/

/-- With a library there is a launch configuration, unless the toolchain is missing or what
    the library is asked for cannot be written. -/
theorem refusal_of_own {w : Workbench} {what : Runnable} (h : Library.Own w.libraries what)
    (toolchain? : Option Toolchain) (node : NodeInfo) {refusal : LaunchRefusal}
    (hrefused : w.launchConfiguration toolchain? node what = .error refusal) :
    (toolchain? = none ∧ refusal = .noToolchain) ∨
      ∃ l ∈ w.libraries, ∃ fault, l.debugArguments what = .error fault ∧
        refusal = .badTemplate fault := by
  obtain ⟨l, hl⟩ := Option.isSome_iff_exists.mp (Library.own_iff.mp h)
  unfold Workbench.launchConfiguration at hrefused
  cases toolchain? with
  | none =>
    left
    exact ⟨rfl, (Except.error.inj hrefused).symm⟩
  | some toolchain =>
    right
    dsimp only at hrefused
    rw [hl] at hrefused
    dsimp only at hrefused
    split at hrefused
    · next fault hfault =>
      exact ⟨l, List.mem_of_find?_eq_some hl, fault, hfault, (Except.error.inj hrefused).symm⟩
    · cases hrefused

/-- The answer does not depend on anything else that is done meanwhile. -/
theorem answer_launchConfiguration (x : Execution) (w : Workbench) (node : NodeInfo)
    (what : Runnable) : (x.launchConfiguration w node what).2 =
      w.launchConfiguration (w.toolchain.resolve? (x.lookups.headD w.executables)) node what := by
  unfold Execution.launchConfiguration Execution.lookUp
  dsimp only
  split
  · next heq => rw [heq]
  · rfl

theorem own_of_mem_queue {c : Catalog} {libraries : List Library}
    (h : ∀ {ref what}, c.meaning? ref = some (.runnable what) → Library.Own libraries what)
    {r : RunRequest} {e : QueueEntry} (he : e ∈ c.queue r) : Library.Own libraries e.what := by
  obtain ⟨t, -, hmade⟩ := Queue.mem_belowAll _ he
  exact h hmade.meaning

/-- What a catalog answers for a suite or test of its tree. -/
theorem launchConfiguration_of_mem_infos {c : Catalog} {w : Workbench} {i : NodeInfo}
    {what : Runnable} (hi : i ∈ c.infos) (hmeaning : c.meaning? i.ref = some (.runnable what))
    (x : Execution) : ∃ node,
      (c.launchConfiguration w x i.ref).2 = (x.launchConfiguration w node what).2.toOption := by
  have hfound : (Subtree.findIn? i.ref c.trees).isSome := by
    rw [Subtree.isSome_findIn?_iff, refsOf_trees, ← map_ref_infos]
    exact List.mem_map_of_mem hi
  obtain ⟨t, ht⟩ := Option.isSome_iff_exists.mp hfound
  have hsubtree : c.subtree? i.ref = some t := by
    rw [subtree?, ht]
  refine ⟨t.info, ?_⟩
  rw [launchConfiguration, hsubtree, hmeaning]
  rfl

/-- **Every runnable node has its library.**  Whatever has been done to a catalog, a library of
    its settings owns each suite and each test of its tree, and no test is of a kind without a
    library.  So for a workbench with these libraries, whatever a request names, each entry of its
    queue finds a library, no entry is ever noted as one without, and a launch configuration is
    refused only because the toolchain is missing or a template cannot be filled in. -/
theorem libraries_own_tree (settings : CatalogSettings) (listeners : List Listener)
    (acts : List CatalogAct) (w : Workbench) (hw : w.libraries = settings.libraries) :
    let c := (fresh settings listeners).performAll acts
    c.OwnedBy settings.libraries ∧
      (∀ r, ∀ e ∈ c.queue r, (w.libraries.find? (·.owns e.what)).isSome ∧
        ∀ x : Execution, (x.launchConfiguration w e.node e.what).2 ≠ .error .noLibrary) ∧
      (∀ r x, r.debug = false → (c.run w r x).execution.strays = x.strays) ∧
      ∀ i ∈ c.infos, ∀ what, c.meaning? i.ref = some (.runnable what) →
        ∀ x, (c.launchConfiguration w x i.ref).2 = none →
          w.toolchain.resolve? (x.lookups.headD w.executables) = none ∨
            ∃ l ∈ w.libraries, ∃ fault, l.debugArguments what = .error fault := by
  intro c
  have hown : ∀ {ref what}, c.meaning? ref = some (.runnable what) →
      Library.Own w.libraries what := by
    intro ref what hmeaning
    rw [hw]
    exact owned_performAll settings listeners acts hmeaning
  refine ⟨ownedBy_performAll settings listeners acts, ?_, ?_, ?_⟩
  · intro r e he
    have howned := own_of_mem_queue hown he
    refine ⟨Library.own_iff.mp howned, fun x hrefused => ?_⟩
    rw [answer_launchConfiguration] at hrefused
    rcases refusal_of_own howned _ _ hrefused with ⟨-, heq⟩ | ⟨l, -, fault, -, heq⟩
    · cases heq
    · cases heq
  · intro r x hdebug
    exact strays_run hdebug (fun e he => own_of_mem_queue hown he) x
  · intro i hi what hmeaning x hnone
    obtain ⟨node, hanswer⟩ := launchConfiguration_of_mem_infos (w := w) hi hmeaning x
    rw [hanswer, answer_launchConfiguration] at hnone
    cases hlaunch : w.launchConfiguration
        (w.toolchain.resolve? (x.lookups.headD w.executables)) node what with
    | ok entries =>
      rw [hlaunch] at hnone
      cases hnone
    | error refusal =>
      rcases refusal_of_own (hown hmeaning) _ _ hlaunch with ⟨hmissing, -⟩ | ⟨l, hl, fault, hfault, -⟩
      · exact .inl hmissing
      · exact .inr ⟨l, hl, fault, hfault⟩

/-- A text with tests of two libraries, of which the catalog has one. -/
def turnedActs : List CatalogAct :=
  [.discover .empty (.ofString "/w/a_test.go") (some sampleTurned)]

def turnedBench : Workbench := { executables := [("go", "/bin/go")], libraries := [.gocheck] }

theorem libraries_own_tree_turned :
    let c := (fresh sampleSettings []).performAll turnedActs
    turnedBench.libraries = sampleSettings.libraries ∧ c.tests.map (·.id) = ["S.TestB"] ∧
      c.OwnedBy sampleSettings.libraries ∧
      (c.queue {}).map (·.node.id) = ["S"] ∧
      (c.run turnedBench {} {}).execution.strays = [] ∧
      ∀ e ∈ c.queue {}, (turnedBench.libraries.find? (·.owns e.what)).isSome := by
  dsimp only
  have hruns : ((fresh sampleSettings []).performAll turnedActs).tests.map (·.id) = ["S.TestB"] ∧
      (((fresh sampleSettings []).performAll turnedActs).queue {}).map (·.node.id) = ["S"] := by
    decide +kernel
  obtain ⟨htests, hqueue⟩ := hruns
  obtain ⟨howned, hfinds, hstrays, -⟩ :=
    libraries_own_tree sampleSettings [] turnedActs turnedBench rfl
  refine ⟨rfl, htests, howned, hqueue, hstrays {} {} rfl, ?_⟩
  intro e he
  exact (hfinds {} e he).1

end Catalog

end SuiteExplorer
