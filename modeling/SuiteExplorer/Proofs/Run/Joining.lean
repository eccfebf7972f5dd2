/-
  SuiteExplorer/Proofs/Run/Joining.lean
  =====================================
  **Entries are independent.**

  What a run records of an entry hangs on nothing that the entries before it have left
  behind, but on what is found and what is spawned for it.  `Upon b y x` says this of a
  whole way: on top of `b`, the execution `x` has what `y` has by itself.  Every step of a
  run that nobody can cancel keeps it, so the same entries lead from any two points to the
  same output, transitions and problems, whatever fails among them.

  So a queue that is put together of two does what the two do one after the other
  (`run_of_joined_queue`).
-/
import SuiteExplorer.Proofs.Run.Exclusion
import SuiteExplorer.Proofs.Run.Lockstep

namespace SuiteExplorer.Execution

/-! ## 1. The same work upon another past -/

/-- On top of `b`, the execution `x` has what `y` has by itself, and both go on in the same
    world, in which nobody cancels.  Who listens has been told the output of `y` since. -/
structure Upon (w : Workbench) (b y x : Execution) : Prop where
  transitions : x.record.transitions = b.record.transitions ++ y.record.transitions
  pieces : x.record.pieces = b.record.pieces ++ y.record.pieces
  problems : x.record.problems = b.record.problems ++ y.record.problems
  told : w.hasListener = true → x.told = b.told ++ y.record.pieces
  lookups : x.lookups = y.lookups
  processes : x.processes = y.processes
  alone : y.cancel = .impossible
  uncancelled : x.cancel = .impossible

namespace Upon

variable {w : Workbench} {b y x : Execution}

theorem note (h : Upon w b y x) (event event' : JournalEvent) :
    Upon w b (y.note event) (x.note event') :=
  { h with told := fun hlistener => (told_note x event').trans (h.told hlistener) }

theorem append (h : Upon w b y x) (text : String) :
    Upon w b (y.append w text) (x.append w text) := by
  have hpieces : x.record.pieces ++ [text] = b.record.pieces ++ (y.record.pieces ++ [text]) := by
    rw [h.pieces, List.append_assoc]
  unfold Execution.append Execution.tell
  cases hlistener : w.hasListener with
  | false =>
    exact { h with
      pieces := hpieces
      told := fun hlistening => absurd (hlistener.symm.trans hlistening) Bool.false_ne_true }
  | true =>
    exact { h with
      pieces := hpieces
      told := fun _ => by
        have htold := h.told hlistener
        simp only [Execution.told] at htold
        simp [Execution.told, htold, Record.append, Notice.told?]
      alone := by rw [if_pos rfl]; exact congrArg (CancelRequest.heard · text) h.alone
      uncancelled := by rw [if_pos rfl]; exact congrArg (CancelRequest.heard · text) h.uncancelled }

theorem say (h : Upon w b y x) (line : String) : Upon w b (y.say w line) (x.say w line) :=
  h.append _

theorem noteState (h : Upon w b y x) (t : Transition NodeRef) :
    Upon w b (y.noteState t) (x.noteState t) :=
  { h with
    transitions := by
      change x.record.transitions ++ [t] = _ ++ (y.record.transitions ++ [t])
      rw [h.transitions, List.append_assoc] }

theorem reach (h : Upon w b y x) (ref : NodeRef) (state : RunState) :
    Upon w b (y.reach ref state) (x.reach ref state) :=
  h.noteState _

theorem reachAll (h : Upon w b y x) (refs : List NodeRef) (state : RunState) :
    Upon w b (y.reachAll refs state) (x.reachAll refs state) := by
  induction refs generalizing x y with
  | nil => exact h
  | cons ref refs ih => exact ih (h.reach ref state)

theorem addProblem (h : Upon w b y x) (p : Problem) :
    Upon w b (y.addProblem p) (x.addProblem p) :=
  { h with
    problems := by
      change x.record.problems ++ [p] = _ ++ (y.record.problems ++ [p])
      rw [h.problems, List.append_assoc] }

theorem clearBusy (h : Upon w b y x) (ref : NodeRef) :
    Upon w b (y.clearBusy ref) (x.clearBusy ref) :=
  { h with }

theorem arrive (h : Upon w b y x) : Upon w b y.arrive x.arrive := by
  have hset : ∀ {z : Execution}, z.cancel = .impossible → z.arrive.cancel = .impossible := by
    intro z hz
    unfold Execution.arrive
    dsimp only
    rw [hz]
    split
    · rfl
    · rfl
  exact { h with alone := hset h.alone, uncancelled := hset h.uncancelled }

theorem sees (h : Upon w b y x) (lag : Nat) : y.sees lag = false ∧ x.sees lag = false := by
  unfold Execution.sees
  rw [h.alone, h.uncancelled]
  exact ⟨rfl, rfl⟩

/-! ### 1.1 Waiting for a process -/

theorem passOn (h : Upon w b y x) (s : Stream) (pending : Text.Utf8.Pending) (chars : List Char) :
    Upon w b (y.passOn w s pending chars).1 (x.passOn w s pending chars).1 ∧
      (x.passOn w s pending chars).2 = (y.passOn w s pending chars).2 := by
  unfold Execution.passOn
  split
  · exact ⟨h, rfl⟩
  · exact ⟨h.append _, rfl⟩

theorem pump (h : Upon w b y x) (s : Stream) (pieces : List Bytes) :
    Upon w b (y.pump w s pieces).1 (x.pump w s pieces).1 ∧
      (x.pump w s pieces).2 = (y.pump w s pieces).2 := by
  induction pieces generalizing x y s with
  | nil => exact ⟨h, rfl⟩
  | cons piece rest ih =>
    obtain ⟨hpassed, hstream⟩ := h.passOn s (Text.Utf8.feed s.pending piece).1
      (Text.Utf8.feed s.pending piece).2
    rw [Execution.pump, Execution.pump]
    dsimp only
    rw [hstream]
    exact ih hpassed _

theorem finishProcess (h : Upon w b y x) (s : Streams) (last : ProcessEnd) (lag lag' : Nat) :
    Upon w b (y.finishProcess w s last lag).1 (x.finishProcess w s last lag').1 ∧
      (x.finishProcess w s last lag').2 = (y.finishProcess w s last lag).2 := by
  obtain ⟨hstdout, hout⟩ := h.passOn s.stdout {} (Text.Utf8.finish s.stdout.pending)
  obtain ⟨hstderr, herr⟩ := hstdout.passOn s.stderr {} (Text.Utf8.finish s.stderr.pending)
  unfold Execution.finishProcess Execution.endStream
  simp only [hstdout.sees, hstderr.sees, hout, herr, Bool.false_eq_true, if_false]
  cases last with
  | exits code => exact ⟨hstderr, rfl⟩
  | hangs =>
    dsimp only
    rw [hstderr.alone, hstderr.uncancelled]
    exact ⟨hstderr, rfl⟩

/-- **Waiting for a process** ends alike, since nothing cancels it. -/
theorem communicate (h : Upon w b y x) (s : Streams) (last : ProcessEnd) (lag lag' : Nat)
    (events : List ProcessEvent) :
    Upon w b (y.communicate w s last lag events).1 (x.communicate w s last lag' events).1 ∧
      (x.communicate w s last lag' events).2 = (y.communicate w s last lag events).2 := by
  induction events generalizing x y s lag lag' with
  | nil =>
    unfold Execution.communicate
    rw [(h.sees _).1, (h.sees _).2]
    exact h.finishProcess s last _ _
  | cons event rest ih =>
    unfold Execution.communicate
    rw [(h.sees _).1, (h.sees _).2]
    simp only [Bool.false_eq_true, if_false]
    cases event with
    | stdout bytes =>
      obtain ⟨hpumped, hstream⟩ := h.pump s.stdout (reads (bytes.length + 1) bytes)
      dsimp only [pumpChunk]
      rw [hstream]
      exact ih hpumped _ _ _
    | stderr bytes =>
      obtain ⟨hpumped, hstream⟩ := h.pump s.stderr (reads (bytes.length + 1) bytes)
      dsimp only [pumpChunk]
      rw [hstream]
      exact ih hpumped _ _ _
    | cancel =>
      have hset : Upon w b { y with cancel := y.cancel.set } { x with cancel := x.cancel.set } :=
        { h with
          alone := congrArg CancelRequest.set h.alone
          uncancelled := congrArg CancelRequest.set h.uncancelled }
      exact ih hset _ _ _
    | gone => exact ih h _ _ _

/-! ### 1.2 Entries -/

theorem settle (h : Upon w b y x) (e : QueueEntry) (s : Streams) (code elapsed : Int) :
    Upon w b (y.settle w e s code elapsed) (x.settle w e s code elapsed) := by
  unfold Execution.settle
  split
  · exact (h.noteState _).reachAll _ _
  · exact ((h.say _).noteState _).reachAll _ _

theorem settleCancelled (h : Upon w b y x) (e : QueueEntry) (gone : Bool) (elapsed : Int) :
    Upon w b (y.settleCancelled e gone elapsed) (x.settleCancelled e gone elapsed) := by
  have hkilled : Upon w b (y.kill gone) (x.kill gone) := by
    rw [kill_eq, kill_eq]
    exact { h with }
  exact ((hkilled.note _ _).reach _ _).noteState _

theorem beginProcess (h : Upon w b y x) (e : QueueEntry) (spawn : Spawn) :
    Upon w b (y.beginProcess e spawn) (x.beginProcess e spawn) :=
  { h with
    told := fun hlistener => (told_note (x.setBusy e.ref) _).trans (h.told hlistener)
    processes := congrArg List.tail h.processes }

/-- **A process of an entry** is the same one, and ends alike. -/
theorem runProcess (h : Upon w b y x) (e : QueueEntry) (spawn : Spawn) :
    Upon w b (y.runProcess w e spawn).1 (x.runProcess w e spawn).1 ∧
      (x.runProcess w e spawn).2 = (y.runProcess w e spawn).2 := by
  have hbegun := h.beginProcess e spawn
  unfold Execution.runProcess
  dsimp only
  rw [h.processes]
  cases y.processes.headD .silent with
  | refused reason => exact ⟨hbegun, rfl⟩
  | runs events last elapsed =>
    obtain ⟨hwaited, hends⟩ :=
      hbegun.communicate {} last (y.lags.headD 0) (x.lags.headD 0) events
    dsimp only
    generalize (y.beginProcess e spawn).communicate w {} last (y.lags.headD 0) events = ry at *
    generalize (x.beginProcess e spawn).communicate w {} last (x.lags.headD 0) events = rx at *
    obtain ⟨y', s, outcome⟩ := ry
    obtain ⟨x', s', outcome'⟩ := rx
    obtain ⟨rfl, rfl⟩ := Prod.mk.inj hends
    cases outcome' with
    | exited code => exact ⟨hwaited.settle e s' code elapsed, rfl⟩
    | cancelled => exact ⟨hwaited.settleCancelled e s'.gone elapsed, rfl⟩
    | never => exact ⟨hwaited, rfl⟩

theorem noteNoToolchain (h : Upon w b y x) :
    Upon w b (y.noteNoToolchain w) (x.noteNoToolchain w) :=
  (h.note _ _).note _ _

theorem runEntry (h : Upon w b y x) (e : QueueEntry) :
    Upon w b (y.runEntry w e).1 (x.runEntry w e).1 ∧
      (x.runEntry w e).2 = (y.runEntry w e).2 := by
  have hlooked : Upon w b { y with lookups := y.lookups.tail } { x with lookups := x.lookups.tail } :=
    { h with lookups := congrArg List.tail h.lookups }
  unfold Execution.runEntry Execution.lookUp
  rw [h.lookups] at hlooked ⊢
  cases w.toolchain.resolve? (y.lookups.headD w.executables) with
  | none =>
    have hmissing := hlooked.noteNoToolchain.addProblem (.noToolchain w.toolchain.goBinary)
    exact ⟨(hmissing.say _).reach _ _, rfl⟩
  | some toolchain =>
    dsimp only
    cases w.libraries.find? (·.owns e.what) with
    | none => exact ⟨(hlooked.note _ _).reach _ _, rfl⟩
    | some library =>
      dsimp only
      cases library.runArguments e.what with
      | error fault => exact ⟨hlooked, rfl⟩
      | ok arguments => exact hlooked.runProcess e _

theorem breakOff (h : Upon w b y x) (e : QueueEntry) (reason : String) :
    Upon w b (y.breakOff e reason) (x.breakOff e reason) :=
  (h.note _ _).noteState _

theorem complete (h : Upon w b y x) (e : QueueEntry) :
    Upon w b (y.complete w e) (x.complete w e) :=
  (h.clearBusy e.ref).say _

theorem startEntry (h : Upon w b y x) (e : QueueEntry) :
    Upon w b (y.startEntry w false e).1 (x.startEntry w false e).1 ∧
      (x.startEntry w false e).2 = (y.startEntry w false e).2 := by
  obtain ⟨hrun, hends⟩ :=
    ((h.say s!"Running {e.kindName} {e.node.id}").reach e.ref .started).runEntry e
  unfold Execution.startEntry
  simp only [Bool.false_eq_true, if_false]
  generalize ((y.say w s!"Running {e.kindName} {e.node.id}").reach e.ref .started).runEntry w e
    = ry at *
  generalize ((x.say w s!"Running {e.kindName} {e.node.id}").reach e.ref .started).runEntry w e
    = rx at *
  obtain ⟨y', last⟩ := ry
  obtain ⟨x', last'⟩ := rx
  obtain rfl : last' = last := hends
  cases last' with
  | finished => exact ⟨hrun.complete e, rfl⟩
  | failed reason => exact ⟨(hrun.breakOff e reason).complete e, rfl⟩
  | abandoned => exact ⟨hrun.clearBusy e.ref, rfl⟩

/-- **Every entry** does the same, whatever came before it. -/
theorem entry (h : Upon w b y x) (e : QueueEntry) :
    Upon w b (y.entry w false e).1 (x.entry w false e).1 ∧
      (x.entry w false e).2 = (y.entry w false e).2 := by
  have harrived := h.arrive
  unfold Execution.entry
  dsimp only
  rw [harrived.alone, harrived.uncancelled]
  exact harrived.startEntry e

/-- **A queue** does the same upon any past, by induction on its entries. -/
theorem entries (h : Upon w b y x) (q : List QueueEntry) :
    Upon w b (y.entries w false q).1 (x.entries w false q).1 ∧
      (x.entries w false q).2 = (y.entries w false q).2 := by
  induction q generalizing x y with
  | nil => exact ⟨h, rfl⟩
  | cons e rest ih =>
    obtain ⟨hentry, hgoesOn⟩ := h.entry e
    unfold Execution.entries
    generalize y.entry w false e = ry at *
    generalize x.entry w false e = rx at *
    obtain ⟨y', goesOn⟩ := ry
    obtain ⟨x', goesOn'⟩ := rx
    obtain rfl : goesOn' = goesOn := hgoesOn
    cases goesOn' with
    | true => exact ih hentry
    | false => exact ⟨hentry, rfl⟩

end Upon

/-! ## 2. Queues one after the other -/

/-- A queue that is put together of two is worked off one after the other. -/
theorem entries_append (w : Workbench) (debug : Bool) (q q' : List QueueEntry) (x : Execution) :
    x.entries w debug (q ++ q') = match x.entries w debug q with
      | (x', true) => x'.entries w debug q'
      | (x', false) => (x', false) := by
  induction q generalizing x with
  | nil => rfl
  | cons e rest ih =>
    rw [List.cons_append, entries, entries]
    cases x.entry w debug e with
    | mk x' goesOn =>
      cases goesOn with
      | true => exact ih x'
      | false => rfl

end SuiteExplorer.Execution

namespace SuiteExplorer

/-- An entry whose node is shown otherwise. -/
def QueueEntry.mapNode (f : NodeInfo → NodeInfo) (e : QueueEntry) : QueueEntry :=
  { e with node := f e.node }

namespace Execution

/-- What is shown of a node does not matter when it is run. -/
theorem entry_mapNode_after (x : Execution) (w : Workbench) (ts : List (Transition NodeRef))
    (e : QueueEntry) :
    x.entry w false (e.mapNode (NodeInfo.after ts)) = x.entry w false e := rfl

theorem entries_map_mapNode_after (w : Workbench) (ts : List (Transition NodeRef))
    (q : List QueueEntry) (x : Execution) :
    x.entries w false (q.map (·.mapNode (NodeInfo.after ts))) = x.entries w false q := by
  induction q generalizing x with
  | nil => rfl
  | cons e rest ih =>
    rw [List.map_cons]
    unfold entries
    rw [entry_mapNode_after]
    cases x.entry w false e with
    | mk x' goesOn =>
      cases goesOn with
      | true => exact ih x'
      | false => rfl

end Execution

/-! ## 3. Queues of a catalog that is shown otherwise -/

namespace Subtree

theorem mapInfoIn_eq_map (f : NodeInfo → NodeInfo) (ts : List Subtree) :
    mapInfoIn f ts = ts.map (mapInfo f) := by
  induction ts with
  | nil => rfl
  | cons t ts ih => rw [mapInfoIn, ih, List.map_cons]

theorem ref_info_mapInfo {f : NodeInfo → NodeInfo} (hf : ∀ i, (f i).ref = i.ref) (t : Subtree) :
    (t.mapInfo f).info.ref = t.info.ref := by
  cases t with
  | node i cs => exact hf i

mutual

theorem find?_mapInfo {f : NodeInfo → NodeInfo} (hf : ∀ i, (f i).ref = i.ref) (ref : NodeRef) :
    ∀ t : Subtree, (t.mapInfo f).find? ref = (t.find? ref).map (mapInfo f)
  | .node i cs => by
    rw [mapInfo, find?, find?, hf i]
    split
    · rw [Option.map_some, mapInfo]
    · exact findIn?_mapInfoIn hf ref cs

theorem findIn?_mapInfoIn {f : NodeInfo → NodeInfo} (hf : ∀ i, (f i).ref = i.ref)
    (ref : NodeRef) :
    ∀ ts : List Subtree, findIn? ref (mapInfoIn f ts) = (findIn? ref ts).map (mapInfo f)
  | [] => rfl
  | t :: ts => by
    rw [mapInfoIn, findIn?, findIn?, find?_mapInfo hf ref t, findIn?_mapInfoIn hf ref ts]
    cases t.find? ref with
    | none => rfl
    | some found => rfl

end

end Subtree

theorem SuiteNode.subtree_mapInfo (f : NodeInfo → NodeInfo) (s : SuiteNode) :
    (s.mapInfo f).subtree = s.subtree.mapInfo f := by
  rw [subtree, subtree, Subtree.mapInfo, Subtree.mapInfoIn_eq_map, mapInfo, List.map_map,
    List.map_map]
  rfl

theorem FileNode.subtree_mapInfo (f : NodeInfo → NodeInfo) (n : FileNode) :
    (n.mapInfo f).subtree = n.subtree.mapInfo f := by
  rw [subtree, subtree, Subtree.mapInfo, Subtree.mapInfoIn_eq_map, mapInfo, List.map_map,
    List.map_map]
  congr 1
  exact List.map_congr_left fun s _ => s.subtree_mapInfo f

theorem PackageNode.subtree_mapInfo (f : NodeInfo → NodeInfo) (p : PackageNode) :
    (p.mapInfo f).subtree = p.subtree.mapInfo f := by
  rw [subtree, subtree, Subtree.mapInfo, Subtree.mapInfoIn_eq_map, mapInfo, List.map_map,
    List.map_map]
  congr 1
  exact List.map_congr_left fun n _ => n.subtree_mapInfo f

namespace Queue

mutual

theorem below_mapInfo {f : NodeInfo → NodeInfo} (hf : ∀ i, (f i).ref = i.ref) (μ : Reading)
    (excluded : List NodeRef) :
    ∀ t : Subtree, below μ excluded (t.mapInfo f) = (below μ excluded t).map (·.mapNode f)
  | .node i cs => by
    have hchildren : (Subtree.mapInfoIn f cs).map (·.info.ref) = cs.map (·.info.ref) := by
      rw [Subtree.mapInfoIn_eq_map, List.map_map]
      exact List.map_congr_left fun t _ => Subtree.ref_info_mapInfo hf t
    rw [Subtree.mapInfo, below, below, hf i, hchildren]
    split
    · rfl
    · cases μ i.ref with
      | none => rfl
      | some meaning =>
        cases meaning with
        | package => exact belowAll_mapInfoIn hf μ excluded cs
        | file => exact belowAll_mapInfoIn hf μ excluded cs
        | runnable what => rfl

theorem belowAll_mapInfoIn {f : NodeInfo → NodeInfo} (hf : ∀ i, (f i).ref = i.ref) (μ : Reading)
    (excluded : List NodeRef) :
    ∀ ts : List Subtree,
      belowAll μ excluded (Subtree.mapInfoIn f ts) = (belowAll μ excluded ts).map (·.mapNode f)
  | [] => rfl
  | t :: ts => by
    rw [Subtree.mapInfoIn, belowAll, belowAll, below_mapInfo hf μ excluded t,
      belowAll_mapInfoIn hf μ excluded ts, List.map_append]

end

end Queue

namespace Catalog

theorem trees_mapInfo (c : Catalog) (f : NodeInfo → NodeInfo) :
    (c.mapInfo f).trees = Subtree.mapInfoIn f c.trees := by
  rw [trees, trees, Subtree.mapInfoIn_eq_map, mapInfo, List.map_map, List.map_map]
  exact List.map_congr_left fun p _ => p.subtree_mapInfo f

theorem subtree?_mapInfo {f : NodeInfo → NodeInfo} (hf : ∀ i, (f i).ref = i.ref) (c : Catalog)
    (ref : NodeRef) : (c.mapInfo f).subtree? ref = (c.subtree? ref).map (·.mapInfo f) := by
  have hdeparted : (c.mapInfo f).books.departed.map (·.tree) =
      Subtree.mapInfoIn f (c.books.departed.map (·.tree)) := by
    rw [Subtree.mapInfoIn_eq_map, mapInfo, List.map_map, List.map_map]
    rfl
  rw [subtree?, subtree?, trees_mapInfo, hdeparted, Subtree.findIn?_mapInfoIn hf,
    Subtree.findIn?_mapInfoIn hf]
  cases Subtree.findIn? ref c.trees with
  | none => rfl
  | some t => rfl

/-- The entries of a request are the same, and show what their nodes show. -/
theorem queue_mapInfo {f : NodeInfo → NodeInfo} (hf : ∀ i, (f i).ref = i.ref) (c : Catalog)
    (r : RunRequest) : (c.mapInfo f).queue r = (c.queue r).map (·.mapNode f) := by
  have hmeaning : (c.mapInfo f).meaning? = c.meaning? := rfl
  have hselected : (c.mapInfo f).selectedTrees r = Subtree.mapInfoIn f (c.selectedTrees r) := by
    unfold selectedTrees
    cases r.selected with
    | none => exact c.trees_mapInfo f
    | some refs =>
      dsimp only
      rw [Subtree.mapInfoIn_eq_map, List.map_filterMap]
      exact List.filterMap_congr fun ref _ => subtree?_mapInfo hf c ref
  rw [queue, queue, hmeaning, hselected, Queue.belowAll_mapInfoIn hf]

/-- A request selects the same entries after a run, as they are shown then. -/
theorem queue_applyTransitions (c : Catalog) (ts : List (Transition NodeRef)) (r : RunRequest) :
    (c.applyTransitions ts).queue r = (c.queue r).map (·.mapNode (NodeInfo.after ts)) := by
  have href : ∀ i : NodeInfo, (i.after ts).ref = i.ref := fun _ => rfl
  rw [applyTransitions_eq, queue_mapInfo href]

/-- Nodes that are selected after others are queued after them. -/
theorem queue_selected_append (c : Catalog) (refs refs' : List NodeRef) :
    c.queue { selected := some (refs ++ refs') } =
      c.queue { selected := some refs } ++ c.queue { selected := some refs' } := by
  have hbelow : ∀ ts us : List Subtree, Queue.belowAll c.meaning? [] (ts ++ us) =
      Queue.belowAll c.meaning? [] ts ++ Queue.belowAll c.meaning? [] us := by
    intro ts us
    induction ts with
    | nil => rfl
    | cons t ts ih =>
      rw [List.cons_append, Queue.belowAll, Queue.belowAll, ih, List.append_assoc]
  have hselected : c.selectedTrees { selected := some (refs ++ refs') } =
      c.selectedTrees { selected := some refs } ++ c.selectedTrees { selected := some refs' } :=
    List.filterMap_append
  rw [queue, hselected, hbelow]
  rfl

/-- The request for some entries of a queue, one by one. -/
def requestFor (q : List QueueEntry) : RunRequest := { selected := some (q.map (·.ref)) }

/-- Any entries of a queue are the queue of a request of their own. -/
theorem Sound.queue_requestFor {c : Catalog} (h : c.Sound) {r : RunRequest} {q : List QueueEntry}
    (hq : q ⊆ c.queue r) : c.queue (requestFor q) = q := by
  induction q with
  | nil => rfl
  | cons e rest ih =>
    obtain ⟨t, ht, hmade⟩ := h.part_of_queue (hq List.mem_cons_self)
    have href : t.info.ref = e.ref := by rw [QueueEntry.ref, hmade.node]
    have hfound : c.subtree? e.ref = some t := href ▸ h.subtree?_of_part ht
    have hbelow : Queue.below c.meaning? [] t = [e] := by
      cases t with
      | node i cs =>
        have hmeaning : c.meaning? i.ref = some (.runnable e.what) :=
          (congrArg c.meaning? href).trans hmade.meaning
        have hchildren : cs.map (·.info.ref) = e.children := hmade.children.symm
        have hnode : i = e.node := hmade.node.symm
        rw [Queue.below, if_neg (by simp), hmeaning, hchildren, hnode]
    have hrest := ih fun e' he' => hq (List.mem_cons_of_mem _ he')
    have hcons : c.selectedTrees (requestFor (e :: rest)) = t :: c.selectedTrees (requestFor rest) :=
      List.filterMap_cons_some hfound
    rw [queue, hcons, Queue.belowAll]
    exact congrArg₂ (· ++ ·) hbelow hrest

end Catalog

/-! ## 4. Runs -/

namespace Execution

/-- What is found and spawned from here on, and nothing before. -/
def alone (x : Execution) : Execution := { lookups := x.lookups, processes := x.processes }

/-- The second goes on where the first one stands: the same is found and spawned from here
    on, and nobody can cancel. -/
structure GoesOnAs (x x' : Execution) : Prop where
  lookups : x'.lookups = x.lookups
  processes : x'.processes = x.processes
  uncancelled : x'.cancel = .impossible

theorem GoesOnAs.alone_eq {x x' : Execution} (h : x.GoesOnAs x') : x'.alone = x.alone := by
  rw [alone, alone, h.lookups, h.processes]

theorem upon_alone {x : Execution} (h : x.cancel = .impossible) (w : Workbench) :
    Upon w x x.alone x where
  transitions := (List.append_nil _).symm
  pieces := (List.append_nil _).symm
  problems := (List.append_nil _).symm
  told _ := (List.append_nil _).symm
  lookups := rfl
  processes := rfl
  alone := rfl
  uncancelled := h

end Execution

/-- What a run has recorded since all its entries were enqueued. -/
def RunResult.worked (result : RunResult) : List (Transition NodeRef) :=
  result.report.record.transitions.drop result.report.entries.length

theorem RunResult.worked_eq {result : RunResult} {ts : List (Transition NodeRef)}
    (h : result.report.record.transitions =
      Transition.each result.report.entries .enqueued ++ ts) : result.worked = ts := by
  have hlength : result.report.entries.length =
      (Transition.each result.report.entries .enqueued).length := (List.length_map _).symm
  rw [worked, h, hlength, List.drop_left]

/-- A run has come to what its queue comes to by itself, which is `y`. -/
structure RunResult.ComesTo (result : RunResult) (w : Workbench) (c : Catalog) (x : Execution)
    (y : Execution × Bool) : Prop where
  accepted : result.report.rejected = none
  transitions : result.report.record.transitions =
    Transition.each result.report.entries .enqueued ++ result.worked
  worked : result.worked = y.1.record.transitions
  pieces : result.report.record.pieces = y.1.record.pieces
  problems : result.report.record.problems = y.1.record.problems
  told : w.hasListener = true → result.execution.told = x.told ++ result.report.record.pieces
  goesOn : y.1.GoesOnAs result.execution
  completed : result.completed = y.2
  catalog : result.catalog = c.applyTransitions result.report.record.transitions

namespace Catalog

/-- When every entry is enqueued, nothing else is recorded. -/
theorem record_begun (c : Catalog) (w : Workbench) (r : RunRequest) (x : Execution) :
    (c.begun w r x).record =
      { debug := r.debug, transitions := Transition.each ((c.queue r).map (·.ref)) .enqueued } := by
  have hreached : ∀ (refs : List NodeRef) (x : Execution), (x.reachAll refs .enqueued).record =
      { x.record with transitions := (x.reachAll refs .enqueued).record.transitions } := by
    intro refs
    induction refs with
    | nil => exact fun _ => rfl
    | cons ref refs ih => exact fun x => ih (x.reach ref .enqueued)
  have htransitions := transitions_begun c w r x
  rw [begun, Execution.enqueue] at htransitions ⊢
  rw [hreached, htransitions]
  rfl

theorem told_begun (c : Catalog) (w : Workbench) (r : RunRequest) (x : Execution) :
    (c.begun w r x).told = x.told := by
  rw [begun, Execution.enqueue, Execution.reachAll_eq]
  exact Execution.told_note { x with record := { debug := r.debug } } _

/-- **A run** comes to what its queue comes to by itself. -/
theorem run_comesTo {c : Catalog} {r : RunRequest} {x : Execution} (hdebug : r.debug = false)
    (hqueue : c.queue r ≠ []) (hcancel : x.cancel = .impossible) (w : Workbench) :
    (c.run w r x).report.entries = (c.queue r).map (·.ref) ∧
      (c.run w r x).ComesTo w c x (x.alone.entries w false (c.queue r)) := by
  have hrejection : Queue.rejection? r.debug (c.queue r) = none := by
    simp [Queue.rejection?, hdebug, hqueue]
  have haccepted := accepted_of_rejection? hrejection w x
  obtain ⟨hreport, -, hcompleted⟩ := run_of_accepted haccepted
  have hexecution := execution_of_accepted haccepted
  obtain ⟨record, notices, hbegun⟩ := c.begun_eq w r x
  have halone : (c.begun w r x).alone = x.alone := by rw [hbegun]; rfl
  have hupon : Execution.Upon w (c.begun w r x) x.alone (c.begun w r x) :=
    halone ▸ Execution.upon_alone (by rw [hbegun]; exact hcancel) w
  obtain ⟨hentries, hends⟩ := hupon.entries (c.queue r)
  rw [← hdebug] at hentries hends ⊢
  have hrecord := record_begun c w r x
  have htransitions : (c.run w r x).report.record.transitions =
      Transition.each (c.run w r x).report.entries .enqueued ++
        (x.alone.entries w r.debug (c.queue r)).1.record.transitions := by
    rw [hreport, hentries.transitions, hrecord]
  have hworked := RunResult.worked_eq htransitions
  refine ⟨by rw [hreport], ?_⟩
  constructor
  · exact haccepted
  · rw [htransitions, hworked]
  · exact hworked
  · rw [hreport, hentries.pieces, hrecord]
    rfl
  · rw [hreport, hentries.problems, hrecord]
    rfl
  · intro hlistener
    rw [hexecution, Execution.told_note, hentries.told hlistener, told_begun, hreport,
      hentries.pieces, hrecord]
    rfl
  · rw [hexecution]
    exact ⟨hentries.lookups, hentries.processes, hentries.uncancelled⟩
  · rw [hcompleted, hends]
  · unfold run
    dsimp only
    rw [hrejection]

end Catalog

namespace Transition

/-- Nodes that are reached later on may be enqueued early or late. -/
theorem lastState?_of_enqueued {refs refs' : List NodeRef} {ts us : List (Transition NodeRef)}
    (hts : ∀ n ∈ refs, ∃ t ∈ ts, t.node = n) (hus : ∀ n ∈ refs', ∃ t ∈ us, t.node = n)
    (n : NodeRef) :
    lastState? (each (refs ++ refs') .enqueued ++ (ts ++ us)) n =
      lastState? ((each refs .enqueued ++ ts) ++ (each refs' .enqueued ++ us)) n := by
  have hnever : ∀ {refs : List NodeRef} {ts : List (Transition NodeRef)},
      (∀ n ∈ refs, ∃ t ∈ ts, t.node = n) → lastState? ts n = none →
        lastState? (each refs .enqueued) n = none := by
    intro refs ts hreached hnone
    rw [lastState?_eq_none] at hnone ⊢
    intro t ht
    obtain ⟨m, hm, rfl⟩ := mem_each.mp ht
    obtain ⟨u, hu, rfl⟩ := hreached m hm
    exact hnone u hu
  simp only [lastState?_append]
  cases hlast : lastState? us n with
  | some s => simp only [Option.some_or]
  | none =>
    have hlate := hnever hus hlast
    cases hlast' : lastState? ts n with
    | some s => simp only [hlate, Option.none_or, Option.some_or]
    | none =>
      have hearly := hnever hts hlast'
      have hboth : lastState? (each (refs ++ refs') .enqueued) n = none := by
        have heach : each (refs ++ refs') .enqueued = each refs .enqueued ++ each refs' .enqueued :=
          List.map_append
        rw [heach, lastState?_append, hlate, hearly]
        rfl
      simp only [hlate, hearly, hboth, Option.none_or]

end Transition

namespace Catalog

/-- A run that does not break off reaches each of its entries. -/
theorem exists_worked {c : Catalog} {w : Workbench} {r : RunRequest} {x : Execution}
    (haccepted : (c.run w r x).report.rejected = none)
    (hcompleted : (c.run w r x).completed = true) :
    ∀ n ∈ (c.run w r x).report.entries, ∃ t ∈ (c.run w r x).worked, t.node = n := by
  obtain ⟨blocks, hblocks, htransitions, -⟩ := run_transitions haccepted hcompleted
  obtain ⟨hreport, -, -⟩ := run_of_accepted haccepted
  have hentries : (c.run w r x).report.entries = (c.queue r).map (·.ref) := by rw [hreport]
  rw [← hentries] at htransitions
  rw [RunResult.worked_eq htransitions, hentries]
  intro n hn
  obtain ⟨e, he, rfl⟩ := List.mem_map.mp hn
  have harrivals : (c.arrivals w r x).map (·.entry) = c.queue r :=
    Execution.map_entry_arrivals w r.debug _ _
  obtain ⟨a, ha, rfl⟩ := List.mem_map.mp (harrivals.symm ▸ he)
  exact touches_of_blocks hblocks ha

end Catalog

/-- One run has come to what two others have, one after the other. -/
structure RunResult.Joins (whole first second : RunResult) : Prop where
  entries : whole.report.entries = first.report.entries ++ second.report.entries
  output : whole.report.record.output = first.report.record.output ++ second.report.record.output
  worked : whole.worked = first.worked ++ second.worked
  problems : whole.report.record.problems =
    first.report.record.problems ++ second.report.record.problems
  completed : whole.completed = second.completed

/-- **The second run** does by itself what the whole run does upon the first. -/
theorem RunResult.ComesTo.joins {whole first second : RunResult} {w : Workbench}
    {c c₁ c₂ : Catalog} {x x₁ x₂ y : Execution} {q : List QueueEntry}
    (hwhole : whole.ComesTo w c x (y.entries w false q)) (hfirst : first.ComesTo w c₁ x₁ (y, true))
    (hsecond : second.ComesTo w c₂ x₂ (y.alone.entries w false q)) (hy : y.cancel = .impossible)
    (hentries : whole.report.entries = first.report.entries ++ second.report.entries) :
    whole.Joins first second := by
  obtain ⟨hupon, hends⟩ := (Execution.upon_alone hy w).entries q
  refine ⟨hentries, ?_, ?_, ?_, ?_⟩
  · rw [Record.output, hwhole.pieces, hupon.pieces, String.join_append, ← hfirst.pieces,
      ← hsecond.pieces]
    rfl
  · rw [hwhole.worked, hupon.transitions, hfirst.worked, hsecond.worked]
  · rw [hwhole.problems, hupon.problems, hfirst.problems, hsecond.problems]
  · rw [hwhole.completed, hends, hsecond.completed]

/-- Both ways show every node in the same state in the end, if all entries are reached. -/
theorem RunResult.ComesTo.catalog_eq {whole first second : RunResult} {w : Workbench} {c : Catalog}
    {x x₁ x₂ : Execution} {y y₁ y₂ : Execution × Bool} (hwhole : whole.ComesTo w c x y)
    (hfirst : first.ComesTo w c x₁ y₁) (hsecond : second.ComesTo w first.catalog x₂ y₂)
    (hjoins : whole.Joins first second)
    (hreached : ∀ n ∈ first.report.entries, ∃ t ∈ first.worked, t.node = n)
    (hreached' : ∀ n ∈ second.report.entries, ∃ t ∈ second.worked, t.node = n) :
    whole.catalog = second.catalog := by
  have hlast : NodeInfo.after whole.report.record.transitions =
      NodeInfo.after
        (first.report.record.transitions ++ second.report.record.transitions) := by
    funext i
    rw [NodeInfo.after, NodeInfo.after, hwhole.transitions, hfirst.transitions,
      hsecond.transitions, hjoins.entries, hjoins.worked,
      Transition.lastState?_of_enqueued hreached hreached']
  calc whole.catalog
      = c.mapInfo (NodeInfo.after whole.report.record.transitions) := by
        rw [hwhole.catalog, Catalog.applyTransitions_eq]
    _ = c.applyTransitions
          (first.report.record.transitions ++ second.report.record.transitions) := by
        rw [hlast, Catalog.applyTransitions_eq]
    _ = second.catalog := by
        rw [Catalog.applyTransitions_append, hsecond.catalog, hfirst.catalog]

/-- A run records first that all its entries are enqueued. -/
def RunResult.Enqueues (result : RunResult) : Prop :=
  result.report.record.transitions =
    Transition.each result.report.entries .enqueued ++ result.worked

/-- A request to run, not to debug, and its queue. -/
structure RunRequest.Runs (r : RunRequest) (c : Catalog) (q : List QueueEntry) : Prop where
  debug : r.debug = false
  queue : c.queue r = q

namespace Catalog

/-- **Entries are independent.**  Take any catalog that operations lead to, and any request
    to run a queue that is put together of two, while nobody can cancel.  Both have requests
    of their own.  Run the first, and then the second in the catalog and the world that the
    first has left.  If the first comes to its end, whatever fails in it, the whole run has
    the output of the first and then that of the second, and so it is with what is recorded
    once all entries are enqueued, and with the problems; it comes to its end if the second
    does, and then the nodes are left as the second leaves them.  Who listens to the whole
    run is told its output piece by piece. -/
theorem run_of_joined_queue (settings : CatalogSettings) (listeners : List Listener)
    (acts : List CatalogAct) (w : Workbench) (r : RunRequest) (x : Execution)
    (q q' : List QueueEntry) :
    let c := (fresh settings listeners).performAll acts
    let whole := c.run w r x
    r.Runs c (q ++ q') → q ≠ [] → q' ≠ [] → x.cancel = .impossible →
      (∃ r₁ r₂ : RunRequest, r₁.Runs c q ∧ r₂.Runs c q') ∧
      (w.hasListener = true → whole.execution.told = x.told ++ whole.report.record.pieces) ∧
      ∀ (r₁ r₂ : RunRequest) (x₁ x₂ : Execution), r₁.Runs c q → r₂.Runs c q' → x.GoesOnAs x₁ →
        let first := c.run w r₁ x₁
        first.execution.GoesOnAs x₂ →
        let second := first.catalog.run w r₂ x₂
        (whole.Enqueues ∧ first.Enqueues ∧ second.Enqueues) ∧
          (first.completed = false → whole.completed = false) ∧
          (first.completed = true → whole.Joins first second ∧
            (second.completed = true → whole.catalog = second.catalog)) := by
  intro c whole hr hq hq' hcancel
  have hsound : c.Sound := sound_performAll settings listeners acts
  have hnonempty : c.queue r ≠ [] := by
    rw [hr.queue]
    exact List.append_ne_nil_of_left_ne_nil hq q'
  obtain ⟨hentries, hwhole⟩ := run_comesTo hr.debug hnonempty hcancel w
  rw [hr.queue] at hentries
  rw [hr.queue, Execution.entries_append] at hwhole
  refine ⟨⟨requestFor q, requestFor q', ⟨rfl, ?_⟩, ⟨rfl, ?_⟩⟩, hwhole.told, ?_⟩
  · apply hsound.queue_requestFor (r := r)
    rw [hr.queue]
    exact List.subset_append_left q q'
  · apply hsound.queue_requestFor (r := r)
    rw [hr.queue]
    exact List.subset_append_right q q'
  · intro r₁ r₂ x₁ x₂ hr₁ hr₂ hx₁ first hx₂ second
    have hq₁ : c.queue r₁ ≠ [] := hr₁.queue.symm ▸ hq
    obtain ⟨hentries₁, hfirst⟩ := run_comesTo hr₁.debug hq₁ hx₁.uncancelled w
    rw [hr₁.queue] at hentries₁
    rw [hr₁.queue, hx₁.alone_eq] at hfirst
    have hqueue₂ : first.catalog.queue r₂ =
        q'.map (·.mapNode (NodeInfo.after first.report.record.transitions)) := by
      rw [hfirst.catalog, queue_applyTransitions, hr₂.queue]
    have hq₂ : first.catalog.queue r₂ ≠ [] := by
      rw [hqueue₂]
      exact fun hnil => hq' (List.map_eq_nil_iff.mp hnil)
    obtain ⟨hentries₂, hsecond⟩ := run_comesTo hr₂.debug hq₂ hx₂.uncancelled w
    rw [hqueue₂, List.map_map] at hentries₂
    rw [hqueue₂, Execution.entries_map_mapNode_after, hx₂.alone_eq, hfirst.goesOn.alone_eq]
      at hsecond
    refine ⟨⟨hwhole.transitions, hfirst.transitions, hsecond.transitions⟩, ?_⟩
    have hy := ((Execution.upon_alone (x := x.alone) rfl w).entries q).1.uncancelled
    cases hworkedOff : x.alone.entries w false q with
    | mk y goesOn =>
      rw [hworkedOff] at hwhole hfirst hsecond hy
      cases goesOn with
      | false =>
        refine ⟨fun _ => hwhole.completed, fun hcompleted => ?_⟩
        rw [hfirst.completed] at hcompleted
        cases hcompleted
      | true =>
        have hjoined : whole.report.entries = first.report.entries ++ second.report.entries := by
          rw [hentries, hentries₁, hentries₂, List.map_append]
          rfl
        have hjoins := hwhole.joins hfirst hsecond hy hjoined
        refine ⟨fun hcompleted => ?_, fun hcompleted => ⟨hjoins, fun hcompleted' => ?_⟩⟩
        · rw [hfirst.completed] at hcompleted
          cases hcompleted
        · apply hwhole.catalog_eq hfirst hsecond hjoins
          · exact exists_worked hfirst.accepted hcompleted
          · exact exists_worked hsecond.accepted hcompleted'

/-! ### 4.1 Three entries

No toolchain is found for the first, the second cannot be started, and the third fails. -/

def joinedWorld : Execution where
  lookups := [[]]
  processes := [.refused "busy", .runs [.stdout "boom".toUTF8.toList] (.exits 1)]

theorem run_of_joined_queue_pair :
    let c := (fresh pairSettings []).performAll pairActs
    let r₁ : RunRequest := { selected := some [3, 2] }
    let r₂ : RunRequest := { selected := some [4] }
    let r : RunRequest := { selected := some [3, 2, 4] }
    let first := c.run pairBench r₁ joinedWorld
    let second := first.catalog.run pairBench r₂ first.execution
    let whole := c.run pairBench r joinedWorld
    whole.Joins first second ∧ whole.catalog = second.catalog ∧
      whole.execution.told = whole.report.record.pieces ∧
      first.worked.map (fun t => (t.node, t.state)) =
        [(3, .started), (3, .skipped), (2, .started), (2, .errored)] ∧
      second.worked.map (fun t => (t.node, t.state)) = [(4, .started), (4, .failed)] := by
  intro c r₁ r₂ r first second whole
  have hqueue : c.queue r = c.queue r₁ ++ c.queue r₂ := queue_selected_append c [3, 2] [4]
  obtain ⟨hq, hq', hcancel, hcompleted, hcompleted', hworked⟩ :
      c.queue r₁ ≠ [] ∧ c.queue r₂ ≠ [] ∧ first.execution.cancel = .impossible ∧
        first.completed = true ∧ second.completed = true ∧
        first.worked.map (fun t => (t.node, t.state)) =
          [(3, .started), (3, .skipped), (2, .started), (2, .errored)] ∧
        second.worked.map (fun t => (t.node, t.state)) = [(4, .started), (4, .failed)] := by
    decide +kernel
  obtain ⟨-, htold, hjoined⟩ := run_of_joined_queue pairSettings [] pairActs pairBench r joinedWorld
    (c.queue r₁) (c.queue r₂) ⟨rfl, hqueue⟩ hq hq' rfl
  obtain ⟨-, -, hboth⟩ := hjoined r₁ r₂ joinedWorld first.execution ⟨rfl, rfl⟩ ⟨rfl, rfl⟩
    ⟨rfl, rfl, rfl⟩ ⟨rfl, rfl, hcancel⟩
  obtain ⟨hjoins, hcatalog⟩ := hboth hcompleted
  exact ⟨hjoins, hcatalog hcompleted', htold rfl, hworked⟩

end Catalog
end SuiteExplorer
