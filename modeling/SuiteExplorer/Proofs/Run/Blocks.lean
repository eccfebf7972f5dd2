/-
  SuiteExplorer/Proofs/Run/Blocks.lean
  ====================================
  **A run is a row of blocks, one for each entry of its queue.**

  First every entry is enqueued.  Then each of them leaves one block in the record:
  it is skipped at once if the run is cancelled when it is reached, and else it is
  started and comes to one ending.  The blocks follow one another without a gap,
  whatever the entries have in common and however each of them ends, so every
  entry is left in a final state and nobody is left at work on it (`run_blocks`).
-/
import Mathlib.Data.List.Forall2
import SuiteExplorer.Proofs.Run.Queue
import SuiteExplorer.Proofs.Run.Recording

namespace SuiteExplorer

/-! ## 1. Last states -/

namespace Transition

variable {ts us : List (Transition NodeRef)} {n : NodeRef} {s : RunState}

theorem mem_each {t : Transition NodeRef} {refs : List NodeRef} {state : RunState} :
    t ∈ each refs state ↔ ∃ n ∈ refs, t = ⟨n, state, none, none⟩ := by
  simp only [each, List.mem_map, eq_comm]

/-- The state in which transitions leave a node. -/
def lastState? (ts : List (Transition NodeRef)) (n : NodeRef) : Option RunState :=
  ((ts.filter (·.node = n)).map (·.state)).getLast?

theorem lastState?_append (ts us : List (Transition NodeRef)) (n : NodeRef) :
    lastState? (ts ++ us) n = (lastState? us n).or (lastState? ts n) := by
  simp only [lastState?, List.filter_append, List.map_append, List.getLast?_append]

theorem mem_of_lastState? (h : lastState? ts n = some s) : ∃ t ∈ ts, t.node = n ∧ t.state = s := by
  obtain ⟨t, ht, rfl⟩ := List.mem_map.mp (List.mem_of_getLast? h)
  obtain ⟨hmem, hnode⟩ := List.mem_filter.mp ht
  exact ⟨t, hmem, by simpa using hnode, rfl⟩

theorem lastState?_eq_none : lastState? ts n = none ↔ ∀ t ∈ ts, t.node ≠ n := by
  simp [lastState?]

end Transition

open Transition

/-! ## 2. The block of an entry -/

/-- An entry of a queue, when it is reached. -/
structure Arrival where
  entry : QueueEntry
  /-- the run is cancelled by then -/
  cancelled : Bool

/-- What an entry may leave in the record. -/
inductive Block : Arrival → List (Transition NodeRef) → Prop where
  | skipped (e : QueueEntry) : Block ⟨e, true⟩ [⟨e.ref, .skipped, none, none⟩]
  | worked (e : QueueEntry) {ending : List (Transition NodeRef)} (h : Ending e ending) :
    Block ⟨e, false⟩ (⟨e.ref, .started, none, none⟩ :: ending)

/-- An ending is what the entry itself comes to, and after that one state for nodes
    below it, which is never a failure. -/
structure Ending.Split (e : QueueEntry) (ending own : List (Transition NodeRef))
    (below : List NodeRef) (s : RunState) : Prop where
  eq : ending = own ++ Transition.each below s
  final : ∀ t ∈ own, t.node = e.ref ∧ t.state.isFinal = true
  touches : own ≠ []
  children : below ⊆ e.children
  inStep : s = .passed ∨ s = .skipped
  bad : ∀ t ∈ own, t.state.isBad = true → ∃ s, lastState? own e.ref = some s ∧ s.isBad = true

theorem Ending.split {e : QueueEntry} {ending : List (Transition NodeRef)} (h : Ending e ending) :
    ∃ own below s, Ending.Split e ending own below s := by
  cases h with
  | passed duration =>
    refine ⟨[⟨e.ref, .passed, none, duration⟩], e.children, .passed, rfl, ?_, by simp,
      fun _ => id, Or.inl rfl, ?_⟩
    · simp [RunState.isFinal]
    · simp [RunState.isBad]
  | failed message duration =>
    refine ⟨[⟨e.ref, .failed, message, duration⟩], e.children, .skipped, rfl, ?_, by simp,
      fun _ => id, Or.inr rfl, ?_⟩
    · simp [RunState.isFinal]
    · simp [lastState?, RunState.isBad]
  | skipped =>
    refine ⟨[⟨e.ref, .skipped, none, none⟩], [], .skipped, rfl, ?_, by simp, by simp,
      Or.inr rfl, ?_⟩
    · simp [RunState.isFinal]
    · simp [RunState.isBad]
  | errored reason =>
    refine ⟨[⟨e.ref, .errored, some reason, none⟩], [], .skipped, rfl, ?_, by simp, by simp,
      Or.inr rfl, ?_⟩
    · simp [RunState.isFinal]
    · simp [lastState?, RunState.isBad]
  | cancelled duration =>
    refine ⟨[⟨e.ref, .skipped, none, none⟩,
      ⟨e.ref, .errored, some Execution.cancelledMessage, duration⟩], [], .skipped, rfl, ?_,
      by simp, by simp, Or.inr rfl, ?_⟩
    · simp [RunState.isFinal]
    · simp [lastState?, RunState.isBad]

section Block

variable {e : QueueEntry} {a : Arrival} {ending block : List (Transition NodeRef)}
  {t : Transition NodeRef}

theorem Ending.isFinal (h : Ending e ending) (ht : t ∈ ending) : t.state.isFinal = true := by
  obtain ⟨own, below, s, hsplit⟩ := h.split
  rw [hsplit.eq] at ht
  rcases List.mem_append.mp ht with ht | ht
  · exact (hsplit.final t ht).2
  · obtain ⟨n, -, rfl⟩ := mem_each.mp ht
    rcases hsplit.inStep with rfl | rfl
    · rfl
    · rfl

theorem Ending.touches_entry (h : Ending e ending) : ∃ t ∈ ending, t.node = e.ref := by
  obtain ⟨own, below, s, hsplit⟩ := h.split
  obtain ⟨t, ht⟩ := List.exists_mem_of_ne_nil own hsplit.touches
  rw [hsplit.eq]
  exact ⟨t, List.mem_append_left _ ht, (hsplit.final t ht).1⟩

theorem Block.touches_entry (h : Block a block) : ∃ t ∈ block, t.node = a.entry.ref := by
  cases h <;> exact ⟨_, List.mem_cons_self, rfl⟩

/-- A block touches its entry and the nodes below it. -/
theorem Block.node_mem (h : Block a block) (ht : t ∈ block) :
    t.node = a.entry.ref ∨ t.node ∈ a.entry.children := by
  cases h with
  | skipped e =>
    rw [List.mem_singleton.mp ht]
    exact Or.inl rfl
  | worked e hending =>
    obtain ⟨own, below, s, hsplit⟩ := hending.split
    rw [hsplit.eq] at ht
    rcases List.mem_cons.mp ht with rfl | ht
    · exact Or.inl rfl
    · rcases List.mem_append.mp ht with ht | ht
      · exact Or.inl (hsplit.final t ht).1
      · obtain ⟨n, hn, rfl⟩ := mem_each.mp ht
        exact Or.inr (hsplit.children hn)

theorem Block.node_of_started (h : Block a block) (ht : t ∈ block) (hstate : t.state = .started) :
    t.node = a.entry.ref := by
  cases h with
  | skipped e =>
    rw [List.mem_singleton.mp ht] at hstate
    cases hstate
  | worked e hending =>
    rcases List.mem_cons.mp ht with rfl | ht
    · rfl
    · have hfinal := hending.isFinal ht
      rw [hstate] at hfinal
      cases hfinal

/-- A block leaves no node in a state that is not final. -/
theorem Block.isFinal (h : Block a block) {n : NodeRef} {s : RunState}
    (hs : lastState? block n = some s) : s.isFinal = true := by
  cases h with
  | skipped e =>
    obtain ⟨t, ht, -, rfl⟩ := mem_of_lastState? hs
    rw [List.mem_singleton.mp ht]
    rfl
  | @worked e ending hending =>
    rw [← List.singleton_append, lastState?_append] at hs
    cases hlast : lastState? ending n with
    | some s' =>
      obtain ⟨t, ht, -, rfl⟩ := mem_of_lastState? hlast
      rw [hlast, Option.some_or] at hs
      rw [← Option.some.inj hs]
      exact hending.isFinal ht
    | none =>
      -- the ending reaches the entry, so the start does not come last
      obtain ⟨t, ht, hnode⟩ := hending.touches_entry
      have hne := lastState?_eq_none.mp hlast t ht
      rw [hnode] at hne
      obtain ⟨t', ht', hnode', -⟩ := mem_of_lastState? (by rwa [hlast, Option.none_or] at hs)
      rw [List.mem_singleton.mp ht'] at hnode'
      exact absurd hnode' hne

end Block

section Blocks

variable {as : List Arrival} {blocks : List (List (Transition NodeRef))}

/-- Blocks leave every node that they touch in a final state. -/
theorem isFinal_of_blocks (h : List.Forall₂ Block as blocks) {n : NodeRef} {s : RunState}
    (hs : lastState? blocks.flatten n = some s) : s.isFinal = true := by
  induction h with
  | nil => cases hs
  | @cons a block as blocks hblock _ ih =>
    rw [List.flatten_cons, lastState?_append] at hs
    cases hlast : lastState? blocks.flatten n with
    | some s' =>
      rw [hlast, Option.some_or] at hs
      exact ih (hlast.trans hs)
    | none =>
      rw [hlast, Option.none_or] at hs
      exact hblock.isFinal hs

theorem touches_of_blocks (h : List.Forall₂ Block as blocks) {a : Arrival} (ha : a ∈ as) :
    ∃ t ∈ blocks.flatten, t.node = a.entry.ref := by
  induction h with
  | nil => cases ha
  | @cons a' block as blocks hblock _ ih =>
    rw [List.flatten_cons]
    rcases List.mem_cons.mp ha with rfl | ha
    · obtain ⟨t, ht, hnode⟩ := hblock.touches_entry
      exact ⟨t, List.mem_append_left _ ht, hnode⟩
    · obtain ⟨t, ht, hnode⟩ := ih ha
      exact ⟨t, List.mem_append_right _ ht, hnode⟩

end Blocks

/-! ## 3. Working off a queue -/

namespace Execution

/-- The entries of a queue, each as it is reached. -/
def arrivals (x : Execution) (w : Workbench) (debug : Bool) : List QueueEntry → List Arrival
  | [] => []
  | e :: rest =>
    ⟨e, x.arrive.cancel.isSet⟩ :: (x.entry w debug e).1.arrivals w debug rest

theorem map_entry_arrivals (w : Workbench) (debug : Bool) (q : List QueueEntry) (x : Execution) :
    (x.arrivals w debug q).map (·.entry) = q := by
  induction q generalizing x with
  | nil => rfl
  | cons e rest ih => rw [arrivals, List.map_cons, ih]

theorem entries_singleton (x : Execution) (w : Workbench) (debug : Bool) (e : QueueEntry) :
    x.entries w debug [e] = x.entry w debug e := by
  unfold entries
  generalize x.entry w debug e = r
  obtain ⟨x', goesOn⟩ := r
  cases goesOn with
  | false => rfl
  | true => rfl

/-- From `x` to `x'` the transitions `ts` are recorded.  A node that someone is at
    work on in the end was so before, and has not been started. -/
structure Advances (x x' : Execution) (ts : List (Transition NodeRef)) : Prop where
  transitions : x'.record.transitions = x.record.transitions ++ ts
  busy : ∀ n ∈ x'.busy, n ∈ x.busy ∧ ∀ t ∈ ts, t.node = n → t.state ≠ .started

variable {x x' x'' : Execution} {ts us : List (Transition NodeRef)}

theorem Advances.trans (h : Advances x x' ts) (h' : Advances x' x'' us) :
    Advances x x'' (ts ++ us) := by
  refine ⟨by rw [h'.transitions, h.transitions, List.append_assoc], fun n hn => ?_⟩
  obtain ⟨hbusy', hus⟩ := h'.busy n hn
  obtain ⟨hbusy, hts⟩ := h.busy n hbusy'
  refine ⟨hbusy, fun t ht => ?_⟩
  rcases List.mem_append.mp ht with ht | ht
  · exact hts t ht
  · exact hus t ht

theorem Advances.before (h : Advances x x' ts) (h' : x'.Quiet x'') : Advances x x'' ts :=
  ⟨h'.transitions.trans h.transitions, fun n hn => h.busy n (h'.busy ▸ hn)⟩

theorem Advances.after (h' : Advances x' x'' ts) (h : x.Quiet x') : Advances x x'' ts :=
  ⟨by rw [h'.transitions, h.transitions], fun n hn => h.busy ▸ h'.busy n hn⟩

/-- Nobody is at work on an entry that is over. -/
theorem Records.clearBusy {n : NodeRef} (h : Records n x x' ts)
    (hts : ∀ t ∈ ts, t.state = .started → t.node = n) : Advances x (x'.clearBusy n) ts := by
  refine ⟨h.transitions, fun m hm => ?_⟩
  have hm' : m ∈ x.busy.filter (· ≠ n) := h.busy ▸ hm
  obtain ⟨hbusy, hne⟩ := List.mem_filter.mp hm'
  refine ⟨hbusy, fun t ht hnode hstate => ?_⟩
  rw [hts t ht hstate] at hnode
  simp [hnode] at hne

theorem Records.complete {e : QueueEntry} {a : Arrival} (h : Records e.ref x x' ts)
    (hblock : Block a ts) (ha : a.entry = e) (w : Workbench) :
    Advances x (x'.complete w e) ts := by
  have hclear := h.clearBusy fun t ht hstate => ha ▸ hblock.node_of_started ht hstate
  exact hclear.before (quiet_say _ w _)

theorem records_breakOff (x : Execution) (e : QueueEntry) (reason : String) :
    Records e.ref x (x.breakOff e reason) [⟨e.ref, .errored, some reason, none⟩] :=
  (records_noteState _ _).after (x.quiet_note _)

/-- **An entry that is started** leaves its block. -/
theorem startEntry_block {w : Workbench} {debug : Bool} {e : QueueEntry}
    (h : (x.startEntry w debug e).2 = true) :
    ∃ block, Block ⟨e, false⟩ block ∧ Advances x (x.startEntry w debug e).1 block := by
  unfold startEntry at h ⊢
  dsimp only at h ⊢
  have hstart := (records_reach (n := e.ref) _ e.ref .started).after
    (x.quiet_say w s!"Running {e.kindName} {e.node.id}")
  generalize (x.say w s!"Running {e.kindName} {e.node.id}").reach e.ref .started = x₁ at *
  have hwork : WorksOn e x₁ (if debug then x₁.debugEntry w e else x₁.runEntry w e) := by
    cases debug with
    | true => exact debugEntry_worksOn x₁ w e
    | false => exact runEntry_worksOn x₁ w e
  generalize (if debug then x₁.debugEntry w e else x₁.runEntry w e) = r at *
  obtain ⟨x₂, last⟩ := r
  obtain ⟨ts, hrecords, hleaves⟩ := hwork
  cases hleaves with
  | @finished ending hending =>
    have hblock := Block.worked e hending
    exact ⟨_, hblock, (hstart.trans hrecords).complete hblock rfl w⟩
  | failed reason =>
    have hblock := Block.worked e (.errored reason)
    have hbroken := (hstart.trans hrecords).trans (records_breakOff x₂ e reason)
    exact ⟨_, hblock, hbroken.complete hblock rfl w⟩
  | abandoned => cases h

/-- **Every entry** leaves its block, if the run goes on after it. -/
theorem entry_block {w : Workbench} {debug : Bool} {e : QueueEntry}
    (h : (x.entry w debug e).2 = true) :
    ∃ block, Block ⟨e, x.arrive.cancel.isSet⟩ block ∧ Advances x (x.entry w debug e).1 block := by
  unfold entry at h ⊢
  dsimp only at h ⊢
  cases hset : x.arrive.cancel.isSet with
  | true =>
    have hskip : Advances (x.arrive.say w s!"Skipped {e.node.id}")
        ((x.arrive.say w s!"Skipped {e.node.id}").reach e.ref .skipped)
        [⟨e.ref, .skipped, none, none⟩] := ⟨rfl, fun n hn => ⟨hn, by simp⟩⟩
    exact ⟨_, .skipped e, (hskip.after (quiet_say _ w _)).after x.quiet_arrive⟩
  | false =>
    rw [hset] at h
    obtain ⟨block, hblock, hadvances⟩ := startEntry_block h
    exact ⟨block, hblock, hadvances.after x.quiet_arrive⟩

/-- **A queue that is worked off** leaves one block for each entry, in its order. -/
theorem entries_blocks {w : Workbench} {debug : Bool} (q : List QueueEntry) {x : Execution}
    (h : (x.entries w debug q).2 = true) :
    ∃ blocks, List.Forall₂ Block (x.arrivals w debug q) blocks ∧
      Advances x (x.entries w debug q).1 blocks.flatten := by
  induction q generalizing x with
  | nil => exact ⟨[], .nil, (List.append_nil _).symm, fun n hn => ⟨hn, by simp⟩⟩
  | cons e rest ih =>
    cases hentry : x.entry w debug e with
    | mk x' goesOn =>
      cases goesOn with
      | false => simp [entries, hentry] at h
      | true =>
        have hrest : x.entries w debug (e :: rest) = x'.entries w debug rest := by
          simp [entries, hentry]
        rw [hrest] at h ⊢
        have hgoesOn : (x.entry w debug e).2 = true := by rw [hentry]
        obtain ⟨block, hblock, hadvances⟩ := entry_block hgoesOn
        obtain ⟨blocks, hblocks, hrests⟩ := ih h
        rw [hentry] at hadvances
        refine ⟨block :: blocks, ?_, hadvances.trans hrests⟩
        rw [arrivals, hentry]
        exact .cons hblock hblocks

end Execution

/-! ## 4. Runs -/

namespace Catalog

/-- What a run goes on from, once every entry of its queue is enqueued. -/
def begun (c : Catalog) (w : Workbench) (r : RunRequest) (x : Execution) : Execution :=
  { x with record := { debug := r.debug } }.enqueue w r.debug (c.queue r)

/-- The entries of a request, each as it is reached. -/
def arrivals (c : Catalog) (w : Workbench) (r : RunRequest) (x : Execution) : List Arrival :=
  (c.begun w r x).arrivals w r.debug (c.queue r)

variable {c : Catalog} {w : Workbench} {r : RunRequest} {x : Execution}

theorem rejection?_of_accepted (h : (c.run w r x).report.rejected = none) :
    Queue.rejection? r.debug (c.queue r) = none := by
  unfold run at h
  dsimp only at h
  cases hrejection : Queue.rejection? r.debug (c.queue r) with
  | some p => rw [hrejection] at h; cases h
  | none => rfl

theorem accepted_of_rejection? (h : Queue.rejection? r.debug (c.queue r) = none) (w : Workbench)
    (x : Execution) : (c.run w r x).report.rejected = none := by
  unfold run
  dsimp only
  rw [h]

/-- A request to debug that is not turned down selects one entry. -/
theorem queue_of_debug (h : Queue.rejection? r.debug (c.queue r) = none) (hdebug : r.debug = true) :
    ∃ e, c.queue r = [e] := by
  unfold Queue.rejection? at h
  rw [hdebug] at h
  match hqueue : c.queue r with
  | [] => simp [hqueue] at h
  | [e] => exact ⟨e, rfl⟩
  | e :: e' :: rest => simp [hqueue] at h

/-- A run that is not turned down works off its queue. -/
theorem run_of_accepted (h : (c.run w r x).report.rejected = none) :
    (c.run w r x).report =
        ⟨((c.begun w r x).entries w r.debug (c.queue r)).1.record, (c.queue r).map (·.ref), none⟩ ∧
      (c.run w r x).execution.busy = ((c.begun w r x).entries w r.debug (c.queue r)).1.busy ∧
      (c.run w r x).completed = ((c.begun w r x).entries w r.debug (c.queue r)).2 := by
  unfold run
  dsimp only
  rw [rejection?_of_accepted h]
  exact ⟨rfl, rfl, rfl⟩

theorem execution_of_accepted (h : (c.run w r x).report.rejected = none) :
    (c.run w r x).execution = ((c.begun w r x).entries w r.debug (c.queue r)).1.note
      (.info "test_run_completed" [("run_id", .text w.runId)]) := by
  unfold run
  dsimp only
  rw [rejection?_of_accepted h]
  rfl

theorem transitions_begun (c : Catalog) (w : Workbench) (r : RunRequest) (x : Execution) :
    (c.begun w r x).record.transitions =
      Transition.each ((c.queue r).map (·.ref)) .enqueued :=
  (Execution.transitions_reachAll _ _ _).trans (List.nil_append _)

/-- When every entry is enqueued, that is recorded and noted, and nothing else happens. -/
theorem begun_eq (c : Catalog) (w : Workbench) (r : RunRequest) (x : Execution) :
    ∃ record notices, c.begun w r x = { x with record := record, notices := notices } :=
  ⟨_, _, Execution.reachAll_eq _ .enqueued _⟩

theorem busy_begun (c : Catalog) (w : Workbench) (r : RunRequest) (x : Execution) :
    (c.begun w r x).busy = x.busy :=
  Execution.busy_reachAll _ _ _

/-- The record of a run is the enqueued entries and then the blocks. -/
theorem run_transitions (haccepted : (c.run w r x).report.rejected = none)
    (hcompleted : (c.run w r x).completed = true) :
    ∃ blocks, List.Forall₂ Block (c.arrivals w r x) blocks ∧
      (c.run w r x).report.record.transitions =
        Transition.each ((c.queue r).map (·.ref)) .enqueued ++ blocks.flatten ∧
      ∀ n ∈ (c.run w r x).execution.busy, n ∈ x.busy ∧
        ∀ t ∈ blocks.flatten, t.node = n → t.state ≠ .started := by
  obtain ⟨hreport, hbusy, hends⟩ := run_of_accepted haccepted
  rw [hends] at hcompleted
  obtain ⟨blocks, hblocks, hadvances⟩ := Execution.entries_blocks (c.queue r) hcompleted
  refine ⟨blocks, hblocks, ?_, fun n hn => ?_⟩
  · rw [hreport, hadvances.transitions, transitions_begun]
  · rw [hbusy] at hn
    rw [← busy_begun c w r x]
    exact hadvances.busy n hn

/-- **A run is a row of blocks.**  Take any catalog that operations lead to, any request
    and any behaviour of the world.  If the run is not turned down and does not break
    off, its record is one enqueued state for each entry, followed by one block for each
    entry in the order of the queue.  Only a suite has children in its block.  Every
    entry is left in a final state, and who is at work on a node afterwards was so
    before, and has not come from this run. -/
theorem run_blocks (settings : CatalogSettings) (listeners : List Listener)
    (acts : List CatalogAct) (w : Workbench) (r : RunRequest) (x : Execution) :
    let c := (fresh settings listeners).performAll acts
    let result := c.run w r x
    result.report.rejected = none → result.completed = true →
      ((c.arrivals w r x).map (·.entry) = c.queue r ∧
        ∃ blocks, List.Forall₂ Block (c.arrivals w r x) blocks ∧
          result.report.record.transitions =
            Transition.each ((c.queue r).map (·.ref)) .enqueued ++ blocks.flatten) ∧
      (∀ e ∈ c.queue r, (∃ suite, e.what = .suite suite) ∨ e.children = []) ∧
      (∀ e ∈ c.queue r, ∃ s, result.report.record.finalState? e.ref = some s ∧ s.isFinal) ∧
      (∀ n ∈ result.execution.busy,
        n ∈ x.busy ∧ RunState.started ∉ result.report.record.statesOf n) := by
  intro c result haccepted hcompleted
  have hsound : c.Sound := sound_performAll settings listeners acts
  have hentries : (c.arrivals w r x).map (·.entry) = c.queue r :=
    Execution.map_entry_arrivals w r.debug _ _
  obtain ⟨blocks, hblocks, htransitions, hbusy⟩ := run_transitions haccepted hcompleted
  refine ⟨⟨hentries, blocks, hblocks, htransitions⟩, ?_, ?_, ?_⟩
  · intro e he
    cases hsound.mem_queue he with
    | suite _ _ _ hwhat _ => exact Or.inl ⟨_, hwhat⟩
    | test _ _ _ _ hchildren => exact Or.inr hchildren
  · intro e he
    obtain ⟨a, ha, rfl⟩ := List.mem_map.mp (hentries.symm ▸ he)
    obtain ⟨t, ht, hnode⟩ := touches_of_blocks hblocks ha
    cases hlast : lastState? blocks.flatten a.entry.ref with
    | none => exact absurd hnode (lastState?_eq_none.mp hlast t ht)
    | some s =>
      refine ⟨s, ?_, isFinal_of_blocks hblocks hlast⟩
      calc result.report.record.finalState? a.entry.ref
          = lastState? result.report.record.transitions a.entry.ref := rfl
        _ = some s := by rw [htransitions, lastState?_append, hlast, Option.some_or]
  · intro n hn
    obtain ⟨hbefore, hnever⟩ := hbusy n hn
    refine ⟨hbefore, fun hstarted => ?_⟩
    obtain ⟨t, ht, hstate⟩ := List.mem_map.mp hstarted
    obtain ⟨hmem, hnode⟩ := List.mem_filter.mp ht
    rw [htransitions] at hmem
    rcases List.mem_append.mp hmem with hmem | hmem
    · obtain ⟨m, -, rfl⟩ := Transition.mem_each.mp hmem
      cases hstate
    · exact hnever t hmem (by simpa using hnode) hstate

/-! ### 4.1 A run

A test fails, its suite passes, the test cannot be started when it comes again, and
then someone cancels. -/

def pairSettings : CatalogSettings := { roots := [.ofString "/w"], libraries := [.gocheck] }

def pairText : String :=
  "package p\n\nimport \"gopkg.in/check.v1\"\n\n" ++
    "func (s *Suite) TestX(c *check.C) \x7b\x7d\n\nfunc (s *Suite) TestY(c *check.C) \x7b\x7d\n"

/-- What leads to a suite, number 2, of two tests, numbers 3 and 4. -/
def pairActs : List CatalogAct := [.discover .empty (.ofString "/w/a_test.go") (some pairText)]

def pairBench : Workbench := { executables := [("go", "/bin/go")], libraries := [.gocheck] }

def pairRequest : RunRequest := { selected := some [3, 2, 3, 4] }

def pairWorld : Execution where
  cancel := .possible false
  interruptions := [false, false, false, true]
  processes := [.runs [] (.exits 1), .silent, .refused "busy"]

theorem run_blocks_pair :
    let c := (fresh pairSettings []).performAll pairActs
    let result := c.run pairBench pairRequest pairWorld
    result.report.record.transitions.map (fun t => (t.node, t.state)) =
        [(3, .enqueued), (2, .enqueued), (3, .enqueued), (4, .enqueued),
          (3, .started), (3, .failed), (2, .started), (2, .passed), (3, .passed), (4, .passed),
          (3, .started), (3, .errored), (4, .skipped)] ∧
      ∀ e ∈ c.queue pairRequest,
        ∃ s, result.report.record.finalState? e.ref = some s ∧ s.isFinal := by
  refine ⟨by decide +kernel, ?_⟩
  exact (run_blocks pairSettings [] pairActs pairBench pairRequest pairWorld (by decide +kernel)
    (by decide +kernel)).2.2.1

end Catalog
end SuiteExplorer
