/-
  SuiteExplorer/Proofs/Run/Lockstep.lean
  ======================================
  **The tests of a suite are in step with it, and a run touches nothing else.**

  Every entry that a run reaches is a visit, from the execution before it to the one
  after it.  If the entry ends as passed or as failed there are grounds for that, and the
  nodes below it have passed or are skipped when its block ends; with any other ending
  no node but the entry itself has changed.  Entries may share nodes: what holds at
  the end of a visit does so whatever the visits before it have left behind.

  All this holds with a listener that may fail, but for one thing: the log of a debugger is
  shown when the entry has reached its state, so that a failure at it makes an error of what
  had passed or failed, and leaves the nodes below as they are (`Overruled`).

  Seen as a whole, a run replaces the states of the nodes by the last ones recorded,
  and nothing else of the catalog (`applyTransitions_eq`).
-/
import SuiteExplorer.Proofs.Catalog.Nodes
import SuiteExplorer.Proofs.Run.Sink

namespace SuiteExplorer

open Transition

/-! ## 1. The catalog after some transitions -/

/-- A node in the state that it has reached last. -/
def NodeInfo.after (ts : List (Transition NodeRef)) (i : NodeInfo) : NodeInfo :=
  { i with state := (lastState? ts i.ref).or i.state }

theorem NodeInfo.after_of_none {ts : List (Transition NodeRef)} {i : NodeInfo}
    (h : lastState? ts i.ref = none) : i.after ts = i := by
  rw [NodeInfo.after, h, Option.none_or]

mutual

theorem Subtree.mapInfo_mapInfo (f g : NodeInfo → NodeInfo) :
    ∀ t : Subtree, (t.mapInfo f).mapInfo g = t.mapInfo (g ∘ f)
  | .node i cs => by
    rw [Subtree.mapInfo, Subtree.mapInfo, Subtree.mapInfo, Subtree.mapInfoIn_mapInfoIn f g cs]
    rfl

theorem Subtree.mapInfoIn_mapInfoIn (f g : NodeInfo → NodeInfo) :
    ∀ ts : List Subtree,
      Subtree.mapInfoIn g (Subtree.mapInfoIn f ts) = Subtree.mapInfoIn (g ∘ f) ts
  | [] => rfl
  | t :: ts => by
    rw [Subtree.mapInfoIn, Subtree.mapInfoIn, Subtree.mapInfoIn, Subtree.mapInfo_mapInfo f g t,
      Subtree.mapInfoIn_mapInfoIn f g ts]

end

mutual

theorem Subtree.mapInfo_id : ∀ t : Subtree, t.mapInfo id = t
  | .node i cs => by rw [Subtree.mapInfo, Subtree.mapInfoIn_id cs, id]

theorem Subtree.mapInfoIn_id : ∀ ts : List Subtree, Subtree.mapInfoIn id ts = ts
  | [] => rfl
  | t :: ts => by rw [Subtree.mapInfoIn, Subtree.mapInfo_id t, Subtree.mapInfoIn_id ts]

end

namespace Catalog

theorem mapInfo_mapInfo (c : Catalog) (f g : NodeInfo → NodeInfo) :
    (c.mapInfo f).mapInfo g = c.mapInfo (g ∘ f) := by
  simp only [mapInfo, PackageNode.mapInfo, FileNode.mapInfo, SuiteNode.mapInfo, List.map_map,
    Function.comp_def, Subtree.mapInfo_mapInfo]

theorem mapInfo_id (c : Catalog) : c.mapInfo id = c := by
  simp only [mapInfo, PackageNode.mapInfo, FileNode.mapInfo, SuiteNode.mapInfo, List.map_id,
    id_eq, Subtree.mapInfo_id, List.map_id']

/-- **All that transitions do to a catalog** is that every node shows the last state it
    has reached. -/
theorem applyTransitions_eq (ts : List (Transition NodeRef)) (c : Catalog) :
    c.applyTransitions ts = c.mapInfo (NodeInfo.after ts) := by
  induction ts generalizing c with
  | nil =>
    have hid : NodeInfo.after [] = id := funext fun i => rfl
    rw [hid, mapInfo_id]
    rfl
  | cons t ts ih =>
    -- what comes after `t` wins over it
    have hcons : NodeInfo.after ts ∘
        (fun i => if i.ref = t.node then { i with state := some t.state } else i) =
          NodeInfo.after (t :: ts) := by
      funext i
      dsimp only [Function.comp]
      split
      · next href =>
        have hlast : lastState? [t] i.ref = some t.state := by simp [lastState?, href]
        rw [NodeInfo.after, NodeInfo.after, lastState?_cons, hlast, Option.or_assoc, Option.some_or]
      · next href =>
        have hlast : lastState? [t] i.ref = none := by simp [lastState?, Ne.symm href]
        rw [NodeInfo.after, NodeInfo.after, lastState?_cons, hlast, Option.or_none]
    calc c.applyTransitions (t :: ts)
        = (c.setState t.node t.state).applyTransitions ts := rfl
      _ = (c.setState t.node t.state).mapInfo (NodeInfo.after ts) := ih _
      _ = c.mapInfo (NodeInfo.after (t :: ts)) := by rw [setState, mapInfo_mapInfo, hcons]

/-- The catalog as it is shown at one point of a run. -/
def shownAt (c : Catalog) (x : Execution) : Catalog := c.applyTransitions x.record.transitions

/-- The state of a node of the tree. -/
def stateOf? (c : Catalog) (n : NodeRef) : Option RunState :=
  (c.infos.find? (·.ref = n)).bind (·.state)

variable {c : Catalog} {ts : List (Transition NodeRef)} {n : NodeRef}

theorem stateOf?_applyTransitions (c : Catalog) (ts : List (Transition NodeRef)) (n : NodeRef) :
    (c.applyTransitions ts).stateOf? n =
      (c.infos.find? (·.ref = n)).bind fun i => (lastState? ts n).or i.state := by
  have hfind : (c.infos.map (NodeInfo.after ts)).find? (·.ref = n) =
      (c.infos.find? (·.ref = n)).map (NodeInfo.after ts) := List.find?_map ..
  rw [applyTransitions_eq, stateOf?, infos_mapInfo, hfind]
  cases hi : c.infos.find? (·.ref = n) with
  | none => rfl
  | some i =>
    have href : i.ref = n := by simpa using List.find?_some hi
    rw [← href]
    rfl

/-- A node that is not reached stays in its state. -/
theorem stateOf?_of_none (h : lastState? ts n = none) :
    (c.applyTransitions ts).stateOf? n = c.stateOf? n := by
  rw [stateOf?_applyTransitions, h]
  rfl

/-- A node of the tree that is reached shows its last state. -/
theorem stateOf?_of_some {s : RunState} (hn : n ∈ c.refs) (h : lastState? ts n = some s) :
    (c.applyTransitions ts).stateOf? n = some s := by
  rw [stateOf?_applyTransitions, h]
  rw [← c.map_ref_infos] at hn
  obtain ⟨i, hi, href⟩ := List.mem_map.mp hn
  cases hfind : c.infos.find? (·.ref = n) with
  | none => exact absurd href (by simpa using List.find?_eq_none.mp hfind i hi)
  | some j => rfl

theorem refs_applyTransitions (c : Catalog) (ts : List (Transition NodeRef)) :
    (c.applyTransitions ts).refs = c.refs := by
  have href : ∀ i : NodeInfo, (i.after ts).ref = i.ref := fun i => rfl
  rw [applyTransitions_eq, refs_mapInfo href]

theorem outline_applyTransitions (c : Catalog) (ts : List (Transition NodeRef)) :
    (c.applyTransitions ts).outline = c.outline := by
  have houtline : ∀ (μ : Reading) (i : NodeInfo), (i.after ts).outline μ = i.outline μ :=
    fun μ i => rfl
  rw [applyTransitions_eq, outline_mapInfo houtline]

theorem applyTransitions_append (c : Catalog) (ts us : List (Transition NodeRef)) :
    c.applyTransitions (ts ++ us) = (c.applyTransitions ts).applyTransitions us :=
  List.foldl_append

end Catalog

/-! ## 2. Visits -/

/-- An entry that a run has come to, and what the work on it has led from and to. -/
structure Visit where
  entry : QueueEntry
  before : Execution
  after : Execution

namespace Visit

/-- What the visit adds to the record. -/
def block (v : Visit) : List (Transition NodeRef) :=
  v.after.record.transitions.drop v.before.record.transitions.length

/-- The state in which the visit leaves its entry. -/
def ending? (v : Visit) : Option RunState := lastState? v.block v.entry.ref

end Visit

namespace Execution

/-- The visits of a queue.  An entry at which the run breaks off is the last one. -/
def visits (x : Execution) (w : Workbench) (debug : Bool) : List QueueEntry → List Visit
  | [] => []
  | e :: rest =>
    match x.entry w debug e with
    | (x', true) => ⟨e, x, x'⟩ :: x'.visits w debug rest
    | (x', false) => [⟨e, x, x'⟩]

theorem visits_cons_of_goesOn {x x' : Execution} {w : Workbench} {debug : Bool} {e : QueueEntry}
    (h : x.entry w debug e = (x', true)) (rest : List QueueEntry) :
    x.visits w debug (e :: rest) = ⟨e, x, x'⟩ :: x'.visits w debug rest ∧
      x.entries w debug (e :: rest) = x'.entries w debug rest := by
  simp only [visits, entries, h, and_self]

theorem visits_cons_of_breaksOff {x x' : Execution} {w : Workbench} {debug : Bool}
    {e : QueueEntry} (h : x.entry w debug e = (x', false)) (rest : List QueueEntry) :
    x.visits w debug (e :: rest) = [⟨e, x, x'⟩] ∧
      x.entries w debug (e :: rest) = (x', false) := by
  simp only [visits, entries, h, and_self]

theorem visits_singleton (x : Execution) (w : Workbench) (debug : Bool) (e : QueueEntry) :
    x.visits w debug [e] = [⟨e, x, (x.entry w debug e).1⟩] := by
  cases hentry : x.entry w debug e with
  | mk x' goesOn =>
    cases goesOn with
    | true => exact (visits_cons_of_goesOn hentry []).1
    | false => exact (visits_cons_of_breaksOff hentry []).1

end Execution

namespace Sink

/-- The visits of a queue with a listener that may fail. -/
def visits (sink : Sink) (x : Execution) (w : Workbench) (debug : Bool) :
    List QueueEntry → List Visit
  | [] => []
  | e :: rest =>
    match sink.entry x w debug e with
    | (x', true) => ⟨e, x, x'⟩ :: sink.visits x' w debug rest
    | (x', false) => [⟨e, x, x'⟩]

/-- One visit after another leads through a queue. -/
structure Visits (sink : Sink) (w : Workbench) (debug : Bool) (q : List QueueEntry)
    (x : Execution) (vs : List Visit) : Prop where
  entries : vs.map (·.entry) <+: q
  all : (sink.entries x w debug q).2 = true → vs.map (·.entry) = q
  record : (sink.entries x w debug q).1.record.transitions =
    x.record.transitions ++ (vs.map (·.block)).flatten
  each : ∀ v ∈ vs, v.after = (sink.entry v.before w debug v.entry).1
  reached : ∀ v ∈ vs,
    v.after.record.transitions <+: (sink.entries x w debug q).1.record.transitions

/-- What is recorded before a visit stays. -/
theorem transitions_entry (sink : Sink) (x : Execution) (w : Workbench) (debug : Bool)
    (e : QueueEntry) :
    (sink.entry x w debug e).1.record.transitions =
      x.record.transitions ++ (Visit.mk e x (sink.entry x w debug e).1).block := by
  suffices h : ∃ ts, (sink.entry x w debug e).1.record.transitions = x.record.transitions ++ ts by
    obtain ⟨ts, hts⟩ := h
    rw [Visit.block, hts, List.drop_left]
  obtain ⟨ts, hts, -⟩ := x.entry_earns w debug e
  cases sink.entry_goes x w debug e with
  | same h => exact ⟨ts, by rw [h, hts]⟩
  | completed reason hfails h => exact ⟨ts, by rw [h, hts]⟩
  | unbegun reason hfails hends hts => exact ⟨[], by rw [hts, List.append_nil]⟩
  | early reason hfails hts => exact ⟨_, hts⟩
  | late reason ts hdebug hfails hts hcourse => exact ⟨_, by rw [hts, List.append_assoc]⟩

/-- **The visits of a queue** leave the record of the run between them. -/
theorem visits_spec (sink : Sink) (w : Workbench) (debug : Bool) (q : List QueueEntry)
    (x : Execution) : Visits sink w debug q x (sink.visits x w debug q) := by
  induction q generalizing x with
  | nil =>
    refine ⟨List.nil_prefix, fun _ => rfl, (List.append_nil _).symm, ?_, ?_⟩
    · exact List.forall_mem_nil _
    · exact List.forall_mem_nil _
  | cons e rest ih =>
    have hentry := sink.transitions_entry x w debug e
    cases heq : sink.entry x w debug e with
    | mk x' goesOn =>
      rw [heq] at hentry
      have hlast : x' = (sink.entry x w debug e).1 := by rw [heq]
      cases goesOn with
      | false =>
        -- the run breaks off here, so nothing of the rest is visited
        have hentries : sink.entries x w debug (e :: rest) = (x', false) := by
          simp only [entries, heq]
        have hvisits : sink.visits x w debug (e :: rest) = [⟨e, x, x'⟩] := by
          simp only [visits, heq]
        rw [hvisits]
        constructor
        · exact ⟨rest, rfl⟩
        · intro hends
          rw [hentries] at hends
          cases hends
        · rw [hentries, List.map_singleton, List.flatten_singleton]
          exact hentry
        · intro v hv
          rw [List.mem_singleton.mp hv]
          exact hlast
        · intro v hv
          rw [List.mem_singleton.mp hv]
          exact ⟨[], by rw [hentries, List.append_nil]⟩
      | true =>
        have hentries : sink.entries x w debug (e :: rest) = sink.entries x' w debug rest := by
          simp only [entries, heq]
        have hvisits : sink.visits x w debug (e :: rest) =
            ⟨e, x, x'⟩ :: sink.visits x' w debug rest := by
          simp only [visits, heq]
        obtain ⟨hentered, hall, hrecord, heach, hreached⟩ := ih x'
        rw [hvisits]
        constructor
        · exact List.cons_prefix_cons.mpr ⟨rfl, hentered⟩
        · intro hends
          rw [hentries] at hends
          rw [List.map_cons, hall hends]
        · rw [hentries, hrecord, hentry, List.map_cons, List.flatten_cons, List.append_assoc]
        · exact List.forall_mem_cons.mpr ⟨hlast, heach⟩
        · rw [hentries]
          refine List.forall_mem_cons.mpr ⟨?_, hreached⟩
          rw [hrecord]
          exact List.prefix_append _ _

theorem Steady.visits_eq {sink : Sink} (h : sink.Steady) (w : Workbench) (debug : Bool)
    (q : List QueueEntry) (x : Execution) :
    sink.visits x w debug q = x.visits w debug q := by
  induction q generalizing x with
  | nil => rfl
  | cons e rest ih =>
    rw [visits, Execution.visits, h.entry_eq]
    cases x.entry w debug e with
    | mk x' goesOn =>
      cases goesOn with
      | true => exact congrArg (_ :: ·) (ih x')
      | false => rfl

end Sink

/-- On a visit, its entry is worked on. -/
theorem Execution.after_of_visit {x : Execution} {w : Workbench} {debug : Bool}
    {q : List QueueEntry} {v : Visit} (hv : v ∈ x.visits w debug q) :
    v.after = (v.before.entry w debug v.entry).1 := by
  rw [← Sink.quiet_steady.visits_eq] at hv
  rw [(Sink.quiet.visits_spec w debug q x).each v hv, Sink.quiet_steady.entry_eq]

/-! ## 3. In step -/

/-- When a debugged entry had reached the state `s`, on grounds, and the nodes below it
    `below`, the listener has failed at the log of the debugger, which makes an error of it. -/
structure Overruled (sink : Sink) (c : Catalog) (w : Workbench) (v : Visit) (s below : RunState) :
    Prop where
  grounds : Execution.Grounds w v.entry v.before v.after true s
  children : ∀ n ∈ v.entry.children, (c.shownAt v.after).stateOf? n = some below
  block : ∃ ts reason, v.block = ts ++ [⟨v.entry.ref, .errored, some reason, none⟩] ∧
    lastState? ts v.entry.ref = some s ∧ ∃ texts, texts <+: v.after.told ∧ sink texts = some reason

/-- What holds when the block of an entry ends. -/
structure Lockstep (sink : Sink) (c : Catalog) (w : Workbench) (debug : Bool) (v : Visit) :
    Prop where
  passed : v.ending? = some .passed →
    Execution.Grounds w v.entry v.before v.after debug .passed ∧
      ∀ n ∈ v.entry.children, (c.shownAt v.after).stateOf? n = some .passed
  failed : v.ending? = some .failed →
    Execution.Grounds w v.entry v.before v.after debug .failed ∧
      ∀ n ∈ v.entry.children, (c.shownAt v.after).stateOf? n = some .skipped
  otherwise : v.ending? ≠ some .passed → v.ending? ≠ some .failed →
    (∀ n ∈ v.entry.children, (c.shownAt v.after).stateOf? n = (c.shownAt v.before).stateOf? n) ∨
      debug = true ∧ v.ending? = some .errored ∧
        (Overruled sink c w v .passed .passed ∨ Overruled sink c w v .failed .skipped)
  others : ∀ n, ¬ v.entry.Covers n →
    (c.shownAt v.after).stateOf? n = (c.shownAt v.before).stateOf? n

section Visit

variable {sink : Sink} {c : Catalog} {w : Workbench} {debug : Bool} {v : Visit}
  {ts : List (Transition NodeRef)}

/-- What a visit records decides what the catalog shows after it. -/
theorem stateOf?_of_block (hts : v.after.record.transitions = v.before.record.transitions ++ ts)
    {n : NodeRef} :
    (lastState? ts n = none → (c.shownAt v.after).stateOf? n = (c.shownAt v.before).stateOf? n) ∧
      ∀ s, n ∈ c.refs → lastState? ts n = some s → (c.shownAt v.after).stateOf? n = some s := by
  have hshown : c.shownAt v.after = (c.shownAt v.before).applyTransitions ts := by
    rw [Catalog.shownAt, hts, Catalog.applyTransitions_append]
    rfl
  rw [hshown]
  refine ⟨Catalog.stateOf?_of_none, fun s hn hs => Catalog.stateOf?_of_some ?_ hs⟩
  rw [Catalog.shownAt, Catalog.refs_applyTransitions]
  exact hn

/-- **A visit that takes its course:** the entry has grounds for its ending, and the nodes below
    it are in step with it. -/
theorem lockstep_of_course (hself : v.entry.ref ∉ v.entry.children)
    (hchildren : ∀ n ∈ v.entry.children, n ∈ c.refs)
    (hts : v.after.record.transitions = v.before.record.transitions ++ ts)
    (hcourse : Course (Execution.Grounds w v.entry v.before v.after debug) v.entry ts) :
    Lockstep sink c w debug v := by
  have hblock : v.block = ts := by rw [Visit.block, hts, List.drop_left]
  have hstep := hcourse.inStep hself
  have hends : v.ending? = lastState? ts v.entry.ref := by rw [Visit.ending?, hblock]
  constructor
  · intro hpassed
    obtain ⟨hgrounds, hbelow⟩ := hstep.passed (hends ▸ hpassed)
    exact ⟨hgrounds, fun n hn => (stateOf?_of_block hts).2 _ (hchildren n hn) (hbelow n hn)⟩
  · intro hfailed
    obtain ⟨hgrounds, hbelow⟩ := hstep.failed (hends ▸ hfailed)
    exact ⟨hgrounds, fun n hn => (stateOf?_of_block hts).2 _ (hchildren n hn) (hbelow n hn)⟩
  · intro hnp hnf
    rw [hends] at hnp hnf
    exact Or.inl fun n hn => (stateOf?_of_block hts).1 (hstep.otherwise hnp hnf n hn)
  · intro n hn
    apply (stateOf?_of_block hts).1
    rw [lastState?_eq_none]
    intro t ht heq
    exact hn (heq ▸ hcourse.covers t ht)

/-- **A visit on which the listener fails at the log of the debugger.** -/
theorem lockstep_of_late (hself : v.entry.ref ∉ v.entry.children)
    (hchildren : ∀ n ∈ v.entry.children, n ∈ c.refs) {reason : String}
    (hfails : ∃ texts, texts <+: v.after.told ∧ sink texts = some reason)
    (hts : v.after.record.transitions =
      v.before.record.transitions ++ ts ++ [⟨v.entry.ref, .errored, some reason, none⟩])
    (hcourse : Course (Execution.Grounds w v.entry v.before v.after true) v.entry ts) :
    Lockstep sink c w true v := by
  rw [List.append_assoc] at hts
  have hblock : v.block = ts ++ [⟨v.entry.ref, .errored, some reason, none⟩] := by
    rw [Visit.block, hts, List.drop_left]
  have hstep := hcourse.inStep hself
  have hends : v.ending? = some .errored := by
    rw [Visit.ending?, hblock, lastState?_append]
    simp [lastState?]
  -- the failure is recorded of the entry alone
  have hother : ∀ n, n ≠ v.entry.ref →
      lastState? (ts ++ [⟨v.entry.ref, .errored, some reason, none⟩]) n = lastState? ts n := by
    intro n hn
    rw [lastState?_append]
    simp [lastState?, Ne.symm hn]
  have hbelow : ∀ n ∈ v.entry.children,
      lastState? (ts ++ [⟨v.entry.ref, .errored, some reason, none⟩]) n = lastState? ts n :=
    fun n hn => hother n fun heq => hself (heq ▸ hn)
  constructor
  · intro hpassed
    rw [hends] at hpassed
    cases hpassed
  · intro hfailed
    rw [hends] at hfailed
    cases hfailed
  · intro _ _
    have hoverruled : ∀ s below, Execution.Grounds w v.entry v.before v.after true s →
        lastState? ts v.entry.ref = some s →
          (∀ n ∈ v.entry.children, lastState? ts n = some below) →
            Overruled sink c w v s below := by
      intro s below hgrounds hreached hset
      refine ⟨hgrounds, fun n hn => ?_, ts, reason, hblock, hreached, hfails⟩
      exact (stateOf?_of_block hts).2 _ (hchildren n hn) ((hbelow n hn).trans (hset n hn))
    by_cases hpassed : lastState? ts v.entry.ref = some .passed
    · obtain ⟨hgrounds, hset⟩ := hstep.passed hpassed
      exact Or.inr ⟨rfl, hends, Or.inl (hoverruled _ _ hgrounds hpassed hset)⟩
    · by_cases hfailed : lastState? ts v.entry.ref = some .failed
      · obtain ⟨hgrounds, hset⟩ := hstep.failed hfailed
        exact Or.inr ⟨rfl, hends, Or.inr (hoverruled _ _ hgrounds hfailed hset)⟩
      · refine Or.inl fun n hn => ?_
        exact (stateOf?_of_block hts).1
          ((hbelow n hn).trans (hstep.otherwise hpassed hfailed n hn))
  · intro n hn
    apply (stateOf?_of_block hts).1
    rw [hother n fun heq => hn (Or.inl heq), lastState?_eq_none]
    intro t ht heq
    exact hn (heq ▸ hcourse.covers t ht)

/-- **One visit** is in step, and records nothing but of its entry and the nodes below it. -/
theorem lockstep_of_entry (hself : v.entry.ref ∉ v.entry.children)
    (hchildren : ∀ n ∈ v.entry.children, n ∈ c.refs)
    (hafter : v.after = (sink.entry v.before w debug v.entry).1) :
    Lockstep sink c w debug v ∧ ∀ t ∈ v.block, v.entry.Covers t.node := by
  have hblock := sink.transitions_entry v.before w debug v.entry
  rw [← hafter] at hblock
  have hcourse : ∀ {ts : List (Transition NodeRef)},
      v.after.record.transitions = v.before.record.transitions ++ ts →
        Course (Execution.Grounds w v.entry v.before v.after debug) v.entry ts →
          Lockstep sink c w debug v ∧ ∀ t ∈ v.block, v.entry.Covers t.node := by
    intro ts hts hcourse
    refine ⟨lockstep_of_course hself hchildren hts hcourse, ?_⟩
    rw [Visit.block, hts, List.drop_left]
    exact hcourse.covers
  obtain ⟨ts, hts, hearned⟩ := v.before.entry_earns w debug v.entry
  have hgoes := sink.entry_goes v.before w debug v.entry
  cases hgoes with
  | same h =>
    rw [h] at hafter
    rw [← hafter] at hts hearned
    exact hcourse hts hearned
  | completed reason hfails h =>
    rw [h] at hafter
    rw [← hafter] at hts hearned
    exact hcourse hts hearned
  | unbegun reason hfails hends hts =>
    rw [← hafter] at hts
    exact hcourse (hts.trans (List.append_nil _).symm) .nil
  | early reason hfails hts =>
    rw [← hafter] at hts
    exact hcourse hts (.own none none (by decide) (by decide) (.errored reason none))
  | late reason ts hdebug hfails hts hlate =>
    subst hdebug
    rw [← hafter] at hfails hts hlate
    refine ⟨lockstep_of_late hself hchildren hfails hts hlate, ?_⟩
    rw [Visit.block, hts, List.append_assoc, List.drop_left]
    intro t ht
    rcases List.mem_append.mp ht with ht | ht
    · exact hlate.covers t ht
    · rw [List.mem_singleton.mp ht]
      exact Or.inl rfl

end Visit

namespace Catalog

/-- The visits of a run. -/
def visits (c : Catalog) (w : Workbench) (r : RunRequest) (x : Execution) : List Visit :=
  (c.begun w r x).visits w r.debug (c.queue r)

/-- What a run leaves of a catalog: all of it but the states of the entries of its queue
    and of the nodes below them. -/
structure Preserves (c : Catalog) (r : RunRequest) (result : RunResult) : Prop where
  states : result.catalog = c.mapInfo (NodeInfo.after result.report.record.transitions)
  outline : result.catalog.outline = c.outline
  nodes : result.catalog.refs = c.refs
  index : result.catalog.books.index = c.books.index
  others : ∀ i : NodeInfo, (∀ e ∈ c.queue r, ¬ e.Covers i.ref) →
    i.after result.report.record.transitions = i

theorem Runs.children_mem {c : Catalog} {e : QueueEntry} (h : c.Runs e) :
    ∀ n ∈ e.children, n ∈ c.refs := by
  intro n hn
  rw [← c.map_ref_infos]
  cases h with
  | @suite f hf s hs _ _ _ hchildren =>
    rw [hchildren] at hn
    obtain ⟨i, hi, rfl⟩ := List.mem_map.mp hn
    exact List.mem_map_of_mem (mem_infos.mpr (Or.inr ⟨f, hf, Or.inr ⟨s, hs, Or.inr hi⟩⟩))
  | test _ _ _ _ hchildren =>
    rw [hchildren] at hn
    cases hn

/-- A run that records nothing of other nodes leaves all else of a catalog. -/
theorem preserves_of_covers {c : Catalog} {r : RunRequest} {result : RunResult}
    (hcatalog : result.catalog = c.applyTransitions result.report.record.transitions)
    (hcovers : ∀ t ∈ result.report.record.transitions, ∃ e ∈ c.queue r, e.Covers t.node) :
    Preserves c r result := by
  constructor
  · rw [hcatalog, applyTransitions_eq]
  · rw [hcatalog, outline_applyTransitions]
  · rw [hcatalog, refs_applyTransitions]
  · rw [hcatalog, applyTransitions_eq]
    rfl
  · intro i hi
    apply NodeInfo.after_of_none
    rw [lastState?_eq_none]
    intro t ht heq
    obtain ⟨e, he, hcover⟩ := hcovers t ht
    exact hi e he (heq ▸ hcover)

end Catalog

namespace Sink

/-- The visits of a run with a listener that may fail. -/
def visitsOf (sink : Sink) (c : Catalog) (w : Workbench) (r : RunRequest) (x : Execution) :
    List Visit :=
  sink.visits (c.begun w r x) w r.debug (c.queue r)

/-- A run that is not turned down works off its queue. -/
theorem run_of_accepted {sink : Sink} {c : Catalog} {w : Workbench} {r : RunRequest}
    {x : Execution} (h : (sink.run c w r x).report.rejected = none) :
    (sink.run c w r x).report.record =
        (sink.entries (c.begun w r x) w r.debug (c.queue r)).1.record ∧
      (sink.run c w r x).completed = (sink.entries (c.begun w r x) w r.debug (c.queue r)).2 ∧
      (sink.run c w r x).catalog =
        c.applyTransitions (sink.run c w r x).report.record.transitions := by
  unfold run at h ⊢
  dsimp only at h ⊢
  cases hrejection : Queue.rejection? r.debug (c.queue r) with
  | some p =>
    rw [hrejection] at h
    cases h
  | none => exact ⟨rfl, rfl, rfl⟩

end Sink

namespace Catalog

/-- **The tests of a suite are in step with it, and a run touches nothing else.**  Take
    any catalog that operations lead to, any accepted request, to run or to debug, any
    behaviour of the world, one in which the run breaks off included, and any listener, which
    may fail at whatever it is told.  The run visits the entries of its queue in order, each a
    suite of the tree with its tests or a test, and what it records is that they are enqueued
    and then the blocks of the visits.  On every visit, an entry that ends as passed or as
    failed has grounds for it in the exit code of its process or in the verdict of its debug
    session; the tests of a suite show that they have passed or are skipped when its block
    ends, and with any other ending they show what they did before, unless the listener has
    failed at the log of a debugger.  No other node has changed, and the run as a whole has
    changed nothing but states. -/
theorem run_lockstep (settings : CatalogSettings) (listeners : List Listener)
    (acts : List CatalogAct) (sink : Sink) (w : Workbench) (r : RunRequest) (x : Execution) :
    let c := (fresh settings listeners).performAll acts
    let result := sink.run c w r x
    let visits := sink.visitsOf c w r x
    result.report.rejected = none →
      ((∀ v ∈ visits, c.Runs v.entry ∧ Lockstep sink c w r.debug v ∧
          v.after.record.transitions <+: result.report.record.transitions) ∧
        visits.map (·.entry) <+: c.queue r ∧
        (result.completed = true → visits.map (·.entry) = c.queue r) ∧
        result.report.record.transitions = each ((c.queue r).map (·.ref)) .enqueued ++
          (visits.map (·.block)).flatten) ∧
      Preserves c r result := by
  intro c result visits haccepted
  have hsound : c.Sound := sound_performAll settings listeners acts
  obtain ⟨hrecord, hends, hcatalog⟩ := Sink.run_of_accepted haccepted
  obtain ⟨hentered, hall, hblocks, heach, hreached⟩ :=
    sink.visits_spec w r.debug (c.queue r) (c.begun w r x)
  have hqueue : ∀ v ∈ visits, v.entry ∈ c.queue r :=
    fun v hv => hentered.subset (List.mem_map_of_mem hv)
  have hvisit : ∀ v ∈ visits,
      Lockstep sink c w r.debug v ∧ ∀ t ∈ v.block, v.entry.Covers t.node := by
    intro v hv
    have hruns := hsound.mem_queue (hqueue v hv)
    exact lockstep_of_entry (hsound.ref_not_mem_children (hqueue v hv)) hruns.children_mem
      (heach v hv)
  have htransitions : result.report.record.transitions =
      each ((c.queue r).map (·.ref)) .enqueued ++ (visits.map (·.block)).flatten := by
    rw [hrecord, hblocks, transitions_begun]
    rfl
  refine ⟨⟨fun v hv => ?_, hentered, fun hcompleted => ?_, htransitions⟩,
    preserves_of_covers hcatalog fun t ht => ?_⟩
  · refine ⟨hsound.mem_queue (hqueue v hv), (hvisit v hv).1, ?_⟩
    rw [hrecord]
    exact hreached v hv
  · exact hall (hends ▸ hcompleted)
  · rw [htransitions] at ht
    rcases List.mem_append.mp ht with ht | ht
    · obtain ⟨n, hn, rfl⟩ := mem_each.mp ht
      obtain ⟨e, he, rfl⟩ := List.mem_map.mp hn
      exact ⟨e, he, Or.inl rfl⟩
    · obtain ⟨block, hblock, ht⟩ := List.mem_flatten.mp ht
      obtain ⟨v, hv, rfl⟩ := List.mem_map.mp hblock
      exact ⟨v.entry, hqueue v hv, (hvisit v hv).2 t ht⟩

/-! ### 3.1 A suite after one of its tests

A test passes, and then its suite fails.  In another run a debugger says that the suite
has passed. -/

def sharedRequest : RunRequest := { selected := some [3, 2] }

def sharedWorld : Execution where
  processes := [.silent, .runs [] (.exits 1)]

def debugRequest : RunRequest := { selected := some [2], debug := true }

def debugWorld : Execution where
  hosts := [{ events := [.claim .launched, .started .launched, .adapterExit (some 0),
    .log "log".toUTF8.toList, .terminated .launched] }]

/-- A listener that fails at a text with this part. -/
def upsetBy (part : String) : Sink := fun texts =>
  if texts.getLast?.any fun t => Text.holds part.toList t.toList then some "upset" else none

theorem run_lockstep_shared :
    let c := (fresh pairSettings []).performAll pairActs
    let ran := (upsetBy "log").run c pairBench sharedRequest sharedWorld
    let debugged := Sink.quiet.run c pairBench debugRequest debugWorld
    let upsetting := (upsetBy "log").run c pairBench debugRequest debugWorld
    c.infos.map (fun i => (i.ref, ran.catalog.stateOf? i.ref)) =
        [(0, none), (1, none), (2, some .failed), (3, some .skipped), (4, some .skipped)] ∧
      c.infos.map (fun i => (i.ref, debugged.catalog.stateOf? i.ref)) =
        [(0, none), (1, none), (2, some .passed), (3, some .passed), (4, some .passed)] ∧
      c.infos.map (fun i => (i.ref, upsetting.catalog.stateOf? i.ref)) =
        [(0, none), (1, none), (2, some .errored), (3, some .passed), (4, some .passed)] ∧
      (∀ v ∈ (upsetBy "log").visitsOf c pairBench sharedRequest sharedWorld,
        Lockstep (upsetBy "log") c pairBench false v) ∧
      (∀ v ∈ (upsetBy "log").visitsOf c pairBench debugRequest debugWorld,
        Lockstep (upsetBy "log") c pairBench true v) ∧
      Preserves c sharedRequest ran := by
  intro c ran debugged upsetting
  have hran := run_lockstep pairSettings [] pairActs (upsetBy "log") pairBench sharedRequest
    sharedWorld (by decide +kernel)
  have hupset := run_lockstep pairSettings [] pairActs (upsetBy "log") pairBench debugRequest
    debugWorld (by decide +kernel)
  refine ⟨by decide +kernel, by decide +kernel, by decide +kernel, ?_, ?_, hran.2⟩
  · exact fun v hv => (hran.1.1 v hv).2.1
  · exact fun v hv => (hupset.1.1 v hv).2.1

/-- A suite that ends in error has changed its tests, when the listener fails at the log of the
    debugger; and a test whose process has failed shows that it has passed at the end of the
    run, when its suite passes after it. -/
theorem listener_overrules :
    let c := (fresh pairSettings []).performAll pairActs
    let debugged := (upsetBy "log").run c pairBench debugRequest debugWorld
    let shared := Sink.quiet.run c pairBench sharedRequest { processes := [.runs [] (.exits 1)] }
    (debugged.report.rejected = none ∧
        debugged.report.record.transitions.map (fun t => (t.node, t.state)) =
          [(2, .enqueued), (2, .started), (2, .passed), (3, .passed), (4, .passed),
            (2, .errored)] ∧
        c.stateOf? 3 = none ∧ debugged.catalog.stateOf? 3 = some .passed) ∧
      shared.report.record.transitions.map (fun t => (t.node, t.state)) =
          [(3, .enqueued), (2, .enqueued), (3, .started), (3, .failed), (2, .started),
            (2, .passed), (3, .passed), (4, .passed)] ∧
        shared.report.record.finalState? 3 = some .passed := by
  decide +kernel

end Catalog
end SuiteExplorer
