/-
  SuiteExplorer/Proofs/Watch/Watcher.lean
  =======================================
  **What a watcher delivers, over a whole history.**

  A watcher has a task and a flag, and neither is made anew when it is stopped and
  started again.  The task works in steps, and between two of them anything may happen:
  more batches may come, the source may end, the watcher may be stopped in the middle of
  a batch.  What carries the delivery through all this is a law of conservation for each
  run (`Within`): what the receiver has been called for, followed by what is left, is
  what the batches of the run are due for.  A stop takes away what is left
  (`never_delivered`), and nothing else does: the source's failure and its end are met
  only when nothing is left.

  What is due is told by the history alone (`DueIn`), and for batches that name no path
  twice this leaves no choice (`DueIn.unique`).  A receiver that fails changes nothing of
  it, whatever it fails for.
-/
import Mathlib.Data.List.Induction
import Mathlib.Data.List.Forall2
import SuiteExplorer.Proofs.Keyed
import SuiteExplorer.Watch.Watcher

namespace SuiteExplorer.Watch

open scoped List

/-! ## 1. One batch -/

theorem path_le_trans (a b c : Change) (hab : decide (a.path ≤ b.path) = true)
    (hbc : decide (b.path ≤ c.path) = true) : decide (a.path ≤ c.path) = true :=
  decide_eq_true (String.le_trans (of_decide_eq_true hab) (of_decide_eq_true hbc))

theorem path_le_total (a b : Change) :
    (decide (a.path ≤ b.path) || decide (b.path ≤ a.path)) = true := by
  simp only [Bool.or_eq_true, decide_eq_true_eq]
  exact String.le_total a.path b.path

theorem pairwise_sorted (f : Filter) (batch : List Change) :
    (f.sorted batch).Pairwise fun a b => a.path ≤ b.path :=
  (List.pairwise_mergeSort path_le_trans path_le_total _).imp fun h => of_decide_eq_true h

/-- Changes of different paths can be put into the order of their paths in one way only. -/
theorem eq_of_sorted {batch cs cs' : List Change} (hdistinct : (batch.map (·.path)).Nodup)
    (hperm : cs ~ cs') (hmem : ∀ a ∈ cs, a ∈ batch)
    (hsorted : cs.Pairwise fun a b => a.path ≤ b.path)
    (hsorted' : cs'.Pairwise fun a b => a.path ≤ b.path) : cs = cs' := by
  refine hperm.eq_of_pairwise (fun a b ha hb hab hba => ?_) hsorted hsorted'
  exact Keyed.eq_of_key_eq hdistinct (hmem a ha) (hmem b (hperm.mem_iff.mpr hb))
    (String.le_antisymm hab hba)

/-- What is due for a batch: its accepted changes, once each and by path. -/
def InOrder (f : Filter) (batch : List Change) (events : List FileEvent) : Prop :=
  ∃ cs, cs ~ batch.filter (fun c => f.accepts c.path) ∧
    cs.Pairwise (fun a b => a.path ≤ b.path) ∧ events = cs.map (·.event)

theorem inOrder_events (f : Filter) (batch : List Change) : InOrder f batch (f.events batch) :=
  ⟨f.sorted batch, List.mergeSort_perm .., pairwise_sorted f batch, rfl⟩

theorem InOrder.unique {f : Filter} {batch : List Change} {events events' : List FileEvent}
    (hdistinct : (batch.map (·.path)).Nodup) (h : InOrder f batch events)
    (h' : InOrder f batch events') : events = events' := by
  obtain ⟨cs, hperm, hsorted, rfl⟩ := h
  obtain ⟨cs', hperm', hsorted', rfl⟩ := h'
  refine congrArg _ (eq_of_sorted hdistinct (hperm.trans hperm'.symm) (fun a ha => ?_) hsorted
    hsorted')
  exact (List.mem_filter.mp (hperm.mem_iff.mp ha)).1

theorem length_events_le (f : Filter) (batch : List Change) :
    (f.events batch).length ≤ batch.length := by
  rw [Filter.events, Filter.sorted, List.length_map, List.length_mergeSort]
  exact List.length_filter_le ..

namespace Watcher

variable {f : Filter} {raises : FileEvent → Bool}

/-! ## 2. The calls of a watcher -/

theorem isRunning_finish (w : Watcher) : w.finish.isRunning = false := by
  rw [finish]
  split
  · rfl
  case isFalse h => exact Bool.eq_false_iff.mpr h

theorem filter_finish (w : Watcher) : w.finish.filter = w.filter := by
  rw [finish]
  split <;> rfl

theorem start_of_running {w : Watcher} (h : w.isRunning = true) : w.start = (w, []) := if_pos h

theorem start_of_not_running {w : Watcher} (h : w.isRunning = false) :
    w.start.1.filter = w.filter ∧ w.start.1.isRunning = true ∧ w.start.1.stopping = false := by
  rw [start, if_neg (Bool.eq_false_iff.mp h)]
  exact ⟨rfl, rfl, rfl⟩

theorem hears_of_running {w : Watcher} (h : w.isRunning = true) (hflag : w.stopping = false) :
    w.hears = true := by
  rw [hears, h, hflag]
  rfl

theorem not_hears {w : Watcher} (h : w.isRunning = false) : w.hears = false := by
  rw [hears, h, Bool.false_and]

/-! ## 3. One step -/

def Given.events (f : Filter) : Given → List FileEvent
  | .batch changes => f.events changes
  | .failure _ | .ending => []

namespace Course

/-- What is left for the receiver: the rest of the batch in hand, and the batches that are
    not taken yet. -/
def left (c : Course) : List FileEvent :=
  c.rest ++ c.given.flatMap (Given.events c.watcher.filter)

/-- The source has failed or ended, and the task does not know yet. -/
def isOver (c : Course) : Bool := c.given.any (·.isLast)

/-- The task waits for its source, which has nothing. -/
def Settled (c : Course) : Prop := c.called = none ∧ c.given = []

/-- What holds of a course at any time. -/
structure Sound (f : Filter) (c : Course) : Prop where
  filter : c.watcher.filter = f
  /-- a source that is asked to end has no live task -/
  unasked : c.watcher.isRunning = true → c.watcher.stopping = false
  /-- a watcher that does not run has nothing to do -/
  idle : c.watcher.isRunning = false → c.Settled
  /-- a batch in hand is one that the receiver is at work for -/
  inHand : c.called = none → c.rest = []
  /-- the source has nothing after its failure or end -/
  ends : c.given.Pairwise fun g _ => g.isLast = false

variable {c : Course}

theorem give_of_not_running (h : c.watcher.isRunning = false) (g : Given) : c.give g = c := by
  rw [give, not_hears h, Bool.false_and, if_neg Bool.false_ne_true]

theorem give_of_over (h : c.isOver = true) (g : Given) : c.give g = c := by
  rw [give, show c.given.any (·.isLast) = true from h, Bool.not_true, Bool.and_false,
    if_neg Bool.false_ne_true]

theorem Sound.give_of_running (hc : c.Sound f) (h : c.watcher.isRunning = true)
    (hover : c.isOver = false) (g : Given) : c.give g = { c with given := c.given ++ [g] } := by
  rw [give, hears_of_running h (hc.unasked h), show c.given.any (·.isLast) = false from hover]
  rfl

/-- A source either has one thing more for the task, or nothing changes. -/
theorem Sound.give_cases (hc : c.Sound f) (g : Given) :
    c.give g = c ∨ c.watcher.isRunning = true ∧ c.isOver = false ∧
      c.give g = { c with given := c.given ++ [g] } := by
  cases hrunning : c.watcher.isRunning with
  | false => exact Or.inl (give_of_not_running hrunning g)
  | true =>
    cases hover : c.isOver with
    | true => exact Or.inl (give_of_over hover g)
    | false => exact Or.inr ⟨rfl, rfl, hc.give_of_running hrunning hover g⟩

theorem Settled.step (h : c.Settled) (raises : FileEvent → Bool) : c.step raises = c := by
  rw [Course.step, h.1]
  dsimp only
  rw [take, h.2]

theorem Settled.isOver (h : c.Settled) : c.isOver = false := by
  rw [Course.isOver, h.2]
  rfl

/-- The receiver is called for the next event, if there is one. -/
theorem proceed_spec (c : Course) :
    c.proceed.watcher = c.watcher ∧ c.proceed.given = c.given ∧
      (c.proceed.called = none → c.proceed.rest = []) ∧
      c.proceed.called.toList.length + c.proceed.rest.length = c.rest.length ∧
      ∃ es, c.rest = es ++ c.proceed.rest ∧ c.proceed.calls = c.calls ++ es := by
  rw [proceed]
  split
  case h_1 h => exact ⟨rfl, rfl, fun _ => h, by simp [h], [], by simp [h], by simp⟩
  case h_2 e rest h =>
    exact ⟨rfl, rfl, fun h => (by cases h), by simp [h]; omega, [e], by simp [h], rfl⟩

/-- The watcher does not run, and nothing is left of what it had to do. -/
structure AtRest (c : Course) : Prop where
  running : c.watcher.isRunning = false
  settled : c.Settled
  rest : c.rest = []

theorem Sound.atRest (hc : c.Sound f) (h : c.watcher.isRunning = false) : c.AtRest :=
  ⟨h, hc.idle h, hc.inHand (hc.idle h).1⟩

theorem AtRest.sound (h : c.AtRest) (hfilter : c.watcher.filter = f) : c.Sound f where
  filter := hfilter
  unasked hrunning := by rw [h.running] at hrunning; cases hrunning
  idle _ := h.settled
  inHand _ := h.rest
  ends := by rw [h.settled.2]; exact .nil

theorem atRest_abandon (c : Course) : c.abandon.AtRest := ⟨rfl, ⟨rfl, rfl⟩, rfl⟩

/-- What a step of the task comes to. -/
inductive Stepped (c c' : Course) : Prop
  /-- there is nothing to do -/
  | settled : c.Settled → c' = c → Stepped c c'
  /-- the receiver is called for what is first of what is left -/
  | onward {events : List FileEvent} : c'.load < c.load → c'.watcher = c.watcher →
      c'.isOver = c.isOver → c.left = events ++ c'.left → c'.calls = c.calls ++ events →
        Stepped c c'
  /-- the source is over, and the task ends -/
  | ended : c.left = [] → c.isOver = true → c'.watcher.isRunning = false → c'.Settled →
      c'.calls = c.calls → Stepped c c'

/-- A step that ends with a call of the receiver, or would, is one onward. -/
theorem stepped_proceed {d : Course} (hwatcher : d.watcher = c.watcher)
    (hover : d.isOver = c.isOver) (hleft : d.left = c.left) (hcalls : d.calls = c.calls)
    (hload : d.rest.length + Given.loads d.given < c.load) : Stepped c d.proceed := by
  obtain ⟨hw, hgiven, -, hcount, es, hrest, hcalled⟩ := d.proceed_spec
  refine .onward ?_ (hw.trans hwatcher) ?_ ?_ (hcalled.trans (by rw [hcalls]))
  · rw [load, hcount, hgiven]
    exact hload
  · rw [isOver, hgiven]
    exact hover
  · rw [← hleft, left, left, hrest, hgiven, hw, List.append_assoc]

theorem sound_proceed {d : Course} (hfilter : d.watcher.filter = f)
    (hrunning : d.watcher.isRunning = true) (hflag : d.watcher.stopping = false)
    (hends : d.given.Pairwise fun g _ => g.isLast = false) : d.proceed.Sound f := by
  obtain ⟨hw, hgiven, hin, -⟩ := d.proceed_spec
  refine ⟨by rw [hw, hfilter], fun _ => by rw [hw, hflag], fun h => ?_, hin, by rwa [hgiven]⟩
  rw [hw, hrunning] at h
  cases h

/-- A course whose task has something to do runs. -/
theorem Sound.running (hc : c.Sound f) (h : ¬c.Settled) : c.watcher.isRunning = true := by
  by_contra hnot
  exact h (hc.idle (Bool.eq_false_iff.mpr hnot))

/-- The task ends when it takes the failure or the end of its source, which is the last thing
    that the source has. -/
theorem Sound.stepped_last (hc : c.Sound f) (hcalled : c.called = none) {g : Given}
    {given : List Given} (hgiven : c.given = g :: given) (hlast : g.isLast = true)
    {w : Watcher} (hfilter : w.filter = c.watcher.filter) (hended : w.isRunning = false)
    (journal : Journal) :
    let d : Course := { c with given := given, watcher := w, journal := journal }
    Stepped c d ∧ d.Sound f := by
  have hends := hc.ends
  rw [hgiven, List.pairwise_cons] at hends
  have hnone : given = [] := List.eq_nil_iff_forall_not_mem.mpr fun g' hg' => by
    rw [hends.1 g' hg'] at hlast
    cases hlast
  subst hnone
  intro d
  have hrest : d.AtRest := ⟨hended, ⟨hcalled, rfl⟩, hc.inHand hcalled⟩
  have hover : c.isOver = true := by
    rw [isOver, hgiven, List.any_cons, hlast, Bool.true_or]
  have hleft : c.left = [] := by
    rw [left, hgiven, hc.inHand hcalled]
    cases g with
    | batch changes => cases hlast
    | failure reason => rfl
    | ending => rfl
  exact ⟨.ended hleft hover hended hrest.settled rfl, hrest.sound (hfilter.trans hc.filter)⟩

/-- The task takes a batch, and the receiver is called for the first of its events. -/
theorem Sound.stepped_batch (hc : c.Sound f) (hcalled : c.called = none)
    (hrunning : c.watcher.isRunning = true) {changes : List Change} {given : List Given}
    (hgiven : c.given = .batch changes :: given) :
    let d : Course := { c with given := given, rest := c.watcher.filter.events changes }
    Stepped c d.proceed ∧ d.proceed.Sound f := by
  intro d
  have hrest := hc.inHand hcalled
  have hends := hc.ends
  rw [hgiven, List.pairwise_cons] at hends
  have hover : d.isOver = c.isOver := by
    rw [isOver, isOver, hgiven]
    rfl
  have hleft : d.left = c.left := by
    rw [left, left, hrest, hgiven]
    rfl
  have hload : d.rest.length + Given.loads d.given < c.load := by
    have := length_events_le c.watcher.filter changes
    rw [load, hcalled, hrest, hgiven, Given.loads, Given.load]
    dsimp only [d, Option.toList_none, List.length_nil]
    omega
  exact ⟨stepped_proceed rfl hover hleft rfl hload,
    sound_proceed hc.filter hrunning (hc.unasked hrunning) hends.2⟩

/-- **One step of the task,** and that all stays sound. -/
theorem Sound.step (hc : c.Sound f) (raises : FileEvent → Bool) :
    Stepped c (c.step raises) ∧ (c.step raises).Sound f := by
  rw [Course.step]
  cases hcalled : c.called with
  | some e =>
    have hrunning := hc.running fun h => by rw [h.1] at hcalled; cases hcalled
    refine ⟨stepped_proceed rfl rfl rfl rfl ?_,
      sound_proceed hc.filter hrunning (hc.unasked hrunning) hc.ends⟩
    rw [load, hcalled]
    exact Nat.add_lt_add_right (Nat.lt_add_of_pos_left Nat.one_pos) _
  | none =>
    dsimp only
    cases hgiven : c.given with
    | nil =>
      rw [take, hgiven]
      exact ⟨.settled ⟨hcalled, hgiven⟩ rfl, hc⟩
    | cons g given =>
      have hrunning := hc.running fun h => by rw [h.2] at hgiven; cases hgiven
      rw [take, hgiven]
      cases g with
      | batch changes => exact hc.stepped_batch hcalled hrunning hgiven
      | failure reason =>
        exact hc.stepped_last hcalled hgiven rfl (filter_finish _) (isRunning_finish _) _
      | ending =>
        exact hc.stepped_last hcalled hgiven rfl (filter_finish _) (isRunning_finish _) _

theorem Sound.give (hc : c.Sound f) (g : Given) : (c.give g).Sound f := by
  rcases hc.give_cases g with h | ⟨hrunning, hover, h⟩
  · rw [h]
    exact hc
  · rw [h]
    refine ⟨hc.filter, hc.unasked, fun hnot => ?_, hc.inHand, ?_⟩
    · rw [hrunning] at hnot
      cases hnot
    · refine List.pairwise_append.mpr ⟨hc.ends, List.pairwise_singleton _ _, fun a ha _ _ => ?_⟩
      exact Bool.eq_false_iff.mpr (List.any_eq_false.mp hover a ha)

theorem running_give (c : Course) (g : Given) :
    (c.give g).watcher.isRunning = c.watcher.isRunning := by
  rw [give]
  split <;> rfl

theorem Sound.start (hc : c.Sound f) (journal : Journal) :
    Sound f { c with watcher := c.watcher.start.1, journal := journal } := by
  cases hrunning : c.watcher.isRunning with
  | true =>
    rw [start_of_running hrunning]
    exact ⟨hc.filter, hc.unasked, hc.idle, hc.inHand, hc.ends⟩
  | false =>
    obtain ⟨hfilter, hstarted, hflag⟩ := start_of_not_running hrunning
    refine ⟨hfilter.trans hc.filter, fun _ => hflag, fun h => ?_, hc.inHand, hc.ends⟩
    rw [hstarted] at h
    cases h

/-- **Whatever happens, a course stays sound.** -/
theorem Sound.meet (hc : c.Sound f) (raises : FileEvent → Bool) (h : Happening) :
    (c.meet raises h).Sound f := by
  cases h with
  | start => exact hc.start _
  | stop => exact (atRest_abandon c).sound hc.filter
  | close => exact (atRest_abandon c).sound hc.filter
  | push batch => exact hc.give _
  | fail reason => exact hc.give _
  | finish => exact hc.give _
  | step => exact (hc.step raises).2

end Course

/-! ## 4. Runs -/

theorem course_append (hs hs' : List Happening) :
    course f raises (hs ++ hs') = hs'.foldl (Course.meet raises) (course f raises hs) :=
  List.foldl_append

theorem course_concat (hs : List Happening) (h : Happening) :
    course f raises (hs ++ [h]) = (course f raises hs).meet raises h := course_append hs [h]

theorem sound_course (f : Filter) (raises : FileEvent → Bool) (hs : List Happening) :
    (course f raises hs).Sound f := by
  induction hs using List.reverseRecOn with
  | nil => exact Course.AtRest.sound ⟨rfl, ⟨rfl, rfl⟩, rfl⟩ rfl
  | append_singleton hs h ih =>
    rw [course_concat]
    exact ih.meet raises h

/-- The batches that the source has in a run, that is before it fails or ends. -/
def pushedIn : List Happening → List (List Change)
  | [] => []
  | .push batch :: hs => batch :: pushedIn hs
  | .fail _ :: _ | .finish :: _ => []
  | .start :: hs | .stop :: hs | .close :: hs | .step :: hs => pushedIn hs

/-- With it, the source is over. -/
def Happening.endsSource : Happening → Bool
  | .fail _ | .finish => true
  | .start | .stop | .close | .push _ | .step => false

def sourceOver (hs : List Happening) : Bool := hs.any (·.endsSource)

theorem sourceOver_concat (hs : List Happening) (h : Happening) :
    sourceOver (hs ++ [h]) = (sourceOver hs || h.endsSource) := by
  simp [sourceOver]

theorem pushedIn_append (hs hs' : List Happening) :
    pushedIn (hs ++ hs') = pushedIn hs ++ bif sourceOver hs then [] else pushedIn hs' := by
  induction hs with
  | nil => rfl
  | cons h hs ih => cases h <;> simp_all [pushedIn, sourceOver, Happening.endsSource]

theorem push_mem_of_mem_pushedIn {hs : List Happening} {batch : List Change}
    (h : batch ∈ pushedIn hs) : .push batch ∈ hs := by
  fun_induction pushedIn hs with
  | case1 => cases h
  | case2 first hs ih =>
    rcases List.mem_cons.mp h with rfl | h
    · exact List.mem_cons_self
    · exact List.mem_cons_of_mem _ (ih h)
  | case3 => cases h
  | case4 => cases h
  | case5 hs ih => exact List.mem_cons_of_mem _ (ih h)
  | case6 hs ih => exact List.mem_cons_of_mem _ (ih h)
  | case7 hs ih => exact List.mem_cons_of_mem _ (ih h)
  | case8 hs ih => exact List.mem_cons_of_mem _ (ih h)

/-- A watcher that does not run is started, and it runs through all of `after`. -/
structure Runs (f : Filter) (raises : FileEvent → Bool) (before after : List Happening) : Prop where
  idle : (course f raises before).watcher.isRunning = false
  runs : ∀ part, part <+: after →
    (course f raises (before ++ .start :: part)).watcher.isRunning = true

theorem Runs.of_concat {before after : List Happening} {h : Happening}
    (hruns : Runs f raises before (after ++ [h])) : Runs f raises before after :=
  ⟨hruns.idle, fun part hpart => hruns.runs part (hpart.trans (List.prefix_append ..))⟩

theorem Runs.concat {before after : List Happening} {h : Happening}
    (hruns : Runs f raises before after)
    (hrunning : (course f raises (before ++ .start :: (after ++ [h]))).watcher.isRunning = true) :
    Runs f raises before (after ++ [h]) := by
  refine ⟨hruns.idle, fun part hpart => ?_⟩
  rcases List.prefix_concat_iff.mp hpart with rfl | hpart
  · exact hrunning
  · exact hruns.runs part hpart

/-- The law of a run: what the receiver has been called for since its start, followed by
    what is left, are the events of its batches. -/
structure Within (f : Filter) (earlier : List FileEvent) (after : List Happening) (c : Course) :
    Prop where
  isOver : c.isOver = sourceOver after
  calls : ∃ taken, c.calls = earlier ++ taken ∧
    taken ++ c.left = (pushedIn after).flatMap f.events

theorem within_start {c : Course} (hc : c.Sound f) (hidle : c.watcher.isRunning = false) :
    Within f c.calls [] (c.meet raises .start) := by
  obtain ⟨-, ⟨-, hgiven⟩, hrest⟩ := hc.atRest hidle
  refine ⟨?_, [], (List.append_nil _).symm, ?_⟩
  · change c.given.any _ = _
    rw [hgiven]
    rfl
  · change [] ++ (c.rest ++ c.given.flatMap _) = _
    rw [hgiven, hrest]
    rfl

variable {c c' : Course} {earlier : List FileEvent} {after : List Happening} {h : Happening}

/-- Nothing comes from the source, and something may be delivered. -/
theorem Within.onward {events : List FileEvent} (hw : Within f earlier after c)
    (hover : c'.isOver = c.isOver) (hleft : c.left = events ++ c'.left)
    (hcalls : c'.calls = c.calls ++ events) (hsource : sourceOver (after ++ [h]) = sourceOver after)
    (hpushed : pushedIn (after ++ [h]) = pushedIn after) : Within f earlier (after ++ [h]) c' := by
  obtain ⟨taken, htaken, hlaw⟩ := hw.calls
  refine ⟨hover.trans (hw.isOver.trans hsource.symm), taken ++ events, ?_, ?_⟩
  · rw [hcalls, htaken, List.append_assoc]
  · rw [hpushed, ← hlaw, hleft, List.append_assoc]

theorem Within.same (hw : Within f earlier after c) (hover : c'.isOver = c.isOver)
    (hleft : c'.left = c.left) (hcalls : c'.calls = c.calls)
    (hsource : sourceOver (after ++ [h]) = sourceOver after)
    (hpushed : pushedIn (after ++ [h]) = pushedIn after) : Within f earlier (after ++ [h]) c' :=
  hw.onward hover hleft.symm (hcalls.trans (List.append_nil _).symm) hsource hpushed

/-- What the source has is due, and left. -/
theorem Within.give (hc : c.Sound f) (hw : Within f earlier after c)
    (hrunning : c.watcher.isRunning = true) {g : Given} (hends : h.endsSource = g.isLast)
    (hpushed : (pushedIn [h]).flatMap f.events = g.events f) :
    Within f earlier (after ++ [h]) (c.give g) := by
  have hsource : sourceOver (after ++ [h]) = (c.isOver || g.isLast) := by
    rw [sourceOver_concat, hw.isOver, hends]
  cases hover : c.isOver with
  | true =>
    rw [Course.give_of_over hover]
    refine hw.same rfl rfl rfl ?_ ?_
    · rw [hsource, hover, ← hw.isOver, hover]
      rfl
    · rw [pushedIn_append, ← hw.isOver, hover, cond_true, List.append_nil]
  | false =>
    obtain ⟨taken, htaken, hlaw⟩ := hw.calls
    rw [hc.give_of_running hrunning hover]
    refine ⟨?_, taken, htaken, ?_⟩
    · rw [hsource, Course.isOver, List.any_append, List.any_cons, List.any_nil, Bool.or_false]
      rfl
    · rw [pushedIn_append, ← hw.isOver, hover, cond_false, List.flatMap_append, hpushed, ← hlaw]
      simp only [Course.left, List.flatMap_append, List.flatMap_cons, List.flatMap_nil,
        List.append_nil, List.append_assoc, hc.filter]

theorem Within.meet (hc : c.Sound f) (hw : Within f earlier after c)
    (hrunning : c.watcher.isRunning = true)
    (hstill : (c.meet raises h).watcher.isRunning = true) :
    Within f earlier (after ++ [h]) (c.meet raises h) := by
  -- a happening that is none of the source's
  have hquiet (hends : h.endsSource = false) (hpush : pushedIn [h] = []) :
      sourceOver (after ++ [h]) = sourceOver after ∧ pushedIn (after ++ [h]) = pushedIn after := by
    rw [sourceOver_concat, hends, Bool.or_false, pushedIn_append, hpush, Bool.cond_self,
      List.append_nil]
    exact ⟨rfl, rfl⟩
  cases h with
  | start =>
    obtain ⟨hsource, hpushed⟩ := hquiet rfl rfl
    refine hw.same rfl ?_ rfl hsource hpushed
    simp only [Course.meet, start_of_running hrunning]
    rfl
  | stop => cases hstill
  | close => cases hstill
  | push batch => exact hw.give hc hrunning rfl (List.append_nil _)
  | fail reason => exact hw.give hc hrunning rfl rfl
  | finish => exact hw.give hc hrunning rfl rfl
  | step =>
    obtain ⟨hsource, hpushed⟩ := hquiet rfl rfl
    rw [Course.meet] at hstill ⊢
    cases (hc.step raises).1 with
    | settled _ hsame =>
      rw [hsame]
      exact hw.same rfl rfl rfl hsource hpushed
    | onward _ _ hover hleft hcalls => exact hw.onward hover hleft hcalls hsource hpushed
    | ended _ _ hended =>
      rw [hended] at hstill
      cases hstill

/-- **The law holds throughout a run.** -/
theorem Runs.within {before after : List Happening} (hruns : Runs f raises before after) :
    Within f (course f raises before).calls after
      (course f raises (before ++ .start :: after)) := by
  induction after using List.reverseRecOn with
  | nil =>
    rw [course_concat]
    exact within_start (sound_course f raises before) hruns.idle
  | append_singleton after h ih =>
    have hrunning := hruns.of_concat.runs after (List.prefix_refl _)
    have hstill := hruns.runs _ (List.prefix_refl _)
    rw [← List.cons_append, ← List.append_assoc, course_concat] at hstill ⊢
    exact (ih hruns.of_concat).meet (sound_course f raises _) hrunning hstill

/-- A run ends with a stop, or with a step that finds the source over and nothing left. -/
theorem cases_of_ended (hc : c.Sound f) (hrunning : c.watcher.isRunning = true)
    (hended : (c.meet raises h).watcher.isRunning = false) :
    h = .stop ∨ h = .close ∨ h = .step ∧ c.isOver = true ∧ c.left = [] := by
  have hgive (g : Given) (hended : (c.give g).watcher.isRunning = false) : False := by
    rw [Course.running_give, hrunning] at hended
    cases hended
  cases h with
  | start =>
    simp only [Course.meet, start_of_running hrunning, hrunning] at hended
    cases hended
  | stop => exact Or.inl rfl
  | close => exact Or.inr (Or.inl rfl)
  | push batch => exact (hgive _ hended).elim
  | fail reason => exact (hgive _ hended).elim
  | finish => exact (hgive _ hended).elim
  | step =>
    rw [Course.meet] at hended
    cases (hc.step raises).1 with
    | settled _ hsame => rw [hsame, hrunning] at hended; cases hended
    | onward _ hwatcher => rw [hwatcher, hrunning] at hended; cases hended
    | ended hleft hover => exact Or.inr (Or.inr ⟨rfl, hover, hleft⟩)

/-- A run goes on, unless it is stopped, or its task finds the source over. -/
theorem Runs.stays {before : List Happening} (hruns : Runs f raises before after)
    (hstop : h ≠ .stop) (hclose : h ≠ .close) (hstep : h = .step → sourceOver after = false) :
    Runs f raises before (after ++ [h]) := by
  apply hruns.concat
  by_contra hended
  rw [← List.cons_append, ← List.append_assoc, course_concat, Bool.not_eq_true] at hended
  rcases cases_of_ended (sound_course f raises _) (hruns.runs after (List.prefix_refl _)) hended
    with rfl | rfl | ⟨rfl, hover, -⟩
  · exact hstop rfl
  · exact hclose rfl
  · rw [hruns.within.isOver, hstep rfl] at hover
    cases hover

/-- Two courses that cannot be told apart, and never will be. The flag and a task that is
    done may differ while neither watcher runs. -/
inductive Course.Alike : Course → Course → Prop
  | same (c : Course) : Alike c c
  | atRest {c c' : Course} : c.AtRest → c'.AtRest → c.watcher.filter = c'.watcher.filter →
      c.calls = c'.calls → c.journal = c'.journal → Alike c c'

theorem start_congr {w w' : Watcher} (hfilter : w.filter = w'.filter)
    (h : w.isRunning = false) (h' : w'.isRunning = false) : w.start = w'.start := by
  rw [start, start, if_neg (Bool.eq_false_iff.mp h), if_neg (Bool.eq_false_iff.mp h'), hfilter]

theorem Course.Alike.meet (halike : c.Alike c') (h : Happening) :
    (c.meet raises h).Alike (c'.meet raises h) := by
  cases halike with
  | same => exact .same _
  | atRest hc hc' hfilter hcalls hjournal =>
    have hsame : c.Alike c' := .atRest hc hc' hfilter hcalls hjournal
    have hgive (g : Given) : (c.give g).Alike (c'.give g) := by
      rwa [give_of_not_running hc.running, give_of_not_running hc'.running]
    cases h with
    | start =>
      obtain ⟨w, given, rest, called, calls, journal⟩ := c
      obtain ⟨w', given', rest', called', calls', journal'⟩ := c'
      obtain ⟨hidle, ⟨rfl, rfl⟩, rfl⟩ := hc
      obtain ⟨hidle', ⟨rfl, rfl⟩, rfl⟩ := hc'
      dsimp only at hfilter hcalls hjournal hidle hidle'
      subst hcalls hjournal
      simp only [Course.meet, start_congr hfilter hidle hidle']
      exact .same _
    | stop => exact .atRest (atRest_abandon c) (atRest_abandon c') hfilter hcalls hjournal
    | close => exact .atRest (atRest_abandon c) (atRest_abandon c') hfilter hcalls hjournal
    | push batch => exact hgive _
    | fail reason => exact hgive _
    | finish => exact hgive _
    | step =>
      rw [Course.meet, Course.meet, hc.settled.step, hc'.settled.step]
      exact hsame

/-- It asks for what is the case already: to run, or not to run. -/
inductive Idle (c : Course) : Happening → Prop
  | start : c.watcher.isRunning = true → Idle c .start
  | stop : c.watcher.isRunning = false → Idle c .stop
  | close : c.watcher.isRunning = false → Idle c .close

/-- What is due in a run, batch by batch. -/
def DueIn (f : Filter) (after : List Happening) (parts : List (List FileEvent)) : Prop :=
  List.Forall₂ (InOrder f) (pushedIn after) parts

/-- No batch names a path twice. -/
def Distinct (hs : List Happening) : Prop :=
  ∀ batch, .push batch ∈ hs → (batch.map (·.path)).Nodup

theorem DueIn.unique {parts : List (List FileEvent)} (hdistinct : Distinct after)
    (h : DueIn f after parts) : parts = (pushedIn after).map f.events := by
  have hpaths : ∀ batch ∈ pushedIn after, (batch.map (·.path)).Nodup := fun batch hbatch =>
    hdistinct batch (push_mem_of_mem_pushedIn hbatch)
  rw [DueIn] at h
  generalize pushedIn after = batches at h hpaths
  induction h with
  | nil => rfl
  | @cons batch events batches parts hfirst hrest ih =>
    rw [List.map_cons, hfirst.unique (hpaths batch List.mem_cons_self) (inOrder_events f batch),
      ih fun b hb => hpaths b (List.mem_cons_of_mem _ hb)]

end Watcher
end SuiteExplorer.Watch
