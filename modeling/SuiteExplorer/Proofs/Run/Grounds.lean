/-
  SuiteExplorer/Proofs/Run/Grounds.lean
  =====================================
  **On what grounds an entry passes or fails.**

  A run entry passes when the one process that was spawned for it exits with code 0,
  and fails when that process exits with another code.  A debugged entry comes to the
  verdict on what the tracker of its own registration has heard.  There is no other
  way to either state: whatever else happens to an entry records states of its own
  that are neither (`Course`), and leaves the nodes below it alone.
-/
import SuiteExplorer.Proofs.Debug.Isolation
import SuiteExplorer.Proofs.Run.Commands

namespace SuiteExplorer

open Transition

/-! ## 1. Registrations stay -/

namespace Correlator

/-- Every registration stays in its place, with its token. -/
def Keeps (c c' : Correlator) : Prop :=
  ∀ (place : Nat) (r : Registration), c.history[place]? = some r →
    ∃ r', c'.history[place]? = some r' ∧ r'.token = r.token

variable {c c' c'' : Correlator} {place : Nat} {r : Registration} {token : String}

theorem Keeps.refl (c : Correlator) : c.Keeps c := fun _ r hr => ⟨r, hr, rfl⟩

theorem Keeps.trans (h : c.Keeps c') (h' : c'.Keeps c'') : c.Keeps c'' := by
  intro place r hr
  obtain ⟨r', hr', htoken⟩ := h place r hr
  obtain ⟨r'', hr'', htoken'⟩ := h' place r' hr'
  exact ⟨r'', hr'', htoken'.trans htoken⟩

theorem keeps_change (c : Correlator) (place : Nat) {f : Registration → Registration}
    (hf : ∀ r, (f r).token = r.token) : c.Keeps (c.change place f) := by
  intro p r hr
  refine ⟨if place = p then f r else r, ?_, ?_⟩
  · change (c.history.modify place f)[p]? = _
    rw [List.getElem?_modify, hr]
    split <;> rfl
  · split
    · exact hf r
    · rfl

theorem keeps_claimTracker (c : Correlator) (s : DebugSession) : c.Keeps (c.claimTracker s).1 := by
  unfold claimTracker
  split
  · exact .refl c
  · split
    · exact .refl c
    · split
      · exact .refl c
      · apply keeps_change
        intro r
        rfl

theorem keeps_sessionStarted (c : Correlator) (s : DebugSession) :
    c.Keeps (c.sessionStarted s) := by
  unfold sessionStarted
  split
  · exact .refl c
  · exact c.keeps_change _ fun r => r.token_start s

theorem keeps_sessionTerminated (c : Correlator) (s : DebugSession) :
    c.Keeps (c.sessionTerminated s).1 := by
  unfold sessionTerminated
  split
  · exact c.keeps_change _ fun r => r.token_terminate s
  · exact .refl c

theorem keeps_dispose (c : Correlator) : c.Keeps c.dispose := by
  have hcancel : ∀ (live : List (String × Nat)) (c : Correlator),
      c.Keeps ⟨live.foldl (fun h e => h.modify e.2 .cancel) c.history, []⟩ := by
    intro live
    induction live with
    | nil => exact fun c => .refl c
    | cons e live ih =>
      intro c
      have hchange : c.Keeps (c.change e.2 .cancel) := c.keeps_change e.2 fun _ => rfl
      exact hchange.trans (ih _)
  exact hcancel c.live c

/-- Giving a token up takes nothing from what its tracker has heard. -/
theorem tracker_release (h : c.history[place]? = some r) (token : String) :
    ∃ r', (c.release token).history[place]? = some r' ∧ r'.token = r.token ∧
      r'.tracker = r.tracker := by
  unfold release
  split
  · exact ⟨r, h, rfl, rfl⟩
  · next p _ =>
    refine ⟨if p = place then r.cancel else r, ?_, ?_, ?_⟩
    · change (c.history.modify p Registration.cancel)[place]? = _
      rw [List.getElem?_modify, h]
      split <;> rfl
    · split <;> rfl
    · split <;> rfl

theorem register_place (c : Correlator) (token : String) :
    (c.register token).1.history[c.history.length]? = some { token := token } := by
  change (c.history ++ [_])[c.history.length]? = _
  rw [List.getElem?_concat_length]

end Correlator

namespace Attempt

/-- An attempt goes on: its place is the same, and so is its registration. -/
structure GoesOn (a a' : Attempt) : Prop where
  place : a'.place = a.place
  registrations : a.execution.correlator.Keeps a'.execution.correlator

variable {a a' a'' : Attempt}

theorem GoesOn.refl (a : Attempt) : a.GoesOn a := ⟨rfl, .refl _⟩

theorem GoesOn.trans (h : a.GoesOn a') (h' : a'.GoesOn a'') : a.GoesOn a'' :=
  ⟨h'.place.trans h.place, h.registrations.trans h'.registrations⟩

theorem goesOn_hear (a : Attempt) (f : DebugTracker → DebugTracker) : a.GoesOn (a.hear f) := by
  unfold hear
  split
  · exact .refl a
  · refine ⟨rfl, ?_⟩
    apply Correlator.keeps_change
    intro r
    rfl

theorem correlator_noteAll (journal : Journal) (x : Execution) :
    (x.noteAll journal).correlator = x.correlator := by
  induction journal generalizing x with
  | nil => rfl
  | cons e journal ih => exact ih (x.note e)

theorem goesOn_deliver (a : Attempt) (e : HostEvent) : a.GoesOn (a.deliver e) := by
  cases e with
  | claim who =>
    have hclaim := a.execution.correlator.keeps_claimTracker (a.sessionOf who)
    simp only [deliver]
    split
    · exact ⟨rfl, hclaim⟩
    · exact ⟨rfl, hclaim⟩
  | started who => exact ⟨rfl, a.execution.correlator.keeps_sessionStarted (a.sessionOf who)⟩
  | terminated who =>
    refine ⟨rfl, ?_⟩
    simp only [deliver, correlator_noteAll]
    exact a.execution.correlator.keeps_sessionTerminated (a.sessionOf who)
  | message m => exact a.goesOn_hear _
  | adapterError text => exact a.goesOn_hear _
  | adapterExit code => exact a.goesOn_hear _
  | log content => exact ⟨rfl, .refl _⟩
  | cancel => exact ⟨rfl, .refl _⟩
  | dispose => exact ⟨rfl, a.execution.correlator.keeps_dispose⟩

theorem goesOn_deliverAll (events : List HostEvent) (a : Attempt) :
    a.GoesOn (a.deliverAll events) := by
  induction events generalizing a with
  | nil => exact .refl a
  | cons e events ih => exact (goesOn_deliver a e).trans (ih (a.deliver e))

theorem goesOn_awaitUntil {decided? : Attempt → Option WaitEnd} {events rest : List HostEvent}
    {last : WaitEnd} (h : a.awaitUntil decided? events = (a', rest, last)) : a.GoesOn a' := by
  induction events generalizing a with
  | nil =>
    cases h
    exact .refl _
  | cons e events ih =>
    unfold awaitUntil at h
    split at h
    · cases h
      exact .refl _
    · exact (goesOn_deliver _ e).trans (ih h)

end Attempt

/-! ## 2. Away from commands -/

namespace Execution

variable {x x' x'' : Execution} {w : Workbench} {e : QueueEntry}

/-- While a process is waited for, nothing is done but to pass on what it writes.  If the
    wait ends with an exit code, it is the one with which the process ends. -/
theorem communicate_rests (w : Workbench) (last : ProcessEnd) (events : List ProcessEvent)
    (lag : Nat) (x : Execution) (s : Streams) :
    x.Rests (x.communicate w s last lag events).1 ∧
      ∀ code, (x.communicate w s last lag events).2.2 = .exited code → last = .exits code := by
  have hcancel : ∀ y : Execution, y.Rests { y with cancel := y.cancel.set } :=
    fun _ => ⟨⟨rfl, rfl⟩, rfl, rfl, rfl, rfl⟩
  refine ⟨?_, fun code hexited => ?_⟩
  · exact communicate_keeps (fun y text hy => hy.trans (y.rests_append w text))
      (fun y hy => hy.trans (hcancel y)) (.refl x) s last lag events
  · have hend := communicate_waitsFor w last events lag x s
    rw [hexited] at hend
    cases hend
    rfl

theorem rests_showDebuggerLog (x : Execution) (w : Workbench) (path : Path) :
    x.Rests (x.showDebuggerLog w path) := by
  unfold showDebuggerLog
  split
  · exact .refl x
  · dsimp only
    split
    · exact .refl x
    · exact x.rests_say w _

theorem rests_complete (x : Execution) (w : Workbench) (e : QueueEntry) :
    x.Rests (x.complete w e) := by
  have hclear : x.Rests (x.clearBusy e.ref) := ⟨⟨rfl, rfl⟩, rfl, rfl, rfl, rfl⟩
  exact hclear.trans (rests_say _ w _)

/-! ## 3. Grounds -/

/-- The process of an entry, the only one spawned for it, has exited by itself with a
    code. -/
structure Exits (w : Workbench) (e : QueueEntry) (code : Int) (x x' : Execution) : Prop where
  spawned : ∃ s, w.Spawns e s ∧ x'.spawns = x.spawns ++ [s]
  process : ∃ events elapsed, x.processes.headD .silent = .runs events (.exits code) elapsed
  others : x'.processes = x.processes.tail
  killed : x'.killed = x.killed

/-- A session has been launched for an entry, under the token of the registration `r`, the
    first one since `x`; what the tracker of `r` has heard amounts to a verdict. -/
structure Amounts (w : Workbench) (e : QueueEntry) (l : Launched) (r : Registration)
    (verdict : RunState) (x x' : Execution) : Prop where
  launches : w.Launches e l
  launched : x'.launched = x.launched ++ [l]
  token : ((correlationKey, .text r.token) : Atom × Value) ∈ l.configuration
  registered : x'.correlator.history[x.correlator.history.length]? = some r
  verdict : DebugTracker.verdict? r.tracker = .ok verdict

/-- What an entry may pass or fail on. -/
inductive Grounds (w : Workbench) (e : QueueEntry) (x x' : Execution) :
    Bool → RunState → Prop where
  | success (h : Exits w e 0 x x') : Grounds w e x x' false .passed
  | failure {code : Int} (hcode : code ≠ 0) (h : Exits w e code x x') :
    Grounds w e x x' false .failed
  | verdict {l : Launched} {r : Registration} {s : RunState} (h : Amounts w e l r s x x') :
    Grounds w e x x' true s

variable {debug : Bool} {s : RunState}

theorem Grounds.after (h' : Grounds w e x' x'' debug s) (h : x.Rests x') :
    Grounds w e x x'' debug s := by
  have hexits : ∀ code, Exits w e code x' x'' → Exits w e code x x'' := by
    intro code hexits
    obtain ⟨hspawned, hprocess, hothers, hkilled⟩ := hexits
    rw [h.spawns] at hspawned
    rw [h.processes] at hprocess hothers
    exact ⟨hspawned, hprocess, hothers, hkilled.trans h.killed⟩
  cases h' with
  | success h' => exact .success (hexits 0 h')
  | failure hcode h' => exact .failure hcode (hexits _ h')
  | verdict h' =>
    obtain ⟨hlaunches, hlaunched, htoken, hregistered, hverdict⟩ := h'
    rw [h.launched] at hlaunched
    rw [h.correlator] at hregistered
    exact .verdict ⟨hlaunches, hlaunched, htoken, hregistered, hverdict⟩

theorem Grounds.before (h : Grounds w e x x' debug s) (h' : x'.Rests x'') :
    Grounds w e x x'' debug s := by
  have hexits : ∀ code, Exits w e code x x' → Exits w e code x x'' := by
    intro code hexits
    obtain ⟨⟨s, hs, hspawns⟩, hprocess, hothers, hkilled⟩ := hexits
    exact ⟨⟨s, hs, h'.spawns.trans hspawns⟩, hprocess, h'.processes.trans hothers,
      h'.killed.trans hkilled⟩
  cases h with
  | success h => exact .success (hexits 0 h)
  | failure hcode h => exact .failure hcode (hexits _ h)
  | verdict h =>
    refine .verdict ⟨h.launches, h'.launched.trans h.launched, h.token, ?_, h.verdict⟩
    rw [h'.correlator]
    exact h.registered

end Execution

/-! ## 4. The course of an entry -/

/-- What is recorded of an entry: states of its own, and perhaps at last that it passes or
    fails, for which there are grounds `P`.  In step with that, and only then, come
    the nodes below it. -/
inductive Course (P : RunState → Prop) (e : QueueEntry) : List (Transition NodeRef) → Prop where
  | nil : Course P e []
  | own {s : RunState} {ts : List (Transition NodeRef)} (message : Option String)
    (duration : Option Int) (hpassed : s ≠ .passed) (hfailed : s ≠ .failed) (h : Course P e ts) :
    Course P e (⟨e.ref, s, message, duration⟩ :: ts)
  | passed (duration : Option Int) (h : P .passed) :
    Course P e (⟨e.ref, .passed, none, duration⟩ :: each e.children .passed)
  | failed (message : Option String) (duration : Option Int) (h : P .failed) :
    Course P e (⟨e.ref, .failed, message, duration⟩ :: each e.children .skipped)

section Course

variable {P Q : RunState → Prop} {e : QueueEntry} {ts : List (Transition NodeRef)}

theorem Course.mono (h : Course P e ts) (hPQ : ∀ s, P s → Q s) : Course Q e ts := by
  induction h with
  | nil => exact .nil
  | own message duration hpassed hfailed _ ih =>
    exact .own message duration hpassed hfailed ih
  | passed duration h => exact .passed duration (hPQ _ h)
  | failed message duration h => exact .failed message duration (hPQ _ h)

theorem Course.skipped : Course P e [⟨e.ref, .skipped, none, none⟩] :=
  .own none none (by decide) (by decide) .nil

theorem Course.errored (reason : String) (duration : Option Int) :
    Course P e [⟨e.ref, .errored, some reason, duration⟩] :=
  .own (some reason) duration (by decide) (by decide) .nil

theorem Course.covers (h : Course P e ts) : ∀ t ∈ ts, e.Covers t.node := by
  have hbelow : ∀ {s : RunState}, ∀ t ∈ each e.children s, e.Covers t.node := by
    intro s t ht
    obtain ⟨n, hn, rfl⟩ := mem_each.mp ht
    exact Or.inr hn
  induction h with
  | nil => exact fun t ht => by cases ht
  | own message duration _ _ _ ih => exact List.forall_mem_cons.mpr ⟨Or.inl rfl, ih⟩
  | passed duration _ => exact List.forall_mem_cons.mpr ⟨Or.inl rfl, hbelow⟩
  | failed message duration _ => exact List.forall_mem_cons.mpr ⟨Or.inl rfl, hbelow⟩

theorem lastState?_each {refs : List NodeRef} {n : NodeRef} (hn : n ∈ refs) (s : RunState) :
    lastState? (each refs s) n = some s := by
  cases hlast : lastState? (each refs s) n with
  | none => exact absurd rfl (lastState?_eq_none.mp hlast _ (mem_each.mpr ⟨n, hn, rfl⟩))
  | some s' =>
    obtain ⟨t, ht, -, rfl⟩ := mem_of_lastState? hlast
    obtain ⟨m, -, rfl⟩ := mem_each.mp ht
    rfl

theorem lastState?_cons (t : Transition NodeRef) (ts : List (Transition NodeRef)) (n : NodeRef) :
    lastState? (t :: ts) n = (lastState? ts n).or (lastState? [t] n) :=
  lastState?_append [t] ts n

/-- In what state an entry and the nodes below it are left. -/
structure Course.InStep (P : RunState → Prop) (e : QueueEntry) (ts : List (Transition NodeRef)) :
    Prop where
  passed : lastState? ts e.ref = some .passed →
    P .passed ∧ ∀ n ∈ e.children, lastState? ts n = some .passed
  failed : lastState? ts e.ref = some .failed →
    P .failed ∧ ∀ n ∈ e.children, lastState? ts n = some .skipped
  otherwise : lastState? ts e.ref ≠ some .passed → lastState? ts e.ref ≠ some .failed →
    ∀ n ∈ e.children, lastState? ts n = none

/-- An entry that passes or fails is followed by the nodes below it. -/
theorem lastState?_settled (hself : e.ref ∉ e.children) {t : Transition NodeRef}
    (ht : t.node = e.ref) (s : RunState) :
    lastState? (t :: each e.children s) e.ref = some t.state ∧
      ∀ n ∈ e.children, lastState? (t :: each e.children s) n = some s := by
  have hbelow : lastState? (each e.children s) e.ref = none := by
    rw [lastState?_eq_none]
    intro t ht
    obtain ⟨n, hn, rfl⟩ := mem_each.mp ht
    exact fun heq => hself (heq ▸ hn)
  refine ⟨?_, fun n hn => ?_⟩
  · rw [lastState?_cons, hbelow, Option.none_or]
    simp [lastState?, ht]
  · rw [lastState?_cons, lastState?_each hn, Option.some_or]

/-- **An entry and the nodes below it are in step** when its course has ended. -/
theorem Course.inStep (h : Course P e ts) (hself : e.ref ∉ e.children) : InStep P e ts := by
  induction h with
  | nil => exact ⟨nofun, nofun, fun _ _ _ _ => rfl⟩
  | @own s ts message duration hpassed hfailed _ ih =>
    have hchild : ∀ n ∈ e.children,
        lastState? (⟨e.ref, s, message, duration⟩ :: ts) n = lastState? ts n := by
      intro n hn
      have hnone : lastState? [⟨e.ref, s, message, duration⟩] n = none := by
        rw [lastState?_eq_none]
        intro t ht heq
        rw [List.mem_singleton.mp ht] at heq
        have hnode : e.ref = n := heq
        exact hself (hnode ▸ hn)
      rw [lastState?_cons, hnone, Option.or_none]
    -- the state of the entry is a later one, or `s`, which decides nothing
    have hlast : ∀ s', s' ≠ s →
        (lastState? (⟨e.ref, s, message, duration⟩ :: ts) e.ref = some s' ↔
          lastState? ts e.ref = some s') := by
      intro s' hs
      have hentry : lastState? [⟨e.ref, s, message, duration⟩] e.ref = some s := by
        simp [lastState?]
      rw [lastState?_cons, hentry]
      cases lastState? ts e.ref with
      | none => simpa using fun heq => hs heq.symm
      | some s'' => simp
    have hpassed' := hlast .passed (Ne.symm hpassed)
    have hfailed' := hlast .failed (Ne.symm hfailed)
    refine ⟨fun hs => ?_, fun hs => ?_, fun hnp hnf n hn => ?_⟩
    · obtain ⟨hP, hbelow⟩ := ih.passed (hpassed'.mp hs)
      exact ⟨hP, fun n hn => (hchild n hn).trans (hbelow n hn)⟩
    · obtain ⟨hP, hbelow⟩ := ih.failed (hfailed'.mp hs)
      exact ⟨hP, fun n hn => (hchild n hn).trans (hbelow n hn)⟩
    · rw [hchild n hn]
      exact ih.otherwise (mt hpassed'.mpr hnp) (mt hfailed'.mpr hnf) n hn
  | passed duration hP =>
    obtain ⟨hentry, hbelow⟩ :=
      lastState?_settled hself (t := ⟨e.ref, .passed, none, duration⟩) rfl .passed
    refine ⟨fun _ => ⟨hP, hbelow⟩, fun hs => ?_, fun hnp => absurd hentry hnp⟩
    rw [hentry] at hs
    cases hs
  | failed message duration hP =>
    obtain ⟨hentry, hbelow⟩ :=
      lastState?_settled hself (t := ⟨e.ref, .failed, message, duration⟩) rfl .skipped
    refine ⟨fun hs => ?_, fun _ => ⟨hP, hbelow⟩, fun _ hnf => absurd hentry hnf⟩
    rw [hentry] at hs
    cases hs

end Course

namespace Execution

/-- What is recorded from `x` to `x'` is the course of an entry. -/
def Takes (P : RunState → Prop) (e : QueueEntry) (x x' : Execution) : Prop :=
  ∃ ts, x'.record.transitions = x.record.transitions ++ ts ∧ Course P e ts

variable {P Q : RunState → Prop} {e : QueueEntry} {x x' x'' : Execution} {w : Workbench}

theorem Takes.mono (h : Takes P e x x') (hPQ : ∀ s, P s → Q s) : Takes Q e x x' := by
  obtain ⟨ts, hts, hcourse⟩ := h
  exact ⟨ts, hts, hcourse.mono hPQ⟩

theorem Takes.after (h' : Takes P e x' x'')
    (h : x'.record.transitions = x.record.transitions) : Takes P e x x'' := by
  obtain ⟨ts, hts, hcourse⟩ := h'
  exact ⟨ts, by rw [hts, h], hcourse⟩

theorem Takes.before (h : Takes P e x x')
    (h' : x''.record.transitions = x'.record.transitions) : Takes P e x x'' := by
  obtain ⟨ts, hts, hcourse⟩ := h
  exact ⟨ts, h'.trans hts, hcourse⟩

theorem takes_nothing (h : x'.record.transitions = x.record.transitions) : Takes P e x x' :=
  ⟨[], by rw [h, List.append_nil], .nil⟩

theorem takes_skipped (x : Execution) (e : QueueEntry) : Takes P e x (x.reach e.ref .skipped) :=
  ⟨_, rfl, .skipped⟩

theorem takes_cancelled (x : Execution) (e : QueueEntry) (duration : Option Int) :
    Takes P e x ((x.reach e.ref .skipped).noteState
      ⟨e.ref, .errored, some cancelledMessage, duration⟩) :=
  ⟨_, List.append_assoc _ _ _, .own none none (by decide) (by decide) (.errored _ duration)⟩

/-- The work on an entry from `x` to `x'` is its course, with its own grounds. -/
def Earns (w : Workbench) (debug : Bool) (e : QueueEntry) (x x' : Execution) : Prop :=
  Takes (Grounds w e x x' debug) e x x'

variable {debug : Bool}

theorem Earns.after (h' : Earns w debug e x' x'')
    (hrests : x.Rests x') (h : x'.record.transitions = x.record.transitions) :
    Earns w debug e x x'' :=
  (Takes.after h' h).mono fun _ hs => hs.after hrests

theorem Earns.before (h : Earns w debug e x x')
    (hrests : x'.Rests x'') (h' : x''.record.transitions = x'.record.transitions) :
    Earns w debug e x x'' :=
  (Takes.before h h').mono fun _ hs => hs.before hrests

/-! ### 4.1 In a process -/

/-- What an exit code decides. -/
def OfCode (code : Int) (s : RunState) : Prop :=
  code = 0 ∧ s = .passed ∨ code ≠ 0 ∧ s = .failed

theorem settle_takes (x : Execution) (w : Workbench) (e : QueueEntry) (s : Streams)
    (code elapsed : Int) : Takes (OfCode code) e x (x.settle w e s code elapsed) := by
  unfold settle
  split
  · next hcode =>
    refine ⟨_, ?_, .passed (some elapsed) (Or.inl ⟨hcode, rfl⟩)⟩
    rw [transitions_reachAll, List.append_cons]
    rfl
  · next hcode =>
    have hsay := x.quiet_say w s!"test failed (exit code: {code}): {e.node.id}"
    have hcourse : Course (OfCode code) e
        (⟨e.ref, .failed, some (s.stdout.text ++ "\r\n" ++ s.stderr.text), some elapsed⟩ ::
          each e.children .skipped) :=
      .failed _ (some elapsed) (Or.inr ⟨hcode, rfl⟩)
    refine ⟨_, ?_, hcourse⟩
    rw [transitions_reachAll, List.append_cons, ← hsay.transitions]
    rfl

theorem runProcess_earns {s : Spawn} (hs : w.Spawns e s) (x : Execution) :
    Earns w false e x (x.runProcess w e s).1 := by
  unfold runProcess
  dsimp only
  split
  · exact takes_nothing rfl
  · next events last elapsed hscript =>
    obtain ⟨hrests, hcode⟩ :=
      communicate_rests w last events (x.lags.headD 0) (x.beginProcess e s) {}
    have hquiet :=
      (quiet_communicate w last events (x.lags.headD 0) (x.beginProcess e s) {}).transitions
    split
    · next x' streams code heq =>
      rw [heq] at hrests hcode hquiet
      rw [hcode code rfl] at hscript
      have hexits : Exits w e code x (x'.settle w e streams code elapsed) := by
        have hall := hrests.trans (x'.rests_settle w e streams code elapsed)
        exact ⟨⟨s, hs, hall.spawns⟩, ⟨events, elapsed, hscript⟩, hall.processes, hall.killed⟩
      refine ((settle_takes x' w e streams code elapsed).after hquiet).mono ?_
      rintro s' (⟨rfl, rfl⟩ | ⟨hne, rfl⟩)
      · exact .success hexits
      · exact .failure hne hexits
    · next x' streams heq =>
      rw [heq] at hquiet
      exact (takes_cancelled _ e (some elapsed)).after
        ((x'.quiet_kill streams.gone).transitions.trans hquiet)
    · next x' streams heq =>
      rw [heq] at hquiet
      exact takes_nothing hquiet

/-- **A run entry** passes or fails on the exit code of its process. -/
theorem runEntry_earns (x : Execution) (w : Workbench) (e : QueueEntry) :
    Earns w false e x (x.runEntry w e).1 := by
  have hlook : x.Rests (x.lookUp w).2 := ⟨⟨rfl, rfl⟩, rfl, rfl, rfl, rfl⟩
  have hrecord : (x.lookUp w).2.record = x.record := rfl
  unfold runEntry
  split
  · next x' heq =>
    rw [heq] at hrecord
    have htransitions : x'.record.transitions = x.record.transitions :=
      congrArg Record.transitions hrecord
    exact (takes_skipped _ e).after ((quiet_say _ w noToolchainLine).transitions.trans htransitions)
  · next toolchain x' heq =>
    rw [heq] at hlook hrecord
    have htransitions : x'.record.transitions = x.record.transitions :=
      congrArg Record.transitions hrecord
    split
    · exact (takes_skipped _ e).after htransitions
    · next library hlibrary =>
      split
      · exact takes_nothing htransitions
      · next arguments harguments =>
        refine (runProcess_earns ?_ x').after hlook htransitions
        exact ⟨⟨toolchain, rfl, rfl⟩, ⟨library, hlibrary, harguments⟩, rfl⟩

/-! ### 4.2 In a debug session -/

theorem settleDebugged_takes (x : Execution) (e : QueueEntry) (verdict : RunState)
    (transcript : String) : Takes (· = verdict) e x (x.settleDebugged e verdict transcript) := by
  unfold settleDebugged
  split
  · refine ⟨_, ?_, .passed none rfl⟩
    rw [transitions_reachAll, List.append_cons]
    rfl
  · refine ⟨_, ?_, .failed (some transcript) none rfl⟩
    rw [transitions_reachAll, List.append_cons]
    rfl
  · exact takes_skipped x e

theorem concludeDebug_takes {tracker? : Option DebugTracker}
    (h : x.concludeDebug w e tracker? = .ok x') :
    Takes (fun s => DebugTracker.verdict? tracker? = .ok s) e x x' := by
  obtain ⟨x₁, verdict, transcript, hsaid, hverdict, rfl⟩ := concludeDebug_eq_ok h
  have hsame : x₁.record.transitions = x.record.transitions := by
    rcases hsaid with rfl | ⟨said, rfl⟩
    · rfl
    · exact (x.quiet_say w said).transitions
  refine ((x₁.settleDebugged_takes e verdict transcript).after hsame).mono ?_
  rintro s rfl
  exact hverdict

/-- What the registration in a place has heard amounts to a verdict. -/
def Judges (place : Nat) (token : String) (x : Execution) (s : RunState) : Prop :=
  ∃ r, x.correlator.history[place]? = some r ∧ r.token = token ∧
    DebugTracker.verdict? r.tracker = .ok s

theorem awaitSession_takes {a : Attempt} {r : Registration}
    (hr : a.execution.correlator.history[a.place]? = some r) (w : Workbench) (e : QueueEntry)
    (script : HostScript) :
    Takes (Judges a.place r.token (awaitSession a w e script).1) e a.execution
      (awaitSession a w e script).1 := by
  unfold awaitSession
  split
  next a' rest last hwait =>
    have hquiet := (quiet_awaitUntil hwait).transitions
    have hgoes := Attempt.goesOn_awaitUntil hwait
    obtain ⟨r', hr', htoken⟩ := hgoes.registrations a.place r hr
    dsimp only
    split
    · have hstop := (quiet_stop a' e script rest).transitions
      cases hend : a'.stop e script rest with
      | mk a'' ended =>
        rw [hend] at hstop
        cases ended with
        | finished => exact (takes_cancelled _ e none).after (hstop.trans hquiet)
        | failed reason => exact takes_nothing (hstop.trans hquiet)
        | abandoned => exact takes_nothing (hstop.trans hquiet)
    · exact takes_nothing hquiet
    · exact takes_nothing hquiet
    · unfold concludeSession
      cases hconclude : a'.execution.concludeDebug w e a'.tracker? with
      | error fault => exact takes_nothing hquiet
      | ok x' =>
        have hrests := rests_concludeDebug hconclude
        have hlog := x'.quiet_showDebuggerLog w a'.logFile
        refine (((concludeDebug_takes hconclude).before hlog.transitions).after hquiet).mono ?_
        intro s hs
        have htracker : a'.tracker? = r'.tracker := by
          rw [Attempt.tracker?, Attempt.registration?, hgoes.place, hr']
          rfl
        refine ⟨r', ?_, htoken, htracker ▸ hs⟩
        have hcorrelator := (hrests.trans (x'.rests_showDebuggerLog w a'.logFile)).correlator
        exact hcorrelator ▸ hr'

theorem startSession_earns {bare configuration : Entries} {toolchain? : Option Toolchain}
    {token : String} (hbare : w.launchConfiguration toolchain? e.node e.what = .ok bare)
    (hbegins : bare <+: configuration)
    (htoken : ((correlationKey, .text token) : Atom × Value) ∈ configuration) (x : Execution)
    (logFile : Path) : Earns w true e x (x.startSession w e token configuration logFile).1 := by
  let begun := x.beginAttempt e token configuration logFile
  have hmeanwhile := quiet_deliverAll (x.hosts.headD {}).meanwhile begun
  have hquiet : (begun.deliverAll
      (x.hosts.headD {}).meanwhile).execution.record.transitions = x.record.transitions :=
    hmeanwhile.transitions
  unfold startSession
  dsimp only
  split
  · exact takes_nothing hquiet
  · exact (takes_skipped _ e).after ((quiet_say _ w _).transitions.trans hquiet)
  · have hgoes := Attempt.goesOn_deliverAll (x.hosts.headD {}).meanwhile begun
    obtain ⟨r, hr, htoken'⟩ :=
      hgoes.registrations begun.place _ (x.correlator.register_place token)
    rw [← hgoes.place] at hr
    refine ((awaitSession_takes hr w e (x.hosts.headD {})).after hquiet).mono ?_
    rintro s ⟨r', hregistered, hname, hverdict⟩
    rw [hgoes.place] at hregistered
    have hlaunched := (idle_awaitSession _ w e (x.hosts.headD {})).launched.trans hmeanwhile.launched
    refine .verdict ⟨⟨rfl, toolchain?, bare, hbare, hbegins⟩, hlaunched, ?_, hregistered, hverdict⟩
    rw [hname, htoken']
    exact htoken

theorem rests_launchConfiguration (x : Execution) (w : Workbench) (node : NodeInfo)
    (what : Runnable) : x.Rests (x.launchConfiguration w node what).1 := by
  unfold launchConfiguration
  dsimp only
  split
  · unfold tell
    split
    · exact ⟨⟨rfl, rfl⟩, rfl, rfl, rfl, rfl⟩
    · exact ⟨⟨rfl, rfl⟩, rfl, rfl, rfl, rfl⟩
  · exact ⟨⟨rfl, rfl⟩, rfl, rfl, rfl, rfl⟩

/-- Giving a token up takes nothing from the grounds. -/
theorem Earns.release (h : Earns w true e x x') (token : String) :
    Earns w true e x { x' with correlator := x'.correlator.release token } := by
  refine (Takes.before h rfl).mono fun s hs => ?_
  cases hs with
  | verdict hs =>
    obtain ⟨r', hr', hname, htracker⟩ := Correlator.tracker_release hs.registered token
    exact .verdict ⟨hs.launches, hs.launched, hname ▸ hs.token, hr', htracker ▸ hs.verdict⟩

/-- **A debugged entry** passes or fails on what its tracker has heard. -/
theorem debugEntry_earns (x : Execution) (w : Workbench) (e : QueueEntry) :
    Earns w true e x (x.debugEntry w e).1 := by
  unfold debugEntry
  split
  · exact (takes_skipped _ e).after (quiet_say _ w _).transitions
  · have hquiet := (x.quiet_launchConfiguration w e.node e.what).transitions
    have hrests := x.rests_launchConfiguration w e.node e.what
    split
    · next heq =>
      rw [heq] at hquiet
      exact takes_nothing hquiet
    · next heq =>
      rw [heq] at hquiet
      exact (takes_skipped _ e).after hquiet
    · next x' bare heq =>
      rw [heq] at hquiet hrests
      have hbare := launchConfiguration_eq_ok heq
      dsimp only
      split
      · exact takes_nothing hquiet
      · next files _ =>
        have hready : x.Rests { x' with tokens := x'.tokens + 1, files := files } :=
          ⟨⟨hrests.spawns, hrests.launched⟩, hrests.processes, hrests.killed, hrests.stopped,
            hrests.correlator⟩
        refine Earns.release ?_ _
        refine Earns.after (startSession_earns hbare ?_ ?_ _ _) hready hquiet
        · exact (List.prefix_append _ _).trans (List.prefix_append _ _)
        · simp

/-! ### 4.3 In a run -/

/-- **Every entry** takes its course, whatever the world does. -/
theorem startEntry_earns (x : Execution) (w : Workbench) (debug : Bool) (e : QueueEntry) :
    Earns w debug e x (x.startEntry w debug e).1 := by
  unfold startEntry
  dsimp only
  have hsay := x.rests_say w s!"Running {e.kindName} {e.node.id}"
  have hstart := hsay.trans (rests_reach _ e.ref .started)
  have hstarted : ((x.say w s!"Running {e.kindName} {e.node.id}").reach e.ref
      .started).record.transitions = x.record.transitions ++ [⟨e.ref, .started, none, none⟩] := by
    rw [← (x.quiet_say w s!"Running {e.kindName} {e.node.id}").transitions]
    rfl
  generalize (x.say w s!"Running {e.kindName} {e.node.id}").reach e.ref .started = x₁ at *
  have hearns : Earns w debug e x₁ (if debug then x₁.debugEntry w e else x₁.runEntry w e).1 := by
    cases debug with
    | true => exact debugEntry_earns x₁ w e
    | false => exact runEntry_earns x₁ w e
  have hwork : WorksOn e x₁ (if debug then x₁.debugEntry w e else x₁.runEntry w e) := by
    cases debug with
    | true => exact debugEntry_worksOn x₁ w e
    | false => exact runEntry_worksOn x₁ w e
  generalize (if debug then x₁.debugEntry w e else x₁.runEntry w e) = r at *
  obtain ⟨x₂, last⟩ := r
  -- the start comes first, and whatever follows it is the course
  have hfirst : ∀ {x'}, Earns w debug e x₁ x' → Earns w debug e x x' := by
    rintro x' ⟨ts, hts, hcourse⟩
    refine ⟨⟨e.ref, .started, none, none⟩ :: ts, ?_, ?_⟩
    · rw [hts, hstarted, List.append_assoc]
      rfl
    · exact .own none none (by decide) (by decide) (hcourse.mono fun _ hs => hs.after hstart)
  apply hfirst
  have hcomplete : ∀ x : Execution, (x.complete w e).record.transitions = x.record.transitions :=
    fun x => (quiet_say _ w _).transitions
  cases last with
  | finished => exact hearns.before (x₂.rests_complete w e) (hcomplete x₂)
  | failed reason =>
    obtain ⟨ts, hrecords, hleaves⟩ := hwork
    cases hleaves
    have hbroken := (hrecords.trans (records_breakOff x₂ e reason)).transitions
    exact ⟨_, (hcomplete _).trans hbroken, .errored reason none⟩
  | abandoned => exact hearns.before ⟨⟨rfl, rfl⟩, rfl, rfl, rfl, rfl⟩ rfl

theorem entry_earns (x : Execution) (w : Workbench) (debug : Bool) (e : QueueEntry) :
    Earns w debug e x (x.entry w debug e).1 := by
  have harrive : x.Rests x.arrive := ⟨⟨rfl, rfl⟩, rfl, rfl, rfl, rfl⟩
  unfold entry
  dsimp only
  split
  · exact (takes_skipped _ e).after (quiet_say _ w _).transitions
  · exact (startEntry_earns _ w debug e).after harrive rfl

end Execution
end SuiteExplorer
