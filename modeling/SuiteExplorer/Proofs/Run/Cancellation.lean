/-
  SuiteExplorer/Proofs/Run/Cancellation.lean
  ==========================================
  **What it means to cancel a run.**

  A run that is cancelled is compared with the same run in a world in which nobody can
  cancel it.  Every step of a run goes the same way in both, but for two: when an entry
  is reached, and when its process is waited for, it is seen whether the run is
  cancelled.  So the visits of a run agree with those of the other one up to some entry.
  The wait for the process of one entry may then be called off, and all that follow are only
  skipped (`entries_split`), for every point at which the request may come and however
  late it is seen.

  Each visit says what has become of its process (`Meets`), and none leaves one alive.  A
  process whose wait is called off is killed, unless it has exited by itself and only its
  streams are open.  The listener is one that never fails: at a failure processes are killed
  and entries are left out for another reason (`cancelled_otherwise`).
-/
import SuiteExplorer.Proofs.Run.Lockstep

namespace SuiteExplorer

open Transition

/-! ## 1. Without a cancellation -/

namespace CancelRequest

variable {r : CancelRequest}

theorem isSet_set_of_isSet (h : r.isSet = true) : r.set.isSet = true := by
  cases r with
  | impossible => cases h
  | possible isSet trigger => rfl

theorem isSet_heard (h : r.isSet = true) (text : String) : (r.heard text).isSet = true := by
  cases r with
  | impossible => cases h
  | possible isSet trigger =>
    cases isSet with
    | false => cases h
    | true => rfl

end CancelRequest

namespace Execution

/-- The same in a world in which nobody can cancel the run. -/
def uncancelled (x : Execution) : Execution := { x with cancel := .impossible }

@[simp] theorem sees_uncancelled (x : Execution) (lag : Nat) : x.uncancelled.sees lag = false := rfl

@[simp] theorem isSet_uncancelled (x : Execution) : x.uncancelled.cancel.isSet = false := rfl

theorem uncancelled_tell (x : Execution) (w : Workbench) (text : String) :
    x.uncancelled.tell w text = (x.tell w text).uncancelled := by
  unfold tell
  split
  · rfl
  · rfl

theorem uncancelled_append (x : Execution) (w : Workbench) (text : String) :
    x.uncancelled.append w text = (x.append w text).uncancelled :=
  uncancelled_tell { x with record := x.record.append text } w text

theorem uncancelled_say (x : Execution) (w : Workbench) (line : String) :
    x.uncancelled.say w line = (x.say w line).uncancelled :=
  x.uncancelled_append w _

theorem uncancelled_reachAll (refs : List NodeRef) (state : RunState) (x : Execution) :
    x.uncancelled.reachAll refs state = (x.reachAll refs state).uncancelled := by
  induction refs generalizing x with
  | nil => rfl
  | cons r refs ih => exact ih (x.reach r state)

theorem uncancelled_arrive (x : Execution) : x.uncancelled.arrive = x.arrive.uncancelled := by
  unfold arrive uncancelled
  dsimp only
  split
  · rfl
  · rfl

theorem uncancelled_passOn (x : Execution) (w : Workbench) (s : Stream)
    (pending : Text.Utf8.Pending) (chars : List Char) :
    x.uncancelled.passOn w s pending chars =
      ((x.passOn w s pending chars).1.uncancelled, (x.passOn w s pending chars).2) := by
  unfold passOn
  split
  · rfl
  · dsimp only
    rw [uncancelled_append]

theorem uncancelled_pump (w : Workbench) (pieces : List Bytes) (x : Execution) (s : Stream) :
    x.uncancelled.pump w s pieces =
      ((x.pump w s pieces).1.uncancelled, (x.pump w s pieces).2) := by
  induction pieces generalizing x s with
  | nil => rfl
  | cons piece rest ih =>
    rw [pump, pump]
    dsimp only
    rw [uncancelled_passOn]
    exact ih _ _

theorem uncancelled_settle (x : Execution) (w : Workbench) (e : QueueEntry) (s : Streams)
    (code elapsed : Int) :
    x.uncancelled.settle w e s code elapsed = (x.settle w e s code elapsed).uncancelled := by
  unfold settle
  split
  · exact uncancelled_reachAll e.children .passed (x.noteState _)
  · dsimp only
    rw [uncancelled_say]
    exact uncancelled_reachAll e.children .skipped ((x.say w _).noteState _)

theorem uncancelled_complete (x : Execution) (w : Workbench) (e : QueueEntry) :
    x.uncancelled.complete w e = (x.complete w e).uncancelled :=
  uncancelled_say (x.clearBusy e.ref) w _

/-! ### 1.1 Waiting for a process -/

theorem uncancelled_finishProcess (w : Workbench) (s : Streams) (last : ProcessEnd) (lag lag' : Nat)
    (x : Execution) (h : (x.finishProcess w s last lag).2.2 ≠ .cancelled) :
    x.uncancelled.finishProcess w s last lag' =
      ((x.finishProcess w s last lag).1.uncancelled, (x.finishProcess w s last lag).2) := by
  unfold finishProcess endStream at h ⊢
  simp only [uncancelled_passOn, sees_uncancelled, Bool.false_eq_true, if_false,
    isSet_uncancelled] at h ⊢
  split at h
  · exact absurd rfl h
  · next hseen =>
    rw [if_neg hseen]
    split at h
    · exact absurd rfl h
    · next hseen' =>
      rw [if_neg hseen']
      cases last with
      | exits code => rfl
      | hangs =>
        dsimp only at h ⊢
        split at h
        · exact absurd rfl h
        · next hset => rw [if_neg hset]

/-- **A process that is not cancelled** does what it does when nobody can cancel it. -/
theorem uncancelled_communicate (w : Workbench) (last : ProcessEnd) (events : List ProcessEvent)
    (lag lag' : Nat) (x : Execution) (s : Streams)
    (h : (x.communicate w s last lag events).2.2 ≠ .cancelled) :
    x.uncancelled.communicate w s last lag' events =
      ((x.communicate w s last lag events).1.uncancelled,
        (x.communicate w s last lag events).2) := by
  induction events generalizing x s lag lag' with
  | nil =>
    unfold communicate at h ⊢
    split at h
    · exact absurd rfl h
    · next hseen =>
      rw [if_neg hseen, sees_uncancelled, if_neg (by decide)]
      exact uncancelled_finishProcess w s last _ _ x h
  | cons e rest ih =>
    unfold communicate at h ⊢
    split at h
    · exact absurd rfl h
    · next hseen =>
      rw [if_neg hseen, sees_uncancelled, if_neg (by decide)]
      cases e with
      | stdout bytes =>
        dsimp only [pumpChunk] at h ⊢
        rw [uncancelled_pump]
        exact ih _ _ _ _ h
      | stderr bytes =>
        dsimp only [pumpChunk] at h ⊢
        rw [uncancelled_pump]
        exact ih _ _ _ _ h
      | cancel => exact ih _ _ { x with cancel := x.cancel.set } s h
      | gone => exact ih _ _ x { s with gone := true } h

theorem isSet_of_sees {x : Execution} {lag : Nat} (h : x.sees lag = true) :
    x.cancel.isSet = true := by
  simp only [sees, Bool.and_eq_true] at h
  exact h.1

/-- Whether a wait without an exit code ends, or goes on for ever, the request decides. -/
theorem isSet_finishProcess (w : Workbench) (s : Streams) (last : ProcessEnd) (lag : Nat)
    (x : Execution) :
    ((x.finishProcess w s last lag).2.2 = .cancelled →
        (x.finishProcess w s last lag).1.cancel.isSet = true) ∧
      ((x.finishProcess w s last lag).2.2 = .never →
        (x.finishProcess w s last lag).1.cancel.isSet = false) := by
  unfold finishProcess
  dsimp only
  split
  · next hseen => exact ⟨fun _ => isSet_of_sees hseen, fun h => by cases h⟩
  · split
    · next hseen => exact ⟨fun _ => isSet_of_sees hseen, fun h => by cases h⟩
    · cases last with
      | exits code => exact ⟨fun h => (by cases h), fun h => (by cases h)⟩
      | hangs =>
        dsimp only
        split
        · next hset => exact ⟨fun _ => hset, fun h => by cases h⟩
        · next hset => exact ⟨fun h => (by cases h), fun _ => by simpa using hset⟩

theorem isSet_communicate (w : Workbench) (last : ProcessEnd) (events : List ProcessEvent)
    (lag : Nat) (x : Execution) (s : Streams) :
    ((x.communicate w s last lag events).2.2 = .cancelled →
        (x.communicate w s last lag events).1.cancel.isSet = true) ∧
      ((x.communicate w s last lag events).2.2 = .never →
        (x.communicate w s last lag events).1.cancel.isSet = false) := by
  induction events generalizing x s lag with
  | nil =>
    unfold communicate
    split
    · next hseen => exact ⟨fun _ => isSet_of_sees hseen, fun h => by cases h⟩
    · exact isSet_finishProcess w s last _ x
  | cons e rest ih =>
    unfold communicate
    split
    · next hseen => exact ⟨fun _ => isSet_of_sees hseen, fun h => by cases h⟩
    · cases e with
      | stdout bytes => exact ih _ _ _
      | stderr bytes => exact ih _ _ _
      | cancel => exact ih _ _ _
      | gone => exact ih _ _ _

/-- A process has exited by itself only if it is among what happens that it does. -/
theorem gone_communicate (w : Workbench) (last : ProcessEnd) (events : List ProcessEvent)
    (lag : Nat) (x : Execution) (s : Streams)
    (h : (x.communicate w s last lag events).2.1.gone = true) :
    s.gone = true ∨ .gone ∈ events := by
  induction events generalizing x s lag with
  | nil =>
    refine Or.inl ?_
    unfold communicate finishProcess at h
    dsimp only at h
    split at h
    · exact h
    · split at h
      · exact h
      · split at h
        · exact h
        · cases last with
          | exits code => exact h
          | hangs => exact h
  | cons e rest ih =>
    unfold communicate at h
    split at h
    · exact Or.inl h
    · cases e with
      | stdout bytes => exact (ih _ _ _ h).imp_right (List.mem_cons_of_mem _)
      | stderr bytes => exact (ih _ _ _ h).imp_right (List.mem_cons_of_mem _)
      | cancel => exact (ih _ _ _ h).imp_right (List.mem_cons_of_mem _)
      | gone => exact Or.inr List.mem_cons_self

/-! ### 1.2 A request stays -/

/-- A step records no state and has nothing to do with processes, and a run that is
    cancelled stays so. -/
structure Still (x x' : Execution) : Prop extends x.Rests x' where
  transitions : x'.record.transitions = x.record.transitions
  cancel : x.cancel.isSet = true → x'.cancel.isSet = true

variable {x x' x'' : Execution} {w : Workbench} {e : QueueEntry}

theorem Still.trans (h : x.Still x') (h' : x'.Still x'') : x.Still x'' :=
  ⟨h.toRests.trans h'.toRests, h'.transitions.trans h.transitions, h'.cancel ∘ h.cancel⟩

theorem still_note (x : Execution) (e : JournalEvent) : x.Still (x.note e) :=
  ⟨⟨⟨rfl, rfl⟩, rfl, rfl, rfl, rfl⟩, rfl, id⟩

theorem still_say (x : Execution) (w : Workbench) (line : String) : x.Still (x.say w line) := by
  refine ⟨x.rests_say w line, (x.quiet_say w line).transitions, fun hset => ?_⟩
  unfold say append tell
  split
  · exact CancelRequest.isSet_heard hset _
  · exact hset

theorem still_complete (x : Execution) (w : Workbench) (e : QueueEntry) :
    x.Still (x.complete w e) := by
  have hclear : x.Still (x.clearBusy e.ref) := ⟨⟨⟨rfl, rfl⟩, rfl, rfl, rfl, rfl⟩, rfl, id⟩
  exact hclear.trans (still_say _ w _)

theorem still_arrive (x : Execution) : x.Still x.arrive := by
  refine ⟨⟨⟨rfl, rfl⟩, rfl, rfl, rfl, rfl⟩, rfl, fun hset => ?_⟩
  unfold arrive
  dsimp only
  split
  · exact CancelRequest.isSet_set_of_isSet hset
  · exact hset

end Execution

/-! ## 2. What becomes of a process -/

/-- What becomes of the process of an entry. -/
inductive ProcessFate where
  /-- no command is executed -/
  | absent
  /-- the system does not start it -/
  | refused
  /-- it ends by itself -/
  | exited (code : Int)
  | killed
  /-- it has ended by itself, but the wait for its streams is called off -/
  | gone
  /-- it is waited for and does not end -/
  | alive

/-- A cancellation calls the wait for the process off. -/
def ProcessFate.calledOff : ProcessFate → Bool
  | killed | gone => true
  | _ => false

/-- What an exit code says of an entry and of the nodes below it. -/
inductive ExitSays (e : QueueEntry) : Int → List (Transition NodeRef) → Prop where
  | success (elapsed : Int) :
    ExitSays e 0 (⟨e.ref, .passed, none, some elapsed⟩ :: each e.children .passed)
  | failure {code : Int} (hcode : code ≠ 0) (output : String) (elapsed : Int) :
    ExitSays e code (⟨e.ref, .failed, some output, some elapsed⟩ :: each e.children .skipped)

namespace Execution

/-- From `x` to `x'` the process of an entry meets a fate, and what is recorded of the
    entry once it is started is what that leads to. -/
inductive Meets (w : Workbench) (e : QueueEntry) (x x' : Execution) :
    ProcessFate → List (Transition NodeRef) → Prop where
  | skipped (h : x.Rests x') : Meets w e x x' .absent [⟨e.ref, .skipped, none, none⟩]
  | inexpressible (h : x.Rests x') (reason : String) :
    Meets w e x x' .absent [⟨e.ref, .errored, some reason, none⟩]
  | refused (s : Spawn) (h : w.Spawns e s) (hspawns : x'.spawns = x.spawns ++ [s])
    (hkilled : x'.killed = x.killed) (reason : String)
    (hprocess : x.processes.headD .silent = .refused reason) :
    Meets w e x x' .refused [⟨e.ref, .errored, some reason, none⟩]
  | exited {code : Int} {ts : List (Transition NodeRef)} (h : Exits w e code x x')
    (hts : ExitSays e code ts) : Meets w e x x' (.exited code) ts
  | killed (s : Spawn) (h : w.Spawns e s) (hspawns : x'.spawns = x.spawns ++ [s])
    (hcancel : x'.cancel.isSet = true) (hkilled : x'.killed = x.killed + 1) (elapsed : Int) :
    Meets w e x x' .killed [⟨e.ref, .skipped, none, none⟩,
      ⟨e.ref, .errored, some cancelledMessage, some elapsed⟩]
  | gone (s : Spawn) (h : w.Spawns e s) (hspawns : x'.spawns = x.spawns ++ [s])
    (hcancel : x'.cancel.isSet = true) (hkilled : x'.killed = x.killed) (elapsed : Int)
    (hgone : ∃ events last elapsed, x.processes.headD .silent = .runs events last elapsed ∧
      .gone ∈ events) :
    Meets w e x x' .gone [⟨e.ref, .skipped, none, none⟩,
      ⟨e.ref, .errored, some cancelledMessage, some elapsed⟩]
  | alive (s : Spawn) (h : w.Spawns e s) (hspawns : x'.spawns = x.spawns ++ [s])
    (hcancel : x'.cancel.isSet = false) (hkilled : x'.killed = x.killed) :
    Meets w e x x' .alive []

variable {x x' x'' : Execution} {w : Workbench} {e : QueueEntry} {fate : ProcessFate}
  {ts : List (Transition NodeRef)}

theorem Meets.after (h' : Meets w e x' x'' fate ts) (h : x.Rests x') :
    Meets w e x x'' fate ts := by
  cases h' with
  | skipped h' => exact .skipped (h.trans h')
  | inexpressible h' reason => exact .inexpressible (h.trans h') reason
  | refused s hs hspawns hkilled reason hprocess =>
    exact .refused s hs (by rw [hspawns, h.spawns]) (by rw [hkilled, h.killed]) reason
      (by rw [← h.processes, hprocess])
  | exited h' hts =>
    obtain ⟨hspawned, hprocess, hothers, hkilled⟩ := h'
    rw [h.spawns] at hspawned
    rw [h.processes] at hprocess hothers
    exact .exited ⟨hspawned, hprocess, hothers, hkilled.trans h.killed⟩ hts
  | killed s hs hspawns hcancel hkilled elapsed =>
    exact .killed s hs (by rw [hspawns, h.spawns]) hcancel (by rw [hkilled, h.killed]) elapsed
  | gone s hs hspawns hcancel hkilled elapsed hgone =>
    rw [h.processes] at hgone
    exact .gone s hs (by rw [hspawns, h.spawns]) hcancel (by rw [hkilled, h.killed]) elapsed hgone
  | alive s hs hspawns hcancel hkilled =>
    exact .alive s hs (by rw [hspawns, h.spawns]) hcancel (by rw [hkilled, h.killed])

/-- A process that has met its fate has done so for good. -/
theorem Meets.before (h : Meets w e x x' fate ts) (hfate : fate ≠ .alive) (h' : x'.Still x'') :
    Meets w e x x'' fate ts := by
  cases h with
  | skipped h => exact .skipped (h.trans h'.toRests)
  | inexpressible h reason => exact .inexpressible (h.trans h'.toRests) reason
  | refused s hs hspawns hkilled reason hprocess =>
    exact .refused s hs (h'.spawns.trans hspawns) (h'.killed.trans hkilled) reason hprocess
  | exited h hts =>
    obtain ⟨⟨s, hs, hspawns⟩, hprocess, hothers, hkilled⟩ := h
    exact .exited ⟨⟨s, hs, h'.spawns.trans hspawns⟩, hprocess, h'.processes.trans hothers,
      h'.killed.trans hkilled⟩ hts
  | killed s hs hspawns hcancel hkilled elapsed =>
    exact .killed s hs (h'.spawns.trans hspawns) (h'.cancel hcancel) (h'.killed.trans hkilled)
      elapsed
  | gone s hs hspawns hcancel hkilled elapsed hgone =>
    exact .gone s hs (h'.spawns.trans hspawns) (h'.cancel hcancel) (h'.killed.trans hkilled)
      elapsed hgone
  | alive => exact absurd rfl hfate

/-! ### 2.1 In the work on an entry -/

/-- An entry that is broken off is recorded as such. -/
def closed (e : QueueEntry) : Execution × EntryEnd → Execution
  | (x, .failed reason) => x.breakOff e reason
  | (x, _) => x

/-- The work on an entry leads from `x` to `r`, and to `free` when nobody can cancel it. -/
structure Fares (w : Workbench) (e : QueueEntry) (x : Execution) (r free : Execution × EntryEnd)
    (fate : ProcessFate) (ts : List (Transition NodeRef)) : Prop where
  meets : Meets w e x (closed e r) fate ts
  transitions : (closed e r).record.transitions = x.record.transitions ++ ts
  goesOn : r.2 = .abandoned ↔ fate = .alive
  agrees : fate.calledOff = false → free = (r.1.uncancelled, r.2)

theorem Fares.after {r free : Execution × EntryEnd} (h' : Fares w e x' r free fate ts)
    (h : x.Still x') : Fares w e x r free fate ts :=
  ⟨h'.meets.after h.toRests, by rw [h'.transitions, h.transitions], h'.goesOn, h'.agrees⟩

theorem settle_says (x : Execution) (w : Workbench) (e : QueueEntry) (s : Streams)
    (code elapsed : Int) :
    ∃ ts, (x.settle w e s code elapsed).record.transitions = x.record.transitions ++ ts ∧
      ExitSays e code ts := by
  unfold settle
  split
  · next hcode =>
    subst hcode
    refine ⟨_, ?_, .success elapsed⟩
    rw [transitions_reachAll, List.append_cons]
    rfl
  · next hcode =>
    have hsay := x.quiet_say w s!"test failed (exit code: {code}): {e.node.id}"
    refine ⟨_, ?_, .failure hcode (s.stdout.text ++ "\r\n" ++ s.stderr.text) elapsed⟩
    rw [transitions_reachAll, List.append_cons, ← hsay.transitions]
    rfl

/-- What a process whose wait is called off leaves. -/
theorem settleCancelled_ends (x : Execution) (e : QueueEntry) (gone : Bool) (elapsed : Int) :
    (x.settleCancelled e gone elapsed).spawns = x.spawns ∧
      (x.settleCancelled e gone elapsed).cancel.isSet = x.cancel.isSet ∧
      (x.settleCancelled e gone elapsed).killed = x.killed + (!gone).toNat ∧
      (x.settleCancelled e gone elapsed).record.transitions = x.record.transitions ++
        [⟨e.ref, .skipped, none, none⟩,
          ⟨e.ref, .errored, some cancelledMessage, some elapsed⟩] := by
  rw [settleCancelled, kill_eq]
  exact ⟨rfl, rfl, rfl, List.append_assoc _ _ _⟩

/-- A process whose wait is called off is killed, unless it has exited by itself. -/
theorem settleCancelled_fares {s : Spawn} {events : List ProcessEvent} {last : ProcessEnd}
    {elapsed : Int} {gone : Bool} (hs : w.Spawns e s)
    (hruns : x.processes.headD .silent = .runs events last elapsed)
    (hspawns : x'.spawns = x.spawns ++ [s]) (hkilled : x'.killed = x.killed)
    (htransitions : x'.record.transitions = x.record.transitions)
    (hset : x'.cancel.isSet = true) (hgone : gone = true → .gone ∈ events)
    (free : Execution × EntryEnd) :
    ∃ fate ts, Fares w e x (x'.settleCancelled e gone elapsed, .finished) free fate ts := by
  obtain ⟨hspawns', hcancel, hkilled', htransitions'⟩ := x'.settleCancelled_ends e gone elapsed
  rw [hspawns] at hspawns'
  rw [hset] at hcancel
  rw [hkilled] at hkilled'
  rw [htransitions] at htransitions'
  cases gone with
  | true =>
    exact ⟨.gone, _, .gone s hs hspawns' hcancel hkilled' elapsed ⟨_, _, _, hruns, hgone rfl⟩,
      htransitions', by simp, fun h => by cases h⟩
  | false =>
    exact ⟨.killed, _, .killed s hs hspawns' hcancel hkilled' elapsed, htransitions', by simp,
      fun h => by cases h⟩

/-- **A process** that is spawned is refused, exits, is called off, or is waited for. -/
theorem runProcess_fares {s : Spawn} (hs : w.Spawns e s) (x : Execution) :
    ∃ fate ts, Fares w e x (x.runProcess w e s) (x.uncancelled.runProcess w e s) fate ts := by
  have hscript : x.uncancelled.processes = x.processes := rfl
  have hlags : x.uncancelled.lags = x.lags := rfl
  have hbegun : x.uncancelled.beginProcess e s = (x.beginProcess e s).uncancelled := rfl
  unfold runProcess
  dsimp only
  rw [hscript, hlags, hbegun]
  split
  · next reason hrefused =>
    have hspawns : ((x.beginProcess e s).breakOff e reason).spawns = x.spawns ++ [s] := rfl
    have hkilled : ((x.beginProcess e s).breakOff e reason).killed = x.killed := rfl
    exact ⟨.refused, _, .refused s hs hspawns hkilled reason hrefused, rfl, by simp, fun _ => rfl⟩
  · next events last elapsed hruns =>
    have hagrees := uncancelled_communicate w last events (x.lags.headD 0) (x.lags.headD 0)
      (x.beginProcess e s) {}
    obtain ⟨hrests, hcode⟩ :=
      communicate_rests w last events (x.lags.headD 0) (x.beginProcess e s) {}
    have hquiet :=
      (quiet_communicate w last events (x.lags.headD 0) (x.beginProcess e s) {}).transitions
    obtain ⟨hset, hunset⟩ :=
      isSet_communicate w last events (x.lags.headD 0) (x.beginProcess e s) {}
    split
    · next x' streams code heq =>
      rw [heq] at hagrees hrests hcode hquiet
      rw [hagrees (by simp)]
      have hall := hrests.trans (x'.rests_settle w e streams code elapsed)
      obtain ⟨ts, hts, hsays⟩ := x'.settle_says w e streams code elapsed
      rw [hcode code rfl] at hruns
      refine ⟨.exited code, ts, .exited ?_ hsays, ?_, by simp, fun _ => ?_⟩
      · exact ⟨⟨s, hs, hall.spawns⟩, ⟨events, elapsed, hruns⟩, hall.processes, hall.killed⟩
      · exact hts.trans (by rw [hquiet]; rfl)
      · dsimp only
        rw [uncancelled_settle]
    · next x' streams heq =>
      have hgone := gone_communicate w last events (x.lags.headD 0) (x.beginProcess e s) {}
      rw [heq] at hrests hquiet hset hgone
      exact settleCancelled_fares hs hruns hrests.spawns hrests.killed hquiet (hset rfl)
        (fun h => (hgone h).resolve_left Bool.false_ne_true) _
    · next x' streams heq =>
      rw [heq] at hagrees hrests hquiet hunset
      rw [hagrees (by simp)]
      refine ⟨.alive, [], .alive s hs hrests.spawns (hunset rfl) hrests.killed, ?_, by simp,
        fun _ => rfl⟩
      rw [List.append_nil]
      exact hquiet

theorem runEntry_fares (x : Execution) (w : Workbench) (e : QueueEntry) :
    ∃ fate ts, Fares w e x (x.runEntry w e) (x.uncancelled.runEntry w e) fate ts := by
  have hlook : x.Still (x.lookUp w).2 := ⟨⟨⟨rfl, rfl⟩, rfl, rfl, rfl, rfl⟩, rfl, id⟩
  have hfree : x.uncancelled.lookUp w = ((x.lookUp w).1, (x.lookUp w).2.uncancelled) := rfl
  unfold runEntry
  rw [hfree]
  split
  · next x' heq =>
    rw [heq] at hlook
    rw [heq]
    have hnoted : x'.Still
        ((x'.noteNoToolchain w).addProblem (.noToolchain w.toolchain.goBinary)) :=
      ⟨⟨⟨rfl, rfl⟩, rfl, rfl, rfl, rfl⟩, rfl, id⟩
    have hsaid := (hlook.trans hnoted).trans (still_say _ w noToolchainLine)
    refine ⟨.absent, _, .skipped (hsaid.toRests.trans (rests_reach _ e.ref .skipped)), ?_, by simp,
      fun _ => ?_⟩
    · exact congrArg (· ++ _) hsaid.transitions
    · exact congrArg (fun x => (reach x e.ref .skipped, EntryEnd.finished))
        (uncancelled_say ((x'.noteNoToolchain w).addProblem (.noToolchain w.toolchain.goBinary)) w
          noToolchainLine)
  · next toolchain x' heq =>
    rw [heq] at hlook
    rw [heq]
    dsimp only
    split
    · refine ⟨.absent, _, .skipped ?_, ?_, by simp, fun _ => rfl⟩
      · exact (hlook.trans (still_note _ _)).toRests.trans (rests_reach _ e.ref .skipped)
      · exact congrArg (· ++ _) hlook.transitions
    · next library hlibrary =>
      split
      · next fault _ =>
        refine ⟨.absent, _, .inexpressible ?_ fault.message, ?_, by simp, fun _ => rfl⟩
        · exact (hlook.trans (still_note _ _)).toRests.trans (rests_noteState _ _)
        · exact congrArg (· ++ _) hlook.transitions
      · next arguments harguments =>
        let s : Spawn := ⟨toolchain.binaryPath, arguments, e.node.path.parent,
          toolchain.environment w.environment w.toolchain.testEnv⟩
        have hspawns : w.Spawns e s :=
          ⟨⟨toolchain, rfl, rfl⟩, ⟨library, hlibrary, harguments⟩, rfl⟩
        obtain ⟨fate, ts, hfares⟩ := runProcess_fares hspawns x'
        exact ⟨fate, ts, hfares.after hlook⟩

/-- **An entry that is started** meets its fate, and its block says which one. -/
theorem startEntry_fares (x : Execution) (w : Workbench) (e : QueueEntry) :
    ∃ fate ts, Meets w e x (x.startEntry w false e).1 fate ts ∧
      (x.startEntry w false e).1.record.transitions =
        x.record.transitions ++ ⟨e.ref, .started, none, none⟩ :: ts ∧
      ((x.startEntry w false e).2 = false ↔ fate = .alive) ∧
      (fate.calledOff = false → x.uncancelled.startEntry w false e =
        ((x.startEntry w false e).1.uncancelled, (x.startEntry w false e).2)) := by
  have hsay := x.still_say w s!"Running {e.kindName} {e.node.id}"
  have hstart := hsay.toRests.trans (rests_reach _ e.ref .started)
  have hstarted : ((x.say w s!"Running {e.kindName} {e.node.id}").reach e.ref
      .started).record.transitions = x.record.transitions ++ [⟨e.ref, .started, none, none⟩] :=
    congrArg (· ++ _) hsay.transitions
  unfold startEntry
  simp only [Bool.false_eq_true, if_false, uncancelled_say]
  have hfree : (x.say w s!"Running {e.kindName} {e.node.id}").uncancelled.reach e.ref .started =
      ((x.say w s!"Running {e.kindName} {e.node.id}").reach e.ref .started).uncancelled := rfl
  rw [hfree]
  generalize (x.say w s!"Running {e.kindName} {e.node.id}").reach e.ref .started = x₁ at *
  obtain ⟨fate, ts, hmeets, htransitions, hgoesOn, hagrees⟩ := x₁.runEntry_fares w e
  generalize x₁.runEntry w e = r at *
  generalize x₁.uncancelled.runEntry w e = free at *
  obtain ⟨x₂, last⟩ := r
  refine ⟨fate, ts, ?_⟩
  rw [hstarted, List.append_assoc] at htransitions
  have hmeets' := hmeets.after hstart
  cases last with
  | finished =>
    have hfate : fate ≠ .alive := fun h => by cases hgoesOn.mpr h
    have hclose := x₂.still_complete w e
    refine ⟨hmeets'.before hfate hclose, hclose.transitions.trans htransitions, by simp [hfate],
      fun hne => ?_⟩
    rw [hagrees hne]
    exact congrArg (·, true) (x₂.uncancelled_complete w e)
  | failed reason =>
    have hfate : fate ≠ .alive := fun h => by cases hgoesOn.mpr h
    have hclose := (x₂.breakOff e reason).still_complete w e
    refine ⟨hmeets'.before hfate hclose, hclose.transitions.trans htransitions, by simp [hfate],
      fun hne => ?_⟩
    rw [hagrees hne]
    exact congrArg (·, true) ((x₂.breakOff e reason).uncancelled_complete w e)
  | abandoned =>
    have hfate : fate = .alive := hgoesOn.mp rfl
    subst hfate
    refine ⟨?_, htransitions, by simp, fun hne => ?_⟩
    · cases hmeets' with
      | alive s hs hspawns hcancel hkilled => exact .alive s hs hspawns hcancel hkilled
    · rw [hagrees hne]
      rfl

end Execution

/-! ## 3. Visits -/

namespace Visit

/-- The same visit in a world in which nobody can cancel the run. -/
def uncancelled (v : Visit) : Visit := ⟨v.entry, v.before.uncancelled, v.after.uncancelled⟩

/-- The output that the visit adds, in the pieces in which it has come. -/
def output (v : Visit) : List String :=
  v.after.record.pieces.drop v.before.record.pieces.length

/-- The run is cancelled when the visit begins. -/
def isCancelled (v : Visit) : Bool := v.before.arrive.cancel.isSet

/-- On the visit, the entry is started and its process meets a fate, of which its block
    says what it led to. -/
def Meets (w : Workbench) (v : Visit) (fate : ProcessFate) : Prop :=
  ∃ ts, Execution.Meets w v.entry v.before v.after fate ts ∧
    v.block = ⟨v.entry.ref, .started, none, none⟩ :: ts

/-- The visit only skips its entry. -/
structure Skips (v : Visit) : Prop where
  cancelled : v.isCancelled = true
  block : v.block = [⟨v.entry.ref, .skipped, none, none⟩]
  output : v.output = [s!"Skipped {v.entry.node.id}\r\n"]
  rests : v.before.Rests v.after

end Visit

/-- The visits of a run, beside those when nobody can cancel it.  Before the cancellation
    is seen they agree, then the wait for at most one process is called off, and the rest is
    skipped.  A process that is still alive keeps the run from going on. -/
structure Cancels (w : Workbench) (vs free : List Visit) (goesOn : Bool)
    (before cancelled later : List Visit) : Prop where
  visits : vs = before ++ cancelled ++ later
  agree : before.map Visit.uncancelled <+: free
  reached : ∀ v ∈ before ++ cancelled, v.isCancelled = false
  fates : ∀ v ∈ before, ∃ fate, v.Meets w fate ∧ fate.calledOff = false ∧
    (fate = .alive → goesOn = false)
  atMostOne : cancelled.length ≤ 1
  callsOff : ∀ v ∈ cancelled, v.Meets w .killed ∨ v.Meets w .gone
  skips : ∀ v ∈ later, v.Skips

namespace Cancels

variable {w : Workbench} {vs free before cancelled later : List Visit} {v : Visit}
  {goesOn : Bool} {fate : ProcessFate}

/-- All that is left is skipped. -/
theorem skipped (h : ∀ v ∈ vs, v.Skips) : Cancels w vs free goesOn [] [] vs :=
  ⟨rfl, List.nil_prefix, List.forall_mem_nil _, List.forall_mem_nil _, Nat.zero_le 1,
    List.forall_mem_nil _, h⟩

/-- The wait for the first process is called off. -/
theorem calledOff (hreached : v.isCancelled = false) (hends : v.Meets w .killed ∨ v.Meets w .gone)
    (h : ∀ v ∈ vs, v.Skips) : Cancels w (v :: vs) free goesOn [] [v] vs :=
  ⟨rfl, List.nil_prefix, List.forall_mem_singleton.mpr hreached, List.forall_mem_nil _,
    Nat.le_refl 1, List.forall_mem_singleton.mpr hends, h⟩

/-- Nothing of the request is seen on the first visit. -/
theorem cons (h : Cancels w vs free goesOn before cancelled later)
    (hreached : v.isCancelled = false) (hmeets : v.Meets w fate)
    (hfate : fate.calledOff = false) (halive : fate = .alive → goesOn = false) :
    Cancels w (v :: vs) (v.uncancelled :: free) goesOn (v :: before) cancelled later where
  visits := congrArg (v :: ·) h.visits
  agree := List.cons_prefix_cons.mpr ⟨rfl, h.agree⟩
  reached := List.forall_mem_cons.mpr ⟨hreached, h.reached⟩
  fates := List.forall_mem_cons.mpr ⟨⟨fate, hmeets, hfate, halive⟩, h.fates⟩
  atMostOne := h.atMostOne
  callsOff := h.callsOff
  skips := h.skips

end Cancels

theorem Visit.Meets.of_calledOff {w : Workbench} {v : Visit} {fate : ProcessFate}
    (h : v.Meets w fate) (hfate : fate.calledOff = true) :
    v.after.cancel.isSet = true ∧
      (v.Meets w .killed ∧ v.after.killed = v.before.killed + 1 ∨
        v.Meets w .gone ∧ v.after.killed = v.before.killed) := by
  obtain ⟨ts, hmeets, hblock⟩ := h
  cases hmeets with
  | killed s hs hspawns hcancel hkilled elapsed =>
    exact ⟨hcancel, Or.inl ⟨⟨_, .killed s hs hspawns hcancel hkilled elapsed, hblock⟩, hkilled⟩⟩
  | gone s hs hspawns hcancel hkilled elapsed hgone =>
    exact ⟨hcancel, Or.inr ⟨⟨_, .gone s hs hspawns hcancel hkilled elapsed hgone, hblock⟩, hkilled⟩⟩
  | skipped | inexpressible | refused | exited | alive => cases hfate

theorem Visit.Meets.of_alive {w : Workbench} {v : Visit} (h : v.Meets w .alive) :
    v.after.cancel.isSet = false := by
  obtain ⟨ts, hmeets, -⟩ := h
  cases hmeets with
  | alive s hs hspawns hcancel hkilled => exact hcancel

theorem Visit.Meets.killed_eq {w : Workbench} {v : Visit} {fate : ProcessFate}
    (h : v.Meets w fate) (hfate : fate.calledOff = false) :
    v.after.killed = v.before.killed := by
  obtain ⟨ts, hmeets, -⟩ := h
  cases hmeets with
  | skipped h => exact h.killed
  | inexpressible h reason => exact h.killed
  | refused s hs hspawns hkilled reason hprocess => exact hkilled
  | exited h hts => exact h.killed
  | killed | gone => cases hfate
  | alive s hs hspawns hcancel hkilled => exact hkilled

/-- No process has been killed since there had been `n` of them, or one, that of an entry that
    was cancelled. -/
def KillsOne (w : Workbench) (n : Nat) (x : Execution) (cancelled : List Visit) : Prop :=
  x.killed = n ∨ x.killed = n + 1 ∧ ∃ v ∈ cancelled, v.Meets w .killed

namespace Execution

variable {x x' : Execution} {w : Workbench} {e : QueueEntry}

/-- **An entry that is reached when the run is cancelled** is skipped. -/
theorem entry_skips (hset : x.arrive.cancel.isSet = true) (w : Workbench) (e : QueueEntry) :
    (x.entry w false e).2 = true ∧ (x.entry w false e).1.cancel.isSet = true ∧
      Visit.Skips ⟨e, x, (x.entry w false e).1⟩ := by
  have hsay := x.arrive.still_say w s!"Skipped {e.node.id}"
  have hentry : x.entry w false e =
      ((x.arrive.say w s!"Skipped {e.node.id}").reach e.ref .skipped, true) := by
    rw [entry, if_pos hset]
  have htransitions : ((x.arrive.say w s!"Skipped {e.node.id}").reach e.ref
      .skipped).record.transitions = x.record.transitions ++ [⟨e.ref, .skipped, none, none⟩] :=
    congrArg (· ++ _) hsay.transitions
  have hpieces : ((x.arrive.say w s!"Skipped {e.node.id}").reach e.ref
      .skipped).record.pieces = x.record.pieces ++ [s!"Skipped {e.node.id}" ++ "\r\n"] := by
    unfold say append tell
    split
    · rfl
    · rfl
  rw [hentry]
  refine ⟨rfl, hsay.cancel hset, hset, ?_, ?_, ?_⟩
  · rw [Visit.block, htransitions, List.drop_left]
  · rw [Visit.output, hpieces, List.drop_left]
    rfl
  · exact (x.still_arrive.toRests.trans hsay.toRests).trans (rests_reach _ e.ref .skipped)

/-- **An entry that is reached before that** meets its fate. -/
theorem entry_meets (hset : x.arrive.cancel.isSet = false) (w : Workbench) (e : QueueEntry) :
    ∃ fate, Visit.Meets w ⟨e, x, (x.entry w false e).1⟩ fate ∧
      ((x.entry w false e).2 = false ↔ fate = .alive) ∧
      (fate.calledOff = false → x.uncancelled.entry w false e =
        ((x.entry w false e).1.uncancelled, (x.entry w false e).2)) := by
  obtain ⟨fate, ts, hmeets, htransitions, hgoesOn, hagrees⟩ := x.arrive.startEntry_fares w e
  have hentry : x.entry w false e = x.arrive.startEntry w false e := by
    rw [entry, hset]
    rfl
  have hfree : x.uncancelled.entry w false e = x.arrive.uncancelled.startEntry w false e := by
    rw [entry, uncancelled_arrive]
    rfl
  rw [hfree, hentry]
  refine ⟨fate, ⟨ts, hmeets.after x.still_arrive.toRests, ?_⟩, hgoesOn, hagrees⟩
  rw [Visit.block, htransitions]
  exact List.drop_left

/-- **Once the run is cancelled,** all entries are skipped. -/
theorem entries_skip (w : Workbench) (q : List QueueEntry) (x : Execution)
    (hset : x.cancel.isSet = true) :
    (∀ v ∈ x.visits w false q, v.Skips) ∧ (x.entries w false q).2 = true ∧
      (x.entries w false q).1.killed = x.killed := by
  induction q generalizing x with
  | nil => exact ⟨List.forall_mem_nil _, rfl, rfl⟩
  | cons e rest ih =>
    obtain ⟨hgoesOn, hstays, hskips⟩ := entry_skips (x.still_arrive.cancel hset) w e
    obtain ⟨hvisits, hentries⟩ := visits_cons_of_goesOn (Prod.ext rfl hgoesOn) rest
    obtain ⟨hrest, hcompletes, hkilled⟩ := ih _ hstays
    rw [hvisits, hentries]
    exact ⟨List.forall_mem_cons.mpr ⟨hskips, hrest⟩, hcompletes, hkilled.trans hskips.rests.killed⟩

/-- **How a cancellation splits the visits of a queue.** -/
theorem entries_split (w : Workbench) (q : List QueueEntry) (x : Execution) :
    ∃ before cancelled later, Cancels w (x.visits w false q) (x.uncancelled.visits w false q)
        (x.entries w false q).2 before cancelled later ∧
      KillsOne w x.killed (x.entries w false q).1 cancelled ∧
      ((x.entries w false q).1.cancel.isSet = true → (x.entries w false q).2 = true) := by
  induction q generalizing x with
  | nil => exact ⟨[], [], [], .skipped (List.forall_mem_nil _), Or.inl rfl, fun _ => rfl⟩
  | cons e rest ih =>
    cases hset : x.arrive.cancel.isSet with
    | true =>
      -- the request comes before this entry
      obtain ⟨hgoesOn, hstays, hskips⟩ := entry_skips hset w e
      obtain ⟨hvisits, hentries⟩ := visits_cons_of_goesOn (Prod.ext rfl hgoesOn) rest
      obtain ⟨hrest, hcompletes, hkilled⟩ := entries_skip w rest _ hstays
      rw [hvisits, hentries]
      exact ⟨[], [], _, .skipped (List.forall_mem_cons.mpr ⟨hskips, hrest⟩),
        Or.inl (hkilled.trans hskips.rests.killed), fun _ => hcompletes⟩
    | false =>
      obtain ⟨fate, hmeets, halive, hagrees⟩ := entry_meets hset w e
      cases hentry : x.entry w false e with
      | mk x' goesOn =>
        rw [hentry] at hmeets halive hagrees
        cases hfate : fate.calledOff with
        | true =>
          -- the wait for the process of this entry is called off
          have hgoesOn : goesOn = true := by
            cases goesOn with
            | true => rfl
            | false =>
              rw [halive.mp rfl] at hfate
              cases hfate
          subst hgoesOn
          obtain ⟨hset', hends⟩ := hmeets.of_calledOff hfate
          obtain ⟨hvisits, hentries⟩ := visits_cons_of_goesOn hentry rest
          obtain ⟨hrest, hcompletes, hlater⟩ := entries_skip w rest x' hset'
          rw [hvisits, hentries]
          refine ⟨[], [_], _, .calledOff hset (hends.imp And.left And.left) hrest, ?_,
            fun _ => hcompletes⟩
          rcases hends with ⟨hkills, hkilled⟩ | ⟨-, hkilled⟩
          · exact Or.inr ⟨hlater.trans hkilled, _, List.mem_singleton_self _, hkills⟩
          · exact Or.inl (hlater.trans hkilled)
        | false =>
          -- nothing of the request is seen here
          have hfree := hagrees hfate
          have hkilled : x'.killed = x.killed := hmeets.killed_eq hfate
          cases goesOn with
          | false =>
            have halive' : fate = .alive := halive.mp rfl
            obtain ⟨hvisits, hentries⟩ := visits_cons_of_breaksOff hentry rest
            rw [hvisits, hentries, (visits_cons_of_breaksOff hfree rest).1]
            refine ⟨[_], [], [], .cons (.skipped (List.forall_mem_nil _)) hset hmeets hfate
              fun _ => rfl, Or.inl hkilled, fun h => ?_⟩
            subst halive'
            exact absurd h (by simpa using hmeets.of_alive)
          | true =>
            obtain ⟨hvisits, hentries⟩ := visits_cons_of_goesOn hentry rest
            obtain ⟨before, cancelled, later, hcancels, hkills, hcompletes⟩ := ih x'
            rw [hvisits, hentries, (visits_cons_of_goesOn hfree rest).1]
            rw [hkilled] at hkills
            refine ⟨⟨e, x, x'⟩ :: before, cancelled, later, hcancels.cons hset hmeets hfate
              fun h => ?_, hkills, hcompletes⟩
            exact absurd (halive.mpr h) (by simp)

end Execution

/-! ## 4. Runs -/

namespace Catalog

variable {c : Catalog} {w : Workbench} {r : RunRequest} {x : Execution}

theorem uncancelled_begun (c : Catalog) (w : Workbench) (r : RunRequest) (x : Execution) :
    c.begun w r x.uncancelled = (c.begun w r x).uncancelled :=
  Execution.uncancelled_reachAll _ .enqueued
    (Execution.note { x with record := { debug := r.debug } } _)

/-- **What it means to cancel a run.**  Take any catalog, any accepted request to run
    entries, any behaviour of the world, and any listener that never fails: the request to
    cancel may come before the run, between two entries, by a piece of output, or while a
    process goes on, and it may be seen late.  The visits of the run split.  Those before the
    cancellation is seen are the visits of the same run when nobody can cancel it, each with a
    process that has ended as its exit code says, if there is one.  Then the wait for at most
    one process is called off, which is killed unless it has exited by itself, and its entry
    is skipped and ends in error.  All entries that follow are skipped, which leaves a line of
    output and executes nothing.  No process is alive when the run goes on, none but that one
    has been killed, and a run that is cancelled comes to its end. -/
theorem run_cancelled {sink : Sink} (hsink : sink.Steady)
    (haccepted : (sink.run c w r x).report.rejected = none) (hrun : r.debug = false) :
    let result := sink.run c w r x
    let visits := sink.visitsOf c w r x
    ∃ before cancelled later,
      Cancels w visits (sink.visitsOf c w r x.uncancelled) result.completed before cancelled
        later ∧
      KillsOne w x.killed result.execution cancelled ∧
      (result.execution.cancel.isSet = true → result.completed = true) ∧
      (result.completed = true → visits.map (·.entry) = c.queue r) ∧
      result.report.record.transitions = each ((c.queue r).map (·.ref)) .enqueued ++
        (visits.map (·.block)).flatten := by
  intro result visits
  obtain ⟨hrecord, hends, -⟩ := Sink.run_of_accepted haccepted
  obtain ⟨-, hall, hblocks, -, -⟩ :=
    sink.visits_spec w r.debug (c.queue r) (c.begun w r x)
  obtain ⟨before, cancelled, later, hcancels, hkilled, hcompletes⟩ :=
    Execution.entries_split w (c.queue r) (c.begun w r x)
  have hbegun : (c.begun w r x).killed = x.killed := (Execution.rests_reachAll _ .enqueued _).killed
  have hexecution : result.execution = _ :=
    (congrArg RunResult.execution (hsink.run_eq c w r x)).trans
      (execution_of_accepted (hsink.run_eq c w r x ▸ haccepted))
  have hcompleted : result.completed = _ := hends
  have hresult : result.report.record = _ := hrecord
  rw [hexecution, hcompleted, hresult, hblocks, transitions_begun]
  rw [← hsink.visits_eq, ← hsink.visits_eq, ← hsink.entries_eq, ← uncancelled_begun, ← hrun]
    at hcancels
  rw [hbegun, ← hrun] at hkilled
  rw [← hrun] at hcompletes
  rw [hsink.entries_eq] at hall ⊢
  rw [hsink.entries_eq] at hcancels
  exact ⟨before, cancelled, later, hcancels, hkilled, hcompletes, hall, rfl⟩

/-! ### 4.1 A run that its own output cancels

A test fails, its suite writes a line at which somebody cancels the run, and hangs, and
another test is skipped.  If that is seen late, the suite comes to its end; and if the process
of the suite has gone by then, there is nothing to kill. -/

def boomRequest : RunRequest := { selected := some [3, 2, 4] }

def boomWorld (last : ProcessEnd) (lag : Nat) (events : List ProcessEvent) : Execution where
  cancel := .possible false (some "boom")
  processes := [.runs [] (.exits 1), .runs (events ++ [.stdout "boom".toUTF8.toList]) last]
  lags := [0, lag]

theorem run_cancelled_boom :
    let c := (fresh pairSettings []).performAll pairActs
    let splits := fun (x : Execution) => ∃ before cancelled later,
      Cancels pairBench (Sink.quiet.visitsOf c pairBench boomRequest x)
        (Sink.quiet.visitsOf c pairBench boomRequest x.uncancelled)
        (Sink.quiet.run c pairBench boomRequest x).completed before cancelled later
    let killed := Sink.quiet.run c pairBench boomRequest (boomWorld .hangs 0 [])
    let late := Sink.quiet.run c pairBench boomRequest (boomWorld (.exits 0) 3 [])
    let gone := Sink.quiet.run c pairBench boomRequest (boomWorld .hangs 0 [.gone])
    (killed.report.rejected = none ∧ killed.execution.killed = 1 ∧
        killed.report.record.transitions.map (fun t => (t.node, t.state)) =
          [(3, .enqueued), (2, .enqueued), (4, .enqueued), (3, .started), (3, .failed),
            (2, .started), (2, .skipped), (2, .errored), (4, .skipped)]) ∧
      (late.report.rejected = none ∧ late.execution.killed = 0 ∧
        late.report.record.transitions.map (fun t => (t.node, t.state)) =
          [(3, .enqueued), (2, .enqueued), (4, .enqueued), (3, .started), (3, .failed),
            (2, .started), (2, .passed), (3, .passed), (4, .passed), (4, .skipped)]) ∧
      (gone.report.rejected = none ∧ gone.execution.killed = 0 ∧
        gone.report.record.transitions = killed.report.record.transitions) ∧
      splits (boomWorld .hangs 0 []) ∧ splits (boomWorld (.exits 0) 3 []) ∧
      splits (boomWorld .hangs 0 [.gone]) := by
  intro c splits killed late gone
  have hkilled : killed.report.rejected = none ∧ killed.execution.killed = 1 ∧
      killed.report.record.transitions.map (fun t => (t.node, t.state)) =
        [(3, .enqueued), (2, .enqueued), (4, .enqueued), (3, .started), (3, .failed),
          (2, .started), (2, .skipped), (2, .errored), (4, .skipped)] := by decide +kernel
  have hlate : late.report.rejected = none ∧ late.execution.killed = 0 ∧
      late.report.record.transitions.map (fun t => (t.node, t.state)) =
        [(3, .enqueued), (2, .enqueued), (4, .enqueued), (3, .started), (3, .failed),
          (2, .started), (2, .passed), (3, .passed), (4, .passed), (4, .skipped)] := by
    decide +kernel
  have hgone : gone.report.rejected = none ∧ gone.execution.killed = 0 ∧
      gone.report.record.transitions = killed.report.record.transitions := by decide +kernel
  refine ⟨hkilled, hlate, hgone, ?_, ?_, ?_⟩
  · obtain ⟨before, cancelled, later, hsplits, -⟩ := run_cancelled Sink.quiet_steady hkilled.1 rfl
    exact ⟨before, cancelled, later, hsplits⟩
  · obtain ⟨before, cancelled, later, hsplits, -⟩ := run_cancelled Sink.quiet_steady hlate.1 rfl
    exact ⟨before, cancelled, later, hsplits⟩
  · obtain ⟨before, cancelled, later, hsplits, -⟩ := run_cancelled Sink.quiet_steady hgone.1 rfl
    exact ⟨before, cancelled, later, hsplits⟩

/-! ### 4.2 What else may become of an entry

The process of a suite has gone when the run is cancelled.  A listener fails at the output of
a process, at the line on one that has failed, and at the line on an entry that is skipped.  And
a test is an entry after its suite. -/

def suiteRequest : RunRequest := { selected := some [2] }

/-- A process that has gone is not killed, and its entry ends like one whose process is; a
    process is killed when nobody can cancel the run, because the listener fails; at a failure
    an entry ends in error when its process has exited, and one that would be skipped is
    left; and an entry that is skipped may have passed, with the suite before it. -/
theorem cancelled_otherwise :
    let c := (fresh pairSettings []).performAll pairActs
    let states := fun (result : RunResult) =>
      result.report.record.transitions.map fun t => (t.node, t.state)
    let gone := Sink.quiet.run c pairBench suiteRequest
      { cancel := .possible false (some "boom")
        processes := [.runs [.gone, .stdout "boom".toUTF8.toList] .hangs] }
    let written := (upsetBy "boom").run c pairBench suiteRequest
      { processes := [.runs [.stdout "boom".toUTF8.toList] (.exits 0)] }
    let failed := (upsetBy "test failed").run c pairBench suiteRequest
      { processes := [.runs [] (.exits 1)] }
    let left := (upsetBy "Skipped").run c pairBench suiteRequest { cancel := .possible true }
    let shared := Sink.quiet.run c pairBench { selected := some [2, 3] }
      { cancel := .possible false (some "Completed suite") }
    (gone.execution.killed = 0 ∧
        states gone = [(2, .enqueued), (2, .started), (2, .skipped), (2, .errored)]) ∧
      (written.execution.killed = 1 ∧
        states written = [(2, .enqueued), (2, .started), (2, .errored)]) ∧
      (failed.execution.killed = 0 ∧
        states failed = [(2, .enqueued), (2, .started), (2, .errored)]) ∧
      (left.completed = false ∧ states left = [(2, .enqueued)]) ∧
      states shared = [(2, .enqueued), (3, .enqueued), (2, .started), (2, .passed),
        (3, .passed), (4, .passed), (3, .skipped)] := by
  decide +kernel

end Catalog
end SuiteExplorer
