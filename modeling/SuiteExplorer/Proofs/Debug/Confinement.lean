/-
  SuiteExplorer/Proofs/Debug/Confinement.lean
  ===========================================
  **A debugged entry cleans up, and it has to do with its own session only.**

  An attempt is confined to its token (`Confined`).  When it is over, the token is not
  pending, and of the others none has gone but by its own end.  At most one session is
  asked to stop, one with the token, when the run is cancelled and the end of the session
  has not been reported.  The entry passes or fails only if its wait was over, and not
  for a cancellation (`Decided`).

  A correlator is shared, so an end that is reported while an entry is debugged is an end
  also for whoever else waits for it.  And the wait can be over in one way in which
  nothing was reported: everything was disposed of.  A run that nobody can cancel breaks
  off there.  One that can be cancelled goes on, and to what its entry comes then is left
  open here.
-/
import SuiteExplorer.Proofs.Debug.Alike
import SuiteExplorer.Proofs.Run.Lockstep

namespace SuiteExplorer

open Transition

/-! ## 1. An attempt -/

namespace Attempt

variable {a a' : Attempt} {token : String} {happened : List HostEvent} {s : DebugSession}

/-- The session of the attempt is to be stopped: the run is cancelled, and the session has
    started under the token and has not ended. -/
structure Asks (token : String) (a : Attempt) (s : DebugSession) : Prop where
  cancelled : a.execution.cancel.isSet = true
  own : s.token = some token
  started : a.started = .arrived s
  terminated : a.terminated = .pending

/-- The wait for the end of the session is over, and not because the run is cancelled. -/
inductive Over (token : String) (happened : List HostEvent) (a : Attempt) : Prop where
  | reported (s : DebugSession) (h : a.terminated = .arrived s) (hs : s.token = some token)
    (who : HostSession) (hwho : who.Carries token) (hmem : .terminated who ∈ happened)
  | disposed (h : a.terminated = .cancelled) (hmem : .dispose ∈ happened)
    (hpossible : a.execution.cancel ≠ .impossible)

/-- What the wait for the end of the session has come to. -/
inductive Ends (a : Attempt) : WaitEnd → Prop where
  | arrived {s : DebugSession} (h : a.terminated = .arrived s) : Ends a (.arrived s)
  | calledOff (h : a.terminated = .cancelled) : Ends a .calledOff
  | cancelRequested (h : a.execution.cancel.isSet = true) : Ends a .cancelRequested
  | never : Ends a .never

theorem ends_ended? (a : Attempt) : a.Ends (a.ended?.getD .never) := by
  unfold Attempt.ended?
  cases hterminated : a.terminated with
  | arrived s => exact .arrived hterminated
  | cancelled => exact .calledOff hterminated
  | pending =>
    cases hset : a.execution.cancel.isSet with
    | true => exact .cancelRequested hset
    | false => exact .never

theorem Informed.started (hi : a.Informed token happened) (h : a.started = .arrived s) :
    s.token = some token := by
  obtain ⟨r, hr, hreported⟩ := hi
  rw [Attempt.started, hr] at h
  exact hreported.started s h

theorem Informed.over_of_arrived (hi : a.Informed token happened)
    (h : a.terminated = .arrived s) : a.Over token happened := by
  obtain ⟨r, hr, hreported⟩ := hi
  have hr' : r.terminated = .arrived s := by rwa [Attempt.terminated, hr] at h
  obtain ⟨hs, who, hwho, hmem⟩ := hreported.terminated s hr'
  exact .reported s h hs who hwho hmem

theorem Informed.over_of_cancelled (hi : a.Informed token happened)
    (h : a.terminated = .cancelled) (hpossible : a.execution.cancel ≠ .impossible) :
    a.Over token happened := by
  obtain ⟨r, hr, hreported⟩ := hi
  have hr' : r.terminated = .cancelled := by rwa [Attempt.terminated, hr] at h
  exact .disposed h (hreported.cancelled hr') hpossible

theorem settled?_eq_arrived {awaited : Awaited} (h : (settled? awaited).getD .never = .arrived s) :
    awaited = .arrived s := by
  cases awaited with
  | pending => cases h
  | cancelled => cases h
  | arrived s' => cases h; rfl

theorem eq_pending_of_not_settled {awaited : Awaited} (h : ¬ awaited.isSettled = true) :
    awaited = .pending := by
  cases awaited with
  | pending => rfl
  | cancelled => exact absurd rfl h
  | arrived s => exact absurd rfl h

theorem cancel_deliver (h : a.execution.cancel.isSet = true) (e : HostEvent) :
    (a.deliver e).execution.cancel.isSet = true := by
  have hseen : (a.deliver e).execution.cancel = (e.marks a.logFile a.execution.seen).cancel :=
    congrArg (·.cancel) (a.seen_deliver e)
  rw [hseen]
  cases e with
  | cancel =>
    change a.execution.cancel.set.isSet = true
    cases hc : a.execution.cancel with
    | impossible => rw [hc] at h; cases h
    | possible isSet trigger => rfl
  | _ => exact h

theorem cancel_deliverAll (events : List HostEvent) (h : a.execution.cancel.isSet = true) :
    (a.deliverAll events).execution.cancel.isSet = true := by
  induction events generalizing a with
  | nil => exact h
  | cons e events ih => exact ih (cancel_deliver h e)

theorem deliverAll_append (a : Attempt) (events events' : List HostEvent) :
    a.deliverAll (events ++ events') = (a.deliverAll events).deliverAll events' :=
  List.foldl_append

/-- The host is asked to stop a session. -/
theorem Own.ask (h : a.Own token) (e : JournalEvent) (s : DebugSession) :
    ((a.note e).ask s).Own token :=
  h.frame rfl rfl rfl rfl

theorem awaitStop_eq (a : Attempt) (id : Entries) (script : HostScript)
    (events : List HostEvent) :
    ∃ later, later <+: events ++ script.onStop ∧
      (a.awaitStop id script events).1.execution.correlator =
        (a.deliverAll later).execution.correlator ∧
      (a.awaitStop id script events).1.execution.stopped = a.execution.stopped := by
  unfold awaitStop
  cases script.stopFails with
  | some reason => exact ⟨[], List.nil_prefix, rfl, rfl⟩
  | none =>
    obtain ⟨later, hsplit, hattempt, -, -⟩ :=
      awaitUntil_eq (fun a => settled? a.terminated) (events ++ script.onStop) a
    have hstopped := (a.stays_deliverAll later).stopped
    generalize a.awaitUntil (fun a => settled? a.terminated) (events ++ script.onStop) = r at *
    obtain ⟨a', rest, last⟩ := r
    dsimp only at hsplit hattempt
    subst hattempt
    refine ⟨later, ⟨rest, hsplit.symm⟩, ?_⟩
    cases last with
    | arrived s => exact ⟨rfl, hstopped⟩
    | calledOff => exact ⟨rfl, hstopped⟩
    | cancelRequested => exact ⟨rfl, hstopped⟩
    | never => exact ⟨rfl, hstopped⟩

/-- What stopping the session of an attempt comes to. -/
structure Stops (token : String) (script : HostScript) (events : List HostEvent)
    (a a' : Attempt) (asked later : List HostEvent) : Prop where
  happened : asked ++ later <+: events ++ script.onStop
  others : a'.others token =
    (a.others token).filter fun t => (asked ++ later).all fun e => !e.ends t
  stopped : a'.execution.stopped = a.execution.stopped ∨ ∃ s, (a.deliverAll asked).Asks token s ∧
    a'.execution.stopped = a.execution.stopped ++ [s.id]

/-- **Stopping a session** has to do with the one that has started under the token. -/
theorem Own.stop (h : a.Own token) (hi : a.Informed token happened)
    (hcancelled : a.execution.cancel.isSet = true) (e : QueueEntry) (script : HostScript)
    (events : List HostEvent) :
    ∃ asked later, Stops token script events a (a.stop e script events).1 asked later := by
  obtain ⟨asked, hsplit, hattempt, hlast, -⟩ :=
    awaitUntil_eq (fun a => settled? a.started) events a
  unfold Attempt.stop
  generalize a.awaitUntil (fun a => settled? a.started) events = r at *
  obtain ⟨a₁, rest, last⟩ := r
  dsimp only at hsplit hattempt hlast
  subst hsplit hattempt
  have hstays := a.stays_deliverAll asked
  have hothers := h.others_deliverAll asked
  -- nothing is asked to stop, and nothing more happens
  have hidle : ∀ {a' : Attempt},
      a'.execution.correlator = (a.deliverAll asked).execution.correlator →
      a'.execution.stopped = (a.deliverAll asked).execution.stopped →
      Stops token script (asked ++ rest) a a' asked [] := by
    intro a' hcorrelator hstopped
    refine ⟨?_, ?_, Or.inl (hstopped.trans hstays.stopped)⟩
    · rw [List.append_nil, List.append_assoc]
      exact List.prefix_append _ _
    · rw [List.append_nil, ← hothers, Attempt.others, hcorrelator, Attempt.others]
  cases last with
  | calledOff => exact ⟨asked, [], hidle rfl rfl⟩
  | cancelRequested => exact ⟨asked, [], hidle rfl rfl⟩
  | never => exact ⟨asked, [], hidle rfl rfl⟩
  | arrived s =>
    dsimp only
    split
    · exact ⟨asked, [], hidle rfl rfl⟩
    · next hopen =>
      have hstarted : (a.deliverAll asked).started = .arrived s := settled?_eq_arrived hlast.symm
      have hasks : (a.deliverAll asked).Asks token s :=
        ⟨cancel_deliverAll asked hcancelled, (h.informed_deliverAll asked hi).started hstarted,
          hstarted, eq_pending_of_not_settled hopen⟩
      let noted : JournalEvent := .info "debug_session_cancelled"
        [("test_id", .text e.node.id), ("session_id", .text s.id)]
      have hown := (h.deliverAll asked).ask noted s
      obtain ⟨later, ⟨rest', hlater⟩, hcorrelator, hstopped⟩ :=
        awaitStop_eq (((a.deliverAll asked).note noted).ask s)
          [("test_id", .text e.node.id), ("session_id", .text s.id)] script rest
      refine ⟨asked, later, ⟨?_, ?_, Or.inr ⟨s, hasks, hstopped.trans ?_⟩⟩⟩
      · rw [List.append_assoc, ← hlater, ← List.append_assoc]
        exact List.prefix_append _ _
      · have hbefore : (((a.deliverAll asked).note noted).ask s).others token = _ := hothers
        have hafter := hown.others_deliverAll later
        rw [hbefore, List.filter_filter] at hafter
        rw [Attempt.others, hcorrelator]
        refine hafter.trans (List.filter_congr fun t _ => ?_)
        rw [List.all_append, Bool.and_comm]
      · exact congrArg (· ++ [s.id]) hstays.stopped

end Attempt

/-! ## 2. What is decided -/

/-- The node passes or fails. -/
def Transition.IsVerdict (t : Transition NodeRef) : Prop := t.state = .passed ∨ t.state = .failed

/-- Whoever takes a course passes or fails on its grounds. -/
theorem Course.of_isVerdict {P : Prop} {e : QueueEntry} {ts : List (Transition NodeRef)}
    (h : Course (fun _ => P) e ts) : ∀ t ∈ ts, t.IsVerdict → P := by
  induction h with
  | nil => exact fun t ht => absurd ht List.not_mem_nil
  | own message duration hpassed hfailed _ ih =>
    refine List.forall_mem_cons.mpr ⟨fun hverdict => ?_, ih⟩
    rcases hverdict with h | h
    · exact absurd h hpassed
    · exact absurd h hfailed
  | passed duration h => exact fun _ _ _ => h
  | failed message duration h => exact fun _ _ _ => h

namespace Execution

/-- From `x` to `x'` a node passes or fails only if `P`. -/
def Decides (P : Prop) (x x' : Execution) : Prop :=
  ∃ ts, x'.record.transitions = x.record.transitions ++ ts ∧ ∀ t ∈ ts, t.IsVerdict → P

variable {x x' x'' : Execution} {P : Prop} {w : Workbench} {e : QueueEntry}

theorem Takes.decides (h : Takes (fun _ => P) e x x') : Decides P x x' := by
  obtain ⟨ts, hts, hcourse⟩ := h
  exact ⟨ts, hts, hcourse.of_isVerdict⟩

theorem Quiet.decides (h : x.Quiet x') : Decides P x x' :=
  ⟨[], by rw [h.transitions, List.append_nil], fun t ht => absurd ht List.not_mem_nil⟩

theorem Decides.trans (h : Decides P x x') (h' : Decides P x' x'') : Decides P x x'' := by
  obtain ⟨ts, hts, hverdict⟩ := h
  obtain ⟨ts', hts', hverdict'⟩ := h'
  refine ⟨ts ++ ts', by rw [hts', hts, List.append_assoc], fun t ht => ?_⟩
  rcases List.mem_append.mp ht with ht | ht
  · exact hverdict t ht
  · exact hverdict' t ht

theorem Decides.mono {Q : Prop} (h : Decides P x x') (hPQ : P → Q) : Decides Q x x' := by
  obtain ⟨ts, hts, hverdict⟩ := h
  exact ⟨ts, hts, fun t ht hv => hPQ (hverdict t ht hv)⟩

theorem decides_noteState (x : Execution) {t : Transition NodeRef} (ht : ¬ t.IsVerdict) :
    Decides P x (x.noteState t) :=
  ⟨[t], rfl, List.forall_mem_singleton.mpr fun h => absurd h ht⟩

theorem decides_skipped (x : Execution) (ref : NodeRef) : Decides P x (x.reach ref .skipped) :=
  decides_noteState x (by simp [Transition.IsVerdict])

theorem decides_started (x : Execution) (ref : NodeRef) : Decides P x (x.reach ref .started) :=
  decides_noteState x (by simp [Transition.IsVerdict])

theorem decides_breakOff (x : Execution) (e : QueueEntry) (reason : String) :
    Decides P x (x.breakOff e reason) :=
  (x.quiet_note _).decides.trans (decides_noteState _ (by simp [Transition.IsVerdict]))

end Execution

/-! ## 3. A session -/

namespace Attempt

/-- The wait for the end of the session was over with these events and no earlier: until
    then the end was open, and the run was not cancelled. -/
structure Decided (token : String) (script : HostScript) (prior waited : List HostEvent)
    (a : Attempt) : Prop where
  events : waited <+: script.events
  first : ∀ n < waited.length, (a.deliverAll (waited.take n)).ended? = none
  isOver : (a.deliverAll waited).Over token (prior ++ waited)

end Attempt

namespace Execution

open Attempt

/-- What the wait for the session of an attempt comes to, when these events happen in it. -/
structure Wait (token : String) (script : HostScript) (prior happened : List HostEvent)
    (a : Attempt) (x' : Execution) : Prop where
  events : happened <+: script.events ++ script.onStop
  others : x'.correlator.pendingTokens.filter (· ≠ token) =
    (a.others token).filter fun t => happened.all fun e => !e.ends t
  stopped : x'.stopped = a.execution.stopped ∨ ∃ asked s, asked <+: happened ∧
    (a.deliverAll asked).Asks token s ∧ x'.stopped = a.execution.stopped ++ [s.id]
  verdict : Decides (x'.stopped = a.execution.stopped ∧ a.Decided token script prior happened)
    a.execution x'

variable {token : String} {prior waited : List HostEvent} {script : HostScript} {a : Attempt}
  {x x' x₁ : Execution} {w : Workbench} {e : QueueEntry}

/-- A wait in which nothing is asked of the host. -/
theorem wait_of_unasked (h : a.Own token) (hevents : waited <+: script.events)
    (hcorrelator : x'.correlator = (a.deliverAll waited).execution.correlator)
    (hstopped : x'.stopped = (a.deliverAll waited).execution.stopped)
    (hverdict : Decides (a.Decided token script prior waited) (a.deliverAll waited).execution x') :
    Wait token script prior waited a x' := by
  have hstays : x'.stopped = a.execution.stopped :=
    hstopped.trans (a.stays_deliverAll waited).stopped
  refine ⟨hevents.trans (List.prefix_append _ _), ?_, Or.inl hstays, ?_⟩
  · rw [hcorrelator]
    exact h.others_deliverAll waited
  · refine (quiet_deliverAll waited a).decides.trans (hverdict.mono fun hdecided => ?_)
    exact ⟨hstays, hdecided⟩

/-- **What the tracker has heard** decides once the wait is over. -/
theorem wait_concludeSession (h : a.Own token) (hdecided : a.Decided token script prior waited)
    (w : Workbench) (e : QueueEntry) :
    Wait token script prior waited a (concludeSession (a.deliverAll waited) w e).1 := by
  unfold concludeSession
  cases hend : (a.deliverAll waited).execution.concludeDebug w e
      (a.deliverAll waited).tracker? with
  | error fault => exact wait_of_unasked h hdecided.events rfl rfl (Quiet.refl _).decides
  | ok x =>
    have hrests := (rests_concludeDebug hend).trans
      (x.rests_showDebuggerLog w (a.deliverAll waited).logFile)
    have htakes := (concludeDebug_takes hend).before
      (x.quiet_showDebuggerLog w (a.deliverAll waited).logFile).transitions
    exact wait_of_unasked h hdecided.events hrests.correlator hrests.stopped
      (htakes.mono fun _ _ => hdecided).decides

/-- **The wait for a session** touches nothing but the session. -/
theorem wait_awaitSession (h : a.Own token) (hi : a.Informed token prior) (w : Workbench)
    (e : QueueEntry) (script : HostScript) :
    ∃ happened, Wait token script prior happened a (awaitSession a w e script).1 := by
  obtain ⟨waited, hsplit, hattempt, hlast, hfirst⟩ := awaitUntil_eq Attempt.ended? script.events a
  unfold awaitSession
  generalize a.awaitUntil Attempt.ended? script.events = r at *
  obtain ⟨a', rest, last⟩ := r
  dsimp only at hsplit hattempt hlast ⊢
  subst hattempt
  have hevents : waited <+: script.events := ⟨rest, hsplit.symm⟩
  have hinformed := h.informed_deliverAll waited hi
  -- the run breaks off, and nothing is recorded
  have hidle : Wait token script prior waited a (a.deliverAll waited).execution :=
    wait_of_unasked h hevents rfl rfl (Quiet.refl _).decides
  have hends := (a.deliverAll waited).ends_ended?
  rw [← hlast] at hends
  cases hends with
  | never => exact ⟨waited, hidle⟩
  | arrived hterminated =>
    have hover := hinformed.over_of_arrived hterminated
    exact ⟨waited, wait_concludeSession h ⟨hevents, hfirst, hover⟩ w e⟩
  | calledOff hterminated =>
    cases hpossible : (a.deliverAll waited).execution.cancel != .impossible with
    | false => exact ⟨waited, hidle⟩
    | true =>
      have hover := hinformed.over_of_cancelled hterminated (by simpa using hpossible)
      exact ⟨waited, wait_concludeSession h ⟨hevents, hfirst, hover⟩ w e⟩
  | cancelRequested hset =>
    obtain ⟨asked, later, hstops⟩ := (h.deliverAll waited).stop hinformed hset e script rest
    have hquiet := (quiet_deliverAll waited a).trans
      (quiet_stop (a.deliverAll waited) e script rest)
    have hstays := (a.stays_deliverAll waited).stopped
    have hwait : ∀ {x' : Execution},
        x'.correlator = ((a.deliverAll waited).stop e script rest).1.execution.correlator →
        x'.stopped = ((a.deliverAll waited).stop e script rest).1.execution.stopped →
        (∀ {P : Prop}, Decides P ((a.deliverAll waited).stop e script rest).1.execution x') →
        Wait token script prior (waited ++ (asked ++ later)) a x' := by
      intro x' hcorrelator hstopped hverdict
      refine ⟨?_, ?_, ?_, hquiet.decides.trans hverdict⟩
      · rw [hsplit, List.append_assoc]
        exact (List.prefix_append_right_inj _).mpr hstops.happened
      · rw [hcorrelator]
        refine hstops.others.trans ?_
        rw [h.others_deliverAll waited, List.filter_filter]
        refine List.filter_congr fun t _ => ?_
        have hall : (waited ++ (asked ++ later)).all (fun e => !e.ends t) =
            (waited.all (fun e => !e.ends t) && (asked ++ later).all fun e => !e.ends t) :=
          List.all_append
        rw [hall, Bool.and_comm]
      · rw [hstopped, ← hstays]
        rcases hstops.stopped with hnone | ⟨s, hasks, hone⟩
        · exact Or.inl hnone
        · refine Or.inr ⟨waited ++ asked, s, ?_, ?_, hone⟩
          · rw [← List.append_assoc]
            exact List.prefix_append _ _
          · rw [deliverAll_append]
            exact hasks
    refine ⟨waited ++ (asked ++ later), ?_⟩
    dsimp only
    generalize (a.deliverAll waited).stop e script rest = r at *
    obtain ⟨a₂, last⟩ := r
    cases last with
    | finished =>
      exact hwait rfl rfl ((decides_skipped _ e.ref).trans
        (decides_noteState _ (by simp [Transition.IsVerdict])))
    | failed reason => exact hwait rfl rfl (Quiet.refl _).decides
    | abandoned => exact hwait rfl rfl (Quiet.refl _).decides

/-! ## 4. An entry -/

/-- An attempt begins: its token is registered, nothing has been heard, and the run is
    cancelled or not. -/
structure Begins (cancel : CancelRequest) (token : String) (x : Execution) (begun : Attempt) :
    Prop where
  registered : begun.execution.correlator = (x.correlator.register token).1
  place : begun.place = (x.correlator.register token).2
  session : begun.session = ⟨s!"session-{x.launched.length + 1}", some token⟩
  unclaimed : begun.claimed = none
  stopped : begun.execution.stopped = x.stopped
  cancel : begun.execution.cancel = cancel

/-- What an attempt comes to, when these events happen in it: one session is launched, whose
    configuration carries the token. -/
structure Attempted (cancel : CancelRequest) (token : String) (script : HostScript)
    (begun : Attempt) (happened : List HostEvent) (x x' : Execution) : Prop where
  begins : Begins cancel token x begun
  launched : ∃ l, x'.launched = x.launched ++ [l] ∧
    ((correlationKey, .text token) : Atom × Value) ∈ l.configuration
  events : happened <+: script.meanwhile ++ (script.events ++ script.onStop)
  pending : x'.correlator.pendingTokens =
    x.correlator.pendingTokens.filter fun t => happened.all fun e => !e.ends t
  stopped : x'.stopped = x.stopped ∨ ∃ asked s, asked <+: happened ∧
    (begun.deliverAll asked).Asks token s ∧ x'.stopped = x.stopped ++ [s.id]
  verdict : Decides (x'.stopped = x.stopped ∧ ∃ waited, happened = script.meanwhile ++ waited ∧
    (begun.deliverAll script.meanwhile).Decided token script script.meanwhile waited) x x'

/-- A debugged entry is confined to a token, which it uses at most once. -/
inductive Confined (cancel : CancelRequest) (token : String) (script : HostScript)
    (x x' : Execution) : Prop where
  | unasked (h : x.Rests x') (hverdict : Decides False x x')
  | attempted (begun : Attempt) (happened : List HostEvent)
    (h : Attempted cancel token script begun happened x x')

variable {cancel : CancelRequest}

theorem Begins.after {begun : Attempt} (h' : Begins cancel token x₁ begun) (h : x.Rests x₁) :
    Begins cancel token x begun := by
  obtain ⟨hregistered, hplace, hsession, hunclaimed, hstopped, hcancel⟩ := h'
  rw [h.correlator] at hregistered hplace
  rw [h.launched] at hsession
  exact ⟨hregistered, hplace, hsession, hunclaimed, hstopped.trans h.stopped, hcancel⟩

theorem Confined.after (h' : Confined cancel token script x₁ x') (h : x.Rests x₁)
    (hverdict : Decides False x x₁) : Confined cancel token script x x' := by
  cases h' with
  | unasked h' hverdict' => exact .unasked (h.trans h') (hverdict.trans hverdict')
  | attempted begun happened h' =>
    obtain ⟨hbegins, hlaunched, hevents, hpending, hstopped, hverdict'⟩ := h'
    rw [h.launched] at hlaunched
    rw [h.correlator] at hpending
    rw [h.stopped] at hstopped hverdict'
    exact .attempted begun happened ⟨hbegins.after h, hlaunched, hevents, hpending, hstopped,
      (hverdict.mono False.elim).trans hverdict'⟩

theorem Confined.before (h : Confined cancel token script x x₁) (h' : x₁.Rests x')
    (hverdict : Decides False x₁ x') : Confined cancel token script x x' := by
  cases h with
  | unasked h hverdict' => exact .unasked (h.trans h') (hverdict'.trans hverdict)
  | attempted begun happened h =>
    refine .attempted begun happened ⟨h.begins, ?_, h.events, ?_, ?_, ?_⟩
    · rw [h'.launched]
      exact h.launched
    · rw [h'.correlator]
      exact h.pending
    · rw [h'.stopped]
      exact h.stopped
    · rw [h'.stopped]
      exact h.verdict.trans (hverdict.mono False.elim)

theorem pendingTokens_release (c : Correlator) (token : String) :
    (c.release token).pendingTokens = c.pendingTokens.filter (· ≠ token) := by
  rw [Correlator.release_eq, Correlator.pendingTokens_touch, if_pos rfl]

/-- A token that is not pending yet is registered beside the others. -/
theorem others_register {c : Correlator} (hfresh : token ∉ c.pendingTokens) :
    (c.register token).1.pendingTokens.filter (· ≠ token) = c.pendingTokens := by
  have hother : ∀ t ∈ c.pendingTokens, decide (t ≠ token) = true := fun t ht => by
    rw [decide_eq_true_eq]
    rintro rfl
    exact hfresh ht
  rw [Correlator.pendingTokens_register, if_neg hfresh, List.filter_append,
    List.filter_eq_self.mpr hother]
  simp

theorem informed_beginAttempt (x : Execution) (e : QueueEntry) (token : String)
    (configuration : Entries) (logFile : Path) :
    (x.beginAttempt e token configuration logFile).Informed token [] :=
  ⟨{ token := token }, x.correlator.register_place token, Registration.reported_new token⟩

/-- The attempt once the host has answered. -/
def answered (x : Execution) (e : QueueEntry) (token : String) (configuration : Entries)
    (logFile : Path) : Attempt :=
  (x.beginAttempt e token configuration logFile).deliverAll (x.hosts.headD {}).meanwhile

/-- **Asking for a session** touches nothing but the session. -/
theorem wait_startSession (hsound : x.correlator.Sound) (w : Workbench) (e : QueueEntry)
    (token : String) (configuration : Entries) (logFile : Path) :
    ∃ happened, Wait token (x.hosts.headD {}) (x.hosts.headD {}).meanwhile happened
      (x.answered e token configuration logFile)
      (x.startSession w e token configuration logFile).1 := by
  have hown := own_beginAttempt hsound e token configuration logFile
  -- the host has not agreed, and nothing is waited for
  have hrefused : ∀ {x₁ : Execution},
      (x.answered e token configuration logFile).execution.Rests x₁ →
      Decides False (x.answered e token configuration logFile).execution x₁ →
      Wait token (x.hosts.headD {}) (x.hosts.headD {}).meanwhile []
        (x.answered e token configuration logFile) x₁ := by
    intro x₁ hrests hverdict
    refine ⟨List.nil_prefix, ?_, Or.inl hrests.stopped, hverdict.mono False.elim⟩
    rw [hrests.correlator]
    simp [Attempt.others]
  unfold startSession
  dsimp only
  split
  · exact ⟨[], hrefused (.refl _) (Quiet.refl _).decides⟩
  · refine ⟨[], hrefused ?_ ?_⟩
    · have hnoted : ∀ (x : Execution) (event : JournalEvent) (problem : Problem),
          x.Rests ((x.note event).addProblem problem) := fun _ _ _ =>
        ⟨⟨rfl, rfl⟩, rfl, rfl, rfl, rfl⟩
      exact ((hnoted _ _ _).trans (rests_say _ w _)).trans (rests_reach _ e.ref .skipped)
    · exact ((quiet_report _ _ _).trans (quiet_say _ w _)).decides.trans (decides_skipped _ e.ref)
  · exact wait_awaitSession (hown.deliverAll _)
      (hown.informed_deliverAll _ (x.informed_beginAttempt e token configuration logFile)) w e _

theorem launched_startSession (x : Execution) (w : Workbench) (e : QueueEntry) (token : String)
    (configuration : Entries) (logFile : Path) :
    (x.startSession w e token configuration logFile).1.launched =
      x.launched ++ [⟨e.node.path.parent, configuration⟩] := by
  have hmeanwhile : (x.answered e token configuration logFile).execution.launched = _ :=
    (quiet_deliverAll (x.hosts.headD {}).meanwhile
      (x.beginAttempt e token configuration logFile)).launched
  unfold startSession
  dsimp only
  split
  · exact hmeanwhile
  · exact (quiet_say _ w _).launched.trans hmeanwhile
  · exact (idle_awaitSession _ w e _).launched.trans hmeanwhile

/-- **Giving up the token** of an attempt leaves the correlator as if it had never been
    registered. -/
theorem confined_release (hsound : x.correlator.Sound)
    (hfresh : token ∉ x.correlator.pendingTokens) {configuration : Entries}
    (htoken : ((correlationKey, .text token) : Atom × Value) ∈ configuration) {logFile : Path}
    {happened : List HostEvent}
    (h : Wait token (x.hosts.headD {}) (x.hosts.headD {}).meanwhile happened
      (x.answered e token configuration logFile) x₁)
    (hlaunched : x₁.launched = x.launched ++ [⟨e.node.path.parent, configuration⟩]) :
    Confined x.cancel token (x.hosts.headD {}) x
      { x₁ with correlator := x₁.correlator.release token } := by
  let begun := x.beginAttempt e token configuration logFile
  let script := x.hosts.headD {}
  have hown : begun.Own token := own_beginAttempt hsound e token configuration logFile
  have hsession : begun.session = ⟨s!"session-{x.launched.length + 1}", some token⟩ := by
    have hlength : begun.execution.launched.length = x.launched.length + 1 :=
      List.length_append
    rw [← hlength]
    rfl
  have hbegins : Begins x.cancel token x begun := ⟨rfl, rfl, hsession, rfl, rfl, rfl⟩
  have hstays : (x.answered e token configuration logFile).execution.stopped = x.stopped :=
    (begun.stays_deliverAll script.meanwhile).stopped
  have hpending : (x.answered e token configuration logFile).others token =
      x.correlator.pendingTokens.filter
        fun t => script.meanwhile.all fun e => !e.ends t :=
    (hown.others_deliverAll script.meanwhile).trans (congrArg _ (others_register hfresh))
  have hbegun : Decides False x begun.execution := ⟨[], (List.append_nil _).symm, by simp⟩
  have hquiet : Decides False x (x.answered e token configuration logFile).execution :=
    hbegun.trans (quiet_deliverAll script.meanwhile begun).decides
  obtain ⟨hevents, hothers, hstopped, hverdict⟩ := h
  rw [hstays] at hstopped hverdict
  refine .attempted begun (script.meanwhile ++ happened)
    ⟨hbegins, ⟨_, hlaunched, htoken⟩, ?_, ?_, ?_, ?_⟩
  · exact (List.prefix_append_right_inj _).mpr hevents
  · dsimp only
    rw [pendingTokens_release, hothers, hpending, List.filter_filter]
    refine List.filter_congr fun t _ => ?_
    rw [List.all_append, Bool.and_comm]
  · rcases hstopped with hnone | ⟨asked, s, hasked, hasks, hone⟩
    · exact Or.inl hnone
    · refine Or.inr ⟨script.meanwhile ++ asked, s, ?_, ?_, hone⟩
      · exact (List.prefix_append_right_inj _).mpr hasked
      · rw [deliverAll_append]
        exact hasks
  · refine (hquiet.mono False.elim).trans ?_
    exact hverdict.mono fun ⟨hnone, hdecided⟩ => ⟨hnone, happened, rfl, hdecided⟩

/-- **A session that is asked for**, up to giving up its token. -/
theorem confined_startSession (hsound : x.correlator.Sound)
    (hfresh : token ∉ x.correlator.pendingTokens) {configuration : Entries}
    (htoken : ((correlationKey, .text token) : Atom × Value) ∈ configuration) (w : Workbench)
    (e : QueueEntry) (logFile : Path) :
    let x₁ := (x.startSession w e token configuration logFile).1
    Confined x.cancel token (x.hosts.headD {}) x
      { x₁ with correlator := x₁.correlator.release token } := by
  obtain ⟨happened, hwait⟩ := wait_startSession hsound w e token configuration logFile
  exact confined_release hsound hfresh htoken hwait
    (x.launched_startSession w e token configuration logFile)

/-- Nobody is told anything when there is something to launch. -/
theorem cancel_launchConfiguration {bare : Entries}
    (h : x.launchConfiguration w e.node e.what = (x₁, .ok bare)) : x₁.cancel = x.cancel := by
  unfold launchConfiguration at h
  dsimp only at h
  split at h
  · cases h
  · have hlook : x₁ = (x.lookUp w).2 := (congrArg Prod.fst h).symm
    rw [hlook]
    rfl

/-- **A debugged entry** is confined to its token. -/
theorem confined_debugEntry (hsound : x.correlator.Sound)
    (hfresh : x.newToken ∉ x.correlator.pendingTokens) (w : Workbench) (e : QueueEntry) :
    Confined x.cancel x.newToken (x.hosts.headD {}) x (x.debugEntry w e).1 := by
  unfold debugEntry
  split
  · have hnoted : x.Rests ((x.note (.warning "debugger_unavailable"
        Problem.noDebugger.report.entries)).addProblem .noDebugger) :=
      ⟨⟨rfl, rfl⟩, rfl, rfl, rfl, rfl⟩
    refine .unasked ((hnoted.trans (rests_say _ w _)).trans (rests_reach _ e.ref .skipped)) ?_
    exact ((quiet_report x _ _).trans (quiet_say _ w _)).decides.trans (decides_skipped _ e.ref)
  · have hunasked := x.unasked_launchConfiguration w e.node e.what
    have hquiet := x.quiet_launchConfiguration w e.node e.what
    cases hconfigured : x.launchConfiguration w e.node e.what with
    | mk x₁ configured =>
    rw [hconfigured] at hunasked hquiet
    dsimp only at hunasked hquiet
    cases configured with
    | error refusal =>
      cases refusal with
      | badTemplate fault => exact .unasked hunasked.toRests hquiet.decides
      | noToolchain =>
        exact .unasked (hunasked.toRests.trans (rests_reach _ e.ref .skipped))
          (hquiet.decides.trans (decides_skipped _ e.ref))
      | noLibrary =>
        exact .unasked (hunasked.toRests.trans (rests_reach _ e.ref .skipped))
          (hquiet.decides.trans (decides_skipped _ e.ref))
    | ok bare =>
      dsimp only
      have hready : ∀ files : FileTree,
          x₁.Rests { x₁ with tokens := x₁.tokens + 1, files := files } :=
        fun _ => ⟨⟨rfl, rfl⟩, rfl, rfl, rfl, rfl⟩
      split
      · exact .unasked (hunasked.toRests.trans (hready x₁.files)) hquiet.decides
      · next files _ =>
        have hsound' : x₁.correlator.Sound := hunasked.correlator ▸ hsound
        have hfresh' : x.newToken ∉ x₁.correlator.pendingTokens := hunasked.correlator ▸ hfresh
        rw [hunasked.newToken, ← hunasked.hosts, ← cancel_launchConfiguration hconfigured]
        refine Confined.after ?_ (hunasked.toRests.trans (hready files)) hquiet.decides
        refine confined_startSession (x := { x₁ with tokens := x₁.tokens + 1, files := files })
          hsound' hfresh' ?_ w e _
        simp

/-- Whether the run is cancelled when the work on an entry begins. -/
def requestAt (x : Execution) (w : Workbench) (e : QueueEntry) : CancelRequest :=
  (x.arrive.say w s!"Running {e.kindName} {e.node.id}").cancel

/-- An entry that is reached: it is skipped, or it is debugged. -/
theorem confined_entry (hsound : x.correlator.Sound)
    (hfresh : x.newToken ∉ x.correlator.pendingTokens) (w : Workbench) (e : QueueEntry) :
    Confined (x.requestAt w e) x.newToken (x.hosts.headD {}) x (x.entry w true e).1 := by
  have harrive := x.unasked_arrive
  unfold entry startEntry
  dsimp only
  split
  · have hsaid := harrive.toRests.trans (x.arrive.rests_say w s!"Skipped {e.node.id}")
    refine .unasked (hsaid.trans (rests_reach _ e.ref .skipped)) ?_
    exact (x.quiet_arrive.trans (quiet_say _ w _)).decides.trans (decides_skipped _ e.ref)
  · have hsaid := harrive.trans (x.arrive.unasked_say w s!"Running {e.kindName} {e.node.id}")
    have hunasked := hsaid.trans (unasked_reach _ e.ref .started)
    have hstarted : Decides False x
        ((x.arrive.say w s!"Running {e.kindName} {e.node.id}").reach e.ref .started) :=
      (x.quiet_arrive.trans (quiet_say _ w _)).decides.trans (decides_started _ e.ref)
    have hrequest : ((x.arrive.say w s!"Running {e.kindName} {e.node.id}").reach e.ref
        .started).cancel = x.requestAt w e := rfl
    rw [if_pos rfl]
    generalize (x.arrive.say w s!"Running {e.kindName} {e.node.id}").reach e.ref .started = x₁ at *
    have hconfined := (confined_debugEntry (x := x₁) (hunasked.correlator ▸ hsound)
      (by rwa [hunasked.newToken, hunasked.correlator]) w e)
    rw [hunasked.newToken, hunasked.hosts, hrequest] at hconfined
    have hdebugged := hconfined.after hunasked.toRests hstarted
    generalize x₁.debugEntry w e = r at *
    obtain ⟨x₂, last⟩ := r
    dsimp only at hdebugged ⊢
    have hcomplete : ∀ x : Execution, Decides False x (x.complete w e) := fun x =>
      ⟨[], ((quiet_say _ w _).transitions.trans (List.append_nil _).symm), by simp⟩
    cases last with
    | finished => exact hdebugged.before (x₂.rests_complete w e) (hcomplete x₂)
    | failed reason =>
      have hbroken : x₂.Rests (x₂.breakOff e reason) := ⟨⟨rfl, rfl⟩, rfl, rfl, rfl, rfl⟩
      exact (hdebugged.before hbroken (x₂.decides_breakOff e reason)).before
        (rests_complete _ w e) (hcomplete _)
    | abandoned =>
      have hclear : x₂.Rests (x₂.clearBusy e.ref) := ⟨⟨rfl, rfl⟩, rfl, rfl, rfl, rfl⟩
      exact hdebugged.before hclear ⟨[], (List.append_nil _).symm, by simp⟩

end Execution

/-! ## 5. A run -/

/-- Whoever looks at the two runs sees the same. -/
structure RunResult.SameShown (result result' : RunResult) : Prop where
  report : result'.report = result.report
  told : result'.execution.told = result.execution.told
  stopped : result'.execution.stopped = result.execution.stopped
  completed : result'.completed = result.completed

namespace Catalog

open Execution

variable {c : Catalog} {w : Workbench} {r : RunRequest} {x : Execution}

theorem unasked_begun (c : Catalog) (w : Workbench) (r : RunRequest) (x : Execution) :
    Unasked { x with record := { debug := r.debug } } (c.begun w r x) := by
  obtain ⟨record, notices, hbegun⟩ := begun_eq c w r x
  rw [hbegun]
  exact ⟨⟨⟨rfl, rfl⟩, rfl, rfl, rfl, rfl⟩, rfl, rfl⟩

theorem requestAt_begun (c : Catalog) (w : Workbench) (r : RunRequest) (x : Execution)
    (e : QueueEntry) : (c.begun w r x).requestAt w e = x.requestAt w e := by
  obtain ⟨record, notices, hbegun⟩ := begun_eq c w r x
  rw [hbegun]
  unfold requestAt say append Execution.tell
  split
  · rfl
  · rfl

theorem decides_begun {P : Prop} (c : Catalog) (w : Workbench) (r : RunRequest) (x : Execution) :
    Decides P { x with record := { debug := r.debug } } (c.begun w r x) := by
  refine ⟨_, (transitions_begun c w r x).trans (List.nil_append _).symm, fun t ht hverdict => ?_⟩
  obtain ⟨n, -, rfl⟩ := mem_each.mp ht
  simp [Transition.IsVerdict] at hverdict

theorem onHosts_begun (c : Catalog) (w : Workbench) (r : RunRequest) (x : Execution)
    (f : HostScript → HostScript) : c.begun w r (x.onHosts f) = (c.begun w r x).onHosts f := by
  have hall : ∀ (refs : List NodeRef) (x : Execution),
      (x.onHosts f).reachAll refs .enqueued = (x.reachAll refs .enqueued).onHosts f := by
    intro refs
    induction refs with
    | nil => exact fun _ => rfl
    | cons ref refs ih => exact fun x => ih (x.reach ref .enqueued)
  exact hall _ (Execution.note { x with record := { debug := r.debug } } _)

/-- A run to debug is the work on one entry. -/
theorem run_of_debug {e : QueueEntry} (h : Queue.rejection? r.debug (c.queue r) = none)
    (hdebug : r.debug = true) (hqueue : c.queue r = [e]) (w : Workbench) (x : Execution) :
    (c.run w r x).execution = ((c.begun w r x).entry w true e).1.note
        (.info "test_run_completed" [("run_id", .text w.runId)]) ∧
      (c.run w r x).report = ⟨((c.begun w r x).entry w true e).1.record, [e.ref], none⟩ ∧
      (c.run w r x).completed = ((c.begun w r x).entry w true e).2 := by
  have haccepted := accepted_of_rejection? h w x
  obtain ⟨hreport, -, hcompleted⟩ := run_of_accepted haccepted
  have hexecution := execution_of_accepted haccepted
  rw [hqueue, hdebug, entries_singleton] at hreport hcompleted hexecution
  exact ⟨hexecution, hreport, hcompleted⟩

/-- **A debugged entry is confined to its session.**  Take any catalog, any accepted request
    to debug, any behaviour of the host and any moment at which the run is cancelled.  Let
    the correlator be sound and the token of the attempt new.  Then the token is not
    pending afterwards, and of the others exactly those are gone whose end was reported
    meanwhile.  At most one session is asked to stop, one with the token, and only when the
    run is cancelled and the end of the session has not been reported.  The entry
    passes or fails only when the wait for its session is over and was not called off by
    a cancellation, and nothing that is reported of other sessions is to be seen in the
    run. -/
theorem debug_confined (haccepted : (c.run w r x).report.rejected = none)
    (hdebug : r.debug = true) (hsound : x.correlator.Sound)
    (hfresh : x.newToken ∉ x.correlator.pendingTokens) :
    let result := c.run w r x
    result.report.record = result.execution.record ∧
      (∃ e, c.queue r = [e] ∧ Confined (x.requestAt w e) x.newToken (x.hosts.headD {})
        { x with record := { debug := r.debug } } result.execution) ∧
      x.newToken ∉ result.execution.correlator.pendingTokens ∧
      result.SameShown (c.run w r (x.onHosts (·.own x.newToken))) := by
  intro result
  have hrejection := rejection?_of_accepted haccepted
  obtain ⟨e, hqueue⟩ := queue_of_debug hrejection hdebug
  obtain ⟨hexecution, hreport, hcompleted⟩ := run_of_debug hrejection hdebug hqueue w x
  have hunasked := unasked_begun c w r x
  have hsound' : (c.begun w r x).correlator.Sound := hunasked.correlator ▸ hsound
  have htoken : (c.begun w r x).newToken = x.newToken := hunasked.newToken
  have hconfined : Confined (x.requestAt w e) x.newToken (x.hosts.headD {})
      { x with record := { debug := r.debug } } result.execution := by
    have hentry := confined_entry hsound' (by rwa [htoken, hunasked.correlator]) w e
    rw [htoken, hunasked.hosts, requestAt_begun] at hentry
    have hbegun := hentry.after hunasked.toRests (decides_begun c w r x)
    rw [hexecution]
    exact hbegun.before ⟨⟨rfl, rfl⟩, rfl, rfl, rfl, rfl⟩ (quiet_note _ _).decides
  refine ⟨?_, ⟨e, hqueue, hconfined⟩, ?_, ?_⟩
  · rw [hreport, hexecution]
    rfl
  · cases hconfined with
    | unasked h =>
      rw [h.correlator]
      exact hfresh
    | attempted begun happened h =>
      rw [h.pending]
      exact fun hmem => hfresh (List.mem_of_mem_filter hmem)
  · obtain ⟨hexecution', hreport', hcompleted'⟩ :=
      run_of_debug hrejection hdebug hqueue w (x.onHosts (·.own x.newToken))
    obtain ⟨hseen, hends⟩ := entry_alike hsound' w e
    rw [htoken, ← onHosts_begun] at hseen hends
    have htold : ∀ (x : Execution) (event : JournalEvent), (x.note event).told = x.told :=
      fun x event => by rw [← told_seen, seen_note, told_seen]
    refine ⟨?_, ?_, ?_, ?_⟩
    · rw [hreport', hreport]
      have hrecord := congrArg Execution.record hseen
      exact congrArg (RunReport.mk · [e.ref] none) hrecord
    · rw [hexecution', hexecution, htold, htold, ← told_seen, hseen, told_seen]
    · rw [hexecution', hexecution]
      have hstopped := congrArg Execution.stopped hseen
      exact hstopped
    · rw [hcompleted', hcompleted, hends]

/-! ### 5.1 Another attempt that is waiting

Another attempt waits for its own session while an entry is debugged.  In one run the
entry is cancelled while the host reports the other session, in a second the other
session ends, and in a third everything is disposed of. -/

def waitedFor : Correlator := (({} : Correlator).register "other").1

def otherSession : HostSession := .other ⟨"session-0", some "other"⟩

def cancelledWorld : Execution where
  correlator := waitedFor
  cancel := .possible false
  hosts := [{ events := [.claim otherSession, .started .launched, .cancel] }]

def endedWorld : Execution where
  correlator := waitedFor
  hosts := [{ events := [.terminated otherSession, .terminated .launched] }]

def disposedWorld (cancel : CancelRequest) : Execution where
  cancel := cancel
  hosts := [{ events := [.claim .launched, .started .launched, .adapterExit (some 0), .dispose] }]

theorem debug_confined_cancelled :
    let c := (fresh pairSettings []).performAll pairActs
    let result := c.run pairBench debugRequest cancelledWorld
    (result.report.rejected = none ∧ cancelledWorld.correlator.Sound ∧
        cancelledWorld.newToken ∉ cancelledWorld.correlator.pendingTokens) ∧
      result.report.record.transitions.map (fun t => (t.node, t.state)) =
        [(2, .enqueued), (2, .started), (2, .skipped), (2, .errored)] ∧
      result.execution.stopped = ["session-1"] ∧
      result.execution.correlator.pendingTokens = ["other"] ∧
      (∃ e, c.queue debugRequest = [e] ∧
        Confined (cancelledWorld.requestAt pairBench e) "token-1" (cancelledWorld.hosts.headD {})
          { cancelledWorld with record := { debug := true } } result.execution) ∧
      result.SameShown
        (c.run pairBench debugRequest (cancelledWorld.onHosts (·.own "token-1"))) := by
  intro c result
  have haccepted : result.report.rejected = none := by decide +kernel
  have hsound : cancelledWorld.correlator.Sound := Correlator.sound_empty.register "other"
  have hfresh : cancelledWorld.newToken ∉ cancelledWorld.correlator.pendingTokens := by
    decide +kernel
  obtain ⟨-, hconfined, -, hsame⟩ := debug_confined haccepted rfl hsound hfresh
  exact ⟨⟨haccepted, hsound, hfresh⟩, by decide +kernel, by decide +kernel, by decide +kernel,
    hconfined, hsame⟩

/-- What is shared: another attempt has nothing to wait for once the end of its session is
    reported, and when everything is disposed of, an entry passes although no end was
    reported, or else the run breaks off. -/
theorem shared_correlator :
    let c := (fresh pairSettings []).performAll pairActs
    let ended := c.run pairBench debugRequest endedWorld
    let disposed := fun cancel => c.run pairBench debugRequest (disposedWorld cancel)
    (ended.report.rejected = none ∧ ended.completed = true ∧
        endedWorld.correlator.pendingTokens = ["other"] ∧
        ended.execution.correlator.pendingTokens = []) ∧
      ((disposed (.possible false)).report.rejected = none ∧
        (disposed (.possible false)).completed = true ∧
        (disposed (.possible false)).report.record.transitions.map (fun t => (t.node, t.state)) =
          [(2, .enqueued), (2, .started), (2, .passed), (3, .passed), (4, .passed)]) ∧
      (disposed .impossible).completed = false := by
  decide +kernel

end Catalog
end SuiteExplorer
