/-
  SuiteExplorer/Proofs/Debug/Alike.lean
  =====================================
  **Sessions of other tokens change nothing that a debugged entry shows.**

  Two attempts are `Alike` if nothing but the affairs of other tokens tells them apart.
  They stay so when an event about another token is kept from one of them, whatever they
  wait for, and so they come to the same end with the same record and the same words for
  the listener (`debugEntry_alike`).
-/
import SuiteExplorer.Proofs.Debug.Attempt

namespace SuiteExplorer

/-! ## 1. What is seen of an execution -/

namespace Execution

/-- All of an execution but the affairs of the correlator and its host. -/
def seen (x : Execution) : Execution :=
  { x with correlator := {}, hosts := [], notices := x.notices.filter (·.event?.isNone) }

variable {x x' : Execution}

theorem seen_say (x : Execution) (w : Workbench) (line : String) :
    (x.say w line).seen = x.seen.say w line := by
  unfold say append tell
  split
  · simp [seen, Notice.event?]
  · rfl

theorem seen_reachAll (refs : List NodeRef) (state : RunState) (x : Execution) :
    (x.reachAll refs state).seen = x.seen.reachAll refs state := by
  induction refs generalizing x with
  | nil => rfl
  | cons r refs ih => exact ih (x.reach r state)

@[simp] theorem seen_note (x : Execution) (e : JournalEvent) : (x.note e).seen = x.seen := by
  simp [seen, note, Notice.event?]

@[simp] theorem seen_noteAll (journal : Journal) (x : Execution) :
    (x.noteAll journal).seen = x.seen := by
  induction journal generalizing x with
  | nil => rfl
  | cons e journal ih => exact (ih (x.note e)).trans (x.seen_note e)

theorem told_seen (x : Execution) : x.seen.told = x.told := by
  simp only [told, seen, List.filterMap_filter]
  congr 1
  funext n
  cases n <;> rfl

theorem seen_complete (x : Execution) (w : Workbench) (e : QueueEntry) :
    (x.complete w e).seen = x.seen.complete w e :=
  seen_say (x.clearBusy e.ref) w _

theorem seen_breakOff (x : Execution) (e : QueueEntry) (reason : String) :
    (x.breakOff e reason).seen = (x.seen.breakOff e reason).seen := by
  have hseen : x.seen.seen = x.seen := by simp [seen]
  have hnote : ∀ x : Execution, (x.breakOff e reason).seen =
      x.seen.noteState ⟨e.ref, .errored, some reason, none⟩ :=
    fun x => congrArg (noteState · _) (x.seen_note _)
  rw [hnote, hnote, hseen]

theorem seen_showDebuggerLog (x : Execution) (w : Workbench) (path : Path) :
    (x.showDebuggerLog w path).seen = x.seen.showDebuggerLog w path := by
  have hfiles : x.seen.files = x.files := rfl
  unfold showDebuggerLog
  rw [hfiles]
  cases x.files.read? path with
  | none => rfl
  | some bytes =>
    dsimp only
    split
    · rfl
    · exact x.seen_say w _

theorem seen_settleDebugged (x : Execution) (e : QueueEntry) (verdict : RunState)
    (transcript : String) :
    (x.settleDebugged e verdict transcript).seen = x.seen.settleDebugged e verdict transcript := by
  unfold settleDebugged
  split
  · exact seen_reachAll e.children .passed _
  · exact seen_reachAll e.children .skipped _
  · rfl

theorem seen_concludeDebug (x : Execution) (w : Workbench) (e : QueueEntry)
    (tracker? : Option DebugTracker) :
    (x.concludeDebug w e tracker?).map seen = x.seen.concludeDebug w e tracker? := by
  unfold concludeDebug
  cases tracker? with
  | none => exact congrArg Except.ok (x.seen_settleDebugged e .skipped "")
  | some t =>
    cases htranscript : t.transcript with
    | error fault => simp [htranscript, bind, Except.bind, Except.map]
    | ok transcript =>
      cases DebugTracker.verdict? (some t) with
      | error fault => simp [htranscript, bind, Except.bind, Except.map]
      | ok verdict =>
        simp [htranscript, bind, Except.bind, Except.map, pure, Except.pure, seen_settleDebugged,
          seen_say]

end Execution

/-! ## 2. Attempts that only other tokens tell apart -/

/-- The event is about no session of another token. -/
def HostEvent.isOwn (token : String) : HostEvent → Bool
  | .claim (.other s) | .started (.other s) | .terminated (.other s) => s.token = some token
  | _ => true

/-- The events that are about no session of another token. -/
def HostScript.own (token : String) (script : HostScript) : HostScript :=
  { script with
    meanwhile := script.meanwhile.filter (·.isOwn token)
    events := script.events.filter (·.isOwn token)
    onStop := script.onStop.filter (·.isOwn token) }

/-- What an event changes besides the correlator. -/
def HostEvent.marks (logFile : Path) (x : Execution) : HostEvent → Execution
  | .log content => { x with files := x.files.write logFile content }
  | .cancel => { x with cancel := x.cancel.set }
  | _ => x

namespace Attempt

variable {a a' : Attempt} {token : String} {e : HostEvent} {call : CorrelatorCall}

theorem seen_hear (a : Attempt) (f : DebugTracker → DebugTracker) :
    (a.hear f).execution.seen = a.execution.seen := by
  unfold hear
  split <;> rfl

theorem seen_deliver (a : Attempt) (e : HostEvent) :
    (a.deliver e).execution.seen = e.marks a.logFile a.execution.seen := by
  cases e with
  | claim who =>
    simp only [deliver]
    split <;> rfl
  | started who => rfl
  | terminated who => exact Execution.seen_noteAll _ _
  | message m => exact a.seen_hear _
  | adapterError text => exact a.seen_hear _
  | adapterExit code => exact a.seen_hear _
  | log content => rfl
  | cancel => rfl
  | dispose => rfl

/-- Nothing but the affairs of other tokens tells the attempts apart. -/
structure Alike (token : String) (a a' : Attempt) : Prop where
  own : a.Own token
  own' : a'.Own token
  session : a'.session = a.session
  logFile : a'.logFile = a.logFile
  claimed : a'.claimed.isSome = a.claimed.isSome
  current : a'.current token = a.current token
  registration : a'.registration? = a.registration?
  seen : a'.execution.seen = a.execution.seen

/-- An attempt gets its tracker from the first claim for its token. -/
theorem Own.isSome_claimed_claim (h : a.Own token) (who : HostSession) :
    (a.deliver (.claim who)).claimed.isSome = (a.claimed.isSome ||
      (decide ((a.sessionOf who).token = some token) &&
        (a.current token).any (·.tracker.isNone))) := by
  rw [claimed_claim, h.session]
  by_cases hs : (a.sessionOf who).token = some token
  · have hmatch : (a.execution.correlator.match? (a.sessionOf who)).isSome =
        (a.current token).isSome := by
      rw [Correlator.match?_of_some hs, current, h.sound.isSome_current]
    have hgranted : (a.execution.correlator.claimTracker (a.sessionOf who)).2 =
        (a.current token).any (·.tracker.isNone) :=
      congrArg Prod.snd (h.sound.claimTracker_eq hs)
    rw [hgranted]
    cases hcurrent : a.current token with
    | none => simp
    | some r =>
      rw [hcurrent] at hmatch
      cases hr : r.tracker.isNone <;> simp [hs, hr, hmatch]
  · simp [hs]

theorem sessionOf_congr (h : a'.session = a.session) (who : HostSession) :
    a'.sessionOf who = a.sessionOf who := by
  cases who with
  | launched => exact h
  | other s => rfl

theorem call?_congr (h : a'.session = a.session) (e : HostEvent) : a'.call? e = a.call? e := by
  cases e with
  | claim who => simp only [call?, sessionOf_congr h]
  | started who => simp only [call?, sessionOf_congr h]
  | terminated who => simp only [call?, sessionOf_congr h]
  | dispose => rfl
  | message m => rfl
  | adapterError text => rfl
  | adapterExit code => rfl
  | log content => rfl
  | cancel => rfl

/-- **An event that both see** leaves them alike. -/
theorem Alike.deliver (h : Alike token a a') (e : HostEvent) :
    Alike token (a.deliver e) (a'.deliver e) := by
  have hstays := a.stays_deliver e
  have hstays' := a'.stays_deliver e
  have hcalls := call?_congr h.session e
  have hview : (a'.deliver e).current token = (a.deliver e).current token ∧
      (a'.deliver e).registration? = (a.deliver e).registration? := by
    cases hcall : a.call? e with
    | some call =>
      obtain ⟨hcurrent, hregistration⟩ := h.own.deliver_call hcall
      obtain ⟨hcurrent', hregistration'⟩ := h.own'.deliver_call (hcalls.trans hcall)
      rw [hcurrent, hcurrent', hregistration, hregistration', h.current, h.registration]
      exact ⟨rfl, rfl⟩
    | none =>
      cases hword : e.word? with
      | none =>
        have hrest := deliver_rest token hcall hword
        have hrest' := deliver_rest token (hcalls.trans hcall) hword
        exact ⟨by rw [hrest.1, hrest'.1, h.current], by rw [hrest.2, hrest'.2, h.registration]⟩
      | some f =>
        obtain ⟨hcurrent, hregistration⟩ := h.own.deliver_word hword
        obtain ⟨hcurrent', hregistration'⟩ := h.own'.deliver_word hword
        rw [hcurrent, hcurrent', hregistration, hregistration', h.current, h.registration,
          h.claimed]
        exact ⟨rfl, rfl⟩
  refine ⟨h.own.deliver e, h.own'.deliver e, ?_, ?_, ?_, hview.1, hview.2, ?_⟩
  · rw [hstays'.session, hstays.session, h.session]
  · rw [hstays'.logFile, hstays.logFile, h.logFile]
  · by_cases hclaim : ∃ who, e = .claim who
    · obtain ⟨who, rfl⟩ := hclaim
      rw [h.own.isSome_claimed_claim, h.own'.isSome_claimed_claim, h.claimed, h.current,
        sessionOf_congr h.session]
    · have hne : ∀ who, e ≠ .claim who := fun who heq => hclaim ⟨who, heq⟩
      rw [claimed_deliver_of_ne hne, claimed_deliver_of_ne hne, h.claimed]
  · rw [seen_deliver, seen_deliver, h.logFile, h.seen]

theorem not_concerns (hown : e.isOwn token = false) :
    (∃ call, a.call? e = some call ∧ call.concerns token = false) ∧
      ∀ (logFile : Path) (x : Execution), e.marks logFile x = x := by
  cases e with
  | claim who =>
    cases who with
    | launched => cases hown
    | other s => exact ⟨⟨_, rfl, hown⟩, fun _ _ => rfl⟩
  | started who =>
    cases who with
    | launched => cases hown
    | other s => exact ⟨⟨_, rfl, hown⟩, fun _ _ => rfl⟩
  | terminated who =>
    cases who with
    | launched => cases hown
    | other s => exact ⟨⟨_, rfl, hown⟩, fun _ _ => rfl⟩
  | dispose => cases hown
  | message m => cases hown
  | adapterError text => cases hown
  | adapterExit code => cases hown
  | log content => cases hown
  | cancel => cases hown

/-- **An event about another token** leaves them alike, also when only one of them sees it. -/
theorem Alike.deliver_foreign (h : Alike token a a') (hown : e.isOwn token = false) :
    Alike token (a.deliver e) a' := by
  obtain ⟨⟨call, hcall, hconcerns⟩, hmarks⟩ := not_concerns (a := a) hown
  have hstays := a.stays_deliver e
  obtain ⟨hcurrent, hregistration⟩ := h.own.deliver_call hcall
  rw [hconcerns, if_neg (by simp)] at hcurrent
  rw [hconcerns, Bool.false_and, if_neg (by simp)] at hregistration
  refine ⟨h.own.deliver e, h.own', ?_, ?_, ?_, ?_, ?_, ?_⟩
  · rw [hstays.session, h.session]
  · rw [hstays.logFile, h.logFile]
  · by_cases hclaim : ∃ who, e = .claim who
    · obtain ⟨who, rfl⟩ := hclaim
      cases hcall
      have hs : decide ((a.sessionOf who).token = some token) = false := hconcerns
      rw [h.own.isSome_claimed_claim, hs, Bool.false_and, Bool.or_false, h.claimed]
    · rw [claimed_deliver_of_ne fun who heq => hclaim ⟨who, heq⟩, h.claimed]
  · rw [hcurrent, h.current]
  · rw [hregistration, h.registration]
  · rw [seen_deliver, hmarks, h.seen]

theorem Alike.deliverAll (events : List HostEvent) (h : Alike token a a') :
    Alike token (a.deliverAll events) (a'.deliverAll (events.filter (·.isOwn token))) := by
  induction events generalizing a a' with
  | nil => exact h
  | cons e events ih =>
    cases hown : e.isOwn token with
    | true =>
      rw [List.filter_cons_of_pos (by simpa using hown)]
      exact ih (h.deliver e)
    | false =>
      rw [List.filter_cons_of_neg (by simpa using hown)]
      exact ih (h.deliver_foreign hown)

/-! ### 2.1 Waiting -/

theorem awaitUntil_of_decided {decided? : Attempt → Option WaitEnd} {last : WaitEnd}
    (h : decided? a = some last) (events : List HostEvent) :
    a.awaitUntil decided? events = (a, events, last) := by
  cases events with
  | nil => simp [awaitUntil, h]
  | cons e events => simp [awaitUntil, h]

theorem awaitUntil_of_open {decided? : Attempt → Option WaitEnd} (h : decided? a = none)
    (e : HostEvent) (events : List HostEvent) :
    a.awaitUntil decided? (e :: events) = (a.deliver e).awaitUntil decided? events := by
  simp [awaitUntil, h]

/-- **Waiting for what both see alike** comes to the same. -/
theorem Alike.awaitUntil (decided? : Attempt → Option WaitEnd)
    (hdecided : ∀ {a a' : Attempt}, Alike token a a' → decided? a' = decided? a)
    (events : List HostEvent) (h : Alike token a a') :
    Alike token (a.awaitUntil decided? events).1
        (a'.awaitUntil decided? (events.filter (·.isOwn token))).1 ∧
      (a'.awaitUntil decided? (events.filter (·.isOwn token))).2 =
        ((a.awaitUntil decided? events).2.1.filter (·.isOwn token),
          (a.awaitUntil decided? events).2.2) := by
  induction events generalizing a a' with
  | nil =>
    refine ⟨h, ?_⟩
    simp only [List.filter_nil, Attempt.awaitUntil, hdecided h]
  | cons e events ih =>
    cases hd : decided? a with
    | some last =>
      rw [awaitUntil_of_decided hd, awaitUntil_of_decided ((hdecided h).trans hd)]
      exact ⟨h, rfl⟩
    | none =>
      rw [awaitUntil_of_open hd]
      cases hown : e.isOwn token with
      | true =>
        rw [List.filter_cons_of_pos (by simpa using hown),
          awaitUntil_of_open ((hdecided h).trans hd)]
        exact ih (h.deliver e)
      | false =>
        rw [List.filter_cons_of_neg (by simpa using hown)]
        exact ih (h.deliver_foreign hown)

theorem Alike.started (h : Alike token a a') : a'.started = a.started := by
  rw [Attempt.started, Attempt.started, h.registration]

theorem Alike.terminated (h : Alike token a a') : a'.terminated = a.terminated := by
  rw [Attempt.terminated, Attempt.terminated, h.registration]

theorem Alike.tracker? (h : Alike token a a') : a'.tracker? = a.tracker? := by
  rw [Attempt.tracker?, Attempt.tracker?, h.registration]

theorem Alike.ended? (h : Alike token a a') : a'.ended? = a.ended? := by
  have hcancel : a'.execution.cancel = a.execution.cancel := congrArg (·.cancel) h.seen
  rw [Attempt.ended?, Attempt.ended?, h.terminated, hcancel]

theorem Alike.note (h : Alike token a a') (e e' : JournalEvent) :
    Alike token (a.note e) (a'.note e') :=
  ⟨h.own.frame rfl rfl rfl rfl, h.own'.frame rfl rfl rfl rfl, h.session, h.logFile, h.claimed,
    h.current, h.registration, by simpa [Attempt.note] using h.seen⟩

/-- The host is asked to stop both. -/
theorem Alike.ask (h : Alike token a a') (s : DebugSession) : Alike token (a.ask s) (a'.ask s) :=
  ⟨h.own.frame rfl rfl rfl rfl, h.own'.frame rfl rfl rfl rfl, h.session, h.logFile, h.claimed,
    h.current, h.registration,
    congrArg (fun x => { x with stopped := x.stopped ++ [s.id] }) h.seen⟩

theorem Alike.awaitStop (h : Alike token a a') (id : Entries) (script : HostScript)
    (events : List HostEvent) :
    (a'.awaitStop id (script.own token) (events.filter (·.isOwn token))).1.execution.seen =
        (a.awaitStop id script events).1.execution.seen ∧
      (a'.awaitStop id (script.own token) (events.filter (·.isOwn token))).2 =
        (a.awaitStop id script events).2 := by
  have hfails : (script.own token).stopFails = script.stopFails := rfl
  have hevents : events.filter (·.isOwn token) ++ (script.own token).onStop =
      (events ++ script.onStop).filter (·.isOwn token) :=
    (List.filter_append ..).symm
  obtain ⟨hend, hsame⟩ := h.awaitUntil (fun a => settled? a.terminated)
    (fun h => congrArg settled? h.terminated) (events ++ script.onStop)
  unfold Attempt.awaitStop
  rw [hfails, hevents]
  generalize a.awaitUntil (fun a => settled? a.terminated) _ = r at *
  generalize a'.awaitUntil (fun a => settled? a.terminated) _ = r' at *
  obtain ⟨a₁, rest, last⟩ := r
  obtain ⟨a₁', rest', last'⟩ := r'
  cases hsame
  cases script.stopFails with
  | some reason => exact ⟨h.seen, rfl⟩
  | none =>
    cases last with
    | arrived s => exact ⟨hend.seen, rfl⟩
    | calledOff => exact ⟨hend.seen, rfl⟩
    | cancelRequested => exact ⟨(hend.note _ _).seen, rfl⟩
    | never => exact ⟨(hend.note _ _).seen, rfl⟩

/-- **Stopping a session** comes to the same for both. -/
theorem Alike.stop (h : Alike token a a') (e : QueueEntry) (script : HostScript)
    (events : List HostEvent) :
    (a'.stop e (script.own token) (events.filter (·.isOwn token))).1.execution.seen =
        (a.stop e script events).1.execution.seen ∧
      (a'.stop e (script.own token) (events.filter (·.isOwn token))).2 =
        (a.stop e script events).2 := by
  obtain ⟨hstart, hsame⟩ := h.awaitUntil (fun a => settled? a.started)
    (fun h => congrArg settled? h.started) events
  unfold Attempt.stop
  generalize a.awaitUntil (fun a => settled? a.started) events = r at *
  generalize a'.awaitUntil (fun a => settled? a.started) _ = r' at *
  obtain ⟨a₁, rest, last⟩ := r
  obtain ⟨a₁', rest', last'⟩ := r'
  cases hsame
  cases last with
  | calledOff => exact ⟨hstart.seen, rfl⟩
  | cancelRequested => exact ⟨(hstart.note _ _).seen, rfl⟩
  | never => exact ⟨(hstart.note _ _).seen, rfl⟩
  | arrived s =>
    dsimp only
    have hnoted := hstart.note
      (.info "debug_session_cancelled" [("test_id", .text e.node.id), ("session_id", .text s.id)])
      (.info "debug_session_cancelled" [("test_id", .text e.node.id), ("session_id", .text s.id)])
    rw [hnoted.terminated]
    split
    · exact ⟨hnoted.seen, rfl⟩
    · exact (hnoted.ask s).awaitStop _ script rest

end Attempt

/-! ## 3. Entries -/

namespace Execution

open Attempt

variable {token : String}

/-- What the session said decides the same for both. -/
theorem concludeSession_alike {a a' : Attempt} (h : Alike token a a') (w : Workbench)
    (e : QueueEntry) :
    (concludeSession a' w e).1.seen = (concludeSession a w e).1.seen ∧
      (concludeSession a' w e).2 = (concludeSession a w e).2 := by
  have hsame : (a'.execution.concludeDebug w e a'.tracker?).map seen =
      (a.execution.concludeDebug w e a.tracker?).map seen := by
    rw [seen_concludeDebug, seen_concludeDebug, h.tracker?, h.seen]
  unfold concludeSession
  rw [h.logFile]
  cases hleft : a.execution.concludeDebug w e a.tracker? with
  | error fault =>
    cases hright : a'.execution.concludeDebug w e a'.tracker? with
    | error fault' =>
      rw [hleft, hright] at hsame
      cases hsame
      exact ⟨h.seen, rfl⟩
    | ok x' => rw [hleft, hright] at hsame; cases hsame
  | ok x =>
    cases hright : a'.execution.concludeDebug w e a'.tracker? with
    | error fault' => rw [hleft, hright] at hsame; cases hsame
    | ok x' =>
      rw [hleft, hright] at hsame
      have hx : x'.seen = x.seen := Except.ok.inj hsame
      refine ⟨?_, rfl⟩
      dsimp only
      rw [seen_showDebuggerLog, seen_showDebuggerLog, hx]

/-- **Waiting for a session** comes to the same for both. -/
theorem awaitSession_alike {a a' : Attempt} (h : Alike token a a') (w : Workbench)
    (e : QueueEntry) (script : HostScript) :
    (awaitSession a' w e (script.own token)).1.seen = (awaitSession a w e script).1.seen ∧
      (awaitSession a' w e (script.own token)).2 = (awaitSession a w e script).2 := by
  have hevents : (script.own token).events = script.events.filter (·.isOwn token) := rfl
  obtain ⟨hwait, hsame⟩ := h.awaitUntil Attempt.ended? (fun h => h.ended?)
    script.events
  unfold awaitSession
  rw [hevents]
  generalize a.awaitUntil Attempt.ended? script.events = r at *
  generalize a'.awaitUntil Attempt.ended? _ = r' at *
  obtain ⟨a₁, rest, last⟩ := r
  obtain ⟨a₁', rest', last'⟩ := r'
  cases hsame
  have hcancel : a₁'.execution.cancel = a₁.execution.cancel := congrArg (·.cancel) hwait.seen
  dsimp only
  rw [hcancel]
  cases last with
  | cancelRequested =>
    obtain ⟨hseen, hlast⟩ := hwait.stop e script rest
    dsimp only
    generalize a₁.stop e script rest = r at *
    generalize a₁'.stop e (script.own token) _ = r' at *
    obtain ⟨a₂, last⟩ := r
    obtain ⟨a₂', last'⟩ := r'
    obtain rfl : last' = last := hlast
    cases last' with
    | finished =>
      refine ⟨?_, rfl⟩
      exact congrArg (fun x => (x.reach e.ref .skipped).noteState
        ⟨e.ref, .errored, some cancelledMessage, none⟩) hseen
    | failed reason => exact ⟨hseen, rfl⟩
    | abandoned => exact ⟨hseen, rfl⟩
  | never => exact ⟨hwait.seen, rfl⟩
  | calledOff =>
    cases hpossible : a₁.execution.cancel != .impossible with
    | false => exact ⟨hwait.seen, rfl⟩
    | true => exact concludeSession_alike hwait w e
  | arrived s => exact concludeSession_alike hwait w e

/-- The same in a world whose hosts behave in another way. -/
def onHosts (f : HostScript → HostScript) (x : Execution) : Execution :=
  { x with hosts := x.hosts.map f }

variable {x : Execution} {f : HostScript → HostScript}

theorem onHosts_tell (x : Execution) (f : HostScript → HostScript) (w : Workbench)
    (text : String) : (x.onHosts f).tell w text = (x.tell w text).onHosts f := by
  unfold tell
  split <;> rfl

theorem onHosts_say (x : Execution) (f : HostScript → HostScript) (w : Workbench)
    (line : String) : (x.onHosts f).say w line = (x.say w line).onHosts f :=
  onHosts_tell { x with record := x.record.append (line ++ "\r\n") } f w _

theorem onHosts_launchConfiguration (x : Execution) (f : HostScript → HostScript) (w : Workbench)
    (node : NodeInfo) (what : Runnable) :
    (x.onHosts f).launchConfiguration w node what =
      ((x.launchConfiguration w node what).1.onHosts f,
        (x.launchConfiguration w node what).2) := by
  have hlook : (x.onHosts f).lookUp w = ((x.lookUp w).1, (x.lookUp w).2.onHosts f) := rfl
  unfold launchConfiguration
  rw [hlook]
  dsimp only
  split
  · exact congrArg (·, _) (onHosts_tell ((x.lookUp w).2.noteNoToolchain w) f w _)
  · rfl

theorem own_beginAttempt (hsound : x.correlator.Sound) (e : QueueEntry) (token : String)
    (configuration : Entries) (logFile : Path) :
    (x.beginAttempt e token configuration logFile).Own token := by
  refine ⟨hsound.register token, ⟨x.correlator.tokens, [], ?_, ?_, List.not_mem_nil⟩, rfl, ?_⟩
  · exact x.correlator.tokens_register token
  · exact List.length_map _
  · intro place hplace
    cases hplace

theorem startSession_alike (hsound : x.correlator.Sound) (w : Workbench) (e : QueueEntry)
    (token : String) (configuration : Entries) (logFile : Path) :
    ((x.onHosts (·.own token)).startSession w e token configuration logFile).1.seen =
        (x.startSession w e token configuration logFile).1.seen ∧
      ((x.onHosts (·.own token)).startSession w e token configuration logFile).2 =
        (x.startSession w e token configuration logFile).2 := by
  have hscript : (x.onHosts (·.own token)).hosts.headD {} = (x.hosts.headD {}).own token := by
    unfold onHosts
    cases x.hosts <;> rfl
  have hbegun : Alike token (x.beginAttempt e token configuration logFile)
      ((x.onHosts (·.own token)).beginAttempt e token configuration logFile) :=
    ⟨own_beginAttempt hsound e token configuration logFile,
      own_beginAttempt (x := x.onHosts (·.own token)) hsound e token configuration logFile,
      rfl, rfl, rfl, rfl, rfl, rfl⟩
  have hmeanwhile := hbegun.deliverAll (x.hosts.headD {}).meanwhile
  unfold startSession
  rw [hscript]
  have hstart : ((x.hosts.headD {}).own token).start = (x.hosts.headD {}).start := rfl
  have hfiltered : ((x.hosts.headD {}).own token).meanwhile =
      (x.hosts.headD {}).meanwhile.filter (·.isOwn token) := rfl
  dsimp only
  rw [hstart, hfiltered]
  cases (x.hosts.headD {}).start with
  | fails reason => exact ⟨hmeanwhile.seen, rfl⟩
  | refuses =>
    refine ⟨?_, rfl⟩
    have hnoted : ∀ x : Execution, ∀ (event : JournalEvent) (problem : Problem) (line : String),
        ((((x.note event).addProblem problem).say w line).reach e.ref .skipped).seen =
          ((x.seen.addProblem problem).say w line).reach e.ref .skipped := by
      intro x event problem line
      have hproblem : ((x.note event).addProblem problem).seen = x.seen.addProblem problem :=
        congrArg (addProblem · problem) (x.seen_note event)
      exact congrArg (reach · e.ref .skipped) ((seen_say _ w line).trans (by rw [hproblem]))
    dsimp only
    rw [hnoted, hnoted, hmeanwhile.seen]
  | accepts => exact awaitSession_alike hmeanwhile w e _

/-- No session has been asked for: the same token and the same host come next. -/
structure Unasked (x x' : Execution) : Prop extends x.Rests x' where
  tokens : x'.tokens = x.tokens
  hosts : x'.hosts = x.hosts

theorem Unasked.trans {x' x'' : Execution} (h : x.Unasked x') (h' : x'.Unasked x'') :
    x.Unasked x'' :=
  ⟨h.toRests.trans h'.toRests, h'.tokens.trans h.tokens, h'.hosts.trans h.hosts⟩

theorem Unasked.newToken {x' : Execution} (h : x.Unasked x') : x'.newToken = x.newToken := by
  rw [Execution.newToken, Execution.newToken, h.tokens]

theorem unasked_say (x : Execution) (w : Workbench) (line : String) :
    x.Unasked (x.say w line) := by
  refine ⟨x.rests_say w line, ?_, ?_⟩
  · unfold say append tell
    split <;> rfl
  · unfold say append tell
    split <;> rfl

theorem unasked_reach (x : Execution) (ref : NodeRef) (state : RunState) :
    x.Unasked (x.reach ref state) := ⟨x.rests_reach ref state, rfl, rfl⟩

theorem unasked_arrive (x : Execution) : x.Unasked x.arrive :=
  ⟨⟨⟨rfl, rfl⟩, rfl, rfl, rfl, rfl⟩, rfl, rfl⟩

theorem unasked_launchConfiguration (x : Execution) (w : Workbench) (node : NodeInfo)
    (what : Runnable) : x.Unasked (x.launchConfiguration w node what).1 := by
  refine ⟨x.rests_launchConfiguration w node what, ?_, ?_⟩
  · unfold launchConfiguration tell
    dsimp only
    split
    · split <;> rfl
    · rfl
  · unfold launchConfiguration tell
    dsimp only
    split
    · split <;> rfl
    · rfl

/-- **A debugged entry** shows the same when sessions of other tokens are left out. -/
theorem debugEntry_alike (hsound : x.correlator.Sound) (w : Workbench) (e : QueueEntry) :
    ((x.onHosts (·.own x.newToken)).debugEntry w e).1.seen = (x.debugEntry w e).1.seen ∧
      ((x.onHosts (·.own x.newToken)).debugEntry w e).2 = (x.debugEntry w e).2 := by
  have hunasked := x.unasked_launchConfiguration w e.node e.what
  unfold debugEntry
  split
  · have hsaid := onHosts_say ((x.note (.warning "debugger_unavailable"
      Problem.noDebugger.report.entries)).addProblem .noDebugger) (·.own x.newToken) w
        s!"error: {Problem.noDebugger.message}"
    have hseen := congrArg (fun x => seen (reach x e.ref .skipped)) hsaid
    exact ⟨hseen, rfl⟩
  · rw [onHosts_launchConfiguration]
    generalize x.launchConfiguration w e.node e.what = r at *
    obtain ⟨x', configured⟩ := r
    cases configured with
    | error refusal =>
      cases refusal with
      | noToolchain => exact ⟨rfl, rfl⟩
      | noLibrary => exact ⟨rfl, rfl⟩
      | badTemplate fault => exact ⟨rfl, rfl⟩
    | ok bare =>
      have htoken : x'.newToken = x.newToken := hunasked.newToken
      dsimp only
      have hfiles : (x'.onHosts (·.own x.newToken)).files = x'.files := rfl
      have htoken' : (x'.onHosts (·.own x.newToken)).newToken = x.newToken := htoken
      rw [hfiles, htoken', htoken]
      split
      · exact ⟨rfl, rfl⟩
      · next files _ =>
        have hready : ({ x' with tokens := x'.tokens + 1, files := files } : Execution)
            |>.correlator.Sound := hunasked.correlator ▸ hsound
        exact startSession_alike hready w e x.newToken _ _

theorem startEntry_alike (hsound : x.correlator.Sound) (w : Workbench) (e : QueueEntry) :
    ((x.onHosts (·.own x.newToken)).startEntry w true e).1.seen = (x.startEntry w true e).1.seen ∧
      ((x.onHosts (·.own x.newToken)).startEntry w true e).2 = (x.startEntry w true e).2 := by
  have hunasked := (x.unasked_say w s!"Running {e.kindName} {e.node.id}").trans
    (unasked_reach _ e.ref .started)
  have htoken := hunasked.newToken
  have hbegun : (((x.say w s!"Running {e.kindName} {e.node.id}").onHosts
      (·.own x.newToken)).reach e.ref .started) =
        ((x.say w s!"Running {e.kindName} {e.node.id}").reach e.ref .started).onHosts
          (·.own x.newToken) := rfl
  unfold startEntry
  simp only [if_true, onHosts_say]
  rw [hbegun]
  generalize (x.say w s!"Running {e.kindName} {e.node.id}").reach e.ref .started = x₁ at *
  obtain ⟨hseen, hlast⟩ := debugEntry_alike (x := x₁) (hunasked.correlator ▸ hsound) w e
  rw [htoken] at hseen hlast
  generalize (x₁.onHosts (·.own x.newToken)).debugEntry w e = r' at *
  generalize x₁.debugEntry w e = r at *
  obtain ⟨x₂, last⟩ := r
  obtain ⟨x₂', last'⟩ := r'
  obtain rfl : last' = last := hlast
  cases last' with
  | finished =>
    refine ⟨?_, rfl⟩
    dsimp only at hseen ⊢
    rw [seen_complete, seen_complete, hseen]
  | failed reason =>
    refine ⟨?_, rfl⟩
    dsimp only at hseen ⊢
    rw [seen_complete, seen_complete, seen_breakOff, seen_breakOff x₂, hseen]
  | abandoned => exact ⟨congrArg (clearBusy · e.ref) hseen, rfl⟩

/-- **An entry** shows the same when sessions of other tokens are left out. -/
theorem entry_alike (hsound : x.correlator.Sound) (w : Workbench) (e : QueueEntry) :
    ((x.onHosts (·.own x.newToken)).entry w true e).1.seen = (x.entry w true e).1.seen ∧
      ((x.onHosts (·.own x.newToken)).entry w true e).2 = (x.entry w true e).2 := by
  have harrive : (x.onHosts (·.own x.newToken)).arrive =
      x.arrive.onHosts (·.own x.arrive.newToken) := rfl
  have hset : (x.arrive.onHosts (·.own x.arrive.newToken)).cancel = x.arrive.cancel := rfl
  unfold entry
  dsimp only
  rw [harrive, hset]
  split
  · refine ⟨?_, rfl⟩
    rw [onHosts_say]
    rfl
  · exact startEntry_alike (x := x.arrive) hsound w e

end Execution
end SuiteExplorer
