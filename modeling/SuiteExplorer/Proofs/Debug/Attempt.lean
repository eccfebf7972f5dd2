/-
  SuiteExplorer/Proofs/Debug/Attempt.lean
  =======================================
  **What an attempt hears of its host.**

  Every event of a host is a call to the correlator, a word for the tracker of the
  attempt, or neither.  The registration of an attempt is the last one of its token
  (`Own`), and so all that the attempt will ever look at, that registration and whether
  its token is pending, is a matter of the calls about the token: other calls leave both
  as they are, and what has arrived was reported with the token (`Reported`).

  A wait lets events happen until something is decided (`awaitUntil_eq`), so what it comes
  to follows from what single events do.
-/
import SuiteExplorer.Proofs.Debug.Lifecycle
import SuiteExplorer.Proofs.Run.Grounds

namespace SuiteExplorer

/-! ## 1. The last registration of a token -/

namespace Story

/-- The registration that was made last. -/
def last? (σ : Story) : Option Registration := σ.all.getLast?

theorem last?_touch (σ : Story) (f : Registration → Registration) (ends : Bool) :
    (σ.touch f ends).last? = if σ.current.isSome then σ.last?.map f else σ.last? := by
  obtain ⟨past, current⟩ := σ
  cases current with
  | none => rfl
  | some r => cases ends <;> simp [last?, all]

theorem current_touch (σ : Story) (f : Registration → Registration) (ends : Bool) :
    (σ.touch f ends).current = if ends then none else σ.current.map f := by
  obtain ⟨past, current⟩ := σ
  cases current with
  | none => cases ends <;> rfl
  | some r => cases ends <;> rfl

end Story

namespace Correlator

variable {c : Correlator} {token t : String} {place place' : Nat} {call : CorrelatorCall}
  {f : Registration → Registration}

theorem LastOf.unique {tokens : List String} (h : LastOf token tokens place)
    (h' : LastOf token tokens place') : place = place' := by
  obtain ⟨before, after, heq, hplace, hafter⟩ := h
  obtain ⟨before', after', heq', hplace', hafter'⟩ := h'
  rw [heq] at heq'
  rw [← hplace, ← hplace']
  rcases List.append_eq_append_iff.mp heq' with ⟨rest, hrest, hsplit⟩ | ⟨rest, hrest, hsplit⟩
  · cases rest with
    | nil => rw [hrest, List.append_nil]
    | cons t rest =>
      rw [List.cons_append] at hsplit
      exact absurd (by simp [(List.cons.inj hsplit).2]) hafter
  · cases rest with
    | nil => rw [hrest, List.append_nil]
    | cons t rest =>
      rw [List.cons_append] at hsplit
      exact absurd (by simp [(List.cons.inj hsplit).2]) hafter'

/-- Where a token stands last, there is its last registration. -/
theorem Sound.last?_story (hc : c.Sound) (hlast : LastOf token c.tokens place) :
    (c.story token).last? = c.history[place]? := by
  obtain ⟨before, after, heq, hplace, hafter⟩ := hlast
  obtain ⟨rs, qs, hhistory, rfl, hqs⟩ := List.map_eq_append_iff.mp heq
  obtain ⟨r, rest, rfl, hr, rfl⟩ := List.map_eq_cons_iff.mp hqs
  rw [Story.last?, hc.all_story, historyOf, hhistory, filter_middle hr hafter,
    List.getLast?_concat, ← hplace, List.length_map, getElem?_middle]

/-- **The tokens that a call leaves pending** are those that it does not end. -/
theorem Sound.pendingTokens_perform (hc : c.Sound) (hregister : ∀ t, call ≠ .register t) :
    (c.perform call).pendingTokens =
      c.pendingTokens.filter fun t => !(call.ends && call.concerns t) := by
  cases call.kind with
  | register token => exact absurd rfl (hregister token)
  | dispose =>
    have hnone : c.dispose.pendingTokens = [] := rfl
    rw [Correlator.perform, hnone]
    simp [CorrelatorCall.ends, CorrelatorCall.concerns]
  | nobody hdispose h =>
    rw [perform_of_none hdispose h, List.filter_eq_self.mpr]
    intro t _
    simp [CorrelatorCall.concerns_eq hdispose, h]
  | @change _ token _ hdispose h =>
    rw [hc.perform_eq hregister h, pendingTokens_touch]
    cases call.ends with
    | false => simp
    | true =>
      simp only [if_true, Bool.true_and, CorrelatorCall.concerns_eq hdispose, h]
      congr 1
      funext t
      simp [eq_comm]

theorem Sound.tokens_perform (hc : c.Sound) (hregister : ∀ t, call ≠ .register t) :
    (c.perform call).tokens = c.tokens := by
  cases call.kind with
  | register token => exact absurd rfl (hregister token)
  | dispose =>
    have hrelease : ∀ (tokens : List String) {c : Correlator}, c.Sound →
        (tokens.foldl Correlator.release c).tokens = c.tokens := by
      intro tokens
      induction tokens with
      | nil => exact fun _ => rfl
      | cons token tokens ih =>
        intro c hc
        rw [List.foldl_cons, ih (hc.release token), release_eq]
        exact hc.tokens_touch Registration.token_cancel
    rw [Correlator.perform, hc.dispose_eq, hrelease _ hc]
  | nobody hdispose h => rw [perform_of_none hdispose h]
  | change _ _ h =>
    rw [hc.perform_eq hregister h]
    exact hc.tokens_touch call.token_change

theorem tokens_change (c : Correlator) (place : Nat) (hf : ∀ r, (f r).token = r.token) :
    (c.change place f).tokens = c.tokens := by
  refine List.ext_getElem? fun i => ?_
  simp only [tokens, change, List.getElem?_map, List.getElem?_modify]
  cases c.history[i]? with
  | none => rfl
  | some r =>
    split
    · exact congrArg some (hf r)
    · rfl

theorem Sound.change (hc : c.Sound) (place : Nat) (hf : ∀ r, (f r).token = r.token) :
    (c.change place f).Sound := by
  refine ⟨hc.distinct, fun token p hp => ?_⟩
  rw [tokens_change c place hf]
  exact hc.last token p hp

/-- A word for the last registration of a token is heard by it while it is pending. -/
theorem Sound.current_change (hc : c.Sound) (hlast : LastOf token c.tokens place)
    (hf : ∀ r, (f r).token = r.token) :
    ((c.change place f).story token).current = (c.story token).current.map f := by
  cases h : c.place? token with
  | none =>
    have h' : (c.change place f).place? token = none := h
    rw [story_of_none h, story_of_none h', Option.map_none]
  | some p =>
    obtain rfl : p = place := (hc.last token p h).unique hlast
    have htouch : c.change p f = c.touch token f false := by simp only [Correlator.touch, h]; rfl
    rw [htouch, hc.story_touch hf, Story.current_touch]
    rfl

end Correlator

/-! ## 2. Events -/

/-- The configuration of the session carries the token, as that of the launched session
    does. -/
def HostSession.Carries (token : String) : HostSession → Prop
  | .launched => True
  | .other s => s.token = some token

namespace HostEvent

/-- The event is the end of another token. -/
def ends (token : String) : HostEvent → Bool
  | .terminated (.other s) => s.token = some token
  | .dispose => true
  | _ => false

/-- What the event says to the tracker of the attempt. -/
def word? : HostEvent → Option (DebugTracker → DebugTracker)
  | .message m => some fun t => (t.onMessage m).toOption.getD t
  | .adapterError text => some (·.onError text)
  | .adapterExit code => some (·.onExit code)
  | _ => none

end HostEvent

namespace Attempt

variable {a a' : Attempt} {token : String} {e : HostEvent} {call : CorrelatorCall}

/-- The call that the event is. -/
def call? (a : Attempt) : HostEvent → Option CorrelatorCall
  | .claim who => some (.claim (a.sessionOf who))
  | .started who => some (.started (a.sessionOf who))
  | .terminated who => some (.terminated (a.sessionOf who))
  | .dispose => some .dispose
  | _ => none

theorem not_register (h : a.call? e = some call) (t : String) : call ≠ .register t := by
  cases e with
  | claim who => cases h; simp
  | started who => cases h; simp
  | terminated who => cases h; simp
  | dispose => cases h; simp
  | message m => cases h
  | adapterError text => cases h
  | adapterExit code => cases h
  | log content => cases h
  | cancel => cases h

theorem correlator_deliver (h : a.call? e = some call) :
    (a.deliver e).execution.correlator = a.execution.correlator.perform call := by
  cases e with
  | claim who =>
    cases h
    simp only [deliver]
    split <;> rfl
  | started who => cases h; rfl
  | terminated who => cases h; exact correlator_noteAll _ _
  | dispose => cases h; rfl
  | message m => cases h
  | adapterError text => cases h
  | adapterExit code => cases h
  | log content => cases h
  | cancel => cases h

theorem deliver_of_word {f : DebugTracker → DebugTracker} (h : e.word? = some f) :
    a.deliver e = a.hear f := by
  cases e with
  | message m => cases h; rfl
  | adapterError text => cases h; rfl
  | adapterExit code => cases h; rfl
  | claim who => cases h
  | started who => cases h
  | terminated who => cases h
  | dispose => cases h
  | log content => cases h
  | cancel => cases h

/-- Nothing else that happens is heard. -/
theorem correlator_deliver_of_none (hcall : a.call? e = none) (hword : e.word? = none) :
    (a.deliver e).execution.correlator = a.execution.correlator := by
  cases e with
  | log content => rfl
  | cancel => rfl
  | message m => cases hword
  | adapterError text => cases hword
  | adapterExit code => cases hword
  | claim who => cases hcall
  | started who => cases hcall
  | terminated who => cases hcall
  | dispose => cases hcall

theorem stopped_noteAll (journal : Journal) (x : Execution) :
    (x.noteAll journal).stopped = x.stopped := by
  induction journal generalizing x with
  | nil => rfl
  | cons e journal ih => exact ih (x.note e)

/-- An attempt keeps its session and its log, and nothing is asked to stop. -/
structure Stays (a a' : Attempt) : Prop where
  session : a'.session = a.session
  logFile : a'.logFile = a.logFile
  stopped : a'.execution.stopped = a.execution.stopped

theorem stays_hear (a : Attempt) (f : DebugTracker → DebugTracker) : a.Stays (a.hear f) := by
  unfold hear
  split
  · exact ⟨rfl, rfl, rfl⟩
  · exact ⟨rfl, rfl, rfl⟩

theorem stays_deliver (a : Attempt) (e : HostEvent) : a.Stays (a.deliver e) := by
  cases e with
  | claim who =>
    simp only [deliver]
    split
    · exact ⟨rfl, rfl, rfl⟩
    · exact ⟨rfl, rfl, rfl⟩
  | started who => exact ⟨rfl, rfl, rfl⟩
  | terminated who => exact ⟨rfl, rfl, stopped_noteAll _ _⟩
  | message m => exact a.stays_hear _
  | adapterError text => exact a.stays_hear _
  | adapterExit code => exact a.stays_hear _
  | log content => exact ⟨rfl, rfl, rfl⟩
  | cancel => exact ⟨rfl, rfl, rfl⟩
  | dispose => exact ⟨rfl, rfl, rfl⟩

/-! ## 3. The registration of an attempt -/

/-- The registration of the attempt is the last one of its token, and its tracker the only
    one that hears anything. -/
structure Own (token : String) (a : Attempt) : Prop where
  sound : a.execution.correlator.Sound
  last : Correlator.LastOf token a.execution.correlator.tokens a.place
  session : a.session.token = some token
  claimed : ∀ place, a.claimed = some place → place = a.place

/-- The registration of a token while it is pending. -/
def current (token : String) (a : Attempt) : Option Registration :=
  (a.execution.correlator.story token).current

theorem Own.registration?_eq (h : a.Own token) :
    a.registration? = (a.execution.correlator.story token).last? :=
  (h.sound.last?_story h.last).symm

theorem Own.frame (h : a.Own token) (hcorrelator : a'.execution.correlator = a.execution.correlator)
    (hplace : a'.place = a.place) (hsession : a'.session = a.session)
    (hclaimed : a'.claimed = a.claimed) : a'.Own token := by
  refine ⟨hcorrelator ▸ h.sound, ?_, hsession ▸ h.session, ?_⟩
  · rw [hcorrelator, hplace]
    exact h.last
  · rw [hclaimed, hplace]
    exact h.claimed

theorem claimed_hear (a : Attempt) (f : DebugTracker → DebugTracker) :
    (a.hear f).claimed = a.claimed := by
  unfold hear
  split <;> rfl

/-- Only a claim that is granted for its own token gives the attempt a tracker. -/
theorem claimed_claim (a : Attempt) (who : HostSession) :
    (a.deliver (.claim who)).claimed =
      if (a.execution.correlator.claimTracker (a.sessionOf who)).2 &&
          (a.sessionOf who).token = a.session.token then
        a.execution.correlator.match? (a.sessionOf who)
      else a.claimed := by
  simp only [deliver]
  split <;> rfl

theorem claimed_deliver_of_ne (h : ∀ who, e ≠ .claim who) : (a.deliver e).claimed = a.claimed := by
  cases e with
  | claim who => exact absurd rfl (h who)
  | started who => rfl
  | terminated who => rfl
  | message m => exact a.claimed_hear _
  | adapterError text => exact a.claimed_hear _
  | adapterExit code => exact a.claimed_hear _
  | log content => rfl
  | cancel => rfl
  | dispose => rfl

/-- What a word does to a registration. -/
def heard (f : DebugTracker → DebugTracker) (r : Registration) : Registration :=
  { r with tracker := r.tracker.map f }

theorem correlator_hear (a : Attempt) (f : DebugTracker → DebugTracker) :
    (a.hear f).execution.correlator = match a.claimed with
      | none => a.execution.correlator
      | some place => a.execution.correlator.change place (heard f) := by
  unfold hear
  cases a.claimed with
  | none => rfl
  | some place => rfl

theorem Own.deliver (h : a.Own token) (e : HostEvent) : (a.deliver e).Own token := by
  have hclaimed : ∀ place, (a.deliver e).claimed = some place → place = (a.deliver e).place := by
    intro place hplace
    rw [(goesOn_deliver a e).place]
    by_cases hclaim : ∃ who, e = .claim who
    · obtain ⟨who, rfl⟩ := hclaim
      rw [claimed_claim] at hplace
      split at hplace
      · next hgranted =>
        simp only [Bool.and_eq_true, decide_eq_true_eq] at hgranted
        rw [Correlator.match?_of_some (hgranted.2.trans h.session)] at hplace
        exact (h.sound.last token place hplace).unique h.last
      · exact h.claimed place hplace
    · rw [claimed_deliver_of_ne fun who heq => hclaim ⟨who, heq⟩] at hplace
      exact h.claimed place hplace
  have hsession : (a.deliver e).session.token = some token := by
    rw [(a.stays_deliver e).session, h.session]
  have hof : ∀ {c : Correlator}, (a.deliver e).execution.correlator = c → c.Sound →
      c.tokens = a.execution.correlator.tokens → (a.deliver e).Own token := by
    intro c heq hsound htokens
    refine ⟨heq ▸ hsound, ?_, hsession, hclaimed⟩
    rw [heq, htokens, (goesOn_deliver a e).place]
    exact h.last
  cases hcall : a.call? e with
  | some call =>
    exact hof (correlator_deliver hcall) (h.sound.perform call)
      (h.sound.tokens_perform (not_register hcall))
  | none =>
    cases hword : e.word? with
    | none => exact hof (correlator_deliver_of_none hcall hword) h.sound rfl
    | some f =>
      have hcorrelator : (a.deliver e).execution.correlator = _ :=
        (congrArg (·.execution.correlator) (deliver_of_word hword)).trans (a.correlator_hear f)
      cases hplace : a.claimed with
      | none =>
        rw [hplace] at hcorrelator
        exact hof hcorrelator h.sound rfl
      | some place =>
        rw [hplace] at hcorrelator
        exact hof hcorrelator (h.sound.change place fun _ => rfl)
          (Correlator.tokens_change _ place fun _ => rfl)

/-- **A call about the token** is heard while the token is pending, and any other call is
    not. -/
theorem Own.deliver_call (h : a.Own token) (hcall : a.call? e = some call) :
    (a.deliver e).current token =
        (if call.concerns token then
          if call.ends then none else (a.current token).map call.change
        else a.current token) ∧
      (a.deliver e).registration? =
        (if call.concerns token && (a.current token).isSome then
          a.registration?.map call.change
        else a.registration?) := by
  have hstory := h.sound.story_perform call token
  rw [← correlator_deliver hcall, Story.perform_of_ne (not_register hcall)] at hstory
  rw [(h.deliver e).registration?_eq, h.registration?_eq, current, current, hstory]
  cases call.concerns token with
  | false => exact ⟨rfl, rfl⟩
  | true => exact ⟨Story.current_touch _ _ _, Story.last?_touch _ _ _⟩

/-- **A word** is heard by the registration whose tracker was claimed. -/
theorem Own.deliver_word (h : a.Own token) {f : DebugTracker → DebugTracker}
    (hword : e.word? = some f) :
    (a.deliver e).current token =
        (if a.claimed.isSome then (a.current token).map (heard f) else a.current token) ∧
      (a.deliver e).registration? =
        (if a.claimed.isSome then a.registration?.map (heard f) else a.registration?) := by
  have hcorrelator := a.correlator_hear f
  have hplace : (a.hear f).place = a.place := (a.goesOn_hear f).place
  rw [deliver_of_word hword, current, registration?, hplace, hcorrelator]
  cases hclaimed : a.claimed with
  | none => exact ⟨rfl, rfl⟩
  | some place =>
    obtain rfl := h.claimed place hclaimed
    refine ⟨h.sound.current_change h.last fun _ => rfl, ?_⟩
    change (a.execution.correlator.history.modify a.place (heard f))[a.place]? = _
    rw [List.getElem?_modify]
    simp [registration?]

theorem deliver_rest (token : String) (hcall : a.call? e = none) (hword : e.word? = none) :
    (a.deliver e).current token = a.current token ∧
      (a.deliver e).registration? = a.registration? := by
  have hcorrelator := correlator_deliver_of_none hcall hword
  rw [current, registration?, hcorrelator, (goesOn_deliver a e).place]
  exact ⟨rfl, rfl⟩

end Attempt

/-! ## 4. What was reported -/

/-- What a registration knows has been reported with its token, or else everything was
    disposed of. -/
structure Registration.Reported (token : String) (happened : List HostEvent) (r : Registration) :
    Prop where
  started : ∀ s, r.started = .arrived s → s.token = some token
  terminated : ∀ s, r.terminated = .arrived s → s.token = some token ∧
    ∃ who : HostSession, who.Carries token ∧ .terminated who ∈ happened
  cancelled : r.terminated = .cancelled → .dispose ∈ happened

namespace Registration

variable {token : String} {happened happened' : List HostEvent} {r : Registration}
  {s : DebugSession}

theorem Reported.mono (h : r.Reported token happened) (hsub : happened ⊆ happened') :
    r.Reported token happened' := by
  refine ⟨h.started, fun s hs => ?_, fun hcancelled => hsub (h.cancelled hcancelled)⟩
  obtain ⟨htoken, who, hwho, hmem⟩ := h.terminated s hs
  exact ⟨htoken, who, hwho, hsub hmem⟩

theorem Reported.claim (h : r.Reported token happened) : r.claim.Reported token happened := by
  unfold Registration.claim
  split
  · exact h
  · exact ⟨h.started, h.terminated, h.cancelled⟩

theorem Reported.start (h : r.Reported token happened) (hs : s.token = some token) :
    (r.start s).Reported token happened := by
  refine ⟨fun s' hs' => ?_, by rw [r.terminated_start s]; exact h.terminated,
    by rw [r.terminated_start s]; exact h.cancelled⟩
  rw [started_start] at hs'
  rcases Awaited.of_arrive_eq_arrived hs' with hbefore | rfl
  · exact h.started s' hbefore
  · exact hs

theorem Reported.terminate (h : r.Reported token happened) (hs : s.token = some token)
    (hreport : ∃ who : HostSession, who.Carries token ∧ .terminated who ∈ happened) :
    (r.terminate s).Reported token happened := by
  have hstart := h.start hs
  refine ⟨hstart.started, fun s' hs' => ?_, fun hcancelled => ?_⟩
  · rcases Awaited.of_arrive_eq_arrived hs' with hbefore | rfl
    · exact hstart.terminated s' hbefore
    · exact ⟨hs, hreport⟩
  · exact hstart.cancelled (Awaited.arrive_eq_cancelled.mp hcancelled)

theorem Reported.cancel (h : r.Reported token happened) (hdispose : .dispose ∈ happened) :
    r.cancel.Reported token happened :=
  ⟨fun s hs => h.started s (Awaited.cancel_eq_arrived.mp hs),
    fun s hs => h.terminated s (Awaited.cancel_eq_arrived.mp hs), fun _ => hdispose⟩

theorem reported_new (token : String) : Reported token [] { token := token } := by
  constructor
  · simp
  · simp
  · simp

end Registration

namespace Attempt

variable {a a' : Attempt} {token : String} {e : HostEvent} {call : CorrelatorCall}
  {happened : List HostEvent} {r : Registration}

/-- A call about the token reports with the token. -/
theorem reported_change (hcall : a.call? e = some call) (hconcerns : call.concerns token = true)
    (h : r.Reported token happened) : (call.change r).Reported token (happened ++ [e]) := by
  have hstays := h.mono (List.subset_append_left happened [e])
  cases e with
  | claim who =>
    cases hcall
    exact hstays.claim
  | started who =>
    cases hcall
    exact hstays.start (by simpa [CorrelatorCall.concerns] using hconcerns)
  | terminated who =>
    cases hcall
    have hs : (a.sessionOf who).token = some token := by
      simpa [CorrelatorCall.concerns] using hconcerns
    have hwho : who.Carries token := by
      cases who with
      | launched => trivial
      | other s => exact hs
    exact hstays.terminate hs ⟨who, hwho, by simp⟩
  | dispose =>
    cases hcall
    exact hstays.cancel (by simp)
  | message m => cases hcall
  | adapterError text => cases hcall
  | adapterExit code => cases hcall
  | log content => cases hcall
  | cancel => cases hcall

/-- The attempt has a registration, which knows what was reported. -/
def Informed (token : String) (happened : List HostEvent) (a : Attempt) : Prop :=
  ∃ r, a.registration? = some r ∧ r.Reported token happened

theorem Own.informed_deliver (h : a.Own token) (hi : a.Informed token happened) (e : HostEvent) :
    (a.deliver e).Informed token (happened ++ [e]) := by
  obtain ⟨r, hr, hreported⟩ := hi
  have hstays := hreported.mono (List.subset_append_left happened [e])
  cases hcall : a.call? e with
  | some call =>
    have hregistration := (h.deliver_call hcall).2
    split at hregistration
    · next hheard =>
      simp only [Bool.and_eq_true] at hheard
      exact ⟨call.change r, by rw [hregistration, hr, Option.map_some],
        reported_change hcall hheard.1 hreported⟩
    · exact ⟨r, hregistration.trans hr, hstays⟩
  | none =>
    cases hword : e.word? with
    | none => exact ⟨r, (deliver_rest token hcall hword).2.trans hr, hstays⟩
    | some f =>
      have hregistration := (h.deliver_word hword).2
      split at hregistration
      · exact ⟨heard f r, by rw [hregistration, hr, Option.map_some],
          hstays.started, hstays.terminated, hstays.cancelled⟩
      · exact ⟨r, hregistration.trans hr, hstays⟩

/-! ### 4.1 Other tokens -/

/-- The other tokens that are pending. -/
def others (token : String) (a : Attempt) : List String :=
  a.execution.correlator.pendingTokens.filter (· ≠ token)

theorem ends_eq {t : String} (hsession : a.session.token = some token) (ht : t ≠ token) :
    ((a.call? e).any fun call => call.ends && call.concerns t) = e.ends t := by
  have hlaunched : decide (a.session.token = some t) = false := by
    simpa [hsession] using Ne.symm ht
  cases e with
  | terminated who =>
    cases who with
    | launched => simpa [call?, CorrelatorCall.ends, CorrelatorCall.concerns, sessionOf,
        HostEvent.ends] using hlaunched
    | other s =>
      simp [call?, CorrelatorCall.ends, CorrelatorCall.concerns, sessionOf, HostEvent.ends]
  | claim who => rfl
  | started who => rfl
  | dispose => rfl
  | message m => rfl
  | adapterError text => rfl
  | adapterExit code => rfl
  | log content => rfl
  | cancel => rfl

/-- **An event takes no other token out** than the one whose end it is. -/
theorem Own.others_deliver (h : a.Own token) (e : HostEvent) :
    (a.deliver e).others token = (a.others token).filter fun t => !e.ends t := by
  have hkept : ∀ {ends : String → Bool},
      (a.deliver e).execution.correlator.pendingTokens =
        a.execution.correlator.pendingTokens.filter (fun t => !ends t) →
      (∀ t, t ≠ token → ends t = e.ends t) →
      (a.deliver e).others token = (a.others token).filter fun t => !e.ends t := by
    intro ends hpending hends
    rw [others, hpending, others, List.filter_filter, List.filter_filter]
    refine List.filter_congr fun t _ => ?_
    by_cases ht : t = token
    · simp [ht]
    · simp [hends t ht, Bool.and_comm]
  cases hcall : a.call? e with
  | some call =>
    refine hkept ?_ fun t ht => ends_eq (a := a) h.session ht
    rw [correlator_deliver hcall, h.sound.pendingTokens_perform (not_register hcall), hcall]
    rfl
  | none =>
    refine hkept ?_ fun t ht => ends_eq (a := a) h.session ht
    rw [hcall]
    simp only [Option.any_none, Bool.not_false, List.filter_true]
    cases hword : e.word? with
    | none => rw [correlator_deliver_of_none hcall hword]
    | some f =>
      rw [deliver_of_word hword, a.correlator_hear f]
      cases a.claimed with
      | none => rfl
      | some place => rfl

/-! ### 4.2 Runs of events -/

theorem stays_deliverAll (events : List HostEvent) (a : Attempt) :
    a.Stays (a.deliverAll events) := by
  induction events generalizing a with
  | nil => exact ⟨rfl, rfl, rfl⟩
  | cons e events ih =>
    have hstep := a.stays_deliver e
    have hrest := ih (a.deliver e)
    exact ⟨hrest.session.trans hstep.session, hrest.logFile.trans hstep.logFile,
      hrest.stopped.trans hstep.stopped⟩

theorem Own.deliverAll (events : List HostEvent) (h : a.Own token) :
    (a.deliverAll events).Own token := by
  induction events generalizing a with
  | nil => exact h
  | cons e events ih => exact ih (h.deliver e)

theorem Own.informed_deliverAll (events : List HostEvent) (h : a.Own token)
    (hi : a.Informed token happened) :
    (a.deliverAll events).Informed token (happened ++ events) := by
  induction events generalizing a happened with
  | nil => rwa [List.append_nil]
  | cons e events ih =>
    have hrest := ih (h.deliver e) (h.informed_deliver hi e)
    rwa [List.append_assoc, List.singleton_append] at hrest

/-- **The other tokens that are pending** after some events. -/
theorem Own.others_deliverAll (events : List HostEvent) (h : a.Own token) :
    (a.deliverAll events).others token =
      (a.others token).filter fun t => events.all fun e => !e.ends t := by
  induction events generalizing a with
  | nil => simp [Attempt.deliverAll]
  | cons e events ih =>
    have hrest := ih (h.deliver e)
    rw [h.others_deliver, List.filter_filter] at hrest
    simpa [Attempt.deliverAll, Bool.and_comm] using hrest

/-- A wait lets the first of the events happen, until something is decided, and no more. -/
theorem awaitUntil_eq (decided? : Attempt → Option WaitEnd) (events : List HostEvent)
    (a : Attempt) :
    ∃ happened, events = happened ++ (a.awaitUntil decided? events).2.1 ∧
      (a.awaitUntil decided? events).1 = a.deliverAll happened ∧
      (a.awaitUntil decided? events).2.2 = (decided? (a.deliverAll happened)).getD .never ∧
      ∀ n < happened.length, decided? (a.deliverAll (happened.take n)) = none := by
  induction events generalizing a with
  | nil => exact ⟨[], rfl, rfl, rfl, fun n hn => absurd hn (Nat.not_lt_zero n)⟩
  | cons e events ih =>
    unfold awaitUntil
    cases hdecided : decided? a with
    | some last =>
      exact ⟨[], rfl, rfl, by simp [Attempt.deliverAll, hdecided],
        fun n hn => absurd hn (Nat.not_lt_zero n)⟩
    | none =>
      obtain ⟨happened, hsplit, hattempt, hlast, hfirst⟩ := ih (a.deliver e)
      refine ⟨e :: happened, congrArg (e :: ·) hsplit, hattempt, hlast, fun n hn => ?_⟩
      cases n with
      | zero => exact hdecided
      | succ n => exact hfirst n (Nat.lt_of_succ_lt_succ hn)

end Attempt

end SuiteExplorer
