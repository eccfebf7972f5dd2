/-
  SuiteExplorer/Proofs/Debug/Lifecycle.lean
  =========================================
  **Each registration is waited for once, and nobody is left waiting.**

  As long as a token is registered only while it is not pending, at most its last
  registration is open, and it is open exactly while the token is pending.  Everything that
  was waited for in the others is settled, what is settled stays as it is, and of what has
  been reported everything fits together: the end of a session comes with its start, both
  belong to the token, and the registration knows the session that has started.

  All of this is a statement about one token, so it is proved of its story: a call changes
  the pending registration or ends it (`change_spec`), and the rest of the story is past.
-/
import SuiteExplorer.Proofs.Debug.Isolation

namespace SuiteExplorer

/-! ## 1. One registration -/

namespace Awaited

theorem arrive_of_settled {a : Awaited} (h : a.isSettled = true) (s : DebugSession) :
    a.arrive s = a := by
  cases a with
  | pending => cases h
  | cancelled => rfl
  | arrived s' => rfl

theorem cancel_of_settled {a : Awaited} (h : a.isSettled = true) : a.cancel = a := by
  cases a with
  | pending => cases h
  | cancelled => rfl
  | arrived s => rfl

theorem isSettled_arrive (a : Awaited) (s : DebugSession) : (a.arrive s).isSettled = true := by
  cases a <;> rfl

theorem isSettled_cancel (a : Awaited) : a.cancel.isSettled = true := by
  cases a <;> rfl

theorem cancel_eq_arrived {a : Awaited} {s : DebugSession} :
    a.cancel = .arrived s ↔ a = .arrived s := by
  cases a <;> simp [cancel]

theorem of_arrive_eq_arrived {a : Awaited} {s s' : DebugSession} (h : a.arrive s = .arrived s') :
    a = .arrived s' ∨ s' = s := by
  cases a with
  | pending =>
    cases h
    exact Or.inr rfl
  | cancelled => cases h
  | arrived s'' => exact Or.inl h

theorem arrive_eq_cancelled {a : Awaited} {s : DebugSession} :
    a.arrive s = .cancelled ↔ a = .cancelled := by
  cases a <;> simp [arrive]

end Awaited

namespace Registration

/-- Nothing of it is waited for any more. -/
structure IsOver (r : Registration) : Prop where
  started : r.started.isSettled = true
  terminated : r.terminated.isSettled = true

/-- Its end is waited for, and its start has not been called off. -/
structure Waits (r : Registration) : Prop where
  started : r.started ≠ .cancelled
  terminated : r.terminated = .pending

/-- What has been reported of it fits together. -/
structure InOrder (r : Registration) : Prop where
  session : ∀ s, r.session = some s ↔ r.started = .arrived s
  started : ∀ s, r.started = .arrived s → s.token = some r.token
  terminated : ∀ s, r.terminated = .arrived s →
    s.token = some r.token ∧ ∃ s', r.started = .arrived s' ∧ s'.token = some r.token

/-- What is settled in `r` is the same in `r'`. -/
structure LeadsTo (r r' : Registration) : Prop where
  token : r'.token = r.token
  started : r.started.isSettled = true → r'.started = r.started
  terminated : r.terminated.isSettled = true → r'.terminated = r.terminated

variable {r r' r'' : Registration} {s : DebugSession}

theorem LeadsTo.refl (r : Registration) : r.LeadsTo r := ⟨rfl, fun _ => rfl, fun _ => rfl⟩

theorem LeadsTo.trans (h : r.LeadsTo r') (h' : r'.LeadsTo r'') : r.LeadsTo r'' := by
  refine ⟨h'.token.trans h.token, fun hs => ?_, fun ht => ?_⟩
  · have heq := h.started hs
    exact (h'.started (heq.symm ▸ hs)).trans heq
  · have heq := h.terminated ht
    exact (h'.terminated (heq.symm ▸ ht)).trans heq

theorem inOrder_new (token : String) : InOrder { token := token } := by
  constructor
  · simp
  · simp
  · simp

theorem waits_new (token : String) : Waits { token := token } := ⟨by simp, rfl⟩

theorem terminated_start (r : Registration) (s : DebugSession) :
    (r.start s).terminated = r.terminated := by
  unfold start
  split <;> rfl

theorem tracker_start (r : Registration) (s : DebugSession) :
    (r.start s).tracker = r.tracker := by
  unfold start
  split <;> rfl

/-- A session that starts is the one that has started, if none has before. -/
theorem start_of_waits (hr : r.InOrder) (hw : r.Waits) (s : DebugSession) :
    ∃ s', (r.start s).started = .arrived s' ∧ (r.start s).session = some s' ∧
      (s' = s ∨ r.started = .arrived s') := by
  unfold start
  split
  · next h =>
    cases hstarted : r.started with
    | pending =>
      rw [hstarted] at h
      cases h
    | cancelled => exact absurd hstarted hw.started
    | arrived s' => exact ⟨s', rfl, (hr.session s').mpr hstarted, Or.inr rfl⟩
  · exact ⟨s, rfl, rfl, Or.inl rfl⟩

theorem InOrder.start (hr : r.InOrder) (hw : r.Waits) (hs : s.token = some r.token) :
    (r.start s).InOrder := by
  obtain ⟨s', hstarted, hsession, hwho⟩ := start_of_waits hr hw s
  have hs' : s'.token = some r.token := by
    rcases hwho with rfl | h
    · exact hs
    · exact hr.started s' h
  constructor
  · intro s''
    rw [hstarted, hsession, Option.some.injEq, Awaited.arrived.injEq]
  · intro s'' h
    rw [hstarted] at h
    cases h
    rw [token_start]
    exact hs'
  · intro s'' h
    rw [terminated_start, hw.terminated] at h
    cases h

theorem InOrder.terminate (hr : r.InOrder) (hw : r.Waits) (hs : s.token = some r.token) :
    (r.terminate s).InOrder := by
  obtain ⟨s', hstarted, -, -⟩ := start_of_waits hr hw s
  have hstart := hr.start hw hs
  have hpending := (r.terminated_start s).trans hw.terminated
  refine ⟨hstart.session, hstart.started, fun s'' h => ?_⟩
  have harrived : (r.terminate s).terminated = .arrived s := by
    simp only [Registration.terminate, hpending, Awaited.arrive]
  rw [harrived] at h
  cases h
  rw [token_terminate]
  exact ⟨hs, s', hstarted, r.token_start s ▸ hstart.started s' hstarted⟩

theorem InOrder.cancel (hr : r.InOrder) : r.cancel.InOrder := by
  obtain ⟨hsession, hstarted, hterminated⟩ := hr
  constructor
  · intro s
    exact (hsession s).trans Awaited.cancel_eq_arrived.symm
  · intro s h
    exact hstarted s (Awaited.cancel_eq_arrived.mp h)
  · intro s h
    obtain ⟨hs, s', hs', htoken⟩ := hterminated s (Awaited.cancel_eq_arrived.mp h)
    exact ⟨hs, s', Awaited.cancel_eq_arrived.mpr hs', htoken⟩

theorem InOrder.claim (hr : r.InOrder) : r.claim.InOrder := by
  unfold Registration.claim
  split
  · exact hr
  · exact ⟨hr.session, hr.started, hr.terminated⟩

theorem Waits.claim (hw : r.Waits) : r.claim.Waits := by
  unfold Registration.claim
  split
  · exact hw
  · exact ⟨hw.started, hw.terminated⟩

theorem isOver_cancel (r : Registration) : r.cancel.IsOver :=
  ⟨r.started.isSettled_cancel, r.terminated.isSettled_cancel⟩

theorem started_start (r : Registration) (s : DebugSession) :
    (r.start s).started = r.started.arrive s := by
  unfold start
  split
  · next h => exact (Awaited.arrive_of_settled h s).symm
  · next h =>
    cases hstarted : r.started with
    | pending => rfl
    | cancelled => simp [hstarted, Awaited.isSettled] at h
    | arrived s' => simp [hstarted, Awaited.isSettled] at h

theorem isOver_terminate (r : Registration) (s : DebugSession) : (r.terminate s).IsOver := by
  refine ⟨?_, Awaited.isSettled_arrive _ s⟩
  have hstarted : (r.terminate s).started = r.started.arrive s := r.started_start s
  rw [hstarted]
  exact r.started.isSettled_arrive s

theorem leadsTo_cancel (r : Registration) : r.LeadsTo r.cancel :=
  ⟨rfl, Awaited.cancel_of_settled, Awaited.cancel_of_settled⟩

theorem leadsTo_start (r : Registration) (s : DebugSession) : r.LeadsTo (r.start s) := by
  refine ⟨r.token_start s, fun h => ?_, fun _ => r.terminated_start s⟩
  rw [started_start, Awaited.arrive_of_settled h]

theorem leadsTo_terminate (r : Registration) (s : DebugSession) : r.LeadsTo (r.terminate s) := by
  have hlast : (r.start s).LeadsTo (r.terminate s) :=
    ⟨rfl, fun _ => rfl, fun h => Awaited.arrive_of_settled h s⟩
  exact (r.leadsTo_start s).trans hlast

theorem leadsTo_claim (r : Registration) : r.LeadsTo r.claim := by
  unfold Registration.claim
  split
  · exact .refl r
  · exact ⟨rfl, fun _ => rfl, fun _ => rfl⟩

end Registration

namespace CorrelatorCall

/-- What is settled stays so, whatever is called. -/
theorem leadsTo_change (call : CorrelatorCall) (r : Registration) : r.LeadsTo (call.change r) := by
  cases call with
  | register token => exact .refl r
  | release token => exact r.leadsTo_cancel
  | dispose => exact r.leadsTo_cancel
  | claim s => exact r.leadsTo_claim
  | started s => exact r.leadsTo_start s
  | terminated s => exact r.leadsTo_terminate s

/-- **A call keeps a pending registration in order**, and it waits on, or is over. -/
theorem change_spec {call : CorrelatorCall} {r : Registration} (h : call.concerns r.token = true)
    (hr : r.InOrder) (hw : r.Waits) :
    (call.change r).InOrder ∧
      if call.ends then (call.change r).IsOver else (call.change r).Waits := by
  cases call with
  | register token => exact ⟨hr, hw⟩
  | release token => exact ⟨hr.cancel, r.isOver_cancel⟩
  | dispose => exact ⟨hr.cancel, r.isOver_cancel⟩
  | claim s => exact ⟨hr.claim, hw.claim⟩
  | started s =>
    have hs : s.token = some r.token := by simpa [concerns] using h
    refine ⟨hr.start hw hs, ?_, (r.terminated_start s).trans hw.terminated⟩
    obtain ⟨s', hstarted, -, -⟩ := Registration.start_of_waits hr hw s
    simp [change, hstarted]
  | terminated s =>
    have hs : s.token = some r.token := by simpa [concerns] using h
    exact ⟨hr.terminate hw hs, r.isOver_terminate s⟩

theorem tracker_change {call : CorrelatorCall} (h : ∀ s, call ≠ .claim s) (r : Registration) :
    (call.change r).tracker = r.tracker := by
  cases call with
  | register token => rfl
  | release token => rfl
  | dispose => rfl
  | claim s => exact absurd rfl (h s)
  | started s => exact r.tracker_start s
  | terminated s => exact r.tracker_start s

end CorrelatorCall

/-! ## 2. The story of a token -/

namespace Story

variable {σ σ' σ'' : Story} {token : String} {call : CorrelatorCall} {n : Nat}

/-- All registrations of the token are in order.  The pending one waits for its end, and
    the past ones for nothing. -/
structure InOrder (token : String) (σ : Story) : Prop where
  own : ∀ r ∈ σ.all, r.token = token ∧ r.InOrder
  waits : ∀ r ∈ σ.current, r.Waits
  settled : ∀ r ∈ σ.past, r.IsOver

theorem inOrder_empty (token : String) : InOrder token {} := by
  refine ⟨fun r hr => ?_, fun r hr => ?_, fun r hr => ?_⟩
  · cases hr
  · cases hr
  · cases hr

theorem all_touch (σ : Story) (f : Registration → Registration) (ends : Bool) :
    (σ.touch f ends).all = σ.past ++ (σ.current.map f).toList := by
  obtain ⟨past, current⟩ := σ
  cases current with
  | none => rfl
  | some r =>
    cases ends with
    | true => exact List.append_nil _
    | false => rfl

theorem InOrder.touch (h : σ.InOrder token) (hcall : call.concerns token = true) :
    (σ.touch call.change call.ends).InOrder token := by
  obtain ⟨past, current⟩ := σ
  cases current with
  | none => exact h
  | some r =>
    obtain ⟨rfl, hr⟩ := h.own r (by simp [all])
    obtain ⟨hchange, hends⟩ := call.change_spec hcall hr (h.waits r rfl)
    have hown : ∀ q ∈ past ++ [call.change r], q.token = r.token ∧ q.InOrder := by
      intro q hq
      rcases List.mem_append.mp hq with hq | hq
      · exact h.own q (List.mem_append_left _ hq)
      · rw [List.mem_singleton.mp hq]
        exact ⟨call.token_change r, hchange⟩
    cases hcases : call.ends with
    | true =>
      rw [hcases] at hends
      refine ⟨by simpa [all] using hown, by simp, fun q hq => ?_⟩
      rcases List.mem_append.mp hq with hq | hq
      · exact h.settled q hq
      · rw [List.mem_singleton.mp hq]
        exact hends
    | false =>
      rw [hcases] at hends
      refine ⟨by simpa [all] using hown, fun q hq => ?_, h.settled⟩
      cases hq
      exact hends

/-- **A call about the token** keeps its story in order.  The token must not be registered
    while it is pending: nobody would settle what its pending registration waits for. -/
theorem InOrder.perform (h : σ.InOrder token) (hcall : call.concerns token = true)
    (hfresh : ∀ t, call = .register t → σ.current = none) :
    (σ.perform token call).InOrder token := by
  by_cases hregister : ∃ t, call = .register t
  · obtain ⟨t, rfl⟩ := hregister
    have hnone := hfresh t rfl
    have hall : σ.all = σ.past := by rw [all, hnone, Option.toList_none, List.append_nil]
    constructor
    · intro r hr
      rcases List.mem_append.mp hr with hr | hr
      · exact h.own r hr
      · rw [List.mem_singleton.mp hr]
        exact ⟨rfl, Registration.inOrder_new token⟩
    · intro r hr
      cases hr
      exact Registration.waits_new token
    · intro r hr
      exact h.settled r (hall ▸ hr)
  · rw [perform_of_ne fun t heq => hregister ⟨t, heq⟩]
    exact h.touch hcall

/-- The token is pending while the end of its last registration is not settled. -/
theorem InOrder.isSome_current_iff (h : σ.InOrder token) :
    σ.current.isSome = true ↔
      ∃ r, σ.all.getLast? = some r ∧ r.terminated.isSettled = false := by
  cases hcurrent : σ.current with
  | some r =>
    have hlast : σ.all.getLast? = some r := by
      rw [all, hcurrent]
      exact List.getLast?_concat
    have hopen : r.terminated.isSettled = false := by
      rw [(h.waits r hcurrent).terminated]
      rfl
    exact iff_of_true rfl ⟨r, hlast, hopen⟩
  | none =>
    rw [all, hcurrent, Option.toList_none, List.append_nil]
    refine iff_of_false (by simp) ?_
    rintro ⟨r, hlast, hopen⟩
    rw [(h.settled r (List.mem_of_getLast? hlast)).terminated] at hopen
    cases hopen

/-- Any other registration is over. -/
theorem InOrder.isOver (h : σ.InOrder token) {r : Registration} (hr : σ.all[n]? = some r)
    (hn : σ.current.isSome = true → n + 1 < σ.all.length) : r.IsOver := by
  have hlt : n < σ.past.length := by
    have hle := (List.getElem?_eq_some_iff.mp hr).1
    rw [all, List.length_append] at hle hn
    cases hcurrent : σ.current with
    | none => simpa [hcurrent] using hle
    | some r' => simpa [hcurrent] using hn (by rw [hcurrent]; rfl)
  rw [all, List.getElem?_append_left hlt] at hr
  exact h.settled r (List.mem_of_getElem? hr)

/-! ### 2.1 What is settled stays -/

/-- Registrations stay, and what is settled in them. -/
def Grows (σ σ' : Story) : Prop :=
  ∀ (n : Nat) (r : Registration), σ.all[n]? = some r →
    ∃ r', σ'.all[n]? = some r' ∧ r.LeadsTo r'

theorem Grows.refl (σ : Story) : σ.Grows σ := fun _ r hr => ⟨r, hr, .refl r⟩

theorem Grows.trans (h : σ.Grows σ') (h' : σ'.Grows σ'') : σ.Grows σ'' := by
  intro n r hr
  obtain ⟨r', hr', hleads⟩ := h n r hr
  obtain ⟨r'', hr'', hleads'⟩ := h' n r' hr'
  exact ⟨r'', hr'', hleads.trans hleads'⟩

/-- Where a registration stands after a change of the pending one. -/
theorem getElem?_all_touch (σ : Story) (f : Registration → Registration) (ends : Bool) (n : Nat) :
    (σ.touch f ends).all[n]? =
      if n = σ.past.length then σ.current.map f else σ.all[n]? := by
  rw [all_touch, all, List.getElem?_append, List.getElem?_append]
  split
  · next hlt => rw [if_neg (Nat.ne_of_lt hlt)]
  · next hge =>
    split
    · next heq =>
      rw [heq, Nat.sub_self]
      cases σ.current <;> rfl
    · next hne =>
      have hpos : ∃ k, n - σ.past.length = k + 1 := ⟨n - σ.past.length - 1, by omega⟩
      obtain ⟨k, hk⟩ := hpos
      rw [hk]
      cases σ.current <;> rfl

theorem getElem?_all_length (σ : Story) : σ.all[σ.past.length]? = σ.current := by
  rw [all, List.getElem?_append_right (Nat.le_refl _), Nat.sub_self]
  cases σ.current <;> rfl

theorem grows_perform (token : String) (σ : Story) (call : CorrelatorCall) :
    σ.Grows (σ.perform token call) := by
  intro n r hr
  by_cases hregister : ∃ t, call = .register t
  · obtain ⟨t, rfl⟩ := hregister
    have hlt : n < σ.all.length := (List.getElem?_eq_some_iff.mp hr).1
    exact ⟨r, (List.getElem?_append_left hlt).trans hr, .refl r⟩
  · rw [perform_of_ne fun t heq => hregister ⟨t, heq⟩, getElem?_all_touch]
    split
    · next hn =>
      rw [hn, getElem?_all_length] at hr
      exact ⟨call.change r, by rw [hr, Option.map_some], call.leadsTo_change r⟩
    · exact ⟨r, hr, .refl r⟩

/-! ### 2.2 Trackers are claimed once -/

/-- A registration of the token has a tracker. -/
def claimed (σ : Story) (n : Nat) : Bool := (σ.all[n]?.bind (·.tracker)).isSome

theorem claimed_register (token t : String) (σ : Story) (n : Nat) :
    (σ.perform token (.register t)).claimed n = σ.claimed n := by
  have hall : (σ.perform token (.register t)).all = σ.all ++ [{ token := token }] := rfl
  rw [claimed, claimed, hall, List.getElem?_append]
  split
  · rfl
  · next hge =>
    rw [List.getElem?_eq_none (Nat.le_of_not_lt hge)]
    cases n - σ.all.length <;> rfl

/-- **A claim is granted where there was no tracker**, and then there is one. -/
theorem claimed_perform (token : String) (σ : Story) (call : CorrelatorCall) (n : Nat) :
    (if σ.answer call = .tracker (some n) then 1 else 0) + (σ.claimed n).toNat =
      ((σ.perform token call).claimed n).toNat := by
  by_cases hclaim : ∃ s, call = .claim s
  · obtain ⟨s, rfl⟩ := hclaim
    obtain ⟨past, current⟩ := σ
    have hne := fun hn : n ≠ past.length =>
      getElem?_all_touch ⟨past, current⟩ Registration.claim false n |>.trans (if_neg hn)
    have heq := getElem?_all_length ⟨past, current⟩
    have htouched := getElem?_all_touch ⟨past, current⟩ Registration.claim false past.length
    rw [if_pos rfl] at htouched
    by_cases hn : n = past.length
    · subst hn
      simp only [claimed, perform, CorrelatorCall.change, CorrelatorCall.ends, htouched, heq,
        answer]
      cases current with
      | none => rfl
      | some r =>
        cases htracker : r.tracker <;> simp [Registration.claim, htracker]
    · have hanswer : answer ⟨past, current⟩ (.claim s) ≠ .tracker (some n) := by
        simp only [answer, ne_eq, Answer.tracker.injEq]
        split
        · simpa using Ne.symm hn
        · simp
      rw [if_neg hanswer, Nat.zero_add]
      simp only [claimed, perform, CorrelatorCall.change, CorrelatorCall.ends, hne hn]
  · have hanswer : σ.answer call ≠ .tracker (some n) := by
      cases call with
      | claim s => exact absurd ⟨s, rfl⟩ hclaim
      | register t => simp [answer]
      | release t => simp [answer]
      | dispose => simp [answer]
      | started s => simp [answer]
      | terminated s => simp [answer]
    rw [if_neg hanswer, Nat.zero_add]
    by_cases hregister : ∃ t, call = .register t
    · obtain ⟨t, rfl⟩ := hregister
      rw [claimed_register]
    · have htracker := call.tracker_change fun s heq => hclaim ⟨s, heq⟩
      rw [perform_of_ne fun t heq => hregister ⟨t, heq⟩, claimed, claimed, getElem?_all_touch]
      split
      · next hn =>
        rw [hn, getElem?_all_length]
        cases σ.current with
        | none => rfl
        | some r => simp [htracker]
      · rfl

/-! ### 2.3 Runs -/

theorem grows_foldl (token : String) (calls : List CorrelatorCall) (σ : Story) :
    σ.Grows (calls.foldl (perform token) σ) := by
  induction calls generalizing σ with
  | nil => exact .refl σ
  | cons call calls ih => exact (σ.grows_perform token call).trans (ih _)

/-- As many claims are granted as there are trackers more. -/
theorem count_answers (token : String) (calls : List CorrelatorCall) (σ : Story) (n : Nat) :
    (σ.answers token calls).count (.tracker (some n)) + (σ.claimed n).toNat =
      ((calls.foldl (perform token) σ).claimed n).toNat := by
  induction calls generalizing σ with
  | nil => simp [answers]
  | cons call calls ih =>
    have hstep := σ.claimed_perform token call n
    rw [List.foldl_cons, ← ih (σ.perform token call), ← hstep, answers, List.count_cons]
    simp only [beq_iff_eq]
    omega

end Story

/-! ## 3. Runs of calls -/

namespace Correlator

variable {c : Correlator} {calls : List CorrelatorCall} {token : String}

/-- In the calls that follow, a token is registered only while it is not pending. -/
def Orderly (c : Correlator) : List CorrelatorCall → Prop
  | [] => True
  | call :: rest =>
    (∀ token, call = .register token → token ∉ c.pendingTokens) ∧ (c.perform call).Orderly rest

theorem inOrder_performAll (hc : c.Sound) (h : c.Orderly calls)
    (horder : (c.story token).InOrder token) :
    ((c.performAll calls).story token).InOrder token := by
  induction calls generalizing c with
  | nil => exact horder
  | cons call calls ih =>
    obtain ⟨hfresh, hrest⟩ := h
    apply ih (hc.perform call) hrest
    rw [hc.story_perform]
    split
    · next hcall =>
      refine horder.perform hcall fun t heq => ?_
      have hown : t = token := by simpa [heq, CorrelatorCall.concerns] using hcall
      have habsent := hfresh t heq
      rw [hown, hc.mem_pendingTokens_iff] at habsent
      simpa using habsent
    · exact horder

/-- **The lifecycle of registrations.**  Take any run of calls in which a token is
    registered only while it is not pending, and any token.  It is pending exactly while
    the end of its last registration is not settled; in all its other registrations,
    start and end are settled.  The registrations are in order: a session that has ended
    has started, both sessions carry the token, and the session of a registration is the
    one that has started.  Whatever was settled at some point of the run is still the same.
    Each registration that has a tracker has been claimed once with success, any other
    never. -/
theorem lifecycle (h : ({} : Correlator).Orderly calls) (token : String) :
    let c := ({} : Correlator).performAll calls
    (token ∈ c.pendingTokens ↔
        ∃ r, (c.historyOf token).getLast? = some r ∧ r.terminated.isSettled = false) ∧
      (∀ (n : Nat) (r : Registration), (c.historyOf token)[n]? = some r →
        (token ∈ c.pendingTokens → n + 1 < (c.historyOf token).length) → r.IsOver) ∧
      (∀ r ∈ c.historyOf token, r.InOrder) ∧
      (∀ before after, calls = before ++ after → ∀ (n : Nat) (r : Registration),
        ((({} : Correlator).performAll before).historyOf token)[n]? = some r →
          ∃ r', (c.historyOf token)[n]? = some r' ∧ r.LeadsTo r') ∧
      (∀ n, (({} : Correlator).answers token calls).count (.tracker (some n)) =
        if ((c.historyOf token)[n]?.bind (·.tracker)).isSome then 1 else 0) := by
  intro c
  have hc : c.Sound := sound_performAll calls sound_empty
  have horder : (c.story token).InOrder token :=
    inOrder_performAll sound_empty h (Story.inOrder_empty token)
  rw [hc.mem_pendingTokens_iff, ← hc.all_story]
  refine ⟨horder.isSome_current_iff, fun n r hr hn => horder.isOver hr hn,
    fun r hr => (horder.own r hr).2, ?_, fun n => ?_⟩
  · intro before after hcalls n r hr
    have hbefore := sound_performAll before sound_empty
    have hafter : c = (({} : Correlator).performAll before).performAll after := by
      simp only [c, hcalls, performAll, List.foldl_append]
    rw [← hbefore.all_story] at hr
    rw [hafter, hbefore.story_performAll]
    exact Story.grows_foldl token _ _ n r hr
  · have hstory : c.story token =
        (calls.filter (·.concerns token)).foldl (Story.perform token) {} :=
      sound_empty.story_performAll calls token
    have hcount := Story.count_answers token (calls.filter (·.concerns token)) {} n
    have hnone : Story.claimed {} n = false := rfl
    rw [hnone, Bool.toNat_false, Nat.add_zero, ← hstory] at hcount
    have hanswers := sound_empty.answers_eq calls token
    calc (({} : Correlator).answers token calls).count (.tracker (some n))
        = ((c.story token).claimed n).toNat := by rw [hanswers]; exact hcount
      _ = if ((c.story token).all[n]?.bind (·.tracker)).isSome then 1 else 0 := by
        rw [Story.claimed]
        split <;> simp_all

/-- A session ends before it is said to have started; under another token, an attempt is
    given up and made again, and a second session with the same token comes too late. -/
theorem lifecycle_again :
    let first : DebugSession := ⟨"session-1", some "a"⟩
    let second : DebugSession := ⟨"session-2", some "a"⟩
    let calls : List CorrelatorCall :=
      [.register "b", .terminated ⟨"session-0", some "b"⟩, .register "a", .claim first,
        .release "a", .started first, .register "a", .started second, .claim second, .claim first,
        .started first]
    let c := ({} : Correlator).performAll calls
    ({} : Correlator).Orderly calls ∧ c.pendingTokens = ["a"] ∧
      (c.historyOf "a").map (fun r => (r.started, r.terminated)) =
        [(.cancelled, .cancelled), (.arrived second, .pending)] ∧
      (∀ r ∈ c.historyOf "a", r.InOrder) ∧
      ∀ n, (({} : Correlator).answers "a" calls).count (.tracker (some n)) =
        if ((c.historyOf "a")[n]?.bind (·.tracker)).isSome then 1 else 0 := by
  intro first second calls c
  have horderly : ({} : Correlator).Orderly calls := by
    simp [calls, Orderly, perform, pendingTokens, register, enter, release, place?, change, drop,
      claimTracker, match?, first, second, sessionTerminated, sessionStarted]
  obtain ⟨-, -, hinOrder, -, hcount⟩ := lifecycle horderly "a"
  exact ⟨horderly, by decide, by decide, hinOrder, hcount⟩

end Correlator
end SuiteExplorer
