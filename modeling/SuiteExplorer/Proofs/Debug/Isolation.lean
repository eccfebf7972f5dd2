/-
  SuiteExplorer/Proofs/Debug/Isolation.lean
  =========================================
  **What becomes of a token depends on the calls that are about it, and on nothing else.**

  A correlator is asked for many tokens on one stream of calls.  Seen from one token, all
  that it holds is a `Story`: the registrations of the token, the pending one apart.  A
  call that is about the token changes its story in a way that can be read off the story
  alone, and any other call leaves the story as it is (`story_perform`).  So the story is
  what the calls about the token have made of it, in whatever order the others came in
  between (`story_performAll`), and so are the answers to these calls.

  The reason is that a token that is pending points at the last of its own registrations
  (`Sound`).  `dispose` is about all tokens at once; it is the same as giving up each of
  them (`dispose_eq`), and only one of these steps is about a given token.
-/
import Mathlib.Data.List.Nodup
import SuiteExplorer.Debug.Correlator

namespace SuiteExplorer

/-! ## 1. Calls -/

/-- What a correlator can be asked for, by an attempt or by a host that reports on its
    sessions. -/
inductive CorrelatorCall where
  | register (token : String)
  | release (token : String)
  | dispose
  | claim (session : DebugSession)
  | started (session : DebugSession)
  | terminated (session : DebugSession)
deriving Repr, DecidableEq

namespace CorrelatorCall

/-- The call is about the token. -/
def concerns (token : String) : CorrelatorCall → Bool
  | register t | release t => t = token
  | dispose => true
  | claim s | started s | terminated s => s.token = some token

/-- The one token that a call is about. -/
def token? : CorrelatorCall → Option String
  | register t | release t => some t
  | dispose => none
  | claim s | started s | terminated s => s.token

theorem concerns_eq {call : CorrelatorCall} (h : call ≠ dispose) (token : String) :
    call.concerns token = decide (call.token? = some token) := by
  cases call with
  | register t => simp [concerns, token?]
  | release t => simp [concerns, token?]
  | dispose => exact absurd rfl h
  | claim s => rfl
  | started s => rfl
  | terminated s => rfl

/-- The kinds of calls: most are about the pending registration of one token. -/
inductive Kind : CorrelatorCall → Prop where
  | register (token : String) : Kind (register token)
  | dispose : Kind dispose
  | nobody {call : CorrelatorCall} (hdispose : call ≠ .dispose) (h : call.token? = none) :
    Kind call
  | change {call : CorrelatorCall} {token : String} (hregister : ∀ t, call ≠ .register t)
    (hdispose : call ≠ .dispose) (h : call.token? = some token) : Kind call

theorem kind (call : CorrelatorCall) : call.Kind := by
  have hsession : ∀ {call : CorrelatorCall} (s : DebugSession), call.token? = s.token →
      (∀ t, call ≠ register t) → call ≠ .dispose → call.Kind := by
    intro call s hs hregister hdispose
    cases h : s.token with
    | none => exact .nobody hdispose (hs.trans h)
    | some token => exact .change hregister hdispose (hs.trans h)
  cases call with
  | register token => exact .register token
  | release token => exact .change (by simp) (by simp) rfl
  | dispose => exact .dispose
  | claim s => exact hsession s rfl (by simp) (by simp)
  | started s => exact hsession s rfl (by simp) (by simp)
  | terminated s => exact hsession s rfl (by simp) (by simp)

end CorrelatorCall

/-- What a call gives back.  Registrations are counted among those of their token. -/
inductive Answer where
  | nothing
  | registered (ordinal : Nat)
  /-- the tracker of a registration, or none -/
  | tracker (ordinal? : Option Nat)
deriving Repr, DecidableEq

namespace Correlator

/-- The registrations of a token, in the order in which they were made. -/
def historyOf (c : Correlator) (token : String) : List Registration :=
  c.history.filter (·.token = token)

/-- How many registrations of its token came before the one in a place. -/
def ordinal (c : Correlator) (place : Nat) : Nat :=
  match c.history[place]? with
  | none => 0
  | some r => ((c.history.take place).filter (·.token = r.token)).length

def perform (c : Correlator) : CorrelatorCall → Correlator
  | .register token => (c.register token).1
  | .release token => c.release token
  | .dispose => c.dispose
  | .claim s => (c.claimTracker s).1
  | .started s => c.sessionStarted s
  | .terminated s => (c.sessionTerminated s).1

def answer (c : Correlator) : CorrelatorCall → Answer
  | .register token => .registered ((c.register token).1.ordinal (c.register token).2)
  | .claim s => .tracker (if (c.claimTracker s).2 then (c.match? s).map c.ordinal else none)
  | _ => .nothing

def performAll (c : Correlator) (calls : List CorrelatorCall) : Correlator := calls.foldl perform c

/-- The answers to the calls about a token. -/
def answers (token : String) (c : Correlator) : List CorrelatorCall → List Answer
  | [] => []
  | call :: rest =>
    if call.concerns token then c.answer call :: answers token (c.perform call) rest
    else answers token (c.perform call) rest

end Correlator

/-! ## 2. The story of one token -/

/-- The tracker of a registration is claimed, unless it was before. -/
def Registration.claim (r : Registration) : Registration :=
  if r.tracker.isSome then r else { r with tracker := some {} }

namespace Registration

@[simp] theorem token_cancel (r : Registration) : r.cancel.token = r.token := rfl

@[simp] theorem token_claim (r : Registration) : r.claim.token = r.token := by
  unfold claim
  split <;> rfl

@[simp] theorem token_start (s : DebugSession) (r : Registration) :
    (r.start s).token = r.token := by
  unfold start
  split <;> rfl

@[simp] theorem token_terminate (s : DebugSession) (r : Registration) :
    (r.terminate s).token = r.token := r.token_start s

end Registration

namespace CorrelatorCall

/-- What a call does to the pending registration of a token that it is about. -/
def change : CorrelatorCall → Registration → Registration
  | register _ => id
  | release _ | dispose => .cancel
  | claim _ => .claim
  | started s => (·.start s)
  | terminated s => (·.terminate s)

/-- After the call, a token that it is about is not pending. -/
def ends : CorrelatorCall → Bool
  | release _ | dispose | terminated _ => true
  | register _ | claim _ | started _ => false

@[simp] theorem token_change (call : CorrelatorCall) (r : Registration) :
    (call.change r).token = r.token := by
  cases call with
  | register token => rfl
  | release token => rfl
  | dispose => rfl
  | claim s => exact r.token_claim
  | started s => exact r.token_start s
  | terminated s => exact r.token_terminate s

end CorrelatorCall

/-- The registrations of a token, and apart from them the one that is pending. -/
structure Story where
  past : List Registration := []
  current : Option Registration := none

namespace Story

def all (σ : Story) : List Registration := σ.past ++ σ.current.toList

/-- The pending registration changes, and with that it may cease to be pending. -/
def touch (σ : Story) (f : Registration → Registration) (ends : Bool) : Story :=
  match σ.current with
  | none => σ
  | some r => if ends then ⟨σ.past ++ [f r], none⟩ else ⟨σ.past, some (f r)⟩

/-- What a call about the token makes of its story. -/
def perform (token : String) (σ : Story) : CorrelatorCall → Story
  | .register _ => ⟨σ.all, some { token := token }⟩
  | call => σ.touch call.change call.ends

def answer (σ : Story) : CorrelatorCall → Answer
  | .register _ => .registered σ.all.length
  | .claim _ =>
    .tracker (if σ.current.any (·.tracker.isNone) then some σ.past.length else none)
  | _ => .nothing

def answers (token : String) (σ : Story) : List CorrelatorCall → List Answer
  | [] => []
  | call :: rest => σ.answer call :: answers token (σ.perform token call) rest

@[simp] theorem touch_none (past : List Registration) (f : Registration → Registration)
    (ends : Bool) : touch ⟨past, none⟩ f ends = ⟨past, none⟩ := rfl

@[simp] theorem touch_ends (past : List Registration) (r : Registration)
    (f : Registration → Registration) : touch ⟨past, some r⟩ f true = ⟨past ++ [f r], none⟩ := rfl

@[simp] theorem touch_goesOn (past : List Registration) (r : Registration)
    (f : Registration → Registration) : touch ⟨past, some r⟩ f false = ⟨past, some (f r)⟩ := rfl

theorem perform_of_ne {call : CorrelatorCall} (h : ∀ t, call ≠ .register t) (token : String)
    (σ : Story) : σ.perform token call = σ.touch call.change call.ends := by
  cases call with
  | register t => exact absurd rfl (h t)
  | release t => rfl
  | dispose => rfl
  | claim s => rfl
  | started s => rfl
  | terminated s => rfl

/-- What has ended cannot be ended again. -/
theorem touch_touch (σ : Story) (f g : Registration → Registration) (ends : Bool) :
    (σ.touch f true).touch g ends = σ.touch f true := by
  obtain ⟨past, current⟩ := σ
  cases current with
  | none => rfl
  | some r => rfl

end Story

namespace Correlator

/-- The story of a token, as it can be read off a correlator. -/
def story (c : Correlator) (token : String) : Story :=
  match c.place? token with
  | none => ⟨c.historyOf token, none⟩
  | some _ => ⟨(c.historyOf token).dropLast, (c.historyOf token).getLast?⟩

/-! ## 3. Pending tokens -/

variable {c : Correlator} {token t : String} {place : Nat}

theorem mem_pendingTokens : token ∈ c.pendingTokens ↔ (c.place? token).isSome = true := by
  simp [pendingTokens, place?]

theorem place?_drop (c : Correlator) (token t : String) :
    (c.drop token).place? t = if t = token then none else c.place? t := by
  unfold place? drop
  dsimp only
  split
  · next h => simp [h, List.find?_eq_none]
  · next h =>
    rw [List.find?_filter]
    congr 2
    funext e
    by_cases he : e.1 = t
    · simp [he, h]
    · simp [he]

theorem find?_enter (token : String) (place : Nat) (live : List (String × Nat)) (t : String) :
    ((enter token place live).find? (·.1 = t)).map (·.2) =
      if t = token then some place else (live.find? (·.1 = t)).map (·.2) := by
  induction live with
  | nil =>
    by_cases h : t = token
    · simp [enter, h]
    · simp [enter, h, Ne.symm h]
  | cons e live ih =>
    obtain ⟨t', p⟩ := e
    by_cases hentered : t' = token
    · subst hentered
      by_cases h : t = t'
      · simp [enter, h]
      · simp [enter, h, Ne.symm h]
    · by_cases h : t' = t
      · have hne : t ≠ token := h ▸ hentered
        simp [enter, h, hne]
      · simp only [enter, if_neg hentered, List.find?_cons, h, decide_false]
        exact ih

theorem place?_register (c : Correlator) (token t : String) :
    (c.register token).1.place? t = if t = token then some c.history.length else c.place? t :=
  find?_enter token c.history.length c.live t

theorem map_enter (token : String) (place : Nat) (live : List (String × Nat)) :
    (enter token place live).map (·.1) =
      if token ∈ live.map (·.1) then live.map (·.1) else live.map (·.1) ++ [token] := by
  induction live with
  | nil => rfl
  | cons e live ih =>
    obtain ⟨t', p⟩ := e
    by_cases h : t' = token
    · simp [enter, h]
    · simp only [enter, if_neg h, List.map_cons, ih, List.mem_cons, Ne.symm h, false_or]
      split <;> rfl

/-- A token that becomes pending stands behind those that are. -/
theorem pendingTokens_register (c : Correlator) (token : String) :
    (c.register token).1.pendingTokens =
      if token ∈ c.pendingTokens then c.pendingTokens else c.pendingTokens ++ [token] :=
  map_enter token c.history.length c.live

theorem pendingTokens_drop (c : Correlator) (token : String) :
    (c.drop token).pendingTokens = c.pendingTokens.filter (· ≠ token) := by
  simp only [pendingTokens, drop, List.filter_map, Function.comp_def]

/-! ## 4. Each pending token points at its last registration -/

/-- The tokens of all registrations, in order. -/
def tokens (c : Correlator) : List String := c.history.map (·.token)

/-- A place is the last one in which a token stands. -/
def LastOf (token : String) (tokens : List String) (place : Nat) : Prop :=
  ∃ before after, tokens = before ++ token :: after ∧ before.length = place ∧ token ∉ after

/-- A correlator that calls have led to. -/
structure Sound (c : Correlator) : Prop where
  distinct : c.pendingTokens.Nodup
  last : ∀ token place, c.place? token = some place → LastOf token c.tokens place

theorem sound_empty : ({} : Correlator).Sound := by
  refine ⟨List.nodup_nil, fun token place h => ?_⟩
  cases h

theorem modify_middle {α : Type} (before : List α) (x : α) (after : List α) (f : α → α) :
    (before ++ x :: after).modify before.length f = before ++ f x :: after := by
  induction before with
  | nil => rfl
  | cons y before ih => exact congrArg (y :: ·) ih

theorem getElem?_middle {α : Type} (before : List α) (x : α) (after : List α) :
    (before ++ x :: after)[before.length]? = some x := by
  rw [List.getElem?_append_right (Nat.le_refl _), Nat.sub_self]
  rfl

/-- The registrations of a token, split at the last of them. -/
theorem filter_middle {before after : List Registration} {r : Registration}
    (hr : r.token = token) (hafter : token ∉ after.map (·.token)) :
    (before ++ r :: after).filter (·.token = token) =
      before.filter (·.token = token) ++ [r] := by
  have hnone : after.filter (·.token = token) = [] := by
    rw [List.filter_eq_nil_iff]
    intro r' hr' heq
    exact hafter (List.mem_map.mpr ⟨r', hr', by simpa using heq⟩)
  rw [List.filter_append, List.filter_cons_of_pos (by simpa using hr), hnone]

/-- A pending token splits the history at its last registration. -/
theorem Sound.split (hc : c.Sound) (h : c.place? token = some place) :
    ∃ before r after, c.history = before ++ r :: after ∧ before.length = place ∧
      r.token = token ∧ token ∉ after.map (·.token) := by
  obtain ⟨before, after, heq, hplace, hafter⟩ := hc.last token place h
  obtain ⟨rs, qs, hhistory, rfl, hqs⟩ := List.map_eq_append_iff.mp heq
  obtain ⟨r, rest, rfl, hr, rfl⟩ := List.map_eq_cons_iff.mp hqs
  exact ⟨rs, r, rest, hhistory, by rw [← hplace, List.length_map], hr, hafter⟩

/-- The registration that a token points at changes, and the token may cease to be
    pending. -/
def touch (c : Correlator) (token : String) (f : Registration → Registration) (ends : Bool) :
    Correlator :=
  match c.place? token with
  | none => c
  | some place => if ends then (c.change place f).drop token else c.change place f

section Touch

variable {f : Registration → Registration} {ends : Bool}

theorem touch_of_none (h : c.place? token = none) (f : Registration → Registration)
    (ends : Bool) : c.touch token f ends = c := by
  simp only [touch, h]

theorem place?_touch (c : Correlator) (token : String) (f : Registration → Registration)
    (ends : Bool) (t : String) :
    (c.touch token f ends).place? t = if ends = true ∧ t = token then none else c.place? t := by
  unfold touch
  split
  · next h =>
    split
    · next ht => rw [ht.2, h]
    · rfl
  · cases ends with
    | true =>
      rw [if_pos rfl, place?_drop]
      simp only [true_and]
      rfl
    | false => simp [place?, change]

theorem pendingTokens_touch (c : Correlator) (token : String) (f : Registration → Registration)
    (ends : Bool) :
    (c.touch token f ends).pendingTokens =
      if ends then c.pendingTokens.filter (· ≠ token) else c.pendingTokens := by
  unfold touch
  split
  · next h =>
    have habsent : token ∉ c.pendingTokens := by simp [mem_pendingTokens, h]
    split
    · rw [List.filter_eq_self.mpr]
      intro t ht
      simpa using fun heq : t = token => habsent (heq ▸ ht)
    · rfl
  · split
    · exact (c.change _ f).pendingTokens_drop token
    · rfl

/-- A change of the registration that a token points at. -/
theorem history_touch {before after : List Registration} {r : Registration}
    (h : c.place? token = some place) (hhistory : c.history = before ++ r :: after)
    (hplace : before.length = place) (f : Registration → Registration) (ends : Bool) :
    (c.touch token f ends).history = before ++ f r :: after := by
  have hchange : (c.change place f).history = before ++ f r :: after := by
    rw [change, hhistory, ← hplace, modify_middle]
  simp only [touch, h]
  cases ends with
  | true => exact hchange
  | false => exact hchange

theorem Sound.tokens_touch (hc : c.Sound) (hf : ∀ r, (f r).token = r.token) :
    (c.touch token f ends).tokens = c.tokens := by
  cases h : c.place? token with
  | none => rw [touch_of_none h]
  | some place =>
    obtain ⟨before, r, after, hhistory, hplace, -, -⟩ := hc.split h
    simp only [tokens, history_touch h hhistory hplace, hhistory, List.map_append, List.map_cons,
      hf]

theorem Sound.touch (hc : c.Sound) (hf : ∀ r, (f r).token = r.token) :
    (c.touch token f ends).Sound := by
  constructor
  · rw [pendingTokens_touch]
    split
    · exact hc.distinct.filter _
    · exact hc.distinct
  · intro t place hplace
    rw [place?_touch] at hplace
    rw [hc.tokens_touch hf]
    split at hplace
    · cases hplace
    · exact hc.last t place hplace

/-! ### 4.1 Its story -/

/-- The story of a token whose last registration is pending. -/
theorem story_of_some {before after : List Registration} {r : Registration}
    (h : c.place? token = some place) (hhistory : c.history = before ++ r :: after)
    (hr : r.token = token) (hafter : token ∉ after.map (·.token)) :
    c.story token = ⟨before.filter (·.token = token), some r⟩ := by
  simp only [story, h, historyOf, hhistory, filter_middle hr hafter, List.dropLast_concat,
    List.getLast?_concat]

theorem story_of_none (h : c.place? token = none) : c.story token = ⟨c.historyOf token, none⟩ := by
  simp only [story, h]

theorem Sound.isSome_current (hc : c.Sound) :
    (c.story token).current.isSome = (c.place? token).isSome := by
  cases h : c.place? token with
  | none =>
    rw [story_of_none h]
    rfl
  | some place =>
    obtain ⟨before, r, after, hhistory, -, hr, hafter⟩ := hc.split h
    rw [story_of_some h hhistory hr hafter]
    rfl

/-- The story of a token is pending as the token is. -/
theorem Sound.mem_pendingTokens_iff (hc : c.Sound) :
    token ∈ c.pendingTokens ↔ (c.story token).current.isSome = true := by
  rw [hc.isSome_current, mem_pendingTokens]

/-- The story of a token holds its registrations, and these only. -/
theorem Sound.all_story (hc : c.Sound) : (c.story token).all = c.historyOf token := by
  cases h : c.place? token with
  | none => rw [story_of_none h, Story.all, Option.toList_none, List.append_nil]
  | some place =>
    obtain ⟨before, r, after, hhistory, -, hr, hafter⟩ := hc.split h
    rw [story_of_some h hhistory hr hafter, historyOf, hhistory, filter_middle hr hafter]
    rfl

/-- **A change on behalf of a token** is a change of its story, -/
theorem Sound.story_touch (hc : c.Sound) (hf : ∀ r, (f r).token = r.token) :
    (c.touch token f ends).story token = (c.story token).touch f ends := by
  cases h : c.place? token with
  | none => rw [touch_of_none h, story_of_none h, Story.touch_none]
  | some place =>
    obtain ⟨before, r, after, hhistory, hlength, hr, hafter⟩ := hc.split h
    have htouched := history_touch h hhistory hlength f ends
    have hplace := c.place?_touch token f ends token
    rw [story_of_some h hhistory hr hafter]
    cases ends with
    | true =>
      rw [if_pos ⟨rfl, rfl⟩] at hplace
      rw [story_of_none hplace, historyOf, htouched, filter_middle ((hf r).trans hr) hafter,
        Story.touch_ends]
    | false =>
      rw [if_neg (by simp), h] at hplace
      rw [story_of_some hplace htouched ((hf r).trans hr) hafter, Story.touch_goesOn]

/-- and of no other. -/
theorem Sound.story_touch_of_ne (hc : c.Sound) (hf : ∀ r, (f r).token = r.token)
    (hne : t ≠ token) : (c.touch token f ends).story t = c.story t := by
  cases h : c.place? token with
  | none => rw [touch_of_none h]
  | some place =>
    obtain ⟨before, r, after, hhistory, hlength, hr, -⟩ := hc.split h
    have htouched := history_touch h hhistory hlength f ends
    have hplace : (c.touch token f ends).place? t = c.place? t := by
      rw [place?_touch, if_neg fun hends => hne hends.2]
    have hhistoryOf : (c.touch token f ends).historyOf t = c.historyOf t := by
      have hr' : ¬ (r.token = t) := fun heq => hne (heq.symm.trans hr)
      have hfr' : ¬ ((f r).token = t) := by rwa [hf r]
      rw [historyOf, historyOf, htouched, hhistory, List.filter_append, List.filter_append,
        List.filter_cons_of_neg (by simpa using hfr'), List.filter_cons_of_neg (by simpa using hr')]
    simp only [story, hplace, hhistoryOf]

end Touch

/-! ## 5. Calls as changes -/

theorem release_eq (c : Correlator) (token : String) :
    c.release token = c.touch token .cancel true := rfl

theorem Sound.release (hc : c.Sound) (token : String) : (c.release token).Sound := by
  rw [release_eq]
  exact hc.touch Registration.token_cancel

theorem match?_of_some {s : DebugSession} (h : s.token = some token) :
    c.match? s = c.place? token := by
  rw [match?, h, Option.bind_some]

theorem match?_of_none {s : DebugSession} (h : s.token = none) : c.match? s = none := by
  rw [match?, h, Option.bind_none]

/-- A claim is granted when there is a pending registration without a tracker. -/
theorem Sound.claimTracker_eq (hc : c.Sound) {s : DebugSession} (h : s.token = some token) :
    c.claimTracker s = (c.touch token .claim false,
      (c.story token).current.any (·.tracker.isNone)) := by
  simp only [claimTracker, match?_of_some h]
  cases hplace : c.place? token with
  | none => rw [touch_of_none hplace, story_of_none hplace, Option.any_none]
  | some place =>
    obtain ⟨before, r, after, hhistory, hlength, hr, hafter⟩ := hc.split hplace
    have hget : c.history[place]? = some r := by
      rw [hhistory, ← hlength, getElem?_middle]
    have hchange : ∀ f, c.change place f = { c with history := before ++ f r :: after } := by
      intro f
      rw [change, hhistory, ← hlength, modify_middle]
    have htouch : c.touch token .claim false =
        { c with history := before ++ r.claim :: after } := by
      simp only [Correlator.touch, hplace, hchange]
      rfl
    simp only [hget, htouch, hchange, story_of_some hplace hhistory hr hafter, Option.any_some,
      Registration.claim]
    cases r.tracker with
    | none => rfl
    | some t => simp only [Option.isSome_some, if_true, ← hhistory, Option.isNone_some]

/-- **Disposing of everything** is giving up each pending token. -/
theorem Sound.dispose_eq (hc : c.Sound) :
    c.dispose = c.pendingTokens.foldl Correlator.release c := by
  have hall : ∀ (live : List (String × Nat)) (history : List Registration),
      (live.map (·.1)).Nodup →
      (⟨live.foldl (fun h e => h.modify e.2 .cancel) history, []⟩ : Correlator) =
        (live.map (·.1)).foldl Correlator.release ⟨history, live⟩ := by
    intro live
    induction live with
    | nil => exact fun history _ => rfl
    | cons e live ih =>
      intro history hnodup
      obtain ⟨hfresh, hnodup⟩ := List.nodup_cons.mp hnodup
      have hrest : live.filter (·.1 ≠ e.1) = live := by
        rw [List.filter_eq_self]
        intro e' he'
        have hne : e'.1 ≠ e.1 := fun heq => hfresh (List.mem_map.mpr ⟨e', he', heq⟩)
        simpa using hne
      have hrelease : Correlator.release ⟨history, e :: live⟩ e.1 =
          ⟨history.modify e.2 .cancel, live⟩ := by
        have hplace : place? ⟨history, e :: live⟩ e.1 = some e.2 := by simp [place?]
        simp only [Correlator.release, hplace, change, drop]
        rw [List.filter_cons_of_neg (by simp), hrest]
      rw [List.map_cons, List.foldl_cons, List.foldl_cons, hrelease]
      exact ih _ hnodup
  exact hall c.live c.history hc.distinct

theorem Sound.releaseAll (tokens : List String) (hc : c.Sound) :
    (tokens.foldl Correlator.release c).Sound := by
  induction tokens generalizing c with
  | nil => exact hc
  | cons token tokens ih => exact ih (hc.release token)

theorem Sound.story_releaseAll (tokens : List String) (hc : c.Sound) :
    (tokens.foldl Correlator.release c).story t =
      if t ∈ tokens then (c.story t).touch .cancel true else c.story t := by
  induction tokens generalizing c with
  | nil => rfl
  | cons token tokens ih =>
    rw [List.foldl_cons, ih (hc.release token)]
    by_cases ht : t = token
    · subst ht
      rw [release_eq, hc.story_touch Registration.token_cancel, Story.touch_touch, ite_self,
        if_pos List.mem_cons_self]
    · rw [release_eq, hc.story_touch_of_ne Registration.token_cancel ht]
      simp only [List.mem_cons, ht, false_or]

theorem Sound.story_dispose (hc : c.Sound) :
    c.dispose.story t = (c.story t).touch .cancel true := by
  rw [hc.dispose_eq, hc.story_releaseAll]
  split
  · rfl
  · next h =>
    have hcurrent : (c.story t).current = none := by
      rw [hc.mem_pendingTokens_iff] at h
      simpa using h
    simp only [Story.touch, hcurrent]

theorem tokens_register (c : Correlator) (token : String) :
    (c.register token).1.tokens = c.tokens ++ [token] :=
  List.map_append

theorem Sound.register (hc : c.Sound) (token : String) : (c.register token).1.Sound := by
  constructor
  · rw [pendingTokens_register]
    split
    · exact hc.distinct
    · next h =>
      refine List.nodup_append.mpr ⟨hc.distinct, List.nodup_singleton _, ?_⟩
      intro t ht t' ht' heq
      rw [List.mem_singleton.mp ht'] at heq
      exact h (heq ▸ ht)
  · intro t place hplace
    rw [place?_register] at hplace
    split at hplace
    · next heq =>
      cases hplace
      refine ⟨c.tokens, [], ?_, List.length_map _, List.not_mem_nil⟩
      rw [heq, tokens_register]
    · next hne =>
      obtain ⟨before, after, heq, hlength, hafter⟩ := hc.last t place hplace
      refine ⟨before, after ++ [token], ?_, hlength, ?_⟩
      · rw [tokens_register, heq, List.append_assoc, List.cons_append]
      · simpa using ⟨hafter, hne⟩

theorem Sound.story_register (hc : c.Sound) (token : String) :
    (c.register token).1.story token = ⟨(c.story token).all, some { token := token }⟩ := by
  have hplace : (c.register token).1.place? token = some c.history.length := by
    rw [place?_register, if_pos rfl]
  rw [hc.all_story]
  exact story_of_some hplace rfl rfl (by simp)

theorem story_register_of_ne (hne : t ≠ token) : (c.register token).1.story t = c.story t := by
  have hplace : (c.register token).1.place? t = c.place? t := by
    rw [place?_register, if_neg hne]
  have hhistoryOf : (c.register token).1.historyOf t = c.historyOf t := by
    have hregister : (c.register token).1.history = c.history ++ [{ token := token }] := rfl
    rw [historyOf, historyOf, hregister, List.filter_append,
      List.filter_cons_of_neg (by simpa using Ne.symm hne), List.filter_nil, List.append_nil]
  simp only [story, hplace, hhistoryOf]

/-- A call that is about one token, and does not register it, is a change on its behalf. -/
theorem Sound.perform_eq (hc : c.Sound) {call : CorrelatorCall}
    (hregister : ∀ token, call ≠ .register token) (hcall : call.token? = some token) :
    c.perform call = c.touch token call.change call.ends := by
  cases call with
  | register t => exact absurd rfl (hregister t)
  | release t =>
    cases hcall
    rfl
  | dispose => cases hcall
  | claim s => exact congrArg Prod.fst (hc.claimTracker_eq hcall)
  | started s =>
    have hs : s.token = some token := hcall
    simp only [Correlator.perform, sessionStarted, match?_of_some hs]
    rfl
  | terminated s =>
    have hs : s.token = some token := hcall
    simp only [Correlator.perform, sessionTerminated, match?_of_some hs, hs, Correlator.touch]
    cases c.place? token with
    | none => rfl
    | some place => rfl

/-- A call about a session without a token does nothing. -/
theorem perform_of_none {call : CorrelatorCall} (hdispose : call ≠ .dispose)
    (hcall : call.token? = none) : c.perform call = c := by
  cases call with
  | register t => cases hcall
  | release t => cases hcall
  | dispose => exact absurd rfl hdispose
  | claim s => simp only [perform, claimTracker, match?_of_none hcall]
  | started s => simp only [perform, sessionStarted, match?_of_none hcall]
  | terminated s => simp only [perform, sessionTerminated, match?_of_none hcall]

/-! ## 6. What a call does -/

theorem Sound.perform (hc : c.Sound) (call : CorrelatorCall) : (c.perform call).Sound := by
  cases call.kind with
  | register token => exact hc.register token
  | dispose =>
    rw [Correlator.perform, hc.dispose_eq]
    exact hc.releaseAll _
  | nobody hdispose h => rwa [perform_of_none hdispose h]
  | change hregister _ h =>
    rw [hc.perform_eq hregister h]
    exact hc.touch call.token_change

/-- **A call that is about a token** is a step of its story, and any other call is none. -/
theorem Sound.story_perform (hc : c.Sound) (call : CorrelatorCall) (t : String) :
    (c.perform call).story t =
      if call.concerns t then (c.story t).perform t call else c.story t := by
  cases call.kind with
  | register token =>
    by_cases h : t = token
    · subst h
      rw [if_pos (by simp [CorrelatorCall.concerns])]
      exact hc.story_register t
    · rw [if_neg (by simpa [CorrelatorCall.concerns] using Ne.symm h)]
      exact story_register_of_ne h
  | dispose => exact hc.story_dispose
  | nobody hdispose h =>
    rw [perform_of_none hdispose h, CorrelatorCall.concerns_eq hdispose, h]
    rfl
  | @change _ token hregister hdispose hcall =>
    rw [hc.perform_eq hregister hcall, CorrelatorCall.concerns_eq hdispose, hcall,
      Story.perform_of_ne hregister]
    by_cases h : t = token
    · subst h
      simpa using hc.story_touch call.token_change
    · simpa [Ne.symm h] using hc.story_touch_of_ne call.token_change h

theorem ordinal_of_split {before after : List Registration} {r : Registration}
    (hhistory : c.history = before ++ r :: after) (hlength : before.length = place)
    (hr : r.token = t) : c.ordinal place = (before.filter (·.token = t)).length := by
  subst hr
  rw [ordinal, hhistory, ← hlength, getElem?_middle, List.take_left]

/-- The answer to a call about a token can be read off its story. -/
theorem Sound.answer_eq (hc : c.Sound) {call : CorrelatorCall} (h : call.concerns t = true) :
    c.answer call = (c.story t).answer call := by
  cases call with
  | register token =>
    obtain rfl : token = t := by simpa [CorrelatorCall.concerns] using h
    have hordinal : (c.register token).1.ordinal c.history.length = (c.historyOf token).length :=
      ordinal_of_split rfl rfl rfl
    rw [answer, Story.answer, hc.all_story]
    exact congrArg Answer.registered hordinal
  | release token => rfl
  | dispose => rfl
  | claim s =>
    have hs : s.token = some t := by simpa [CorrelatorCall.concerns] using h
    rw [answer, Story.answer, hc.claimTracker_eq hs, match?_of_some hs]
    cases hplace : c.place? t with
    | none => simp [story_of_none hplace]
    | some place =>
      obtain ⟨before, r, after, hhistory, hlength, hr, hafter⟩ := hc.split hplace
      rw [story_of_some hplace hhistory hr hafter, Option.map_some,
        ordinal_of_split hhistory hlength hr]
  | started s => rfl
  | terminated s => rfl

/-! ## 7. Runs of calls -/

theorem sound_performAll (calls : List CorrelatorCall) (hc : c.Sound) :
    (c.performAll calls).Sound := by
  induction calls generalizing c with
  | nil => exact hc
  | cons call calls ih => exact ih (hc.perform call)

/-- **The story of a token** is what the calls about it have made of it. -/
theorem Sound.story_performAll (hc : c.Sound) (calls : List CorrelatorCall) (t : String) :
    (c.performAll calls).story t =
      (calls.filter (·.concerns t)).foldl (Story.perform t) (c.story t) := by
  induction calls generalizing c with
  | nil => rfl
  | cons call calls ih =>
    have hstep := hc.story_perform call t
    rw [performAll, List.foldl_cons, List.filter_cons]
    split
    · next h =>
      rw [if_pos h] at hstep
      rw [List.foldl_cons, ← hstep]
      exact ih (hc.perform call)
    · next h =>
      rw [if_neg h] at hstep
      rw [← hstep]
      exact ih (hc.perform call)

theorem Sound.answers_eq (hc : c.Sound) (calls : List CorrelatorCall) (t : String) :
    c.answers t calls = (c.story t).answers t (calls.filter (·.concerns t)) := by
  induction calls generalizing c with
  | nil => rfl
  | cons call calls ih =>
    have hstep := hc.story_perform call t
    have hrest := ih (hc.perform call)
    rw [answers, List.filter_cons]
    split
    · next h =>
      rw [if_pos h] at hstep
      rw [Story.answers, hrest, hstep, hc.answer_eq h]
    · next h =>
      rw [if_neg h] at hstep
      rw [hrest, hstep]

/-- **What becomes of a token depends on the calls about it alone.**  Take two runs of
    calls in which the same calls are about a token, in the same order, however the calls
    about other tokens and about sessions without a token come in between.  Then the token is
    pending after both or after neither, each of its registrations has the same tracker and
    session and has seen the same start and end, and the calls about it were answered
    alike. -/
theorem isolated (token : String) {calls calls' : List CorrelatorCall}
    (h : calls.filter (·.concerns token) = calls'.filter (·.concerns token)) :
    let c := ({} : Correlator).performAll calls
    let c' := ({} : Correlator).performAll calls'
    (token ∈ c.pendingTokens ↔ token ∈ c'.pendingTokens) ∧
      c.historyOf token = c'.historyOf token ∧
      ({} : Correlator).answers token calls = ({} : Correlator).answers token calls' := by
  intro c c'
  have hc : c.Sound := sound_performAll calls sound_empty
  have hc' : c'.Sound := sound_performAll calls' sound_empty
  have hstory : c.story token = c'.story token := by
    rw [sound_empty.story_performAll, sound_empty.story_performAll, h]
  refine ⟨?_, ?_, ?_⟩
  · rw [hc.mem_pendingTokens_iff, hc'.mem_pendingTokens_iff, hstory]
  · rw [← hc.all_story, ← hc'.all_story, hstory]
  · rw [sound_empty.answers_eq, sound_empty.answers_eq, h]

/-- One token is registered again while it is pending, and everything is disposed of in
    the end.  A stranger's session comes and goes in between. -/
theorem isolated_stranger :
    let own : DebugSession := ⟨"session-1", some "a"⟩
    let strange : DebugSession := ⟨"session-2", some "b"⟩
    let calls : List CorrelatorCall :=
      [.register "a", .claim own, .register "a", .claim own, .started own, .dispose]
    let calls' : List CorrelatorCall :=
      [.register "b", .register "a", .claim strange, .claim own, .terminated strange,
        .register "a", .started ⟨"session-3", none⟩, .claim own, .release "b", .started own,
        .register "b", .dispose]
    calls.filter (·.concerns "a") = calls'.filter (·.concerns "a") ∧
      (({} : Correlator).performAll calls).historyOf "a" =
        (({} : Correlator).performAll calls').historyOf "a" ∧
      ({} : Correlator).answers "a" calls' =
        [.registered 0, .tracker (some 0), .registered 1, .tracker (some 1), .nothing,
          .nothing] := by
  intro own strange calls calls'
  have hsame : calls.filter (·.concerns "a") = calls'.filter (·.concerns "a") := by decide
  exact ⟨hsame, (isolated "a" hsame).2.1, by decide⟩

end Correlator
end SuiteExplorer
