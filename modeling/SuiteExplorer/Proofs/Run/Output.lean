/-
  SuiteExplorer/Proofs/Run/Output.lean
  ====================================
  **The output of a process does not depend on how it is read.**

  A stream is read piece by piece, and a piece may end in the middle of a character or of
  bytes that are none.  What the pieces give, put together, is what all the bytes decode to
  at once, and it reaches the output of the run in texts that are never empty (`Gives`).
  Both streams of a process are read at the same time; their texts may alternate in any way.
  An entry whose process fails therefore ends with a message that holds everything the
  process has written (`FailsOn`).
-/
import SuiteExplorer.Catalog.Discovery
import SuiteExplorer.Proofs.Run.Grounds
import SuiteExplorer.Proofs.Text.Decoding

namespace SuiteExplorer

open Text

/-! ## 1. Reads -/

/-- Reading takes all bytes, in order. -/
theorem flatten_reads {fuel : Nat} {bytes : Bytes} (h : bytes.length < fuel) :
    (reads fuel bytes).flatten = bytes := by
  induction fuel generalizing bytes with
  | zero => cases h
  | succ fuel ih =>
    rw [reads]
    split
    · next hempty => exact (List.isEmpty_iff.mp hempty).symm
    · next hne =>
      have hpos : 0 < bytes.length := List.length_pos_iff.mpr fun hnil => hne (by simp [hnil])
      rw [List.flatten_cons, ih (by rw [List.length_drop, readSize]; omega)]
      exact List.take_append_drop readSize bytes

namespace Execution

/-! ## 2. One stream -/

/-- The stream gives these characters as texts that are not empty, and each text is appended
    to the output of the run. -/
def Passes (x x' : Execution) (s s' : Stream) (chars : List Char) : Prop :=
  ∃ texts, s'.texts = s.texts ++ texts ∧ x'.record.pieces = x.record.pieces ++ texts ∧
    "" ∉ texts ∧ (String.join texts).toList = chars

section Stream

variable {x x' x'' : Execution} {s s' s'' : Stream} {chars chars' : List Char}

theorem toList_join_append (texts texts' : List String) :
    (String.join (texts ++ texts')).toList =
      (String.join texts).toList ++ (String.join texts').toList := by
  rw [String.join_append, String.toList_append]

theorem Passes.trans (h : Passes x x' s s' chars) (h' : Passes x' x'' s' s'' chars') :
    Passes x x'' s s'' (chars ++ chars') := by
  obtain ⟨texts, htexts, hpieces, hempty, hchars⟩ := h
  obtain ⟨texts', htexts', hpieces', hempty', hchars'⟩ := h'
  refine ⟨texts ++ texts', ?_, ?_, ?_, ?_⟩
  · rw [htexts', htexts, List.append_assoc]
  · rw [hpieces', hpieces, List.append_assoc]
  · rw [List.mem_append]
    exact fun h => h.elim hempty hempty'
  · rw [toList_join_append, hchars, hchars']

theorem pieces_append (x : Execution) (w : Workbench) (text : String) :
    (x.append w text).record.pieces = x.record.pieces ++ [text] := by
  unfold append tell
  split
  · rfl
  · rfl

theorem passOn_passes (x : Execution) (w : Workbench) (s : Stream) (pending : Utf8.Pending)
    (chars : List Char) :
    Passes x (x.passOn w s pending chars).1 s (x.passOn w s pending chars).2 chars ∧
      (x.passOn w s pending chars).2.pending = pending := by
  unfold passOn
  split
  · next hempty =>
    rw [List.isEmpty_iff.mp hempty]
    exact ⟨⟨[], by simp, by simp, by simp, rfl⟩, rfl⟩
  · next hne =>
    refine ⟨⟨[String.ofList chars], rfl, pieces_append x w _, ?_, ?_⟩, rfl⟩
    · rw [List.mem_singleton]
      intro h
      have hnil : chars = [] := by simpa using congrArg String.toList h.symm
      exact hne (List.isEmpty_iff.mpr hnil)
    · simp [String.join]

/-- **A stream is passed on** as if it were read at once. -/
theorem pump_passes (w : Workbench) (pieces : List Bytes) (x : Execution) (s : Stream) :
    Passes x (x.pump w s pieces).1 s (x.pump w s pieces).2
        (Utf8.feed s.pending pieces.flatten).2 ∧
      (x.pump w s pieces).2.pending = (Utf8.feed s.pending pieces.flatten).1 := by
  induction pieces generalizing x s with
  | nil => exact ⟨⟨[], by simp [pump], by simp [pump], by simp, rfl⟩, rfl⟩
  | cons piece rest ih =>
    obtain ⟨hpassed, hpending⟩ := x.passOn_passes w s (Utf8.feed s.pending piece).1
      (Utf8.feed s.pending piece).2
    obtain ⟨hrest, hlast⟩ := ih (x.passOn w s (Utf8.feed s.pending piece).1
      (Utf8.feed s.pending piece).2).1 (x.passOn w s (Utf8.feed s.pending piece).1
      (Utf8.feed s.pending piece).2).2
    rw [hpending] at hrest hlast
    rw [List.flatten_cons, Utf8.feed_append]
    exact ⟨hpassed.trans hrest, hlast⟩

theorem pumpChunk_passes (x : Execution) (w : Workbench) (s : Stream) (bytes : Bytes) :
    Passes x (x.pumpChunk w s bytes).1 s (x.pumpChunk w s bytes).2
        (Utf8.feed s.pending bytes).2 ∧
      (x.pumpChunk w s bytes).2.pending = (Utf8.feed s.pending bytes).1 := by
  have hpump := pump_passes w (reads (bytes.length + 1) bytes) x s
  rwa [flatten_reads (Nat.lt_succ_self _)] at hpump

theorem endStream_passes (x : Execution) (w : Workbench) (s : Stream) :
    Passes x (x.endStream w s).1 s (x.endStream w s).2 (Utf8.finish s.pending) :=
  (x.passOn_passes w s {} _).1

end Stream

/-! ## 3. Both streams of a process -/

/-- Both streams give their characters as texts that are not empty.  The output of the run
    grows by the texts of both, in some order: on the left are those of standard output. -/
def Gives (x x' : Execution) (s s' : Streams) (out err : List Char) : Prop :=
  ∃ told : List (String ⊕ String),
    x'.record.pieces = x.record.pieces ++ told.map (Sum.elim id id) ∧
    (∀ t ∈ told, Sum.elim id id t ≠ "") ∧
    s'.stdout.texts = s.stdout.texts ++ told.filterMap Sum.getLeft? ∧
    s'.stderr.texts = s.stderr.texts ++ told.filterMap Sum.getRight? ∧
    (String.join (told.filterMap Sum.getLeft?)).toList = out ∧
    (String.join (told.filterMap Sum.getRight?)).toList = err

section Streams

variable {x x' x'' : Execution} {s s' s'' : Streams} {t : Stream}
  {out err out' err' chars : List Char}

theorem Gives.trans (h : Gives x x' s s' out err) (h' : Gives x' x'' s' s'' out' err') :
    Gives x x'' s s'' (out ++ out') (err ++ err') := by
  obtain ⟨told, hpieces, hempty, hstdout, hstderr, hout, herr⟩ := h
  obtain ⟨told', hpieces', hempty', hstdout', hstderr', hout', herr'⟩ := h'
  refine ⟨told ++ told', ?_, ?_, ?_, ?_, ?_, ?_⟩
  · rw [hpieces', hpieces, List.map_append, List.append_assoc]
  · exact List.forall_mem_append.mpr ⟨hempty, hempty'⟩
  · rw [hstdout', hstdout, List.filterMap_append, List.append_assoc]
  · rw [hstderr', hstderr, List.filterMap_append, List.append_assoc]
  · rw [List.filterMap_append, toList_join_append, hout, hout']
  · rw [List.filterMap_append, toList_join_append, herr, herr']

theorem Passes.stdout (s : Streams) (h : Passes x x' s.stdout t chars) :
    Gives x x' s { s with stdout := t } chars [] := by
  obtain ⟨texts, htexts, hpieces, hempty, hchars⟩ := h
  refine ⟨texts.map .inl, ?_, ?_, ?_, ?_, ?_, ?_⟩
  · simpa [Function.comp_def] using hpieces
  · simpa using fun t ht (heq : t = "") => hempty (heq ▸ ht)
  · simpa [List.filterMap_map, Function.comp_def] using htexts
  · simp [List.filterMap_map, Function.comp_def]
  · simpa [List.filterMap_map, Function.comp_def] using hchars
  · simp [List.filterMap_map, Function.comp_def, String.join]

theorem Passes.stderr (s : Streams) (h : Passes x x' s.stderr t chars) :
    Gives x x' s { s with stderr := t } [] chars := by
  obtain ⟨texts, htexts, hpieces, hempty, hchars⟩ := h
  refine ⟨texts.map .inr, ?_, ?_, ?_, ?_, ?_, ?_⟩
  · simpa [Function.comp_def] using hpieces
  · simpa using fun t ht (heq : t = "") => hempty (heq ▸ ht)
  · simp [List.filterMap_map, Function.comp_def]
  · simpa [List.filterMap_map, Function.comp_def] using htexts
  · simp [List.filterMap_map, Function.comp_def, String.join]
  · simpa [List.filterMap_map, Function.comp_def] using hchars

theorem finishProcess_gives {w : Workbench} {s : Streams} {last : ProcessEnd} {lag : Nat}
    {x : Execution} {code : Int} (h : (x.finishProcess w s last lag).2.2 = .exited code) :
    Gives x (x.finishProcess w s last lag).1 s (x.finishProcess w s last lag).2.1
      (Utf8.finish s.stdout.pending) (Utf8.finish s.stderr.pending) := by
  have hout := (x.endStream_passes w s.stdout).stdout s
  have herr := ((x.endStream w s.stdout).1.endStream_passes w s.stderr).stderr
    { s with stdout := (x.endStream w s.stdout).2 }
  have hboth := hout.trans herr
  rw [List.append_nil, List.nil_append] at hboth
  unfold finishProcess at h ⊢
  dsimp only at h ⊢
  split at h
  · cases h
  · next hseen =>
    rw [if_neg hseen]
    split at h
    · cases h
    · next hseen' =>
      rw [if_neg hseen']
      cases last with
      | exits code => exact hboth
      | hangs => exact hboth

/-- **A process that exits** has given all that it has written. -/
theorem communicate_gives {w : Workbench} {last : ProcessEnd} {code : Int}
    (events : List ProcessEvent) (lag : Nat) (x : Execution) (s : Streams)
    (h : (x.communicate w s last lag events).2.2 = .exited code) :
    Gives x (x.communicate w s last lag events).1 s (x.communicate w s last lag events).2.1
      (Utf8.decodeFrom s.stdout.pending (events.flatMap (·.out)))
      (Utf8.decodeFrom s.stderr.pending (events.flatMap (·.err))) := by
  induction events generalizing x s lag with
  | nil =>
    unfold communicate at h ⊢
    split at h
    · cases h
    · next hseen =>
      rw [if_neg hseen]
      exact finishProcess_gives h
  | cons e rest ih =>
    unfold communicate at h ⊢
    split at h
    · cases h
    · next hseen =>
      rw [if_neg hseen, List.flatMap_cons, List.flatMap_cons]
      cases e with
      | stdout bytes =>
        obtain ⟨hpassed, hpending⟩ := x.pumpChunk_passes w s.stdout bytes
        have hrest := (hpassed.stdout s).trans (ih _ _ _ h)
        rw [hpending, ← Utf8.decodeFrom_append] at hrest
        exact hrest
      | stderr bytes =>
        obtain ⟨hpassed, hpending⟩ := x.pumpChunk_passes w s.stderr bytes
        have hrest := (hpassed.stderr s).trans (ih _ _ _ h)
        rw [hpending, ← Utf8.decodeFrom_append] at hrest
        exact hrest
      | cancel => exact ih _ { x with cancel := x.cancel.set } s h
      | gone => exact ih _ x { s with gone := true } h

end Streams

/-! ## 4. The entry of a process that fails -/

/-- How an entry fails whose process has written this much: with all of its standard output,
    and then all of its standard error. -/
def failure (e : QueueEntry) (events : List ProcessEvent) (elapsed : Int) :
    Transition NodeRef :=
  ⟨e.ref, .failed, some (Utf8.decode (events.flatMap (·.out)) ++ "\r\n" ++
    Utf8.decode (events.flatMap (·.err))), some elapsed⟩

/-- From `x` to `x'` an entry is worked on for which this process would be started.  The entry
    fails only when that process exits with a code other than 0, and then with all that it has
    written; and if it is started, exits so and the entry does not end as cancelled, the entry
    does fail. -/
def FailsOn (script : ProcessScript) (e : QueueEntry) (x x' : Execution) : Prop :=
  ∃ ts, x'.record.transitions = x.record.transitions ++ ts ∧
    (∀ t ∈ ts, t.state = .failed → ∃ events code elapsed,
      script = .runs events (.exits code) elapsed ∧ code ≠ 0 ∧ t = failure e events elapsed) ∧
    ∀ events code elapsed, script = .runs events (.exits code) elapsed → code ≠ 0 →
      x'.spawns ≠ x.spawns → ⟨e.ref, .errored, some cancelledMessage, some elapsed⟩ ∉ ts →
      ts = failure e events elapsed :: Transition.each e.children .skipped

section Entries

variable {x x' x'' : Execution} {w : Workbench} {e : QueueEntry} {script : ProcessScript}

theorem FailsOn.after (h' : FailsOn script e x' x'') (hquiet : x.Quiet x') :
    FailsOn script e x x'' := by
  obtain ⟨ts, hts, hfailed, hfails⟩ := h'
  rw [hquiet.transitions] at hts
  rw [hquiet.spawns] at hfails
  exact ⟨ts, hts, hfailed, hfails⟩

/-- An entry for which nothing is started does not fail. -/
theorem FailsOn.of_skipped (h : x.Quiet x') : FailsOn script e x (x'.reach e.ref .skipped) := by
  refine ⟨[⟨e.ref, .skipped, none, none⟩], ?_, ?_, ?_⟩
  · rw [← h.transitions]
    rfl
  · intro t ht hfailed
    rw [List.mem_singleton.mp ht] at hfailed
    cases hfailed
  · exact fun _ _ _ _ _ hspawns => absurd h.spawns hspawns

theorem text_eq_decode {s : Stream} {bytes : Bytes}
    (h : (String.join s.texts).toList = Utf8.decodeFrom {} bytes) :
    s.text = Utf8.decode bytes := by
  rw [← Utf8.toList_decode] at h
  exact String.toList_injective h

theorem Gives.texts {s : Streams} {out err : Bytes}
    (h : Gives x x' {} s (Utf8.decodeFrom {} out) (Utf8.decodeFrom {} err)) :
    s.stdout.text = Utf8.decode out ∧ s.stderr.text = Utf8.decode err := by
  obtain ⟨told, -, -, hstdout, hstderr, hout, herr⟩ := h
  exact ⟨text_eq_decode (by rw [hstdout]; exact hout), text_eq_decode (by rw [hstderr]; exact herr)⟩

theorem transitions_settle_of_success (x : Execution) (w : Workbench) (e : QueueEntry)
    (s : Streams) (elapsed : Int) :
    (x.settle w e s 0 elapsed).record.transitions = x.record.transitions ++
      ⟨e.ref, .passed, none, some elapsed⟩ :: Transition.each e.children .passed := by
  rw [settle, if_pos rfl, transitions_reachAll, List.append_cons]
  rfl

theorem transitions_settle_of_failure (x : Execution) (w : Workbench) (e : QueueEntry)
    (s : Streams) {code : Int} (hcode : code ≠ 0) (elapsed : Int) :
    (x.settle w e s code elapsed).record.transitions = x.record.transitions ++
      ⟨e.ref, .failed, some (s.stdout.text ++ "\r\n" ++ s.stderr.text), some elapsed⟩ ::
        Transition.each e.children .skipped := by
  have hsay := x.quiet_say w s!"test failed (exit code: {code}): {e.node.id}"
  rw [settle, if_neg hcode, transitions_reachAll, List.append_cons, ← hsay.transitions]
  rfl

theorem state_of_mem_each {refs : List NodeRef} {state : RunState} {t : Transition NodeRef}
    (h : t ∈ Transition.each refs state) : t.state = state := by
  obtain ⟨n, -, rfl⟩ := Transition.mem_each.mp h
  rfl

theorem failsOn_settle {s : Streams} {events : List ProcessEvent} {code elapsed : Int}
    (hstdout : s.stdout.text = Utf8.decode (events.flatMap (·.out)))
    (hstderr : s.stderr.text = Utf8.decode (events.flatMap (·.err)))
    (htransitions : x'.record.transitions = x.record.transitions) :
    FailsOn (.runs events (.exits code) elapsed) e x (x'.settle w e s code elapsed) := by
  by_cases hcode : code = 0
  · subst hcode
    refine ⟨_, by rw [transitions_settle_of_success, htransitions], ?_, ?_⟩
    · intro t ht hfailed
      rcases List.mem_cons.mp ht with rfl | ht
      · cases hfailed
      · rw [state_of_mem_each ht] at hfailed
        cases hfailed
    · intro events' code' elapsed' hscript hcode' _ _
      cases hscript
      exact absurd rfl hcode'
  · refine ⟨failure e events elapsed :: Transition.each e.children .skipped, ?_, ?_, ?_⟩
    · rw [transitions_settle_of_failure x' w e s hcode, htransitions, hstdout, hstderr, failure]
    · intro t ht hfailed
      rcases List.mem_cons.mp ht with rfl | ht
      · exact ⟨events, code, elapsed, rfl, hcode, rfl⟩
      · rw [state_of_mem_each ht] at hfailed
        cases hfailed
    · intro events' code' elapsed' hscript _ _ _
      cases hscript
      rfl

/-- An entry whose process does not exit by itself does not fail. -/
theorem failsOn_of_not_exits {ts : List (Transition NodeRef)}
    (hts : x'.record.transitions = x.record.transitions ++ ts)
    (hstates : ∀ t ∈ ts, t.state ≠ .failed)
    (hscript : ∀ events code elapsed, script = .runs events (.exits code) elapsed →
      ⟨e.ref, .errored, some cancelledMessage, some elapsed⟩ ∈ ts) : FailsOn script e x x' :=
  ⟨ts, hts, fun t ht hfailed => absurd hfailed (hstates t ht),
    fun events code elapsed hruns _ _ hends => absurd (hscript events code elapsed hruns) hends⟩

theorem runProcess_failsOn (x : Execution) (w : Workbench) (e : QueueEntry) (spawn : Spawn) :
    FailsOn (x.processes.headD .silent) e x (x.runProcess w e spawn).1 := by
  unfold runProcess
  dsimp only
  split
  · next reason hscript =>
    rw [hscript]
    exact failsOn_of_not_exits (List.append_nil _).symm (fun t ht => by cases ht)
      fun events code elapsed hruns => by cases hruns
  · next events last elapsed hscript =>
    rw [hscript]
    have hquiet := (quiet_communicate w last events (x.lags.headD 0)
      (x.beginProcess e spawn) {}).transitions
    have hrests := communicate_rests w last events (x.lags.headD 0) (x.beginProcess e spawn) {}
    split
    · next x' s code hwait =>
      have hgives := communicate_gives events (x.lags.headD 0) (x.beginProcess e spawn) {}
        (congrArg (·.2.2) hwait)
      rw [hwait] at hquiet hrests hgives
      obtain ⟨hstdout, hstderr⟩ := hgives.texts
      rw [hrests.2 code rfl]
      exact failsOn_settle hstdout hstderr hquiet
    · next x' s hwait =>
      rw [hwait] at hquiet hrests
      have hbefore : x'.record.transitions = x.record.transitions := hquiet
      have hended : (x'.settleCancelled e s.gone elapsed).record.transitions =
          x.record.transitions ++ [⟨e.ref, .skipped, none, none⟩,
            ⟨e.ref, .errored, some cancelledMessage, some elapsed⟩] := by
        rw [← hbefore, List.append_cons, settleCancelled, kill_eq]
        rfl
      refine failsOn_of_not_exits hended ?_ ?_
      · simp
      · intro events' code elapsed' hruns
        cases hruns
        simp
    · next x' s hwait =>
      rw [hwait] at hquiet
      refine failsOn_of_not_exits (hquiet.trans (List.append_nil _).symm)
        (fun t ht => by cases ht) ?_
      -- a process that exits is never waited for in vain
      intro events' code elapsed' hruns
      cases hruns
      have hend := communicate_waitsFor w (.exits code) events (x.lags.headD 0)
        (x.beginProcess e spawn) {}
      rw [hwait] at hend
      cases hend

/-- **An entry fails with all that its process has written.** -/
theorem runEntry_failsOn (x : Execution) (w : Workbench) (e : QueueEntry) :
    FailsOn (x.processes.headD .silent) e x (x.runEntry w e).1 := by
  have hlook : x.Quiet (x.lookUp w).2 := ⟨rfl, rfl, rfl, rfl⟩
  have hprocesses : (x.lookUp w).2.processes = x.processes := rfl
  unfold runEntry
  split
  · next x' hlookUp =>
    rw [hlookUp] at hlook
    have hnoted := hlook.trans (x'.quiet_note (.debug "go_binary_not_found"
      [("binary", .text w.toolchain.goBinary)]))
    exact .of_skipped ((hnoted.trans (quiet_report _ _ _)).trans (quiet_say _ w _))
  · next toolchain x' hlookUp =>
    rw [hlookUp] at hlook hprocesses
    split
    · exact .of_skipped (hlook.trans (quiet_note _ _))
    · split
      · exact ⟨[], hlook.transitions.trans (List.append_nil _).symm, fun t ht => (by cases ht),
          fun _ _ _ _ _ hspawns => absurd hlook.spawns hspawns⟩
      · rw [← hprocesses]
        exact (runProcess_failsOn x' w e _).after hlook

end Entries

/-- A stream that is read piece by piece to its end. -/
theorem pump_endStream_passes (x : Execution) (w : Workbench) (pieces : List Bytes) :
    Passes x ((x.pump w {} pieces).1.endStream w (x.pump w {} pieces).2).1 {}
      ((x.pump w {} pieces).1.endStream w (x.pump w {} pieces).2).2
      (Utf8.decodeFrom {} pieces.flatten) := by
  obtain ⟨hpassed, hpending⟩ := pump_passes w pieces x {}
  have hend := hpassed.trans ((x.pump w {} pieces).1.endStream_passes w (x.pump w {} pieces).2)
  rw [hpending] at hend
  exact hend

/-- **How output is read does not matter.**  The decoder, which is also that for files, gives
    what the bytes decode to.  The pieces of a stream, whatever they are, come to the decoding
    of all its bytes, in texts that are not empty and of which each is appended to the output
    of the run.  Where both streams of a process are read, their texts alternate, and when the
    process has exited they are complete.  An entry fails with the whole of both. -/
theorem output_of_reads (x : Execution) (w : Workbench) :
    (∀ bytes out, Utf8.Decoded bytes out ↔ (Utf8.decode bytes).toList = out) ∧
    (∀ (files : FileTree) (path : Path) (bytes : Bytes), files.read? path = some bytes →
      (Catalog.readText files path).1 = some (Utf8.decode bytes)) ∧
    (∀ pieces : List Bytes,
      let pumped := x.pump w {} pieces
      let ended := pumped.1.endStream w pumped.2
      ended.2.text = Utf8.decode pieces.flatten ∧ "" ∉ ended.2.texts ∧
        ended.1.record.pieces = x.record.pieces ++ ended.2.texts) ∧
    (∀ (events : List ProcessEvent) (last : ProcessEnd) (lag : Nat) (code : Int),
      let waited := x.communicate w {} last lag events
      waited.2.2 = .exited code →
        Gives x waited.1 {} waited.2.1 (Utf8.decode (events.flatMap (·.out))).toList
          (Utf8.decode (events.flatMap (·.err))).toList) ∧
    ∀ e : QueueEntry, FailsOn (x.processes.headD .silent) e x (x.runEntry w e).1 := by
  refine ⟨fun _ _ => Utf8.decoded_iff, ?_, ?_, ?_, x.runEntry_failsOn w⟩
  · intro files path bytes hread
    rw [Catalog.readText, hread]
  · intro pieces
    obtain ⟨texts, htexts, hpieces, hempty, hchars⟩ := x.pump_endStream_passes w pieces
    rw [List.nil_append] at htexts
    refine ⟨text_eq_decode (by rw [htexts]; exact hchars), ?_, ?_⟩
    · rw [htexts]
      exact hempty
    · rw [htexts]
      exact hpieces
  · intro events last lag code waited hexited
    rw [Utf8.toList_decode, Utf8.toList_decode]
    exact communicate_gives events lag x {} hexited

/-! ### 4.1 A character in three reads

The euro sign is cut twice, and a text comes from standard error meanwhile.  Then standard
output ends in the middle of a character. -/

def cutCharacter : List ProcessEvent :=
  [.stdout [0xE2], .stderr [0x6F, 0xFF], .stdout [0x82], .stdout [0xAC, 0xF0, 0x9F], .stdout [0x92]]

def cutWorld : Execution where
  processes := [.runs cutCharacter (.exits 3) 7]

def cutEntry : QueueEntry where
  node := { ref := 2, id := "p.TestA", label := "TestA", path := { names := ["p", "a_test.go"] } }
  what := .suite { name := "S", kind := some .gocheck }

theorem output_of_reads_cutCharacter :
    let waited := cutWorld.communicate Catalog.pairBench {} (.exits 3) 0 cutCharacter
    let after := (cutWorld.runEntry Catalog.pairBench cutEntry).1
    (waited.2.2 = .exited 3 ∧ waited.2.1.stdout.texts = ["\u20AC", "\uFFFD"] ∧
        waited.1.record.pieces = ["o\uFFFD", "\u20AC", "\uFFFD"] ∧
        after.spawns ≠ cutWorld.spawns ∧ after.killed = cutWorld.killed) ∧
      Gives cutWorld waited.1 {} waited.2.1 "\u20AC\uFFFD".toList "o\uFFFD".toList ∧
      after.record.transitions =
        [⟨2, .failed, some "\u20AC\uFFFD\r\no\uFFFD", some 7⟩] := by
  intro waited after
  obtain ⟨-, -, -, hgives, hfails⟩ := output_of_reads cutWorld Catalog.pairBench
  have hout : Utf8.decode (cutCharacter.flatMap (·.out)) = "\u20AC\uFFFD" := by decide +kernel
  have herr : Utf8.decode (cutCharacter.flatMap (·.err)) = "o\uFFFD" := by decide +kernel
  have hran : waited.2.2 = .exited 3 ∧ waited.2.1.stdout.texts = ["\u20AC", "\uFFFD"] ∧
      waited.1.record.pieces = ["o\uFFFD", "\u20AC", "\uFFFD"] ∧
      after.spawns ≠ cutWorld.spawns ∧ after.killed = cutWorld.killed := by
    decide +kernel
  refine ⟨hran, ?_, ?_⟩
  · rw [← hout, ← herr]
    exact hgives cutCharacter (.exits 3) 0 3 hran.1
  · obtain ⟨ts, hts, -, hfailed⟩ := hfails cutEntry
    have hends : ⟨cutEntry.ref, .errored, some cancelledMessage, some 7⟩ ∉
        after.record.transitions := by
      decide +kernel
    have hnot : ⟨cutEntry.ref, .errored, some cancelledMessage, some 7⟩ ∉ ts :=
      fun h => hends (hts ▸ List.mem_append_right _ h)
    rw [hts, hfailed cutCharacter 3 7 rfl (by decide) hran.2.2.2.1 hnot, failure, hout, herr]
    rfl

end Execution
end SuiteExplorer
