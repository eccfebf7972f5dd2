/-
  SuiteExplorer/Proofs/Debug/Verdict.lean
  =======================================
  **The verdict of a debug session, and how far it depends on the cuts in its output.**

  A session in which the adapter neither fails nor exits is judged by its standard output:
  it has passed if a line is `PASS`, else failed if a line is `FAIL`, else it counts as
  skipped (`Judges`).  The lines are those of the pieces in which the adapter sends its
  output, since a line end is put between the pieces.  They are the lines of the output
  itself when no cut is inside a line; with a cut inside one, a verdict line may be missed
  or a fragment be taken for one.  `verdict_of_pieces` gives the exact condition.
-/
import SuiteExplorer.Proofs.Debug.Attempt
import SuiteExplorer.Proofs.Text.OutputLines

namespace SuiteExplorer

open Text

/-! ## 1. What is heard -/

namespace HostEvent

open DebugTracker in
/-- The piece of standard output that the event is. -/
def stdout? : HostEvent → Option Value
  | .message m =>
    if saysText (m.get? "type") "event" && saysText (m.get? "event") "output" &&
        saysText ((bodyOf m).get? "category") "stdout" then
      some (((bodyOf m).get? "output").getD (.text ""))
    else none
  | _ => none

/-- The message of a debug adapter that has a text for a kind of output. -/
def output (category text : String) : HostEvent :=
  .message (.map [("type", .text "event"), ("event", .text "output"),
    ("body", .map [("category", .text category), ("output", .text text)])])

end HostEvent

namespace DebugTracker

variable {e : HostEvent} {events : List HostEvent} {pieces : List String} {s s' : RunState}

/-- The tracker of a session in which all this has happened. -/
def after (events : List HostEvent) : DebugTracker :=
  (events.filterMap HostEvent.word?).foldl (fun t word => word t) {}

theorem stdout_addOutput (t : DebugTracker) (category : Option Value) (piece : Value) :
    (t.addOutput category piece).stdout =
      t.stdout ++ if saysText category "stdout" then [piece] else [] := by
  unfold addOutput
  split
  · rfl
  · split <;> simp

/-- Only a mapping says anything. -/
theorem stdout?_of_entries_eq_nil {m : Value} (hm : m.entries = []) :
    (HostEvent.message m).stdout? = none := by
  simp [HostEvent.stdout?, Value.get?, hm, Entries.get?, saysText]

/-- Only an output event of this category adds to standard output. -/
theorem stdout_onMessage (t : DebugTracker) (m : Value) :
    ((t.onMessage m).toOption.getD t).stdout =
      t.stdout ++ (HostEvent.message m).stdout?.toList := by
  cases m with
  | map fields =>
    by_cases houtput : saysText (Value.get? (.map fields) "type") "event" &&
        saysText (Value.get? (.map fields) "event") "output"
    · rw [onMessage, if_pos houtput, HostEvent.stdout?, houtput, Bool.true_and]
      cases bodyOf (.map fields) with
      | map entries =>
        change (t.addOutput ((Value.map entries).get? "category") _).stdout = _
        rw [stdout_addOutput]
        split
        · rfl
        · rfl
      | _ => exact (List.append_nil _).symm
    · rw [onMessage, if_neg houtput, HostEvent.stdout?, eq_false_of_ne_true houtput]
      exact (List.append_nil _).symm
  | _ =>
    rw [stdout?_of_entries_eq_nil rfl]
    exact (List.append_nil _).symm

/-- A word of the session adds its piece of standard output. -/
theorem stdout_word {word : DebugTracker → DebugTracker} (h : e.word? = some word)
    (t : DebugTracker) : (word t).stdout = t.stdout ++ e.stdout?.toList := by
  cases e with
  | message m =>
    cases h
    exact stdout_onMessage t m
  | adapterError text => cases h; exact (List.append_nil _).symm
  | adapterExit code => cases h; exact (List.append_nil _).symm
  | claim who => cases h
  | started who => cases h
  | terminated who => cases h
  | log content => cases h
  | cancel => cases h
  | dispose => cases h

theorem stdout?_of_word?_eq_none (h : e.word? = none) : e.stdout? = none := by
  cases e with
  | message m => cases h
  | _ => rfl

/-- Standard output is kept as it comes, whatever else happens in between. -/
theorem stdout_after (events : List HostEvent) :
    (after events).stdout = events.filterMap HostEvent.stdout? := by
  have hfrom : ∀ t : DebugTracker,
      ((events.filterMap HostEvent.word?).foldl (fun t word => word t) t).stdout =
        t.stdout ++ events.filterMap HostEvent.stdout? := by
    induction events with
    | nil => simp
    | cons e events ih =>
      intro t
      cases hword : e.word? with
      | none =>
        rw [List.filterMap_cons_none hword, ih,
          List.filterMap_cons_none (stdout?_of_word?_eq_none hword)]
      | some word =>
        rw [List.filterMap_cons_some hword, List.foldl_cons, ih, stdout_word hword]
        cases hpiece : e.stdout? with
        | none => simp [List.filterMap_cons_none hpiece]
        | some piece => simp [List.filterMap_cons_some hpiece]
  exact hfrom {}

/-! ## 2. Judging by lines -/

/-- What a session comes to that is judged by these lines alone. -/
structure Judges (lines : String → Prop) (s : RunState) : Prop where
  passed : s = .passed ↔ lines "PASS"
  failed : s = .failed ↔ ¬ lines "PASS" ∧ lines "FAIL"
  skipped : s = .skipped ↔ ¬ lines "PASS" ∧ ¬ lines "FAIL"

theorem judges_verdictOfLines (lines : List String) : Judges (· ∈ lines) (verdictOfLines lines) := by
  unfold verdictOfLines
  by_cases hpass : "PASS" ∈ lines
  · constructor <;> simp [hpass]
  · by_cases hfail : "FAIL" ∈ lines
    · constructor <;> simp [hpass, hfail]
    · constructor <;> simp [hpass, hfail]

variable {lines others : String → Prop}

theorem Judges.unique (h : Judges lines s) (h' : Judges lines s') : s = s' := by
  by_cases hpass : lines "PASS"
  · rw [h.passed.mpr hpass, h'.passed.mpr hpass]
  · by_cases hfail : lines "FAIL"
    · rw [h.failed.mpr ⟨hpass, hfail⟩, h'.failed.mpr ⟨hpass, hfail⟩]
    · rw [h.skipped.mpr ⟨hpass, hfail⟩, h'.skipped.mpr ⟨hpass, hfail⟩]

/-- Other lines lead to the same judgement exactly when they agree on the verdict lines, the
    second of which only counts without the first. -/
theorem Judges.iff_agree (h : Judges lines s) :
    Judges others s ↔ (others "PASS" ↔ lines "PASS") ∧
      (¬ others "PASS" → (others "FAIL" ↔ lines "FAIL")) := by
  constructor
  · intro h'
    have hpass : others "PASS" ↔ lines "PASS" := by rw [← h'.passed, h.passed]
    refine ⟨hpass, ?_⟩
    intro hnot
    have hfailed := h'.failed.symm.trans h.failed
    rw [hpass] at hnot
    simpa [hpass, hnot] using hfailed
  · rintro ⟨hpass, hfail⟩
    by_cases hnot : others "PASS"
    · constructor
      · rw [h.passed, hpass]
      · rw [h.failed, hpass]
        simp [hpass.mp hnot]
      · rw [h.skipped, hpass]
        simp [hpass.mp hnot]
    · constructor
      · rw [h.passed, hpass]
      · rw [h.failed, hpass, hfail hnot]
      · rw [h.skipped, hpass, hfail hnot]

/-! ## 3. The verdict -/

theorem texts_map_text (n : Nat) (pieces : List String) :
    texts n (pieces.map .text) = .ok pieces := by
  induction pieces generalizing n with
  | nil => rfl
  | cons piece pieces ih =>
    rw [List.map_cons, texts, ih]
    rfl

theorem verdict_of_texts {t : DebugTracker} (herror : t.error = none) (hexit : t.exitCode = none)
    (hstdout : t.stdout = pieces.map .text) :
    t.verdict = .ok (verdictOfLines (outputLines ("\r\n".intercalate pieces))) := by
  rw [verdict, herror, hexit, hstdout, joined, texts_map_text]
  rfl

theorem unbroken_pass : Unbroken "PASS".toList := by decide

theorem unbroken_fail : Unbroken "FAIL".toList := by decide

/-- The verdict on texts is that on the lines of each of them. -/
theorem judges_pieces (pieces : List String) :
    Judges (fun line => ∃ piece ∈ pieces, line ∈ outputLines piece)
      (verdictOfLines (outputLines ("\r\n".intercalate pieces))) := by
  rw [(judges_verdictOfLines _).iff_agree, mem_outputLines_intercalate unbroken_pass (by decide),
    mem_outputLines_intercalate unbroken_fail (by decide)]
  exact ⟨Iff.rfl, fun _ => Iff.rfl⟩

/-- It is the verdict on the lines of the whole output if no cut is inside a line. -/
theorem judges_join (h : WholeLines pieces) :
    Judges (· ∈ outputLines (String.join pieces))
      (verdictOfLines (outputLines ("\r\n".intercalate pieces))) := by
  rw [(judges_pieces pieces).iff_agree, h.mem_outputLines_join unbroken_pass (by decide),
    h.mem_outputLines_join unbroken_fail (by decide)]
  exact ⟨Iff.rfl, fun _ => Iff.rfl⟩

/-- Sessions that send the same output in whole lines come to the same. -/
theorem verdict_eq_of_wholeLines {t t' : DebugTracker} {pieces pieces' : List String}
    (herror : t.error = none) (hexit : t.exitCode = none)
    (hstdout : t.stdout = pieces.map .text) (hwhole : WholeLines pieces)
    (herror' : t'.error = none) (hexit' : t'.exitCode = none)
    (hstdout' : t'.stdout = pieces'.map .text) (hwhole' : WholeLines pieces')
    (hjoin : String.join pieces = String.join pieces') : t.verdict = t'.verdict := by
  have hjudges := judges_join hwhole
  rw [hjoin] at hjudges
  rw [verdict_of_texts herror hexit hstdout, verdict_of_texts herror' hexit' hstdout',
    hjudges.unique (judges_join hwhole')]

/-- **What an undecided session comes to.**  It is judged by the lines of its pieces of
    standard output, whatever else it has said in between.  That is the judgement by the
    lines of the whole output exactly when the cuts neither hide nor make up a verdict line,
    the failing one counting only without the passing one; so it is whenever no cut is inside
    a line. -/
theorem verdict_of_pieces (hsaid : events.filterMap HostEvent.stdout? = pieces.map .text)
    (herror : (after events).error = none) (hexit : (after events).exitCode = none) :
    ∃ s, (after events).verdict = .ok s ∧
      Judges (fun line => ∃ piece ∈ pieces, line ∈ outputLines piece) s ∧
      (Judges (· ∈ outputLines (String.join pieces)) s ↔
        ("PASS" ∈ outputLines (String.join pieces) ↔
          ∃ piece ∈ pieces, "PASS" ∈ outputLines piece) ∧
        ("PASS" ∉ outputLines (String.join pieces) →
          ("FAIL" ∈ outputLines (String.join pieces) ↔
            ∃ piece ∈ pieces, "FAIL" ∈ outputLines piece))) ∧
      (WholeLines pieces → Judges (· ∈ outputLines (String.join pieces)) s) := by
  have hstdout : (after events).stdout = pieces.map .text := by rw [stdout_after, hsaid]
  have hpieces := judges_pieces pieces
  exact ⟨_, verdict_of_texts herror hexit hstdout, hpieces, hpieces.iff_agree, judges_join⟩

/-- Two lines of output with an error message, another event and an exit without a code in
    between. -/
def linesApart : List HostEvent :=
  [.output "stdout" "=== RUN\n", .output "stderr" "FAIL\n",
    .message (.map [("type", .text "event"), ("event", .text "stopped")]),
    .adapterExit none, .output "stdout" "PASS\n"]

theorem verdict_of_linesApart :
    linesApart.filterMap HostEvent.stdout? = ["=== RUN\n", "PASS\n"].map .text ∧
      (after linesApart).error = none ∧ (after linesApart).exitCode = none ∧
      WholeLines ["=== RUN\n", "PASS\n"] ∧
      ∃ s, (after linesApart).verdict = .ok s ∧ s = .passed ∧
        Judges (· ∈ outputLines (String.join ["=== RUN\n", "PASS\n"])) s := by
  have hwhole : WholeLines ["=== RUN\n", "PASS\n"] := by decide
  have hsaid : linesApart.filterMap HostEvent.stdout? = ["=== RUN\n", "PASS\n"].map .text := rfl
  refine ⟨hsaid, rfl, rfl, hwhole, ?_⟩
  obtain ⟨s, hs, -, -, hjudges⟩ := verdict_of_pieces hsaid rfl rfl
  exact ⟨s, hs, (hjudges hwhole).passed.mpr (by decide), hjudges hwhole⟩

/-- **A cut inside a line changes the verdict.**  The line `PASS` is missed if it comes in two
    pieces, and the end of a line that says `not PASS` is taken for one. -/
theorem verdict_of_cut_line :
    let whole : List HostEvent := [.output "stdout" "PASS\n"]
    let cut : List HostEvent := [.output "stdout" "PA", .output "stdout" "SS\n"]
    let fragment : List HostEvent := [.output "stdout" "not ", .output "stdout" "PASS"]
    whole.filterMap HostEvent.stdout? = ["PASS\n"].map .text ∧
      cut.filterMap HostEvent.stdout? = ["PA", "SS\n"].map .text ∧
      String.join ["PASS\n"] = String.join ["PA", "SS\n"] ∧
      (after whole).verdict = .ok .passed ∧ (after cut).verdict = .ok .skipped ∧
      ¬ Judges (· ∈ outputLines (String.join ["PA", "SS\n"])) .skipped ∧
      (after fragment).verdict = .ok .passed ∧
      ¬ Judges (· ∈ outputLines (String.join ["not ", "PASS"])) .passed := by
  dsimp only
  refine ⟨rfl, rfl, by decide, rfl, rfl, ?_, rfl, ?_⟩
  · intro h
    exact absurd (h.skipped.mp rfl).1 (by decide)
  · intro h
    exact absurd (h.passed.mp rfl) (by decide)

end DebugTracker

end SuiteExplorer
