/-
  SuiteExplorer/Proofs/Text/OutputLines.lean
  ==========================================
  **Which words are lines of program output.**

  A word without line boundaries is a line of a text exactly when it stands in it between
  two boundaries, the ends of the text counting as boundaries (`StandsIn`).  Said this way
  it no longer matters where the cutting has got to, and a text may be taken apart wherever
  a line ends or begins: nothing is lost, and no fragment becomes a line.
-/
import SuiteExplorer.Text.Lines

namespace SuiteExplorer.Text

/-! ## 1. Words that stand alone -/

/-- A text has no line boundary. -/
def Unbroken (s : List Char) : Prop := ∀ c ∈ s, isLineBoundary c = false

/-- A text is empty or ends with a line boundary. -/
def EndsLine (s : List Char) : Prop := ∀ c ∈ s.getLast?, isLineBoundary c

/-- A text is empty or begins with a line boundary. -/
def BeginsLine (s : List Char) : Prop := ∀ c ∈ s.head?, isLineBoundary c

instance (s : List Char) : Decidable (Unbroken s) :=
  List.decidableBAll (isLineBoundary · = false) s

instance (s : List Char) : Decidable (EndsLine s) :=
  @Option.decidableForallMem Char (isLineBoundary ·) (fun _ => instDecidableEqBool _ _) s.getLast?

instance (s : List Char) : Decidable (BeginsLine s) :=
  @Option.decidableForallMem Char (isLineBoundary ·) (fun _ => instDecidableEqBool _ _) s.head?

/-- A word stands in a text with nothing else on its line. -/
def StandsIn (word text : List Char) : Prop :=
  ∃ before after, text = before ++ word ++ after ∧ EndsLine before ∧ BeginsLine after

variable {word a b : List Char} {c : Char}

theorem endsLine_nil : EndsLine [] := by simp [EndsLine]

theorem beginsLine_nil : BeginsLine [] := by simp [BeginsLine]

theorem EndsLine.of_append (h : EndsLine (a ++ b)) : EndsLine b := by
  intro c hc
  apply h
  rw [List.getLast?_append, hc]
  rfl

theorem BeginsLine.of_append (h : BeginsLine (a ++ b)) : BeginsLine a := by
  intro c hc
  apply h
  rw [List.head?_append, hc]
  rfl

/-- What has no boundary and ends with one is empty. -/
theorem Unbroken.eq_nil_of_endsLine (ha : Unbroken a) (h : EndsLine a) : a = [] := by
  cases hlast : a.getLast? with
  | none => exact List.getLast?_eq_none_iff.mp hlast
  | some c =>
    have hc : isLineBoundary c = false := ha c (List.mem_of_getLast? hlast)
    simp [h c hlast] at hc

theorem Unbroken.eq_nil_of_beginsLine (ha : Unbroken a) (h : BeginsLine a) : a = [] := by
  cases hhead : a.head? with
  | none => exact List.head?_eq_none_iff.mp hhead
  | some c =>
    have hc : isLineBoundary c = false := ha c (List.mem_of_head? hhead)
    simp [h c hhead] at hc

theorem unbroken_nil : Unbroken [] := by simp [Unbroken]

theorem Unbroken.reverse (ha : Unbroken a) : Unbroken a.reverse := by
  intro c hc
  exact ha c (by simpa using hc)

theorem unbroken_append : Unbroken (a ++ b) ↔ Unbroken a ∧ Unbroken b :=
  List.forall_mem_append

/-- In a text without boundaries only the whole text stands alone. -/
theorem standsIn_of_unbroken (ha : Unbroken a) : StandsIn word a ↔ word = a := by
  constructor
  · rintro ⟨before, after, rfl, hbefore, hafter⟩
    obtain ⟨⟨hunbroken, -⟩, hunbroken'⟩ := by simpa only [unbroken_append] using ha
    rw [hunbroken.eq_nil_of_endsLine hbefore, hunbroken'.eq_nil_of_beginsLine hafter]
    simp
  · rintro rfl
    exact ⟨[], [], by simp, endsLine_nil, beginsLine_nil⟩

theorem not_standsIn_nil (hne : word ≠ []) : ¬ StandsIn word [] := by
  rw [standsIn_of_unbroken (by simp [Unbroken])]
  exact hne

section Words

variable (hword : Unbroken word) (hne : word ≠ [])

include hword hne

/-- **A text may be taken apart where a line ends or begins.** -/
theorem standsIn_append (h : EndsLine a ∨ BeginsLine b) :
    StandsIn word (a ++ b) ↔ StandsIn word a ∨ StandsIn word b := by
  constructor
  · rintro ⟨before, after, heq, hbefore, hafter⟩
    rcases List.append_eq_append_iff.mp heq with ⟨t, ht, rfl⟩ | ⟨t, rfl, rfl⟩
    · rcases List.append_eq_append_iff.mp ht with ⟨u, rfl, rfl⟩ | ⟨u, rfl, rfl⟩
      · -- the cut is in the word or at one of its ends, and there is no boundary in it
        obtain ⟨hu, ht⟩ := unbroken_append.mp hword
        rcases h with h | h
        · obtain rfl := hu.eq_nil_of_endsLine h.of_append
          exact .inr ⟨[], after, by simp, endsLine_nil, hafter⟩
        · obtain rfl := ht.eq_nil_of_beginsLine h.of_append
          exact .inl ⟨before, [], by simp, hbefore, beginsLine_nil⟩
      · exact .inr ⟨u, after, by simp, hbefore.of_append, hafter⟩
    · exact .inl ⟨before, t, by simp, hbefore, hafter.of_append⟩
  · rintro (⟨before, after, rfl, hbefore, hafter⟩ | ⟨before, after, rfl, hbefore, hafter⟩)
    · refine ⟨before, after ++ b, by simp, hbefore, ?_⟩
      cases after with
      | cons c after => exact hafter
      | nil =>
        rcases h with h | h
        · rw [List.append_nil] at h
          exact absurd (hword.eq_nil_of_endsLine h.of_append) hne
        · exact h
    · refine ⟨a ++ before, after, by simp, ?_, hafter⟩
      rcases List.eq_nil_or_concat before with rfl | ⟨front, c, rfl⟩
      · rcases h with h | h
        · simpa using h
        · rw [List.nil_append] at h
          exact absurd (hword.eq_nil_of_beginsLine h.of_append) hne
      · intro c' hc'
        apply hbefore
        simpa using hc'

theorem standsIn_boundary_cons {s : List Char} (hc : isLineBoundary c) :
    StandsIn word (c :: s) ↔ StandsIn word s := by
  have hends : EndsLine [c] := by simp [EndsLine, hc]
  have halone : ¬ StandsIn word [c] := by
    rintro ⟨before, after, heq, -, -⟩
    have hmem : ∀ c' ∈ word, c' = c := by
      intro c' hc'
      have : c' ∈ [c] := by rw [heq]; simp [hc']
      simpa using this
    obtain ⟨c', hc'⟩ := List.exists_mem_of_ne_nil word hne
    obtain rfl := hmem c' hc'
    simp [hword c' hc'] at hc
  rw [show c :: s = [c] ++ s from rfl, standsIn_append hword hne (.inl hends)]
  simp [halone]

/-! ## 2. The lines of a text -/

/-- What is cut off is what stands alone, whatever part of the current line is known
    already. -/
theorem mem_outputLinesFrom_iff (line s : List Char) (hline : Unbroken line) :
    word ∈ outputLinesFrom line s ↔ StandsIn word (line.reverse ++ s) := by
  induction line, s using outputLinesFrom.induct with
  | case1 line hempty =>
    obtain rfl := List.isEmpty_iff.mp hempty
    simp [outputLinesFrom, not_standsIn_nil hne]
  | case2 line hempty =>
    simp [outputLinesFrom, hempty, standsIn_of_unbroken hline.reverse]
  | case3 line rest ih =>
    have hbegins : BeginsLine ('\r' :: '\n' :: rest) := by simp [BeginsLine, isLineBoundary]
    have ih' : word ∈ outputLinesFrom [] rest ↔ StandsIn word rest := ih unbroken_nil
    rw [outputLinesFrom, List.mem_cons, ih', standsIn_append hword hne (.inr hbegins),
      standsIn_of_unbroken hline.reverse, standsIn_boundary_cons hword hne rfl,
      standsIn_boundary_cons hword hne rfl]
  | case4 line c rest hpair hc ih =>
    have hbegins : BeginsLine (c :: rest) := by simp [BeginsLine, hc]
    have ih' : word ∈ outputLinesFrom [] rest ↔ StandsIn word rest := ih unbroken_nil
    rw [outputLinesFrom.eq_3 _ _ _ hpair, if_pos hc, List.mem_cons, ih',
      standsIn_append hword hne (.inr hbegins), standsIn_of_unbroken hline.reverse,
      standsIn_boundary_cons hword hne hc]
  | case5 line c rest hpair hc ih =>
    have hline' : Unbroken (c :: line) := by
      intro c' hc'
      rcases List.mem_cons.mp hc' with rfl | hc'
      · simpa using hc
      · exact hline c' hc'
    rw [outputLinesFrom.eq_3 _ _ _ hpair, if_neg hc]
    simpa using ih hline'

end Words

/-- **The lines of a text are the words that stand alone in it.** -/
theorem mem_outputLines_iff {word s : String} (hword : Unbroken word.toList) (hne : word ≠ "") :
    word ∈ outputLines s ↔ StandsIn word.toList s.toList := by
  have hne' : word.toList ≠ [] := by simpa using hne
  have hfrom := mem_outputLinesFrom_iff hword hne' [] s.toList unbroken_nil
  rw [List.reverse_nil, List.nil_append] at hfrom
  rw [← hfrom, outputLines, List.mem_map]
  constructor
  · rintro ⟨line, hline, rfl⟩
    simpa using hline
  · intro h
    exact ⟨_, h, by simp⟩

/-! ## 3. Texts in pieces -/

/-- No cut between the pieces is inside a line: what is before it is empty or ends with a
    boundary, or what is behind it is empty or begins with one. -/
def WholeLines (pieces : List String) : Prop :=
  ∀ n ≤ pieces.length, EndsLine (String.join (pieces.take n)).toList ∨
    BeginsLine (String.join (pieces.drop n)).toList

instance (pieces : List String) : Decidable (WholeLines pieces) :=
  inferInstanceAs (Decidable (∀ n ≤ pieces.length, _ ∨ _))

variable {piece line : String} {pieces : List String}

theorem WholeLines.cut (h : WholeLines (piece :: pieces)) :
    EndsLine piece.toList ∨ BeginsLine (String.join pieces).toList := by
  simpa using h 1 (by simp)

theorem WholeLines.tail (h : WholeLines (piece :: pieces)) : WholeLines pieces := by
  intro n hn
  rcases h (n + 1) (by simpa using hn) with h | h
  · refine .inl (EndsLine.of_append (a := piece.toList) ?_)
    simpa [String.join_cons] using h
  · exact .inr h

section Lines

variable (hline : Unbroken line.toList) (hne : line ≠ "")

include hline hne

/-- Pieces that are put together with line ends between them keep their lines. -/
theorem mem_outputLines_intercalate :
    line ∈ outputLines ("\r\n".intercalate pieces) ↔ ∃ piece ∈ pieces, line ∈ outputLines piece := by
  have hne' : line.toList ≠ [] := by simpa using hne
  induction pieces with
  | nil => simp [outputLines, outputLinesFrom]
  | cons piece pieces ih =>
    cases pieces with
    | nil => simp
    | cons next pieces =>
      have hbegins : BeginsLine ("\r\n" ++ "\r\n".intercalate (next :: pieces)).toList := by
        simp [BeginsLine, isLineBoundary]
      rw [String.intercalate_cons_cons, mem_outputLines_iff hline hne, String.append_assoc,
        String.toList_append, standsIn_append hline hne' (.inr hbegins), String.toList_append]
      change _ ∨ StandsIn _ ('\r' :: '\n' :: ("\r\n".intercalate (next :: pieces)).toList) ↔ _
      rw [standsIn_boundary_cons hline hne' rfl, standsIn_boundary_cons hline hne' rfl,
        ← mem_outputLines_iff hline hne, ← mem_outputLines_iff hline hne]
      simp only [ih, List.mem_cons, exists_eq_or_imp]

/-- **Pieces of whole lines have the lines of the text that they make up.** -/
theorem WholeLines.mem_outputLines_join (h : WholeLines pieces) :
    line ∈ outputLines (String.join pieces) ↔ ∃ piece ∈ pieces, line ∈ outputLines piece := by
  have hne' : line.toList ≠ [] := by simpa using hne
  induction pieces with
  | nil => simp [outputLines, outputLinesFrom]
  | cons piece pieces ih =>
    rw [String.join_cons, mem_outputLines_iff hline hne, String.toList_append,
      standsIn_append hline hne' h.cut, ← mem_outputLines_iff hline hne,
      ← mem_outputLines_iff hline hne]
    simp only [ih h.tail, List.mem_cons, exists_eq_or_imp]

end Lines

end SuiteExplorer.Text
