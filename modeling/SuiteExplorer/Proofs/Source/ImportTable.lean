/-
  SuiteExplorer/Proofs/Source/ImportTable.lean
  ============================================
  **How the lines of a file are cut into imports, blocks and other lines.**

  A file is cut from left to right.  A single import is a segment of its own; a line that
  opens a block is one together with all lines up to the first that closes it; any other
  line stands alone and names nothing, and so does an opening line with no closing one
  anywhere after it.  There is exactly one way to cut a file like this (`existsUnique_cut`),
  and reading the import table line by line, with one bit that says whether the line is
  within a block, gives just what the segments name (`scan_flatMap_lines`).
-/
import Mathlib.Logic.ExistsUnique
import SuiteExplorer.Proofs.Source.ImportLine

namespace SuiteExplorer.Imports

open Text

/-! ## 1. Segments -/

/-- The line is a single import, read like this. -/
def IsSingle (line : Line) (x : Spec) : Prop :=
  ∃ s : List Char, line = "import ".toList ++ s ∧ x.First s

/-- The line opens a block. -/
def IsOpening (line : Line) : Prop := ∃ e ∈ lineEnds, line = "import (".toList ++ e

/-- The line closes a block. -/
def IsClosing (line : Line) : Prop := ∃ e ∈ lineEnds, line = [')'] ++ e

/-- A line of a block, and the import that it names, if it does. -/
structure BlockLine where
  line : Line
  spec? : Option Spec

def BlockLine.Fits (l : BlockLine) : Prop :=
  ¬ IsClosing l.line ∧ ∀ x : Spec, l.spec? = some x ↔ x.First (l.line.dropWhile isBlank)

/-- A stretch of lines that are read together. -/
inductive Segment where
  | single (line : Line) (x : Spec)
  | block (opening : Line) (inner : List BlockLine) (closing : Line)
  | other (line : Line)

namespace Segment

def lines : Segment → List Line
  | single line _ => [line]
  | block opening inner closing => opening :: (inner.map (·.line) ++ [closing])
  | other line => [line]

/-- The segment is one when these lines follow. -/
def Fits (after : List Line) : Segment → Prop
  | single line x => IsSingle line x
  | block opening inner closing => IsOpening opening ∧ (∀ l ∈ inner, l.Fits) ∧ IsClosing closing
  | other line => (¬ ∃ x, IsSingle line x) ∧ ¬ (IsOpening line ∧ ∃ l ∈ after, IsClosing l)

/-- What the segment names, its first line having number `n`. -/
def imports (n : Nat) : Segment → List Import
  | single _ x => [x.entry n]
  | block _ inner _ => (inner.zipIdx (n + 1)).filterMap fun l => l.1.spec?.map (·.entry l.2)
  | other _ => []

end Segment

/-- Lines are cut into segments, each of which is one before those that follow. -/
def Cut : List Segment → Prop
  | [] => True
  | s :: rest => s.Fits (rest.flatMap Segment.lines) ∧ Cut rest

/-- What segments name, the first line having number `n`. -/
def named (n : Nat) : List Segment → List Import
  | [] => []
  | s :: rest => s.imports n ++ named (n + s.lines.length) rest

/-! ## 2. The forms of lines -/

section Forms

variable {n : Nat} {line : Line} {x : Spec}

theorem single?_eq_some_iff_isSingle {i : Import} :
    single? n line = some i ↔ ∃ x, IsSingle line x ∧ i = x.entry n := by
  rw [single?_eq_some_iff]
  constructor
  · rintro ⟨s, x, hline, hx, hi⟩
    exact ⟨x, ⟨s, hline, hx⟩, hi⟩
  · rintro ⟨x, ⟨s, hline, hx⟩, hi⟩
    exact ⟨s, x, hline, hx, hi⟩

theorem single?_eq_none_iff : single? n line = none ↔ ¬ ∃ x, IsSingle line x := by
  rw [Option.eq_none_iff_forall_ne_some]
  constructor
  · rintro h ⟨x, hx⟩
    exact h _ (single?_eq_some_iff_isSingle.mpr ⟨x, hx, rfl⟩)
  · intro h i hi
    obtain ⟨x, hx, -⟩ := single?_eq_some_iff_isSingle.mp hi
    exact h ⟨x, hx⟩

theorem single?_of_isSingle (h : IsSingle line x) : single? n line = some (x.entry n) :=
  single?_eq_some_iff_isSingle.mpr ⟨x, h, rfl⟩

theorem opens_iff_isOpening : opens line = true ↔ IsOpening line := opens_iff

theorem closes_iff_isClosing : closes line = true ↔ IsClosing line := closes_iff

theorem any_closes_iff {lines : List Line} :
    lines.any closes = true ↔ ∃ l ∈ lines, IsClosing l := by
  simp only [List.any_eq_true, closes_iff_isClosing]

theorem IsSingle.unique {y : Spec} (hx : IsSingle line x) (hy : IsSingle line y) : x = y := by
  obtain ⟨s, rfl, hx⟩ := hx
  obtain ⟨s', hcut, hy⟩ := hy
  obtain rfl := List.append_cancel_left hcut
  exact hx.unique hy

/-- What opens a block holds no quote, which an import has. -/
theorem IsOpening.not_isSingle (h : IsOpening line) : ¬ IsSingle line x := by
  rintro ⟨s, hline, ⟨-, e, -, hs⟩, -⟩
  have hquote : '"' ∈ line := by
    rw [hline, hs, Spec.text]
    simp
  obtain ⟨e, he, rfl⟩ := h
  rcases List.mem_append.mp hquote with hword | hend
  · exact absurd hword (by decide)
  · exact quote_not_mem_of_mem_lineEnds he hend

theorem IsOpening.not_isClosing (h : IsOpening line) : ¬ IsClosing line := by
  obtain ⟨e, -, rfl⟩ := h
  rintro ⟨e', -, heq⟩
  exact absurd (List.cons.inj heq).1 (by decide)

theorem memberOfBlock?_of_fits {l : BlockLine} (h : l.Fits) :
    memberOfBlock? n l.line = l.spec?.map (·.entry n) := by
  have hspec : spec? (l.line.dropWhile isBlank) = l.spec? :=
    Option.ext fun x => spec?_eq_some.trans (h.2 x).symm
  rw [memberOfBlock?_eq, hspec]

/-- Blank lines have none of the forms. -/
theorem forms_of_blank (h : ∀ c ∈ line, isBlank c = true) :
    single? n line = none ∧ opens line = false ∧ closes line = false := by
  have hnot : ∀ c, isBlank c = false → c ∉ line := by
    intro c hc hmem
    rw [h c hmem] at hc
    cases hc
  refine ⟨single?_eq_none_iff.mpr ?_, Bool.eq_false_iff.mpr ?_, Bool.eq_false_iff.mpr ?_⟩
  · rintro ⟨x, s, rfl, -⟩
    exact hnot 'i' (by decide) List.mem_cons_self
  · intro hopens
    obtain ⟨e, -, rfl⟩ := opens_iff.mp hopens
    exact hnot 'i' (by decide) List.mem_cons_self
  · intro hcloses
    obtain ⟨e, -, rfl⟩ := closes_iff.mp hcloses
    exact hnot ')' (by decide) List.mem_cons_self

end Forms

/-! ## 3. There is one way to cut a file -/

section Cutting

variable {lines : List Line}

/-- A line as one of a block. -/
def BlockLine.of (line : Line) : BlockLine := ⟨line, Imports.spec? (line.dropWhile isBlank)⟩

theorem BlockLine.fits_of {line : Line} (h : ¬ IsClosing line) : (BlockLine.of line).Fits :=
  ⟨h, fun _ => spec?_eq_some⟩

theorem BlockLine.Fits.eq_of {l : BlockLine} (h : l.Fits) : l = BlockLine.of l.line := by
  obtain ⟨line, spec⟩ := l
  have hspec : spec = Imports.spec? (line.dropWhile isBlank) :=
    Option.ext fun x => (h.2 x).trans spec?_eq_some.symm
  rw [hspec]
  rfl

/-- Lines one of which closes a block, cut at the first that does. -/
theorem exists_first_closing (h : ∃ l ∈ lines, IsClosing l) :
    ∃ (inner : List BlockLine) (closing : Line) (after : List Line), (∀ l ∈ inner, l.Fits) ∧
      IsClosing closing ∧ lines = inner.map (·.line) ++ closing :: after := by
  induction lines with
  | nil =>
    obtain ⟨l, hl, -⟩ := h
    cases hl
  | cons line lines ih =>
    by_cases hline : IsClosing line
    · exact ⟨[], line, lines, List.forall_mem_nil _, hline, rfl⟩
    · have hlater : ∃ l ∈ lines, IsClosing l := by
        obtain ⟨l, hl, hcloses⟩ := h
        rcases List.mem_cons.mp hl with rfl | hl
        · exact absurd hcloses hline
        · exact ⟨l, hl, hcloses⟩
      obtain ⟨inner, closing, after, hinner, hclosing, rfl⟩ := ih hlater
      refine ⟨BlockLine.of line :: inner, closing, after, ?_, hclosing, rfl⟩
      exact List.forall_mem_cons.mpr ⟨BlockLine.fits_of hline, hinner⟩

theorem Segment.lines_block_append (opening : Line) (inner : List BlockLine) (closing : Line)
    (after : List Line) : (Segment.block opening inner closing).lines ++ after =
      opening :: (inner.map (·.line) ++ closing :: after) := by
  simp [Segment.lines]

theorem Segment.lines_other_append (line : Line) (after : List Line) :
    (Segment.other line).lines ++ after = line :: after := rfl

theorem exists_cut (lines : List Line) :
    ∃ segments, Cut segments ∧ segments.flatMap Segment.lines = lines := by
  match lines with
  | [] => exact ⟨[], trivial, rfl⟩
  | line :: lines =>
    by_cases hsingle : ∃ x, IsSingle line x
    · obtain ⟨x, hx⟩ := hsingle
      obtain ⟨segments, hcut, hlines⟩ := exists_cut lines
      exact ⟨.single line x :: segments, ⟨hx, hcut⟩, congrArg (line :: ·) hlines⟩
    · by_cases hblock : IsOpening line ∧ ∃ l ∈ lines, IsClosing l
      · obtain ⟨inner, closing, after, hinner, hclosing, hlines⟩ := exists_first_closing hblock.2
        have hshorter : after.length < (line :: lines).length := by
          simp only [hlines, List.length_cons, List.length_append]
          omega
        obtain ⟨segments, hcut, hafter⟩ := exists_cut after
        refine ⟨.block line inner closing :: segments, ⟨⟨hblock.1, hinner, hclosing⟩, hcut⟩, ?_⟩
        rw [List.flatMap_cons, hafter, Segment.lines_block_append, ← hlines]
      · obtain ⟨segments, hcut, hlines⟩ := exists_cut lines
        refine ⟨.other line :: segments, ⟨⟨hsingle, ?_⟩, hcut⟩, congrArg (line :: ·) hlines⟩
        rwa [hlines]
termination_by lines.length

/-- Two beginnings of the same lines that go up to the first closing line are the same. -/
theorem blockLines_unique {inner inner' : List BlockLine} {closing closing' : Line}
    {after after' : List Line} (hinner : ∀ l ∈ inner, l.Fits) (hinner' : ∀ l ∈ inner', l.Fits)
    (hclosing : IsClosing closing) (hclosing' : IsClosing closing')
    (h : inner.map (·.line) ++ closing :: after = inner'.map (·.line) ++ closing' :: after') :
    inner = inner' ∧ closing = closing' ∧ after = after' := by
  induction inner generalizing inner' with
  | nil =>
    cases inner' with
    | nil => exact ⟨rfl, (List.cons.inj h).1, (List.cons.inj h).2⟩
    | cons l inner' =>
      obtain ⟨rfl, -⟩ := List.cons.inj h
      exact absurd hclosing (hinner' l List.mem_cons_self).1
  | cons l inner ih =>
    cases inner' with
    | nil =>
      obtain ⟨rfl, -⟩ := List.cons.inj h
      exact absurd hclosing' (hinner l List.mem_cons_self).1
    | cons l' inner' =>
      obtain ⟨hline, hrest⟩ := List.cons.inj h
      obtain ⟨hl, hinner⟩ := List.forall_mem_cons.mp hinner
      obtain ⟨hl', hinner'⟩ := List.forall_mem_cons.mp hinner'
      obtain ⟨rfl, rfl, rfl⟩ := ih hinner hinner' hrest
      refine ⟨?_, rfl, rfl⟩
      rw [hl.eq_of, hl'.eq_of, show l.line = l'.line from hline]

theorem Cut.unique {segments others : List Segment} (h : Cut segments) (h' : Cut others)
    (heq : segments.flatMap Segment.lines = others.flatMap Segment.lines) : segments = others := by
  induction segments generalizing others with
  | nil =>
    cases others with
    | nil => rfl
    | cons s others => cases s <;> cases heq
  | cons s segments ih =>
    obtain ⟨hs, hcut⟩ := h
    cases others with
    | nil => cases s <;> cases heq
    | cons s' others =>
      obtain ⟨hs', hcut'⟩ := h'
      rw [List.flatMap_cons, List.flatMap_cons] at heq
      cases s with
      | single line x =>
        cases s' with
        | single line' x' =>
          obtain ⟨rfl, hrest⟩ := List.cons.inj heq
          rw [IsSingle.unique hs hs', ih hcut hcut' hrest]
        | block opening inner closing =>
          obtain ⟨rfl, -⟩ := List.cons.inj heq
          exact absurd hs hs'.1.not_isSingle
        | other line' =>
          obtain ⟨rfl, -⟩ := List.cons.inj heq
          exact absurd ⟨x, hs⟩ hs'.1
      | block opening inner closing =>
        cases s' with
        | single line' x' =>
          obtain ⟨rfl, -⟩ := List.cons.inj heq
          exact absurd hs' hs.1.not_isSingle
        | block opening' inner' closing' =>
          rw [Segment.lines_block_append, Segment.lines_block_append] at heq
          obtain ⟨rfl, hrest⟩ := List.cons.inj heq
          obtain ⟨rfl, rfl, hafter⟩ :=
            blockLines_unique hs.2.1 hs'.2.1 hs.2.2 hs'.2.2 hrest
          rw [ih hcut hcut' hafter]
        | other line' =>
          rw [Segment.lines_block_append, Segment.lines_other_append] at heq
          obtain ⟨rfl, hrest⟩ := List.cons.inj heq
          have hclosing : closing ∈ others.flatMap Segment.lines :=
            hrest ▸ List.mem_append_right _ List.mem_cons_self
          exact absurd ⟨hs.1, closing, hclosing, hs.2.2⟩ hs'.2
      | other line =>
        cases s' with
        | single line' x' =>
          obtain ⟨rfl, -⟩ := List.cons.inj heq
          exact absurd ⟨x', hs'⟩ hs.1
        | block opening inner closing =>
          rw [Segment.lines_block_append, Segment.lines_other_append] at heq
          obtain ⟨rfl, hrest⟩ := List.cons.inj heq
          have hclosing : closing ∈ segments.flatMap Segment.lines :=
            hrest ▸ List.mem_append_right _ List.mem_cons_self
          exact absurd ⟨hs'.1, closing, hclosing, hs'.2.2⟩ hs.2
        | other line' =>
          obtain ⟨rfl, hrest⟩ := List.cons.inj heq
          rw [ih hcut hcut' hrest]

/-- **There is exactly one way to cut lines into segments.** -/
theorem existsUnique_cut (lines : List Line) :
    ∃! segments, Cut segments ∧ segments.flatMap Segment.lines = lines := by
  obtain ⟨segments, hcut, hlines⟩ := exists_cut lines
  refine ⟨segments, ⟨hcut, hlines⟩, fun others ⟨hcut', hlines'⟩ => ?_⟩
  exact hcut'.unique hcut (hlines'.trans hlines.symm)

end Cutting

/-! ## 4. Reading line by line -/

section Scanning

variable {n : Nat} {line : Line} {lines : List Line}

/-- What the next line names. -/
def read? (inBlock : Bool) (n : Nat) (line : Line) : Option Import :=
  if inBlock then if closes line then none else memberOfBlock? n line else single? n line

/-- Whether the lines after it are within a block, `closed` telling if one is closed there. -/
def staysIn (inBlock : Bool) (line : Line) (closed : Bool) : Bool :=
  if inBlock then !closes line else opens line && closed

theorem scan_cons (inBlock : Bool) (n : Nat) (line : Line) (lines : List Line) :
    scan inBlock n (line :: lines) = (read? inBlock n line).toList ++
      scan (staysIn inBlock line (lines.any closes)) (n + 1) lines := by
  rw [scan, read?, staysIn]
  cases inBlock with
  | true => cases hcloses : closes line <;> simp
  | false =>
    cases hsingle : single? n line with
    | none => simp
    | some i =>
      have hopens : opens line = false := by
        rw [Bool.eq_false_iff]
        intro hopens
        obtain ⟨x, hx, -⟩ := single?_eq_some_iff_isSingle.mp hsingle
        exact (opens_iff_isOpening.mp hopens).not_isSingle hx
      simp [hopens]

/-- A block is read up to its closing line. -/
theorem scan_block (n : Nat) {inner : List BlockLine} {closing : Line}
    (hinner : ∀ l ∈ inner, l.Fits) (hclosing : IsClosing closing) (after : List Line) :
    scan true n (inner.map (·.line) ++ closing :: after) =
      ((inner.zipIdx n).filterMap fun l => l.1.spec?.map (·.entry l.2)) ++
        scan false (n + inner.length + 1) after := by
  induction inner generalizing n with
  | nil =>
    rw [List.map_nil, List.nil_append, scan, if_pos rfl, if_pos (closes_iff_isClosing.mpr hclosing)]
    rfl
  | cons l inner ih =>
    obtain ⟨hl, hinner⟩ := List.forall_mem_cons.mp hinner
    have hnot : closes l.line = false :=
      Bool.eq_false_iff.mpr fun h => hl.1 (closes_iff_isClosing.mp h)
    have hcount : n + (l :: inner).length + 1 = n + 1 + inner.length + 1 := by
      rw [List.length_cons]
      omega
    rw [List.map_cons, List.cons_append, scan, if_pos rfl, hnot, if_neg Bool.false_ne_true,
      memberOfBlock?_of_fits hl, ih (n + 1) hinner, List.zipIdx_cons, List.filterMap_cons, hcount]
    cases l.spec? <;> rfl

/-- **Reading the import table** gives what the segments name. -/
theorem scan_flatMap_lines {segments : List Segment} (h : Cut segments) (n : Nat) :
    scan false n (segments.flatMap Segment.lines) = named n segments := by
  induction segments generalizing n with
  | nil => rfl
  | cons s segments ih =>
    obtain ⟨hs, hcut⟩ := h
    rw [List.flatMap_cons, named]
    cases s with
    | single line x =>
      rw [Segment.lines, List.singleton_append, scan, if_neg Bool.false_ne_true,
        single?_of_isSingle hs, ih hcut]
      rfl
    | block opening inner closing =>
      obtain ⟨hopening, hinner, hclosing⟩ := hs
      have hany : (inner.map (·.line) ++ closing :: segments.flatMap Segment.lines).any closes =
          true := any_closes_iff.mpr ⟨closing, by simp, hclosing⟩
      have hcount : n + (Segment.block opening inner closing).lines.length =
          n + 1 + inner.length + 1 := by
        simp only [Segment.lines, List.length_cons, List.length_append, List.length_map,
          List.length_nil]
        omega
      rw [Segment.lines_block_append, scan, if_neg Bool.false_ne_true,
        single?_eq_none_iff.mpr fun ⟨x, hx⟩ => hopening.not_isSingle hx,
        opens_iff_isOpening.mpr hopening, hany]
      dsimp only
      rw [Bool.and_self, scan_block (n + 1) hinner hclosing, ih hcut, hcount]
      rfl
    | other line =>
      have hnot : (opens line && (segments.flatMap Segment.lines).any closes) = false := by
        refine Bool.eq_false_iff.mpr fun hboth => hs.2 ?_
        obtain ⟨hopens, hany⟩ := Bool.and_eq_true_iff.mp hboth
        exact ⟨opens_iff_isOpening.mp hopens, any_closes_iff.mp hany⟩
      rw [Segment.lines, List.singleton_append, scan, if_neg Bool.false_ne_true,
        single?_eq_none_iff.mpr hs.1]
      dsimp only
      rw [hnot, ih hcut]
      rfl

theorem line_of_single? {i : Import} (h : single? n line = some i) : i.line = n := by
  obtain ⟨x, -, rfl⟩ := single?_eq_some_iff_isSingle.mp h
  rfl

theorem line_of_memberOfBlock? {i : Import} (h : memberOfBlock? n line = some i) : i.line = n := by
  obtain ⟨x, -, rfl⟩ := memberOfBlock?_eq_some_iff.mp h
  rfl

theorem line_of_read? {inBlock : Bool} {i : Import} (h : read? inBlock n line = some i) :
    i.line = n := by
  rw [read?] at h
  split at h
  · split at h
    · cases h
    · exact line_of_memberOfBlock? h
  · exact line_of_single? h

/-- Imports stand on their lines, one a line. -/
theorem scan_lines (inBlock : Bool) (n : Nat) (lines : List Line) :
    (scan inBlock n lines).Pairwise (·.line < ·.line) ∧
      ∀ i ∈ scan inBlock n lines, n ≤ i.line ∧ i.line < n + lines.length := by
  induction lines generalizing inBlock n with
  | nil => exact ⟨List.Pairwise.nil, List.forall_mem_nil _⟩
  | cons line lines ih =>
    obtain ⟨hpairwise, hbounds⟩ := ih (staysIn inBlock line (lines.any closes)) (n + 1)
    have hfirst : ∀ i ∈ (read? inBlock n line).toList, i.line = n := by
      intro i hi
      exact line_of_read? (Option.mem_toList.mp hi)
    rw [scan_cons, List.length_cons]
    constructor
    · rw [List.pairwise_append]
      refine ⟨?_, hpairwise, fun i hi j hj => ?_⟩
      · cases read? inBlock n line with
        | none => exact List.Pairwise.nil
        | some i => exact List.pairwise_singleton _ _
      · rw [hfirst i hi]
        exact (hbounds j hj).1
    · intro i hi
      rcases List.mem_append.mp hi with hi | hi
      · rw [hfirst i hi]
        omega
      · have := hbounds i hi
        omega

/-! ### 4.1 Blocks that are never closed -/

theorem any_closes_set {k : Nat} {b : Line} (hk : lines[k]? = some line)
    (hline : closes line = false) (hb : closes b = false) :
    (lines.set k b).any closes = lines.any closes := by
  induction lines generalizing k with
  | nil => cases hk
  | cons l lines ih =>
    cases k with
    | zero =>
      obtain rfl : l = line := Option.some.inj hk
      rw [List.set_cons_zero, List.any_cons, List.any_cons, hline, hb]
    | succ k => rw [List.set_cons_succ, List.any_cons, List.any_cons, ih hk]

/-- A line that opens a block which is never closed is read like a blank line. -/
theorem scan_set {k : Nat} {b : Line} {inBlock : Bool} (n : Nat) (hk : lines[k]? = some line)
    (hopening : IsOpening line) (hnever : ∀ l ∈ lines.drop (k + 1), ¬ IsClosing l)
    (hb : ∀ c ∈ b, isBlank c = true) (hblock : inBlock = true → lines.any closes = true) :
    scan inBlock n (lines.set k b) = scan inBlock n lines := by
  have hnot : closes line = false :=
    Bool.eq_false_iff.mpr fun h => hopening.not_isClosing (closes_iff_isClosing.mp h)
  have hclosesBlank : closes b = false := (forms_of_blank (n := n) hb).2.2
  induction lines generalizing k n inBlock with
  | nil => cases hk
  | cons l lines ih =>
    cases k with
    | zero =>
      obtain rfl : l = line := Option.some.inj hk
      have hnone : lines.any closes = false :=
        Bool.eq_false_iff.mpr fun h => by
          obtain ⟨l, hl, hclosing⟩ := any_closes_iff.mp h
          exact hnever l hl hclosing
      cases inBlock with
      | true =>
        have hany := hblock rfl
        rw [List.any_cons, hnot, hnone] at hany
        cases hany
      | false =>
        obtain ⟨hsingle, hopens, -⟩ := forms_of_blank (n := n) hb
        have hnot : single? n l = none :=
          single?_eq_none_iff.mpr fun ⟨x, hx⟩ => hopening.not_isSingle hx
        simp [scan_cons, read?, staysIn, hsingle, hopens, hnot, hnone]
    | succ k =>
      have hblock' : staysIn inBlock l (lines.any closes) = true → lines.any closes = true := by
        intro hstays
        cases inBlock with
        | true =>
          have hopen : closes l = false := by simpa [staysIn] using hstays
          have hall := hblock rfl
          rwa [List.any_cons, hopen, Bool.false_or] at hall
        | false => exact (Bool.and_eq_true_iff.mp hstays).2
      have hany : (lines.set k b).any closes = lines.any closes :=
        any_closes_set hk hnot hclosesBlank
      rw [List.set_cons_succ, scan_cons, scan_cons, hany, ih (n + 1) hk hnever hblock']

end Scanning

/-- **The import table.**  From any line on, the rest of a file is cut into segments in exactly
    one way, and the imports are what the segments name.  So they stand on different lines, in
    order, none before the start and none behind the last line; and a line that opens a block
    which is never closed counts for no more than a blank one.  (A start that counts from the
    end is the case of the lines that `linesFrom?` gives, read from their first.) -/
theorem ofLines_segments (lines : List Line) (start : Nat) :
    (∃! segments, Cut segments ∧ segments.flatMap Segment.lines = lines.drop start) ∧
      (∀ segments, Cut segments → segments.flatMap Segment.lines = lines.drop start →
        ofLines lines start = named start segments) ∧
      (ofLines lines start).Pairwise (·.line < ·.line) ∧
      (∀ i ∈ ofLines lines start, start ≤ i.line ∧ i.line < lines.length) ∧
      ∀ (k : Nat) (line b : Line), lines[k]? = some line → IsOpening line →
        (∀ l ∈ lines.drop (k + 1), ¬ IsClosing l) → (∀ c ∈ b, isBlank c = true) →
        ofLines (lines.set k b) start = ofLines lines start := by
  obtain ⟨hpairwise, hbounds⟩ := scan_lines false start (lines.drop start)
  refine ⟨existsUnique_cut _, ?_, hpairwise, fun i hi => ?_, ?_⟩
  · intro segments hcut hlines
    rw [ofLines, ← hlines, scan_flatMap_lines hcut]
  · have hi' := hbounds i hi
    rw [List.length_drop] at hi'
    omega
  · intro k line b hk hopening hnever hb
    rw [ofLines, ofLines]
    by_cases hlt : k < start
    · rw [List.drop_set_of_lt hlt]
    · obtain ⟨j, rfl⟩ := Nat.exists_eq_add_of_le (Nat.le_of_not_lt hlt)
      have hj : (lines.drop start)[j]? = some line := by rwa [List.getElem?_drop]
      have hlater : ∀ l ∈ (lines.drop start).drop (j + 1), ¬ IsClosing l := by
        rwa [List.drop_drop, ← Nat.add_assoc]
      rw [List.drop_set, if_neg hlt, Nat.add_sub_cancel_left]
      exact scan_set start hj hopening hlater hb fun h => absurd h Bool.false_ne_true

/-- A single import, a block with an opening line in it, and an import behind an opening line that
    is never closed. -/
def sampleTable : List Line :=
  ["import \"a\"", "import (", "\tb \"m\"", "import (", ")", "import (", "import \"c\""].map
    String.toList

/-- The block is read and the lines behind the other opening line too. -/
theorem ofLines_segments_sampleTable :
    (∃ segments, Cut segments ∧ segments.flatMap Segment.lines = sampleTable.drop 0 ∧
        ofLines sampleTable 0 = named 0 segments) ∧
      (ofLines sampleTable 0).map (fun i => (i.modulePath, i.localName, i.line)) =
        [("a", none, 0), ("m", some "b", 2), ("c", none, 6)] ∧
      (∃ line, sampleTable[5]? = some line ∧ IsOpening line ∧
        ∀ l ∈ sampleTable.drop 6, ¬ IsClosing l) ∧
      ofLines (sampleTable.set 5 [' ']) 0 = ofLines sampleTable 0 := by
  obtain ⟨⟨segments, ⟨hcut, hlines⟩, -⟩, hnamed, -, -, hset⟩ := ofLines_segments sampleTable 0
  have hruns : (ofLines sampleTable 0).map (fun i => (i.modulePath, i.localName, i.line)) =
        [("a", none, 0), ("m", some "b", 2), ("c", none, 6)] ∧
      sampleTable[5]? = some "import (".toList ∧ (sampleTable.drop 6).any closes = false := by
    decide +kernel
  obtain ⟨hread, hline, hnone⟩ := hruns
  have hopening : IsOpening "import (".toList := ⟨[], by decide, rfl⟩
  have hnever : ∀ l ∈ sampleTable.drop 6, ¬ IsClosing l := by
    intro l hl hclosing
    rw [any_closes_iff.mpr ⟨l, hl, hclosing⟩] at hnone
    cases hnone
  have hblank : ∀ c ∈ [' '], isBlank c = true := List.forall_mem_singleton.mpr rfl
  refine ⟨⟨segments, hcut, hlines, hnamed segments hcut hlines⟩, hread,
    ⟨_, hline, hopening, hnever⟩, hset 5 _ [' '] hline hopening hnever hblank⟩

end SuiteExplorer.Imports
