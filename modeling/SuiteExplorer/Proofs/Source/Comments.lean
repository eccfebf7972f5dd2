/-
  SuiteExplorer/Proofs/Source/Comments.lean
  =========================================
  **What a comment at the end of a line does to a file.**

  No form of a line knows comments.  A signature need not reach the end of its line, but a
  package clause and an import do.  So a comment behind a package clause becomes part of the
  name, and one behind an import takes the import away, unless the comment itself ends in a
  quote.  Nothing else changes: the package clause, the other imports and the blocks stay
  where they are, and the test methods are those that the file declares with the imports
  that are left (`ofText_comments`).
-/
import Mathlib.Data.List.TakeWhile
import SuiteExplorer.Proofs.Path
import SuiteExplorer.Proofs.Source.Clause
import SuiteExplorer.Proofs.Source.ImportTable
import SuiteExplorer.Proofs.Source.LineEnd

namespace SuiteExplorer

open Text

/-! ## 1. Texts with comments -/

namespace Comments

/-- What a line gets for a comment: a blank, the mark and the text of the comment. -/
def added (comment? : Option (List Char)) : List Char := comment?.elim [] (" //".toList ++ ·)

/-- Lines with comments, the first of which has number `n`. -/
def onLines (comments : Nat → Option (List Char)) : Nat → List Line → List Line
  | _, [] => []
  | n, line :: lines => (line ++ added (comments n)) :: onLines comments (n + 1) lines

/-- A text with comments behind some of its lines. -/
def onText (comments : Nat → Option (List Char)) (s : List Char) : List Char :=
  ['\n'].intercalate (onLines comments 0 (splitLines s))

/-- The comment ends in a quote, up to the end of its line. -/
def EndsInQuote (comment : List Char) : Prop :=
  ∃ t, ∃ e ∈ Imports.lineEnds, comment = t ++ '"' :: e

/-- The import is on a line that gets no comment. -/
def untouched (comments : Nat → Option (List Char)) (i : Import) : Bool :=
  (comments i.line).isNone

/-- What is left of some imports: those on lines without a comment.  What else is read is on a
    line with a comment that ends in a quote. -/
def Leave (comments : Nat → Option (List Char)) (imports left : List Import) : Prop :=
  left.filter (untouched comments) = imports.filter (untouched comments) ∧
    ∀ i ∈ left, ∀ c ∈ comments i.line, EndsInQuote c

/-- A file whose lines are these, beside what is read of it with comments. -/
structure Reread (comments : Nat → Option (List Char)) (lines : List Line)
    (file file' : SourceFile) : Prop where
  line : file'.package.line = file.package.line
  name : comments file.package.line = none → file'.package.name = file.package.name
  /-- The name goes on to the end of the comment. -/
  longer : ∀ c ∈ comments file.package.line, ∃ e ∈ Imports.lineEnds, ∃ e' ∈ Imports.lineEnds,
    file'.package.name.toList ++ e' = file.package.name.toList ++ (e ++ (" //".toList ++ c))
  imports : Leave comments file.imports file'.imports
  declarations : file'.declarations =
    Declarations.ofLines file'.imports lines (file.package.line + 1)
  /-- A comment behind the package clause alone changes its name and nothing else. -/
  unchanged : (∀ i ∈ file.imports, comments i.line = none) →
    file'.imports = file.imports ∧ file'.declarations = file.declarations

section Lines

variable {comments : Nat → Option (List Char)} {lines before : List Line} {n : Nat}

theorem onLines_append (n : Nat) (before lines : List Line) :
    onLines comments n (before ++ lines) =
      onLines comments n before ++ onLines comments (n + before.length) lines := by
  induction before generalizing n with
  | nil => simp [onLines]
  | cons line before ih =>
    simp only [List.cons_append, onLines, ih, List.length_cons]
    rw [show n + 1 + before.length = n + (before.length + 1) from by omega]

theorem onLines_eq_self (h : ∀ k < lines.length, comments (n + k) = none) :
    onLines comments n lines = lines := by
  induction lines generalizing n with
  | nil => rfl
  | cons line lines ih =>
    have hfirst : comments n = none := h 0 (Nat.succ_pos _)
    have hrest : ∀ k < lines.length, comments (n + 1 + k) = none := by
      intro k hk
      rw [Nat.add_assoc, Nat.add_comm 1 k]
      exact h (k + 1) (Nat.succ_lt_succ hk)
    rw [onLines, hfirst, ih hrest, added, Option.elim_none, List.append_nil]

theorem drop_onLines (n k : Nat) (lines : List Line) :
    (onLines comments n lines).drop k = onLines comments (n + k) (lines.drop k) := by
  induction k generalizing n lines with
  | zero => rfl
  | succ k ih =>
    cases lines with
    | nil => rfl
    | cons line lines =>
      rw [onLines, List.drop_succ_cons, List.drop_succ_cons, ih, Nat.add_assoc, Nat.add_comm 1]

theorem onLines_ne_nil (h : lines ≠ []) : onLines comments n lines ≠ [] := by
  cases lines with
  | nil => exact absurd rfl h
  | cons line lines => exact List.cons_ne_nil _ _

theorem newline_not_mem_onLines (hcomments : ∀ k, ∀ c ∈ comments k, '\n' ∉ c)
    (hlines : ∀ line ∈ lines, '\n' ∉ line) : ∀ line ∈ onLines comments n lines, '\n' ∉ line := by
  induction lines generalizing n with
  | nil => exact List.forall_mem_nil _
  | cons line lines ih =>
    obtain ⟨hline, hrest⟩ := List.forall_mem_cons.mp hlines
    refine List.forall_mem_cons.mpr ⟨?_, ih hrest⟩
    intro hmem
    rcases List.mem_append.mp hmem with hmem | hmem
    · exact hline hmem
    · cases hcomment : comments n with
      | none =>
        rw [hcomment] at hmem
        cases hmem
      | some c =>
        rw [hcomment, added, Option.elim_some] at hmem
        rcases List.mem_append.mp hmem with hmark | hmem
        · exact absurd hmark (by decide)
        · exact hcomments n c hcomment hmem

/-- Cut into lines, the text has the comments behind its lines. -/
theorem splitLines_onText (hcomments : ∀ k, ∀ c ∈ comments k, '\n' ∉ c) (s : List Char) :
    splitLines (onText comments s) = onLines comments 0 (splitLines s) :=
  cutAt_intercalate (onLines_ne_nil (splitLines_ne_nil s))
    (newline_not_mem_onLines hcomments (not_mem_of_mem_cutAt s))

/-- A signature on each line, with comments and without. -/
theorem qualified_onLines (h : ∀ k line, lines[k]? = some line →
      Signature.ofLine? (line ++ added (comments (n + k))) = Signature.ofLine? line) :
    Declarations.qualified n (onLines comments n lines) = Declarations.qualified n lines := by
  induction lines generalizing n with
  | nil => rfl
  | cons line lines ih =>
    have hfirst := h 0 line rfl
    have hrest := ih (n := n + 1) fun k l hl => by
      rw [Nat.add_assoc, Nat.add_comm 1 k]
      exact h (k + 1) l hl
    rw [Nat.add_zero] at hfirst
    rw [onLines, Declarations.qualified, Declarations.qualified, hfirst, hrest]

theorem Leave.append {imports imports' left left' : List Import}
    (h : Leave comments imports left) (h' : Leave comments imports' left') :
    Leave comments (imports ++ imports') (left ++ left') := by
  constructor
  · rw [List.filter_append, List.filter_append, h.1, h'.1]
  · exact List.forall_mem_append.mpr ⟨h.2, h'.2⟩

/-- Imports that have no comments on their lines are what is left of them. -/
theorem Leave.eq_of_untouched {imports left : List Import} (h : Leave comments imports left)
    (himports : ∀ i ∈ imports, comments i.line = none)
    (hleft : ∀ i ∈ left, comments i.line = none) : left = imports := by
  have hall : ∀ is : List Import, (∀ i ∈ is, comments i.line = none) →
      is.filter (untouched comments) = is := by
    intro is hnone
    rw [List.filter_eq_self]
    intro i hi
    simp [untouched, hnone i hi]
  have hsame := h.1
  rwa [hall left hleft, hall imports himports] at hsame

end Lines

end Comments

/-! ## 2. Lines that name an import -/

namespace Imports

open Comments

variable {n : Nat} {line : Line} {lines : List Line} {inBlock : Bool} {x : Spec}
  {comment : List Char}

/-- The line names this import, within a block or on its own. -/
def IsImport (line : Line) (x : Spec) : Prop :=
  ¬ IsClosing line ∧ (IsSingle line x ∨ x.First (line.dropWhile isBlank))

theorem Spec.quote_mem_text (x : Spec) : '"' ∈ x.text := by
  simp [text]

theorem IsImport.quote_mem (h : IsImport line x) : '"' ∈ line := by
  obtain ⟨-, ⟨s, rfl, ⟨-, e, -, hs⟩, -⟩ | ⟨⟨-, e, -, hs⟩, -⟩⟩ := h
  · rw [hs]
    exact List.mem_append_right _ (List.mem_append_left e x.quote_mem_text)
  · have hmem : '"' ∈ line.dropWhile isBlank := by
      rw [hs]
      exact List.mem_append_left e x.quote_mem_text
    exact (List.dropWhile_suffix _).subset hmem

/-- What holds a character of no line end and of no bracket neither opens nor closes a block. -/
theorem not_opens_closes_of_mem {c : Char} (hc : c = '"' ∨ c = '/') (h : c ∈ line) :
    opens line = false ∧ closes line = false := by
  have hword : ∀ word ∈ ["import (".toList, [')']], ∀ e ∈ lineEnds, line ≠ word ++ e := by
    rintro word hword e he rfl
    have hnone : ∀ word ∈ ["import (".toList, [')']], ∀ e ∈ lineEnds,
        '"' ∉ word ++ e ∧ '/' ∉ word ++ e := by decide
    obtain ⟨hquote, hslash⟩ := hnone word hword e he
    rcases hc with rfl | rfl
    · exact hquote h
    · exact hslash h
  constructor
  · rw [Bool.eq_false_iff]
    intro hopens
    obtain ⟨e, he, hline⟩ := opens_iff.mp hopens
    exact hword _ (by simp) e he hline
  · rw [Bool.eq_false_iff]
    intro hcloses
    obtain ⟨e, he, hline⟩ := closes_iff.mp hcloses
    exact hword _ (by simp) e he hline

/-- **An import ends in a quote**, so behind a slash it ends where the comment does. -/
theorem endsInQuote_of_spec? {s : List Char} (h : spec? (s ++ '/' :: comment) = some x) :
    EndsInQuote comment := by
  obtain ⟨⟨-, e, he, hs⟩, -⟩ := spec?_eq_some.mp h
  have hslash : '/' ∉ e := by
    have hall : ∀ e ∈ lineEnds, '/' ∉ e := by decide
    exact hall e he
  obtain ⟨u, hu⟩ := x.exists_text_eq
  rw [hu] at hs
  rcases List.append_eq_append_iff.mp hs with ⟨t, hquote, hrest⟩ | ⟨t, -, rfl⟩
  · cases t with
    | nil =>
      rw [List.nil_append] at hrest
      exact absurd (hrest ▸ List.mem_cons_self) hslash
    | cons d t =>
      obtain ⟨rfl, rfl⟩ := List.cons.inj hrest
      rcases List.eq_nil_or_concat t with rfl | ⟨t, d, rfl⟩
      · exact absurd (List.append_inj' hquote rfl).2 (by decide)
      · rw [List.concat_eq_append, ← List.cons_append, ← List.append_assoc] at hquote
        obtain ⟨rfl⟩ : ['"'] = [d] := (List.append_inj' hquote rfl).2
        exact ⟨t, e, he, by simp⟩
  · exact absurd (List.mem_append_right t List.mem_cons_self) hslash

/-- What a line with a comment is, the slashes of the comment being told apart. -/
theorem append_added (line comment : List Char) :
    line ++ added (some comment) = (line ++ " /".toList) ++ '/' :: comment := by
  rw [added, Option.elim_some, List.append_assoc]
  rfl

theorem endsInQuote_of_single? {i : Import} (hline : '"' ∈ line)
    (h : single? n (line ++ added (some comment)) = some i) : EndsInQuote comment := by
  have hword : "import ".toList <+: line := by
    obtain ⟨s, -, hs, -⟩ := single?_eq_some_iff.mp h
    rcases List.prefix_or_prefix_of_prefix ⟨s, hs.symm⟩ (List.prefix_append line _) with hp | hp
    · exact hp
    · exact absurd (hp.subset hline) (by decide)
  obtain ⟨s, rfl⟩ := hword
  rw [append_added, List.append_assoc, List.append_assoc, single?_append] at h
  obtain ⟨x, hx, -⟩ := Option.map_eq_some_iff.mp h
  rw [← List.append_assoc] at hx
  exact endsInQuote_of_spec? hx

theorem endsInQuote_of_memberOfBlock? {i : Import}
    (h : memberOfBlock? n (line ++ added (some comment)) = some i) : EndsInQuote comment := by
  rw [append_added, memberOfBlock?_eq] at h
  obtain ⟨x, hx, -⟩ := Option.map_eq_some_iff.mp h
  have hseen : ((line ++ " /".toList).dropWhile isBlank).isEmpty = false := by
    rw [List.isEmpty_eq_false_iff, ne_eq, List.dropWhile_eq_nil_iff]
    intro hblank
    have hslash := hblank '/' (List.mem_append_right _ (by decide))
    exact absurd hslash (by decide)
  rw [List.dropWhile_append, hseen, if_neg Bool.false_ne_true] at hx
  exact endsInQuote_of_spec? hx

/-- A line that names an import does not begin like a test method, whatever is added to it. -/
theorem IsImport.not_method (h : IsImport line x) (halias : ∀ v ∈ x.alias?, '(' ∉ v)
    (t : List Char) : Signature.ofLine? (line ++ t) = none := by
  have hword : ¬ "func (".toList <+: line ++ t := by
    intro hprefix
    obtain ⟨d, l, hd⟩ : ∃ d l, line = d :: l :=
      List.exists_cons_of_ne_nil (List.ne_nil_of_mem h.quote_mem)
    obtain rfl : 'f' = d := by
      rw [hd] at hprefix
      exact (List.cons_prefix_cons.mp hprefix).1
    obtain ⟨-, ⟨s, hs, -⟩ | ⟨⟨-, e, -, hs⟩, -⟩⟩ := h
    · rw [hd] at hs
      exact absurd (List.cons.inj hs).1 (by decide)
    · have hline : line.dropWhile isBlank = line := by
        rw [hd, List.dropWhile_cons_of_neg (by decide)]
      rw [hline] at hs
      cases hx : x.alias? with
      | none =>
        rw [hs, Spec.text, hx] at hd
        exact absurd (List.cons.inj hd).1 (by decide)
      | some v =>
        -- both the word and the alias with what follows it are where the line begins
        have hbegins : v ++ [' ', '"'] <+: line ++ t := by
          refine ⟨x.path ++ ['"'] ++ e ++ t, ?_⟩
          rw [hs, Spec.text, hx]
          simp
        rcases List.prefix_or_prefix_of_prefix hprefix hbegins with hp | hp
        · rcases List.mem_append.mp (hp.subset (a := '(') (by decide)) with hmem | hmem
          · exact halias v hx hmem
          · exact absurd hmem (by decide)
        · have hquote := hp.subset (List.mem_append_right v (by simp) : '"' ∈ v ++ [' ', '"'])
          exact absurd hquote (by decide)
  have htaken : LinePattern.taken? Signature.pattern (line ++ t) = none :=
    LinePattern.taken?_lit_eq_none hword
  rw [Signature.ofLine?, LinePattern.match?_eq, htaken]
  rfl

theorem not_mem_of_entry {c : Char} (h : ∀ a ∈ (x.entry n).localName, c ∉ a.toList) :
    ∀ v ∈ x.alias?, c ∉ v := by
  intro v hv
  cases hempty : v.isEmpty with
  | true =>
    rw [List.isEmpty_iff.mp hempty]
    exact List.not_mem_nil
  | false =>
    have hname : (x.entry n).localName = some (String.ofList v) := by
      rw [Spec.entry, entry, Option.mem_def.mp hv, Option.filter_some, hempty]
      rfl
    have hc := h _ hname
    rwa [String.toList_ofList] at hc

/-! ## 3. The table of imports -/

theorem exists_isImport_of_read? {i : Import} (h : read? inBlock n line = some i) :
    ∃ x, IsImport line x ∧ i = x.entry n := by
  rw [read?] at h
  split at h
  · split at h
    · cases h
    · next hcloses =>
      obtain ⟨x, hx, rfl⟩ := memberOfBlock?_eq_some_iff.mp h
      exact ⟨x, ⟨fun hclosing => hcloses (closes_iff_isClosing.mpr hclosing), .inr hx⟩, rfl⟩
  · obtain ⟨x, hx, rfl⟩ := single?_eq_some_iff_isSingle.mp h
    refine ⟨x, ⟨?_, .inl hx⟩, rfl⟩
    rintro ⟨e, -, hclosing⟩
    obtain ⟨s, hs, -⟩ := hx
    rw [hs] at hclosing
    exact absurd (List.cons.inj hclosing).1 (by decide)

/-- Each import of the table is named on its line. -/
theorem exists_isImport_of_mem_scan {i : Import} (h : i ∈ scan inBlock n lines) :
    ∃ k line x, i.line = n + k ∧ lines[k]? = some line ∧ IsImport line x ∧ i = x.entry i.line := by
  induction lines generalizing inBlock n with
  | nil => cases h
  | cons line lines ih =>
    rw [scan_cons, List.mem_append, Option.mem_toList] at h
    rcases h with hread | hmem
    · obtain ⟨x, hx, rfl⟩ := exists_isImport_of_read? hread
      exact ⟨0, line, x, rfl, rfl, hx, rfl⟩
    · obtain ⟨k, l, x, hk, hl, hx⟩ := ih hmem
      exact ⟨k + 1, l, x, by omega, hl, hx⟩

section Scanning

variable {comments : Nat → Option (List Char)}

/-- Every comment is behind a line that names an import. -/
def BehindImports (comments : Nat → Option (List Char)) (n : Nat) (lines : List Line) : Prop :=
  ∀ k line, lines[k]? = some line → (comments (n + k)).isSome → ∃ x, IsImport line x

theorem BehindImports.tail (h : BehindImports comments n (line :: lines)) :
    BehindImports comments (n + 1) lines := by
  intro k l hl hsome
  rw [Nat.add_assoc, Nat.add_comm 1 k] at hsome
  exact h (k + 1) l hl hsome

theorem BehindImports.head (h : BehindImports comments n (line :: lines))
    (hcomment : comments n = some comment) : ∃ x, IsImport line x :=
  h 0 line rfl (by rw [Nat.add_zero, hcomment]; rfl)

/-- With the comment or without it, such a line neither opens nor closes a block. -/
theorem IsImport.not_opens_closes (h : IsImport line x) (comment : List Char) :
    (opens line = false ∧ closes line = false) ∧
      (opens (line ++ added (some comment)) = false ∧
        closes (line ++ added (some comment)) = false) := by
  refine ⟨not_opens_closes_of_mem (.inl rfl) h.quote_mem, not_opens_closes_of_mem (.inr rfl) ?_⟩
  rw [append_added]
  exact List.mem_append_right _ List.mem_cons_self

theorem any_closes_onLines (h : BehindImports comments n lines) :
    (onLines comments n lines).any closes = lines.any closes := by
  induction lines generalizing n with
  | nil => rfl
  | cons line lines ih =>
    rw [onLines, List.any_cons, List.any_cons, ih h.tail]
    cases hcomment : comments n with
    | none => rw [added, Option.elim_none, List.append_nil]
    | some comment =>
      obtain ⟨x, hx⟩ := h.head hcomment
      obtain ⟨⟨-, hcloses⟩, -, hcloses'⟩ := hx.not_opens_closes comment
      rw [hcloses, hcloses']

/-- One line with its comment. -/
theorem leave_read? (h : ∀ comment, comments n = some comment → ∃ x, IsImport line x)
    (inBlock : Bool) :
    Leave comments (read? inBlock n line).toList
      (read? inBlock n (line ++ added (comments n))).toList := by
  cases hcomment : comments n with
  | none =>
    rw [added, Option.elim_none, List.append_nil]
    refine ⟨rfl, fun i hi c hc => ?_⟩
    rw [line_of_read? (Option.mem_toList.mp hi), hcomment] at hc
    cases hc
  | some comment =>
    have htouched : ∀ l, (read? inBlock n l).toList.filter (untouched comments) = [] := by
      intro l
      rw [List.filter_eq_nil_iff]
      intro i hi
      rw [untouched, line_of_read? (Option.mem_toList.mp hi), hcomment]
      exact Bool.false_ne_true
    refine ⟨(htouched _).trans (htouched _).symm, fun i hi c hc => ?_⟩
    rw [Option.mem_toList] at hi
    rw [line_of_read? hi, hcomment] at hc
    obtain rfl := Option.some.inj hc
    obtain ⟨x, hx⟩ := h comment hcomment
    rw [read?] at hi
    split at hi
    · split at hi
      · cases hi
      · exact endsInQuote_of_memberOfBlock? hi
    · exact endsInQuote_of_single? hx.quote_mem hi

/-- **Behind imports, comments take the imports on their lines away** and leave all others. -/
theorem leave_scan (inBlock : Bool) (h : BehindImports comments n lines) :
    Leave comments (scan inBlock n lines) (scan inBlock n (onLines comments n lines)) := by
  induction lines generalizing inBlock n with
  | nil => exact ⟨rfl, List.forall_mem_nil _⟩
  | cons line lines ih =>
    have hstays : staysIn inBlock (line ++ added (comments n)) (lines.any closes) =
        staysIn inBlock line (lines.any closes) := by
      cases hcomment : comments n with
      | none => rw [added, Option.elim_none, List.append_nil]
      | some comment =>
        obtain ⟨x, hx⟩ := h.head hcomment
        obtain ⟨⟨hopens, hcloses⟩, hopens', hcloses'⟩ := hx.not_opens_closes comment
        rw [staysIn, staysIn, hopens, hopens', hcloses, hcloses']
    rw [onLines, scan_cons, scan_cons, any_closes_onLines h.tail, hstays]
    exact (leave_read? (fun _ => h.head) inBlock).append (ih _ h.tail)

end Scanning

end Imports

/-! ## 4. The package clause -/

/-- Behind a package clause, a comment becomes part of the name. -/
theorem PackageClause.exists_longer {n : Nat} {line : Line} {clause : PackageClause}
    {comment : List Char} (h : ofLine? n line = some clause) (hline : '\n' ∉ line)
    (hcomment : '\n' ∉ comment) :
    ∃ clause', ofLine? n (line ++ Comments.added (some comment)) = some clause' ∧
      ∃ e ∈ Imports.lineEnds, ∃ e' ∈ Imports.lineEnds,
        clause'.name.toList ++ e' = clause.name.toList ++ (e ++ (" //".toList ++ comment)) := by
  obtain ⟨-, hne, e, he, hclause⟩ := ofLine?_eq_some h
  have hlonger : line ++ Comments.added (some comment) =
      "package ".toList ++ (clause.name.toList ++ (e ++ (" //".toList ++ comment))) := by
    rw [Comments.added, Option.elim_some, hclause, List.append_assoc, List.append_assoc]
  have hisClause : IsClause (line ++ Comments.added (some comment)) :=
    ⟨_, List.append_ne_nil_of_left_ne_nil hne _, hlonger⟩
  have hfeed : '\n' ∉ line ++ Comments.added (some comment) := by
    rw [Comments.added, Option.elim_some, List.mem_append, List.mem_append]
    rintro (hmem | hmem | hmem)
    · exact hline hmem
    · exact absurd hmem (by decide)
    · exact hcomment hmem
  obtain ⟨clause', hread⟩ :=
    Option.isSome_iff_exists.mp ((isSome_ofLine?_iff (n := n) hfeed).mpr hisClause)
  obtain ⟨-, -, e', he', hclause'⟩ := ofLine?_eq_some hread
  rw [hlonger] at hclause'
  exact ⟨clause', hread, e, he, e', he', (List.append_cancel_left hclause').symm⟩

/-- The clause of a file with comments from the clause on. -/
theorem PackageClause.exists_ofLines_onLines {lines : List Line} {clause : PackageClause}
    {comments : Nat → Option (List Char)} (h : ofLines lines = some clause)
    (hfeed : ∀ line ∈ lines, '\n' ∉ line) (hcomments : ∀ n, ∀ c ∈ comments n, '\n' ∉ c)
    (hbefore : ∀ n < clause.line, comments n = none) :
    ∃ clause', ofLines (Comments.onLines comments 0 lines) = some clause' ∧
      clause'.line = clause.line ∧ (comments clause.line = none → clause'.name = clause.name) ∧
      ∀ c ∈ comments clause.line, ∃ e ∈ Imports.lineEnds, ∃ e' ∈ Imports.lineEnds,
        clause'.name.toList ++ e' = clause.name.toList ++ (e ++ (" //".toList ++ c)) := by
  obtain ⟨before, line, after, rfl, hcount, hpassed, hread⟩ := firstFrom_eq_some h
  rw [Nat.zero_add] at hcount
  have hplain : Comments.onLines comments 0 before = before := by
    apply Comments.onLines_eq_self
    intro k hk
    rw [Nat.zero_add]
    exact hbefore k (hcount ▸ hk)
  rw [ofLines, Comments.onLines_append, hplain, firstFrom_append hpassed, Comments.onLines,
    Nat.zero_add, ← hcount, firstFrom]
  cases hcomment : comments clause.line with
  | none =>
    refine ⟨clause, ?_, rfl, fun _ => rfl, fun c hc => absurd hc (Option.not_mem_none c)⟩
    simp [Comments.added, hread]
  | some comment =>
    obtain ⟨clause', hread', hlonger⟩ :=
      exists_longer hread (hfeed line (by simp)) (hcomments _ comment hcomment)
    refine ⟨clause', by rw [hread'], (ofLine?_eq_some hread').1, ?_, ?_⟩
    · intro hnone
      cases hnone
    · rintro _ ⟨⟩
      exact hlonger

/-! ## 5. Whole files -/

section Files

open Comments

variable {comments : Nat → Option (List Char)} {lines : List Line} {n : Nat}

/-- Comments from a line on that are behind imports without a bracket in their aliases. -/
def BehindPlainImports (comments : Nat → Option (List Char)) (n : Nat) (lines : List Line) : Prop :=
  ∀ k line, lines[k]? = some line → (comments (n + k)).isSome →
    ∃ x, Imports.IsImport line x ∧ ∀ v ∈ x.alias?, '(' ∉ v

theorem behindPlainImports_of_ofLines
    (halias : ∀ i ∈ Imports.ofLines lines n, ∀ a ∈ i.localName, '(' ∉ a.toList)
    (hplace : ∀ k, n ≤ k → (comments k).isSome → ∃ i ∈ Imports.ofLines lines n, i.line = k) :
    BehindPlainImports comments n (lines.drop n) := by
  intro k line hline hsome
  obtain ⟨i, hi, hk⟩ := hplace (n + k) (Nat.le_add_right n k) hsome
  obtain ⟨j, l, x, hj, hl, hx, hentry⟩ := Imports.exists_isImport_of_mem_scan hi
  obtain rfl : j = k := by omega
  obtain rfl : l = line := Option.some.inj (hl.symm.trans hline)
  exact ⟨x, hx, Imports.not_mem_of_entry (hentry ▸ halias i hi)⟩

theorem leave_ofLines (h : BehindPlainImports comments n (lines.drop n)) :
    Leave comments (Imports.ofLines lines n) (Imports.ofLines (onLines comments 0 lines) n) := by
  rw [Imports.ofLines, Imports.ofLines, drop_onLines, Nat.zero_add]
  apply Imports.leave_scan
  intro k line hline hsome
  obtain ⟨x, hx, -⟩ := h k line hline hsome
  exact ⟨x, hx⟩

/-- Comments behind imports declare no test method, and there was none. -/
theorem declarations_onLines (h : BehindPlainImports comments n (lines.drop n))
    (imports : List Import) :
    Declarations.ofLines imports (onLines comments 0 lines) n =
      Declarations.ofLines imports lines n := by
  have hqualified : Declarations.qualified n (onLines comments n (lines.drop n)) =
      Declarations.qualified n (lines.drop n) := by
    apply qualified_onLines
    intro k line hline
    cases hcomment : comments (n + k) with
    | none => simp [added]
    | some comment =>
      obtain ⟨x, hx, hbracket⟩ := h k line hline (by simp [hcomment])
      have halone := hx.not_method hbracket []
      rw [List.append_nil] at halone
      rw [hx.not_method hbracket, halone]
  rw [Declarations.ofLines, Declarations.ofLines, drop_onLines, Nat.zero_add, hqualified]

/-- **What comments do to a file.**  In a text that is read as a file whose aliases hold no
    bracket, let a blank and a comment, with anything at all in it, be added to any of the lines
    with the package clause and the imports.  Then a comment behind the clause is part of the
    package name; the imports on lines with comments are gone, but for what a comment that ends
    in a quote makes of them; the other imports are the same, on the same lines; and the test
    methods are those that the lines of the text declare with the imports that are left. -/
theorem ofText_comments (text : String) (file : SourceFile) (comments : Nat → Option (List Char))
    (h : SourceFile.ofText text = some file)
    (halias : ∀ i ∈ file.imports, ∀ a ∈ i.localName, '(' ∉ a.toList)
    (hplace : ∀ n, (comments n).isSome → n = file.package.line ∨ ∃ i ∈ file.imports, i.line = n)
    (hcomments : ∀ n, ∀ c ∈ comments n, '\n' ∉ c) :
    ∃ file', SourceFile.ofText (String.ofList (onText comments text.toList)) = some file' ∧
      Reread comments (splitLines text.toList) file file' := by
  obtain ⟨clause, hclause, rfl⟩ := Option.map_eq_some_iff.mp h
  dsimp only at halias hplace ⊢
  have hafter : ∀ lines, ∀ i ∈ Imports.ofLines lines (clause.line + 1), clause.line < i.line :=
    fun lines i hi => ((Imports.scan_lines false _ _).2 i hi).1
  have hbefore : ∀ n < clause.line, comments n = none := by
    intro n hn
    rw [← Option.not_isSome_iff_eq_none]
    intro hsome
    rcases hplace n hsome with heq | ⟨i, hi, hline⟩
    · omega
    · have := hafter _ i hi
      omega
  have hbehind : BehindPlainImports comments (clause.line + 1)
      ((splitLines text.toList).drop (clause.line + 1)) := by
    apply behindPlainImports_of_ofLines halias
    intro k hk hsome
    rcases hplace k hsome with heq | himport
    · omega
    · exact himport
  obtain ⟨clause', hread, hline, hname, hlonger⟩ := PackageClause.exists_ofLines_onLines hclause
    (not_mem_of_mem_cutAt text.toList) hcomments hbefore
  have hleave := leave_ofLines hbehind
  refine ⟨⟨clause', Imports.ofLines (onLines comments 0 (splitLines text.toList)) (clause.line + 1),
    Declarations.ofLines (Imports.ofLines (onLines comments 0 (splitLines text.toList))
      (clause.line + 1)) (splitLines text.toList) (clause.line + 1)⟩, ?_, ?_⟩
  · rw [SourceFile.ofText, String.toList_ofList, splitLines_onText hcomments, SourceFile.ofLines,
      hread, Option.map_some]
    dsimp only
    rw [hline, declarations_onLines hbehind]
  · refine ⟨hline, hname, hlonger, hleave, rfl, fun hnone => ?_⟩
    have hsame := hleave.eq_of_untouched hnone fun i hi => by
      rw [← Option.not_isSome_iff_eq_none]
      intro hsome
      rcases hplace _ hsome with heq | ⟨j, hj, hjline⟩
      · exact absurd (hafter _ i hi) (by omega)
      · rw [← hjline, hnone j hj] at hsome
        cases hsome
    exact ⟨hsame, congrArg (Declarations.ofLines · _ _) hsame⟩

/-- A block with a library in it under an alias, a single import, and a test of the library. -/
def plainText : String :=
  "package p\nimport (\n\tgc \"gopkg.in/check.v1\"\n)\nimport \"fmt\"\n" ++
  "func (s *Suite) TestX(c *gc.C) \x7b\n\x7d\n"

/-- One comment behind all of some lines. -/
def commentsOn (numbers : List Nat) (comment : String) (n : Nat) : Option (List Char) :=
  if n ∈ numbers then some comment.toList else none

theorem ofText_comments_plainText :
    ∃ file file', SourceFile.ofText plainText = some file ∧
      SourceFile.ofText (String.ofList (onText (commentsOn [0, 4] " \"no\" (c)") plainText.toList)) =
        some file' ∧
      Reread (commentsOn [0, 4] " \"no\" (c)") (splitLines plainText.toList) file file' ∧
      file.imports.map (·.line) = [2, 4] ∧ file.declarations.map (·.name) = ["TestX"] := by
  have hread : ∃ file ∈ SourceFile.ofText plainText, file.package.line = 0 ∧
      (∀ i ∈ file.imports, ∀ a ∈ i.localName, '(' ∉ a.toList) ∧
      file.imports.map (·.line) = [2, 4] ∧ file.declarations.map (·.name) = ["TestX"] := by
    decide +kernel
  obtain ⟨file, hfile, hline, halias, himports, hdeclarations⟩ := hread
  obtain ⟨file', hfile', hreread⟩ :=
    ofText_comments plainText file (commentsOn [0, 4] " \"no\" (c)") hfile halias
      (by
        intro n hsome
        have hmem : n ∈ [0, 4] := by
          by_contra hnot
          rw [commentsOn, if_neg hnot] at hsome
          cases hsome
        rcases List.mem_cons.mp hmem with rfl | hmem
        · exact .inl hline.symm
        · obtain rfl := List.mem_singleton.mp hmem
          exact .inr (List.mem_map.mp (himports ▸ by decide)))
      (by
        intro n c hc
        rw [commentsOn] at hc
        split at hc
        · obtain rfl := Option.some.inj hc
          decide
        · cases hc)
  exact ⟨file, file', hfile, hfile', hreread, himports, hdeclarations⟩

/-- Two comments, and the package has another name and the test is no longer one. -/
theorem comments_change_plainText :
    ∃ file file', SourceFile.ofText plainText = some file ∧
      SourceFile.ofText (String.ofList (onText (commentsOn [0, 2] " c") plainText.toList)) =
        some file' ∧
      (file.package.name = "p" ∧ file'.package.name = "p // c") ∧
      (file.imports.map (·.modulePath) = ["gopkg.in/check.v1", "fmt"] ∧
        file'.imports.map (·.modulePath) = ["fmt"]) ∧
      file.declarations.map (·.name) = ["TestX"] ∧ file'.declarations = [] := by
  have hruns : ∃ file ∈ SourceFile.ofText plainText,
      ∃ file' ∈ SourceFile.ofText
        (String.ofList (onText (commentsOn [0, 2] " c") plainText.toList)),
      (file.package.name = "p" ∧ file'.package.name = "p // c") ∧
      (file.imports.map (·.modulePath) = ["gopkg.in/check.v1", "fmt"] ∧
        file'.imports.map (·.modulePath) = ["fmt"]) ∧
      file.declarations.map (·.name) = ["TestX"] ∧ file'.declarations = [] := by
    decide +kernel
  obtain ⟨file, hfile, file', hfile', hchanges⟩ := hruns
  exact ⟨file, file', hfile, hfile', hchanges⟩

end Files

end SuiteExplorer
