/-
  SuiteExplorer/Proofs/Source/Positions.lean
  ==========================================
  **Where the things that a file is read for stand in its text.**

  The package clause is on the first line of its form.  Imports and declarations come after
  it, each on a line of its own, in the order of the lines.  A declaration covers the
  beginning of its line, up to where its signature ends, and what it covers is a signature
  in full: read alone it gives the same name, receiver and type of the argument
  (`ofText_positions`).
-/
import SuiteExplorer.Proofs.Path
import SuiteExplorer.Proofs.Source.Clause
import SuiteExplorer.Proofs.Source.ImportTable
import SuiteExplorer.Proofs.Source.Qualifiers
import SuiteExplorer.Proofs.Source.Signature

namespace SuiteExplorer

open Text

/-- Line numbers that only rise, all of them between two others. -/
def RisesBetween (low high : Nat) (numbers : List Nat) : Prop :=
  numbers.Pairwise (· < ·) ∧ ∀ n ∈ numbers, low < n ∧ n < high

instance (low high : Nat) (numbers : List Nat) : Decidable (RisesBetween low high numbers) :=
  inferInstanceAs (Decidable (_ ∧ _))

/-- The declaration covers the beginning of its line, and what it covers is a signature in
    full, which says the same when it is read alone. -/
def Declaration.CoversSignature (d : Declaration) (lines : List Line) : Prop :=
  ∃ line ∈ lines[d.line]?, ∃ k ≤ line.length, d.span = ⟨d.line, 0, d.line, k⟩ ∧
    (∃ x : Signature.Parts, x.OneLine ∧ line.take k = x.text) ∧
    ∃ s, Signature.ofLine? (line.take k) = some s ∧ s.width = k ∧ d.name = s.name ∧
      d.receiver = some s.receiver ∧ d.argument.map (·.name) = some s.argument

/-! ## 1. Declarations -/

namespace Declarations

variable {imports : List Import} {lines : List Line} {start : Nat} {d : Declaration}

/-- A file that is not ambiguous has what its signatures declare, any other one nothing. -/
theorem ofLines_eq_nil_or (imports : List Import) (lines : List Line) (start : Nat) :
    ofLines imports lines start = [] ∨ ofLines imports lines start =
      (qualified start (lines.drop start)).filterMap (declared? imports) := by
  by_cases h : ∀ f ∈ qualified start (lines.drop start), resolve imports f.2.2 ≠ .ambiguous
  · exact .inr (ofLines_eq_filterMap h)
  · left
    push Not at h
    obtain ⟨⟨n, s, q⟩, hf, hambiguous⟩ := h
    obtain ⟨hle, hbears⟩ := mem_qualified_drop.mp hf
    exact ofLines_eq_nil hle ⟨s, q, hbears, (resolve_eq_ambiguous hbears.ne_empty).mp hambiguous⟩

/-- A declaration is made of a signature that some line from the start on bears. -/
theorem exists_of_mem_ofLines (h : d ∈ ofLines imports lines start) :
    ∃ s q path, start ≤ d.line ∧ Bears lines d.line s q ∧ d = declare d.line s path := by
  rcases ofLines_eq_nil_or imports lines start with heq | heq
  · rw [heq] at h
    cases h
  · rw [heq, List.mem_filterMap] at h
    obtain ⟨⟨n, s, q⟩, hf, hd⟩ := h
    obtain ⟨path, -, rfl⟩ := declared?_eq_some.mp hd
    obtain ⟨hle, hbears⟩ := mem_qualified_drop.mp hf
    exact ⟨s, q, path, hle, hbears, rfl⟩

/-- Declarations stand on their lines, one a line. -/
theorem pairwise_ofLines (imports : List Import) (lines : List Line) (start : Nat) :
    (ofLines imports lines start).Pairwise (·.line < ·.line) := by
  rcases ofLines_eq_nil_or imports lines start with heq | heq
  · rw [heq]
    exact List.Pairwise.nil
  · rw [heq, List.pairwise_filterMap]
    refine (pairwise_qualified start (lines.drop start)).imp ?_
    intro f g hlt d hd e he
    rwa [line_of_declared? hd, line_of_declared? he]

theorem risesBetween_ofLines (imports : List Import) (lines : List Line) (n : Nat) :
    RisesBetween n lines.length ((ofLines imports lines (n + 1)).map (·.line)) := by
  constructor
  · exact List.pairwise_map.mpr (pairwise_ofLines imports lines (n + 1))
  · intro k hk
    obtain ⟨d, hd, rfl⟩ := List.mem_map.mp hk
    obtain ⟨s, q, path, hle, ⟨line, hline, -⟩, -⟩ := exists_of_mem_ofLines hd
    exact ⟨hle, (List.getElem?_eq_some_iff.mp hline).1⟩

/-- **What a declaration covers** is the signature that it was made of. -/
theorem coversSignature_of_mem (h : d ∈ ofLines imports lines start) :
    d.CoversSignature lines := by
  obtain ⟨s, q, path, -, ⟨line, hline, hs, -⟩, hd⟩ := exists_of_mem_ofLines h
  obtain ⟨x, hx, rfl⟩ := Signature.ofLine?_eq_some_iff.mp hs
  have hcovered : line.take x.signature.width = x.text :=
    (List.prefix_iff_eq_take.mp hx.1.2).symm
  refine ⟨line, hline, x.signature.width, hx.1.2.length_le, ?_, ⟨x, hx.1.1, hcovered⟩,
    x.signature, ?_, rfl, ?_, ?_, ?_⟩
  · rw [hd, declare]
  · rw [hcovered]
    exact Signature.ofLine?_eq_some_iff.mpr ⟨x, hx.alone, rfl⟩
  · rw [hd, declare]
  · rw [hd, declare]
  · rw [hd, declare, Option.map_some]

end Declarations

/-! ## 2. Imports -/

theorem Imports.risesBetween_ofLines (lines : List Line) (n : Nat) :
    RisesBetween n lines.length ((Imports.ofLines lines (n + 1)).map (·.line)) := by
  obtain ⟨hpairwise, hbounds⟩ := Imports.scan_lines false (n + 1) (lines.drop (n + 1))
  constructor
  · exact List.pairwise_map.mpr hpairwise
  · intro k hk
    obtain ⟨i, hi, rfl⟩ := List.mem_map.mp hk
    have hbetween := hbounds i hi
    rw [List.length_drop] at hbetween
    omega

/-! ## 3. Whole files -/

theorem newline_not_mem_splitLines (s : List Char) : ∀ line ∈ splitLines s, '\n' ∉ line :=
  not_mem_of_mem_cutAt s

/-- **Positions are sound.**  In any text that is read as a file, the package clause is on the
    first line of its form; imports and declarations are on rising lines between it and the end
    of the text; and each declaration covers its signature, from the first column of its line
    on. -/
theorem ofText_positions (text : String) (file : SourceFile)
    (h : SourceFile.ofText text = some file) :
    let lines := splitLines text.toList
    (∀ n < file.package.line, ∀ line ∈ lines[n]?, ¬ PackageClause.IsClause line) ∧
      (∃ line ∈ lines[file.package.line]?, PackageClause.Names file.package.name.toList line) ∧
      RisesBetween file.package.line lines.length (file.imports.map (·.line)) ∧
      RisesBetween file.package.line lines.length (file.declarations.map (·.line)) ∧
      ∀ d ∈ file.declarations, d.CoversSignature lines := by
  intro lines
  have hlines : ∀ line ∈ lines, '\n' ∉ line := newline_not_mem_splitLines text.toList
  obtain ⟨clause, hclause, rfl⟩ := Option.map_eq_some_iff.mp h
  obtain ⟨before, line, after, hcut, hcount, hbefore, hline⟩ :=
    PackageClause.firstFrom_eq_some hclause
  rw [Nat.zero_add] at hcount
  refine ⟨?_, ?_, Imports.risesBetween_ofLines _ _, Declarations.risesBetween_ofLines _ _ _, ?_⟩
  · intro n hn l hl hisClause
    dsimp only at hn
    rw [hcount] at hn
    have hmem : l ∈ before := by
      rw [Option.mem_def, show lines = before ++ line :: after from hcut,
        List.getElem?_append_left hn] at hl
      exact List.mem_of_getElem? hl
    have hread := (PackageClause.isSome_ofLine?_iff (n := n)
      (hlines l (List.mem_of_getElem? hl))).mpr hisClause
    rw [hbefore l hmem n] at hread
    cases hread
  · refine ⟨line, ?_, (PackageClause.ofLine?_eq_some hline).2⟩
    dsimp only
    rw [Option.mem_def, show lines = before ++ line :: after from hcut, hcount]
    simp
  · intro d hd
    exact Declarations.coversSignature_of_mem hd

/-- A line before the clause, an open block, a signature behind another one on its line, and a
    signature whose qualifier means nothing. -/
def scatteredText : String :=
  "// a package\npackage a\nimport \"gopkg.in/check.v1\"\nimport (\n" ++
  "func (s *S) TestOne(c *check.C) \x7bfunc (t T) TestTwo(c d.E) \x7b\n\n" ++
  "func (t T) TestThree(c d.E) \x7b\n\tfunc (t T) TestFour(c check.C) \x7b\n"

theorem ofText_positions_scatteredText :
    ∃ file, SourceFile.ofText scatteredText = some file ∧
      file.package = ⟨"a", 1⟩ ∧ file.imports.map (·.line) = [2] ∧
      file.declarations.map (·.span) = [⟨4, 0, 4, 33⟩] ∧
      RisesBetween 1 9 (file.imports.map (·.line)) ∧
      ∀ d ∈ file.declarations, d.CoversSignature (splitLines scatteredText.toList) := by
  have hread : ∃ file ∈ SourceFile.ofText scatteredText, file.package = ⟨"a", 1⟩ ∧
      file.imports.map (·.line) = [2] ∧ file.declarations.map (·.span) = [⟨4, 0, 4, 33⟩] ∧
      (splitLines scatteredText.toList).length = 9 := by
    decide +kernel
  obtain ⟨file, hfile, hpackage, himports, hspans, hlength⟩ := hread
  obtain ⟨-, -, hrises, -, hcovers⟩ := ofText_positions scatteredText file hfile
  rw [hpackage, hlength] at hrises
  exact ⟨file, hfile, hpackage, himports, hspans, hrises, hcovers⟩

end SuiteExplorer
