/-
  SuiteExplorer/Proofs/Source/Clause.lean
  =======================================
  **What a package clause is, and which one a file has.**

  A line is a package clause if the word, one blank and anything at all stand on it.  The
  name goes to the end of the line, but for a carriage return that ends it; if there is
  nothing but a carriage return, that is the name.  The clause of a file is on the first
  line of this form.
-/
import SuiteExplorer.Proofs.Source.ImportLine
import SuiteExplorer.Source.File

namespace SuiteExplorer.PackageClause

open Text LinePattern

/-- The line is a package clause: there is something after the word and a blank. -/
def IsClause (line : Line) : Prop := ∃ u, u ≠ [] ∧ line = "package ".toList ++ u

/-- The line is a package clause with this name. -/
def Names (name : List Char) (line : Line) : Prop :=
  name ≠ [] ∧ ∃ e ∈ Imports.lineEnds, line = "package ".toList ++ (name ++ e)

variable {line : Line} {rest : List Char} {reading : Reading} {n : Nat} {clause : PackageClause}

/-! ## 1. One line -/

theorem reads_pattern :
    Reads pattern line reading rest ↔
      ∃ (name : List Char) (returns : Bool), name ≠ [] ∧ '\n' ∉ name ∧ (rest = [] ∨ rest = ['\n']) ∧
        line = "package ".toList ++ (name ++ ((if returns then ['\r'] else []) ++ rest)) ∧
        reading = [some name.length, some (if returns then 1 else 0)] := by
  constructor
  · intro h
    obtain ⟨_, rfl, hname⟩ := reads_lit.mp h
    obtain ⟨name, _, _, hne, hline, rfl, rfl, hend⟩ := reads_fewSome.mp hname
    obtain ⟨returns, hrest, rfl, rfl⟩ := reads_lineEnd.mp hend
    exact ⟨name, returns, hne, hline, hrest, rfl, rfl⟩
  · rintro ⟨name, returns, hne, hline, hrest, rfl, rfl⟩
    refine reads_lit.mpr ⟨_, rfl, reads_fewSome.mpr ⟨name, _, _, hne, hline, rfl, rfl, ?_⟩⟩
    exact reads_lineEnd.mpr ⟨returns, hrest, rfl, rfl⟩

/-- What is read of a line is a name that stands on it. -/
theorem ofLine?_of_first (h : first pattern line = some reading) :
    ∃ name, Names name line ∧ ∀ n, ofLine? n line = some ⟨String.ofList name, n⟩ := by
  obtain ⟨rest, hreads⟩ := Reads.of_first h
  obtain ⟨name, returns, hne, -, hrest, rfl, rfl⟩ := reads_pattern.mp hreads
  refine ⟨name, ⟨hne, _, Imports.append_mem_lineEnds hrest, rfl⟩, fun n => ?_⟩
  rw [ofLine?, match?_eq, taken?, h]
  simp only [Option.map_some, Option.bind_some, pattern, texts, List.drop_left, List.take_left]

theorem ofLine?_eq_some (h : ofLine? n line = some clause) :
    clause.line = n ∧ Names clause.name.toList line := by
  cases hfirst : first pattern line with
  | none =>
    rw [ofLine?, match?_eq, taken?, hfirst] at h
    cases h
  | some reading =>
    obtain ⟨name, hname, hread⟩ := ofLine?_of_first hfirst
    rw [hread n, Option.some.injEq] at h
    subst h
    simpa using hname

/-- Which line it is does not matter to what is read. -/
theorem ofLine?_eq_none (h : ofLine? n line = none) (k : Nat) : ofLine? k line = none := by
  cases hfirst : first pattern line with
  | none => simp [ofLine?, match?_eq, taken?, hfirst]
  | some reading =>
    obtain ⟨name, -, hread⟩ := ofLine?_of_first hfirst
    rw [hread n] at h
    cases h

theorem Names.isClause {name : List Char} (h : Names name line) : IsClause line := by
  obtain ⟨hne, e, -, hline⟩ := h
  exact ⟨name ++ e, List.append_ne_nil_of_left_ne_nil hne e, hline⟩

/-- **A package clause is read on exactly the lines of this form.** -/
theorem isSome_ofLine?_iff (hline : '\n' ∉ line) : (ofLine? n line).isSome ↔ IsClause line := by
  constructor
  · intro h
    obtain ⟨clause, hclause⟩ := Option.isSome_iff_exists.mp h
    exact (ofLine?_eq_some hclause).2.isClause
  · rintro ⟨u, hne, rfl⟩
    have hreads : Reads pattern ("package ".toList ++ u) [some u.length, some 0] [] := by
      refine reads_pattern.mpr ⟨u, false, hne, ?_, .inl rfl, ?_, rfl⟩
      · exact fun hmem => hline (List.mem_append_right _ hmem)
      · simp
    obtain ⟨reading, hfirst, -⟩ := hreads.first_le
    obtain ⟨name, -, hread⟩ := ofLine?_of_first hfirst
    rw [hread n]
    rfl

/-! ## 2. The clause of a file -/

/-- **The first package clause**, with what stands before it and after it. -/
theorem firstFrom_eq_some {lines : List Line} (h : firstFrom n lines = some clause) :
    ∃ before line after, lines = before ++ line :: after ∧ clause.line = n + before.length ∧
      (∀ l ∈ before, ∀ k, ofLine? k l = none) ∧ ofLine? clause.line line = some clause := by
  induction lines generalizing n with
  | nil => cases h
  | cons line lines ih =>
    rw [firstFrom] at h
    cases hline : ofLine? n line with
    | some found =>
      rw [hline, Option.some.injEq] at h
      subst h
      have hn : found.line = n := (ofLine?_eq_some hline).1
      exact ⟨[], line, lines, rfl, hn, List.forall_mem_nil _, hn ▸ hline⟩
    | none =>
      rw [hline] at h
      obtain ⟨before, l, after, rfl, hcount, hbefore, hl⟩ := ih h
      refine ⟨line :: before, l, after, rfl, ?_, ?_, hl⟩
      · rw [hcount, List.length_cons]
        omega
      · exact List.forall_mem_cons.mpr ⟨ofLine?_eq_none hline, hbefore⟩

/-- Lines that are no clauses are passed over. -/
theorem firstFrom_append {before : List Line} (h : ∀ l ∈ before, ∀ k, ofLine? k l = none)
    (lines : List Line) : firstFrom n (before ++ lines) = firstFrom (n + before.length) lines := by
  induction before generalizing n with
  | nil => rfl
  | cons l before ih =>
    obtain ⟨hl, hbefore⟩ := List.forall_mem_cons.mp h
    rw [List.cons_append, firstFrom, hl n, ih hbefore, List.length_cons, Nat.add_assoc,
      Nat.add_comm 1]

end SuiteExplorer.PackageClause
