/-
  SuiteExplorer/Proofs/Watch/Filter.lean
  ======================================
  **A watch filter reports a part of what a listing finds.**

  A change that a filter accepts is one of a file that a listing of its root reaches
  (`listable_of_accepts`).  The converse holds for files below a root that does not
  itself lie in a directory that a listing never enters, with names that are not
  excluded by the settings, as long as the library which watches ignores nothing on
  its own (`accepts_iff_listed`): the filter looks at all names of a path, a listing
  only at the directories between root and file.
-/
import SuiteExplorer.Watch.Filter
import SuiteExplorer.Proofs.Files.Tree

namespace SuiteExplorer

/-! ## 1. Candidates -/

namespace Exclusion

theorem isCandidate_down {root : Path} {names extra : List String} :
    isCandidate (root.down names) (some root) extra = true ↔
      (root.down names).name.endsWith testFileEnding = true ∧
        dataDirectory ∉ (root.down names).names ∧ ignoresName (root.down names).name = false ∧
        ∀ n ∈ names.dropLast, prunes extra n = false := by
  unfold isCandidate
  rw [Option.bind_some, Path.below?_down]
  simp only [Bool.and_eq_true, Bool.not_eq_true', List.contains_eq_mem, decide_eq_false_iff_not,
    List.any_eq_false, Bool.not_eq_true, and_assoc]

/-- No path that leads up again is that of a candidate. -/
theorem not_above_of_isCandidate {root : Path} {names extra : List String} (hne : names ≠ [])
    (h : isCandidate (root.down names) (some root) extra = true) : ".." ∉ names := by
  obtain ⟨hending, -, -, hdirs⟩ := isCandidate_down.mp h
  intro habove
  -- neither a directory that is entered nor a test file is called `..`
  rw [← List.dropLast_concat_getLast hne, List.mem_append, List.mem_singleton] at habove
  rcases habove with habove | habove
  · exact absurd (hdirs _ habove) (by simp [prunes, ignoresName])
  · rw [Path.name_down hne, ← habove] at hending
    exact absurd hending (by decide)

end Exclusion

/-! ## 2. What a filter accepts -/

namespace Watch

open Text Exclusion

/-- The names of a path are what stands between its slashes. -/
theorem writtenNames_text {p : Path} (hp : p.Proper) (hne : p.names ≠ []) :
    writtenNames p.text = p.names.map String.toList := by
  have hdrop : ∀ k,
      (List.replicate k '/' ++ ['/'].intercalate (p.names.map String.toList)).dropWhile (· = '/') =
        ['/'].intercalate (p.names.map String.toList) := by
    intro k
    induction k with
    | zero =>
      rw [List.replicate_zero, List.nil_append]
      cases hs : ['/'].intercalate (p.names.map String.toList) with
      | nil => rfl
      | cons c s =>
        have hc : c ≠ '/' := Path.head_intercalate hp c (by rw [hs]; rfl)
        rw [List.dropWhile_cons, if_neg (by simpa using hc)]
    | succ k ih =>
      rw [List.replicate_succ, List.cons_append, List.dropWhile_cons, if_pos (by simp), ih]
  rw [writtenNames, Path.toList_text hne, hdrop]
  refine cutAt_intercalate (by simpa using hne) fun piece hpiece => ?_
  obtain ⟨n, hn, rfl⟩ := List.mem_map.mp hpiece
  exact (hp n hn).unsplit

/-- The filter of the library lets a path through that has no name of an ignored
    directory, nor ends in that of an ignored file. -/
theorem Ignored.passes_text {ignored : Ignored} {p : Path} (hp : p.Proper) (hne : p.names ≠ []) :
    ignored.passes p.text = true ↔
      (∀ n ∈ p.names, n ∉ ignored.directories) ∧ ignored.isScratch p.name = false := by
  have hlast : String.ofList (((p.names.map String.toList).getLast?).getD []) = p.name := by
    rw [List.getLast?_map, Path.name]
    cases p.names.getLast? with
    | none => rfl
    | some n => exact String.ofList_toList
  unfold passes
  simp only [writtenNames_text hp hne, hlast, Bool.and_eq_true, Bool.not_eq_true',
    List.any_eq_false, List.mem_map, forall_exists_index, and_imp,
    forall_apply_eq_imp_iff₂, String.ofList_toList, List.contains_eq_mem, decide_eq_true_eq]

namespace Filter

/-- The filter has the library let no path with this name through. -/
def Bars (f : Filter) (n : String) : Prop := n ∈ Exclusion.builtIn ∨ n ∈ f.extra

instance (f : Filter) (n : String) : Decidable (f.Bars n) :=
  inferInstanceAs (Decidable (_ ∨ _))

/-- The library lets the path through as long as it is told nothing further. -/
def Spares (f : Filter) (p : Path) : Prop :=
  (∀ n ∈ p.names, n ∉ f.ignored.directories) ∧ f.ignored.isScratch p.name = false

instance (f : Filter) (p : Path) : Decidable (f.Spares p) :=
  inferInstanceAs (Decidable (_ ∧ _))

/-- What a filter accepts a listing reaches. -/
theorem listable_of_accepts {f : Filter} {path : String}
    (h : f.accepts path) (hroot : Path.ofString path ≠ f.root) :
    ∃ names, Path.ofString path = f.root.down names ∧
      FileTree.Listable f.pattern f.extra names := by
  unfold accepts at h
  rw [Bool.and_eq_true] at h
  obtain ⟨-, h⟩ := h
  cases hbelow : (Path.ofString path).below? f.root with
  | none => rw [hbelow] at h; cases h
  | some names =>
    rw [hbelow] at h
    simp only [Bool.and_eq_true] at h
    obtain ⟨hincludes, hcandidate⟩ := h
    have hpath := Path.below?_eq_some hbelow
    have hne : names ≠ [] := by
      rintro rfl
      refine hroot (hpath.trans ?_)
      rw [Path.down, List.append_nil]
    rw [hpath] at hcandidate
    exact ⟨names, hpath, hne, not_above_of_isCandidate hne hcandidate, hincludes,
      (isCandidate_down.mp hcandidate).2.2.2⟩

theorem isPlain_text {f : Filter} {p : Path} (hp : p.Proper) (hne : p.names ≠ []) :
    f.isPlain p.text = true ↔ (∀ n ∈ p.names, ¬ f.Bars n) ∧ f.Spares p := by
  rw [isPlain, Ignored.passes_text hp hne, Spares, ← and_assoc]
  simp only [Ignored.adding, List.mem_append, not_or, Bars]
  refine and_congr_left fun _ => ?_
  constructor
  · intro h
    exact ⟨fun n hn => (h n hn).2, fun n hn => (h n hn).1⟩
  · rintro ⟨hbars, hignored⟩ n hn
    exact ⟨hignored n hn, hbars n hn⟩

/-- A directory that a listing enters is not barred. -/
theorem not_bars_of_prunes {f : Filter} {n : String} (h : prunes f.extra n = false) :
    ¬ f.Bars n := by
  simp only [prunes, Bool.or_eq_false_iff, List.contains_eq_mem, decide_eq_false_iff_not] at h
  obtain ⟨⟨hbuiltIn, hextra⟩, -⟩ := h
  rintro (hmem | hmem)
  · exact hbuiltIn hmem
  · exact hextra hmem

/-- The name of a test file is barred by the settings alone. -/
theorem bars_of_test {f : Filter} {n : String} (h : n.endsWith testFileEnding) :
    f.Bars n ↔ n ∈ f.extra := by
  have hno : ∀ m ∈ Exclusion.builtIn, m.endsWith testFileEnding = false := by decide +kernel
  constructor
  · rintro (hmem | hmem)
    · rw [hno n hmem] at h; cases h
    · exact hmem
  · exact fun hmem => Or.inr hmem

section Below

variable {f : Filter} {names : List String}

/-- Of the names in the path of a candidate, those above the root and its own alone can bar it. -/
theorem isPlain_text_down (hne : names ≠ []) (hproper : (f.root.down names).Proper)
    (hcandidate : isCandidate (f.root.down names) (some f.root) f.extra = true) :
    f.isPlain (f.root.down names).text = true ↔
      (∀ n ∈ f.root.names, ¬ f.Bars n) ∧ (f.root.down names).name ∉ f.extra ∧
        f.Spares (f.root.down names) := by
  obtain ⟨hending, -, -, hdirs⟩ := isCandidate_down.mp hcandidate
  have hsplit : (f.root.down names).names =
      f.root.names ++ (names.dropLast ++ [(f.root.down names).name]) := by
    rw [Path.name_down hne, List.dropLast_concat_getLast hne, Path.down]
  rw [isPlain_text hproper (List.append_ne_nil_of_right_ne_nil _ hne), ← and_assoc]
  refine and_congr_left fun _ => ?_
  constructor
  · intro h
    refine ⟨fun n hn => h n ?_, fun hextra => h _ ?_ ((bars_of_test hending).mpr hextra)⟩
    · rw [hsplit]; exact List.mem_append_left _ hn
    · rw [hsplit]; simp
  · rintro ⟨hroot, hextra⟩ n hn
    rw [hsplit, List.mem_append, List.mem_append, List.mem_singleton] at hn
    rcases hn with hn | hn | rfl
    · exact hroot n hn
    · exact not_bars_of_prunes (hdirs n hn)
    · exact fun h => hextra ((bars_of_test hending).mp h)

end Below

/-- **The filter agrees with the listing** on a file below the root that is reached without
    a link on the way, whatever the library ignores, unless a directory above the root is
    barred, the name of the file is excluded by the settings, or the library would not let
    its path through on its own. -/
theorem accepts_iff_listed (f : Filter) {t : FileTree} (ht : t.Distinct) {names : List String}
    (hproper : (f.root.down names).Proper) (hfile : t.FileBelow f.root names) :
    f.accepts (f.root.down names).text ↔
      (f.root.down names ∈ t.listing f.root f.pattern f.extra ∧
        isCandidate (f.root.down names) (some f.root) f.extra) ∧
      (∀ n ∈ f.root.names, ¬ f.Bars n) ∧ (f.root.down names).name ∉ f.extra ∧
        f.Spares (f.root.down names) := by
  rw [accepts, Path.ofString_text hproper, Path.below?_down, hfile.mem_listing_iff ht]
  simp only [Bool.and_eq_true]
  constructor
  · rintro ⟨hplain, hincludes, hcandidate⟩
    exact ⟨⟨⟨hincludes, (isCandidate_down.mp hcandidate).2.2.2⟩, hcandidate⟩,
      (isPlain_text_down hfile.below hproper hcandidate).mp hplain⟩
  · rintro ⟨⟨⟨hincludes, -⟩, hcandidate⟩, hrest⟩
    exact ⟨(isPlain_text_down hfile.below hproper hcandidate).mpr hrest, hincludes, hcandidate⟩

/-! ### A workspace, and one in a directory of dependencies -/

def sampleFilter (root : Path) : Filter := { root, pattern := "**/*_test.go" }

/-- One test file in a directory below the root. -/
def sampleFiles (root : Path) : FileTree :=
  FileTree.empty.write (root.down ["sub", "a_test.go"]) []

theorem accepts_sampleFiles :
    (sampleFilter (.ofString "/w")).accepts "/w/sub/a_test.go" = true :=
  (accepts_iff_listed (sampleFilter (.ofString "/w")) (t := sampleFiles (.ofString "/w"))
      (FileTree.ordinary_write FileTree.ordinary_empty (by decide +kernel) _).regular.distinct
      (fun n hn => Path.proper_ofString "/w/sub/a_test.go" n hn)
      (⟨⟨List.cons_ne_nil "sub" ["a_test.go"], by decide +kernel⟩, by decide +kernel⟩ :
        FileTree.FileBelow _ _ ["sub", "a_test.go"])).mpr
    (by decide +kernel)

/-- Below a root among dependencies a listing finds what the filter never reports, even
    with a library that ignores nothing on its own. -/
theorem vendored_listed_unreported :
    let root := Path.ofString "/w/vendor/p"
    let p := root.down ["sub", "a_test.go"]
    let f : Filter := { sampleFilter root with ignored := ⟨[], fun _ => false⟩ }
    ((sampleFiles root).read? p).isSome ∧
      p ∈ (sampleFiles root).listing root "**/*_test.go" [] ∧
      isCandidate p (some root) [] = true ∧
      f.accepts p.text = false := by
  decide +kernel

end Filter
end Watch
end SuiteExplorer
