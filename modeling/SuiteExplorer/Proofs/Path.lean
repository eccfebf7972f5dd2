/-
  SuiteExplorer/Proofs/Path.lean
  ==============================
  **Paths and what they are written as.**

  A path that has been read from a text holds only names that can stand between
  slashes (`proper_ofString`), and such a path is read back from the text it is
  written as (`ofString_text`), so different paths have different texts
  (`text_injective`).  A file whose name ends the way names of test files do is
  determined by its directory and the stem of its name (`eq_of_parent_stem`), and a
  package by its id, as long as there are no colons in the paths of directories
  (`packageId_injective`).
-/
import SuiteExplorer.Catalog.Discovery

namespace SuiteExplorer

namespace Text

/-! ## 1. Cutting at a separator -/

/-- Cutting is what the library calls splitting. -/
theorem cutAt_eq_splitOn (separator : Char) (s : List Char) :
    cutAt separator s = s.splitOn separator := by
  induction s with
  | nil => rfl
  | cons c rest ih =>
    rw [cutAt, ih, List.splitOn_cons_eq_if_modifyHead]
    by_cases h : c = separator
    · rw [if_pos h, if_pos (beq_iff_eq.mpr h)]
    · rw [if_neg h, if_neg (by simpa using h)]
      cases hrest : rest.splitOn separator with
      | nil => exact absurd hrest (List.splitOn_ne_nil _ _)
      | cons piece more => rfl

/-- Pieces without the separator are what a text put together of them is cut into. -/
theorem cutAt_intercalate {separator : Char} {pieces : List (List Char)} (hne : pieces ≠ [])
    (h : ∀ piece ∈ pieces, separator ∉ piece) :
    cutAt separator ([separator].intercalate pieces) = pieces := by
  rw [cutAt_eq_splitOn]
  exact List.splitOn_intercalate separator h hne

theorem not_mem_of_mem_cutAt {separator : Char} (s : List Char) :
    ∀ piece ∈ cutAt separator s, separator ∉ piece := by
  induction s with
  | nil => intro piece hp; rw [cutAt, List.mem_singleton] at hp; simp [hp]
  | cons c rest ih =>
    rw [cutAt]
    by_cases hc : c = separator
    · rw [if_pos hc]
      intro piece hp
      rcases List.mem_cons.mp hp with rfl | hp
      · exact List.not_mem_nil
      · exact ih piece hp
    · rw [if_neg hc]
      cases hrest : cutAt separator rest with
      | nil => exact absurd hrest (cutAt_ne_nil _ _)
      | cons first more =>
        rw [hrest] at ih
        intro piece hp
        rcases List.mem_cons.mp hp with rfl | hp
        · rw [List.mem_cons, not_or]
          exact ⟨Ne.symm hc, ih first List.mem_cons_self⟩
        · exact ih piece (List.mem_cons_of_mem _ hp)

end Text

namespace Path

/-! ## 2. Proper names -/

/-- A name that can stand between two slashes and carries a meaning there. -/
structure ProperName (n : String) : Prop where
  nonempty : n ≠ ""
  not_here : n ≠ "."
  unsplit : '/' ∉ n.toList

def Proper (p : Path) : Prop := ∀ n ∈ p.names, ProperName n

/-- What is read from a text is proper. -/
theorem proper_ofString (s : String) : (ofString s).Proper := by
  intro n hn
  obtain ⟨piece, hp, rfl⟩ := List.mem_map.mp hn
  rw [List.mem_filter] at hp
  obtain ⟨hmem, hkeep⟩ := hp
  simp only [ne_eq, decide_not, Bool.and_eq_true, Bool.not_eq_eq_eq_not, Bool.not_true,
    decide_eq_false_iff_not] at hkeep
  refine ⟨fun h => hkeep.1 ?_, fun h => hkeep.2 ?_, ?_⟩
  · simpa using congrArg String.toList h
  · simpa using congrArg String.toList h
  · rw [String.toList_ofList]
    exact Text.not_mem_of_mem_cutAt _ piece hmem

/-- Names that lead from a directory down. -/
def down (p : Path) (names : List String) : Path := { p with names := p.names ++ names }

theorem below?_eq_some {p root : Path} {names : List String} (h : p.below? root = some names) :
    p = root.down names := by
  unfold below? at h
  split at h
  case isTrue hroot =>
    rw [Bool.and_eq_true, decide_eq_true_eq, List.isPrefixOf_iff_prefix] at hroot
    obtain ⟨hanchor, rest, hnames⟩ := hroot
    rw [← Option.some.inj h, down, ← hanchor, ← hnames, List.drop_left, hnames]
  case isFalse => cases h

theorem below?_down (root : Path) (names : List String) :
    (root.down names).below? root = some names := by
  have hprefix : root.names.isPrefixOf (root.names ++ names) = true :=
    List.isPrefixOf_iff_prefix.mpr (List.prefix_append _ _)
  rw [below?, down, if_pos (by rw [Bool.and_eq_true]; exact ⟨decide_eq_true rfl, hprefix⟩),
    List.drop_left]

theorem down_injective {root : Path} {ms ns : List String} (h : root.down ms = root.down ns) :
    ms = ns :=
  List.append_cancel_left (congrArg Path.names h)

theorem parent_down {root : Path} {names : List String} (h : names ≠ []) :
    (root.down names).parent = root.down names.dropLast := by
  rw [parent, down, down, List.dropLast_append_of_ne_nil h]

theorem name_down {root : Path} {names : List String} (h : names ≠ []) :
    (root.down names).name = names.getLast h := by
  rw [name, down, List.getLast?_append, List.getLast?_eq_some_getLast h, Option.some_or,
    Option.getD_some]

/-! ## 3. Different paths have different texts -/

/-- The slashes in front of a text that does not begin with one. -/
theorem takeWhile_slashes {k : Nat} {s : List Char} (h : ∀ c, s.head? = some c → c ≠ '/') :
    ((List.replicate k '/' ++ s).takeWhile (· = '/')).length = k := by
  induction k with
  | zero =>
    cases s with
    | nil => rfl
    | cons c s =>
      rw [List.replicate_zero, List.nil_append, List.takeWhile_cons,
        if_neg (by simpa using h c rfl)]
      rfl
  | succ k ih =>
    rw [List.replicate_succ, List.cons_append, List.takeWhile_cons,
      if_pos (decide_eq_true rfl), List.length_cons, ih]

/-- Slashes in front carry no names. -/
theorem namesOf_slashes (k : Nat) (s : List Char) :
    namesOf (List.replicate k '/' ++ s) = namesOf s := by
  induction k with
  | zero => rfl
  | succ k ih =>
    rw [← ih, List.replicate_succ, List.cons_append, namesOf, Text.cutAt, if_pos rfl,
      List.filter_cons_of_neg (by simp)]
    rfl

theorem namesOf_intercalate {names : List String} (h : ∀ n ∈ names, ProperName n)
    (hne : names ≠ []) : namesOf (['/'].intercalate (names.map String.toList)) = names := by
  have hcut : Text.cutAt '/' (['/'].intercalate (names.map String.toList)) =
      names.map String.toList := by
    refine Text.cutAt_intercalate (by simpa using hne) fun piece hp => ?_
    obtain ⟨n, hn, rfl⟩ := List.mem_map.mp hp
    exact (h n hn).unsplit
  have hkeep : (names.map String.toList).filter (fun n => n ≠ [] && n ≠ ['.']) =
      names.map String.toList := by
    refine List.filter_eq_self.mpr fun piece hp => ?_
    obtain ⟨n, hn, rfl⟩ := List.mem_map.mp hp
    simp only [ne_eq, decide_not, Bool.and_eq_true, Bool.not_eq_eq_eq_not, Bool.not_true,
      decide_eq_false_iff_not]
    refine ⟨fun h0 => (h n hn).nonempty ?_, fun h1 => (h n hn).not_here ?_⟩
    · exact String.toList_inj.mp h0
    · exact String.toList_inj.mp h1
  rw [namesOf, hcut, hkeep, List.map_map]
  exact (List.map_congr_left fun n _ => String.ofList_toList).trans (List.map_id names)

/-- A first name does not begin with a slash. -/
theorem head_intercalate {names : List String} (h : ∀ n ∈ names, ProperName n) (c : Char)
    (hc : (['/'].intercalate (names.map String.toList)).head? = some c) : c ≠ '/' := by
  cases names with
  | nil => cases hc
  | cons n names =>
    have hn := h n List.mem_cons_self
    have hlist : n.toList ≠ [] := fun h0 => hn.nonempty (String.toList_inj.mp h0)
    obtain ⟨d, ds, hds⟩ := List.exists_cons_of_ne_nil hlist
    have hd : some d = some c := by
      cases names with
      | nil => rw [← hc, List.map_singleton, List.intercalate_singleton, hds]; rfl
      | cons m names =>
        rw [← hc, List.map_cons, List.map_cons, List.intercalate_cons_cons, hds]; rfl
    rintro rfl
    obtain rfl := Option.some.inj hd
    exact hn.unsplit (hds ▸ List.mem_cons_self)

/-- How many slashes an anchor is written with. -/
def slashes : Anchor → Nat
  | .here => 0
  | .root => 1
  | .doubleRoot => 2

theorem anchor_text (a : Anchor) : a.text.toList = List.replicate (slashes a) '/' := by
  cases a <;> rfl

theorem ofChars_slashes {a : Anchor} {s : List Char} (h : ∀ c, s.head? = some c → c ≠ '/') :
    Anchor.ofChars (List.replicate (slashes a) '/' ++ s) = a := by
  rw [Anchor.ofChars, takeWhile_slashes h]
  cases a <;> rfl

/-- The names of a path, with slashes between them. -/
theorem toList_text {p : Path} (h : p.names ≠ []) :
    p.text.toList =
      List.replicate (slashes p.anchor) '/' ++ ['/'].intercalate (p.names.map String.toList) := by
  obtain ⟨anchor, names⟩ := p
  have htext : text ⟨anchor, names⟩ = anchor.text ++ "/".intercalate names := by
    cases anchor with
    | here =>
      cases names with
      | nil => exact absurd rfl h
      | cons n names => rfl
    | root => rfl
    | doubleRoot => rfl
  rw [htext, String.toList_append, anchor_text, String.toList_intercalate]
  rfl

/-- **A proper path is read back from its text.** -/
theorem ofString_text {p : Path} (h : p.Proper) : ofString p.text = p := by
  obtain ⟨anchor, names⟩ := p
  by_cases hne : names = []
  · subst hne
    cases anchor <;> decide
  · rw [ofString, toList_text hne, namesOf_slashes, namesOf_intercalate h hne,
      ofChars_slashes (head_intercalate h)]

theorem text_injective {p q : Path} (hp : p.Proper) (hq : q.Proper) (h : p.text = q.text) :
    p = q := by
  rw [← ofString_text hp, h, ofString_text hq]

/-! ## 4. Names with an ending -/

theorem dropWhile_of_not_mem {l : List Char} {c : Char} (h : c ∉ l) (rest : List Char) :
    (l ++ c :: rest).dropWhile (· ≠ c) = c :: rest := by
  induction l with
  | nil => rw [List.nil_append, List.dropWhile_cons, if_neg (by simp)]
  | cons d l ih =>
    rw [List.mem_cons, not_or] at h
    rw [List.cons_append, List.dropWhile_cons, if_pos (by simpa using Ne.symm h.1), ih h.2]

/-- The name of a test file is its stem and an ending that is always the same. -/
theorem name_eq_stem_append {p : Path} (h : p.name.endsWith Exclusion.testFileEnding) :
    p.name = p.stem ++ ".go" := by
  obtain ⟨before, hbefore⟩ : Exclusion.testFileEnding.toList <:+ p.name.toList := by
    rw [String.endsWith, String.Slice.endsWith_string_iff, String.copy_toSlice] at h
    exact h
  have hending : Exclusion.testFileEnding.toList = "_test".toList ++ '.' :: "go".toList := rfl
  have hreverse : p.name.toList.reverse =
      "og".toList ++ '.' :: (before ++ "_test".toList).reverse := by
    rw [← hbefore, hending, ← List.append_assoc, List.reverse_append]
    rfl
  have hstem : p.stem = String.ofList (before ++ "_test".toList) := by
    rw [stem, hreverse, dropWhile_of_not_mem (by decide)]
    exact congrArg String.ofList (List.reverse_reverse _)
  rw [hstem, ← String.toList_inj, String.toList_append, String.toList_ofList, ← hbefore, hending,
    List.append_assoc]
  rfl

/-- **A test file is determined by its directory and the stem of its name.** -/
theorem eq_of_parent_stem {p q : Path} (hp : p.name.endsWith Exclusion.testFileEnding)
    (hq : q.name.endsWith Exclusion.testFileEnding) (hparent : p.parent = q.parent)
    (hstem : p.stem = q.stem) : p = q := by
  have hname : p.name = q.name := by
    rw [name_eq_stem_append hp, name_eq_stem_append hq, hstem]
  have hsplit : ∀ r : Path, r.name.endsWith Exclusion.testFileEnding →
      r = r.parent.child r.name := by
    intro r hr
    have hne : r.names ≠ [] := by
      intro h0
      have hempty : r.name = "" := by rw [name, h0]; rfl
      rw [hempty] at hr
      exact absurd hr (by decide)
    rw [child, parent, name, List.getLast?_eq_some_getLast hne, Option.getD_some,
      List.dropLast_concat_getLast]
  rw [hsplit p hp, hsplit q hq, hparent, hname]

/-! ## 5. Directories without colons -/

/-- There is no colon in any name of the path. -/
def Colonless (p : Path) : Prop := ∀ n ∈ p.names, ':' ∉ n.toList

instance (p : Path) : Decidable p.Colonless :=
  inferInstanceAs (Decidable (∀ n ∈ p.names, ':' ∉ n.toList))

theorem not_mem_intercalate {c d : Char} (hcd : c ≠ d) {pieces : List (List Char)}
    (h : ∀ piece ∈ pieces, c ∉ piece) : c ∉ [d].intercalate pieces := by
  induction pieces with
  | nil => exact List.not_mem_nil
  | cons piece pieces ih =>
    have hpiece := h piece List.mem_cons_self
    have hrest := ih fun p hp => h p (List.mem_cons_of_mem _ hp)
    cases pieces with
    | nil => rwa [List.intercalate_singleton]
    | cons next more =>
      rw [List.intercalate_cons_cons]
      simp only [List.mem_append, List.mem_singleton, not_or]
      exact ⟨⟨hpiece, hcd⟩, hrest⟩

theorem not_mem_text {p : Path} (h : p.Colonless) : ':' ∉ p.text.toList := by
  obtain ⟨anchor, names⟩ := p
  by_cases hne : names = []
  · subst hne
    cases anchor <;> decide
  · rw [toList_text hne, List.mem_append, not_or]
    refine ⟨fun hmem => ?_, not_mem_intercalate (by decide) fun piece hp => ?_⟩
    · exact absurd (List.eq_of_mem_replicate hmem) (by decide)
    · obtain ⟨n, hn, rfl⟩ := List.mem_map.mp hp
      exact h n hn

/-- Two texts that agree agree up to the first mark in them. -/
theorem eq_of_append_mark {c : Char} {a a' b b' : List Char} (ha : c ∉ a) (ha' : c ∉ a')
    (h : a ++ c :: b = a' ++ c :: b') : a = a' ∧ b = b' := by
  rcases List.append_eq_append_iff.mp h with ⟨more, rfl, hrest⟩ | ⟨more, rfl, hrest⟩
  · cases more with
    | nil => exact ⟨(List.append_nil a).symm, (List.cons.inj hrest).2⟩
    | cons d more =>
      rw [(List.cons.inj hrest).1] at ha'
      exact absurd (List.mem_append_right a List.mem_cons_self) ha'
  · cases more with
    | nil => exact ⟨List.append_nil a', (List.cons.inj hrest).2.symm⟩
    | cons d more =>
      rw [(List.cons.inj hrest).1] at ha
      exact absurd (List.mem_append_right a' List.mem_cons_self) ha

end Path

/-- **The id of a package tells its directory and its name,** if no directory has a
    colon in its path. -/
theorem Catalog.packageId_injective {p q : Path} (hp : p.Proper) (hq : q.Proper)
    (hpc : p.Colonless) (hqc : q.Colonless) {m n : String}
    (h : packageId p m = packageId q n) : p = q ∧ m = n := by
  have hlist : p.text.toList ++ ':' :: m.toList = q.text.toList ++ ':' :: n.toList := by
    have h' := congrArg String.toList h
    simpa [packageId, toString] using h'
  obtain ⟨htext, hname⟩ := Path.eq_of_append_mark (Path.not_mem_text hpc) (Path.not_mem_text hqc) hlist
  exact ⟨Path.text_injective hp hq (String.toList_inj.mp htext), String.toList_inj.mp hname⟩

end SuiteExplorer
