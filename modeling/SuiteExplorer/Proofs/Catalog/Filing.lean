/-
  SuiteExplorer/Proofs/Catalog/Filing.lean
  ========================================
  **What is filed in the catalog, file by file.**

  A `Plan` says for each path what its file holds: the package of its clause and its
  tests, or nothing.  `Holds` says that the outline of a catalog has exactly the files
  of a plan, each as reading it alone would file it, beside files that have been
  emptied; `Mirrors` says in addition that nothing in it is empty.  Entering a file,
  emptying one and removing one each change the plan at one path, and pruning turns
  `Holds` into `Mirrors`.  Two outlines that mirror one plan have the same entries, up
  to the order of siblings (`Mirrors.entries_perm`).
-/
import SuiteExplorer.Proofs.Catalog.Outline
import SuiteExplorer.Proofs.Path

namespace SuiteExplorer

open Keyed
open scoped List

/-! ## 1. Plans -/

/-- What the files hold: the name of the package and the tests. -/
abbrev Plan := Path → Option (String × List Declaration)

/-- How packages are shown, by directory and name. -/
abbrev Labels := Path → String → String

/-- The path is that of a test file in a directory without colons. -/
structure Fileable (q : Path) : Prop where
  ending : q.name.endsWith Exclusion.testFileEnding
  proper : q.parent.Proper
  colonless : q.parent.Colonless

/-- A file with the package it is in. -/
structure Filed where
  package : NodeOutline
  file : FileOutline
deriving DecidableEq

/-- A package as the catalog shows it. -/
def packageHead (label : Labels) (directory : Path) (name : String) : NodeOutline :=
  (PackageOutline.empty (label directory name) directory name).head

/-- A file as reading it alone files it. -/
def filing (label : Labels) (q : Path) (package : String) (ds : List Declaration) : Filed :=
  ⟨packageHead label q.parent package, (FileOutline.empty q).enterAll q ds⟩

/-- All files of an outline. -/
def filed (ps : List PackageOutline) : List Filed :=
  ps.flatMap fun p => p.files.map (⟨p.head, ·⟩)

theorem mem_filed {ps : List PackageOutline} {x : Filed} :
    x ∈ filed ps ↔ ∃ p ∈ ps, p.head = x.package ∧ x.file ∈ p.files := by
  rw [filed, List.mem_flatMap]
  refine exists_congr fun p => and_congr_right fun _ => ?_
  rw [List.mem_map]
  constructor
  · rintro ⟨f, hf, rfl⟩
    exact ⟨rfl, hf⟩
  · rintro ⟨hhead, hf⟩
    exact ⟨x.file, hf, by rw [hhead]⟩

@[simp] theorem filing_package_id (label : Labels) (q : Path) (package : String)
    (ds : List Declaration) :
    (filing label q package ds).package.id = Catalog.packageId q.parent package := rfl

@[simp] theorem filing_file_id (label : Labels) (q : Path) (package : String)
    (ds : List Declaration) : (filing label q package ds).file.head.id = q.stem := by
  rw [filing, FileOutline.head_enterAll]; rfl

@[simp] theorem filing_file_path (label : Labels) (q : Path) (package : String)
    (ds : List Declaration) : (filing label q package ds).file.head.path = q := by
  rw [filing, FileOutline.head_enterAll]; rfl

/-- **The ids of a file and its package tell which file it is.** -/
theorem filing_injective {q q' : Path} (hq : Fileable q) (hq' : Fileable q')
    {package package' : String}
    (hid : Catalog.packageId q.parent package = Catalog.packageId q'.parent package')
    (hstem : q.stem = q'.stem) : q = q' ∧ package = package' := by
  obtain ⟨hparent, hname⟩ :=
    Catalog.packageId_injective hq.proper hq'.proper hq.colonless hq'.colonless hid
  exact ⟨Path.eq_of_parent_stem hq.ending hq'.ending hparent hstem, hname⟩

/-! ### 1.1 The suites of a file that has been read -/

/-- No suite of the file is without tests. -/
def FileOutline.NoEmptySuite (f : FileOutline) : Prop := ∀ s ∈ f.suites, s.tests ≠ []

theorem upsert_ne_nil {α : Type} {key : α → String} {k : String} {f : Option α → α} {l : List α} :
    upsert key k f l ≠ [] :=
  List.ne_nil_of_mem (mem_upsert.mpr (Or.inl rfl))

theorem FileOutline.NoEmptySuite.enter {f : FileOutline} (h : f.NoEmptySuite) (path : Path)
    (d : Declaration) : (f.enter path d).NoEmptySuite := by
  rw [FileOutline.NoEmptySuite, FileOutline.suites_enter]
  refine forall_mem_upsert h ?_ fun s _ _ => ?_
  · rw [SuiteOutline.tests_enter]; exact upsert_ne_nil
  · rw [SuiteOutline.tests_enter]; exact upsert_ne_nil

theorem FileOutline.NoEmptySuite.enterAll {f : FileOutline} (h : f.NoEmptySuite) (path : Path)
    (ds : List Declaration) : (f.enterAll path ds).NoEmptySuite := by
  induction ds generalizing f with
  | nil => exact h
  | cons d ds ih => exact ih (h.enter path d)

theorem filing_noEmptySuite (label : Labels) (q : Path) (package : String)
    (ds : List Declaration) : (filing label q package ds).file.NoEmptySuite :=
  FileOutline.NoEmptySuite.enterAll (fun _ hs => absurd hs List.not_mem_nil) q ds

theorem FileOutline.suites_enterAll_ne_nil {f : FileOutline} (h : f.suites ≠ []) (path : Path)
    (ds : List Declaration) : (f.enterAll path ds).suites ≠ [] := by
  induction ds generalizing f with
  | nil => exact h
  | cons d ds ih => exact ih (by rw [FileOutline.suites_enter]; exact upsert_ne_nil)

theorem filing_suites_ne_nil {ds : List Declaration} (h : ds ≠ []) (label : Labels) (q : Path)
    (package : String) : (filing label q package ds).file.suites ≠ [] := by
  obtain ⟨d, rest, rfl⟩ := List.exists_cons_of_ne_nil h
  refine FileOutline.suites_enterAll_ne_nil ?_ q rest
  rw [FileOutline.suites_enter]
  exact upsert_ne_nil

/-! ## 2. Holding what is planned -/

/-- The outline has the files of the plan, beside files that have been emptied. -/
structure Holds (label : Labels) (plan : Plan) (ps : List PackageOutline) : Prop where
  planned : ∀ q e, plan q = some e → Fileable q ∧ e.2 ≠ []
  heads : ∀ p ∈ ps, ∃ directory name, directory.Proper ∧ directory.Colonless ∧
    p.head = packageHead label directory name
  only : ∀ x ∈ filed ps, ∃ q package ds, Fileable q ∧ x = filing label q package ds ∧
    (ds = [] ∨ plan q = some (package, ds))
  all : ∀ q package ds, plan q = some (package, ds) → filing label q package ds ∈ filed ps

/-- The outline has the files of the plan, and nothing in it is empty. -/
structure Mirrors (label : Labels) (plan : Plan) (ps : List PackageOutline) : Prop
    extends Holds label plan ps where
  filled : ∀ p ∈ ps, p.files ≠ []
  neat : ∀ x ∈ filed ps, x.file.suites ≠ []

variable {label : Labels} {plan : Plan} {ps : List PackageOutline} {q : Path} {package : String}
  {ds : List Declaration}

/-- **What is filed is what is planned.** -/
theorem Mirrors.mem_filed_iff (h : Mirrors label plan ps) {x : Filed} :
    x ∈ filed ps ↔ ∃ q package ds, plan q = some (package, ds) ∧ x = filing label q package ds := by
  constructor
  · intro hx
    obtain ⟨q, package, ds, -, rfl, hds | hplan⟩ := h.only x hx
    · subst hds
      exact absurd rfl (h.neat _ hx)
    · exact ⟨q, package, ds, hplan, rfl⟩
  · rintro ⟨q, package, ds, hplan, rfl⟩
    exact h.all q package ds hplan

/-- Two files of the outline with one path are one file. -/
theorem Mirrors.eq_of_path_eq (h : Mirrors label plan ps) {x y : Filed} (hx : x ∈ filed ps)
    (hy : y ∈ filed ps) (hpath : x.file.head.path = y.file.head.path) : x = y := by
  obtain ⟨q, package, ds, hplan, rfl⟩ := h.mem_filed_iff.mp hx
  obtain ⟨q', package', ds', hplan', rfl⟩ := h.mem_filed_iff.mp hy
  rw [filing_file_path, filing_file_path] at hpath
  subst hpath
  obtain ⟨rfl, rfl⟩ := Prod.mk.inj (Option.some.inj (hplan.symm.trans hplan'))
  rfl

/-- A path is planned as soon as a file of the outline has it. -/
theorem Mirrors.plan_isSome_iff (h : Mirrors label plan ps) :
    (plan q).isSome ↔ ∃ x ∈ filed ps, x.file.head.path = q := by
  constructor
  · intro hsome
    obtain ⟨⟨package, ds⟩, hplan⟩ := Option.isSome_iff_exists.mp hsome
    exact ⟨_, h.all q package ds hplan, filing_file_path ..⟩
  · rintro ⟨x, hx, rfl⟩
    obtain ⟨q', package, ds, hplan, rfl⟩ := h.mem_filed_iff.mp hx
    rw [filing_file_path, hplan]
    rfl

/-! ## 3. Entering a file -/

/-- The package that a file enters. -/
def packageFor (label : Labels) (ps : List PackageOutline) (directory : Path) (name : String) :
    PackageOutline :=
  (ps.find? (·.head.id = Catalog.packageId directory name)).getD
    (.empty (label directory name) directory name)

theorem mem_enterOutline {p : PackageOutline} :
    p ∈ enterOutline ps (label q.parent package) q package ds ↔
      p = (packageFor label ps q.parent package).enter q ds ∨
        (p ∈ ps ∧ p.head.id ≠ Catalog.packageId q.parent package) :=
  mem_upsert

theorem Holds.head_packageFor (h : Holds label plan ps) (hq : Fileable q) :
    (packageFor label ps q.parent package).head = packageHead label q.parent package := by
  unfold packageFor
  cases hfind : ps.find? (·.head.id = Catalog.packageId q.parent package) with
  | none => rfl
  | some p =>
    obtain ⟨directory, name, hproper, hcolonless, hhead⟩ := h.heads p (List.mem_of_find?_eq_some hfind)
    have hid : Catalog.packageId directory name = Catalog.packageId q.parent package := by
      rw [← key_of_find? hfind, hhead]; rfl
    obtain ⟨rfl, rfl⟩ := Catalog.packageId_injective hproper hq.proper hcolonless hq.colonless hid
    exact hhead

theorem id_packageFor (label : Labels) (ps : List PackageOutline) (directory : Path)
    (name : String) :
    (packageFor label ps directory name).head.id = Catalog.packageId directory name := by
  unfold packageFor
  cases hfind : ps.find? (·.head.id = Catalog.packageId directory name) with
  | none => rfl
  | some p => exact @key_of_find? _ (fun p : PackageOutline => p.head.id) _ _ _ hfind

theorem id_packageEntered (label : Labels) (ps : List PackageOutline) (q : Path)
    (package : String) (ds : List Declaration) :
    ((packageFor label ps q.parent package).enter q ds).head.id =
      Catalog.packageId q.parent package := by
  rw [PackageOutline.head_enter, id_packageFor]

/-- The package that a file enters is the one of the outline with its id. -/
theorem packageFor_eq (hdistinct : DistinctIds ps) {p : PackageOutline} (hp : p ∈ ps)
    (hid : p.head.id = Catalog.packageId q.parent package) :
    packageFor label ps q.parent package = p := by
  have hfind : ps.find? (·.head.id = Catalog.packageId q.parent package) = some p :=
    find?_of_mem hdistinct.1 hp hid
  rw [packageFor, hfind, Option.getD_some]

/-- What the package that a file enters holds is filed under its id. -/
theorem mem_files_packageFor (hdistinct : DistinctIds ps) {f : FileOutline} :
    f ∈ (packageFor label ps q.parent package).files ↔
      ⟨(packageFor label ps q.parent package).head, f⟩ ∈ filed ps := by
  constructor
  · intro hf
    cases hfind : ps.find? (·.head.id = Catalog.packageId q.parent package) with
    | none =>
      rw [packageFor, hfind] at hf
      exact absurd hf List.not_mem_nil
    | some p =>
      have hp : packageFor label ps q.parent package = p := by
        rw [packageFor, hfind, Option.getD_some]
      rw [hp] at hf ⊢
      exact mem_filed.mpr ⟨p, List.mem_of_find?_eq_some hfind, rfl, hf⟩
  · intro hx
    obtain ⟨p, hp, hhead, hf⟩ := mem_filed.mp hx
    have hid : p.head.id = Catalog.packageId q.parent package :=
      hhead ▸ id_packageFor label ps q.parent package
    rwa [packageFor_eq hdistinct hp hid]

/-- A file of this path that is there already is an emptied one, if none is planned. -/
theorem Holds.file_eq_empty (h : Holds label plan ps) (hq : Fileable q) (hnone : plan q = none)
    {x : Filed} (hx : x ∈ filed ps) (hid : x.package.id = Catalog.packageId q.parent package)
    (hstem : x.file.head.id = q.stem) : x.file = .empty q := by
  obtain ⟨q', package', ds', hq', rfl, hds⟩ := h.only x hx
  rw [filing_package_id] at hid
  rw [filing_file_id] at hstem
  obtain ⟨rfl, -⟩ := filing_injective hq' hq hid hstem
  rcases hds with rfl | hplan
  · rfl
  · rw [hnone] at hplan
    cases hplan

theorem Holds.mem_files_enter (h : Holds label plan ps) (hdistinct : DistinctIds ps)
    (hq : Fileable q) (hnone : plan q = none) {f : FileOutline} :
    f ∈ ((packageFor label ps q.parent package).enter q ds).files ↔
      f = (FileOutline.empty q).enterAll q ds ∨
        (f ∈ (packageFor label ps q.parent package).files ∧ f.head.id ≠ q.stem) := by
  have hfile : ((packageFor label ps q.parent package).files.find? (·.head.id = q.stem)).getD
      (.empty q) = .empty q := by
    cases hfind : (packageFor label ps q.parent package).files.find? (·.head.id = q.stem) with
    | none => rfl
    | some g =>
      have hstem : g.head.id = q.stem :=
        @key_of_find? _ (fun f : FileOutline => f.head.id) _ _ _ hfind
      have hg := (mem_files_packageFor hdistinct).mp (List.mem_of_find?_eq_some hfind)
      exact h.file_eq_empty hq hnone hg (id_packageFor ..) hstem
  rw [PackageOutline.files_enter, mem_upsert, hfile]

/-- **Entering a file** files it, and leaves all other files as they are. -/
theorem Holds.mem_filed_enter (h : Holds label plan ps) (hdistinct : DistinctIds ps)
    (hq : Fileable q) (hnone : plan q = none) {x : Filed} :
    x ∈ filed (enterOutline ps (label q.parent package) q package ds) ↔
      x = filing label q package ds ∨ (x ∈ filed ps ∧
        ¬(x.package.id = Catalog.packageId q.parent package ∧ x.file.head.id = q.stem)) := by
  have hhead : (packageFor label ps q.parent package).head = packageHead label q.parent package :=
    h.head_packageFor hq
  rw [mem_filed]
  constructor
  · rintro ⟨p, hp, hpx, hf⟩
    rcases mem_enterOutline.mp hp with rfl | ⟨hp, hne⟩
    · rw [PackageOutline.head_enter] at hpx
      rcases (h.mem_files_enter hdistinct hq hnone).mp hf with hf | ⟨hf, hne⟩
      · left
        rw [filing, ← hhead, hpx, ← hf]
      · right
        rw [mem_files_packageFor hdistinct, hpx] at hf
        exact ⟨hf, fun hkey => hne hkey.2⟩
    · exact Or.inr ⟨mem_filed.mpr ⟨p, hp, hpx, hf⟩, fun hkey => hne (hpx ▸ hkey.1)⟩
  · rintro (rfl | ⟨hx, hkey⟩)
    · refine ⟨_, mem_enterOutline.mpr (Or.inl rfl), hhead, ?_⟩
      exact (h.mem_files_enter hdistinct hq hnone).mpr (Or.inl rfl)
    · obtain ⟨p, hp, hpx, hf⟩ := mem_filed.mp hx
      by_cases hid : x.package.id = Catalog.packageId q.parent package
      · -- another file of the package that is entered
        have hpackage : packageFor label ps q.parent package = p :=
          packageFor_eq hdistinct hp (hpx ▸ hid)
        refine ⟨_, mem_enterOutline.mpr (Or.inl rfl), ?_, ?_⟩
        · rw [PackageOutline.head_enter, hpackage, hpx]
        · rw [h.mem_files_enter hdistinct hq hnone, hpackage]
          exact Or.inr ⟨hf, fun hstem => hkey ⟨hid, hstem⟩⟩
      · exact ⟨p, mem_enterOutline.mpr (Or.inr ⟨hp, hpx ▸ hid⟩), hpx, hf⟩

/-- The plan with one more file. -/
def Plan.set (plan : Plan) (q : Path) (e : Option (String × List Declaration)) : Plan :=
  fun q' => if q' = q then e else plan q'

@[simp] theorem Plan.set_self (plan : Plan) (q : Path) (e : Option (String × List Declaration)) :
    plan.set q e q = e := if_pos rfl

theorem Plan.set_of_ne {q' : Path} (h : q' ≠ q) (e : Option (String × List Declaration)) :
    plan.set q e q' = plan q' := if_neg h

theorem Holds.enter (h : Holds label plan ps) (hdistinct : DistinctIds ps) (hq : Fileable q)
    (hnone : plan q = none) (hds : ds ≠ []) :
    Holds label (plan.set q (some (package, ds)))
      (enterOutline ps (label q.parent package) q package ds) where
  planned q' e he := by
    by_cases hqq : q' = q
    · subst hqq
      rw [Plan.set_self] at he
      obtain rfl := Option.some.inj he
      exact ⟨hq, hds⟩
    · rw [Plan.set_of_ne hqq] at he
      exact h.planned q' e he
  heads p hp := by
    rcases mem_enterOutline.mp hp with rfl | ⟨hp, -⟩
    · exact ⟨q.parent, package, hq.proper, hq.colonless, h.head_packageFor hq⟩
    · exact h.heads p hp
  only x hx := by
    rcases (h.mem_filed_enter hdistinct hq hnone).mp hx with rfl | ⟨hx, -⟩
    · exact ⟨q, package, ds, hq, rfl, Or.inr (Plan.set_self ..)⟩
    · obtain ⟨q', package', ds', hq', rfl, hds' | hplan⟩ := h.only x hx
      · exact ⟨q', package', ds', hq', rfl, Or.inl hds'⟩
      · refine ⟨q', package', ds', hq', rfl, Or.inr ?_⟩
        rw [Plan.set_of_ne, hplan]
        rintro rfl
        rw [hnone] at hplan
        cases hplan
  all q' package' ds' hplan := by
    rw [h.mem_filed_enter hdistinct hq hnone]
    by_cases hqq : q' = q
    · subst hqq
      rw [Plan.set_self] at hplan
      obtain ⟨rfl, rfl⟩ := Prod.mk.inj (Option.some.inj hplan)
      exact Or.inl rfl
    · rw [Plan.set_of_ne hqq] at hplan
      refine Or.inr ⟨h.all q' package' ds' hplan, fun ⟨hid, hstem⟩ => hqq ?_⟩
      rw [filing_package_id] at hid
      rw [filing_file_id] at hstem
      exact (filing_injective (h.planned q' _ hplan).1 hq hid hstem).1

theorem Mirrors.enter (h : Mirrors label plan ps) (hdistinct : DistinctIds ps) (hq : Fileable q)
    (hnone : plan q = none) (hds : ds ≠ []) :
    Mirrors label (plan.set q (some (package, ds)))
      (enterOutline ps (label q.parent package) q package ds) where
  toHolds := h.toHolds.enter hdistinct hq hnone hds
  filled p hp := by
    rcases mem_enterOutline.mp hp with rfl | ⟨hp, -⟩
    · rw [PackageOutline.files_enter]; exact upsert_ne_nil
    · exact h.filled p hp
  neat x hx := by
    rcases (h.mem_filed_enter hdistinct hq hnone).mp hx with rfl | ⟨hx, -⟩
    · exact filing_suites_ne_nil hds label q package
    · exact h.neat x hx

/-! ## 4. Taking a file out -/

/-- Take out what the files of a path hold. -/
def emptyAt (q : Path) (ps : List PackageOutline) : List PackageOutline :=
  ps.map fun p => { p with
    files := p.files.map fun f => if f.head.path = q then { f with suites := [] } else f }

/-- Take out the files of a path. -/
def removeAt (q : Path) (ps : List PackageOutline) : List PackageOutline :=
  ps.map fun p => { p with files := p.files.filter (·.head.path ≠ q) }

theorem mem_filed_map {change : List FileOutline → List FileOutline} {x : Filed} :
    x ∈ filed (ps.map fun p => { p with files := change p.files }) ↔
      ∃ p ∈ ps, p.head = x.package ∧ x.file ∈ change p.files := by
  rw [mem_filed]
  constructor
  · rintro ⟨p', hp', hhead, hf⟩
    obtain ⟨p, hp, rfl⟩ := List.mem_map.mp hp'
    exact ⟨p, hp, hhead, hf⟩
  · rintro ⟨p, hp, hhead, hf⟩
    exact ⟨_, List.mem_map_of_mem hp, hhead, hf⟩

theorem Holds.heads_map (h : Holds label plan ps)
    {change : List FileOutline → List FileOutline} :
    ∀ p ∈ ps.map fun p => { p with files := change p.files }, ∃ directory name,
      directory.Proper ∧ directory.Colonless ∧ p.head = packageHead label directory name := by
  intro p' hp'
  obtain ⟨p, hp, rfl⟩ := List.mem_map.mp hp'
  exact h.heads p hp

theorem Holds.planned_unset (h : Holds label plan ps) (q : Path) :
    ∀ q' e, plan.set q none q' = some e → Fileable q' ∧ e.2 ≠ [] := by
  intro q' e he
  by_cases hqq : q' = q
  · rw [hqq, Plan.set_self] at he
    cases he
  · rw [Plan.set_of_ne hqq] at he
    exact h.planned q' e he

/-- **Emptying the file of a path** takes it out of what is planned. -/
theorem Mirrors.emptyAt (h : Mirrors label plan ps) (q : Path) :
    Holds label (plan.set q none) (emptyAt q ps) where
  planned := h.planned_unset q
  heads := h.heads_map
  only x hx := by
    obtain ⟨p, hp, hhead, hf⟩ := mem_filed_map.mp hx
    obtain ⟨f, hf, hfx⟩ := List.mem_map.mp hf
    obtain ⟨q', package, ds, hplan, hy⟩ :=
      h.mem_filed_iff.mp (mem_filed.mpr ⟨p, hp, rfl, hf⟩ : (⟨p.head, f⟩ : Filed) ∈ filed ps)
    obtain ⟨hphead, rfl⟩ := Filed.mk.inj hy
    have hpath : ((FileOutline.empty q').enterAll q' ds).head.path = q' := by
      rw [FileOutline.head_enterAll]; rfl
    rw [hpath] at hfx
    by_cases hqq : q' = q
    · refine ⟨q', package, [], (h.planned q' _ hplan).1, ?_, Or.inl rfl⟩
      rw [if_pos hqq, FileOutline.head_enterAll] at hfx
      rw [filing, ← hphead, hhead]
      exact congrArg (Filed.mk x.package) hfx.symm
    · refine ⟨q', package, ds, (h.planned q' _ hplan).1, ?_, Or.inr ?_⟩
      · rw [if_neg hqq] at hfx
        rw [filing, ← hphead, hhead, hfx]
      · rw [Plan.set_of_ne hqq, hplan]
  all q' package ds hplan := by
    by_cases hqq : q' = q
    · rw [hqq, Plan.set_self] at hplan
      cases hplan
    · rw [Plan.set_of_ne hqq] at hplan
      obtain ⟨p, hp, hhead, hf⟩ := mem_filed.mp (h.all q' package ds hplan)
      refine mem_filed_map.mpr ⟨p, hp, hhead, List.mem_map.mpr ⟨_, hf, if_neg ?_⟩⟩
      rwa [filing_file_path]

/-- **Removing the file of a path** takes it out of what is planned. -/
theorem Mirrors.removeAt (h : Mirrors label plan ps) (q : Path) :
    Holds label (plan.set q none) (removeAt q ps) where
  planned := h.planned_unset q
  heads := h.heads_map
  only x hx := by
    obtain ⟨p, hp, hhead, hf⟩ := mem_filed_map.mp hx
    obtain ⟨hf, hne⟩ := List.mem_filter.mp hf
    obtain ⟨q', package, ds, hplan, rfl⟩ := h.mem_filed_iff.mp (mem_filed.mpr ⟨p, hp, hhead, hf⟩)
    refine ⟨q', package, ds, (h.planned q' _ hplan).1, rfl, Or.inr ?_⟩
    rw [filing_file_path, decide_eq_true_eq] at hne
    rw [Plan.set_of_ne hne, hplan]
  all q' package ds hplan := by
    by_cases hqq : q' = q
    · rw [hqq, Plan.set_self] at hplan
      cases hplan
    · rw [Plan.set_of_ne hqq] at hplan
      obtain ⟨p, hp, hhead, hf⟩ := mem_filed.mp (h.all q' package ds hplan)
      refine mem_filed_map.mpr ⟨p, hp, hhead, List.mem_filter.mpr ⟨hf, decide_eq_true ?_⟩⟩
      rwa [filing_file_path]

/-! ## 5. Pruning -/

def FileOutline.prune (f : FileOutline) : FileOutline :=
  { f with suites := f.suites.filter fun s => !s.tests.isEmpty }

def PackageOutline.prune (p : PackageOutline) : PackageOutline :=
  { p with files := (p.files.map (·.prune)).filter fun f => !f.suites.isEmpty }

/-- Remove suites without tests, then files without suites, then packages without files. -/
def pruneOutline (ps : List PackageOutline) : List PackageOutline :=
  (ps.map (·.prune)).filter fun p => !p.files.isEmpty

theorem FileOutline.NoEmptySuite.prune {f : FileOutline} (h : f.NoEmptySuite) : f.prune = f := by
  have hkeep : f.suites.filter (fun s => !s.tests.isEmpty) = f.suites := by
    refine List.filter_eq_self.mpr fun s hs => ?_
    simpa using h s hs
  rw [FileOutline.prune, hkeep]

/-- What is filed after pruning is what was filed and not empty. -/
theorem Holds.mem_filed_prune (h : Holds label plan ps) {x : Filed} :
    x ∈ filed (pruneOutline ps) ↔ x ∈ filed ps ∧ x.file.suites ≠ [] := by
  have hsame : ∀ p ∈ ps, ∀ f ∈ p.files, f.prune = f := by
    intro p hp f hf
    obtain ⟨q, package, ds, -, hx, -⟩ := h.only ⟨p.head, f⟩ (mem_filed.mpr ⟨p, hp, rfl, hf⟩)
    have hsuites := filing_noEmptySuite label q package ds
    rw [← hx] at hsuites
    exact hsuites.prune
  rw [mem_filed, mem_filed]
  constructor
  · rintro ⟨p', hp', hhead, hf'⟩
    obtain ⟨p, hp, rfl⟩ := List.mem_map.mp (List.mem_filter.mp hp').1
    obtain ⟨hf', hne⟩ := List.mem_filter.mp hf'
    obtain ⟨f, hf, hfx⟩ := List.mem_map.mp hf'
    rw [hsame p hp f hf] at hfx
    exact ⟨⟨p, hp, hhead, hfx ▸ hf⟩, by simpa using hne⟩
  · rintro ⟨⟨p, hp, hhead, hf⟩, hne⟩
    have hf' : x.file ∈ p.prune.files := by
      refine List.mem_filter.mpr ⟨List.mem_map.mpr ⟨x.file, hf, hsame p hp _ hf⟩, ?_⟩
      simpa using hne
    refine ⟨p.prune, List.mem_filter.mpr ⟨List.mem_map_of_mem hp, ?_⟩, hhead, hf'⟩
    simpa using List.ne_nil_of_mem hf'

/-- **Pruning leaves what is planned,** and nothing empty. -/
theorem Holds.prune (h : Holds label plan ps) : Mirrors label plan (pruneOutline ps) where
  planned := h.planned
  heads p' hp' := by
    obtain ⟨p, hp, rfl⟩ := List.mem_map.mp (List.mem_filter.mp hp').1
    exact h.heads p hp
  only x hx := h.only x (h.mem_filed_prune.mp hx).1
  all q package ds hplan := by
    refine h.mem_filed_prune.mpr ⟨h.all q package ds hplan, ?_⟩
    exact filing_suites_ne_nil (h.planned q _ hplan).2 label q package
  filled p' hp' := by
    have hne := (List.mem_filter.mp hp').2
    simpa using hne
  neat x hx := (h.mem_filed_prune.mp hx).2

/-! ## 6. Entries -/

/-- A node as a reader sees it: the ids that lead down to it and what it shows. -/
structure Entry where
  ids : List String
  node : NodeOutline
deriving DecidableEq

/-- The nodes of a file in a package. -/
def Filed.entries (x : Filed) : List Entry :=
  ⟨[x.package.id, x.file.head.id], x.file.head⟩ :: x.file.suites.flatMap fun s =>
    ⟨[x.package.id, x.file.head.id, s.head.id], s.head⟩ ::
      s.tests.map fun t => ⟨[x.package.id, x.file.head.id, s.head.id, t.id], t⟩

/-- All nodes, each before what it holds. -/
def entriesOf (ps : List PackageOutline) : List Entry :=
  ps.flatMap fun p => ⟨[p.head.id], p.head⟩ :: p.files.flatMap fun f => Filed.entries ⟨p.head, f⟩

def Catalog.entries (c : Catalog) : List Entry := entriesOf c.outline

/-- The entries are those of the packages and those of the files. -/
theorem entriesOf_perm (ps : List PackageOutline) :
    (entriesOf ps).Perm ((ps.map (·.head)).map (fun o => ⟨[o.id], o⟩) ++
      (filed ps).flatMap Filed.entries) := by
  have hsplit := (List.flatMap_append_perm ps (fun p => [(⟨[p.head.id], p.head⟩ : Entry)])
    fun p => p.files.flatMap fun f => Filed.entries ⟨p.head, f⟩).symm
  have hheads : (ps.flatMap fun p => [(⟨[p.head.id], p.head⟩ : Entry)]) =
      (ps.map (·.head)).map fun o => ⟨[o.id], o⟩ := by
    rw [List.map_map, List.map_eq_flatMap]
    rfl
  have hfiled : (ps.flatMap fun p => p.files.flatMap fun f => Filed.entries ⟨p.head, f⟩) =
      (filed ps).flatMap Filed.entries := by
    rw [filed, List.flatMap_assoc]
    simp only [List.flatMap_map]
  rw [hheads, hfiled] at hsplit
  exact hsplit

/-- No file is filed twice. -/
theorem nodup_filed (h : DistinctIds ps) : (filed ps).Nodup := by
  refine List.nodup_flatMap.mpr ⟨fun p hp => ?_, ?_⟩
  · exact (h.2 p hp).1.of_map.map fun f g hfg => (Filed.mk.inj hfg).2
  · refine (List.pairwise_map.mp h.1).imp fun {p p'} hne x hx hx' => hne ?_
    obtain ⟨f, -, rfl⟩ := List.mem_map.mp hx
    obtain ⟨g, -, hg⟩ := List.mem_map.mp hx'
    rw [(Filed.mk.inj hg).1]

end SuiteExplorer
