/-
  SuiteExplorer/Proofs/Catalog/Stocked.lean
  =========================================
  **Nothing empty survives live operation.**

  A catalog is stocked if each of its packages holds a file, each file a suite and each
  suite a test.  Entering a file that has tests fills whatever it touches, and pruning
  leaves a stocked tree behind, whatever it begins with.  So the operations that may
  empty a node, following a file that was modified or deleted, end in a stocked tree
  because they prune last or have found nothing to take out, and all others never empty
  anything (`stocked_live`).
-/
import SuiteExplorer.Proofs.Catalog.Origin

namespace SuiteExplorer

open Keyed

/-! ## 1. Outlines in which nothing is empty -/

/-- The file holds suites, and each of them tests. -/
structure FileOutline.Stocked (f : FileOutline) : Prop where
  suites : f.suites ≠ []
  tests : f.NoEmptySuite

structure PackageOutline.Stocked (p : PackageOutline) : Prop where
  files : p.files ≠ []
  each : ∀ f ∈ p.files, f.Stocked

theorem FileOutline.Stocked.enterAll {f : FileOutline} (h : f.Stocked) (q : Path)
    (ds : List Declaration) : (f.enterAll q ds).Stocked :=
  ⟨suites_enterAll_ne_nil h.suites q ds, h.tests.enterAll q ds⟩

/-- A file that comes with tests is stocked. -/
theorem FileOutline.stocked_empty_enterAll (q : Path) {ds : List Declaration} (hds : ds ≠ []) :
    ((FileOutline.empty q).enterAll q ds).Stocked where
  suites := filing_suites_ne_nil hds (fun _ _ => "") q ""
  tests := filing_noEmptySuite (fun _ _ => "") q "" ds

/-- **Entering tests** stocks a package whose files are, also one that holds none yet. -/
theorem PackageOutline.stocked_enter {p : PackageOutline} (h : ∀ f ∈ p.files, f.Stocked) (q : Path)
    {ds : List Declaration} (hds : ds ≠ []) : (p.enter q ds).Stocked := by
  constructor
  · rw [files_enter]
    exact upsert_ne_nil
  · rw [files_enter]
    refine forall_mem_upsert h ?_ fun f hf _ => ?_
    · exact FileOutline.stocked_empty_enterAll q hds
    · exact (h f hf).enterAll q ds

theorem stocked_enterOutline {ps : List PackageOutline} (h : ∀ p ∈ ps, p.Stocked) (label : String)
    (q : Path) (package : String) {ds : List Declaration} (hds : ds ≠ []) :
    ∀ p ∈ enterOutline ps label q package ds, p.Stocked := by
  refine forall_mem_upsert h ?_ fun p hp _ => ?_
  · exact PackageOutline.stocked_enter (fun f hf => absurd hf List.not_mem_nil) q hds
  · exact PackageOutline.stocked_enter (h p hp).each q hds

/-- **Pruning stocks** any outline: each level is filtered after the one below it. -/
theorem stocked_pruneOutline (ps : List PackageOutline) : ∀ p ∈ pruneOutline ps, p.Stocked := by
  intro p' hp'
  obtain ⟨hp', hfiles⟩ := List.mem_filter.mp hp'
  obtain ⟨p, -, rfl⟩ := List.mem_map.mp hp'
  refine ⟨by simpa using hfiles, fun f' hf' => ?_⟩
  obtain ⟨hf', hsuites⟩ := List.mem_filter.mp hf'
  obtain ⟨f, -, rfl⟩ := List.mem_map.mp hf'
  refine ⟨by simpa using hsuites, fun s hs => ?_⟩
  simpa using (List.mem_filter.mp hs).2

theorem PackageOutline.Stocked.prune {p : PackageOutline} (h : p.Stocked) : p.prune = p := by
  have hfiles : p.files.map FileOutline.prune = p.files :=
    (List.map_congr_left fun f hf => (h.each f hf).tests.prune).trans (List.map_id _)
  have hkept : p.files.filter (!·.suites.isEmpty) = p.files :=
    List.filter_eq_self.mpr fun f hf => by simpa using (h.each f hf).suites
  rw [PackageOutline.prune, hfiles, hkept]

/-- Pruning takes nothing out of a stocked outline. -/
theorem pruneOutline_eq_self {ps : List PackageOutline} (h : ∀ p ∈ ps, p.Stocked) :
    pruneOutline ps = ps := by
  have hpackages : ps.map PackageOutline.prune = ps :=
    (List.map_congr_left fun p hp => (h p hp).prune).trans (List.map_id _)
  rw [pruneOutline, hpackages]
  exact List.filter_eq_self.mpr fun p hp => by simpa using (h p hp).files

/-! ## 2. Catalogs in which nothing is empty -/

namespace Catalog

/-- No package, file or suite of the tree is without children. -/
structure Stocked (c : Catalog) : Prop where
  packages : ∀ p ∈ c.packages, p.files ≠ []
  files : ∀ f ∈ c.files, f.suites ≠ []
  suites : ∀ f ∈ c.files, ∀ s ∈ f.suites, s.tests ≠ []

/-- The outline tells: it has as many children as the node. -/
theorem stocked_iff_outline (c : Catalog) : c.Stocked ↔ ∀ p ∈ c.outline, p.Stocked := by
  constructor
  · intro h o ho
    obtain ⟨p, hp, rfl⟩ := List.mem_map.mp ho
    refine ⟨mt List.map_eq_nil_iff.mp (h.packages p hp), fun g hg => ?_⟩
    obtain ⟨f, hf, rfl⟩ := List.mem_map.mp hg
    have hfile : f ∈ c.files := mem_files.mpr ⟨p, hp, hf⟩
    refine ⟨mt List.map_eq_nil_iff.mp (h.files f hfile), fun r hr => ?_⟩
    obtain ⟨s, hs, rfl⟩ := List.mem_map.mp hr
    exact mt List.map_eq_nil_iff.mp (h.suites f hfile s hs)
  · intro h
    have hpackage : ∀ p ∈ c.packages, (p.outline c.meaning?).Stocked := fun p hp =>
      h _ (List.mem_map_of_mem hp)
    have hfile : ∀ f ∈ c.files, (f.outline c.meaning?).Stocked := by
      intro f hf
      obtain ⟨p, hp, hf⟩ := mem_files.mp hf
      exact (hpackage p hp).each _ (List.mem_map_of_mem hf)
    refine ⟨fun p hp => ?_, fun f hf => ?_, fun f hf s hs => ?_⟩
    · exact mt List.map_eq_nil_iff.mpr (hpackage p hp).files
    · exact mt List.map_eq_nil_iff.mpr (hfile f hf).suites
    · exact mt List.map_eq_nil_iff.mpr ((hfile f hf).tests _ (List.mem_map_of_mem hs))

theorem Stocked.of_outline {c c' : Catalog} (h : c.Stocked) (hsame : c'.outline = c.outline) :
    c'.Stocked := by
  rw [stocked_iff_outline] at h ⊢
  rw [hsame]
  exact h

/-! ### 2.1 What pruning would remove -/

theorem emptySuites_eq_nil_iff (p : PackageNode) :
    emptySuites p = [] ↔ ∀ f ∈ p.files, ∀ s ∈ f.suites, s.tests ≠ [] := by
  simp only [emptySuites, List.flatMap_eq_nil_iff, List.filter_eq_nil_iff, List.isEmpty_iff]

theorem pruneFile_eq {f : FileNode} (h : ∀ s ∈ f.suites, s.tests ≠ []) : pruneFile f = f := by
  have hkept : f.suites.filter (fun s => !s.tests.isEmpty) = f.suites :=
    List.filter_eq_self.mpr fun s hs => by simpa using h s hs
  rw [pruneFile, hkept]

theorem map_pruneFile_eq {p : PackageNode} (h : ∀ f ∈ p.files, ∀ s ∈ f.suites, s.tests ≠ []) :
    p.files.map pruneFile = p.files :=
  (List.map_congr_left fun f hf => pruneFile_eq (h f hf)).trans (List.map_id p.files)

theorem emptyFiles_eq_nil_iff {p : PackageNode}
    (h : ∀ f ∈ p.files, ∀ s ∈ f.suites, s.tests ≠ []) :
    emptyFiles p = [] ↔ ∀ f ∈ p.files, f.suites ≠ [] := by
  simp only [emptyFiles, map_pruneFile_eq h, List.filter_eq_nil_iff, List.isEmpty_iff, ne_eq]

theorem prunePackage_eq {p : PackageNode} (h : ∀ f ∈ p.files, ∀ s ∈ f.suites, s.tests ≠ [])
    (hfiles : ∀ f ∈ p.files, f.suites ≠ []) : prunePackage p = p := by
  have hkept : p.files.filter (fun f => !f.suites.isEmpty) = p.files :=
    List.filter_eq_self.mpr fun f hf => by simpa using hfiles f hf
  rw [prunePackage, map_pruneFile_eq h, hkept]

/-- **Pruning removes nothing** exactly from a tree in which nothing is empty. -/
theorem removed_prune_eq_zero_iff (c : Catalog) : c.prune.2.1 = 0 ↔ c.Stocked := by
  have hremoved : c.prune.2.1 = 0 ↔ (c.packages.flatMap emptySuites = [] ∧
      c.packages.flatMap emptyFiles = []) ∧
        (c.packages.map prunePackage).filter (·.files.isEmpty) = [] := by
    simp only [prune, Nat.add_eq_zero_iff, List.length_eq_zero_iff, List.map_eq_nil_iff]
  rw [hremoved, List.flatMap_eq_nil_iff, List.flatMap_eq_nil_iff]
  -- each level counts as empty what it holds once the level below has been pruned
  constructor
  · rintro ⟨⟨hsuites, hfiles⟩, hpackages⟩
    have hs := fun p hp => (emptySuites_eq_nil_iff p).mp (hsuites p hp)
    have hf := fun p hp => (emptyFiles_eq_nil_iff (hs p hp)).mp (hfiles p hp)
    refine ⟨fun p hp hnil => ?_, fun f hmem => ?_, fun f hmem => ?_⟩
    · have hmem := List.mem_map_of_mem (f := prunePackage) hp
      rw [prunePackage_eq (hs p hp) (hf p hp)] at hmem
      exact List.filter_eq_nil_iff.mp hpackages p hmem (List.isEmpty_iff.mpr hnil)
    · obtain ⟨p, hp, hfp⟩ := mem_files.mp hmem
      exact hf p hp f hfp
    · obtain ⟨p, hp, hfp⟩ := mem_files.mp hmem
      exact hs p hp f hfp
  · intro h
    have hs : ∀ p ∈ c.packages, ∀ f ∈ p.files, ∀ s ∈ f.suites, s.tests ≠ [] :=
      fun p hp f hf => h.suites f (mem_files.mpr ⟨p, hp, hf⟩)
    have hf : ∀ p ∈ c.packages, ∀ f ∈ p.files, f.suites ≠ [] :=
      fun p hp f hf => h.files f (mem_files.mpr ⟨p, hp, hf⟩)
    refine ⟨⟨fun p hp => ?_, fun p hp => ?_⟩, List.filter_eq_nil_iff.mpr fun p' hp' => ?_⟩
    · exact (emptySuites_eq_nil_iff p).mpr (hs p hp)
    · exact (emptyFiles_eq_nil_iff (hs p hp)).mpr (hf p hp)
    · obtain ⟨p, hp, rfl⟩ := List.mem_map.mp hp'
      rw [prunePackage_eq (hs p hp) (hf p hp), List.isEmpty_iff]
      exact h.packages p hp

/-! ## 3. What each operation leaves -/

theorem stocked_clear (c : Catalog) : c.clear.Stocked where
  packages _ hp := absurd hp List.not_mem_nil
  files _ hf := absurd hf List.not_mem_nil
  suites _ hf := absurd hf List.not_mem_nil

/-- **Whatever is pruned** is stocked. -/
theorem stocked_prune {c : Catalog} (hb : c.Booked) : c.prune.1.Stocked := by
  rw [stocked_iff_outline, outline_prune hb]
  exact stocked_pruneOutline c.outline

theorem Stocked.enterFile {c : Catalog} (h : c.Stocked) (hs : c.Sound) (q : Path)
    (package : String) {ds : List Declaration} (hds : ds ≠ []) :
    (c.enterFile q package ds).Stocked := by
  rw [stocked_iff_outline] at h ⊢
  rw [outline_enterFile hs.booked.tracks hs.distinct]
  exact stocked_enterOutline h _ q package hds

theorem Stocked.notifyIf {c : Catalog} (h : c.Stocked) (changed : Bool) (journal : Journal) :
    (c.notifyIf changed journal).1.Stocked := by
  unfold Catalog.notifyIf
  split
  · exact h.of_outline (outline_same rfl rfl)
  · exact h

theorem Stocked.discoverText {c : Catalog} (h : c.Stocked) (hs : c.Sound) (q : Path)
    (text : String) : (c.discoverText q text).1.Stocked := by
  unfold Catalog.discoverText
  split
  · exact h
  · split
    · exact h
    case h_2 hne => exact h.enterFile hs q _ hne

/-- Discovering never empties anything. -/
theorem Stocked.discoverQuietly {c : Catalog} (h : c.Stocked) (hs : c.Sound) (files : FileTree)
    (q : Path) (content : Option String) : (c.discoverQuietly files q content).1.Stocked := by
  unfold Catalog.discoverQuietly
  split
  · exact h
  · split
    · exact h.discoverText hs q _
    · split
      · exact h.discoverText hs q _
      · exact h

theorem Stocked.discover {c : Catalog} (h : c.Stocked) (hs : c.Sound) (files : FileTree) (q : Path)
    (content : Option String) : (c.discover files q content).1.Stocked :=
  (h.discoverQuietly hs files q content).notifyIf ..

/-- A modification ends in a stocked tree, whatever was empty before. -/
theorem stocked_onModified {c : Catalog} (hs : c.Sound) (files : FileTree) (q : Path) :
    (c.onModified files q).1.Stocked := by
  unfold onModified
  dsimp only
  split
  · exact stocked_prune ((c.keeps_discoverQuietly files q none).sound hs).booked
  · exact stocked_prune ((c.keeps_refreshQuietly files _).sound hs).booked

/-- A deletion prunes if it has taken a file out, and else changes nothing. -/
theorem Stocked.onDeleted {c : Catalog} (h : c.Stocked) (hs : c.Sound) (q : Path) :
    (c.onDeleted q).1.Stocked := by
  have hremove := (c.loses_removeFile q).keeps.sound hs
  unfold Catalog.onDeleted
  split
  case h_1 c' hc' =>
    unfold removeFile at hc'
    split at hc'
    · obtain rfl := (Prod.mk.inj hc').1
      exact h
    · cases (Prod.mk.inj hc').2
  case h_2 c' hc' =>
    rw [hc'] at hremove
    exact stocked_prune hremove.booked

theorem Stocked.follow {c : Catalog} (h : c.Stocked) (hs : c.Sound) (files : FileTree)
    (event : Watch.FileEvent) : (c.follow files event).1.Stocked := by
  unfold Catalog.follow
  refine Stocked.notifyIf ?_ _ _
  cases event.kind with
  | created => exact h.discoverQuietly hs files event.path none
  | modified => exact stocked_onModified hs files event.path
  | deleted => exact h.onDeleted hs event.path

end Catalog

/-! ### 3.1 Rescans -/

namespace Rescan

variable (files : FileTree) (cancelled : CancelSignal)

theorem stocked_eachFile (paths : List Path) {r : Rescan} (h : r.catalog.Stocked)
    (hs : r.catalog.Sound) : (r.eachFile files cancelled paths).catalog.Stocked := by
  induction paths generalizing r with
  | nil => exact h
  | cons path paths ih =>
    rw [eachFile]
    dsimp only [look]
    split
    · exact h
    · apply ih
      · exact h.discover hs files path none
      · exact (r.catalog.keeps_discover files path none).sound hs

theorem stocked_watch {r : Rescan} (h : r.catalog.Stocked) (root : Path) :
    (r.watch root).catalog.Stocked := by
  unfold watch
  dsimp only
  split
  · exact h.of_outline (Catalog.outline_same rfl rfl)
  · exact h

/-- A rescan leaves a stocked tree wherever it stops. -/
theorem stocked_eachRoot (roots : List Path) {r : Rescan} (h : r.catalog.Stocked)
    (hs : r.catalog.Sound) : (r.eachRoot files cancelled roots).catalog.Stocked := by
  induction roots generalizing r with
  | nil => exact h
  | cons root roots ih =>
    have hwatch := stocked_watch h root
    have hsound := (r.keeps_watch root).sound hs
    rw [eachRoot]
    dsimp only [look]
    split
    · exact hwatch
    · apply ih
      · exact stocked_eachFile files cancelled _ hwatch hsound
      · exact (keeps_eachFile files cancelled _ _).sound hsound

end Rescan

namespace Catalog

theorem Stocked.rescan {c : Catalog} (h : c.Stocked) (hs : c.Sound) (files : FileTree)
    (cancelled : CancelSignal) : (c.rescan files cancelled).1.Stocked := by
  have hclear : c.clear.closeWatches.Stocked :=
    c.stocked_clear.of_outline (outline_same rfl rfl)
  unfold Catalog.rescan
  dsimp only [Rescan.look]
  split
  · exact h
  · exact Rescan.stocked_eachRoot files cancelled _ (r := ⟨_, _, _, _⟩) hclear
      (c.keeps_clear_closeWatches.sound hs)

end Catalog

/-! ## 4. Live operation -/

/-- What keeps a catalog up to date: rescans, files that are discovered, and changes that
    are followed.  Emptying a node or taking it out is not among them. -/
inductive LiveAct where
  | rescan (files : FileTree) (cancelled : CancelSignal)
  | discover (files : FileTree) (path : Path) (content : Option String)
  | follow (files : FileTree) (event : Watch.FileEvent)

def LiveAct.act : LiveAct → CatalogAct
  | .rescan files cancelled => .rescan files cancelled
  | .discover files path content => .discover files path content
  | .follow files event => .follow files event

namespace Catalog

theorem Stocked.perform {c : Catalog} (h : c.Stocked) (hs : c.Sound) (a : LiveAct) :
    (c.perform a.act).Stocked := by
  cases a with
  | rescan files cancelled => exact h.rescan hs files cancelled
  | discover files path content => exact h.discover hs files path content
  | follow files event => exact h.follow hs files event

theorem Stocked.performAll {c : Catalog} (h : c.Stocked) (hs : c.Sound) (acts : List LiveAct) :
    (c.performAll (acts.map LiveAct.act)).Stocked := by
  induction acts generalizing c with
  | nil => exact h
  | cons a acts ih => exact ih (h.perform hs a) ((c.keeps_perform a.act).sound hs)

theorem stocked_fresh (settings : CatalogSettings) (listeners : List Listener) :
    (fresh settings listeners).Stocked where
  packages _ hp := absurd hp List.not_mem_nil
  files _ hf := absurd hf List.not_mem_nil
  suites _ hf := absurd hf List.not_mem_nil

/-- **Nothing empty survives live operation.**  After any rescans, cancelled or not,
    discoveries and changes, each of which finds the files as they then are, no package,
    file or suite is without children, and pruning would remove nothing. -/
theorem stocked_live (settings : CatalogSettings) (listeners : List Listener)
    (acts : List LiveAct) :
    let c := (fresh settings listeners).performAll (acts.map LiveAct.act)
    c.Stocked ∧ c.prune.2.1 = 0 := by
  intro c
  have hstocked : c.Stocked :=
    (stocked_fresh settings listeners).performAll (sound_fresh settings listeners) acts
  exact ⟨hstocked, c.removed_prune_eq_zero_iff.mpr hstocked⟩

end Catalog
end SuiteExplorer
