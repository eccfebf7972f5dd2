/-
  SuiteExplorer/Proofs/Catalog/Soundness.lean
  ===========================================
  **A node stands for something exactly as long as it is in the tree.**

  The tree and the index of the catalog are changed separately, by many operations,
  some of which may be given nodes that have long left.  `Catalog.Sound` is the
  invariant of all of them: the books know the nodes of the tree and no others,
  siblings have distinct ids, and every node is of the form that entering a file
  gives it.  `CatalogAct` lists the operations; each of them keeps the invariant
  whatever files it finds (`keeps_perform`), so every sequence of them does
  (`sound_performAll`), and the index is the tree (`meaning_iff_mem_tree`).
-/
import SuiteExplorer.Catalog.Following
import SuiteExplorer.Proofs.Catalog.Entering
import SuiteExplorer.Proofs.Catalog.Thinning

namespace SuiteExplorer

open Keyed

/-! ## 1. The form of the nodes of each level -/

/-- A suite and its tests are what declarations make of them. -/
def SuiteOutline.Fits (s : SuiteOutline) : Prop :=
  (∃ path d, s.head = (SuiteOutline.empty path d).head) ∧ ∀ t ∈ s.tests, ∃ path d, t = .test path d

def FileOutline.Fits (f : FileOutline) : Prop :=
  (∃ path, f.head = (FileOutline.empty path).head) ∧ ∀ s ∈ f.suites, s.Fits

def PackageOutline.Fits (p : PackageOutline) : Prop :=
  (∃ label directory name, p.head = (PackageOutline.empty label directory name).head) ∧
    ∀ f ∈ p.files, f.Fits

/-- Every node is what entering a file makes it. -/
def Fits (ps : List PackageOutline) : Prop := ∀ p ∈ ps, p.Fits

theorem SuiteOutline.Fits.enter {s : SuiteOutline} (h : s.Fits) (path : Path) (d : Declaration) :
    (s.enter path d).Fits := by
  refine ⟨h.1, ?_⟩
  rw [SuiteOutline.tests_enter]
  exact forall_mem_upsert h.2 ⟨path, d, rfl⟩ fun _ _ _ => ⟨path, d, rfl⟩

theorem SuiteOutline.fits_empty (path : Path) (d : Declaration) :
    (SuiteOutline.empty path d).Fits :=
  ⟨⟨path, d, rfl⟩, fun _ ht => by cases ht⟩

theorem FileOutline.Fits.enter {f : FileOutline} (h : f.Fits) (path : Path) (d : Declaration) :
    (f.enter path d).Fits := by
  refine ⟨h.1, ?_⟩
  rw [FileOutline.suites_enter]
  refine forall_mem_upsert h.2 ?_ fun s hs _ => ?_
  · exact (SuiteOutline.fits_empty path d).enter path d
  · exact (h.2 s hs).enter path d

theorem FileOutline.Fits.enterAll {f : FileOutline} (h : f.Fits) (path : Path)
    (ds : List Declaration) : (f.enterAll path ds).Fits := by
  induction ds generalizing f with
  | nil => exact h
  | cons d ds ih => exact ih (h.enter path d)

theorem FileOutline.fits_empty (path : Path) : (FileOutline.empty path).Fits :=
  ⟨⟨path, rfl⟩, fun _ hs => by cases hs⟩

theorem PackageOutline.Fits.enter {p : PackageOutline} (h : p.Fits) (path : Path)
    (ds : List Declaration) : (p.enter path ds).Fits := by
  refine ⟨h.1, ?_⟩
  rw [PackageOutline.files_enter]
  refine forall_mem_upsert h.2 ?_ fun f hf _ => ?_
  · exact (FileOutline.fits_empty path).enterAll path ds
  · exact (h.2 f hf).enterAll path ds

theorem PackageOutline.fits_empty (label : String) (directory : Path) (name : String) :
    (PackageOutline.empty label directory name).Fits :=
  ⟨⟨label, directory, name, rfl⟩, fun _ hf => by cases hf⟩

theorem Fits.enter {ps : List PackageOutline} (h : Fits ps) (label : String) (path : Path)
    (package : String) (ds : List Declaration) : Fits (enterOutline ps label path package ds) := by
  unfold enterOutline
  refine forall_mem_upsert h ?_ fun p hp _ => ?_
  · exact (PackageOutline.fits_empty label path.parent package).enter path ds
  · exact (h p hp).enter path ds

theorem SuiteOutline.Thins.fits {s' s : SuiteOutline} (h : s'.Thins s) (hs : s.Fits) : s'.Fits :=
  ⟨h.1 ▸ hs.1, fun t ht => hs.2 t (h.2.subset ht)⟩

theorem FileOutline.Thins.fits {f' f : FileOutline} (h : f'.Thins f) (hf : f.Fits) : f'.Fits := by
  refine ⟨h.1 ▸ hf.1, fun s' hs' => ?_⟩
  obtain ⟨s, hs, hthins⟩ := exists_of_mem_sublistForall₂ h.2 s' hs'
  exact hthins.fits (hf.2 s hs)

theorem PackageOutline.Thins.fits {p' p : PackageOutline} (h : p'.Thins p) (hp : p.Fits) :
    p'.Fits := by
  refine ⟨h.1 ▸ hp.1, fun f' hf' => ?_⟩
  obtain ⟨f, hf, hthins⟩ := exists_of_mem_sublistForall₂ h.2 f' hf'
  exact hthins.fits (hp.2 f hf)

theorem Thins.fits {ps' ps : List PackageOutline} (h : Thins ps' ps) (hps : Fits ps) :
    Fits ps' := by
  intro p' hp'
  obtain ⟨p, hp, hthins⟩ := exists_of_mem_sublistForall₂ h p' hp'
  exact hthins.fits (hps p hp)

/-! ## 2. The invariant -/

namespace Catalog

/-- The tree and the books of a catalog agree. -/
structure Sound (c : Catalog) : Prop where
  booked : c.Booked
  distinct : DistinctIds c.outline
  fits : Fits c.outline

/-- An operation keeps the settings of a catalog, and the invariant. -/
structure Keeps (c c' : Catalog) : Prop where
  settings : c'.settings = c.settings
  sound : c.Sound → c'.Sound

theorem Keeps.refl (c : Catalog) : c.Keeps c := ⟨rfl, id⟩

theorem Keeps.trans {c c' c'' : Catalog} (h : c.Keeps c') (h' : c'.Keeps c'') : c.Keeps c'' :=
  ⟨h'.settings.trans h.settings, fun hc => h'.sound (h.sound hc)⟩

/-- Listeners and watches play no part. -/
theorem keeps_of_tree {c c' : Catalog} (hsettings : c'.settings = c.settings)
    (hpackages : c'.packages = c.packages) (hbooks : c'.books = c.books) : c.Keeps c' := by
  have hrefs : c'.refs = c.refs := by rw [refs, refs, hpackages]
  have houtline := outline_same hpackages hbooks
  refine ⟨hsettings, fun h => ⟨⟨?_, ?_⟩, houtline ▸ h.distinct, houtline ▸ h.fits⟩⟩
  · rw [hrefs, hbooks]; exact h.booked.tracks
  · rw [hbooks]; exact h.booked.apart

/-- The invariant survives the loss of nodes. -/
theorem Loses.keeps {c c' : Catalog} (hl : c.Loses c') : c.Keeps c' where
  settings := hl.settings
  sound h :=
    ⟨hl.booked h.booked, (hl.thins_outline h.booked).distinctIds h.distinct,
      (hl.thins_outline h.booked).fits h.fits⟩

/-- The invariant survives the entry of a file. -/
theorem keeps_enterFile (c : Catalog) (path : Path) (package : String) (ds : List Declaration) :
    c.Keeps (c.enterFile path package ds) where
  settings := c.settings_enterFile path package ds
  sound h := by
    have henter := becomes_enterFile h.booked.tracks h.distinct path package ds
    have houtline := outline_enterFile h.booked.tracks h.distinct path package ds
    have ht : c.books.Tracks (c.refs ++ []) := by rw [List.append_nil]; exact h.booked.tracks
    refine ⟨⟨?_, ?_⟩, ?_, ?_⟩
    · have ht' := henter.turns.tracks [] ht
      rwa [List.append_nil] at ht'
    · exact henter.turns.apart [] ht h.booked.apart
    · rw [houtline]; exact h.distinct.enter ..
    · rw [houtline]; exact h.fits.enter _ _ _ _

/-- A catalog in which nothing has been found yet. -/
def fresh (settings : CatalogSettings) (listeners : List Listener := []) : Catalog :=
  { settings := settings, listeners := listeners }

theorem sound_fresh (settings : CatalogSettings) (listeners : List Listener) :
    (fresh settings listeners).Sound where
  booked := ⟨Books.tracks_nil rfl, fun _ hd => absurd hd List.not_mem_nil⟩
  distinct := ⟨List.nodup_nil, fun _ hp => absurd hp List.not_mem_nil⟩
  fits := fun _ hp => absurd hp List.not_mem_nil

/-! ### 2.1 What a node stands for tells its kind -/

theorem mem_files {c : Catalog} {f : FileNode} : f ∈ c.files ↔ ∃ p ∈ c.packages, f ∈ p.files :=
  List.mem_flatMap

theorem Sound.meaning_package {c : Catalog} (h : c.Sound) {p : PackageNode}
    (hp : p ∈ c.packages) : c.meaning? p.info.ref = some .package := by
  obtain ⟨⟨label, directory, name, hhead⟩, -⟩ := h.fits _ (List.mem_map_of_mem hp)
  exact congrArg NodeOutline.meaning hhead

theorem Sound.meaning_file {c : Catalog} (h : c.Sound) {f : FileNode} (hf : f ∈ c.files) :
    c.meaning? f.info.ref = some .file := by
  obtain ⟨p, hp, hf⟩ := mem_files.mp hf
  obtain ⟨-, hfiles⟩ := h.fits _ (List.mem_map_of_mem hp)
  obtain ⟨⟨path, hhead⟩, -⟩ := hfiles _ (List.mem_map_of_mem hf)
  exact congrArg NodeOutline.meaning hhead

theorem Sound.meaning_suite {c : Catalog} (h : c.Sound) {f : FileNode} (hf : f ∈ c.files)
    {s : SuiteNode} (hs : s ∈ f.suites) :
    ∃ suite, c.meaning? s.info.ref = some (.runnable (.suite suite)) := by
  obtain ⟨p, hp, hf⟩ := mem_files.mp hf
  obtain ⟨-, hfiles⟩ := h.fits _ (List.mem_map_of_mem hp)
  obtain ⟨-, hsuites⟩ := hfiles _ (List.mem_map_of_mem hf)
  obtain ⟨⟨path, d, hhead⟩, -⟩ := hsuites _ (List.mem_map_of_mem hs)
  exact ⟨_, congrArg NodeOutline.meaning hhead⟩

theorem Sound.meaning_test {c : Catalog} (h : c.Sound) {f : FileNode} (hf : f ∈ c.files)
    {s : SuiteNode} (hs : s ∈ f.suites) {t : NodeInfo} (ht : t ∈ s.tests) :
    ∃ d, c.meaning? t.ref = some (.runnable (.test d)) := by
  obtain ⟨p, hp, hf⟩ := mem_files.mp hf
  obtain ⟨-, hfiles⟩ := h.fits _ (List.mem_map_of_mem hp)
  obtain ⟨-, hsuites⟩ := hfiles _ (List.mem_map_of_mem hf)
  obtain ⟨-, htests⟩ := hsuites _ (List.mem_map_of_mem hs)
  obtain ⟨path, d, htest⟩ := htests _ (List.mem_map_of_mem ht)
  exact ⟨d, congrArg NodeOutline.meaning htest⟩

/-! ## 3. Discovering and refreshing -/

variable (c : Catalog) (files : FileTree)

theorem keeps_notifyIf (changed : Bool) (journal : Journal) :
    c.Keeps (c.notifyIf changed journal).1 := by
  unfold notifyIf
  split
  · exact keeps_of_tree rfl rfl rfl
  · exact .refl c

theorem keeps_discoverText (path : Path) (text : String) :
    c.Keeps (c.discoverText path text).1 := by
  unfold discoverText
  split
  · exact .refl c
  · split
    · exact .refl c
    · exact c.keeps_enterFile _ _ _

theorem keeps_discoverQuietly (path : Path) (content : Option String) :
    c.Keeps (c.discoverQuietly files path content).1 := by
  unfold discoverQuietly
  split
  · exact .refl c
  · split
    · exact c.keeps_discoverText _ _
    · split
      · exact c.keeps_discoverText _ _
      · exact .refl c

theorem keeps_discover (path : Path) (content : Option String) :
    c.Keeps (c.discover files path content).1 :=
  (c.keeps_discoverQuietly files path content).trans (keeps_notifyIf _ _ _)

theorem keeps_refreshQuietly (ref : NodeRef) : c.Keeps (c.refreshQuietly files ref).1 :=
  (c.loses_clearChildren ref).keeps.trans (keeps_discoverQuietly _ files _ none)

theorem keeps_refreshFile (ref : NodeRef) : c.Keeps (c.refreshFile files ref).1 :=
  (c.keeps_refreshQuietly files ref).trans (keeps_notifyIf _ _ _)

theorem keeps_discoverEach (paths : List Path) (c : Catalog) :
    c.Keeps (c.discoverEach files paths).1 := by
  induction paths generalizing c with
  | nil => exact .refl c
  | cons path paths ih => exact (c.keeps_discoverQuietly files path none).trans (ih _)

theorem keeps_refreshPackage (ref : NodeRef) : c.Keeps (c.refreshPackage files ref).1 := by
  refine (c.loses_clearChildren ref).keeps.trans ?_
  unfold refreshPackage
  dsimp only
  split
  · exact keeps_notifyIf _ _ _
  · exact (keeps_discoverEach files _ _).trans (keeps_notifyIf _ _ _)

theorem keeps_onModified (path : Path) : c.Keeps (c.onModified files path).1 := by
  unfold onModified
  dsimp only
  split
  · exact (c.keeps_discoverQuietly files path none).trans (loses_prune _).keeps
  · exact (c.keeps_refreshQuietly files _).trans (loses_prune _).keeps

theorem keeps_onDeleted (path : Path) : c.Keeps (c.onDeleted path).1 := by
  have hremove := (c.loses_removeFile path).keeps
  unfold onDeleted
  split
  case h_1 c' hc' => rw [hc'] at hremove; exact hremove
  case h_2 c' hc' => rw [hc'] at hremove; exact hremove.trans c'.loses_prune.keeps

theorem keeps_follow (e : Watch.FileEvent) : c.Keeps (c.follow files e).1 := by
  unfold follow
  dsimp only
  refine Keeps.trans ?_ (keeps_notifyIf _ _ _)
  split
  · exact c.keeps_discoverQuietly files e.path none
  · exact c.keeps_onModified files e.path
  · exact c.keeps_onDeleted e.path

end Catalog

/-! ## 4. Rescanning -/

namespace Rescan

variable (files : FileTree) (cancelled : CancelSignal)

theorem keeps_eachFile (paths : List Path) (r : Rescan) :
    r.catalog.Keeps (r.eachFile files cancelled paths).catalog := by
  induction paths generalizing r with
  | nil => exact .refl _
  | cons path paths ih =>
    rw [eachFile]
    dsimp only [look]
    split
    · exact .refl _
    · refine Catalog.Keeps.trans ?_ (ih _)
      exact r.catalog.keeps_discover files path none

theorem keeps_watch (r : Rescan) (root : Path) : r.catalog.Keeps (r.watch root).catalog := by
  unfold watch
  dsimp only
  split
  · exact Catalog.keeps_of_tree rfl rfl rfl
  · exact .refl _

theorem keeps_eachRoot (roots : List Path) (r : Rescan) :
    r.catalog.Keeps (r.eachRoot files cancelled roots).catalog := by
  induction roots generalizing r with
  | nil => exact .refl _
  | cons root roots ih =>
    rw [eachRoot]
    dsimp only [look]
    split
    · exact r.keeps_watch root
    · refine Catalog.Keeps.trans ?_ (ih _)
      refine Catalog.Keeps.trans ?_ (keeps_eachFile files cancelled _ _)
      exact r.keeps_watch root

end Rescan

namespace Catalog

variable (c : Catalog) (files : FileTree)

/-- The catalog that a rescan begins with. -/
theorem keeps_clear_closeWatches : c.Keeps c.clear.closeWatches :=
  c.loses_clear.keeps.trans (keeps_of_tree rfl rfl rfl)

theorem keeps_rescan (cancelled : CancelSignal) : c.Keeps (c.rescan files cancelled).1 := by
  unfold rescan
  dsimp only [Rescan.look]
  split
  · exact .refl c
  · exact Keeps.trans c.keeps_clear_closeWatches (Rescan.keeps_eachRoot files cancelled _ ⟨_, _, _, _⟩)

theorem keeps_resolve (ref? : Option NodeRef) : c.Keeps (c.resolve files ref?).1 := by
  unfold resolve
  split
  · exact c.keeps_rescan files .never
  · split
    · exact .refl c
    · exact c.keeps_refreshPackage files _
    · exact c.keeps_refreshFile files _
    · exact c.keeps_discover files _ none

theorem keeps_dispose : c.Keeps c.dispose := by
  have hclose : c.Keeps c.closeWatches := keeps_of_tree rfl rfl rfl
  exact (hclose.trans (loses_clear _).keeps).trans (keeps_of_tree rfl rfl rfl)

end Catalog

/-! ## 5. States of nodes

A run changes the states of nodes and nothing else. -/

mutual

theorem Subtree.refs_mapInfo {f : NodeInfo → NodeInfo} (hf : ∀ i, (f i).ref = i.ref) :
    ∀ t : Subtree, (t.mapInfo f).refs = t.refs
  | .node i cs => by
    rw [Subtree.mapInfo, Subtree.refs_node, Subtree.refs_node, hf, Subtree.refsOf_mapInfoIn hf cs]

theorem Subtree.refsOf_mapInfoIn {f : NodeInfo → NodeInfo} (hf : ∀ i, (f i).ref = i.ref) :
    ∀ ts : List Subtree, Subtree.refsOf (Subtree.mapInfoIn f ts) = Subtree.refsOf ts
  | [] => rfl
  | t :: ts => by
    rw [Subtree.mapInfoIn, Subtree.refsOf_cons, Subtree.refsOf_cons, Subtree.refs_mapInfo hf t,
      Subtree.refsOf_mapInfoIn hf ts]

end

namespace Catalog

section Unseen

variable {f : NodeInfo → NodeInfo} (href : ∀ i, (f i).ref = i.ref)
  (houtline : ∀ (μ : Reading) i, (f i).outline μ = i.outline μ)

include href in
theorem refs_mapInfo (c : Catalog) : (c.mapInfo f).refs = c.refs := by
  have hsuite : ∀ s : SuiteNode, (s.mapInfo f).refs = s.refs := fun s => by
    simp only [SuiteNode.refs, SuiteNode.mapInfo, List.flatMap_map, NodeInfo.refs, href]
  have hfile : ∀ g : FileNode, (g.mapInfo f).refs = g.refs := fun g => by
    simp only [FileNode.refs, FileNode.mapInfo, List.flatMap_map, hsuite, href]
  simp only [refs, mapInfo, PackageNode.refs, PackageNode.mapInfo, List.flatMap_map, hfile, href]

include houtline in
theorem outline_mapInfo (c : Catalog) : (c.mapInfo f).outline = c.outline := by
  have hsuite : ∀ s : SuiteNode, (s.mapInfo f).outline c.meaning? = s.outline c.meaning? :=
    fun s => by simp only [SuiteNode.outline, SuiteNode.mapInfo, List.map_map, Function.comp_def,
      houtline]
  have hfile : ∀ g : FileNode, (g.mapInfo f).outline c.meaning? = g.outline c.meaning? :=
    fun g => by simp only [FileNode.outline, FileNode.mapInfo, List.map_map, Function.comp_def,
      houtline, hsuite]
  have hpackage : ∀ p : PackageNode, (p.mapInfo f).outline c.meaning? = p.outline c.meaning? :=
    fun p => by simp only [PackageNode.outline, PackageNode.mapInfo, List.map_map,
      Function.comp_def, houtline, hfile]
  calc (c.mapInfo f).outline
      = (c.packages.map (·.mapInfo f)).map (·.outline c.meaning?) := rfl
    _ = c.outline := by
        rw [List.map_map]
        exact List.map_congr_left fun p _ => hpackage p

include href houtline in
theorem keeps_mapInfo (c : Catalog) : c.Keeps (c.mapInfo f) := by
  refine ⟨rfl, fun h => ⟨⟨?_, ?_⟩, ?_, ?_⟩⟩
  · rw [refs_mapInfo href]
    exact h.booked.tracks.of_index rfl rfl
  · intro d' hd' r hr
    obtain ⟨d, hd, rfl⟩ := List.mem_map.mp hd'
    rw [Subtree.refs_mapInfo href] at hr
    exact h.booked.apart d hd r hr
  · rw [outline_mapInfo houtline]; exact h.distinct
  · rw [outline_mapInfo houtline]; exact h.fits

end Unseen

theorem keeps_setState (c : Catalog) (ref : NodeRef) (state : RunState) :
    c.Keeps (c.setState ref state) := by
  refine keeps_mapInfo (fun i => ?_) (fun μ i => ?_) c
  · split <;> rfl
  · split <;> rfl

end Catalog

/-! ## 6. Sequences of operations -/

/-- An operation on a catalog.  Every one that reads files finds its own file system,
    and a node may be any node at all, in the tree or not. -/
inductive CatalogAct where
  | discover (files : FileTree) (path : Path) (content : Option String)
  | refreshFile (files : FileTree) (ref : NodeRef)
  | refreshPackage (files : FileTree) (ref : NodeRef)
  | resolve (files : FileTree) (ref : Option NodeRef)
  | prune
  | removeFile (path : Path)
  | rescan (files : FileTree) (cancelled : CancelSignal)
  | follow (files : FileTree) (event : Watch.FileEvent)
  | clear
  | dispose
  | setState (ref : NodeRef) (state : RunState)
  | listen (listener : Listener)

namespace Catalog

def perform (c : Catalog) : CatalogAct → Catalog
  | .discover files path content => (c.discover files path content).1
  | .refreshFile files ref => (c.refreshFile files ref).1
  | .refreshPackage files ref => (c.refreshPackage files ref).1
  | .resolve files ref => (c.resolve files ref).1
  | .prune => c.prune.1
  | .removeFile path => (c.removeFile path).1
  | .rescan files cancelled => (c.rescan files cancelled).1
  | .follow files event => (c.follow files event).1
  | .clear => c.clear
  | .dispose => c.dispose
  | .setState ref state => c.setState ref state
  | .listen listener => { c with listeners := c.listeners ++ [listener] }

/-- Perform operations one after the other. -/
def performAll (c : Catalog) (acts : List CatalogAct) : Catalog := acts.foldl perform c

/-- **Every operation** keeps the settings and the invariant. -/
theorem keeps_perform (c : Catalog) (act : CatalogAct) : c.Keeps (c.perform act) := by
  cases act with
  | discover files path content => exact c.keeps_discover files path content
  | refreshFile files ref => exact c.keeps_refreshFile files ref
  | refreshPackage files ref => exact c.keeps_refreshPackage files ref
  | resolve files ref => exact c.keeps_resolve files ref
  | prune => exact c.loses_prune.keeps
  | removeFile path => exact (c.loses_removeFile path).keeps
  | rescan files cancelled => exact c.keeps_rescan files cancelled
  | follow files event => exact c.keeps_follow files event
  | clear => exact c.loses_clear.keeps
  | dispose => exact c.keeps_dispose
  | setState ref state => exact c.keeps_setState ref state
  | listen listener => exact keeps_of_tree rfl rfl rfl

theorem keeps_performAll (acts : List CatalogAct) (c : Catalog) : c.Keeps (c.performAll acts) := by
  induction acts generalizing c with
  | nil => exact .refl c
  | cons act acts ih => exact (c.keeps_perform act).trans (ih _)

/-- Whatever has been done to it, the tree and the books of a catalog agree. -/
theorem sound_performAll (settings : CatalogSettings) (listeners : List Listener)
    (acts : List CatalogAct) : ((fresh settings listeners).performAll acts).Sound :=
  (keeps_performAll acts _).sound (sound_fresh settings listeners)

theorem settings_performAll (settings : CatalogSettings) (listeners : List Listener)
    (acts : List CatalogAct) :
    ((fresh settings listeners).performAll acts).settings = settings :=
  (keeps_performAll acts _).settings

/-- **The index is the tree.**  Whatever is done to a catalog, a node stands for
    something exactly if it is in the tree; what has left stands for nothing. -/
theorem meaning_iff_mem_tree (settings : CatalogSettings) (listeners : List Listener)
    (acts : List CatalogAct) (ref : NodeRef) :
    let c := (fresh settings listeners).performAll acts
    ((c.meaning? ref).isSome ↔ ref ∈ c.infos.map (·.ref)) ∧
      (∀ d ∈ c.books.departed, ref ∈ d.tree.refs → c.meaning? ref = none) := by
  intro c
  have hsound : c.Sound := sound_performAll settings listeners acts
  rw [c.map_ref_infos]
  exact ⟨hsound.booked.tracks.known ref, fun d hd hr => (hsound.booked.apart d hd ref hr).2⟩

end Catalog
end SuiteExplorer
