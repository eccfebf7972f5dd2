/-
  SuiteExplorer/Proofs/Catalog/Rescanning.lean
  ============================================
  **What a rescan leaves.**

  A rescan forgets everything and enters, one after the other, the files that the
  listings of the roots reach (`grows_rescan`).  Entering merges, so afterwards there
  are only nodes of files that hold tests, and there is something at the place of each
  of them, whatever the catalog was before and whoever listens.  The nodes are exactly
  those of these files as long as no two packages share an id; the id of a package is its
  directory, a colon and its name, so two directories can claim one id, and then the
  files of the second one are filed in the package of the first (`rescan_exact_iff`).
-/
import SuiteExplorer.Proofs.Catalog.Merging
import SuiteExplorer.Proofs.Catalog.Nodes

namespace SuiteExplorer

open Keyed

/-! ## 1. Entering the listed files -/

namespace Catalog

/-- Enter what reading a file finds into an outline. -/
def enterRead (c : Catalog) (files : FileTree) (ps : List PackageOutline) (q : Path) :
    List PackageOutline :=
  match c.findings? files q with
  | none => ps
  | some (package, ds) => enterOutline ps (c.packageLabel q.parent package) q package ds

/-- The paths that the listings of the roots reach, in their order. -/
def listed (c : Catalog) (files : FileTree) : List Path :=
  c.settings.roots.flatMap fun root =>
    files.listing root c.settings.includePattern c.settings.extra

theorem enterRead_congr {c c' : Catalog} (hsettings : c'.settings = c.settings)
    (files : FileTree) : c'.enterRead files = c.enterRead files := by
  funext ps q
  rw [enterRead, enterRead, findings?_congr hsettings rfl, packageLabel_congr hsettings]

theorem listed_congr {c c' : Catalog} (hsettings : c'.settings = c.settings) (files : FileTree) :
    c'.listed files = c.listed files := by
  rw [listed, listed, hsettings]

theorem distinct_enterRead {ps : List PackageOutline} (h : DistinctIds ps) (c : Catalog)
    (files : FileTree) (q : Path) : DistinctIds (c.enterRead files ps q) := by
  unfold enterRead
  split
  · exact h
  · exact h.enter ..

/-- A catalog takes in files: its outline enters them one after the other, and its nodes
    are those that were there and new ones. -/
structure Grows (files : FileTree) (paths : List Path) (c c' : Catalog) : Prop where
  keeps : c.Keeps c'
  outline : c.Sound → c'.outline = paths.foldl (c.enterRead files) c.outline
  renews : Renews c'.infos c.infos

section Grows

variable {files : FileTree} {paths paths' : List Path} {c c' c'' : Catalog}

theorem Grows.same (hsettings : c'.settings = c.settings) (hpackages : c'.packages = c.packages)
    (hbooks : c'.books = c.books) : Grows files [] c c' where
  keeps := keeps_of_tree hsettings hpackages hbooks
  outline _ := by
    rw [outline_same hpackages hbooks]
    rfl
  renews := by
    rw [infos_eq, infos_eq, hpackages]
    exact .refl _

theorem Grows.trans (h : Grows files paths c c') (h' : Grows files paths' c' c'') :
    Grows files (paths ++ paths') c c'' where
  keeps := h.keeps.trans h'.keeps
  outline hs := by
    rw [h'.outline (h.keeps.sound hs), h.outline hs, enterRead_congr h.keeps.settings,
      List.foldl_append]
  renews := h.renews.trans h'.renews

theorem Grows.notifyIf (h : Grows files paths c c') (changed : Bool) (journal : Journal) :
    Grows files paths c (c'.notifyIf changed journal).1 := by
  rw [← List.append_nil paths]
  unfold Catalog.notifyIf
  split
  · exact h.trans (.same rfl rfl rfl)
  · exact h.trans (.same rfl rfl rfl)

theorem grows_discoverQuietly (c : Catalog) (files : FileTree) (q : Path) :
    Grows files [q] c (c.discoverQuietly files q none).1 := by
  refine ⟨c.keeps_discoverQuietly files q none, fun hs => ?_, ?_⟩
  · rw [discoverQuietly_eq, List.foldl_cons, List.foldl_nil, enterRead]
    cases c.findings? files q with
    | none => rfl
    | some e => exact outline_enterFile hs.booked.tracks hs.distinct q e.1 e.2
  · rw [discoverQuietly_eq]
    cases c.findings? files q with
    | none => exact .refl _
    | some e => exact c.renews_enterFile q e.1 e.2

/-- **Discovering a file** takes it in. -/
theorem grows_discover (c : Catalog) (files : FileTree) (q : Path) :
    Grows files [q] c (c.discover files q none).1 :=
  (c.grows_discoverQuietly files q).notifyIf _ _

end Grows

end Catalog

namespace Rescan

variable (files : FileTree)

theorem grows_eachFile (paths : List Path) (r : Rescan) :
    Catalog.Grows files paths r.catalog (r.eachFile files .never paths).catalog := by
  induction paths generalizing r with
  | nil => exact .same rfl rfl rfl
  | cons path paths ih =>
    have hfirst := r.catalog.grows_discover files path
    exact hfirst.trans (ih (Rescan.file (r.look .never).1 files path))

theorem grows_watch (r : Rescan) (root : Path) :
    Catalog.Grows files [] r.catalog (r.watch root).catalog := by
  unfold watch
  dsimp only
  split
  · exact .same rfl rfl rfl
  · exact .same rfl rfl rfl

theorem grows_eachRoot (roots : List Path) (r : Rescan) :
    Catalog.Grows files
      (roots.flatMap fun root =>
        files.listing root r.catalog.settings.includePattern r.catalog.settings.extra)
      r.catalog (r.eachRoot files .never roots).catalog := by
  induction roots generalizing r with
  | nil => exact .same rfl rfl rfl
  | cons root roots ih =>
    have hwatch := r.grows_watch files root
    have hfiles := hwatch.trans (grows_eachFile files
      (files.listing root r.catalog.settings.includePattern r.catalog.settings.extra)
      ((r.watch root).look .never).1)
    have hrest := ih (((r.watch root).look .never).1.eachFile files .never
      (files.listing root r.catalog.settings.includePattern r.catalog.settings.extra))
    rw [hfiles.keeps.settings] at hrest
    have hall := hfiles.trans hrest
    rw [← hwatch.keeps.settings] at hall ⊢
    exact hall

end Rescan

namespace Catalog

/-- **A rescan** empties the catalog and takes in the listed files. -/
theorem grows_rescan (c : Catalog) (files : FileTree) :
    Grows files (c.listed files) c.clear.closeWatches (c.rescan files).1 := by
  have hroots := Rescan.grows_eachRoot files c.settings.roots
    { (Rescan.look { catalog := c } .never).1 with catalog := c.clear.closeWatches }
  exact hroots

theorem outline_rescan {c : Catalog} (h : c.Sound) (files : FileTree) :
    (c.rescan files).1.outline = (c.listed files).foldl (c.enterRead files) [] :=
  (c.grows_rescan files).outline (c.keeps_clear_closeWatches.sound h)

/-! ## 2. The nodes of the listed files -/

/-- The nodes of what reading a file finds. -/
def readNodes (c : Catalog) (files : FileTree) (q : Path) : List Entry :=
  match c.findings? files q with
  | none => []
  | some (package, ds) => nodesOf c.packageLabel q package ds

theorem mem_readNodes {c : Catalog} {files : FileTree} {q : Path} {e : Entry} :
    e ∈ c.readNodes files q ↔ ∃ package ds, c.findings? files q = some (package, ds) ∧
      e ∈ nodesOf c.packageLabel q package ds := by
  unfold readNodes
  split
  case h_1 hnone => simp [hnone]
  case h_2 package ds hsome => simp [hsome]

theorem merges_enterRead {ps : List PackageOutline} (h : DistinctIds ps) (c : Catalog)
    (files : FileTree) (q : Path) :
    Merges (c.readNodes files q) (entriesOf ps) (entriesOf (c.enterRead files ps q)) := by
  unfold readNodes enterRead
  split
  · exact .refl _
  · exact merges_enterOutline h _ q _ _

/-- **Taking in files** merges the nodes of all of them. -/
theorem merges_foldl_enterRead (c : Catalog) (files : FileTree) (paths : List Path)
    {ps : List PackageOutline} (h : DistinctIds ps) :
    Merges (paths.flatMap (c.readNodes files)) (entriesOf ps)
      (entriesOf (paths.foldl (c.enterRead files) ps)) := by
  induction paths generalizing ps with
  | nil => exact .refl _
  | cons path paths ih =>
    exact (merges_enterRead h c files path).trans (ih (distinct_enterRead h c files path))

end Catalog

/-- **What is merged is exactly what is new,** if there was nothing before and no two new
    nodes claim the same place. -/
theorem Merges.exact_iff {news after : List Entry} (h : Merges news [] after)
    (hnd : (after.map (·.ids)).Nodup) :
    (∀ e, e ∈ after ↔ e ∈ news) ↔ ∀ e ∈ news, ∀ e' ∈ news, e.ids = e'.ids → e = e' := by
  constructor
  · intro hexact e he e' he' hids
    exact List.inj_on_of_nodup_map hnd ((hexact e).mpr he) ((hexact e').mpr he') hids
  · intro hone e
    constructor
    · exact fun he => (h.drawn e he).resolve_right List.not_mem_nil
    · intro he
      obtain ⟨e', he', hids⟩ := List.mem_map.mp (h.kept e (Or.inl he))
      have hnew := (h.drawn e' he').resolve_right List.not_mem_nil
      rwa [hone e he e' hnew hids.symm]

/-! ## 3. Places -/

theorem Catalog.packageId_name_injective {directory : Path} {name name' : String}
    (h : packageId directory name = packageId directory name') : name = name' := by
  have hlist := congrArg String.toList h
  apply String.toList_inj.mp
  simpa [packageId, toString] using hlist

/-- Within one file, each place is taken once. -/
theorem nodup_ids_nodesOf (label : Labels) (q : Path) (package : String) (ds : List Declaration) :
    ((nodesOf label q package ds).map (·.ids)).Nodup := by
  have hids : (nodesOf label q package ds).map (·.ids) =
      [Catalog.packageId q.parent package] :: ([[]] ++
        (((founders ds).map fun d : Declaration => d.receiver.getD "").map fun r => [r]) ++
        (latest ds).map Declaration.place).map
          ([Catalog.packageId q.parent package, q.stem] ++ ·) := by
    simp only [nodesOf, List.map_append, List.map_cons, List.map_map, List.map_nil]
    rfl
  rw [hids, List.nodup_cons]
  constructor
  · intro hmem
    obtain ⟨rest, -, heq⟩ := List.mem_map.mp hmem
    cases heq
  · apply List.Nodup.map (List.append_right_injective _)
    rw [List.append_assoc, List.singleton_append, List.nodup_cons, List.nodup_append]
    refine ⟨?_, ?_, nodup_places_latest ds, ?_⟩
    · simp [Declaration.place]
    · exact (nodup_receivers_founders ds).map fun a b h => (List.cons.inj h).1
    · intro a ha b hb hab
      obtain ⟨r, -, rfl⟩ := List.mem_map.mp ha
      obtain ⟨d, -, rfl⟩ := List.mem_map.mp hb
      cases hab

namespace Catalog

/-- A file that a rescan is to find, with the package of its clause and its tests: it lies
    below a root, at a path that the include pattern describes and that leads through no
    excluded directory; it may hold tests as seen from the first root above it; and its
    text has a package clause and declarations of the libraries. -/
structure Found (settings : CatalogSettings) (files : FileTree) (q : Path) (package : String)
    (ds : List Declaration) : Prop where
  listed : ∃ root ∈ settings.roots, ∃ names, q = root.down names ∧
    FileTree.Listable settings.includePattern settings.extra names
  candidate : Exclusion.isCandidate q (settings.roots.find? fun root => (q.below? root).isSome)
    settings.extra
  read : ∃ bytes clause, files.read? q = some bytes ∧
    PackageClause.ofLines (Text.splitLines (Text.Utf8.decode bytes).toList) = some clause ∧
      package = clause.name ∧
      ds = settings.libraries.flatMap (·.declarations (Text.Utf8.decode bytes))
  tests : ds ≠ []

theorem findingsIn?_eq_some {c : Catalog} {text : String} {package : String}
    {ds : List Declaration} :
    c.findingsIn? text = some (package, ds) ↔
      (∃ clause, PackageClause.ofLines (Text.splitLines text.toList) = some clause ∧
        package = clause.name ∧ ds = c.declarationsIn text) ∧ ds ≠ [] := by
  unfold findingsIn?
  cases PackageClause.ofLines (Text.splitLines text.toList) with
  | none => simp
  | some clause =>
    cases hds : c.declarationsIn text with
    | nil => simp
    | cons d rest =>
      simp only [Option.some.injEq, Prod.mk.injEq, exists_eq_left']
      constructor
      · rintro ⟨rfl, rfl⟩
        exact ⟨⟨rfl, rfl⟩, List.cons_ne_nil d rest⟩
      · rintro ⟨⟨rfl, rfl⟩, -⟩
        exact ⟨rfl, rfl⟩

theorem findings?_eq_some {c : Catalog} {files : FileTree} {q : Path}
    {e : String × List Declaration} :
    c.findings? files q = some e ↔ c.isCandidate q = true ∧
      ∃ bytes, files.read? q = some bytes ∧ c.findingsIn? (Text.Utf8.decode bytes) = some e := by
  unfold findings?
  split
  case isTrue hcandidate => simp [hcandidate, Option.bind_eq_some_iff]
  case isFalse hnot => simp [hnot]

/-- **What is found is what is listed and holds tests.** -/
theorem found_iff {settings : CatalogSettings} {files : FileTree} (hfiles : files.Regular)
    {q : Path} {package : String} {ds : List Declaration} :
    Found settings files q package ds ↔ q ∈ (fresh settings).listed files ∧
      (fresh settings).findings? files q = some (package, ds) := by
  simp only [listed, List.mem_flatMap, FileTree.mem_listing hfiles, findings?_eq_some,
    findingsIn?_eq_some]
  constructor
  · rintro ⟨⟨root, hroot, names, hq, hlistable⟩, hcandidate, ⟨bytes, clause, hread, hclause⟩, hne⟩
    have hsome : (files.read? q).isSome := by rw [hread]; rfl
    exact ⟨⟨root, hroot, names, hq, hlistable, hsome⟩, hcandidate, bytes, hread,
      ⟨clause, hclause⟩, hne⟩
  · rintro ⟨⟨root, hroot, names, hq, hlistable, -⟩, hcandidate, bytes, hread, ⟨clause, hclause⟩, hne⟩
    exact ⟨⟨root, hroot, names, hq, hlistable⟩, hcandidate, ⟨bytes, clause, hread, hclause⟩, hne⟩

theorem Found.ending {settings : CatalogSettings} {files : FileTree} {q : Path} {package : String}
    {ds : List Declaration} (h : Found settings files q package ds) :
    q.name.endsWith Exclusion.testFileEnding := by
  have hcandidate := h.candidate
  unfold Exclusion.isCandidate at hcandidate
  simp only [Bool.and_eq_true] at hcandidate
  exact hcandidate.1.1.1

/-- A path is found with one content. -/
theorem Found.unique {settings : CatalogSettings} {files : FileTree} (hfiles : files.Regular)
    {q : Path} {package package' : String} {ds ds' : List Declaration}
    (h : Found settings files q package ds) (h' : Found settings files q package' ds') :
    package = package' ∧ ds = ds' := by
  have hsome := ((found_iff hfiles).mp h).2
  rw [((found_iff hfiles).mp h').2] at hsome
  obtain ⟨rfl, rfl⟩ := Prod.mk.inj (Option.some.inj hsome)
  exact ⟨rfl, rfl⟩

/-- No two directories with files to be found claim one package id. -/
def PackagesApart (settings : CatalogSettings) (files : FileTree) : Prop :=
  ∀ q package ds q' package' ds', Found settings files q package ds →
    Found settings files q' package' ds' →
      packageId q.parent package = packageId q'.parent package' → q.parent = q'.parent

/-- **Packages are apart exactly if no two nodes of the files claim one place.** -/
theorem packagesApart_iff {settings : CatalogSettings} {files : FileTree}
    (hfiles : files.Regular) (label : Labels) :
    PackagesApart settings files ↔
      ∀ q package ds q' package' ds' e e', Found settings files q package ds →
        e ∈ nodesOf label q package ds → Found settings files q' package' ds' →
          e' ∈ nodesOf label q' package' ds' → e.ids = e'.ids → e = e' := by
  constructor
  · intro hapart q package ds q' package' ds' e e' hfound he hfound' he' hids
    -- the first id of both is that of the package
    have hid : packageId q.parent package = packageId q'.parent package' := by
      have hhead : ∀ {q package ds} {e : Entry}, e ∈ nodesOf label q package ds →
          ∃ rest, e.ids = packageId q.parent package :: rest := by
        intro q package ds e he
        rcases mem_nodesOf he with rfl | ⟨-, rest, hrest⟩
        · exact ⟨[], rfl⟩
        · exact ⟨_, hrest.symm⟩
      obtain ⟨rest, hrest⟩ := hhead he
      obtain ⟨rest', hrest'⟩ := hhead he'
      rw [hrest, hrest'] at hids
      exact (List.cons.inj hids).1
    have hparent := hapart q package ds q' package' ds' hfound hfound' hid
    rw [hparent] at hid
    have hpackage := packageId_name_injective hid
    rcases mem_nodesOf he with rfl | ⟨-, hplace⟩
    · rcases mem_nodesOf he' with rfl | ⟨-, hplace'⟩
      · rw [hparent, hpackage]
      · rw [← hids] at hplace'
        have hlength := hplace'.length_le
        simp at hlength
    · rcases mem_nodesOf he' with rfl | ⟨-, hplace'⟩
      · rw [hids] at hplace
        have hlength := hplace.length_le
        simp at hlength
      · -- two nodes below one place, so of one file
        rw [hids] at hplace
        obtain ⟨rest, hrest⟩ := hplace
        rw [← hrest, List.cons_append, List.cons_append, List.cons_prefix_cons,
          List.cons_prefix_cons] at hplace'
        obtain rfl : q = q' :=
          Path.eq_of_parent_stem hfound.ending hfound'.ending hparent hplace'.2.1.symm
        obtain ⟨rfl, rfl⟩ := hfound.unique hfiles hfound'
        exact List.inj_on_of_nodup_map (nodup_ids_nodesOf label q package ds) he he' hids
  · intro hone q package ds q' package' ds' hfound hfound' hid
    have hsame := hone q package ds q' package' ds' _ _ hfound List.mem_cons_self hfound'
      List.mem_cons_self (congrArg (fun id => [id]) hid)
    exact congrArg (·.node.path) hsame

/-! ## 4. Rescans -/

/-- **What a rescan leaves comes from the files to be found,** and each node of these
    has something at its place. -/
theorem merges_rescan {c : Catalog} (h : c.Sound) (files : FileTree) :
    Merges ((c.listed files).flatMap (c.readNodes files)) [] (c.rescan files).1.entries := by
  have hempty : DistinctIds [] := ⟨List.nodup_nil, fun _ hp => absurd hp List.not_mem_nil⟩
  rw [entries, outline_rescan h]
  exact merges_foldl_enterRead c files (c.listed files) hempty

/-- **What a rescan leaves.**  Whatever has been done to a catalog, and whoever listens, a
    rescan leaves exactly the nodes of the files to be found, if and only if no two
    directories claim one package id; none of them twice, and none with a state.  It gives
    the nodes of the files, and the outline depends on the settings and the files alone. -/
theorem rescan_exact_iff (settings : CatalogSettings) (listeners : List Listener)
    (acts : List CatalogAct) {files : FileTree} (hfiles : files.Regular) :
    let before := (fresh settings listeners).performAll acts
    let after := (before.rescan files).1
    ((∀ e, e ∈ after.entries ↔ ∃ q package ds, Found settings files q package ds ∧
        e ∈ nodesOf (fresh settings).packageLabel q package ds) ↔
      PackagesApart settings files) ∧
    (after.entries.map (·.ids)).Nodup ∧
    (∀ i ∈ after.infos, i.state = none) ∧
    (∀ ref, ref ∈ (before.rescan files).2.1 ↔ after.meaning? ref = some .file) ∧
    ∀ listeners' acts', (((fresh settings listeners').performAll acts').rescan files).1.outline =
      after.outline := by
  intro before after
  have hs : before.Sound := sound_performAll settings listeners acts
  have hsettings : before.settings = (fresh settings).settings :=
    settings_performAll settings listeners acts
  have hafter : after.Sound := (before.keeps_rescan files .never).sound hs
  have hnd := nodup_ids_entriesOf hafter.distinct
  have hmem : ∀ e, e ∈ (before.listed files).flatMap (before.readNodes files) ↔
      ∃ q package ds, Found settings files q package ds ∧
        e ∈ nodesOf (fresh settings).packageLabel q package ds := by
    intro e
    simp only [List.mem_flatMap, mem_readNodes, found_iff hfiles, listed_congr hsettings,
      findings?_congr hsettings rfl, packageLabel_congr hsettings]
    constructor
    · rintro ⟨q, hq, package, ds, hfindings, he⟩
      exact ⟨q, package, ds, ⟨hq, hfindings⟩, he⟩
    · rintro ⟨q, package, ds, ⟨hq, hfindings⟩, he⟩
      exact ⟨q, hq, package, ds, hfindings, he⟩
  refine ⟨?_, hnd, ?_, ?_, ?_⟩
  · rw [packagesApart_iff hfiles (fresh settings).packageLabel]
    have hexact := (merges_rescan hs files).exact_iff hnd
    simp only [hmem] at hexact
    rw [hexact]
    constructor
    · exact fun hone q package ds q' package' ds' e e' hfound he hfound' he' =>
        hone e ⟨q, package, ds, hfound, he⟩ e' ⟨q', package', ds', hfound', he'⟩
    · rintro hone e ⟨q, package, ds, hfound, he⟩ e' ⟨q', package', ds', hfound', he'⟩
      exact hone q package ds q' package' ds' e e' hfound he hfound' he'
  · intro i hi
    exact ((before.grows_rescan files).renews i hi).resolve_left List.not_mem_nil
  · exact fun ref => hafter.mem_files_iff ref
  · intro listeners' acts'
    have hs' := sound_performAll settings listeners' acts'
    have hsettings' : ((fresh settings listeners').performAll acts').settings = before.settings :=
      (settings_performAll settings listeners' acts').trans hsettings.symm
    rw [outline_rescan hs', outline_rescan hs, listed_congr hsettings', enterRead_congr hsettings']

/-! ### Two directories and one id -/

theorem rescan_exact_sampleFiles :
    let after := ((fresh sampleSettings).rescan sampleFiles).1
    after.entries.map (·.ids) =
        [["/w:p"], ["/w:p", "a_test"], ["/w:p", "a_test", "Suite"],
          ["/w:p", "a_test", "Suite", "Suite.TestX"]] ∧
      ∀ e, e ∈ after.entries ↔ ∃ q package ds, Found sampleSettings sampleFiles q package ds ∧
        e ∈ nodesOf (fresh sampleSettings).packageLabel q package ds := by
  have hregular := ordinary_sampleFiles.regular
  have hlisted : (fresh sampleSettings).listed sampleFiles = [.ofString "/w/a_test.go"] := by
    decide +kernel
  have hapart : PackagesApart sampleSettings sampleFiles := by
    intro q package ds q' package' ds' hfound hfound' _
    have hq := ((found_iff hregular).mp hfound).1
    have hq' := ((found_iff hregular).mp hfound').1
    rw [hlisted, List.mem_singleton] at hq hq'
    rw [hq, hq']
  exact ⟨by decide +kernel, (rescan_exact_iff sampleSettings [] [] hregular).1.mpr hapart⟩

/-- A file of the package `p:q` below one root, one of the package `q` below another, which
    has the colon in its name. -/
def collidingFiles : FileTree :=
  (FileTree.empty.write (.ofString "/w/d/a_test.go") (sampleTest "p:q")).write
    (.ofString "/w/d:p/a_test.go") (sampleTest "q")

def collidingSettings : CatalogSettings :=
  { roots := [.ofString "/w/d", .ofString "/w/d:p"], libraries := [.gocheck] }

theorem collision_loses_file :
    (((fresh collidingSettings).listed collidingFiles).map fun q =>
        (q, ((fresh collidingSettings).findings? collidingFiles q).map (·.1))) =
      [(.ofString "/w/d/a_test.go", some "p:q"), (.ofString "/w/d:p/a_test.go", some "q")] ∧
    ((fresh collidingSettings).rescan collidingFiles).1.packages.map (·.info.path) =
      [.ofString "/w/d"] ∧
    ((fresh collidingSettings).rescan collidingFiles).1.files.map (·.info.path) =
      [.ofString "/w/d/a_test.go"] := by
  decide +kernel

end Catalog
end SuiteExplorer
