/-
  SuiteExplorer/Proofs/Catalog/RootOrder.lean
  ===========================================
  **What the order of the roots decides.**

  Each root is listed on its own, so the order of the roots does not decide what is
  listed.  But whether a listed file may hold tests is asked as seen from the first root
  above it, and that need not be the root that has listed it.  A rescan therefore finds
  the files that some root finds on its own, without those that the first root above
  them hides behind an excluded directory (`found_iff_offered`).  So the order of the
  roots decides nothing if no root hides what another one finds, and only then, as long
  as no two of these files are filed under one package id (`identities_perm_iff`).
-/
import SuiteExplorer.Proofs.Catalog.Rescanning
import SuiteExplorer.Proofs.Watch.Filter

namespace SuiteExplorer

def CatalogSettings.withRoots (s : CatalogSettings) (roots : List Path) : CatalogSettings :=
  { s with roots := roots }

namespace Catalog

variable {settings : CatalogSettings} {files : FileTree} {q : Path} {package : String}
  {ds : List Declaration}

/-! ## 1. Files that one root finds -/

/-- A rescan of one of the roots alone finds the file. -/
def Offered (settings : CatalogSettings) (files : FileTree) (q : Path) (package : String)
    (ds : List Declaration) : Prop :=
  ∃ root ∈ settings.roots, Found (settings.withRoots [root]) files q package ds

/-- No directory on the way from a root down to a file is excluded. -/
def Opens (extra : List String) (root q : Path) : Prop :=
  ∀ names, q = root.down names → ∀ n ∈ names.dropLast, Exclusion.prunes extra n = false

/-- The first root above a path. -/
def firstAbove? (roots : List Path) (q : Path) : Option Path :=
  roots.find? fun root => (q.below? root).isSome

theorem mem_of_firstAbove? {roots : List Path} {first : Path}
    (h : firstAbove? roots q = some first) : first ∈ roots ∧ ∃ names, q = first.down names := by
  refine ⟨List.mem_of_find?_eq_some h, ?_⟩
  have hbelow : (q.below? first).isSome :=
    List.find?_some (p := fun root => (q.below? root).isSome) h
  obtain ⟨names, hnames⟩ := Option.isSome_iff_exists.mp hbelow
  exact ⟨names, Path.below?_eq_some hnames⟩

theorem firstAbove?_cons (root : Path) (names : List String) (roots : List Path) :
    firstAbove? (root :: roots) (root.down names) = some root := by
  rw [firstAbove?, List.find?_cons, Path.below?_down]
  rfl

theorem exists_firstAbove? {roots : List Path} {root : Path} (hroot : root ∈ roots)
    (names : List String) : ∃ first, firstAbove? roots (root.down names) = some first := by
  rw [← Option.isSome_iff_exists, firstAbove?, List.find?_isSome]
  exact ⟨root, hroot, by rw [Path.below?_down]; rfl⟩

/-- What a root finds on its own lies below it, and it does not hide it. -/
theorem Found.opens {root : Path} (h : Found (settings.withRoots [root]) files q package ds) :
    (∃ names, q = root.down names) ∧ Opens settings.extra root q := by
  obtain ⟨root', hroot', names, hq, -, -, -, hdirs⟩ := h.listed
  obtain rfl := List.mem_singleton.mp hroot'
  refine ⟨⟨names, hq⟩, fun names' hq' => ?_⟩
  rw [Path.down_injective (hq'.symm.trans hq)]
  exact hdirs

/-- **What a rescan finds** is what one of the roots finds, unless the first root above it
    hides it. -/
theorem found_iff_offered :
    Found settings files q package ds ↔ Offered settings files q package ds ∧
      ∀ first, firstAbove? settings.roots q = some first → Opens settings.extra first q := by
  constructor
  · intro h
    obtain ⟨root, hroot, names, rfl, hlistable⟩ := h.listed
    obtain ⟨first, hfirst⟩ := exists_firstAbove? hroot names
    obtain ⟨-, names', hnames'⟩ := mem_of_firstAbove? hfirst
    have hcandidate := h.candidate
    rw [show settings.roots.find? _ = some first from hfirst, hnames',
      Exclusion.isCandidate_down, ← hnames'] at hcandidate
    obtain ⟨hending, hdata, hshown, hdirs⟩ := hcandidate
    refine ⟨⟨root, hroot, ?_⟩, fun first' hfirst' names'' hnames'' => ?_⟩
    · refine ⟨⟨root, List.mem_singleton_self root, names, rfl, hlistable⟩, ?_, h.read, h.tests⟩
      have halone : (settings.withRoots [root]).roots.find?
          (fun r => ((root.down names).below? r).isSome) = some root :=
        firstAbove?_cons root names []
      rw [halone, Exclusion.isCandidate_down]
      exact ⟨hending, hdata, hshown, hlistable.2.2.2⟩
    · obtain rfl := Option.some.inj (hfirst.symm.trans hfirst')
      rw [Path.down_injective (hnames''.symm.trans hnames')]
      exact hdirs
  · rintro ⟨⟨root, hroot, h⟩, hopens⟩
    obtain ⟨root', hroot', names, rfl, hlistable⟩ := h.listed
    obtain rfl := List.mem_singleton.mp hroot'
    obtain ⟨first, hfirst⟩ := exists_firstAbove? hroot names
    obtain ⟨-, names', hnames'⟩ := mem_of_firstAbove? hfirst
    have hcandidate := h.candidate
    have halone : (settings.withRoots [root']).roots.find?
        (fun r => ((root'.down names).below? r).isSome) = some root' :=
      firstAbove?_cons root' names []
    rw [halone, Exclusion.isCandidate_down] at hcandidate
    obtain ⟨hending, hdata, hshown, -⟩ := hcandidate
    refine ⟨⟨root', hroot, names, rfl, hlistable⟩, ?_, h.read, h.tests⟩
    rw [show settings.roots.find? _ = some first from hfirst]
    have hdirs := hopens first hfirst names' hnames'
    rw [hnames'] at hending hdata hshown ⊢
    exact Exclusion.isCandidate_down.mpr ⟨hending, hdata, hshown, hdirs⟩

/-- What the roots find one by one does not depend on their order. -/
theorem offered_perm {roots : List Path} (h : roots.Perm settings.roots) :
    Offered (settings.withRoots roots) files q package ds ↔ Offered settings files q package ds :=
  exists_congr fun _ => and_congr_left fun _ => h.mem_iff

/-- **No root hides what another one finds.** -/
def Unhidden (settings : CatalogSettings) (files : FileTree) : Prop :=
  ∀ q package ds, Offered settings files q package ds →
    ∀ root ∈ settings.roots, Opens settings.extra root q

/-- It is enough that no root lies below an excluded directory of another one. -/
theorem unhidden_of_roots (files : FileTree)
    (h : ∀ root ∈ settings.roots, ∀ names, root.down names ∈ settings.roots →
      ∀ n ∈ names, Exclusion.prunes settings.extra n = false) : Unhidden settings files := by
  rintro q package ds ⟨root, hroot, hfound⟩ above habove names hq n hn
  obtain ⟨⟨names', hq'⟩, hopens⟩ := hfound.opens
  have hsame : above.down names = root.down names' := hq.symm.trans hq'
  obtain ⟨hanchor, hnames⟩ := Path.mk.inj hsame
  have hdirs := hopens names' hq'
  -- of two roots above one file, one is above the other
  rcases List.append_eq_append_iff.mp hnames with ⟨between, hbetween, rfl⟩ | ⟨between, -, rfl⟩
  · obtain rfl : root = above.down between := by
      rw [Path.down, ← hbetween, hanchor]
    rw [List.dropLast_append] at hn
    split at hn
    · exact h above habove between hroot n (List.mem_of_mem_dropLast hn)
    · rcases List.mem_append.mp hn with hn | hn
      · exact h above habove between hroot n hn
      · exact hdirs n hn
  · have hne : names ≠ [] := by
      rintro rfl
      cases hn
    apply hdirs
    rw [List.dropLast_append_of_ne_nil hne]
    exact List.mem_append_right between hn

/-- **Every order of the roots finds what the roots find one by one,** if no root hides
    anything. -/
theorem Unhidden.found_iff (h : Unhidden settings files) {roots : List Path}
    (hroots : roots.Perm settings.roots) :
    Found (settings.withRoots roots) files q package ds ↔ Offered settings files q package ds := by
  rw [found_iff_offered, offered_perm hroots]
  refine ⟨And.left, fun hoffered => ⟨hoffered, fun first hfirst => ?_⟩⟩
  exact h q package ds hoffered first (hroots.mem_iff.mp (mem_of_firstAbove? hfirst).1)

/-- Whichever root comes first: if every order of the roots finds the same files, no root
    hides what another one finds. -/
theorem unhidden_of_found_iff
    (h : ∀ roots, roots.Perm settings.roots → ∀ q package ds,
      Offered settings files q package ds → Found (settings.withRoots roots) files q package ds) :
    Unhidden settings files := by
  intro q package ds hoffered root hroot names hq
  have hfirst : (root :: settings.roots.erase root).Perm settings.roots :=
    (List.perm_cons_erase hroot).symm
  subst hq
  have hfound := h _ hfirst _ package ds hoffered
  exact (found_iff_offered.mp hfound).2 root (firstAbove?_cons root names _) names rfl

/-! ## 2. Identities -/

/-- The ids that lead to each of the nodes that a rescan leaves: the identities of these
    nodes. -/
def identities (c : Catalog) (files : FileTree) : List (List String) :=
  (c.rescan files).1.entries.map (·.ids)

/-- The identities of the nodes of a file that has been read. -/
def identitiesOf (q : Path) (package : String) (ds : List Declaration) : List (List String) :=
  (nodesOf (fun _ name => name) q package ds).map (·.ids)

theorem map_ids_nodesOf (label : Labels) (q : Path) (package : String) (ds : List Declaration) :
    (nodesOf label q package ds).map (·.ids) = identitiesOf q package ds := by
  simp only [identitiesOf, nodesOf, List.map_append, List.map_cons, List.map_map]

/-- **The identities that a rescan leaves** are those of the files to be found, whatever the
    catalog was before and whoever listens. -/
theorem mem_identities (settings : CatalogSettings) (listeners : List Listener)
    (acts : List CatalogAct) (hfiles : files.Regular) {ids : List String} :
    ids ∈ ((fresh settings listeners).performAll acts).identities files ↔
      ∃ q package ds, Found settings files q package ds ∧ ids ∈ identitiesOf q package ds := by
  have hs := sound_performAll settings listeners acts
  have hsettings : ((fresh settings listeners).performAll acts).settings = (fresh settings).settings :=
    settings_performAll settings listeners acts
  have hmerges := merges_rescan hs files
  rw [listed_congr hsettings] at hmerges
  constructor
  · intro hids
    obtain ⟨e, he, rfl⟩ := List.mem_map.mp hids
    have hnew := (hmerges.drawn e he).resolve_right List.not_mem_nil
    obtain ⟨q, hq, hnodes⟩ := List.mem_flatMap.mp hnew
    obtain ⟨package, ds, hfindings, he⟩ := mem_readNodes.mp hnodes
    rw [findings?_congr hsettings rfl] at hfindings
    refine ⟨q, package, ds, (found_iff hfiles).mpr ⟨hq, hfindings⟩, ?_⟩
    rw [← map_ids_nodesOf]
    exact List.mem_map_of_mem he
  · rintro ⟨q, package, ds, hfound, hids⟩
    obtain ⟨hq, hfindings⟩ := (found_iff hfiles).mp hfound
    rw [← findings?_congr hsettings rfl] at hfindings
    rw [← map_ids_nodesOf] at hids
    obtain ⟨e, he, rfl⟩ := List.mem_map.mp hids
    apply hmerges.kept e
    exact Or.inl (List.mem_flatMap.mpr ⟨q, hq, mem_readNodes.mpr ⟨package, ds, hfindings, he⟩⟩)

/-- No two directories with files that some root finds claim one package id. -/
def OffersApart (settings : CatalogSettings) (files : FileTree) : Prop :=
  ∀ q package ds q' package' ds', Offered settings files q package ds →
    Offered settings files q' package' ds' →
      packageId q.parent package = packageId q'.parent package' → q.parent = q'.parent

theorem eq_of_file_mem_identitiesOf {q' : Path} {package' : String} {ds' : List Declaration}
    (h : [packageId q.parent package, q.stem] ∈ identitiesOf q' package' ds') :
    packageId q'.parent package' = packageId q.parent package ∧ q'.stem = q.stem := by
  obtain ⟨e, he, hids⟩ := List.mem_map.mp h
  rcases mem_nodesOf he with rfl | ⟨-, hplace⟩
  · exact absurd (congrArg List.length hids) (by simp)
  · rw [hids] at hplace
    have heq := hplace.eq_of_length rfl
    simpa using heq

/-- **A file is found exactly if its node is,** if no two files are filed under one id. -/
theorem OffersApart.found_of_identity (hapart : OffersApart settings files) {roots : List Path} (hroots : roots.Perm settings.roots)
    (hoffered : Offered settings files q package ds) {q' : Path} {package' : String}
    {ds' : List Declaration} (hfound : Found (settings.withRoots roots) files q' package' ds')
    (hids : [packageId q.parent package, q.stem] ∈ identitiesOf q' package' ds') :
    Found (settings.withRoots roots) files q package ds := by
  have hoffered' := (offered_perm hroots).mp (found_iff_offered.mp hfound).1
  obtain ⟨hpackage, hstem⟩ := eq_of_file_mem_identitiesOf hids
  have hparent := hapart _ _ _ _ _ _ hoffered' hoffered hpackage
  obtain ⟨root, -, halone⟩ := hoffered
  obtain rfl : q' = q := Path.eq_of_parent_stem hfound.ending halone.ending hparent hstem
  obtain ⟨root', -, halone'⟩ := hoffered'
  -- the two roots read one file
  obtain ⟨bytes, clause, hread, hclause, rfl, rfl⟩ := halone.read
  obtain ⟨bytes', clause', hread', hclause', rfl, rfl⟩ := halone'.read
  obtain rfl := Option.some.inj (hread.symm.trans hread')
  obtain rfl := Option.some.inj (hclause.symm.trans hclause')
  exact hfound

/-- **What the order of the roots decides.**  Take any two orders of the roots, and any
    catalogs that operations lead to from there.  If no root hides what another one finds,
    rescans of the two leave the same identities, namely those of the files that the roots
    find one by one.  The converse holds as long as no two of these files are filed under one
    package id. -/
theorem identities_perm_iff (settings : CatalogSettings) (listeners : List Listener)
    (acts : List CatalogAct) {files : FileTree} (hfiles : files.Regular) :
    let after := fun roots =>
      ((fresh (settings.withRoots roots) listeners).performAll acts).identities files
    (Unhidden settings files → ∀ roots, roots.Perm settings.roots → ∀ ids, ids ∈ after roots ↔
      ∃ q package ds, Offered settings files q package ds ∧ ids ∈ identitiesOf q package ds) ∧
    (OffersApart settings files →
      (∀ roots roots', roots.Perm settings.roots → roots'.Perm settings.roots →
        ∀ ids, ids ∈ after roots ↔ ids ∈ after roots') → Unhidden settings files) := by
  intro after
  constructor
  · intro hunhidden roots hroots ids
    simp only [after, mem_identities _ listeners acts hfiles, hunhidden.found_iff hroots]
  · intro hapart hsame
    apply unhidden_of_found_iff
    intro roots hroots q package ds hoffered
    obtain ⟨root, hroot, halone⟩ := hoffered
    -- with the root in front that finds the file, it is found
    have hfirst : (root :: settings.roots.erase root).Perm settings.roots :=
      (List.perm_cons_erase hroot).symm
    have hfound : Found (settings.withRoots (root :: settings.roots.erase root)) files q package ds := by
      obtain ⟨⟨names, rfl⟩, hopens⟩ := halone.opens
      refine found_iff_offered.mpr ⟨(offered_perm hfirst).mpr ⟨root, hroot, halone⟩, ?_⟩
      intro first hfirst'
      obtain rfl := Option.some.inj ((firstAbove?_cons root names _).symm.trans hfirst')
      exact hopens
    have hfile : [packageId q.parent package, q.stem] ∈ identitiesOf q package ds :=
      List.mem_cons_of_mem _ List.mem_cons_self
    have hids : [packageId q.parent package, q.stem] ∈ after (root :: settings.roots.erase root) :=
      (mem_identities _ listeners acts hfiles).mpr ⟨q, package, ds, hfound, hfile⟩
    rw [hsame _ _ hfirst hroots] at hids
    obtain ⟨q', package', ds', hfound', hids'⟩ := (mem_identities _ listeners acts hfiles).mp hids
    exact hapart.found_of_identity hroots ⟨root, hroot, halone⟩ hfound' hids'

/-! ### 2.1 Nested roots -/

/-- Two roots, the second one in a directory of the first. -/
def nestedSettings (directory : String) : CatalogSettings :=
  { roots := [.ofString "/w", .ofString ("/w/" ++ directory)], libraries := [.gocheck] }

theorem identities_perm_iff_nested :
    let after := fun roots => (fresh ((nestedSettings "sub").withRoots roots)).identities sampleGrown
    after [.ofString "/w", .ofString "/w/sub"] =
        [["/w:p"], ["/w:p", "a_test"], ["/w:p", "a_test", "Suite"],
          ["/w:p", "a_test", "Suite", "Suite.TestX"], ["/w/sub:p"], ["/w/sub:p", "b_test"],
          ["/w/sub:p", "b_test", "Suite"], ["/w/sub:p", "b_test", "Suite", "Suite.TestX"]] ∧
      ∀ ids, ids ∈ after [.ofString "/w/sub", .ofString "/w"] ↔
        ids ∈ after [.ofString "/w", .ofString "/w/sub"] := by
  have hregular : sampleGrown.Regular :=
    (FileTree.ordinary_write ordinary_sampleFiles (by decide +kernel) _).regular
  have hroots : (nestedSettings "sub").roots = [⟨.root, ["w"]⟩, ⟨.root, ["w", "sub"]⟩] := by decide
  have hunhidden : Unhidden (nestedSettings "sub") sampleGrown := by
    apply unhidden_of_roots
    rw [hroots]
    intro root hroot names hbelow n hn
    have hsub : n = "sub" := by
      simp only [List.mem_cons, List.not_mem_nil, or_false] at hroot hbelow
      rcases hroot with rfl | rfl
      · rcases hbelow with hbelow | hbelow
        · simp_all [Path.down]
        · simp_all [Path.down]
      · rcases hbelow with hbelow | hbelow
        · simp [Path.down] at hbelow
        · simp_all [Path.down]
    rw [hsub]
    decide +kernel
  have hsame := (identities_perm_iff (nestedSettings "sub") [] [] hregular).1 hunhidden
  refine ⟨by decide +kernel, fun ids => ?_⟩
  exact (hsame _ (List.Perm.swap _ _ _) ids).trans (hsame _ (List.Perm.refl _) ids).symm

/-- The file of the second root. -/
def vendoredFiles : FileTree :=
  FileTree.empty.write (.ofString "/w/vendor/a_test.go") (sampleTest "p")

/-- With the outer root in front the test is lost, with the inner one it is found. -/
theorem outer_root_hides_file :
    let settings := nestedSettings "vendor"
    settings.roots.reverse.Perm settings.roots ∧
      (fresh settings).listed vendoredFiles = [.ofString "/w/vendor/a_test.go"] ∧
      (fresh settings).identities vendoredFiles = [] ∧
      (fresh (settings.withRoots settings.roots.reverse)).identities vendoredFiles =
        [["/w/vendor:p"], ["/w/vendor:p", "a_test"], ["/w/vendor:p", "a_test", "Suite"],
          ["/w/vendor:p", "a_test", "Suite", "Suite.TestX"]] := by
  exact ⟨List.reverse_perm _, by decide +kernel, by decide +kernel, by decide +kernel⟩

end Catalog
end SuiteExplorer
