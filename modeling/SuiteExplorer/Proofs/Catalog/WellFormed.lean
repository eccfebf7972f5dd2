/-
  SuiteExplorer/Proofs/Catalog/WellFormed.lean
  ============================================
  **The form of the tree: packages, files, suites, tests.**

  `Catalog.WellFormed` says what a tree looks like: what the nodes of each level stand
  for, where their ids, labels and spans come from, which paths files may have, and that
  ids and numbers lead to one another.  It holds whatever has been done to a catalog
  (`wellFormed_performAll`), because every node comes from a file that was read
  (`mem_entries_performAll`), and the ids on the way down to it tell which of the nodes
  of that file it is.

  The paths on different levels agree as long as no directory has a colon in its path
  (`Catalog.Settled`): the id of a package is the text of its directory, a colon and a
  name, so that with a colon in it two directories may share one package.
-/
import SuiteExplorer.Proofs.Catalog.Deletion
import SuiteExplorer.Proofs.Catalog.Nodes
import SuiteExplorer.Proofs.Catalog.Ways

namespace SuiteExplorer

/-! ## 1. Paths that test files may have -/

/-- The name begins with a dot or an underscore. -/
def Exclusion.Hidden (name : String) : Prop :=
  ∃ c rest, name.toList = c :: rest ∧ (c = '.' ∨ c = '_')

theorem Exclusion.ignoresName_iff {name : String} : ignoresName name = true ↔ Hidden name := by
  unfold ignoresName Hidden
  cases name.toList with
  | nil => simp
  | cons c rest => simp

/-- The directory is one that is not entered below a root. -/
structure Exclusion.Entered (extra : List String) (directory : String) : Prop where
  notBuiltIn : directory ∉ builtIn
  notExtra : directory ∉ extra
  shown : ¬Hidden directory

theorem Exclusion.not_prunes_iff {extra : List String} {directory : String} :
    prunes extra directory = false ↔ Entered extra directory := by
  have hignored : ignoresName directory = false ↔ ¬Hidden directory := by
    rw [← ignoresName_iff, Bool.not_eq_true]
  simp only [prunes, Bool.or_eq_false_iff, List.contains_eq_mem, decide_eq_false_iff_not, hignored]
  constructor
  · rintro ⟨⟨hbuiltIn, hextra⟩, hshown⟩
    exact ⟨hbuiltIn, hextra, hshown⟩
  · exact fun h => ⟨⟨h.notBuiltIn, h.notExtra⟩, h.shown⟩

namespace Catalog

/-- A test file may have this path: by its name, by the directories on the way, and
    below the first root above it by those that a listing would enter. -/
structure TestPath (c : Catalog) (q : Path) : Prop where
  ending : q.name.endsWith "_test.go" = true
  shown : ¬Exclusion.Hidden q.name
  noData : "testdata" ∉ q.names
  entered : ∀ root names, c.rootOf? q = some root → q = root.down names →
    ∀ n ∈ names.dropLast, Exclusion.Entered c.settings.extra n

theorem bind_below?_eq_some {c : Catalog} {q : Path} {names : List String} :
    (c.rootOf? q).bind q.below? = some names ↔
      ∃ root, c.rootOf? q = some root ∧ q = root.down names := by
  rw [Option.bind_eq_some_iff]
  refine exists_congr fun root => and_congr_right fun hfind => ⟨Path.below?_eq_some, fun hq => ?_⟩
  have hbelow : (q.below? root).isSome := List.find?_some (p := fun r => (q.below? r).isSome) hfind
  obtain ⟨names', hnames⟩ := Option.isSome_iff_exists.mp hbelow
  rw [hnames, Path.down_injective ((Path.below?_eq_some hnames).symm.trans hq)]

/-- **A candidate is exactly such a path.** -/
theorem isCandidate_iff {c : Catalog} {q : Path} : c.isCandidate q = true ↔ c.TestPath q := by
  unfold isCandidate Exclusion.isCandidate
  rw [Bool.and_eq_true, Bool.and_eq_true, Bool.and_eq_true]
  refine (and_congr_right' (c := ∀ root names, c.rootOf? q = some root → q = root.down names →
    ∀ n ∈ names.dropLast, Exclusion.Entered c.settings.extra n) ?_).trans ?_
  · cases hbind : (c.rootOf? q).bind q.below? with
    | none =>
      refine iff_of_true rfl fun root names hroot hq => ?_
      rw [bind_below?_eq_some.mpr ⟨root, hroot, hq⟩] at hbind
      cases hbind
    | some names =>
      simp only [Bool.not_eq_true', List.any_eq_false, Bool.not_eq_true, Exclusion.not_prunes_iff]
      constructor
      · intro h root names' hroot hq
        rw [bind_below?_eq_some.mpr ⟨root, hroot, hq⟩] at hbind
        rwa [Option.some.inj hbind]
      · intro h
        obtain ⟨root, hroot, hq⟩ := bind_below?_eq_some.mp hbind
        exact h root names hroot hq
  simp only [Bool.not_eq_true', List.contains_eq_mem, decide_eq_false_iff_not]
  constructor
  · rintro ⟨⟨⟨hending, hdata⟩, hshown⟩, hentered⟩
    refine ⟨hending, ?_, hdata, hentered⟩
    rw [← Exclusion.ignoresName_iff, hshown]
    exact Bool.false_ne_true
  · rintro ⟨hending, hshown, hdata, hentered⟩
    refine ⟨⟨⟨hending, hdata⟩, ?_⟩, hentered⟩
    rw [← Bool.not_eq_true, Exclusion.ignoresName_iff]
    exact hshown

/-! ## 2. Level by level -/

/-- A test is what its declaration says, in the suite of its receiver. -/
structure TestForm (c : Catalog) (p f s t : NodeInfo) : Prop where
  declared : ∃ d, c.meaning? t.ref = some (.runnable (.test d)) ∧ t.id = d.qualifiedName ∧
    t.label = d.name ∧ t.span = some d.span ∧ d.receiver = some s.id
  childless : c.childrenOf t.ref = []
  placed : c.Placed [p.id, f.id, s.id, t.id] t

/-- A suite has the id of the receiver it stands for, and tests below it. -/
structure SuiteForm (c : Catalog) (p f : NodeInfo) (s : SuiteNode) : Prop where
  stands : ∃ kind, c.meaning? s.info.ref = some (.runnable (.suite ⟨s.info.id, kind⟩))
  spanless : s.info.span = none
  placed : c.Placed [p.id, f.id, s.info.id] s.info
  distinct : (s.tests.map (·.id)).Nodup
  tests : ∀ t ∈ s.tests, c.TestForm p f s.info t

/-- A file has a path that a test file may have, its id is the name without the last
    extension, and suites are below it. -/
structure FileForm (c : Catalog) (p : NodeInfo) (f : FileNode) : Prop where
  stands : c.meaning? f.info.ref = some .file
  path : c.TestPath f.info.path
  id : f.info.id = f.info.path.stem
  name : f.info.path.name = f.info.id ++ ".go"
  label : f.info.label = f.info.path.name
  spanless : f.info.span = none
  placed : c.Placed [p.id, f.info.id] f.info
  distinct : (f.suites.map (·.info.id)).Nodup
  suites : ∀ s ∈ f.suites, c.SuiteForm p f.info s

/-- A package has its directory and a name as its id, and files below it. -/
structure PackageForm (c : Catalog) (p : PackageNode) : Prop where
  stands : c.meaning? p.info.ref = some .package
  id : ∃ name, p.info.id = packageId p.info.path name
  spanless : p.info.span = none
  placed : c.Placed [p.info.id] p.info
  distinct : (p.files.map (·.info.id)).Nodup
  files : ∀ f ∈ p.files, c.FileForm p.info f

/-- **The form of a catalog.**  Packages, files, suites and tests, level by level; only
    tests lead to a place in a file. -/
structure WellFormed (c : Catalog) : Prop where
  distinct : (c.packages.map (·.info.id)).Nodup
  packages : ∀ p ∈ c.packages, c.PackageForm p
  spans : ∀ i ∈ c.infos, i.span.isSome ↔ ∃ d, c.meaning? i.ref = some (.runnable (.test d))
  tests : c.tests = c.files.flatMap fun f => f.suites.flatMap (·.tests)

/-- The directories that nodes are of: those of the packages, and those in which the
    files of all other nodes lie. -/
def directories (c : Catalog) : List Path :=
  c.packages.map (·.info.path) ++ (c.files.flatMap (·.infos)).map (·.path.parent)

/-- The paths of different levels agree. -/
structure Settled (c : Catalog) : Prop where
  files : ∀ p ∈ c.packages, ∀ f ∈ p.files, f.info.path.parent = p.info.path
  suites : ∀ f ∈ c.files, ∀ s ∈ f.suites, s.info.path = f.info.path
  tests : ∀ f ∈ c.files, ∀ s ∈ f.suites, ∀ t ∈ s.tests, t.path = f.info.path

end Catalog

/-! ## 3. Which node of a file an entry is -/

theorem founders_subset (ds : List Declaration) : founders ds ⊆ ds := by
  induction ds with
  | nil => exact List.Subset.refl _
  | cons d rest ih =>
    rw [founders]
    exact List.cons_subset_cons d fun _ hd => ih (List.mem_of_mem_filter hd)

theorem latest_subset (ds : List Declaration) : latest ds ⊆ ds := by
  induction ds with
  | nil => exact List.Subset.refl _
  | cons d rest ih =>
    rw [latest]
    split
    · exact fun _ hd => List.mem_cons_of_mem d (ih hd)
    · exact List.cons_subset_cons d ih

section Levels

variable {label : Labels} {q : Path} {package : String} {ds : List Declaration} {o : NodeOutline}
  {a b r i : String}

/-- With one id on the way, it is the package. -/
theorem package_of_mem_nodesOf (h : ⟨[a], o⟩ ∈ nodesOf label q package ds) :
    a = Catalog.packageId q.parent package ∧ o = packageHead label q.parent package := by
  simpa [nodesOf, Declaration.place] using h

/-- With two ids, the file. -/
theorem file_of_mem_nodesOf (h : ⟨[a, b], o⟩ ∈ nodesOf label q package ds) :
    a = Catalog.packageId q.parent package ∧ b = q.stem ∧ o = (FileOutline.empty q).head := by
  simpa [nodesOf, Declaration.place, and_assoc] using h

/-- With three ids, the suite that a declaration founds. -/
theorem suite_of_mem_nodesOf (h : ⟨[a, b, r], o⟩ ∈ nodesOf label q package ds) :
    a = Catalog.packageId q.parent package ∧ b = q.stem ∧
      ∃ d ∈ ds, r = d.receiver.getD "" ∧ o = (SuiteOutline.empty q d).head := by
  rw [nodesOf, List.cons_append, List.cons_append, List.mem_cons, List.mem_cons,
    List.mem_append] at h
  rcases h with h | h | h | h
  · cases h
  · cases h
  · obtain ⟨d, hd, he⟩ := List.mem_map.mp h
    cases he
    exact ⟨rfl, rfl, d, founders_subset ds hd, rfl, rfl⟩
  · obtain ⟨d, -, he⟩ := List.mem_map.mp h
    cases he

/-- With four ids, a test. -/
theorem test_of_mem_nodesOf (h : ⟨[a, b, r, i], o⟩ ∈ nodesOf label q package ds) :
    a = Catalog.packageId q.parent package ∧ b = q.stem ∧
      ∃ d ∈ ds, r = d.receiver.getD "" ∧ i = d.qualifiedName ∧ o = .test q d := by
  rw [nodesOf, List.cons_append, List.cons_append, List.mem_cons, List.mem_cons,
    List.mem_append] at h
  rcases h with h | h | h | h
  · cases h
  · cases h
  · obtain ⟨d, -, he⟩ := List.mem_map.mp h
    cases he
  · obtain ⟨d, hd, he⟩ := List.mem_map.mp h
    cases he
    exact ⟨rfl, rfl, d, latest_subset ds hd, rfl, rfl, rfl⟩

end Levels

/-! ## 4. Files that were read -/

theorem Declarations.receiver_of_mem_ofLines {imports : List Import} {lines : List Text.Line}
    {start : Nat} {d : Declaration} (h : d ∈ ofLines imports lines start) :
    ∃ receiver, d.receiver = some receiver := by
  unfold ofLines at h
  dsimp only at h
  split at h
  · cases h
  · obtain ⟨⟨n, signature, q⟩, -, hdeclared⟩ := List.mem_filterMap.mp h
    dsimp only at hdeclared
    split at hdeclared
    · obtain rfl := Option.some.inj hdeclared
      exact ⟨signature.receiver, rfl⟩
    · cases hdeclared

theorem Library.receiver_of_mem_declarations {l : Library} {text : String} {d : Declaration}
    (h : d ∈ l.declarations text) : ∃ receiver, d.receiver = some receiver := by
  unfold declarations SourceFile.ofText SourceFile.ofLines at h
  split at h
  · cases h
  case h_2 file hfile =>
    obtain ⟨clause, -, rfl⟩ := Option.map_eq_some_iff.mp hfile
    exact Declarations.receiver_of_mem_ofLines (List.mem_filter.mp h).1

namespace Catalog

/-- What an operation may find at a path: the path is one that a test file may have, and
    all declarations have a receiver. -/
structure Readable (c : Catalog) (q : Path) (ds : List Declaration) : Prop where
  path : c.TestPath q
  received : ∀ d ∈ ds, ∃ receiver, d.receiver = some receiver

/-- What is found in a text is declared there, for one of the libraries. -/
theorem mem_declarations_of_findingsIn? {c : Catalog} {text package : String}
    {ds : List Declaration} {d : Declaration} (h : c.findingsIn? text = some (package, ds))
    (hd : d ∈ ds) : ∃ l ∈ c.settings.libraries, d ∈ l.declarations text := by
  unfold findingsIn? at h
  split at h
  · cases h
  · split at h
    · cases h
    · obtain rfl := (Prod.mk.inj (Option.some.inj h)).2
      exact List.mem_flatMap.mp hd

theorem readable_of_findingsIn? {c : Catalog} {q : Path} (hq : c.isCandidate q = true)
    {text : String} {package : String} {ds : List Declaration}
    (h : c.findingsIn? text = some (package, ds)) : c.Readable q ds := by
  refine ⟨isCandidate_iff.mp hq, fun d hd => ?_⟩
  obtain ⟨l, -, hdl⟩ := mem_declarations_of_findingsIn? h hd
  exact l.receiver_of_mem_declarations hdl

/-- What is found in a file is found in its text. -/
theorem exists_text_of_findings? {c : Catalog} {files : FileTree} {q : Path} {package : String}
    {ds : List Declaration} (h : c.findings? files q = some (package, ds)) :
    c.isCandidate q = true ∧ ∃ text, c.findingsIn? text = some (package, ds) := by
  have hq := (findings?_some h).1
  rw [findings?, if_pos hq] at h
  obtain ⟨bytes, -, hfound⟩ := Option.bind_eq_some_iff.mp h
  exact ⟨hq, _, hfound⟩

/-- **Whatever an operation finds** is found in some text, at a path that a test file may have. -/
theorem exists_text_of_plan {c : Catalog} {act : CatalogAct} {q : Path} {package : String}
    {ds : List Declaration} (h : act.plan c q = some (package, ds)) :
    c.isCandidate q = true ∧ ∃ text, c.findingsIn? text = some (package, ds) := by
  cases act with
  | discover files path content =>
    obtain ⟨rfl, hfound⟩ := Option.ite_none_right_eq_some.mp h
    cases content with
    | none => exact exists_text_of_findings? hfound
    | some text =>
      obtain ⟨hq, hfound⟩ := Option.ite_none_right_eq_some.mp hfound
      exact ⟨hq, text, hfound⟩
  | refreshFile files ref => exact exists_text_of_findings? h
  | refreshPackage files ref => exact exists_text_of_findings? h
  | resolve files ref => exact exists_text_of_findings? h
  | rescan files cancelled => exact exists_text_of_findings? h
  | follow files event => exact exists_text_of_findings? h
  | prune => cases h
  | removeFile path => cases h
  | clear => cases h
  | dispose => cases h
  | setState ref state => cases h
  | listen listener => cases h

/-- So it is readable. -/
theorem readable_of_plan {c : Catalog} {act : CatalogAct} {q : Path} {package : String}
    {ds : List Declaration} (h : act.plan c q = some (package, ds)) : c.Readable q ds := by
  obtain ⟨hq, text, hfound⟩ := exists_text_of_plan h
  exact readable_of_findingsIn? hq hfound

/-- Every entry is a node of some file that can be read. -/
def Drawn (c : Catalog) : Prop := ∀ e ∈ c.entries, ∃ q package ds, c.Readable q ds ∧
  e ∈ nodesOf c.packageLabel q package ds

theorem TestPath.congr {c c' : Catalog} (hsettings : c'.settings = c.settings) {q : Path}
    (h : c.TestPath q) : c'.TestPath q := by
  have hroot : c'.rootOf? q = c.rootOf? q := by rw [rootOf?, rootOf?, hsettings]
  exact ⟨h.ending, h.shown, h.noData, by rw [hroot, hsettings]; exact h.entered⟩

theorem drawn_performAll (settings : CatalogSettings) (listeners : List Listener)
    (acts : List CatalogAct) : ((fresh settings listeners).performAll acts).Drawn := by
  intro e he
  obtain ⟨act, -, q, package, ds, hplan, hmem⟩ := mem_entries_performAll settings listeners acts he
  have hsettings : ((fresh settings listeners).performAll acts).settings =
      (fresh settings).settings := settings_performAll settings listeners acts
  have hread := readable_of_plan hplan
  refine ⟨q, package, ds, ⟨hread.path.congr hsettings, hread.received⟩, ?_⟩
  rwa [packageLabel_congr hsettings]

/-! ## 5. The node at a place -/

section Nodes

variable {c : Catalog} {p : PackageNode} (hp : p ∈ c.packages)

include hp

theorem entry_package : ⟨[p.info.id], p.info.outline c.meaning?⟩ ∈ c.entries :=
  mem_entriesOf.mpr (Or.inl ⟨p.outline c.meaning?, List.mem_map_of_mem hp, rfl⟩)

variable {f : FileNode} (hf : f ∈ p.files)

include hf

theorem entry_of_file {e : Entry}
    (he : e ∈ Filed.entries ⟨p.info.outline c.meaning?, f.outline c.meaning?⟩) : e ∈ c.entries :=
  mem_entries_of_filed (mem_filed_outline.mpr ⟨p, hp, f, hf, rfl⟩) he

theorem entry_file : ⟨[p.info.id, f.info.id], f.info.outline c.meaning?⟩ ∈ c.entries :=
  entry_of_file hp hf List.mem_cons_self

variable {s : SuiteNode} (hs : s ∈ f.suites)

include hs

theorem entry_suite :
    ⟨[p.info.id, f.info.id, s.info.id], s.info.outline c.meaning?⟩ ∈ c.entries :=
  entry_of_file hp hf (List.mem_cons_of_mem _
    (List.mem_flatMap.mpr ⟨s.outline c.meaning?, List.mem_map_of_mem hs, List.mem_cons_self⟩))

theorem entry_test {t : NodeInfo} (ht : t ∈ s.tests) :
    ⟨[p.info.id, f.info.id, s.info.id, t.id], t.outline c.meaning?⟩ ∈ c.entries := by
  refine entry_of_file hp hf (List.mem_cons_of_mem _ (List.mem_flatMap.mpr
    ⟨s.outline c.meaning?, List.mem_map_of_mem hs, List.mem_cons_of_mem _ ?_⟩))
  exact List.mem_map.mpr ⟨t.outline c.meaning?, List.mem_map_of_mem ht, rfl⟩

end Nodes

section Levels

variable {c : Catalog} (h : c.Drawn) {p : PackageNode} (hp : p ∈ c.packages)

include h hp

/-- What a package shows. -/
theorem Drawn.package : ∃ q package ds, c.Readable q ds ∧ p.info.id = packageId q.parent package ∧
    p.info.outline c.meaning? = packageHead c.packageLabel q.parent package := by
  obtain ⟨q, package, ds, hread, he⟩ := h _ (entry_package hp)
  obtain ⟨hid, hnode⟩ := package_of_mem_nodesOf he
  exact ⟨q, package, ds, hread, hid, hnode⟩

variable {f : FileNode} (hf : f ∈ p.files)

include hf

/-- What a file shows. -/
theorem Drawn.file : ∃ q package ds, c.Readable q ds ∧ p.info.id = packageId q.parent package ∧
    f.info.id = q.stem ∧ f.info.outline c.meaning? = (FileOutline.empty q).head := by
  obtain ⟨q, package, ds, hread, he⟩ := h _ (entry_file hp hf)
  obtain ⟨hpackage, hid, hnode⟩ := file_of_mem_nodesOf he
  exact ⟨q, package, ds, hread, hpackage, hid, hnode⟩

variable {s : SuiteNode} (hs : s ∈ f.suites)

include hs

/-- What a suite shows. -/
theorem Drawn.suite : ∃ q package ds, c.Readable q ds ∧ p.info.id = packageId q.parent package ∧
    f.info.id = q.stem ∧ ∃ d ∈ ds, d.receiver = some s.info.id ∧
      s.info.outline c.meaning? = (SuiteOutline.empty q d).head := by
  obtain ⟨q, package, ds, hread, he⟩ := h _ (entry_suite hp hf hs)
  obtain ⟨hpackage, hfile, d, hd, hid, hnode⟩ := suite_of_mem_nodesOf he
  obtain ⟨receiver, hreceiver⟩ := hread.received d hd
  refine ⟨q, package, ds, hread, hpackage, hfile, d, hd, ?_, hnode⟩
  rw [hid, hreceiver, Option.getD_some]

/-- What a test shows. -/
theorem Drawn.test {t : NodeInfo} (ht : t ∈ s.tests) :
    ∃ q package ds, c.Readable q ds ∧ p.info.id = packageId q.parent package ∧
      f.info.id = q.stem ∧ ∃ d ∈ ds, d.receiver = some s.info.id ∧
        t.outline c.meaning? = .test q d := by
  obtain ⟨q, package, ds, hread, he⟩ := h _ (entry_test hp hf hs ht)
  obtain ⟨hpackage, hfile, d, hd, hid, -, hnode⟩ := test_of_mem_nodesOf he
  obtain ⟨receiver, hreceiver⟩ := hread.received d hd
  refine ⟨q, package, ds, hread, hpackage, hfile, d, hd, ?_, hnode⟩
  rw [hid, hreceiver, Option.getD_some]

end Levels

/-! ## 6. The form of a catalog -/

section Form

variable {c : Catalog} (hs : c.Sound) (h : c.Drawn) {p : PackageNode} (hp : p ∈ c.packages)
  {f : FileNode} (hf : f ∈ p.files)

include hs h hp hf

theorem testForm {s : SuiteNode} (hsuite : s ∈ f.suites) {t : NodeInfo} (ht : t ∈ s.tests) :
    c.TestForm p.info f.info s.info t := by
  obtain ⟨q, package, ds, -, -, -, d, -, hreceiver, hnode⟩ := h.test hp hf hsuite ht
  obtain ⟨hplaced, hchildren⟩ := hs.placed (hs.leads_test hp hf hsuite ht)
  refine ⟨⟨d, ?_, ?_, ?_, ?_, hreceiver⟩, hchildren, hplaced⟩
  · exact congrArg NodeOutline.meaning hnode
  · exact congrArg NodeOutline.id hnode
  · exact congrArg NodeOutline.label hnode
  · exact congrArg NodeOutline.span hnode

theorem suiteForm {s : SuiteNode} (hsuite : s ∈ f.suites) : c.SuiteForm p.info f.info s := by
  obtain ⟨q, package, ds, -, -, -, d, -, hreceiver, hnode⟩ := h.suite hp hf hsuite
  have hfile := PackageNode.distinct_file (distinct_package hs.distinct hp) hf
  refine ⟨⟨d.kind, ?_⟩, ?_, (hs.placed (hs.leads_suite hp hf hsuite)).1, ?_, ?_⟩
  · have hmeaning := congrArg NodeOutline.meaning hnode
    rwa [SuiteOutline.empty, hreceiver, Option.getD_some] at hmeaning
  · exact congrArg NodeOutline.span hnode
  · exact SuiteNode.nodup_ids (FileNode.distinct_suite hfile hsuite)
  · exact fun t ht => testForm hs h hp hf hsuite ht

theorem fileForm : c.FileForm p.info f := by
  obtain ⟨q, package, ds, hread, -, hid, hnode⟩ := h.file hp hf
  obtain rfl : f.info.path = q := congrArg NodeOutline.path hnode
  have hfile := PackageNode.distinct_file (distinct_package hs.distinct hp) hf
  exact
    { stands := congrArg NodeOutline.meaning hnode
      path := hread.path
      id := hid
      name := hid ▸ Path.name_eq_stem_append hread.path.ending
      label := congrArg NodeOutline.label hnode
      spanless := congrArg NodeOutline.span hnode
      placed := (hs.placed (hs.leads_file hp hf)).1
      distinct := FileNode.nodup_ids hfile
      suites := fun s hsuite => suiteForm hs h hp hf hsuite }

omit hf in
theorem packageForm : c.PackageForm p := by
  obtain ⟨q, package, ds, -, hid, hnode⟩ := h.package hp
  have hpath : p.info.path = q.parent := congrArg NodeOutline.path hnode
  exact
    { stands := congrArg NodeOutline.meaning hnode
      id := ⟨package, hpath ▸ hid⟩
      spanless := congrArg NodeOutline.span hnode
      placed := (hs.placed (hs.leads_package hp)).1
      distinct := PackageNode.nodup_ids (distinct_package hs.distinct hp)
      files := fun f hf => fileForm hs h hp hf }

end Form

/-! ### 6.1 The nodes that lead to a place in a file -/

section Spans

variable {c : Catalog} (h : ∀ p ∈ c.packages, c.PackageForm p)

include h

/-- Only what stands for a test has a span. -/
theorem isSome_span_iff {i : NodeInfo} (hi : i ∈ c.infos) :
    i.span.isSome ↔ ∃ d, c.meaning? i.ref = some (.runnable (.test d)) := by
  have hneither : ∀ {m : Meaning}, c.meaning? i.ref = some m → i.span = none →
      (∀ d, m ≠ .runnable (.test d)) →
        (i.span.isSome ↔ ∃ d, c.meaning? i.ref = some (.runnable (.test d))) := by
    intro m hm hspan hne
    rw [hspan, hm]
    exact ⟨fun hsome => (nomatch hsome), fun ⟨d, hd⟩ => absurd (Option.some.inj hd) (hne d)⟩
  rcases mem_infos.mp hi with ⟨p, hp, rfl⟩ | ⟨f, hf, hbelow⟩
  · exact hneither (h p hp).stands (h p hp).spanless fun d hd => nomatch hd
  obtain ⟨p, hp, hfp⟩ := mem_files.mp hf
  have hfile := (h p hp).files f hfp
  rcases hbelow with rfl | ⟨s, hs, rfl | ht⟩
  · exact hneither hfile.stands hfile.spanless fun d hd => nomatch hd
  · obtain ⟨kind, hkind⟩ := (hfile.suites s hs).stands
    exact hneither hkind (hfile.suites s hs).spanless fun d hd => nomatch hd
  · obtain ⟨d, hmeaning, -, -, hspan, -⟩ := ((hfile.suites s hs).tests i ht).declared
    exact ⟨fun _ => ⟨d, hmeaning⟩, fun _ => hspan ▸ rfl⟩

/-- **The tests are listed** package by package, file by file, suite by suite. -/
theorem tests_eq : c.tests = c.files.flatMap fun f => f.suites.flatMap (·.tests) := by
  have hsuite : ∀ p ∈ c.packages, ∀ f ∈ p.files, ∀ s ∈ f.suites,
      s.infos.filter (·.span.isSome) = s.tests := by
    intro p hp f hf s hs
    have hform := ((h p hp).files f hf).suites s hs
    rw [SuiteNode.infos, List.filter_cons_of_neg (by rw [hform.spanless]; exact Bool.false_ne_true)]
    refine List.filter_eq_self.mpr fun t ht => ?_
    obtain ⟨d, -, -, -, hspan, -⟩ := (hform.tests t ht).declared
    rw [hspan, Option.isSome_some]
  have hfile : ∀ p ∈ c.packages, ∀ f ∈ p.files,
      f.infos.filter (·.span.isSome) = f.suites.flatMap (·.tests) := by
    intro p hp f hf
    have hspan := ((h p hp).files f hf).spanless
    rw [FileNode.infos, List.filter_cons_of_neg (by rw [hspan]; exact Bool.false_ne_true),
      List.filter_flatMap]
    exact List.flatMap_congr (hsuite p hp f hf)
  rw [tests, infos_eq, List.filter_flatMap, files, List.flatMap_assoc]
  refine List.flatMap_congr fun p hp => ?_
  have hspan := (h p hp).spanless
  rw [PackageNode.infos, List.filter_cons_of_neg (by rw [hspan]; exact Bool.false_ne_true),
    List.filter_flatMap]
  exact List.flatMap_congr (hfile p hp)

end Spans

theorem wellFormed_of_drawn {c : Catalog} (hs : c.Sound) (h : c.Drawn) : c.WellFormed := by
  have hpackages : ∀ p ∈ c.packages, c.PackageForm p := fun p hp => packageForm hs h hp
  exact ⟨nodup_ids hs.distinct, hpackages, fun i hi => isSome_span_iff hpackages hi,
    tests_eq hpackages⟩

/-! ## 7. Paths of different levels -/

/-- A file and what comes from another one are of one file, if the ids on the way to
    both are the same. -/
theorem Readable.eq_of_ids {c : Catalog} {q q' : Path} {ds ds' : List Declaration}
    (hq : c.Readable q ds) (hq' : c.Readable q' ds')
    (hplain : q.parent.Proper ∧ q.parent.Colonless)
    (hplain' : q'.parent.Proper ∧ q'.parent.Colonless)
    {package package' : String} (hid : packageId q.parent package = packageId q'.parent package')
    (hstem : q.stem = q'.stem) : q = q' :=
  (filing_injective ⟨hq.path.ending, hplain.1, hplain.2⟩ ⟨hq'.path.ending, hplain'.1, hplain'.2⟩
    hid hstem).1

/-- **Without colons in directories,** a file lies in the directory of its package, and
    what it holds is of its path. -/
theorem settled_of_drawn {c : Catalog} (h : c.Drawn)
    (hplain : ∀ d ∈ c.directories, d.Proper ∧ d.Colonless) : c.Settled := by
  have hbelow : ∀ {p}, p ∈ c.packages → ∀ {f}, f ∈ p.files → ∀ i ∈ f.infos,
      i.path.parent.Proper ∧ i.path.parent.Colonless := by
    intro p hp f hf i hi
    refine hplain _ (List.mem_append_right _ (List.mem_map_of_mem ?_))
    exact List.mem_flatMap.mpr ⟨f, mem_files.mpr ⟨p, hp, hf⟩, hi⟩
  have hsuite : ∀ {f : FileNode} {s}, s ∈ f.suites → ∀ i ∈ s.infos, i ∈ f.infos := fun hs i hi =>
    List.mem_cons_of_mem _ (List.mem_flatMap.mpr ⟨_, hs, hi⟩)
  refine ⟨fun p hp f hf => ?_, fun f hf s hs => ?_, fun f hf s hs t ht => ?_⟩
  · have hdirectory := hplain _ (List.mem_append_left _ (List.mem_map_of_mem hp))
    obtain ⟨q, package, ds, -, hid, hnode⟩ := h.package hp
    obtain ⟨q', package', ds', -, hid', -, hnode'⟩ := h.file hp hf
    have hpath : p.info.path = q.parent := congrArg NodeOutline.path hnode
    obtain rfl : f.info.path = q' := congrArg NodeOutline.path hnode'
    -- package and file come from different reads, which the id of the package brings together
    have hlies := hbelow hp hf f.info List.mem_cons_self
    rw [hpath] at hdirectory ⊢
    exact (packageId_injective hlies.1 hdirectory.1 hlies.2 hdirectory.2 (hid'.symm.trans hid)).1
  · obtain ⟨p, hp, hfp⟩ := mem_files.mp hf
    obtain ⟨q, package, ds, hread, hid, hstem, hnode⟩ := h.file hp hfp
    obtain ⟨q', package', ds', hread', hid', hstem', d, -, -, hnode'⟩ := h.suite hp hfp hs
    obtain rfl : f.info.path = q := congrArg NodeOutline.path hnode
    obtain rfl : s.info.path = q' := congrArg NodeOutline.path hnode'
    exact hread'.eq_of_ids hread (hbelow hp hfp s.info (hsuite hs _ List.mem_cons_self))
      (hbelow hp hfp f.info List.mem_cons_self) (hid'.symm.trans hid) (hstem'.symm.trans hstem)
  · obtain ⟨p, hp, hfp⟩ := mem_files.mp hf
    obtain ⟨q, package, ds, hread, hid, hstem, hnode⟩ := h.file hp hfp
    obtain ⟨q', package', ds', hread', hid', hstem', d, -, -, hnode'⟩ := h.test hp hfp hs ht
    obtain rfl : f.info.path = q := congrArg NodeOutline.path hnode
    obtain rfl : t.path = q' := congrArg NodeOutline.path hnode'
    exact hread'.eq_of_ids hread (hbelow hp hfp t (hsuite hs _ (List.mem_cons_of_mem _ ht)))
      (hbelow hp hfp f.info List.mem_cons_self) (hid'.symm.trans hid) (hstem'.symm.trans hstem)

/-- **The form of every catalog.**  Whatever has been done to it, over whatever files, its
    tree is well formed; and as long as no directory has a colon in its path, the paths on
    the way down agree. -/
theorem wellFormed_performAll (settings : CatalogSettings) (listeners : List Listener)
    (acts : List CatalogAct) :
    let c := (fresh settings listeners).performAll acts
    c.WellFormed ∧ ((∀ d ∈ c.directories, d.Proper ∧ d.Colonless) → c.Settled) := by
  intro c
  have hdrawn : c.Drawn := drawn_performAll settings listeners acts
  exact ⟨wellFormed_of_drawn (sound_performAll settings listeners acts) hdrawn,
    settled_of_drawn hdrawn⟩

/-- Two files are found, one of them moves to a new package while the directory is read
    anew, and the other one is read again. -/
def sampleMending : List CatalogAct :=
  [.rescan sampleGrown .never, .refreshPackage sampleMoved 0, .refreshFile sampleMoved 5]

theorem wellFormed_sampleMending :
    let c := (fresh sampleSettings).performAll sampleMending
    c.infos.map (·.id) = ["/w:p", "/w/sub:p", "b_test", "Suite", "Suite.TestX", "/w:q", "a_test",
      "Suite", "Suite.TestX"] ∧
      (∀ d ∈ c.directories, d.Proper ∧ d.Colonless) ∧ c.WellFormed ∧ c.Settled := by
  intro c
  have hdirectories : ∀ d ∈ c.directories, d = .ofString "/w" ∨ d = .ofString "/w/sub" := by
    decide +kernel
  have hplain : ∀ d ∈ c.directories, d.Proper ∧ d.Colonless := by
    intro d hd
    rcases hdirectories d hd with rfl | rfl
    · exact ⟨Path.proper_ofString "/w", by decide +kernel⟩
    · exact ⟨Path.proper_ofString "/w/sub", by decide +kernel⟩
  obtain ⟨hform, hsettled⟩ := wellFormed_performAll sampleSettings [] sampleMending
  exact ⟨by decide +kernel, hplain, hform, hsettled hplain⟩

end Catalog
end SuiteExplorer
