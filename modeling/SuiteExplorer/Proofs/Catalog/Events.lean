/-
  SuiteExplorer/Proofs/Catalog/Events.lean
  ========================================
  **An event turns one outline into another.**

  What the tree shows after an event depends on what it has shown before and on what
  reading the file finds, and on nothing else: not on the numbers of its nodes, and not
  on their states.  `turn` is this function of outlines (`outline_follow`), so what a
  sequence of events leads to is a fold (`outline_followEach`).

  A created file is entered, a modified one is emptied before.  Both orders of the two
  events lead to the same outline if the file is in its place: each file node of the
  path lies in the package that the file now belongs to (`turn_comm`).
-/
import SuiteExplorer.Proofs.Catalog.Deletion

namespace SuiteExplorer

open Keyed

/-! ## 1. Events on outlines -/

/-- The first file of a path. -/
def firstAt? (q : Path) (ps : List PackageOutline) : Option Filed :=
  (filed ps).find? (·.file.head.path = q)

/-- Take the suites out of the file with these ids. -/
def emptyPlace (package file : String) (ps : List PackageOutline) : List PackageOutline :=
  alter (·.head.id) package
    (fun p => { p with files := alter (·.head.id) file (fun f => { f with suites := [] }) p.files })
    ps

/-- Take out the file with these ids. -/
def dropPlace (package file : String) (ps : List PackageOutline) : List PackageOutline :=
  alter (·.head.id) package (fun p => { p with files := p.files.filter (·.head.id ≠ file) }) ps

/-- Empty the first file of a path. -/
def emptyFirst (q : Path) (ps : List PackageOutline) : List PackageOutline :=
  match firstAt? q ps with
  | none => ps
  | some x => emptyPlace x.package.id x.file.head.id ps

/-- Enter what reading a file has found. -/
def enterFound (label : Labels) (q : Path) (found : Option (String × List Declaration))
    (ps : List PackageOutline) : List PackageOutline :=
  match found with
  | none => ps
  | some (package, ds) => enterOutline ps (label q.parent package) q package ds

/-- What an event makes of an outline, if reading the files finds what is planned. -/
def turn (label : Labels) (found : Plan) (e : Watch.FileEvent) (ps : List PackageOutline) :
    List PackageOutline :=
  match e.kind with
  | .created => enterFound label e.path (found e.path) ps
  | .modified => pruneOutline (enterFound label e.path (found e.path) (emptyFirst e.path ps))
  | .deleted =>
    match firstAt? e.path ps with
    | none => ps
    | some x => pruneOutline (dropPlace x.package.id x.file.head.id ps)

namespace Catalog

variable {c : Catalog}

/-- The node of a file is known by the ids of the file and its package. -/
theorem ref_eq_iff_ids_eq (h : c.Sound) {p p' : PackageNode} {f g : FileNode}
    (hf : (p, f) ∈ c.placedFiles) (hg : (p', g) ∈ c.placedFiles) :
    g.info.ref = f.info.ref ↔ p'.info.id = p.info.id ∧ g.info.id = f.info.id := by
  obtain ⟨hp, hfp⟩ := mem_placedFiles.mp hf
  obtain ⟨hp', hgp⟩ := mem_placedFiles.mp hg
  constructor
  · intro href
    have hrefs : (c.placedFiles.map (·.2.info.ref)).Nodup := by
      have hnd := c.files_sublist_refs.nodup h.booked.tracks.distinct
      rwa [← map_placedFiles, List.map_map] at hnd
    have hsame := List.inj_on_of_nodup_map hrefs hg hf href
    obtain ⟨rfl, rfl⟩ := Prod.mk.inj hsame
    exact ⟨rfl, rfl⟩
  · rintro ⟨hpackage, hfile⟩
    obtain rfl : p' = p := List.inj_on_of_nodup_map (nodup_ids h.distinct) hp' hp hpackage
    have hids := PackageNode.nodup_ids (distinct_package h.distinct hp)
    rw [List.inj_on_of_nodup_map hids hgp hfp hfile]

/-- **Emptying the node of a file** empties the file with its ids. -/
theorem outline_clearChildren_place (h : c.Sound) {p : PackageNode} {f : FileNode}
    (hf : (p, f) ∈ c.placedFiles) :
    (c.clearChildren f.info.ref).outline = emptyPlace p.info.id f.info.id c.outline := by
  obtain ⟨hp, hfp⟩ := mem_placedFiles.mp hf
  rw [outline_clearChildren_file h (mem_files.mpr ⟨p, hp, hfp⟩), emptyPlace, alter, outline,
    List.map_map]
  refine List.map_congr_left fun p' hp' => ?_
  have hiff : ∀ g ∈ p'.files, g.info.ref = f.info.ref ↔
      p'.info.id = p.info.id ∧ g.info.id = f.info.id := fun g hg =>
    ref_eq_iff_ids_eq h hf (mem_placedFiles.mpr ⟨hp', hg⟩)
  by_cases hpackage : p'.info.id = p.info.id
  · refine (congrArg (PackageOutline.mk _) ?_).trans (if_pos hpackage).symm
    refine (List.map_congr_left fun g hg => ?_).trans (List.map_map ..).symm
    exact if_congr ((hiff g hg).trans (and_iff_right hpackage)) rfl rfl
  · refine (congrArg (PackageOutline.mk _) ?_).trans (if_neg hpackage).symm
    refine List.map_congr_left fun g hg => if_neg fun href => hpackage ?_
    exact ((hiff g hg).mp href).1

/-- **Removing the node of a file** takes out the file with its ids. -/
theorem outline_removeFile_place (h : c.Sound) {q : Path} {p : PackageNode} {f : FileNode}
    (hf : (p, f) ∈ c.placedFiles) (hfile : c.fileAt? q = some f) :
    (c.removeFile q).1.outline = dropPlace p.info.id f.info.id c.outline := by
  rw [(c.loses_removeFile q).outline h.booked, removeFile, hfile, dropPlace, alter, outline,
    List.map_map, List.map_map]
  refine List.map_congr_left fun p' hp' => ?_
  have hiff : ∀ g ∈ p'.files, g.info.ref = f.info.ref ↔
      p'.info.id = p.info.id ∧ g.info.id = f.info.id := fun g hg =>
    ref_eq_iff_ids_eq h hf (mem_placedFiles.mpr ⟨hp', hg⟩)
  by_cases hpackage : p'.info.id = p.info.id
  · refine (congrArg (PackageOutline.mk _) ?_).trans (if_pos hpackage).symm
    refine Eq.trans ?_ List.filter_map.symm
    refine congrArg (List.map _) (List.filter_congr fun g hg => ?_)
    exact decide_eq_decide.mpr (not_congr ((hiff g hg).trans (and_iff_right hpackage)))
  · refine (congrArg (PackageOutline.mk _) ?_).trans (if_neg hpackage).symm
    refine congrArg (List.map _) (List.filter_eq_self.mpr fun g hg => ?_)
    exact decide_eq_true fun href => hpackage ((hiff g hg).mp href).1

theorem outline_discoverQuietly (h : c.Sound) (files : FileTree) (q : Path) :
    (c.discoverQuietly files q none).1.outline =
      enterFound c.packageLabel q (c.findings? files q) c.outline := by
  rw [discoverQuietly_eq]
  cases c.findings? files q with
  | none => rfl
  | some found => exact outline_enterFile h.booked.tracks h.distinct _ _ _

theorem outline_onModified (h : c.Sound) (files : FileTree) (q : Path) :
    (c.onModified files q).1.outline =
      pruneOutline
        (enterFound c.packageLabel q (c.findings? files q) (emptyFirst q c.outline)) := by
  have hfirst : firstAt? q c.outline = c.filedAt? q := rfl
  unfold onModified
  rw [emptyFirst, hfirst]
  rcases c.filedAt?_eq q with ⟨hfile, hfiled⟩ | ⟨p, f, hplaced, hfile, hfiled⟩
  · have hs := (c.keeps_discoverQuietly files q none).sound h
    rw [hfile, hfiled, outline_prune hs.booked, outline_discoverQuietly h]
  · obtain ⟨hf, rfl⟩ := fileAt?_some hfile
    have hcleared := (c.loses_clearChildren f.info.ref).keeps
    have hs := (c.keeps_refreshQuietly files f.info.ref).sound h
    rw [hfile, hfiled, outline_prune hs.booked, refreshQuietly, h.pathOf_file hf,
      outline_discoverQuietly (hcleared.sound h), outline_clearChildren_place h hplaced,
      packageLabel_congr hcleared.settings, findings?_congr hcleared.settings rfl]
    rfl

theorem outline_onDeleted (h : c.Sound) (q : Path) :
    (c.onDeleted q).1.outline = match firstAt? q c.outline with
      | none => c.outline
      | some x => pruneOutline (dropPlace x.package.id x.file.head.id c.outline) := by
  have hfirst : firstAt? q c.outline = c.filedAt? q := rfl
  rw [onDeleted_eq, hfirst]
  rcases c.filedAt?_eq q with ⟨hfile, hfiled⟩ | ⟨p, f, hplaced, hfile, hfiled⟩
  · rw [hfiled]
    rfl
  · have hs := (c.loses_removeFile q).keeps.sound h
    rw [hfiled, Option.isSome_some, if_pos rfl, outline_prune hs.booked,
      outline_removeFile_place h hplaced hfile]
    rfl

/-- **An event turns the outline.** -/
theorem outline_follow (h : c.Sound) (files : FileTree) (e : Watch.FileEvent) :
    (c.follow files e).1.outline = turn c.packageLabel (c.findings? files) e c.outline := by
  obtain ⟨kind, q⟩ := e
  refine (outline_notifyIf _ _ _).trans ?_
  cases kind with
  | created => exact outline_discoverQuietly h files q
  | modified => exact outline_onModified h files q
  | deleted => exact outline_onDeleted h q

/-- **Events turn the outline** one after the other. -/
theorem outline_followEach (h : c.Sound) (files : FileTree) (events : List Watch.FileEvent) :
    (c.followEach files events).1.outline =
      events.foldl (fun ps e => turn c.packageLabel (c.findings? files) e ps) c.outline := by
  induction events generalizing c with
  | nil => rfl
  | cons e rest ih =>
    have hkeeps := c.keeps_follow files e
    have hfound : (c.follow files e).1.findings? files = c.findings? files :=
      funext fun q => findings?_congr hkeeps.settings rfl
    have hrest := ih (hkeeps.sound h)
    rw [hfound, packageLabel_congr hkeeps.settings, outline_follow h] at hrest
    exact hrest

end Catalog

/-! ## 2. Entering what is there

A file that shows what is declared is not changed by entering it once more.  The
entries say which tests there are; for their order, the ids are compared in place. -/

theorem FileOutline.mem_testEntries {f : FileOutline} {e : Entry} :
    e ∈ f.testEntries ↔ ∃ s ∈ f.suites, ∃ t ∈ s.tests, e = ⟨[s.head.id, t.id], t⟩ := by
  simp only [testEntries, SuiteOutline.testEntries, mem_entriesBelow, List.mem_singleton]
  constructor
  · rintro ⟨s, hs, _, ⟨t, ht, _, rfl, rfl⟩, rfl⟩
    exact ⟨s, hs, t, ht, rfl⟩
  · rintro ⟨s, hs, t, ht, rfl⟩
    exact ⟨s, hs, _, ⟨t, ht, _, rfl, rfl⟩, rfl⟩

/-- The suites of a file, each with the ids of its tests. -/
def FileOutline.skeleton (f : FileOutline) : List (NodeOutline × List String) :=
  f.suites.map fun s => (s.head, s.tests.map (·.id))

/-- **A file is known** by its skeleton and its tests. -/
theorem FileOutline.eq_of_skeleton {f f' : FileOutline} (h : f.Distinct) (hhead : f'.head = f.head)
    (hskeleton : f'.skeleton = f.skeleton) (htests : ∀ e ∈ f'.testEntries, e ∈ f.testEntries) :
    f' = f := by
  have hsuites : f'.suites = f.suites := by
    refine eq_of_map_eq h.1 ?_ fun s' hs' => ?_
    · have hids := congrArg (List.map fun x => x.1.id) hskeleton
      rwa [skeleton, skeleton, List.map_map, List.map_map] at hids
    · have hmem : (s'.head, s'.tests.map (·.id)) ∈ f'.skeleton :=
        List.mem_map_of_mem (f := fun s : SuiteOutline => (s.head, s.tests.map (·.id))) hs'
      rw [hskeleton] at hmem
      obtain ⟨s, hs, hsame⟩ := List.mem_map.mp hmem
      obtain ⟨hshead, hids⟩ := Prod.mk.inj hsame
      have hall : s'.tests = s.tests := by
        have hdistinct : (s.tests.map (·.id)).Nodup := h.2 s hs
        refine eq_of_map_eq hdistinct hids.symm fun t ht => ?_
        -- the test is one of the file, and by its ids of this suite
        obtain ⟨r, hr, u, hu, heq⟩ := mem_testEntries.mp
          (htests _ (mem_testEntries.mpr ⟨s', hs', t, ht, rfl⟩))
        obtain ⟨hplace, rfl⟩ := Entry.mk.inj heq
        have hrs : r.head.id = s.head.id := by
          rw [hshead]
          exact (List.cons.inj hplace).1.symm
        rwa [← eq_of_key_eq h.1 hr hs hrs]
      have heq : s' = s := by
        obtain ⟨head, tests⟩ := s
        obtain ⟨head', tests'⟩ := s'
        exact congr (congrArg SuiteOutline.mk hshead.symm) hall
      exact heq ▸ hs
  obtain ⟨head, suites⟩ := f
  obtain ⟨head', suites'⟩ := f'
  exact congr (congrArg FileOutline.mk hhead) hsuites

/-- Entering a test whose place is taken leaves the skeleton. -/
theorem FileOutline.skeleton_enter {f : FileOutline} (h : f.Distinct) (q : Path) {d : Declaration}
    (hd : d.place ∈ f.testEntries.map (·.ids)) : (f.enter q d).skeleton = f.skeleton := by
  obtain ⟨e, he, hplace⟩ := List.mem_map.mp hd
  obtain ⟨s, hs, t, ht, rfl⟩ := mem_testEntries.mp he
  obtain ⟨hsuite, htest⟩ := List.cons.inj hplace
  have hfind : f.suites.find? (·.head.id = d.receiver.getD "") = some s :=
    find?_of_mem h.1 hs hsuite
  rw [skeleton, suites_enter]
  refine map_upsert hfind ?_ h.1
  have htfind : s.tests.find? (·.id = d.qualifiedName) = some t :=
    find?_of_mem (h.2 s hs) ht (List.cons.inj htest).1
  have htests : (s.enter q d).tests.map (·.id) = s.tests.map (·.id) := by
    rw [SuiteOutline.tests_enter]
    exact map_upsert htfind (key_of_find? htfind).symm (h.2 s hs)
  exact congrArg (Prod.mk s.head) htests

/-- What is laid over entries takes none of their ids out. -/
theorem Overlays.ids_mem {news old after : List Entry} (h : Overlays news old after)
    {ids : List String} (hids : ids ∈ old.map (·.ids)) : ids ∈ after.map (·.ids) := by
  by_cases hnew : ids ∈ news.map (·.ids)
  · obtain ⟨e, he, rfl⟩ := List.mem_map.mp hnew
    exact List.mem_map_of_mem ((h e).mpr (Or.inl he))
  · obtain ⟨e, he, rfl⟩ := List.mem_map.mp hids
    exact List.mem_map_of_mem ((h e).mpr (Or.inr ⟨he, hnew⟩))

theorem FileOutline.skeleton_enterAll {f : FileOutline} (h : f.Distinct) (q : Path)
    {ds : List Declaration} (hds : ∀ d ∈ ds, d.place ∈ f.testEntries.map (·.ids)) :
    (f.enterAll q ds).skeleton = f.skeleton := by
  induction ds generalizing f with
  | nil => rfl
  | cons d rest ih =>
    obtain ⟨hd, hrest⟩ := List.forall_mem_cons.mp hds
    have hlaid := FileOutline.overlays_enter h q d
    exact (ih (h.enter q d) fun d' hd' => hlaid.ids_mem (hrest d' hd')).trans
      (skeleton_enter h q hd)

/-- **A file that shows its tests** is not changed by entering them. -/
theorem FileOutline.enterAll_eq_self {f : FileOutline} (h : f.Distinct) (q : Path)
    {ds : List Declaration} (hshown : ∀ e ∈ declaredIn q ds, e ∈ f.testEntries) :
    f.enterAll q ds = f := by
  have hplaces : ∀ d ∈ ds, d.place ∈ f.testEntries.map (·.ids) := by
    intro d hd
    have hplace := mem_places_latest.mpr (List.mem_map_of_mem (f := Declaration.place) hd)
    obtain ⟨e, he, heq⟩ := List.mem_map.mp ((map_ids_declaredIn q ds).symm ▸ hplace)
    exact heq ▸ List.mem_map_of_mem (hshown e he)
  refine eq_of_skeleton h (f.head_enterAll q ds) (skeleton_enterAll h q hplaces) fun e he => ?_
  rcases (overlays_enterAll h q ds e).mp he with he | ⟨he, -⟩
  · exact hshown e he
  · exact he

/-- **An outline that shows the tests of a file** is not changed by entering it. -/
theorem enterOutline_eq_self {ps : List PackageOutline} (h : DistinctIds ps) (label : String)
    (q : Path) (package : String) {ds : List Declaration} (hds : ds ≠ [])
    (hshown : ∀ e ∈ declaredEntries q (some (package, ds)), e ∈ testEntries ps) :
    enterOutline ps label q package ds = ps := by
  -- every declared test is in the file of the path, in the package of the clause
  have hplaced : ∀ e ∈ declaredIn q ds, ∃ p ∈ ps, p.head.id = Catalog.packageId q.parent package ∧
      ∃ f ∈ p.files, f.head.id = q.stem ∧ e ∈ f.testEntries := by
    intro e he
    obtain ⟨d, hd, rfl⟩ := List.mem_map.mp he
    obtain ⟨p, hp, f, hf, e', he', heq⟩ := mem_testEntries.mp (hshown _ (List.mem_map_of_mem hd))
    obtain ⟨hids, hnode⟩ := Entry.mk.inj heq
    obtain ⟨hpackage, hids⟩ := List.cons.inj hids
    obtain ⟨hfile, hids⟩ := List.cons.inj hids
    refine ⟨p, hp, hpackage, f, hf, hfile, ?_⟩
    obtain ⟨ids, node⟩ := e'
    exact hids ▸ hnode ▸ he'
  obtain ⟨d, hd⟩ := List.exists_mem_of_ne_nil ds hds
  have hplace := mem_places_latest.mpr (List.mem_map_of_mem (f := Declaration.place) hd)
  obtain ⟨e, he, -⟩ := List.mem_map.mp ((map_ids_declaredIn q ds).symm ▸ hplace)
  obtain ⟨p, hp, hpackage, f, hf, hfile, -⟩ := hplaced e he
  have hall : ∀ e ∈ declaredIn q ds, e ∈ f.testEntries := by
    intro e he
    obtain ⟨p', hp', hpackage', f', hf', hfile', he'⟩ := hplaced e he
    obtain rfl : p' = p := eq_of_key_eq h.1 hp' hp (hpackage'.trans hpackage.symm)
    rwa [eq_of_key_eq (h.2 p' hp').1 hf' hf (hfile'.trans hfile.symm)] at he'
  refine upsert_eq_self h.1 hp hpackage ?_
  have hfiles : (p.enter q ds).files = p.files := by
    rw [PackageOutline.files_enter]
    exact upsert_eq_self (h.2 p hp).1 hf hfile
      (FileOutline.enterAll_eq_self ((h.2 p hp).2 f hf) q hall)
  obtain ⟨head, files⟩ := p
  exact congrArg (PackageOutline.mk head) hfiles

/-! ## 3. Places -/

/-- Where the files of an outline are: the id of the package, and the node. -/
def places (ps : List PackageOutline) : List (String × NodeOutline) :=
  (filed ps).map fun x => (x.package.id, x.file.head)

section Places

variable {ps : List PackageOutline} {a : String × NodeOutline}

theorem mem_places : a ∈ places ps ↔ ∃ p ∈ ps, ∃ f ∈ p.files, a = (p.head.id, f.head) := by
  rw [places, List.mem_map]
  constructor
  · rintro ⟨x, hx, rfl⟩
    obtain ⟨p, hp, hhead, hf⟩ := mem_filed.mp hx
    exact ⟨p, hp, x.file, hf, by rw [hhead]⟩
  · rintro ⟨p, hp, f, hf, rfl⟩
    exact ⟨⟨p.head, f⟩, mem_filed.mpr ⟨p, hp, rfl, hf⟩, rfl⟩

theorem mem_places_of_filed {x : Filed} (hx : x ∈ filed ps) :
    (x.package.id, x.file.head) ∈ places ps :=
  List.mem_map_of_mem (f := fun x : Filed => (x.package.id, x.file.head)) hx

/-- Two files with the same ids are one file. -/
theorem place_eq_of_ids (h : DistinctIds ps) {b : String × NodeOutline} (ha : a ∈ places ps)
    (hb : b ∈ places ps) (hpackage : a.1 = b.1) (hfile : a.2.id = b.2.id) : a = b := by
  obtain ⟨x, hx, rfl⟩ := List.mem_map.mp ha
  obtain ⟨y, hy, rfl⟩ := List.mem_map.mp hb
  rw [filed_eq_of_ids h hx hy hpackage hfile]

/-- Changing packages one by one, without new files. -/
theorem places_map_subset {change : PackageOutline → PackageOutline}
    (hhead : ∀ p, (change p).head.id = p.head.id)
    (hfiles : ∀ p, ∀ f ∈ (change p).files, ∃ g ∈ p.files, f.head = g.head) :
    places (ps.map change) ⊆ places ps := by
  intro a ha
  obtain ⟨p', hp', f, hf, rfl⟩ := mem_places.mp ha
  obtain ⟨p, hp, rfl⟩ := List.mem_map.mp hp'
  obtain ⟨g, hg, hsame⟩ := hfiles p f hf
  exact mem_places.mpr ⟨p, hp, g, hg, by rw [hhead, hsame]⟩

theorem places_emptyPlace_subset (package file : String) :
    places (emptyPlace package file ps) ⊆ places ps := by
  refine places_map_subset (fun p => ?_) fun p f hf => ?_
  · split <;> rfl
  · split at hf
    · obtain ⟨g, hg, rfl⟩ := List.mem_map.mp hf
      refine ⟨g, hg, ?_⟩
      split <;> rfl
    · exact ⟨f, hf, rfl⟩

theorem places_dropPlace_subset (package file : String) :
    places (dropPlace package file ps) ⊆ places ps := by
  refine places_map_subset (fun p => ?_) fun p f hf => ?_
  · split <;> rfl
  · split at hf
    · exact ⟨f, List.mem_of_mem_filter hf, rfl⟩
    · exact ⟨f, hf, rfl⟩

theorem places_emptyFirst_subset (q : Path) : places (emptyFirst q ps) ⊆ places ps := by
  unfold emptyFirst
  split
  · exact List.Subset.refl _
  · exact places_emptyPlace_subset _ _

theorem places_pruneOutline_subset : places (pruneOutline ps) ⊆ places ps := by
  intro a ha
  obtain ⟨p', hp', f, hf, rfl⟩ := mem_places.mp ha
  obtain ⟨p, hp, rfl⟩ := List.mem_map.mp (List.mem_of_mem_filter hp')
  obtain ⟨g, hg, rfl⟩ := List.mem_map.mp (List.mem_of_mem_filter hf)
  exact mem_places.mpr ⟨p, hp, g, hg, rfl⟩

/-- Entering a file takes no place away. -/
theorem places_subset_enterOutline (h : DistinctIds ps) (label : String) (q : Path)
    (package : String) (ds : List Declaration) :
    places ps ⊆ places (enterOutline ps label q package ds) := by
  intro a ha
  obtain ⟨p, hp, f, hf, rfl⟩ := mem_places.mp ha
  by_cases hpackage : p.head.id = Catalog.packageId q.parent package
  · refine mem_places.mpr ⟨_, mem_upsert.mpr (Or.inl rfl), ?_⟩
    rw [find?_of_mem h.1 hp hpackage, Option.getD_some, PackageOutline.files_enter]
    by_cases hfile : f.head.id = q.stem
    · refine ⟨_, mem_upsert.mpr (Or.inl rfl), ?_⟩
      rw [find?_of_mem (h.2 p hp).1 hf hfile, Option.getD_some, FileOutline.head_enterAll]
      rfl
    · exact ⟨f, mem_upsert.mpr (Or.inr ⟨hf, hfile⟩), rfl⟩
  · exact mem_places.mpr ⟨p, mem_upsert.mpr (Or.inr ⟨hp, hpackage⟩), f, hf, rfl⟩

/-- It brings at most its own place in. -/
theorem mem_places_enterOutline {label : String} {q : Path} {package : String}
    {ds : List Declaration} (ha : a ∈ places (enterOutline ps label q package ds)) :
    a ∈ places ps ∨ a = (Catalog.packageId q.parent package, (FileOutline.empty q).head) := by
  have hfile : ∀ (p : PackageOutline), ∀ f ∈ (p.enter q ds).files,
      f.head = (FileOutline.empty q).head ∨ ∃ g ∈ p.files, f.head = g.head := by
    intro p f hf
    rw [PackageOutline.files_enter] at hf
    rcases mem_upsert.mp hf with rfl | ⟨hf, -⟩
    · rw [FileOutline.head_enterAll]
      cases hfind : p.files.find? (·.head.id = q.stem) with
      | none => exact Or.inl rfl
      | some g => exact Or.inr ⟨g, List.mem_of_find?_eq_some hfind, rfl⟩
    · exact Or.inr ⟨f, hf, rfl⟩
  obtain ⟨p', hp', f, hf, rfl⟩ := mem_places.mp ha
  rcases mem_upsert.mp hp' with rfl | ⟨hp', -⟩
  · cases hfind : ps.find? (·.head.id = Catalog.packageId q.parent package) with
    | none =>
      rw [hfind] at hf
      rcases hfile _ f hf with hhead | ⟨g, hg, -⟩
      · exact Or.inr (by rw [hhead]; rfl)
      · cases hg
    | some p =>
      rw [hfind] at hf
      have hp : p ∈ ps := List.mem_of_find?_eq_some hfind
      have hid : p.head.id = Catalog.packageId q.parent package := by
        simpa using List.find?_some hfind
      rcases hfile _ f hf with hhead | ⟨g, hg, hhead⟩
      · exact Or.inr (by rw [hhead]; exact congrArg (·, _) hid)
      · exact Or.inl (mem_places.mpr ⟨p, hp, g, hg, by rw [hhead]; rfl⟩)
  · exact Or.inl (mem_places.mpr ⟨p', hp', f, hf, rfl⟩)

/-- **An event brings at most the place in** where its file is found. -/
theorem mem_places_turn {label : Labels} {found : Plan} {e : Watch.FileEvent}
    (ha : a ∈ places (turn label found e ps)) :
    a ∈ places ps ∨ ∃ package ds, found e.path = some (package, ds) ∧
      a = (Catalog.packageId e.path.parent package, (FileOutline.empty e.path).head) := by
  have hentered : ∀ {ps : List PackageOutline},
      a ∈ places (enterFound label e.path (found e.path) ps) → a ∈ places ps ∨
        ∃ package ds, found e.path = some (package, ds) ∧
          a = (Catalog.packageId e.path.parent package, (FileOutline.empty e.path).head) := by
    intro ps ha
    cases hfound : found e.path with
    | none =>
      rw [hfound] at ha
      exact Or.inl ha
    | some entry =>
      rw [hfound] at ha
      exact (mem_places_enterOutline ha).imp_right fun heq => ⟨entry.1, entry.2, rfl, heq⟩
  obtain ⟨kind, q⟩ := e
  cases kind with
  | created => exact hentered ha
  | modified =>
    have hmem := hentered (places_pruneOutline_subset ha)
    exact hmem.imp_left fun hmem => places_emptyFirst_subset q hmem
  | deleted =>
    unfold turn at ha
    dsimp only at ha
    split at ha
    · exact Or.inl ha
    · exact Or.inl (places_dropPlace_subset _ _ (places_pruneOutline_subset ha))

end Places

/-! ## 4. Created and modified -/

/-- Each file of the path lies in the package in which reading the path finds it. -/
def InPlace (q : Path) (found : Option (String × List Declaration)) (ps : List PackageOutline) :
    Prop :=
  ∀ package ds, found = some (package, ds) → ∀ a ∈ places ps, a.2.path = q →
    a.1 = Catalog.packageId q.parent package

/-- **No event takes a file out of its place.** -/
theorem InPlace.turn {q : Path} (found : Plan) {ps : List PackageOutline}
    (h : InPlace q (found q) ps) (label : Labels) (e : Watch.FileEvent) :
    InPlace q (found q) (turn label found e ps) := by
  intro package ds hfound a ha hpath
  rcases mem_places_turn ha with ha | ⟨package', ds', hfound', rfl⟩
  · exact h package ds hfound a ha hpath
  · obtain rfl : e.path = q := hpath
    rw [hfound] at hfound'
    obtain ⟨rfl, -⟩ := Prod.mk.inj (Option.some.inj hfound')
    rfl

section Refresh

variable {ps : List PackageOutline} {label : String} {q : Path} {package : String}
  {ds : List Declaration}

/-- The first file of a path that is in its place has the ids of the place. -/
theorem ids_of_firstAt? (hfits : Fits ps) (h : InPlace q (some (package, ds)) ps) {x : Filed}
    (hx : firstAt? q ps = some x) :
    x.package.id = Catalog.packageId q.parent package ∧ x.file.head.id = q.stem := by
  have hmem : x ∈ filed ps := List.mem_of_find?_eq_some hx
  have hpath : x.file.head.path = q := by simpa using List.find?_some hx
  obtain ⟨p, hp, -, hf⟩ := mem_filed.mp hmem
  obtain ⟨path, hhead⟩ := ((hfits p hp).2 x.file hf).1
  refine ⟨h package ds rfl _ (mem_places_of_filed hmem) hpath, ?_⟩
  rw [hhead] at hpath ⊢
  exact congrArg Path.stem hpath

theorem firstAt?_eq_none_iff : firstAt? q ps = none ↔ ∀ a ∈ places ps, a.2.path ≠ q := by
  simp only [firstAt?, places, List.find?_eq_none, List.mem_map, decide_eq_true_eq,
    forall_exists_index, and_imp, forall_apply_eq_imp_iff₂]

theorem emptyPlace_eq_self {file : String}
    (h : ∀ a ∈ places ps, a.1 = package → a.2.id ≠ file) : emptyPlace package file ps = ps := by
  refine (List.map_congr_left fun p hp => ?_).trans (List.map_id ps)
  split
  · next hpackage =>
    have hfiles : ∀ f ∈ p.files, f.head.id ≠ file := fun f hf =>
      h _ (mem_places.mpr ⟨p, hp, f, hf, rfl⟩) hpackage
    exact congrArg (PackageOutline.mk p.head) (alter_of_ne hfiles)
  · rfl

/-- The package with the suites of one file taken out. -/
theorem PackageOutline.enter_empty_enter (p : PackageOutline) (q : Path) (ds : List Declaration) :
    PackageOutline.enter { p with
      files := alter (·.head.id) q.stem (fun f => { f with suites := [] }) (p.enter q ds).files } q
        ds =
      PackageOutline.enter { p with
        files := alter (·.head.id) q.stem (fun f => { f with suites := [] }) p.files } q ds := by
  refine congrArg (PackageOutline.mk p.head) ?_
  refine upsert_alter_upsert (fun _ hk => hk) ?_ (fun f hk => ?_) ?_ fun f => ?_
  · exact congrArg NodeOutline.id (FileOutline.head_enterAll ..)
  · exact (congrArg NodeOutline.id (FileOutline.head_enterAll ..)).trans hk
  · have hempty : ({ (FileOutline.empty q).enterAll q ds with suites := [] } : FileOutline) =
        FileOutline.empty q :=
      congrArg (FileOutline.mk · []) (FileOutline.head_enterAll ..)
    exact congrArg (·.enterAll q ds) hempty
  · have hempty : ({ f.enterAll q ds with suites := [] } : FileOutline) = { f with suites := [] } :=
      congrArg (FileOutline.mk · []) (FileOutline.head_enterAll ..)
    exact congrArg (·.enterAll q ds) hempty

/-- Entering a file, emptying its place and entering it again. -/
theorem enter_emptyPlace_enter (ps : List PackageOutline) (label : String) (q : Path)
    (package : String) (ds : List Declaration) :
    let place := emptyPlace (Catalog.packageId q.parent package) q.stem
    enterOutline (place (enterOutline ps label q package ds)) label q package ds =
      enterOutline (place ps) label q package ds := by
  refine upsert_alter_upsert (fun _ hk => hk) rfl (fun _ hk => hk) ?_ fun p => ?_
  · exact PackageOutline.enter_empty_enter (.empty label q.parent package) q ds
  · exact PackageOutline.enter_empty_enter p q ds

/-- **Entering a file that is in its place** leaves nothing to see once its first node is
    emptied and the file is entered again. -/
theorem enter_emptyFirst_enter (h : DistinctIds ps) (hfits : Fits ps) (hds : ds ≠ [])
    (hplace : InPlace q (some (package, ds)) ps) (label : Labels) :
    enterFound label q (some (package, ds))
        (emptyFirst q (enterFound label q (some (package, ds)) ps)) =
      enterFound label q (some (package, ds)) (emptyFirst q ps) := by
  have hsubset := places_subset_enterOutline h (label q.parent package) q package ds
  have hdistinct := h.enter (label q.parent package) q package ds
  have hafter : InPlace q (some (package, ds))
      (enterOutline ps (label q.parent package) q package ds) :=
    hplace.turn (fun _ => some (package, ds)) label ⟨.created, q⟩
  unfold enterFound emptyFirst
  dsimp only
  cases hentered : firstAt? q (enterOutline ps (label q.parent package) q package ds) with
  | none =>
    -- another file has the place, so nothing is emptied
    have hbefore : firstAt? q ps = none := firstAt?_eq_none_iff.mpr fun a ha =>
      firstAt?_eq_none_iff.mp hentered a (hsubset ha)
    rw [hbefore]
    refine enterOutline_eq_self hdistinct _ q package hds fun e he => ?_
    exact (overlays_enterOutline h _ q package ds e).mpr (Or.inl he)
  | some x =>
    obtain ⟨hpackage, hfile⟩ := ids_of_firstAt? (hfits.enter _ q package ds) hafter hentered
    have hx : x ∈ filed (enterOutline ps (label q.parent package) q package ds) :=
      List.mem_of_find?_eq_some hentered
    have hpath : x.file.head.path = q := by simpa using List.find?_some hentered
    have hsame : emptyFirst q ps = emptyPlace x.package.id x.file.head.id ps := by
      unfold emptyFirst
      cases hbefore : firstAt? q ps with
      | none =>
        refine (emptyPlace_eq_self fun a ha hap haf => ?_).symm
        have heq := place_eq_of_ids hdistinct (hsubset ha) (mem_places_of_filed hx) hap haf
        exact firstAt?_eq_none_iff.mp hbefore a ha (by rw [heq]; exact hpath)
      | some y =>
        obtain ⟨hpackage', hfile'⟩ := ids_of_firstAt? hfits hplace hbefore
        dsimp only
        rw [hpackage', hfile', hpackage, hfile]
    unfold emptyFirst at hsame
    rw [hsame]
    dsimp only
    rw [hpackage, hfile]
    exact enter_emptyPlace_enter ps _ q package ds

end Refresh

/-- **A created and modified file.**  If it is in its place, both orders of the two
    events lead to the same outline. -/
theorem Catalog.turn_comm {c : Catalog} (h : c.Sound) (files : FileTree) {q : Path}
    (hplace : InPlace q (c.findings? files q) c.outline) :
    let after := fun kind => turn c.packageLabel (c.findings? files) ⟨kind, q⟩
    after .modified (after .created c.outline) = after .created (after .modified c.outline) := by
  intro after
  have hmodified : after .modified c.outline = (c.onModified files q).1.outline :=
    (c.outline_onModified h files q).symm
  unfold after turn at hmodified ⊢
  dsimp only at hmodified ⊢
  cases hfound : c.findings? files q with
  | none => rfl
  | some entry =>
    obtain ⟨package, ds⟩ := entry
    have hds : ds ≠ [] := (findings?_some hfound).2.2
    rw [hfound] at hplace hmodified
    rw [enter_emptyFirst_enter h.distinct h.fits hds hplace c.packageLabel, hmodified]
    -- the tests are there already when the file is entered once more
    have hs := (c.keeps_onModified files q).sound h
    refine (enterOutline_eq_self hs.distinct _ q package hds fun e he => ?_).symm
    obtain ⟨old, -, hlaid⟩ := overlays_onModified h files q
    rw [hfound] at hlaid
    exact (hlaid e).mpr (Or.inl he)

end SuiteExplorer
