/-
  SuiteExplorer/Proofs/Catalog/Currency.lean
  ==========================================
  **When the tests of a file are current.**

  Entering a file lays its tests over those that are there (`Overlays`): what has the
  ids of a declared test gives way to it, all else stays.  This holds on every level
  of the tree for one reason (`overlays_upsert`), and so for a whole file
  (`overlays_enterFindings`).  A created file is only entered; a modified one is taken
  out of its first node before.  Hence, whatever has been done to the catalog before,
  the tests of a path are the declared ones exactly if every earlier test that the
  event has not taken out is declared anew (`current_iff`).
-/
import SuiteExplorer.Proofs.Catalog.Following

namespace SuiteExplorer

open Keyed
open scoped List

/-! ## 1. Entries of tests, level by level -/

/-- An entry as it is seen from one level further up. -/
def Entry.under (id : String) (e : Entry) : Entry := ⟨id :: e.ids, e.node⟩

section Below

variable {α : Type}

/-- What is below the nodes of one level, each with the id of its node in front. -/
def entriesBelow (key : α → String) (view : α → List Entry) (l : List α) : List Entry :=
  l.flatMap fun x => (view x).map (Entry.under (key x))

end Below

def SuiteOutline.testEntries (s : SuiteOutline) : List Entry :=
  entriesBelow (·.id) (fun t => [⟨[], t⟩]) s.tests

def FileOutline.testEntries (f : FileOutline) : List Entry :=
  entriesBelow (·.head.id) (·.testEntries) f.suites

def PackageOutline.testEntries (p : PackageOutline) : List Entry :=
  entriesBelow (·.head.id) (·.testEntries) p.files

def testEntries (ps : List PackageOutline) : List Entry :=
  entriesBelow (·.head.id) (·.testEntries) ps

section Below

variable {α : Type} {key : α → String} {view : α → List Entry} {l : List α} {e : Entry}

theorem mem_entriesBelow :
    e ∈ entriesBelow key view l ↔ ∃ x ∈ l, ∃ e' ∈ view x, e'.under (key x) = e := by
  simp only [entriesBelow, List.mem_flatMap, List.mem_map]

/-- With distinct keys, ids that are distinct below each node are distinct below all. -/
theorem nodup_entriesBelow (hnd : (l.map key).Nodup)
    (hview : ∀ x ∈ l, ((view x).map (·.ids)).Nodup) :
    ((entriesBelow key view l).map (·.ids)).Nodup := by
  rw [entriesBelow, List.map_flatMap, List.nodup_flatMap]
  constructor
  · intro x hx
    have hids : ((view x).map (Entry.under (key x))).map (·.ids) =
        ((view x).map (·.ids)).map (key x :: ·) := by
      rw [List.map_map, List.map_map]
      rfl
    rw [hids]
    exact (hview x hx).map fun a b h => (List.cons.inj h).2
  · refine (List.pairwise_map.mp hnd).imp ?_
    intro x y hne ids hx hy
    obtain ⟨e, he, rfl⟩ := List.mem_map.mp hx
    obtain ⟨e', he', hids⟩ := List.mem_map.mp hy
    obtain ⟨a, -, rfl⟩ := List.mem_map.mp he
    obtain ⟨b, -, rfl⟩ := List.mem_map.mp he'
    exact hne (List.cons.inj hids).1.symm

end Below

theorem mem_testEntries {ps : List PackageOutline} {e : Entry} :
    e ∈ testEntries ps ↔ ∃ p ∈ ps, ∃ f ∈ p.files, ∃ e' ∈ f.testEntries,
      (e'.under f.head.id).under p.head.id = e := by
  simp only [testEntries, PackageOutline.testEntries, mem_entriesBelow]
  constructor
  · rintro ⟨p, hp, _, ⟨f, hf, e', he', rfl⟩, rfl⟩
    exact ⟨p, hp, f, hf, e', he', rfl⟩
  · rintro ⟨p, hp, f, hf, e', he', rfl⟩
    exact ⟨p, hp, _, ⟨f, hf, e', he', rfl⟩, rfl⟩

theorem nodup_testEntries {ps : List PackageOutline} (h : DistinctIds ps) :
    ((testEntries ps).map (·.ids)).Nodup := by
  apply nodup_entriesBelow h.1
  intro p hp
  apply nodup_entriesBelow (h.2 p hp).1
  intro f hf
  apply nodup_entriesBelow ((h.2 p hp).2 f hf).1
  intro s hs
  apply nodup_entriesBelow (((h.2 p hp).2 f hf).2 s hs)
  intro t _
  exact List.nodup_singleton []

/-! ## 2. Laying entries over entries -/

/-- Afterwards there are the new entries, and those old ones whose ids no new one has. -/
def Overlays (news old after : List Entry) : Prop :=
  ∀ e, e ∈ after ↔ e ∈ news ∨ (e ∈ old ∧ e.ids ∉ news.map (·.ids))

theorem Overlays.refl (old : List Entry) : Overlays [] old old := by
  intro e
  simp

/-- What is laid over the outcome lies over what was new in it, and over the rest. -/
theorem Overlays.trans {news newer old mid after total : List Entry} (h : Overlays news old mid)
    (h' : Overlays newer mid after) (htotal : Overlays newer news total) :
    Overlays total old after := by
  have hids : ∀ ids,
      ids ∈ total.map (·.ids) ↔ ids ∈ newer.map (·.ids) ∨ ids ∈ news.map (·.ids) := by
    intro ids
    constructor
    · intro hmem
      obtain ⟨e, he, rfl⟩ := List.mem_map.mp hmem
      rcases (htotal e).mp he with he | ⟨he, -⟩
      · exact Or.inl (List.mem_map_of_mem he)
      · exact Or.inr (List.mem_map_of_mem he)
    · intro hmem
      by_cases hnewer : ids ∈ newer.map (·.ids)
      · obtain ⟨e, he, rfl⟩ := List.mem_map.mp hnewer
        exact List.mem_map_of_mem ((htotal e).mpr (Or.inl he))
      · obtain ⟨e, he, rfl⟩ := List.mem_map.mp (hmem.resolve_left hnewer)
        exact List.mem_map_of_mem ((htotal e).mpr (Or.inr ⟨he, hnewer⟩))
  intro e
  rw [h' e, h e, htotal e, hids]
  tauto

/-- **Entering one node of a level** lays over the level what it lays over the node. -/
theorem overlays_upsert {α : Type} (key : α → String) (view : α → List Entry)
    (news : List Entry) {l : List α} {k : String} {make : Option α → α} (hnd : (l.map key).Nodup)
    (hmake : ∀ old, l.find? (key · = k) = old →
      key (make old) = k ∧ Overlays news ((old.map view).getD []) (view (make old))) :
    Overlays (news.map (Entry.under k)) (entriesBelow key view l)
      (entriesBelow key view (upsert key k make l)) := by
  obtain ⟨hkey, hview⟩ := hmake _ rfl
  -- what the node held is what has its id in front
  have hold : ∀ e', e' ∈ ((l.find? (key · = k)).map view).getD [] →
      e'.under k ∈ entriesBelow key view l := by
    intro e' he'
    cases hfind : l.find? (key · = k) with
    | none => rw [hfind] at he'; cases he'
    | some x =>
      rw [hfind] at he'
      exact mem_entriesBelow.mpr
        ⟨x, List.mem_of_find?_eq_some hfind, e', he', by rw [key_of_find? hfind]⟩
  have hnews : ∀ e : Entry, e.ids ∈ (news.map (Entry.under k)).map (·.ids) ↔
      ∃ ids ∈ news.map (·.ids), k :: ids = e.ids := by
    intro e
    simp only [List.map_map, List.mem_map, exists_exists_and_eq_and]
    rfl
  intro e
  rw [mem_entriesBelow, hnews]
  constructor
  · rintro ⟨x, hx, e', he', rfl⟩
    rcases mem_upsert.mp hx with rfl | ⟨hx, hne⟩
    · rw [hkey]
      rcases (hview e').mp he' with he' | ⟨he', hfresh⟩
      · exact Or.inl (List.mem_map_of_mem he')
      · refine Or.inr ⟨hold e' he', ?_⟩
        rintro ⟨ids, hids, heq⟩
        exact hfresh ((List.cons.inj heq).2 ▸ hids)
    · refine Or.inr ⟨mem_entriesBelow.mpr ⟨x, hx, e', he', rfl⟩, ?_⟩
      rintro ⟨ids, -, heq⟩
      exact hne (List.cons.inj heq).1.symm
  · rintro (he | ⟨he, hfresh⟩)
    · obtain ⟨e', he', rfl⟩ := List.mem_map.mp he
      exact ⟨_, mem_upsert.mpr (Or.inl rfl), e', (hview e').mpr (Or.inl he'), by rw [hkey]⟩
    · obtain ⟨x, hx, e', he', rfl⟩ := mem_entriesBelow.mp he
      by_cases hk : key x = k
      · have hfind : l.find? (key · = k) = some x := find?_of_mem hnd hx hk
        refine ⟨_, mem_upsert.mpr (Or.inl rfl), e', (hview e').mpr (Or.inr ⟨?_, ?_⟩), ?_⟩
        · rw [hfind]
          exact he'
        · intro hids
          exact hfresh ⟨e'.ids, hids, by rw [← hk]; rfl⟩
        · rw [hkey, hk]
      · exact ⟨x, mem_upsert.mpr (Or.inr ⟨hx, hk⟩), e', he', rfl⟩

/-! ## 3. What a file declares -/

/-- The ids of a test within its file. -/
def Declaration.place (d : Declaration) : List String := [d.receiver.getD "", d.qualifiedName]

/-- Of several declarations of one test the last one counts. -/
def latest : List Declaration → List Declaration
  | [] => []
  | d :: rest => if rest.any (·.place = d.place) then latest rest else d :: latest rest

/-- The tests that declarations amount to, within their file. -/
def declaredIn (q : Path) (ds : List Declaration) : List Entry :=
  (latest ds).map fun d => ⟨d.place, .test q d⟩

/-- The tests that reading a file finds, as entries of the catalog. -/
def declaredEntries (q : Path) : Option (String × List Declaration) → List Entry
  | none => []
  | some (package, ds) => (latest ds).map fun d =>
      ⟨Catalog.packageId q.parent package :: q.stem :: d.place, .test q d⟩

theorem mem_places_latest {ds : List Declaration} {ids : List String} :
    ids ∈ (latest ds).map (·.place) ↔ ids ∈ ds.map (·.place) := by
  induction ds with
  | nil => rfl
  | cons d rest ih =>
    rw [latest, List.map_cons, List.mem_cons]
    split
    case isTrue h =>
      rw [ih]
      constructor
      · exact Or.inr
      · rintro (rfl | h')
        · obtain ⟨d', hd', hplace⟩ := List.any_eq_true.mp h
          rw [← of_decide_eq_true hplace]
          exact List.mem_map_of_mem hd'
        · exact h'
    case isFalse h => rw [List.map_cons, List.mem_cons, ih]

theorem nodup_places_latest (ds : List Declaration) : ((latest ds).map (·.place)).Nodup := by
  induction ds with
  | nil => exact List.nodup_nil
  | cons d rest ih =>
    rw [latest]
    split
    case isTrue => exact ih
    case isFalse h =>
      rw [List.map_cons, List.nodup_cons, mem_places_latest]
      refine ⟨fun hmem => h ?_, ih⟩
      obtain ⟨d', hd', hplace⟩ := List.mem_map.mp hmem
      exact List.any_eq_true.mpr ⟨d', hd', decide_eq_true hplace⟩

theorem map_ids_declaredIn (q : Path) (ds : List Declaration) :
    (declaredIn q ds).map (·.ids) = (latest ds).map (·.place) := by
  rw [declaredIn, List.map_map]
  rfl

/-- One more declaration in front counts unless a later one takes its place. -/
theorem overlays_declaredIn (q : Path) (d : Declaration) (rest : List Declaration) :
    Overlays (declaredIn q rest) [⟨d.place, .test q d⟩] (declaredIn q (d :: rest)) := by
  intro e
  rw [map_ids_declaredIn, mem_places_latest, List.mem_singleton]
  by_cases h : rest.any (·.place = d.place) = true
  · obtain ⟨d', hd', hplace⟩ := List.any_eq_true.mp h
    rw [declaredIn, latest, if_pos h, ← declaredIn]
    constructor
    · exact Or.inl
    · rintro (he | ⟨rfl, hfresh⟩)
      · exact he
      · exact absurd (List.mem_map.mpr ⟨d', hd', of_decide_eq_true hplace⟩) hfresh
  · rw [declaredIn, latest, if_neg h, List.map_cons, ← declaredIn, List.mem_cons, or_comm]
    refine or_congr_right ⟨fun he => ⟨he, ?_⟩, And.left⟩
    rintro hmem
    obtain ⟨d', hd', hplace⟩ := List.mem_map.mp hmem
    rw [he] at hplace
    exact h (List.any_eq_true.mpr ⟨d', hd', decide_eq_true hplace⟩)

/-! ## 4. Entering a file -/

theorem SuiteOutline.overlays_enter {s : SuiteOutline} (h : s.Distinct) (q : Path)
    (d : Declaration) :
    Overlays [⟨[d.qualifiedName], .test q d⟩] s.testEntries (s.enter q d).testEntries := by
  rw [testEntries, testEntries, tests_enter]
  apply overlays_upsert NodeOutline.id (fun t => [⟨[], t⟩]) [⟨[], .test q d⟩] h
  intro old _
  refine ⟨rfl, fun e => ?_⟩
  cases old with
  | none => simp
  | some t =>
    simp only [Option.map_some, Option.getD_some, List.mem_singleton, List.map_cons, List.map_nil]
    constructor
    · exact Or.inl
    · rintro (he | ⟨rfl, hfresh⟩)
      · exact he
      · exact absurd rfl hfresh

theorem FileOutline.overlays_enter {f : FileOutline} (h : f.Distinct) (q : Path)
    (d : Declaration) :
    Overlays [⟨d.place, .test q d⟩] f.testEntries (f.enter q d).testEntries := by
  rw [testEntries, testEntries, suites_enter]
  apply overlays_upsert (fun s : SuiteOutline => s.head.id) (·.testEntries)
    [⟨[d.qualifiedName], .test q d⟩] h.1
  intro old hold
  cases old with
  | none => exact ⟨rfl, SuiteOutline.overlays_enter (SuiteOutline.distinct_empty q d) q d⟩
  | some s =>
    have hid : s.head.id = d.receiver.getD "" := by simpa using List.find?_some hold
    refine ⟨hid, ?_⟩
    exact SuiteOutline.overlays_enter (h.2 s (List.mem_of_find?_eq_some hold)) q d

theorem FileOutline.overlays_enterAll {f : FileOutline} (h : f.Distinct) (q : Path)
    (ds : List Declaration) :
    Overlays (declaredIn q ds) f.testEntries (f.enterAll q ds).testEntries := by
  induction ds generalizing f with
  | nil => exact .refl _
  | cons d rest ih =>
    exact (FileOutline.overlays_enter h q d).trans (ih (h.enter q d)) (overlays_declaredIn q d rest)

theorem PackageOutline.overlays_enter {p : PackageOutline} (h : p.Distinct) (q : Path)
    (ds : List Declaration) :
    Overlays ((declaredIn q ds).map (.under q.stem)) p.testEntries (p.enter q ds).testEntries := by
  rw [testEntries, testEntries, files_enter]
  apply overlays_upsert (fun f : FileOutline => f.head.id) (·.testEntries) (declaredIn q ds) h.1
  intro old hold
  cases old with
  | none =>
    refine ⟨congrArg NodeOutline.id (FileOutline.head_enterAll ..), ?_⟩
    exact FileOutline.overlays_enterAll (FileOutline.distinct_empty q) q ds
  | some f =>
    have hid : f.head.id = q.stem := by simpa using List.find?_some hold
    refine ⟨?_, FileOutline.overlays_enterAll (h.2 f (List.mem_of_find?_eq_some hold)) q ds⟩
    rw [Option.getD_some, FileOutline.head_enterAll]
    exact hid

/-- **Entering a file** lays its tests over those of the outline. -/
theorem overlays_enterOutline {ps : List PackageOutline} (h : DistinctIds ps) (label : String)
    (q : Path) (package : String) (ds : List Declaration) :
    Overlays (declaredEntries q (some (package, ds))) (testEntries ps)
      (testEntries (enterOutline ps label q package ds)) := by
  have hnews : declaredEntries q (some (package, ds)) =
      ((declaredIn q ds).map (.under q.stem)).map
        (.under (Catalog.packageId q.parent package)) := by
    rw [declaredIn, List.map_map, List.map_map]
    rfl
  rw [hnews, testEntries, testEntries, enterOutline]
  apply overlays_upsert (fun p : PackageOutline => p.head.id) (·.testEntries) _ h.1
  intro old hold
  cases old with
  | none =>
    exact ⟨rfl, PackageOutline.overlays_enter (PackageOutline.distinct_empty _ _ _) q ds⟩
  | some p =>
    have hid : p.head.id = Catalog.packageId q.parent package := by
      simpa using List.find?_some hold
    refine ⟨hid, ?_⟩
    exact PackageOutline.overlays_enter (h.2 p (List.mem_of_find?_eq_some hold)) q ds

/-! ## 5. The tests of a path -/

def NodeOutline.isTest (o : NodeOutline) : Bool :=
  match o.meaning with
  | some (.runnable (.test _)) => true
  | _ => false

/-- The tests of a file come out of its entries. -/
theorem Filed.filter_entries {x : Filed} (h : x.file.Fits) :
    x.entries.filter (·.node.isTest) =
      (x.file.testEntries.map (.under x.file.head.id)).map (.under x.package.id) := by
  obtain ⟨⟨path, hhead⟩, hsuites⟩ := h
  have hfile : x.file.head.isTest = false := by rw [hhead]; rfl
  rw [Filed.entries, List.filter_cons_of_neg (by rw [hfile]; exact Bool.false_ne_true),
    List.filter_flatMap, FileOutline.testEntries, entriesBelow, List.map_flatMap, List.map_flatMap]
  refine List.flatMap_congr fun s hs => ?_
  obtain ⟨⟨path', d, hshead⟩, htests⟩ := hsuites s hs
  have hsuite : s.head.isTest = false := by rw [hshead]; rfl
  rw [List.filter_cons_of_neg (by rw [hsuite]; exact Bool.false_ne_true), SuiteOutline.testEntries,
    entriesBelow, List.map_flatMap, List.map_flatMap, List.map_flatMap, List.filter_map,
    List.map_eq_flatMap]
  have hall : s.tests.filter ((fun e : Entry => e.node.isTest) ∘ fun t =>
      ⟨[x.package.id, x.file.head.id, s.head.id, t.id], t⟩) = s.tests := by
    refine List.filter_eq_self.mpr fun t ht => ?_
    obtain ⟨path'', d', rfl⟩ := htests t ht
    rfl
  rw [hall]
  rfl

theorem filter_entriesOf {ps : List PackageOutline} (h : Fits ps) :
    (entriesOf ps).filter (·.node.isTest) = testEntries ps := by
  rw [entriesOf, List.filter_flatMap, testEntries, entriesBelow]
  refine List.flatMap_congr fun p hp => ?_
  obtain ⟨⟨label, directory, name, hhead⟩, hfiles⟩ := h p hp
  have hpackage : p.head.isTest = false := by rw [hhead]; rfl
  rw [List.filter_cons_of_neg (by rw [hpackage]; exact Bool.false_ne_true), List.filter_flatMap,
    PackageOutline.testEntries, entriesBelow, List.map_flatMap]
  refine List.flatMap_congr fun f hf => ?_
  exact Filed.filter_entries (x := ⟨p.head, f⟩) (hfiles f hf)

/-- What has the ids of a file is in it. -/
theorem Filed.ids_of_mem_entries {x : Filed} {e : Entry} (he : e ∈ x.entries) :
    ∃ rest, e.ids = x.package.id :: x.file.head.id :: rest := by
  rcases List.mem_cons.mp he with rfl | he
  · exact ⟨[], rfl⟩
  · obtain ⟨s, -, he⟩ := List.mem_flatMap.mp he
    rcases List.mem_cons.mp he with rfl | he
    · exact ⟨_, rfl⟩
    · obtain ⟨t, -, rfl⟩ := List.mem_map.mp he
      exact ⟨_, rfl⟩

namespace Catalog

/-- The tests in the tree whose path is this one. -/
def testsAt (c : Catalog) (q : Path) : List Entry :=
  c.entries.filter fun e => e.node.isTest && e.node.path = q

theorem testsAt_eq {c : Catalog} (h : c.Sound) (q : Path) :
    c.testsAt q = (testEntries c.outline).filter (·.node.path = q) := by
  rw [← filter_entriesOf h.fits, List.filter_filter, testsAt, entries]
  exact List.filter_congr fun e _ => Bool.and_comm _ _

theorem mem_testsAt {c : Catalog} (h : c.Sound) {q : Path} {e : Entry} :
    e ∈ c.testsAt q ↔ e ∈ testEntries c.outline ∧ e.node.path = q := by
  rw [testsAt_eq h, List.mem_filter, decide_eq_true_eq]

/-- The files, each with the package it is in. -/
def placedFiles (c : Catalog) : List (PackageNode × FileNode) :=
  c.packages.flatMap fun p => p.files.map (Prod.mk p)

theorem mem_placedFiles {c : Catalog} {p : PackageNode} {f : FileNode} :
    (p, f) ∈ c.placedFiles ↔ p ∈ c.packages ∧ f ∈ p.files := by
  rw [placedFiles, List.mem_flatMap]
  constructor
  · rintro ⟨p', hp', hmem⟩
    obtain ⟨f', hf', heq⟩ := List.mem_map.mp hmem
    obtain ⟨rfl, rfl⟩ := Prod.mk.inj heq
    exact ⟨hp', hf'⟩
  · rintro ⟨hp, hf⟩
    exact ⟨p, hp, List.mem_map_of_mem hf⟩

theorem map_placedFiles (c : Catalog) : c.placedFiles.map (·.2) = c.files := by
  rw [placedFiles, List.map_flatMap]
  refine List.flatMap_congr fun p _ => ?_
  rw [List.map_map]
  exact List.map_id p.files

/-- The first file of a path, with its package. -/
def filedAt? (c : Catalog) (q : Path) : Option Filed :=
  (filed c.outline).find? (·.file.head.path = q)

theorem filedAt?_eq (c : Catalog) (q : Path) :
    (c.fileAt? q = none ∧ c.filedAt? q = none) ∨
      ∃ p f, (p, f) ∈ c.placedFiles ∧ c.fileAt? q = some f ∧
        c.filedAt? q = some ⟨p.info.outline c.meaning?, f.outline c.meaning?⟩ := by
  have hfiled : filed c.outline = c.placedFiles.map fun x =>
      ⟨x.1.info.outline c.meaning?, x.2.outline c.meaning?⟩ := by
    rw [filed, outline, List.flatMap_map, placedFiles, List.map_flatMap]
    refine List.flatMap_congr fun p _ => ?_
    rw [List.map_map]
    exact List.map_map
  rw [fileAt?, filedAt?, ← map_placedFiles, hfiled, List.find?_map, List.find?_map]
  cases hfind : c.placedFiles.find? ((fun f : FileNode => decide (f.info.path = q)) ∘ (·.2)) with
  | none =>
    left
    refine ⟨rfl, ?_⟩
    rw [Option.map_eq_none_iff]
    exact hfind
  | some x =>
    right
    refine ⟨x.1, x.2, List.mem_of_find?_eq_some hfind, rfl, ?_⟩
    rw [Option.map_eq_some_iff]
    exact ⟨x, hfind, rfl⟩

/-! ## 6. What an event takes out and what it leaves -/

theorem mem_testEntries_outline {c : Catalog} {e : Entry} :
    e ∈ testEntries c.outline ↔ ∃ p ∈ c.packages, ∃ g ∈ p.files,
      ∃ e' ∈ (g.outline c.meaning?).testEntries, (e'.under g.info.id).under p.info.id = e := by
  rw [mem_testEntries]
  simp only [outline, PackageNode.outline, List.mem_map, exists_exists_and_eq_and]
  rfl

/-- With the node of a file emptied, the tests are those of the other files. -/
theorem mem_testEntries_emptied {c : Catalog} (h : c.Sound) {f : FileNode} (hf : f ∈ c.files)
    {e : Entry} :
    e ∈ testEntries (c.clearChildren f.info.ref).outline ↔ ∃ p ∈ c.packages, ∃ g ∈ p.files,
      g.info.ref ≠ f.info.ref ∧ ∃ e' ∈ (g.outline c.meaning?).testEntries,
        (e'.under g.info.id).under p.info.id = e := by
  rw [outline_clearChildren_file h hf, mem_testEntries]
  simp only [List.mem_map, exists_exists_and_eq_and]
  refine exists_congr fun p => and_congr_right fun _ => exists_congr fun g =>
    and_congr_right fun _ => ?_
  by_cases href : g.info.ref = f.info.ref
  · rw [if_pos href]
    simp [FileOutline.testEntries, entriesBelow, href]
  · rw [if_neg href]
    exact ⟨fun he => ⟨href, he⟩, fun he => he.2⟩

/-- **Emptying the node of a file** takes its tests out, and no others. -/
theorem mem_testEntries_clearChildren {c : Catalog} (h : c.Sound) {p : PackageNode}
    {f : FileNode} (hplaced : (p, f) ∈ c.placedFiles) {e : Entry} :
    e ∈ testEntries (c.clearChildren f.info.ref).outline ↔
      e ∈ testEntries c.outline ∧
        e ∉ Filed.entries ⟨p.info.outline c.meaning?, f.outline c.meaning?⟩ := by
  obtain ⟨hp, hf⟩ := mem_placedFiles.mp hplaced
  rw [mem_testEntries_emptied h (mem_files.mpr ⟨p, hp, hf⟩), mem_testEntries_outline]
  constructor
  · rintro ⟨p', hp', g, hg, href, e', he', rfl⟩
    refine ⟨⟨p', hp', g, hg, e', he', rfl⟩, fun hentries => href ?_⟩
    obtain ⟨rest, hids⟩ := Filed.ids_of_mem_entries hentries
    obtain ⟨hpid, hids⟩ := List.cons.inj hids
    -- the ids of siblings are distinct, so the file is the same one
    obtain rfl : p' = p := List.inj_on_of_nodup_map (nodup_ids h.distinct) hp' hp hpid
    have hfiles := PackageNode.nodup_ids (distinct_package h.distinct hp)
    rw [List.inj_on_of_nodup_map hfiles hg hf (List.cons.inj hids).1]
  · rintro ⟨⟨p', hp', g, hg, e', he', rfl⟩, hentries⟩
    refine ⟨p', hp', g, hg, fun href => hentries ?_, e', he', rfl⟩
    have hrefs : (c.placedFiles.map (·.2.info.ref)).Nodup := by
      have hnd := c.files_sublist_refs.nodup h.booked.tracks.distinct
      rwa [← map_placedFiles, List.map_map] at hnd
    have hsame := List.inj_on_of_nodup_map hrefs (mem_placedFiles.mpr ⟨hp', hg⟩) hplaced href
    obtain ⟨rfl, rfl⟩ := Prod.mk.inj hsame
    have hfits := (h.fits _ (List.mem_map_of_mem hp)).2 _ (List.mem_map_of_mem hf)
    have htests := Filed.filter_entries (x := ⟨p'.info.outline c.meaning?, g.outline c.meaning?⟩)
      hfits
    refine List.mem_of_mem_filter (p := fun e : Entry => e.node.isTest) ?_
    rw [htests]
    exact List.mem_map_of_mem (List.mem_map_of_mem he')

end Catalog

section Below

variable {α : Type} {key : α → String} {view : α → List Entry}

/-- Leaving out nodes without entries leaves out no entries. -/
theorem entriesBelow_filter {keep : α → Bool} {l : List α}
    (h : ∀ x ∈ l, keep x = false → view x = []) :
    entriesBelow key view (l.filter keep) = entriesBelow key view l := by
  induction l with
  | nil => rfl
  | cons x l ih =>
    have ih' := ih fun y hy => h y (List.mem_cons_of_mem _ hy)
    cases hx : keep x with
    | true =>
      rw [List.filter_cons_of_pos hx, entriesBelow, List.flatMap_cons, ← entriesBelow, ih']
      rfl
    | false =>
      rw [List.filter_cons_of_neg (by rw [hx]; exact Bool.false_ne_true), ih', entriesBelow,
        entriesBelow, List.flatMap_cons, h x List.mem_cons_self hx]
      rfl

theorem entriesBelow_map (change : α → α) (hkey : ∀ x, key (change x) = key x)
    (hview : ∀ x, view (change x) = view x) (l : List α) :
    entriesBelow key view (l.map change) = entriesBelow key view l := by
  rw [entriesBelow, List.flatMap_map, entriesBelow]
  exact List.flatMap_congr fun x _ => by rw [hkey, hview]

end Below

/-- **Pruning** takes no test out. -/
theorem testEntries_prune (ps : List PackageOutline) :
    testEntries (pruneOutline ps) = testEntries ps := by
  have hfile : ∀ f : FileOutline, f.prune.testEntries = f.testEntries := by
    intro f
    apply entriesBelow_filter
    intro s _ hs
    have hnil : s.tests = [] := by simpa using hs
    rw [SuiteOutline.testEntries, hnil]
    rfl
  have hpackage : ∀ p : PackageOutline, p.prune.testEntries = p.testEntries := by
    intro p
    rw [PackageOutline.testEntries, PackageOutline.prune, entriesBelow_filter,
      entriesBelow_map FileOutline.prune (fun _ => rfl) hfile]
    · rfl
    · intro f _ hf
      have hnil : f.suites = [] := by simpa using hf
      rw [FileOutline.testEntries, hnil]
      rfl
  rw [testEntries, pruneOutline, entriesBelow_filter,
    entriesBelow_map PackageOutline.prune (fun _ => rfl) hpackage]
  · rfl
  · intro p _ hp
    have hnil : p.files = [] := by simpa using hp
    rw [PackageOutline.testEntries, hnil]
    rfl

/-! ## 7. Currency -/

theorem path_of_mem_declaredEntries {q : Path} {found : Option (String × List Declaration)}
    {e : Entry} (he : e ∈ declaredEntries q found) : e.node.path = q := by
  cases found with
  | none => cases he
  | some found =>
    obtain ⟨d, -, rfl⟩ := List.mem_map.mp he
    rfl

theorem nodup_declaredEntries (q : Path) (found : Option (String × List Declaration)) :
    (declaredEntries q found).Nodup := by
  cases found with
  | none => exact List.nodup_nil
  | some found =>
    have hplaces := nodup_places_latest found.2
    refine List.Nodup.of_map (fun e : Entry => e.ids.drop 2) ?_
    rw [declaredEntries, List.map_map]
    exact hplaces

/-- What is laid over a list is all that is left of its kind, exactly if it covers all
    that was there of this kind. -/
theorem Overlays.perm_iff_covered {news old after : List Entry} (h : Overlays news old after)
    {kind : Entry → Bool} (hkind : ∀ e ∈ news, kind e = true) (hnews : news.Nodup)
    (hafter : after.Nodup) :
    after.filter kind ~ news ↔ ∀ e ∈ old, kind e = true → e.ids ∈ news.map (·.ids) := by
  rw [List.perm_ext_iff_of_nodup (hafter.filter _) hnews]
  constructor
  · intro hsame e he hk
    by_contra hfresh
    have hmem : e ∈ after.filter kind := List.mem_filter.mpr ⟨(h e).mpr (Or.inr ⟨he, hfresh⟩), hk⟩
    exact hfresh (List.mem_map_of_mem ((hsame e).mp hmem))
  · intro hcovered e
    rw [List.mem_filter, h e]
    constructor
    · rintro ⟨he | ⟨he, hfresh⟩, hk⟩
      · exact he
      · exact absurd (hcovered e he hk) hfresh
    · intro he
      exact ⟨Or.inl he, hkind e he⟩

namespace Catalog

theorem outline_notifyIf (c : Catalog) (changed : Bool) (journal : Journal) :
    (c.notifyIf changed journal).1.outline = c.outline := by
  unfold notifyIf
  split <;> rfl

/-- **Discovering a file** lays its tests over those of the catalog. -/
theorem overlays_discoverQuietly {c : Catalog} (h : c.Sound) (files : FileTree) (q : Path) :
    Overlays (declaredEntries q (c.findings? files q)) (testEntries c.outline)
      (testEntries (c.discoverQuietly files q none).1.outline) := by
  rw [discoverQuietly_eq]
  cases c.findings? files q with
  | none => exact .refl _
  | some found =>
    rw [enterFindings, outline_enterFile h.booked.tracks h.distinct]
    exact overlays_enterOutline h.distinct _ q found.1 found.2

/-- **A modified file** is laid over what was not in its first node. -/
theorem overlays_onModified {c : Catalog} (h : c.Sound) (files : FileTree) (q : Path) :
    ∃ old, (∀ e, e ∈ old ↔
        e ∈ testEntries c.outline ∧ ∀ x, c.filedAt? q = some x → e ∉ x.entries) ∧
      Overlays (declaredEntries q (c.findings? files q)) old
        (testEntries (c.onModified files q).1.outline) := by
  rcases c.filedAt?_eq q with ⟨hfile, hfiled⟩ | ⟨p, f, hplaced, hfile, hfiled⟩
  · refine ⟨testEntries c.outline, fun e => ?_, ?_⟩
    · rw [hfiled]
      simp
    · have hs := (c.keeps_discoverQuietly files q none).sound h
      unfold onModified
      rw [hfile, outline_prune hs.booked, testEntries_prune]
      exact overlays_discoverQuietly h files q
  · obtain ⟨hf, rfl⟩ := fileAt?_some hfile
    have hcleared := (c.loses_clearChildren f.info.ref).keeps
    refine ⟨testEntries (c.clearChildren f.info.ref).outline, fun e => ?_, ?_⟩
    · rw [mem_testEntries_clearChildren h hplaced, hfiled]
      simp
    · have hs := (c.keeps_refreshQuietly files f.info.ref).sound h
      unfold onModified
      rw [hfile, outline_prune hs.booked, testEntries_prune, refreshQuietly, h.pathOf_file hf,
        ← findings?_congr hcleared.settings rfl]
      exact overlays_discoverQuietly (hcleared.sound h) files f.info.path

/-- The tests of a path after its file has been entered into a catalog. -/
theorem testsAt_current_iff {c : Catalog} (hc : c.Sound) {old : List Entry} {q : Path}
    {found : Option (String × List Declaration)}
    (h : Overlays (declaredEntries q found) old (testEntries c.outline)) :
    c.testsAt q ~ declaredEntries q found ↔
      ∀ e ∈ old, e.node.path = q → e.ids ∈ (declaredEntries q found).map (·.ids) := by
  rw [testsAt_eq hc, h.perm_iff_covered (fun e he => decide_eq_true (path_of_mem_declaredEntries he))
    (nodup_declaredEntries q found) (nodup_testEntries hc.distinct).of_map]
  simp only [decide_eq_true_eq]

/-- **A created file is current** exactly if each test that its path had is declared anew,
    **a modified one** if each that was not in its first file is.  The tests of the path
    are then those that its content declares, and none if it declares none or cannot be
    read. -/
theorem current_iff (settings : CatalogSettings) (listeners : List Listener)
    (acts : List CatalogAct) (files : FileTree) (q : Path) :
    let c := (fresh settings listeners).performAll acts
    let declared := declaredEntries q (c.findings? files q)
    ((c.follow files ⟨.created, q⟩).1.testsAt q ~ declared ↔
      ∀ e ∈ c.testsAt q, e.ids ∈ declared.map (·.ids)) ∧
    ((c.follow files ⟨.modified, q⟩).1.testsAt q ~ declared ↔
      ∀ e ∈ c.testsAt q, (∀ x, c.filedAt? q = some x → e ∉ x.entries) →
        e.ids ∈ declared.map (·.ids)) := by
  intro c declared
  have hc : c.Sound := sound_performAll settings listeners acts
  constructor
  · have hafter : (c.follow files ⟨.created, q⟩).1.outline =
        (c.discoverQuietly files q none).1.outline := outline_notifyIf _ _ _
    have hover := overlays_discoverQuietly hc files q
    rw [← hafter] at hover
    rw [testsAt_current_iff ((c.keeps_follow files ⟨.created, q⟩).sound hc) hover]
    constructor
    · intro h e he
      obtain ⟨hmem, hpath⟩ := (mem_testsAt hc).mp he
      exact h e hmem hpath
    · intro h e hmem hpath
      exact h e ((mem_testsAt hc).mpr ⟨hmem, hpath⟩)
  · obtain ⟨old, hold, hover⟩ := overlays_onModified hc files q
    have hafter : (c.follow files ⟨.modified, q⟩).1.outline =
        (c.onModified files q).1.outline := outline_notifyIf _ _ _
    rw [← hafter] at hover
    rw [testsAt_current_iff ((c.keeps_follow files ⟨.modified, q⟩).sound hc) hover]
    constructor
    · intro h e he hout
      obtain ⟨hmem, hpath⟩ := (mem_testsAt hc).mp he
      exact h e ((hold e).mpr ⟨hmem, hout⟩) hpath
    · intro h e he hpath
      obtain ⟨hmem, hout⟩ := (hold e).mp he
      exact h e ((mem_testsAt hc).mpr ⟨hmem, hpath⟩) hout

/-! ### A test that outlives its declaration -/

/-- A file with two tests has been opened; on disk it then has one of them. -/
def sampleOpened : Catalog :=
  (fresh sampleSettings).performAll [.discover .empty (.ofString "/w/a_test.go")
    (some ("package p\n\nimport \"gopkg.in/check.v1\"\n\n" ++
      "func (s *Suite) TestX(c *check.C) \x7b\x7d\nfunc (s *Suite) TestY(c *check.C) \x7b\x7d\n"))]

theorem stale_after_created :
    (declaredEntries (.ofString "/w/a_test.go")
        (sampleOpened.findings? sampleFiles (.ofString "/w/a_test.go"))).map (·.ids) =
      [["/w:p", "a_test", "Suite", "Suite.TestX"]] ∧
    ((sampleOpened.follow sampleFiles ⟨.created, .ofString "/w/a_test.go"⟩).1.testsAt
        (.ofString "/w/a_test.go")).map (·.ids) =
      [["/w:p", "a_test", "Suite", "Suite.TestX"], ["/w:p", "a_test", "Suite", "Suite.TestY"]] := by
  decide +kernel

end Catalog
end SuiteExplorer
