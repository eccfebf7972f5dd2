/-
  SuiteExplorer/Proofs/Catalog/Deletion.lean
  ==========================================
  **When a file that is gone is gone from the tree.**

  A file is found by its path, but filed under its package and its name.  Removing a
  path takes out the first file that has it, and a deletion also whatever holds no
  tests after that.  So nothing of the path is left exactly if the path had one file
  node, and no node of it was anywhere else (`deletion_complete_iff`).  A file that is
  always read with one package clause, and whose place no other file takes, has only
  this one node (`Steady.gathered`); a file that is discovered under one package and
  then under another has two.
-/
import SuiteExplorer.Proofs.Catalog.Origin

namespace SuiteExplorer

open Keyed

/-! ## 1. The entries of a file and those of others -/

theorem mem_entriesOf {ps : List PackageOutline} {e : Entry} :
    e ∈ entriesOf ps ↔
      (∃ p ∈ ps, e = ⟨[p.head.id], p.head⟩) ∨ ∃ x ∈ filed ps, e ∈ x.entries := by
  rw [(entriesOf_perm ps).mem_iff, List.mem_append, List.mem_flatMap]
  refine or_congr_left ?_
  simp only [List.map_map, List.mem_map, Function.comp_apply]
  exact exists_congr fun p => and_congr_right fun _ => eq_comm

theorem head_mem_entries (x : Filed) :
    (⟨[x.package.id, x.file.head.id], x.file.head⟩ : Entry) ∈ x.entries := List.mem_cons_self

/-- What is filed is known by the ids of its file and its package. -/
theorem filed_eq_of_ids {ps : List PackageOutline} (h : DistinctIds ps) {x y : Filed}
    (hx : x ∈ filed ps) (hy : y ∈ filed ps) (hpackage : x.package.id = y.package.id)
    (hfile : x.file.head.id = y.file.head.id) : x = y := by
  obtain ⟨p, hp, hpx, hf⟩ := mem_filed.mp hx
  obtain ⟨p', hp', hpy, hg⟩ := mem_filed.mp hy
  rw [← hpx, ← hpy] at hpackage
  obtain rfl : p = p' := List.inj_on_of_nodup_map h.1 hp hp' hpackage
  have hfiles : x.file = y.file := List.inj_on_of_nodup_map (h.2 p hp).1 hf hg hfile
  cases x
  cases y
  simp_all

/-- **An entry below the place of a file is one of this file.** -/
theorem mem_entries_of_prefix {ps : List PackageOutline} (h : DistinctIds ps) {x : Filed}
    (hx : x ∈ filed ps) {e : Entry} (he : e ∈ entriesOf ps)
    (hplace : [x.package.id, x.file.head.id] <+: e.ids) : e ∈ x.entries := by
  rcases mem_entriesOf.mp he with ⟨p, -, rfl⟩ | ⟨y, hy, hey⟩
  · have hlength := hplace.length_le
    simp at hlength
  · obtain ⟨rest, hids⟩ := Filed.ids_of_mem_entries hey
    rw [hids, List.cons_prefix_cons, List.cons_prefix_cons] at hplace
    rwa [filed_eq_of_ids h hx hy hplace.1 hplace.2.1]

theorem prefix_of_mem_entries {x : Filed} {e : Entry} (he : e ∈ x.entries) :
    [x.package.id, x.file.head.id] <+: e.ids := by
  obtain ⟨rest, hids⟩ := Filed.ids_of_mem_entries he
  rw [hids]
  exact List.prefix_append _ _

theorem testEntries_subset {ps : List PackageOutline} (h : Fits ps) :
    testEntries ps ⊆ entriesOf ps := by
  rw [← filter_entriesOf h]
  exact fun e he => List.mem_of_mem_filter he

/-! ## 2. Removing -/

namespace Catalog

/-- The files after a removal are all but the first one of the path. -/
theorem mem_filed_removeFile {c : Catalog} (h : c.Sound) (q : Path) {x : Filed} :
    x ∈ filed (c.removeFile q).1.outline ↔ x ∈ filed c.outline ∧ c.filedAt? q ≠ some x := by
  rcases c.filedAt?_eq q with ⟨hfile, hfiled⟩ | ⟨p, f, hplaced, hfile, hfiled⟩
  · rw [removeFile, hfile, hfiled]
    exact (and_iff_left (Option.some_ne_none x).symm).symm
  · obtain ⟨hp, hf⟩ := mem_placedFiles.mp hplaced
    have hafter : (c.removeFile q).1.outline = c.packages.map fun p' =>
        ⟨p'.info.outline c.meaning?, (p'.files.filter fun g => g.info.ref ≠ f.info.ref).map
          (·.outline c.meaning?)⟩ := by
      rw [(c.loses_removeFile q).outline h.booked, removeFile, hfile]
      exact List.map_map
    have hrefs : (c.placedFiles.map (·.2.info.ref)).Nodup := by
      have hnd := c.files_sublist_refs.nodup h.booked.tracks.distinct
      rwa [← map_placedFiles, List.map_map] at hnd
    rw [hafter, hfiled, mem_filed, mem_filed_outline]
    simp only [List.mem_map, List.mem_filter, decide_eq_true_eq, exists_exists_and_eq_and]
    constructor
    · rintro ⟨p', hp', hhead, g, ⟨hg, hne⟩, hgx⟩
      refine ⟨⟨p', hp', g, hg, by rw [hhead, hgx]⟩, ?_⟩
      intro hsame
      obtain ⟨hpackage, hfiles⟩ := Filed.mk.inj (Option.some.inj hsame)
      -- the first file of the path has the same ids, so it is the same node
      have hpp : p = p' := List.inj_on_of_nodup_map (nodup_ids h.distinct) hp hp'
        (congrArg NodeOutline.id (hpackage.trans hhead.symm))
      subst hpp
      have hids := PackageNode.nodup_ids (distinct_package h.distinct hp)
      have hfg : f.info.id = g.info.id := congrArg (·.head.id) (hfiles.trans hgx.symm)
      exact hne (by rw [List.inj_on_of_nodup_map hids hf hg hfg])
    · rintro ⟨⟨p', hp', g, hg, rfl⟩, hne⟩
      refine ⟨p', hp', rfl, g, ⟨hg, ?_⟩, rfl⟩
      intro href
      have hsame := List.inj_on_of_nodup_map hrefs (mem_placedFiles.mpr ⟨hp', hg⟩) hplaced href
      obtain ⟨rfl, rfl⟩ := Prod.mk.inj hsame
      exact hne rfl

theorem heads_removeFile {c : Catalog} (h : c.Sound) (q : Path) :
    (c.removeFile q).1.outline.map (·.head) = c.outline.map (·.head) := by
  rw [(c.loses_removeFile q).outline h.booked, outline, removeFile]
  cases c.fileAt? q with
  | none => rfl
  | some f =>
    simp only [List.map_map]
    rfl

theorem filedAt?_some {c : Catalog} {q : Path} {x : Filed} (h : c.filedAt? q = some x) :
    x ∈ filed c.outline ∧ x.file.head.path = q :=
  ⟨List.mem_of_find?_eq_some h, by simpa using List.find?_some h⟩

/-- **Removing a path** takes out the first file that has it, with all it holds. -/
theorem mem_entries_removeFile {c : Catalog} (h : c.Sound) (q : Path) {e : Entry} :
    e ∈ (c.removeFile q).1.entries ↔
      e ∈ c.entries ∧ ∀ x, c.filedAt? q = some x → e ∉ x.entries := by
  have hheads : (∃ p ∈ (c.removeFile q).1.outline, e = ⟨[p.head.id], p.head⟩) ↔
      ∃ p ∈ c.outline, e = ⟨[p.head.id], p.head⟩ := by
    have hmem : ∀ ps : List PackageOutline, (∃ p ∈ ps, e = ⟨[p.head.id], p.head⟩) ↔
        ∃ o ∈ ps.map (·.head), e = ⟨[o.id], o⟩ := fun ps => by simp
    rw [hmem, hmem, heads_removeFile h]
  rw [entries, mem_entriesOf, hheads, entries, mem_entriesOf]
  constructor
  · rintro (⟨p, hp, rfl⟩ | ⟨x, hx, he⟩)
    · refine ⟨Or.inl ⟨p, hp, rfl⟩, fun x _ hmem => ?_⟩
      have hlength := (prefix_of_mem_entries hmem).length_le
      simp at hlength
    · obtain ⟨hx, hne⟩ := (mem_filed_removeFile h q).mp hx
      refine ⟨Or.inr ⟨x, hx, he⟩, fun y hy hmem => hne ?_⟩
      have hplace := prefix_of_mem_entries hmem
      obtain ⟨rest, hids⟩ := Filed.ids_of_mem_entries he
      rw [hids, List.cons_prefix_cons, List.cons_prefix_cons] at hplace
      rw [hy, filed_eq_of_ids h.distinct (filedAt?_some hy).1 hx hplace.1 hplace.2.1]
  · rintro ⟨hp | ⟨x, hx, he⟩, hout⟩
    · exact Or.inl hp
    · exact Or.inr ⟨x, (mem_filed_removeFile h q).mpr ⟨hx, fun hy => hout x hy he⟩, he⟩

end Catalog

/-! ## 3. Pruning -/

section Below

variable {α : Type} {key : α → String} {view tests : α → List Entry}

/-- What is left of a level when its nodes without tests are taken out of it. -/
theorem mem_entriesBelow_kept {l : List α} (change : α → α) (keep : α → Bool)
    (hnd : (l.map key).Nodup) (hkey : ∀ x, key (change x) = key x)
    (hkeep : ∀ x ∈ l, keep (change x) = true ↔ tests x ≠ [])
    (hview : ∀ x ∈ l, tests x ≠ [] →
      ∀ e, e ∈ view (change x) ↔ e ∈ view x ∧ ∃ t ∈ tests x, e.ids <+: t.ids) {e : Entry} :
    e ∈ entriesBelow key view ((l.map change).filter keep) ↔
      e ∈ entriesBelow key view l ∧ ∃ t ∈ entriesBelow key tests l, e.ids <+: t.ids := by
  simp only [mem_entriesBelow]
  constructor
  · rintro ⟨x', hx', e', he', rfl⟩
    obtain ⟨hx', hkept⟩ := List.mem_filter.mp hx'
    obtain ⟨x, hx, rfl⟩ := List.mem_map.mp hx'
    obtain ⟨he', t, ht, hunder⟩ := (hview x hx ((hkeep x hx).mp hkept) e').mp he'
    rw [hkey]
    refine ⟨⟨x, hx, e', he', rfl⟩, _, ⟨x, hx, t, ht, rfl⟩, ?_⟩
    exact List.cons_prefix_cons.mpr ⟨rfl, hunder⟩
  · rintro ⟨⟨x, hx, e', he', rfl⟩, _, ⟨y, hy, t, ht, rfl⟩, hunder⟩
    obtain ⟨hxy, hbelow⟩ := List.cons_prefix_cons.mp hunder
    obtain rfl : x = y := List.inj_on_of_nodup_map hnd hx hy hxy
    have htests : tests x ≠ [] := List.ne_nil_of_mem ht
    have hkept := List.mem_filter.mpr ⟨List.mem_map_of_mem hx, (hkeep x hx).mpr htests⟩
    exact ⟨change x, hkept, e', (hview x hx htests e').mpr ⟨he', t, ht, hbelow⟩, by rw [hkey]⟩

/-- The same with the node that holds the level. -/
theorem mem_view_kept {l l' : List α} {o : NodeOutline}
    (h : ∀ e, e ∈ entriesBelow key view l' ↔
      e ∈ entriesBelow key view l ∧ ∃ t ∈ entriesBelow key tests l, e.ids <+: t.ids)
    (htests : entriesBelow key tests l ≠ []) {e : Entry} :
    e ∈ ⟨[], o⟩ :: entriesBelow key view l' ↔
      e ∈ ⟨[], o⟩ :: entriesBelow key view l ∧
        ∃ t ∈ entriesBelow key tests l, e.ids <+: t.ids := by
  rw [List.mem_cons, List.mem_cons, h e]
  constructor
  · rintro (rfl | ⟨he, ht⟩)
    · obtain ⟨t, ht⟩ := List.exists_mem_of_ne_nil _ htests
      exact ⟨Or.inl rfl, t, ht, List.nil_prefix⟩
    · exact ⟨Or.inr he, ht⟩
  · rintro ⟨rfl | he, ht⟩
    · exact Or.inl rfl
    · exact Or.inr ⟨he, ht⟩

theorem entriesBelow_ne_nil {l : List α} :
    entriesBelow key tests l ≠ [] ↔ ∃ x ∈ l, tests x ≠ [] := by
  simp [entriesBelow]

end Below

theorem SuiteOutline.testEntries_ne_nil {s : SuiteOutline} : s.testEntries ≠ [] ↔ s.tests ≠ [] := by
  simp [testEntries, entriesBelow, List.eq_nil_iff_forall_not_mem]

theorem FileOutline.prune_suites_ne_nil {f : FileOutline} :
    f.prune.suites ≠ [] ↔ f.testEntries ≠ [] := by
  rw [testEntries, entriesBelow_ne_nil]
  simp [prune, SuiteOutline.testEntries_ne_nil]

theorem PackageOutline.prune_files_ne_nil {p : PackageOutline} :
    p.prune.files ≠ [] ↔ p.testEntries ≠ [] := by
  rw [testEntries, entriesBelow_ne_nil]
  simp [prune, ← FileOutline.prune_suites_ne_nil]

theorem SuiteOutline.mem_view_iff_test {s : SuiteOutline} (h : s.testEntries ≠ []) {e : Entry} :
    e ∈ s.view ↔ e ∈ s.view ∧ ∃ t ∈ s.testEntries, e.ids <+: t.ids := by
  refine ⟨fun he => ⟨he, ?_⟩, And.left⟩
  rcases List.mem_cons.mp he with rfl | he
  · obtain ⟨t, ht⟩ := List.exists_mem_of_ne_nil _ h
    exact ⟨t, ht, List.nil_prefix⟩
  · exact ⟨e, he, List.prefix_refl _⟩

theorem FileOutline.mem_view_prune {f : FileOutline} (h : f.Distinct) (htests : f.testEntries ≠ [])
    {e : Entry} : e ∈ f.prune.view ↔ e ∈ f.view ∧ ∃ t ∈ f.testEntries, e.ids <+: t.ids := by
  apply mem_view_kept _ htests
  intro e
  have hkept : e ∈ entriesBelow (·.head.id) (·.view) ((f.suites.map id).filter (!·.tests.isEmpty)) ↔
      e ∈ entriesBelow (·.head.id) (·.view) f.suites ∧ ∃ t ∈ f.testEntries, e.ids <+: t.ids := by
    apply mem_entriesBelow_kept id _ h.1 (fun _ => rfl)
    · intro s _
      simp [SuiteOutline.testEntries_ne_nil]
    · exact fun s _ hs e => SuiteOutline.mem_view_iff_test hs
  rwa [List.map_id] at hkept

theorem PackageOutline.mem_view_prune {p : PackageOutline} (h : p.Distinct)
    (htests : p.testEntries ≠ []) {e : Entry} :
    e ∈ p.prune.view ↔ e ∈ p.view ∧ ∃ t ∈ p.testEntries, e.ids <+: t.ids := by
  apply mem_view_kept _ htests
  intro e
  apply mem_entriesBelow_kept FileOutline.prune _ h.1 (fun _ => rfl)
  · intro f _
    simp [← FileOutline.prune_suites_ne_nil]
  · exact fun f hf hne e => FileOutline.mem_view_prune (h.2 f hf) hne

/-- **Pruning leaves the nodes that hold tests.** -/
theorem mem_entriesOf_prune {ps : List PackageOutline} (h : DistinctIds ps) {e : Entry} :
    e ∈ entriesOf (pruneOutline ps) ↔ e ∈ entriesOf ps ∧ ∃ t ∈ testEntries ps, e.ids <+: t.ids := by
  rw [entriesOf_eq, entriesOf_eq, pruneOutline]
  apply mem_entriesBelow_kept PackageOutline.prune _ h.1 (fun _ => rfl)
  · intro p _
    simp [← PackageOutline.prune_files_ne_nil]
  · exact fun p hp hne e => PackageOutline.mem_view_prune (h.2 p hp) hne

/-! ## 4. Deletion -/

namespace Catalog

/-- The path has at most one file node, and each of its nodes is that file or in it. -/
structure Gathered (c : Catalog) (q : Path) : Prop where
  one : (c.files.filter (·.info.path = q)).length ≤ 1
  inside : ∀ e ∈ c.entries, e.node.path = q →
    ∃ x ∈ filed c.outline, x.file.head.path = q ∧ e ∈ x.entries

theorem length_le_one_iff_of_nodup {α : Type} {l : List α} (hnd : l.Nodup) :
    l.length ≤ 1 ↔ ∀ x ∈ l, ∀ y ∈ l, x = y := by
  rcases l with - | ⟨a, - | ⟨b, l⟩⟩
  · simp
  · simp
  · have hne : a ≠ b := fun hab => (List.nodup_cons.mp hnd).1 (hab ▸ List.mem_cons_self)
    simp [hne]

/-- Files of one path are one file, if there is at most one. -/
theorem length_files_le_one_iff {c : Catalog} (h : c.Sound) (q : Path) :
    (c.files.filter (·.info.path = q)).length ≤ 1 ↔
      ∀ x ∈ filed c.outline, ∀ y ∈ filed c.outline,
        x.file.head.path = q → y.file.head.path = q → x = y := by
  have hfiles : (filed c.outline).map (·.file) = c.files.map (·.outline c.meaning?) := by
    rw [files, List.map_flatMap, filed, outline, List.flatMap_map, List.map_flatMap]
    refine List.flatMap_congr fun p _ => ?_
    rw [List.map_map]
    exact List.map_id _
  have hlength : ((filed c.outline).filter (·.file.head.path = q)).length =
      (c.files.filter (·.info.path = q)).length := by
    have hmapped := congrArg (fun l => (l.filter (·.head.path = q)).length) hfiles
    simp only [List.filter_map, List.length_map] at hmapped
    exact hmapped
  have hnd : ((filed c.outline).filter (·.file.head.path = q)).Nodup :=
    (nodup_filed h.distinct).filter _
  rw [← hlength, length_le_one_iff_of_nodup hnd]
  simp only [List.mem_filter, decide_eq_true_eq]
  constructor
  · exact fun hone x hx y hy hpx hpy => hone x ⟨hx, hpx⟩ y ⟨hy, hpy⟩
  · exact fun hone x hx y hy => hone x hx.1 y hy.1 hx.2 hy.2

theorem filedAt?_isSome {c : Catalog} {x : Filed} (hx : x ∈ filed c.outline) :
    ∃ y, c.filedAt? x.file.head.path = some y := by
  apply Option.isSome_iff_exists.mp
  rw [filedAt?, List.find?_isSome]
  exact ⟨x, hx, decide_eq_true rfl⟩

theorem mem_entries_of_filed {c : Catalog} {x : Filed} (hx : x ∈ filed c.outline) {e : Entry}
    (he : e ∈ x.entries) : e ∈ c.entries :=
  mem_entriesOf.mpr (Or.inr ⟨x, hx, he⟩)

/-- **Removing a path is complete** exactly if its nodes are gathered in one file. -/
theorem removeFile_complete_iff {c : Catalog} (h : c.Sound) (q : Path) :
    (∀ e ∈ (c.removeFile q).1.entries, e.node.path ≠ q) ↔ c.Gathered q := by
  have hremoved : (∀ e ∈ (c.removeFile q).1.entries, e.node.path ≠ q) ↔
      ∀ e ∈ c.entries, e.node.path = q → ∃ x, c.filedAt? q = some x ∧ e ∈ x.entries := by
    constructor
    · intro hnone e he hpath
      by_contra hout
      rw [not_exists] at hout
      exact hnone e ((mem_entries_removeFile h q).mpr ⟨he, fun x hx hmem => hout x ⟨hx, hmem⟩⟩) hpath
    · intro hall e he hpath
      obtain ⟨he, hout⟩ := (mem_entries_removeFile h q).mp he
      obtain ⟨x, hx, hmem⟩ := hall e he hpath
      exact hout x hx hmem
  rw [hremoved]
  constructor
  · intro hall
    -- each file of the path is the first one, because its own entry is in the first one
    have hfirst : ∀ x ∈ filed c.outline, x.file.head.path = q → c.filedAt? q = some x := by
      intro x hx hpath
      obtain ⟨y, hy, hmem⟩ := hall _ (mem_entries_of_filed hx (head_mem_entries x)) hpath
      have hplace := prefix_of_mem_entries hmem
      rw [List.cons_prefix_cons, List.cons_prefix_cons] at hplace
      rw [hy, filed_eq_of_ids h.distinct (filedAt?_some hy).1 hx hplace.1 hplace.2.1]
    constructor
    · rw [length_files_le_one_iff h]
      intro x hx y hy hpx hpy
      exact Option.some.inj ((hfirst x hx hpx).symm.trans (hfirst y hy hpy))
    · intro e he hpath
      obtain ⟨x, hx, hmem⟩ := hall e he hpath
      exact ⟨x, (filedAt?_some hx).1, (filedAt?_some hx).2, hmem⟩
  · intro hgathered e he hpath
    obtain ⟨x, hx, hpx, hmem⟩ := hgathered.inside e he hpath
    obtain ⟨y, hy⟩ := filedAt?_isSome hx
    rw [hpx] at hy
    have hone := (length_files_le_one_iff h q).mp hgathered.one
    rw [hone x hx y (filedAt?_some hy).1 hpx (filedAt?_some hy).2] at hmem
    exact ⟨y, hy, hmem⟩

/-- What lies below a node of a gathered path lies in its file. -/
theorem Gathered.mem_of_prefix {c : Catalog} (h : c.Sound) {q : Path} (hgathered : c.Gathered q)
    {e : Entry} (he : e ∈ c.entries) (hpath : e.node.path = q) :
    ∃ x, c.filedAt? q = some x ∧ ∀ t ∈ testEntries c.outline, e.ids <+: t.ids → t ∈ x.entries := by
  obtain ⟨x, hx, hpx, hmem⟩ := hgathered.inside e he hpath
  obtain ⟨y, hy⟩ := filedAt?_isSome hx
  rw [hpx] at hy
  have hone := (length_files_le_one_iff h q).mp hgathered.one
  obtain rfl := hone x hx y (filedAt?_some hy).1 hpx (filedAt?_some hy).2
  refine ⟨x, hy, fun t ht hunder => ?_⟩
  exact mem_entries_of_prefix h.distinct hx (testEntries_subset h.fits ht)
    ((prefix_of_mem_entries hmem).trans hunder)

theorem onDeleted_eq (c : Catalog) (q : Path) :
    (c.onDeleted q).1 =
      if (c.filedAt? q).isSome then (c.removeFile q).1.prune.1 else c := by
  rcases c.filedAt?_eq q with ⟨hfile, hfiled⟩ | ⟨p, f, -, hfile, hfiled⟩
  · simp [onDeleted, removeFile, hfile, hfiled]
  · simp [onDeleted, removeFile, hfile, hfiled]

/-- The tests that a removal leaves are those outside the first file of the path. -/
theorem mem_testEntries_removeFile {c : Catalog} (h : c.Sound) (q : Path) {t : Entry} :
    t ∈ testEntries (c.removeFile q).1.outline ↔
      t ∈ testEntries c.outline ∧ ∀ x, c.filedAt? q = some x → t ∉ x.entries := by
  have hafter := (c.loses_removeFile q).keeps.sound h
  rw [← filter_entriesOf hafter.fits, ← filter_entriesOf h.fits, List.mem_filter, List.mem_filter]
  have hentries := mem_entries_removeFile h q (e := t)
  rw [entries, entries] at hentries
  rw [hentries]
  tauto

/-- **A deletion is complete** exactly if the path has a file as soon as it has a node, and
    whatever has the path holds no tests outside the first one. -/
theorem follow_deleted_complete_iff {c : Catalog} (h : c.Sound) (files : FileTree) (q : Path) :
    (∀ e ∈ (c.follow files ⟨.deleted, q⟩).1.entries, e.node.path ≠ q) ↔
      ∀ e ∈ c.entries, e.node.path = q → ∃ x, c.filedAt? q = some x ∧
        ∀ t ∈ testEntries c.outline, e.ids <+: t.ids → t ∈ x.entries := by
  have hafter : (c.follow files ⟨.deleted, q⟩).1.entries = (c.onDeleted q).1.entries :=
    congrArg entriesOf (outline_notifyIf _ _ _)
  rw [hafter, onDeleted_eq]
  cases hfiled : c.filedAt? q with
  | none => simp
  | some x =>
    have hs := (c.loses_removeFile q).keeps.sound h
    have hx := (filedAt?_some hfiled).1
    have hmem : ∀ e, e ∈ (c.removeFile q).1.prune.1.entries ↔ (e ∈ c.entries ∧ e ∉ x.entries) ∧
        ∃ t ∈ testEntries c.outline, t ∉ x.entries ∧ e.ids <+: t.ids := by
      intro e
      rw [entries, outline_prune hs.booked, mem_entriesOf_prune hs.distinct, ← entries,
        mem_entries_removeFile h]
      simp only [mem_testEntries_removeFile h, hfiled, Option.some.injEq, forall_eq', and_assoc]
    simp only [Option.isSome_some, if_true, hmem, Option.some.injEq, exists_eq_left']
    constructor
    · intro hnone e he hpath t ht hunder
      by_contra hout
      refine hnone e ⟨⟨he, fun hin => hout ?_⟩, t, ht, hout, hunder⟩ hpath
      -- what is below an entry of the file is in the file
      exact mem_entries_of_prefix h.distinct hx (testEntries_subset h.fits ht)
        ((prefix_of_mem_entries hin).trans hunder)
    · rintro hall e ⟨⟨he, -⟩, t, ht, hout, hunder⟩ hpath
      exact hout (hall e he hpath t ht hunder)

/-! ## 5. Files that keep their place -/

/-- An operation may find tests in a file, with this package clause. -/
def MayFind (settings : CatalogSettings) (act : CatalogAct) (q : Path) (package : String) : Prop :=
  ∃ ds, act.plan (fresh settings) q = some (package, ds)

/-- In a history, a file is found with one package clause only, no other file has its
    place, and it is nobody's directory. -/
structure Steady (settings : CatalogSettings) (acts : List CatalogAct) (q : Path)
    (package : String) : Prop where
  stays : ∀ act ∈ acts, ∀ p, MayFind settings act q p → p = package
  alone : ∀ act ∈ acts, ∀ q' p, MayFind settings act q' p →
    packageId q'.parent p = packageId q.parent package → q'.stem = q.stem → q' = q
  apart : ∀ act ∈ acts, ∀ q' p, MayFind settings act q' p → q'.parent ≠ q

/-- **A steady file has one node,** and all of its nodes are there. -/
theorem Steady.gathered {settings : CatalogSettings} {acts : List CatalogAct} {q : Path}
    {package : String} (hsteady : Steady settings acts q package) (listeners : List Listener) :
    ((fresh settings listeners).performAll acts).Gathered q := by
  generalize hc : (fresh settings listeners).performAll acts = c
  have hs : c.Sound := hc ▸ sound_performAll settings listeners acts
  -- whatever has the path is at its place
  have hplace : ∀ e ∈ c.entries, e.node.path = q →
      [packageId q.parent package, q.stem] <+: e.ids := by
    intro e he hpath
    rw [← hc] at he
    obtain ⟨act, hact, q', p, ds, hplan, hnode⟩ := mem_entries_performAll settings listeners acts he
    rcases mem_nodesOf hnode with rfl | ⟨hq', hunder⟩
    · exact absurd hpath (hsteady.apart act hact q' p ⟨ds, hplan⟩)
    · rw [hpath] at hq'
      subst hq'
      rwa [hsteady.stays act hact p ⟨ds, hplan⟩] at hunder
  -- and the file there has the path
  have hhead : ∀ x ∈ filed c.outline, x.package.id = packageId q.parent package →
      x.file.head.id = q.stem → x.file.head.path = q := by
    intro x hx hpackage hstem
    have he := mem_entries_of_filed hx (head_mem_entries x)
    rw [← hc] at he
    obtain ⟨act, hact, q', p, ds, hplan, hnode⟩ := mem_entries_performAll settings listeners acts he
    rcases mem_nodesOf hnode with heq | ⟨hq', hunder⟩
    · cases (List.cons.inj (congrArg Entry.ids heq)).2
    · rw [List.cons_prefix_cons, List.cons_prefix_cons] at hunder
      rw [hq']
      exact hsteady.alone act hact q' p ⟨ds, hplan⟩ (hunder.1.trans hpackage)
        (hunder.2.1.trans hstem)
  have hids : ∀ x ∈ filed c.outline, x.file.head.path = q →
      x.package.id = packageId q.parent package ∧ x.file.head.id = q.stem := by
    intro x hx hpath
    have hunder := hplace _ (mem_entries_of_filed hx (head_mem_entries x)) hpath
    rw [List.cons_prefix_cons, List.cons_prefix_cons] at hunder
    exact ⟨hunder.1.symm, hunder.2.1.symm⟩
  constructor
  · rw [length_files_le_one_iff hs]
    intro x hx y hy hpx hpy
    obtain ⟨hxp, hxf⟩ := hids x hx hpx
    obtain ⟨hyp, hyf⟩ := hids y hy hpy
    exact filed_eq_of_ids hs.distinct hx hy (hxp.trans hyp.symm) (hxf.trans hyf.symm)
  · intro e he hpath
    have hunder := hplace e he hpath
    rcases mem_entriesOf.mp he with ⟨p, -, rfl⟩ | ⟨x, hx, hmem⟩
    · have hlength := hunder.length_le
      simp at hlength
    · obtain ⟨rest, heids⟩ := Filed.ids_of_mem_entries hmem
      rw [heids, List.cons_prefix_cons, List.cons_prefix_cons] at hunder
      exact ⟨x, hx, hhead x hx hunder.1.symm hunder.2.1.symm, hmem⟩

/-- **When deletion is complete.**  Whatever has been done to a catalog, removing a path
    leaves no node of it exactly if the path has at most one file node and all its nodes
    are there; a deletion leaves none exactly if nothing of the path holds tests outside
    its first file.  Both hold as long as the package clause of the file stays. -/
theorem deletion_complete_iff (settings : CatalogSettings) (listeners : List Listener)
    (acts : List CatalogAct) (files : FileTree) (q : Path) :
    let c := (fresh settings listeners).performAll acts
    ((∀ e ∈ (c.removeFile q).1.entries, e.node.path ≠ q) ↔ c.Gathered q) ∧
    ((∀ e ∈ (c.follow files ⟨.deleted, q⟩).1.entries, e.node.path ≠ q) ↔
      ∀ e ∈ c.entries, e.node.path = q → ∃ x, c.filedAt? q = some x ∧
        ∀ t ∈ testEntries c.outline, e.ids <+: t.ids → t ∈ x.entries) ∧
    (∀ package, Steady settings acts q package →
      (∀ e ∈ (c.removeFile q).1.entries, e.node.path ≠ q) ∧
      ∀ e ∈ (c.follow files ⟨.deleted, q⟩).1.entries, e.node.path ≠ q) := by
  intro c
  have hs : c.Sound := sound_performAll settings listeners acts
  refine ⟨removeFile_complete_iff hs q, follow_deleted_complete_iff hs files q, ?_⟩
  intro package hsteady
  have hgathered : c.Gathered q := hsteady.gathered listeners
  constructor
  · exact (removeFile_complete_iff hs q).mpr hgathered
  · rw [follow_deleted_complete_iff hs]
    exact fun e he hpath => hgathered.mem_of_prefix hs he hpath

/-! ### A file that moves to another package -/

def sampleOpening : List CatalogAct :=
  [.discover .empty (.ofString "/w/a_test.go")
    (some ("package p\n\nimport \"gopkg.in/check.v1\"\n\n" ++
      "func (s *Suite) TestX(c *check.C) \x7b\x7d\n"))]

theorem steady_sampleOpening :
    Steady sampleSettings sampleOpening (.ofString "/w/a_test.go") "p" := by
  have hclause : ∀ act ∈ sampleOpening,
      (act.plan (fresh sampleSettings) (.ofString "/w/a_test.go")).map (·.1) = some "p" := by
    decide +kernel
  have hpath : ∀ act ∈ sampleOpening, ∀ q p, MayFind sampleSettings act q p →
      q = .ofString "/w/a_test.go" := by
    intro act hact q p hfind
    obtain rfl := List.mem_singleton.mp hact
    obtain ⟨ds, hplan⟩ := hfind
    by_contra hne
    cases (if_neg hne).symm.trans hplan
  constructor
  · rintro act hact p ⟨ds, hplan⟩
    have hp := hclause act hact
    rw [hplan] at hp
    exact Option.some.inj hp
  · exact fun act hact q p hfind _ _ => hpath act hact q p hfind
  · intro act hact q p hfind
    rw [hpath act hact q p hfind]
    decide +kernel

theorem deletion_complete_sampleOpening :
    let c := (fresh sampleSettings).performAll sampleOpening
    c.entries ≠ [] ∧
      ∀ e ∈ (c.follow .empty ⟨.deleted, .ofString "/w/a_test.go"⟩).1.entries,
        e.node.path ≠ .ofString "/w/a_test.go" :=
  ⟨by decide +kernel,
    ((deletion_complete_iff sampleSettings [] sampleOpening .empty (.ofString "/w/a_test.go")).2.2
      "p" steady_sampleOpening).2⟩

/-- The file is read in one package, and is then reported as created in another. -/
def sampleRenamed : Catalog :=
  (fresh sampleSettings).performAll (sampleOpening ++
    [.follow (sampleFiles.write (.ofString "/w/a_test.go") (sampleTest "q"))
      ⟨.created, .ofString "/w/a_test.go"⟩])

theorem renamed_outlives_deletion :
    ((sampleRenamed.removeFile (.ofString "/w/a_test.go")).1.files.map (·.info.path)) =
        [.ofString "/w/a_test.go"] ∧
      ((sampleRenamed.follow .empty ⟨.deleted, .ofString "/w/a_test.go"⟩).1.entries.filter
          (·.node.path = .ofString "/w/a_test.go")).map (·.ids) =
        [["/w:q", "a_test"], ["/w:q", "a_test", "Suite"],
          ["/w:q", "a_test", "Suite", "Suite.TestX"]] := by
  decide +kernel

end Catalog
end SuiteExplorer
