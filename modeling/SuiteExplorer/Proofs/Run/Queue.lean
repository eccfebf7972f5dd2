/-
  SuiteExplorer/Proofs/Run/Queue.lean
  ===================================
  **What is run is a suite or a test of the tree.**

  A request may name any nodes: such that have left the catalog, the same one twice,
  or one below another.  Whatever it names, each entry of its queue is a suite of the
  tree with its tests, or a test of the tree (`Sound.mem_queue`).
-/
import SuiteExplorer.Proofs.Catalog.Soundness
import SuiteExplorer.Run.Queue

namespace SuiteExplorer

/-! ## 1. Parts of trees -/

namespace Subtree

/-- A tree is one of several trees, or lies below one of them. -/
inductive PartOf (t : Subtree) : List Subtree → Prop where
  | here (ts : List Subtree) : PartOf t (t :: ts)
  | inside (i : NodeInfo) {cs : List Subtree} (ts : List Subtree) :
    PartOf t cs → PartOf t (node i cs :: ts)
  | later (u : Subtree) {ts : List Subtree} : PartOf t ts → PartOf t (u :: ts)

variable {t u : Subtree} {ts : List Subtree}

theorem partOf_cons : t.PartOf (u :: ts) ↔ t = u ∨ t.PartOf u.children ∨ t.PartOf ts := by
  constructor
  · intro h
    cases h with
    | here => exact Or.inl rfl
    | inside _ _ h => exact Or.inr (Or.inl h)
    | later _ h => exact Or.inr (Or.inr h)
  · rintro (rfl | h | h)
    · exact .here ts
    · cases u with
      | node i cs => exact .inside i ts h
    · exact .later u h

theorem partOf_of_mem (h : t ∈ ts) : t.PartOf ts := by
  induction ts with
  | nil => cases h
  | cons u ts ih =>
    rcases List.mem_cons.mp h with rfl | h
    · exact .here ts
    · exact .later u (ih h)

theorem PartOf.trans (h : t.PartOf ts) (hu : u.PartOf t.children) : u.PartOf ts := by
  induction h with
  | here ts =>
    cases t with
    | node i cs => exact .inside i ts hu
  | inside i ts _ ih => exact .inside i ts ih
  | later v _ ih => exact .later v ih

/-- The numbers of a part stand together among those of the whole. -/
theorem PartOf.refs_sublist (h : t.PartOf ts) : t.refs.Sublist (refsOf ts) := by
  induction h with
  | here ts =>
    rw [refsOf_cons]
    exact List.sublist_append_left _ _
  | inside i ts _ ih =>
    rw [refsOf_cons, refs_node]
    exact (ih.cons i.ref).trans (List.sublist_append_left _ _)
  | later v _ ih =>
    rw [refsOf_cons]
    exact ih.trans (List.sublist_append_right _ _)

theorem PartOf.ref_mem (h : t.PartOf ts) : t.info.ref ∈ refsOf ts := by
  refine h.refs_sublist.subset ?_
  cases t with
  | node i cs => exact List.mem_cons_self

theorem partOf_iff : t.PartOf ts ↔ ∃ u ∈ ts, t = u ∨ t.PartOf u.children := by
  induction ts with
  | nil =>
    constructor
    · intro h
      cases h
    · rintro ⟨u, hu, -⟩
      cases hu
  | cons u ts ih => rw [partOf_cons, ih, List.exists_mem_cons_iff, or_assoc]

/-- The parts of trees that are made of the things in a list. -/
theorem partOf_map {α : Type} {g : α → Subtree} {l : List α} :
    t.PartOf (l.map g) ↔ ∃ x ∈ l, t = g x ∨ t.PartOf (g x).children := by
  rw [partOf_iff]
  constructor
  · rintro ⟨u, hu, h⟩
    obtain ⟨x, hx, rfl⟩ := List.mem_map.mp hu
    exact ⟨x, hx, h⟩
  · rintro ⟨x, hx, h⟩
    exact ⟨g x, List.mem_map_of_mem hx, h⟩

mutual

theorem partOf_of_find? {ref : NodeRef} {found : Subtree} :
    ∀ t : Subtree, t.find? ref = some found → found = t ∨ found.PartOf t.children
  | node i cs, h => by
    rw [find?] at h
    split at h
    · exact Or.inl (Option.some.inj h).symm
    · exact Or.inr (partOf_of_findIn? cs h)

/-- What is found is a part. -/
theorem partOf_of_findIn? {ref : NodeRef} {found : Subtree} :
    ∀ ts : List Subtree, findIn? ref ts = some found → found.PartOf ts
  | [], h => nomatch h
  | t :: ts, h => by
    rw [findIn?] at h
    rw [partOf_cons]
    split at h
    case h_1 ht =>
      obtain rfl := Option.some.inj h
      exact (partOf_of_find? t ht).imp_right Or.inl
    case h_2 => exact Or.inr (Or.inr (partOf_of_findIn? ts h))

end

end Subtree

/-! ## 2. Entries -/

/-- An entry is made of a part of a tree. -/
structure QueueEntry.MadeOf (μ : Reading) (e : QueueEntry) (t : Subtree) : Prop where
  node : e.node = t.info
  children : e.children = t.children.map (·.info.ref)
  meaning : μ e.ref = some (.runnable e.what)

namespace Queue

variable {μ : Reading} {excluded : List NodeRef} {e : QueueEntry}

mutual

theorem mem_below : ∀ t : Subtree, e ∈ below μ excluded t →
    ∃ u : Subtree, (u = t ∨ u.PartOf t.children) ∧ e.MadeOf μ u
  | .node i cs, h => by
    rw [below] at h
    split at h
    · cases h
    · split at h
      · cases h
      · next what hmeaning =>
        obtain rfl := List.mem_singleton.mp h
        exact ⟨.node i cs, Or.inl rfl, rfl, rfl, hmeaning⟩
      · obtain ⟨u, hu, hmade⟩ := mem_belowAll cs h
        exact ⟨u, Or.inr hu, hmade⟩

/-- Every entry is made of a part of what the queue begins with. -/
theorem mem_belowAll : ∀ ts : List Subtree, e ∈ belowAll μ excluded ts →
    ∃ u : Subtree, u.PartOf ts ∧ e.MadeOf μ u
  | [], h => by cases h
  | t :: ts, h => by
    rw [belowAll, List.mem_append] at h
    rcases h with h | h
    · obtain ⟨u, hu, hmade⟩ := mem_below t h
      exact ⟨u, Subtree.partOf_cons.mpr (hu.imp_right Or.inl), hmade⟩
    · obtain ⟨u, hu, hmade⟩ := mem_belowAll ts h
      exact ⟨u, .later t hu, hmade⟩

end

end Queue

namespace Catalog

/-! ## 3. Parts of the catalog -/

/-- A part of the catalog is a package, a file, a suite or a test. -/
theorem partOf_trees {c : Catalog} {t : Subtree} (h : t.PartOf c.trees) :
    (∃ p ∈ c.packages, t = p.subtree) ∨ (∃ f ∈ c.files, t = f.subtree) ∨
      ∃ f ∈ c.files, ∃ s ∈ f.suites, t = s.subtree ∨ ∃ i ∈ s.tests, t = .leaf i := by
  obtain ⟨p, hp, rfl | h⟩ := Subtree.partOf_map.mp h
  · exact Or.inl ⟨p, hp, rfl⟩
  obtain ⟨f, hf, rfl | h⟩ := Subtree.partOf_map.mp h
  · exact Or.inr (Or.inl ⟨f, mem_files.mpr ⟨p, hp, hf⟩, rfl⟩)
  obtain ⟨s, hs, rfl | h⟩ := Subtree.partOf_map.mp h
  · exact Or.inr (Or.inr ⟨f, mem_files.mpr ⟨p, hp, hf⟩, s, hs, Or.inl rfl⟩)
  obtain ⟨i, hi, rfl | h⟩ := Subtree.partOf_map.mp h
  · exact Or.inr (Or.inr ⟨f, mem_files.mpr ⟨p, hp, hf⟩, s, hs, Or.inr ⟨i, hi, rfl⟩⟩)
  · cases h

/-- A suite of the tree with its tests, or one of its tests. -/
inductive Runs (c : Catalog) (e : QueueEntry) : Prop where
  | suite {f : FileNode} (hf : f ∈ c.files) {s : SuiteNode} (hs : s ∈ f.suites)
    (hnode : e.node = s.info) {suite : Suite} (hwhat : e.what = .suite suite)
    (hchildren : e.children = s.tests.map (·.ref))
  | test {f : FileNode} (hf : f ∈ c.files) {s : SuiteNode} (hs : s ∈ f.suites)
    (hnode : e.node ∈ s.tests) {d : Declaration} (hwhat : e.what = .test d)
    (hchildren : e.children = [])

theorem Sound.runs_of_part {c : Catalog} (h : c.Sound) {e : QueueEntry} {t : Subtree}
    (ht : t.PartOf c.trees) (hmade : e.MadeOf c.meaning? t) : c.Runs e := by
  have hmeaning : c.meaning? t.info.ref = some (.runnable e.what) := by
    rw [← hmade.meaning, QueueEntry.ref, hmade.node]
  rcases partOf_trees ht with ⟨p, hp, rfl⟩ | ⟨f, hf, rfl⟩ | ⟨f, hf, s, hs, rfl | ⟨i, hi, rfl⟩⟩
  · have hpackage := h.meaning_package hp
    rw [show p.subtree.info = p.info from rfl, hpackage] at hmeaning
    cases hmeaning
  · have hfile := h.meaning_file hf
    rw [show f.subtree.info = f.info from rfl, hfile] at hmeaning
    cases hmeaning
  · obtain ⟨suite, hsuite⟩ := h.meaning_suite hf hs
    rw [show s.subtree.info = s.info from rfl, hsuite] at hmeaning
    have hwhat := Meaning.runnable.inj (Option.some.inj hmeaning)
    refine .suite hf hs hmade.node hwhat.symm ?_
    rw [hmade.children]
    exact (List.map_map ..).trans rfl
  · obtain ⟨d, htest⟩ := h.meaning_test hf hs hi
    rw [show (Subtree.leaf i).info = i from rfl, htest] at hmeaning
    have hwhat := Meaning.runnable.inj (Option.some.inj hmeaning)
    have hnode : e.node = i := hmade.node
    exact .test hf hs (hnode ▸ hi) hwhat.symm hmade.children

/-- A part of what a request begins with that stands for something is in the tree. -/
theorem Sound.partOf_trees_of_selected {c : Catalog} (h : c.Sound) {r : RunRequest} {t : Subtree}
    (ht : t.PartOf (c.selectedTrees r)) (hmeaning : (c.meaning? t.info.ref).isSome) :
    t.PartOf c.trees := by
  unfold selectedTrees at ht
  cases hselected : r.selected with
  | none => rwa [hselected] at ht
  | some refs =>
    rw [hselected] at ht
    obtain ⟨u, hu, hut⟩ := Subtree.partOf_iff.mp ht
    obtain ⟨ref, -, hfound⟩ := List.mem_filterMap.mp hu
    -- a node that has left is found below nothing that is in the tree
    have hpart : ∀ {ts : List Subtree}, u.PartOf ts → t.PartOf ts := by
      intro ts hts
      rcases hut with rfl | hut
      · exact hts
      · exact hts.trans hut
    unfold subtree? at hfound
    split at hfound
    case h_1 hfind =>
      obtain rfl := Option.some.inj hfound
      exact hpart (Subtree.partOf_of_findIn? _ hfind)
    case h_2 =>
      have hgone := (hpart (Subtree.partOf_of_findIn? _ hfound)).ref_mem
      have hnone := (h.booked.apart.of_mem_refsOf hgone).2
      rw [meaning?, hnone] at hmeaning
      cases hmeaning

/-- Every entry of a queue is made of a part of the tree. -/
theorem Sound.part_of_queue {c : Catalog} (h : c.Sound) {r : RunRequest} {e : QueueEntry}
    (he : e ∈ c.queue r) : ∃ t : Subtree, t.PartOf c.trees ∧ e.MadeOf c.meaning? t := by
  obtain ⟨t, ht, hmade⟩ := Queue.mem_belowAll _ he
  have hmeaning : (c.meaning? t.info.ref).isSome := by
    rw [← hmade.node, ← QueueEntry.ref, hmade.meaning]
    rfl
  exact ⟨t, h.partOf_trees_of_selected ht hmeaning, hmade⟩

/-- **Every entry of a queue** is a suite or a test of the tree. -/
theorem Sound.mem_queue {c : Catalog} (h : c.Sound) {r : RunRequest} {e : QueueEntry}
    (he : e ∈ c.queue r) : c.Runs e := by
  obtain ⟨t, ht, hmade⟩ := h.part_of_queue he
  exact h.runs_of_part ht hmade

/-- No entry is among the nodes below it. -/
theorem Sound.ref_not_mem_children {c : Catalog} (h : c.Sound) {r : RunRequest} {e : QueueEntry}
    (he : e ∈ c.queue r) : e.ref ∉ e.children := by
  obtain ⟨t, ht, hmade⟩ := h.part_of_queue he
  have hnodup : t.refs.Nodup := by
    refine ht.refs_sublist.nodup ?_
    rw [c.refsOf_trees]
    exact h.booked.tracks.distinct
  cases t with
  | node i cs =>
    intro hmem
    rw [QueueEntry.ref, hmade.node, hmade.children] at hmem
    obtain ⟨u, hu, href⟩ := List.mem_map.mp hmem
    have hmem' : u.info.ref ∈ Subtree.refsOf cs := (Subtree.partOf_of_mem hu).ref_mem
    rw [href] at hmem'
    exact (List.nodup_cons.mp hnodup).1 hmem'

end Catalog
end SuiteExplorer
