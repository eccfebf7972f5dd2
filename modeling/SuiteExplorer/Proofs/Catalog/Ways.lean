/-
  SuiteExplorer/Proofs/Catalog/Ways.lean
  ======================================
  **A node is where its ids lead, and its ids tell where it is.**

  A node can be reached in two ways: by ids, from a package down, taking at each level
  the node that has the next id; and by its number, which is looked for in the whole
  tree.  `Subtree.Leads` describes a way down.  As long as no number occurs twice, the
  number of a node at the end of a way finds this node and the ids of the way
  (`Leads.lookup_eq`), and the ids find its number (`Leads.refIn?_eq`).  In a sound
  catalog every node is at the end of a way, so the two agree (`Sound.placed`).
-/
import SuiteExplorer.Proofs.Catalog.Soundness

namespace SuiteExplorer

open Keyed

/-! ## 1. Ways down -/

namespace Subtree

/-- Among some trees, this one is found by its id. -/
def Finds (ts : List Subtree) (t : Subtree) : Prop := ts.find? (·.info.id = t.info.id) = some t

/-- Among some trees, the nodes of the way lead down to a subtree: each is the one that
    its id finds among its siblings. -/
inductive Leads : List Subtree → List NodeInfo → Subtree → Prop
  | here {ts : List Subtree} {t : Subtree} (h : Finds ts t) : Leads ts [t.info] t
  | further {ts : List Subtree} {t : Subtree} {way : List NodeInfo} {u : Subtree}
      (h : Finds ts t) (hrest : Leads t.children way u) :
      Leads ts (t.info :: way) u

theorem Finds.mem {ts : List Subtree} {t : Subtree} (h : Finds ts t) : t ∈ ts :=
  List.mem_of_find?_eq_some h

theorem Leads.way_ne_nil {ts : List Subtree} {way : List NodeInfo} {u : Subtree}
    (h : Leads ts way u) : way ≠ [] := by
  cases h <;> exact List.cons_ne_nil _ _

/-- The ids of the way find the number of its end. -/
theorem Leads.refIn?_eq {ts : List Subtree} {way : List NodeInfo} {u : Subtree}
    (h : Leads ts way u) : Catalog.refIn? (way.map (·.id)) ts = some u.info.ref := by
  induction h with
  | here hfind => rw [List.map_singleton, Catalog.refIn?, hfind, Option.map_some]
  | further hfind hrest ih =>
    obtain ⟨i, rest, rfl⟩ := List.exists_cons_of_ne_nil hrest.way_ne_nil
    rw [List.map_cons, List.map_cons, Catalog.refIn?, hfind, Option.bind_some,
      ← List.map_cons, ih]
    exact List.cons_ne_nil _ _

/-! ### 1.1 Looking for a number -/

mutual

theorem idsTo?_of_not_mem {ref : NodeRef} : ∀ t : Subtree, ref ∉ t.refs → t.idsTo? ref = none
  | node i cs, h => by
    rw [refs_node, List.mem_cons, not_or] at h
    rw [idsTo?, if_neg (Ne.symm h.1), idsToIn?_of_not_mem cs h.2, Option.map_none]

theorem idsToIn?_of_not_mem {ref : NodeRef} :
    ∀ ts : List Subtree, ref ∉ refsOf ts → idsToIn? ref ts = none
  | [], _ => rfl
  | t :: ts, h => by
    rw [refsOf_cons, List.mem_append, not_or] at h
    rw [idsToIn?, idsTo?_of_not_mem t h.1, idsToIn?_of_not_mem ts h.2]

end

theorem findIn?_of_not_mem {ref : NodeRef} {ts : List Subtree} (h : ref ∉ refsOf ts) :
    findIn? ref ts = none := by
  rw [← Option.not_isSome_iff_eq_none, isSome_findIn?_iff]
  exact h

theorem find?_of_not_mem {ref : NodeRef} {t : Subtree} (h : ref ∉ t.refs) : t.find? ref = none := by
  rw [← Option.not_isSome_iff_eq_none, isSome_find?_iff]
  exact h

/-- Where no number occurs twice, a number is looked for in the one tree that has it. -/
theorem lookup_of_mem {ts : List Subtree} (hnd : (refsOf ts).Nodup) {t : Subtree} (ht : t ∈ ts)
    {ref : NodeRef} (href : ref ∈ t.refs) :
    findIn? ref ts = t.find? ref ∧ idsToIn? ref ts = t.idsTo? ref := by
  induction ts with
  | nil => exact absurd ht List.not_mem_nil
  | cons first rest ih =>
    rw [refsOf_cons, List.nodup_append] at hnd
    obtain ⟨-, hrest, hdisjoint⟩ := hnd
    rw [findIn?, idsToIn?]
    rcases List.mem_cons.mp ht with rfl | ht
    · have hnot : ref ∉ refsOf rest := fun hmem => hdisjoint ref href ref hmem rfl
      rw [findIn?_of_not_mem hnot, idsToIn?_of_not_mem rest hnot]
      constructor
      · cases t.find? ref <;> rfl
      · cases t.idsTo? ref <;> rfl
    · have hnot : ref ∉ first.refs := fun hmem =>
        hdisjoint ref hmem ref (mem_refsOf.mpr ⟨t, ht, href⟩) rfl
      rw [find?_of_not_mem hnot, idsTo?_of_not_mem first hnot]
      exact ih hrest ht

theorem refs_nodup_of_mem {ts : List Subtree} (hnd : (refsOf ts).Nodup) {t : Subtree}
    (ht : t ∈ ts) : t.refs.Nodup := by
  induction ts with
  | nil => exact absurd ht List.not_mem_nil
  | cons first rest ih =>
    rw [refsOf_cons, List.nodup_append] at hnd
    rcases List.mem_cons.mp ht with rfl | ht
    · exact hnd.1
    · exact ih hnd.2.1 ht

theorem Leads.mem_refsOf {ts : List Subtree} {way : List NodeInfo} {u : Subtree}
    (h : Leads ts way u) : u.info.ref ∈ refsOf ts := by
  induction h with
  | here hfind =>
    exact Subtree.mem_refsOf.mpr ⟨_, hfind.mem, ref_mem_refs _⟩
  | further hfind _ ih =>
    refine Subtree.mem_refsOf.mpr ⟨_, hfind.mem, ?_⟩
    rw [refs_eq]
    exact List.mem_cons_of_mem _ ih

/-- **The number at the end of a way** finds the end, and the ids of the way. -/
theorem Leads.lookup_eq {ts : List Subtree} {way : List NodeInfo} {u : Subtree}
    (h : Leads ts way u) (hnd : (refsOf ts).Nodup) :
    findIn? u.info.ref ts = some u ∧ idsToIn? u.info.ref ts = some (way.map (·.id)) := by
  induction h with
  | @here ts t hfind =>
    have ht := hfind.mem
    obtain ⟨hfound, hids⟩ := lookup_of_mem hnd ht t.ref_mem_refs
    rw [hfound, hids]
    obtain ⟨i, cs⟩ := t
    exact ⟨if_pos rfl, if_pos rfl⟩
  | @further ts t way u hfind hrest ih =>
    have ht := hfind.mem
    have htree := refs_nodup_of_mem hnd ht
    rw [refs_eq, List.nodup_cons] at htree
    have hmem := hrest.mem_refsOf
    obtain ⟨hfound, hids⟩ := lookup_of_mem hnd ht (by
      rw [refs_eq]
      exact List.mem_cons_of_mem _ hmem)
    obtain ⟨hfound', hids'⟩ := ih htree.2
    rw [hfound, hids]
    -- the node on the way is not the one that is looked for
    have hne : t.info.ref ≠ u.info.ref := fun heq => htree.1 (heq ▸ hmem)
    obtain ⟨i, cs⟩ := t
    constructor
    · exact (if_neg hne).trans hfound'
    · exact (if_neg hne).trans (congrArg (Option.map (i.id :: ·)) hids')

end Subtree

/-! ## 2. Nodes of a sound catalog -/

namespace Catalog

/-- The ids lead to the node, and from its number one finds them again.  This stands for
    both directions of the tree's links: the first for the key under which each node on the
    way holds the next one, the second for the link of each node to the one that holds it. -/
structure Placed (c : Catalog) (ids : List String) (i : NodeInfo) : Prop where
  byIds : c.refAt? ids = some i.ref
  back : c.whereIs i.ref = ids

/-- A node of the tree was never replaced. -/
theorem Sound.formerSuite?_eq_none {c : Catalog} (h : c.Sound) {ref : NodeRef}
    (href : ref ∈ c.refs) : c.formerSuite? ref = none := by
  unfold formerSuite?
  cases hfind : c.books.departed.find? fun d => d.tree.info.ref = ref with
  | none => rfl
  | some d =>
    have hd : d.tree.info.ref = ref := by simpa using List.find?_some hfind
    have hmem : ref ∈ d.tree.refs := by
      rw [Subtree.refs_eq, hd]
      exact List.mem_cons_self
    have hgone := (h.booked.apart d (List.mem_of_find?_eq_some hfind) ref hmem).2
    have hknown := (h.booked.tracks.known ref).mpr href
    rw [hgone] at hknown
    cases hknown

/-- **A way down the tree** places its end, and what it holds is found by its number. -/
theorem Sound.placed {c : Catalog} (h : c.Sound) {way : List NodeInfo} {u : Subtree}
    (hway : Subtree.Leads c.trees way u) :
    c.Placed (way.map (·.id)) u.info ∧ c.childrenOf u.info.ref = u.children := by
  have hnd : (Subtree.refsOf c.trees).Nodup := c.refsOf_trees ▸ h.booked.tracks.distinct
  obtain ⟨hfound, hids⟩ := hway.lookup_eq hnd
  have hmem : u.info.ref ∈ c.refs := c.refsOf_trees ▸ hway.mem_refsOf
  refine ⟨⟨hway.refIn?_eq, ?_⟩, ?_⟩
  · rw [whereIs, h.formerSuite?_eq_none hmem, idsWithin, hids]
  · rw [childrenOf, subtree?, hfound, Option.map_some, Option.getD_some]

/-- Among siblings with distinct ids, each is found by its id. -/
theorem finds_of_mem {α : Type} (tree : α → Subtree) {l : List α}
    (hnd : (l.map fun x => (tree x).info.id).Nodup) {x : α} (hx : x ∈ l) :
    Subtree.Finds (l.map tree) (tree x) := by
  have hkeys : ((l.map tree).map fun t => t.info.id).Nodup := by rwa [List.map_map]
  exact @find?_of_mem _ (fun t : Subtree => t.info.id) _ _ hkeys _ (List.mem_map_of_mem hx) rfl

section Places

variable {c : Catalog} (h : c.Sound) {p : PackageNode} (hp : p ∈ c.packages)

include h hp

theorem Sound.finds_package : Subtree.Finds c.trees p.subtree :=
  finds_of_mem PackageNode.subtree (nodup_ids h.distinct) hp

theorem Sound.leads_package : Subtree.Leads c.trees [p.info] p.subtree := .here (h.finds_package hp)

variable {f : FileNode} (hf : f ∈ p.files)

include hf

theorem Sound.finds_file : Subtree.Finds p.subtree.children f.subtree :=
  finds_of_mem FileNode.subtree (PackageNode.nodup_ids (distinct_package h.distinct hp)) hf

theorem Sound.leads_file : Subtree.Leads c.trees [p.info, f.info] f.subtree :=
  .further (h.finds_package hp) (.here (h.finds_file hp hf))

variable {s : SuiteNode} (hs : s ∈ f.suites)

include hs

theorem Sound.finds_suite : Subtree.Finds f.subtree.children s.subtree := by
  have hfile := PackageNode.distinct_file (distinct_package h.distinct hp) hf
  exact finds_of_mem SuiteNode.subtree (FileNode.nodup_ids hfile) hs

theorem Sound.leads_suite : Subtree.Leads c.trees [p.info, f.info, s.info] s.subtree :=
  .further (h.finds_package hp) (.further (h.finds_file hp hf) (.here (h.finds_suite hp hf hs)))

theorem Sound.leads_test {t : NodeInfo} (ht : t ∈ s.tests) :
    Subtree.Leads c.trees [p.info, f.info, s.info, t] (.leaf t) := by
  have hfile := PackageNode.distinct_file (distinct_package h.distinct hp) hf
  have hsuite := SuiteNode.nodup_ids (FileNode.distinct_suite hfile hs)
  have htest : Subtree.Finds s.subtree.children (.leaf t) := finds_of_mem Subtree.leaf hsuite ht
  exact .further (h.finds_package hp)
    (.further (h.finds_file hp hf) (.further (h.finds_suite hp hf hs) (.here htest)))

end Places

end Catalog
end SuiteExplorer
