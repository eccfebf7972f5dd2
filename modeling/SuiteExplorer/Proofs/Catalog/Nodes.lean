/-
  SuiteExplorer/Proofs/Catalog/Nodes.lean
  =======================================
  **The nodes of a catalog and their states.**

  The list of all nodes, taken level by level: what of it changes when every node is
  changed in the same way, which of the nodes are files, and that a node that comes
  into being when a file is entered has no state.
-/
import SuiteExplorer.Proofs.Catalog.Soundness

namespace SuiteExplorer

/-! ## 1. Level by level -/

def SuiteNode.infos (s : SuiteNode) : List NodeInfo := s.info :: s.tests

def FileNode.infos (f : FileNode) : List NodeInfo := f.info :: f.suites.flatMap (·.infos)

def PackageNode.infos (p : PackageNode) : List NodeInfo := p.info :: p.files.flatMap (·.infos)

theorem Subtree.infosOf_map {α : Type} {g : α → Subtree} {h : α → List NodeInfo}
    (hg : ∀ x, (g x).infos = h x) (l : List α) : infosOf (l.map g) = l.flatMap h := by
  induction l with
  | nil => rfl
  | cons x l ih => rw [List.map_cons, infosOf_cons, List.flatMap_cons, ih, hg]

theorem SuiteNode.infos_subtree (s : SuiteNode) : s.subtree.infos = s.infos := by
  have htests : Subtree.infosOf (s.tests.map .leaf) = s.tests.flatMap fun i => [i] :=
    Subtree.infosOf_map (fun i => rfl) s.tests
  rw [SuiteNode.subtree, Subtree.infos, htests, List.flatMap_singleton']
  rfl

theorem FileNode.infos_subtree (f : FileNode) : f.subtree.infos = f.infos := by
  rw [FileNode.subtree, Subtree.infos, Subtree.infosOf_map SuiteNode.infos_subtree]
  rfl

theorem PackageNode.infos_subtree (p : PackageNode) : p.subtree.infos = p.infos := by
  rw [PackageNode.subtree, Subtree.infos, Subtree.infosOf_map FileNode.infos_subtree]
  rfl

namespace Catalog

theorem infos_eq (c : Catalog) : c.infos = c.packages.flatMap (·.infos) :=
  Subtree.infosOf_map PackageNode.infos_subtree c.packages

theorem mem_infos {c : Catalog} {i : NodeInfo} :
    i ∈ c.infos ↔ (∃ p ∈ c.packages, i = p.info) ∨ ∃ f ∈ c.files, i = f.info ∨
      ∃ s ∈ f.suites, i = s.info ∨ i ∈ s.tests := by
  simp only [infos_eq, PackageNode.infos, FileNode.infos, SuiteNode.infos, List.mem_flatMap,
    List.mem_cons, mem_files]
  constructor
  · rintro ⟨p, hp, rfl | ⟨f, hf, hi⟩⟩
    · exact Or.inl ⟨p, hp, rfl⟩
    · exact Or.inr ⟨f, ⟨p, hp, hf⟩, hi⟩
  · rintro (⟨p, hp, rfl⟩ | ⟨f, ⟨p, hp, hf⟩, hi⟩)
    · exact ⟨p, hp, Or.inl rfl⟩
    · exact ⟨p, hp, Or.inr ⟨f, hf, hi⟩⟩

/-- Changing every node changes the list of nodes, one by one. -/
theorem infos_mapInfo (c : Catalog) (f : NodeInfo → NodeInfo) :
    (c.mapInfo f).infos = c.infos.map f := by
  have hsuite : ∀ s : SuiteNode, (s.mapInfo f).infos = s.infos.map f := fun s => rfl
  have hfile : ∀ g : FileNode, (g.mapInfo f).infos = g.infos.map f := fun g => by
    simp only [FileNode.infos, FileNode.mapInfo, List.flatMap_map, hsuite, List.map_cons,
      List.map_flatMap]
  have hpackage : ∀ p : PackageNode, (p.mapInfo f).infos = p.infos.map f := fun p => by
    simp only [PackageNode.infos, PackageNode.mapInfo, List.flatMap_map, hfile, List.map_cons,
      List.map_flatMap]
  simp only [infos_eq, mapInfo, List.flatMap_map, hpackage, List.map_flatMap]

/-- **The files are the nodes that stand for files.** -/
theorem Sound.mem_files_iff {c : Catalog} (h : c.Sound) (ref : NodeRef) :
    ref ∈ c.files.map (·.info.ref) ↔ c.meaning? ref = some .file := by
  constructor
  · intro hmem
    obtain ⟨f, hf, rfl⟩ := List.mem_map.mp hmem
    exact h.meaning_file hf
  · intro hmeaning
    have hknown : ref ∈ c.infos.map (·.ref) := by
      rw [c.map_ref_infos, ← h.booked.tracks.known]
      exact Option.isSome_iff_exists.mpr ⟨_, hmeaning⟩
    obtain ⟨i, hi, rfl⟩ := List.mem_map.mp hknown
    rcases mem_infos.mp hi with ⟨p, hp, rfl⟩ | ⟨f, hf, rfl | ⟨s, hs, rfl | ht⟩⟩
    · rw [h.meaning_package hp] at hmeaning
      cases hmeaning
    · exact List.mem_map_of_mem hf
    · obtain ⟨suite, hsuite⟩ := h.meaning_suite hf hs
      rw [hsuite] at hmeaning
      cases hmeaning
    · obtain ⟨d, htest⟩ := h.meaning_test hf hs ht
      rw [htest] at hmeaning
      cases hmeaning

end Catalog

/-! ## 2. New nodes -/

/-- Of the nodes of the second list there may be some in the first, and new ones. -/
def Renews (after before : List NodeInfo) : Prop := ∀ i ∈ after, i ∈ before ∨ i.state = none

theorem Renews.refl (l : List NodeInfo) : Renews l l := fun _ hi => Or.inl hi

theorem Renews.trans {l l' l'' : List NodeInfo} (h : Renews l' l) (h' : Renews l'' l') :
    Renews l'' l := fun i hi => (h' i hi).elim (h i) Or.inr

/-- A node stays, and what is below it is renewed. -/
theorem Renews.cons {l l' : List NodeInfo} (h : Renews l' l) (i : NodeInfo) :
    Renews (i :: l') (i :: l) := by
  intro j hj
  rcases List.mem_cons.mp hj with rfl | hj
  · exact Or.inl List.mem_cons_self
  · exact (h j hj).imp_left (List.mem_cons_of_mem i)

section Level

variable {α : Type} {infos : α → List NodeInfo} {l : List α}

theorem renews_replace {test : α → Prop} [DecidablePred test] {old new : α} (hold : old ∈ l)
    (h : Renews (infos new) (infos old)) :
    Renews ((l.map fun x => if test x then new else x).flatMap infos) (l.flatMap infos) := by
  intro i hi
  obtain ⟨y, hy, hi⟩ := List.mem_flatMap.mp hi
  obtain ⟨x, hx, rfl⟩ := List.mem_map.mp hy
  split at hi
  · exact (h i hi).imp_left fun hmem => List.mem_flatMap.mpr ⟨old, hold, hmem⟩
  · exact Or.inl (List.mem_flatMap.mpr ⟨x, hx, hi⟩)

theorem renews_append {new : α} (h : Renews (infos new) []) :
    Renews ((l ++ [new]).flatMap infos) (l.flatMap infos) := by
  intro i hi
  rw [List.flatMap_append, List.flatMap_singleton, List.mem_append] at hi
  exact hi.imp_right fun hnew => (h i hnew).resolve_left List.not_mem_nil

end Level

/-- A node without a state of its own comes with what is new below it. -/
theorem Renews.fresh {l : List NodeInfo} {i : NodeInfo} (h : Renews l [i]) (hi : i.state = none) :
    Renews l [] := by
  intro j hj
  rcases h j hj with hmem | hnone
  · exact Or.inr (List.mem_singleton.mp hmem ▸ hi)
  · exact Or.inr hnone

theorem SuiteNode.renews_enter (s : SuiteNode) (b : Books) (path : Path) (d : Declaration) :
    Renews (s.enter b path d).1.infos s.infos := by
  unfold SuiteNode.enter
  dsimp only
  split
  · apply Renews.cons
    intro i hi
    rcases List.mem_append.mp hi with hi | hi
    · exact Or.inl hi
    · exact Or.inr (List.mem_singleton.mp hi ▸ rfl)
  · apply Renews.cons
    intro i hi
    obtain ⟨t, ht, rfl⟩ := List.mem_map.mp hi
    split
    · exact Or.inr rfl
    · exact Or.inl ht

theorem FileNode.renews_enter (f : FileNode) (b : Books) (path : Path) (d : Declaration) :
    Renews (f.enter b path d).1.infos f.infos := by
  unfold FileNode.enter
  dsimp only
  split
  case h_1 s hfind =>
    exact (renews_replace (List.mem_of_find?_eq_some hfind) (s.renews_enter b path d)).cons _
  case h_2 => exact (renews_append ((SuiteNode.renews_enter _ _ path d).fresh rfl)).cons _

theorem FileNode.renews_enterAll (path : Path) (ds : List Declaration) (f : FileNode) (b : Books) :
    Renews (f.enterAll b path ds).1.infos f.infos := by
  induction ds generalizing f b with
  | nil => exact .refl _
  | cons d ds ih => exact (f.renews_enter b path d).trans (ih _ _)

theorem PackageNode.renews_enter (p : PackageNode) (b : Books) (path : Path)
    (ds : List Declaration) : Renews (p.enter b path ds).1.infos p.infos := by
  unfold PackageNode.enter
  dsimp only
  split
  case h_1 f hfind =>
    exact (renews_replace (List.mem_of_find?_eq_some hfind) (f.renews_enterAll path ds b)).cons _
  case h_2 => exact (renews_append ((FileNode.renews_enterAll path ds _ _).fresh rfl)).cons _

/-- **What comes with a file has no state.** -/
theorem Catalog.renews_enterFile (c : Catalog) (path : Path) (package : String)
    (ds : List Declaration) : Renews (c.enterFile path package ds).infos c.infos := by
  rw [infos_eq, infos_eq]
  unfold Catalog.enterFile
  dsimp only
  split
  case h_1 p hfind =>
    exact renews_replace (List.mem_of_find?_eq_some hfind) (p.renews_enter c.books path ds)
  case h_2 => exact renews_append ((PackageNode.renews_enter _ _ path ds).fresh rfl)

end SuiteExplorer
