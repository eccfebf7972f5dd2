/-
  SuiteExplorer/Proofs/Catalog/Thinning.lean
  ==========================================
  **Taking nodes out of the tree takes exactly these nodes out of the books.**

  Emptying a node, pruning what holds no tests, removing a file and clearing all
  have one effect in common: some nodes leave, and the others keep their places,
  what they show and what they stand for.  `Catalog.Loses c c'` is that effect.  It
  is proved for each of these operations, also for a node that is emptied after it
  has left the catalog, and then everything that survives the loss of nodes is
  proved once: the distinct ids of siblings, and what the nodes of each level stand
  for.
-/
import Mathlib.Data.List.Forall2
import Mathlib.Data.List.Perm.Subperm
import SuiteExplorer.Catalog.Upkeep
import SuiteExplorer.Proofs.Catalog.Outline

namespace SuiteExplorer

open scoped List

/-! ## 1. Finding and emptying a node of a tree -/

namespace Subtree

mutual

theorem isSome_find?_iff {ref : NodeRef} : ∀ t : Subtree, (t.find? ref).isSome ↔ ref ∈ t.refs
  | node i cs => by
    rw [find?, refs_node, List.mem_cons]
    by_cases h : i.ref = ref
    · rw [if_pos h]
      exact ⟨fun _ => Or.inl h.symm, fun _ => rfl⟩
    · rw [if_neg h, isSome_findIn?_iff cs]
      exact ⟨Or.inr, fun ho => ho.resolve_left (Ne.symm h)⟩

/-- A node is found exactly where it is. -/
theorem isSome_findIn?_iff {ref : NodeRef} :
    ∀ ts : List Subtree, (findIn? ref ts).isSome ↔ ref ∈ refsOf ts
  | [] => by rw [findIn?, refsOf_nil]; simp
  | t :: ts => by
    rw [findIn?, refsOf_cons, List.mem_append, ← isSome_find?_iff t, ← isSome_findIn?_iff ts]
    cases t.find? ref with
    | none => simp
    | some found => simp

end

theorem mem_refs_of_find? {ref : NodeRef} {found t : Subtree} (h : t.find? ref = some found) :
    ref ∈ t.refs :=
  (isSome_find?_iff t).mp (h ▸ rfl)

theorem mem_refsOf_of_findIn? {ref : NodeRef} {found : Subtree} {ts : List Subtree}
    (h : findIn? ref ts = some found) : ref ∈ refsOf ts :=
  (isSome_findIn?_iff ts).mp (h ▸ rfl)

mutual

theorem info_of_find? {ref : NodeRef} {found : Subtree} :
    ∀ t : Subtree, t.find? ref = some found → found.info ∈ t.infos ∧ found.info.ref = ref
  | node i cs, h => by
    rw [find?] at h
    split at h
    case isTrue hi =>
      obtain rfl := Option.some.inj h
      exact ⟨List.mem_cons_self, hi⟩
    case isFalse =>
      obtain ⟨hmem, href⟩ := info_of_findIn? cs h
      exact ⟨List.mem_cons_of_mem _ hmem, href⟩

/-- What is found is of the trees, and has the number. -/
theorem info_of_findIn? {ref : NodeRef} {found : Subtree} :
    ∀ ts : List Subtree, findIn? ref ts = some found →
      found.info ∈ infosOf ts ∧ found.info.ref = ref
  | [], h => nomatch h
  | t :: ts, h => by
    rw [infosOf_cons]
    rw [findIn?] at h
    split at h
    case h_1 ht =>
      obtain rfl := Option.some.inj h
      obtain ⟨hmem, href⟩ := info_of_find? t ht
      exact ⟨List.mem_append_left _ hmem, href⟩
    case h_2 =>
      obtain ⟨hmem, href⟩ := info_of_findIn? ts h
      exact ⟨List.mem_append_right _ hmem, href⟩

end

mutual

theorem emptied_of_not_mem {ref : NodeRef} : ∀ t : Subtree, ref ∉ t.refs → t.emptied ref = t
  | node i cs, h => by
    rw [refs_node, List.mem_cons, not_or] at h
    rw [emptied, if_neg (Ne.symm h.1), emptiedIn_of_not_mem cs h.2]

theorem emptiedIn_of_not_mem {ref : NodeRef} :
    ∀ ts : List Subtree, ref ∉ refsOf ts → emptiedIn ref ts = ts
  | [], _ => rfl
  | t :: ts, h => by
    rw [refsOf_cons, List.mem_append, not_or] at h
    rw [emptiedIn, emptied_of_not_mem t h.1, emptiedIn_of_not_mem ts h.2]

end

mutual

/-- Emptying a node brings no number in. -/
theorem refs_emptied_subset (ref : NodeRef) : ∀ t : Subtree, (t.emptied ref).refs ⊆ t.refs
  | node i cs => by
    rw [emptied, refs_node]
    split
    · rw [refs_node, refsOf_nil]
      exact List.cons_subset_cons _ (List.nil_subset _)
    · rw [refs_node]
      exact List.cons_subset_cons _ (refsOf_emptiedIn_subset ref cs)

theorem refsOf_emptiedIn_subset (ref : NodeRef) :
    ∀ ts : List Subtree, refsOf (emptiedIn ref ts) ⊆ refsOf ts
  | [] => List.Subset.refl _
  | t :: ts => by
    rw [emptiedIn, refsOf_cons, refsOf_cons]
    exact List.append_subset.mpr
      ⟨fun r hr => List.mem_append_left _ (refs_emptied_subset ref t hr),
        fun r hr => List.mem_append_right _ (refsOf_emptiedIn_subset ref ts hr)⟩

end

mutual

/-- What a node of a tree holds is of the tree. -/
theorem refsOf_children_subset_of_find? {ref : NodeRef} {found : Subtree} :
    ∀ t : Subtree, t.find? ref = some found → refsOf found.children ⊆ t.refs
  | node i cs, h => by
    rw [find?] at h
    split at h
    · obtain rfl := Option.some.inj h
      exact List.subset_cons_self _ _
    · exact fun r hr => List.mem_cons_of_mem _ (refsOf_children_subset_of_findIn? cs h hr)

theorem refsOf_children_subset_of_findIn? {ref : NodeRef} {found : Subtree} :
    ∀ ts : List Subtree, findIn? ref ts = some found → refsOf found.children ⊆ refsOf ts
  | [], h => by cases h
  | t :: ts, h => by
    rw [refsOf_cons]
    rw [findIn?] at h
    split at h
    case h_1 ht =>
      obtain rfl := Option.some.inj h
      exact fun r hr => List.mem_append_left _ (refsOf_children_subset_of_find? t ht hr)
    case h_2 =>
      exact fun r hr => List.mem_append_right _ (refsOf_children_subset_of_findIn? ts h hr)

end

mutual

/-- **Emptying a node takes out what the node holds, and nothing else.** -/
theorem refs_perm_emptied {ref : NodeRef} {found : Subtree} :
    ∀ t : Subtree, t.refs.Nodup → t.find? ref = some found →
      t.refs.Perm (refsOf found.children ++ (t.emptied ref).refs)
  | node i cs, hnd, h => by
    rw [refs_node] at hnd ⊢
    rw [find?] at h
    rw [emptied]
    by_cases hi : i.ref = ref
    · rw [if_pos hi] at h ⊢
      obtain rfl := Option.some.inj h
      rw [refs_node, refsOf_nil]
      exact (List.perm_append_singleton _ _).symm
    · rw [if_neg hi] at h ⊢
      rw [refs_node]
      exact ((refsOf_perm_emptiedIn cs (List.nodup_cons.mp hnd).2 h).cons i.ref).trans
        List.perm_middle.symm

theorem refsOf_perm_emptiedIn {ref : NodeRef} {found : Subtree} :
    ∀ ts : List Subtree, (refsOf ts).Nodup → findIn? ref ts = some found →
      (refsOf ts).Perm (refsOf found.children ++ refsOf (emptiedIn ref ts))
  | [], _, h => by cases h
  | t :: ts, hnd, h => by
    rw [refsOf_cons, List.nodup_append] at hnd
    obtain ⟨hndt, hndts, hdisj⟩ := hnd
    rw [findIn?] at h
    rw [refsOf_cons, emptiedIn, refsOf_cons]
    split at h
    case h_1 ht =>
      -- the node is in the first tree, so not in the others
      obtain rfl := Option.some.inj h
      have hnot : ref ∉ refsOf ts := fun hr => hdisj ref (mem_refs_of_find? ht) ref hr rfl
      rw [emptiedIn_of_not_mem ts hnot, ← List.append_assoc]
      exact (refs_perm_emptied t hndt ht).append_right _
    case h_2 =>
      have hnot : ref ∉ t.refs := fun hr => hdisj ref hr ref (mem_refsOf_of_findIn? h) rfl
      rw [emptied_of_not_mem t hnot]
      exact ((refsOf_perm_emptiedIn ts hndts h).append_left _).trans
        (List.perm_append_comm_assoc ..)

end

theorem emptiedIn_eq_map (ref : NodeRef) (ts : List Subtree) :
    emptiedIn ref ts = ts.map (emptied ref) := by
  induction ts with
  | nil => rfl
  | cons t ts ih => rw [emptiedIn, List.map_cons, ih]

theorem emptiedIn_map {α : Type} {g : α → Subtree} {e : α → α} {ref : NodeRef}
    (h : ∀ x, (g x).emptied ref = g (e x)) (l : List α) :
    emptiedIn ref (l.map g) = (l.map e).map g := by
  rw [emptiedIn_eq_map, List.map_map, List.map_map]
  exact List.map_congr_left fun x _ => h x

end Subtree

namespace Catalog

/-! Emptying one node level by level is emptying it in the tree. -/

theorem emptied_leaf (ref : NodeRef) (i : NodeInfo) :
    (Subtree.leaf i).emptied ref = Subtree.leaf i := by
  rw [Subtree.leaf, Subtree.emptied, Subtree.emptiedIn, ite_self]

theorem emptied_suite (ref : NodeRef) (s : SuiteNode) :
    s.subtree.emptied ref = (emptySuite ref s).subtree := by
  rw [SuiteNode.subtree, Subtree.emptied, emptySuite]
  split
  · rfl
  · have h : Subtree.emptiedIn ref (s.tests.map .leaf) = (s.tests.map id).map .leaf :=
      Subtree.emptiedIn_map (emptied_leaf ref) s.tests
    rw [h, List.map_id]
    rfl

theorem emptied_file (ref : NodeRef) (f : FileNode) :
    f.subtree.emptied ref = (emptyFile ref f).subtree := by
  rw [FileNode.subtree, Subtree.emptied, emptyFile, Subtree.emptiedIn_map (emptied_suite ref)]
  split <;> rfl

theorem emptied_package (ref : NodeRef) (p : PackageNode) :
    p.subtree.emptied ref = (emptyPackage ref p).subtree := by
  rw [PackageNode.subtree, Subtree.emptied, emptyPackage, Subtree.emptiedIn_map (emptied_file ref)]
  split <;> rfl

theorem emptied_trees (c : Catalog) (ref : NodeRef) :
    Subtree.emptiedIn ref c.trees = (c.packages.map (emptyPackage ref)).map (·.subtree) :=
  Subtree.emptiedIn_map (emptied_package ref) c.packages

end Catalog

/-! ## 2. Thinner outlines -/

def SuiteOutline.Thins (s' s : SuiteOutline) : Prop :=
  s'.head = s.head ∧ s'.tests.Sublist s.tests

def FileOutline.Thins (f' f : FileOutline) : Prop :=
  f'.head = f.head ∧ List.SublistForall₂ SuiteOutline.Thins f'.suites f.suites

def PackageOutline.Thins (p' p : PackageOutline) : Prop :=
  p'.head = p.head ∧ List.SublistForall₂ FileOutline.Thins p'.files p.files

/-- Nodes of the second outline are missing in the first, each with all it holds; the
    others are in their places. -/
def Thins (ps' ps : List PackageOutline) : Prop :=
  List.SublistForall₂ PackageOutline.Thins ps' ps

section Lists

variable {α β γ : Type} {R : β → β → Prop}

/-- Elements that are kept, each changed within `R`. -/
theorem sublistForall₂_filter_map {keep : α → Bool} {g h : α → β} {l : List α}
    (hR : ∀ x ∈ l, R (g x) (h x)) :
    List.SublistForall₂ R ((l.filter keep).map g) (l.map h) := by
  induction l with
  | nil => exact .nil
  | cons x l ih =>
    have hrest := ih fun y hy => hR y (List.mem_cons_of_mem _ hy)
    rw [List.filter_cons, List.map_cons]
    split
    · exact .cons (hR x List.mem_cons_self) hrest
    · exact .cons_right hrest

theorem sublistForall₂_map {g h : α → β} {l : List α} (hR : ∀ x ∈ l, R (g x) (h x)) :
    List.SublistForall₂ R (l.map g) (l.map h) := by
  have hall : l.filter (fun _ => true) = l := List.filter_eq_self.mpr fun _ _ => rfl
  have hmap : List.SublistForall₂ R ((l.filter fun _ => true).map g) (l.map h) :=
    sublistForall₂_filter_map hR
  rwa [hall] at hmap

theorem sublistForall₂_refl (hR : ∀ x, R x x) (l : List β) : List.SublistForall₂ R l l := by
  induction l with
  | nil => exact .nil
  | cons x l ih => exact .cons (hR x) ih

/-- What a key says of the larger list it says of the thinner one. -/
theorem sublist_map_of_sublistForall₂ {key : β → γ} (hkey : ∀ {x y}, R x y → key x = key y)
    {l' l : List β} (h : List.SublistForall₂ R l' l) : (l'.map key).Sublist (l.map key) := by
  induction h with
  | nil => exact List.nil_sublist _
  | cons hR _ ih => rw [List.map_cons, List.map_cons, hkey hR]; exact ih.cons_cons _
  | cons_right _ ih => exact ih.cons _

theorem exists_of_mem_sublistForall₂ {l' l : List β} (h : List.SublistForall₂ R l' l) :
    ∀ x ∈ l', ∃ y ∈ l, R x y := by
  induction h with
  | nil => intro x hx; cases hx
  | cons hR _ ih =>
    intro x hx
    rcases List.mem_cons.mp hx with rfl | hx
    · exact ⟨_, List.mem_cons_self, hR⟩
    · obtain ⟨y, hy, hxy⟩ := ih x hx
      exact ⟨y, List.mem_cons_of_mem _ hy, hxy⟩
  | cons_right _ ih =>
    intro x hx
    obtain ⟨y, hy, hxy⟩ := ih x hx
    exact ⟨y, List.mem_cons_of_mem _ hy, hxy⟩

end Lists

theorem SuiteOutline.Thins.refl (s : SuiteOutline) : s.Thins s := ⟨rfl, List.Sublist.refl _⟩

theorem FileOutline.Thins.refl (f : FileOutline) : f.Thins f :=
  ⟨rfl, sublistForall₂_refl SuiteOutline.Thins.refl _⟩

theorem PackageOutline.Thins.refl (p : PackageOutline) : p.Thins p :=
  ⟨rfl, sublistForall₂_refl FileOutline.Thins.refl _⟩

theorem SuiteOutline.Thins.distinct {s' s : SuiteOutline} (h : s'.Thins s) (hs : s.Distinct) :
    s'.Distinct :=
  (h.2.map _).nodup hs

theorem FileOutline.Thins.distinct {f' f : FileOutline} (h : f'.Thins f) (hf : f.Distinct) :
    f'.Distinct := by
  refine ⟨(sublist_map_of_sublistForall₂ (fun hs => ?_) h.2).nodup hf.1, fun s' hs' => ?_⟩
  · exact congrArg NodeOutline.id hs.1
  · obtain ⟨s, hs, hthins⟩ := exists_of_mem_sublistForall₂ h.2 s' hs'
    exact hthins.distinct (hf.2 s hs)

theorem PackageOutline.Thins.distinct {p' p : PackageOutline} (h : p'.Thins p)
    (hp : p.Distinct) : p'.Distinct := by
  refine ⟨(sublist_map_of_sublistForall₂ (fun hf => ?_) h.2).nodup hp.1, fun f' hf' => ?_⟩
  · exact congrArg NodeOutline.id hf.1
  · obtain ⟨f, hf, hthins⟩ := exists_of_mem_sublistForall₂ h.2 f' hf'
    exact hthins.distinct (hp.2 f hf)

/-- Ids that are distinct stay so when nodes are taken out. -/
theorem Thins.distinctIds {ps' ps : List PackageOutline} (h : Thins ps' ps)
    (hps : DistinctIds ps) : DistinctIds ps' := by
  refine ⟨(sublist_map_of_sublistForall₂ (fun hp => ?_) h).nodup hps.1, fun p' hp' => ?_⟩
  · exact congrArg NodeOutline.id hp.1
  · obtain ⟨p, hp, hthins⟩ := exists_of_mem_sublistForall₂ h p' hp'
    exact hthins.distinct (hps.2 p hp)

/-! ## 3. Losing nodes -/

namespace Books

variable {b b' : Books} {live : List NodeRef}

/-- What the books know does not depend on the trees that have left. -/
theorem Tracks.of_index (h : b.Tracks live) (hindex : b'.index = b.index)
    (hnext : b'.nextRef = b.nextRef) : b'.Tracks live := by
  have hmeaning : ∀ r, b'.meaning? r = b.meaning? r := fun r => by
    rw [meaning?, meaning?, hindex]
  exact ⟨h.distinct, fun r => by rw [hmeaning, h.known], fun r hr => hnext ▸ h.bounded r hr⟩

/-- The books with a node emptied in the trees that have left. -/
def emptied (b : Books) (ref : NodeRef) : Books :=
  { b with departed := b.departed.map fun d => { d with tree := d.tree.emptied ref } }

theorem Apart.emptied (h : b.Apart) (ref : NodeRef) : (b.emptied ref).Apart := by
  intro d' hd' r hr
  obtain ⟨d, hd, rfl⟩ := List.mem_map.mp hd'
  exact h d hd r (Subtree.refs_emptied_subset ref d.tree hr)

theorem Apart.of_mem_refsOf (h : b.Apart) {r : NodeRef}
    (hr : r ∈ Subtree.refsOf (b.departed.map (·.tree))) : r < b.nextRef ∧ b.meaning? r = none := by
  obtain ⟨t, ht, hrt⟩ := Subtree.mem_refsOf.mp hr
  obtain ⟨d, hd, rfl⟩ := List.mem_map.mp ht
  exact h d hd r hrt

end Books

namespace Catalog

/-- The books of the catalog know the nodes of its tree, and no others. -/
structure Booked (c : Catalog) : Prop where
  tracks : c.books.Tracks c.refs
  apart : c.books.Apart

/-- Nodes leave the catalog; the others stay as they are. -/
structure Loses (c c' : Catalog) : Prop where
  settings : c'.settings = c.settings
  booked : c.Booked → c'.Booked
  reads : ∀ r, c'.meaning? r = none ∨ c'.meaning? r = c.meaning? r
  thins : ∀ μ, Thins (c'.packages.map (·.outline μ)) (c.packages.map (·.outline μ))

/-- **A node that stays stands for what it stood for.** -/
theorem Loses.outline {c c' : Catalog} (h : c.Loses c') (hb : c.Booked) :
    c'.outline = c'.packages.map (·.outline c.meaning?) := by
  refine PackageNode.shape.list.congr fun r hr => ?_
  have hknown : (c'.meaning? r).isSome := ((h.booked hb).tracks.known r).mpr hr
  refine (h.reads r).resolve_left fun hnone => ?_
  rw [hnone] at hknown
  cases hknown

theorem Loses.thins_outline {c c' : Catalog} (h : c.Loses c') (hb : c.Booked) :
    Thins c'.outline c.outline := by
  rw [h.outline hb]
  exact h.thins c.meaning?

/-! ### 3.1 Emptying a node -/

variable {μ : Reading}

theorem thins_emptySuite (ref : NodeRef) (s : SuiteNode) :
    ((emptySuite ref s).outline μ).Thins (s.outline μ) := by
  unfold emptySuite
  split
  · exact ⟨rfl, List.nil_sublist _⟩
  · exact ⟨rfl, List.Sublist.refl _⟩

theorem thins_emptyFile (ref : NodeRef) (f : FileNode) :
    ((emptyFile ref f).outline μ).Thins (f.outline μ) := by
  unfold emptyFile
  split
  · exact ⟨rfl, .nil⟩
  · refine ⟨rfl, ?_⟩
    simp only [FileNode.outline, List.map_map]
    exact sublistForall₂_map fun s _ => thins_emptySuite ref s

theorem thins_emptyPackage (ref : NodeRef) (p : PackageNode) :
    ((emptyPackage ref p).outline μ).Thins (p.outline μ) := by
  unfold emptyPackage
  split
  · exact ⟨rfl, .nil⟩
  · refine ⟨rfl, ?_⟩
    simp only [PackageNode.outline, List.map_map]
    exact sublistForall₂_map fun f _ => thins_emptyFile ref f

/-- What an emptied node held is what leaves, if the node is in the tree. -/
theorem refs_perm_clearChildren {c : Catalog} {ref : NodeRef} (hnd : c.refs.Nodup)
    (href : ref ∈ c.refs) :
    c.refs.Perm (Subtree.refsOf (c.childrenOf ref) ++ (c.clearChildren ref).refs) := by
  rw [← c.refsOf_trees] at hnd href
  obtain ⟨t, ht⟩ := Option.isSome_iff_exists.mp ((Subtree.isSome_findIn?_iff _).mpr href)
  have hchildren : c.childrenOf ref = t.children := by
    simp only [childrenOf, subtree?, ht, Option.map_some, Option.getD_some]
  have hafter : Subtree.refsOf (Subtree.emptiedIn ref c.trees) = (c.clearChildren ref).refs := by
    rw [emptied_trees]
    exact (c.clearChildren ref).refsOf_trees
  rw [hchildren, ← hafter, ← c.refsOf_trees]
  exact Subtree.refsOf_perm_emptiedIn c.trees hnd ht

/-- A node that has left holds nothing that is in the tree. -/
theorem childrenOf_apart {c : Catalog} (h : c.books.Apart) {ref : NodeRef} (href : ref ∉ c.refs) :
    ∀ r ∈ Subtree.refsOf (c.childrenOf ref), r < c.books.nextRef ∧ c.meaning? r = none := by
  intro r hr
  have hnone : Subtree.findIn? ref c.trees = none := by
    rw [← Option.not_isSome_iff_eq_none, Subtree.isSome_findIn?_iff, c.refsOf_trees]
    exact href
  rw [childrenOf, subtree?, hnone] at hr
  cases ht : Subtree.findIn? ref (c.books.departed.map (·.tree)) with
  | none => simp [ht] at hr
  | some t =>
    simp only [ht, Option.map_some, Option.getD_some] at hr
    exact h.of_mem_refsOf (Subtree.refsOf_children_subset_of_findIn? _ ht hr)

/-- **Emptying any node,** in the tree or not, keeps the books right. -/
theorem loses_clearChildren (c : Catalog) (ref : NodeRef) : c.Loses (c.clearChildren ref) where
  settings := rfl
  booked hb := by
    have ht : (c.books.emptied ref).Tracks c.refs := hb.tracks.of_index rfl rfl
    have ha := hb.apart.emptied ref
    by_cases href : ref ∈ c.refs
    · have hgone := Books.turns_departAll (c.books.emptied ref) (c.childrenOf ref)
      have ht' := ht.perm (refs_perm_clearChildren ht.distinct href)
      exact ⟨hgone.tracks _ ht', hgone.apart _ ht' ha⟩
    · have hchildren := childrenOf_apart hb.apart href
      refine ⟨?_, ha.departAll fun r hr => (hchildren r hr).1⟩
      -- what leaves was not known, and the tree has no such node
      have hkeep : c.refs.filter (· ∉ Subtree.refsOf (c.childrenOf ref)) = c.refs := by
        refine List.filter_eq_self.mpr fun r hr => ?_
        have hknown : (c.meaning? r).isSome := (hb.tracks.known r).mpr hr
        simp only [decide_not, Bool.not_eq_eq_eq_not, Bool.not_true, decide_eq_false_iff_not]
        intro hmem
        rw [(hchildren r hmem).2] at hknown
        cases hknown
      have hsame : (c.clearChildren ref).refs = c.refs := by
        rw [← (c.clearChildren ref).refsOf_trees, ← c.refsOf_trees]
        refine (congrArg Subtree.refsOf (c.emptied_trees ref)).symm.trans ?_
        rw [Subtree.emptiedIn_of_not_mem]
        rwa [c.refsOf_trees]
      rw [hsame]
      have ht' := ht.departAll (c.childrenOf ref)
      rwa [hkeep] at ht'
  reads r := by
    have h := Books.meaning?_departAll (c.childrenOf ref) (c.books.emptied ref) r
    by_cases hr : r ∈ Subtree.refsOf (c.childrenOf ref)
    · exact Or.inl (h.trans (if_pos hr))
    · exact Or.inr (h.trans (if_neg hr))
  thins μ := by
    simp only [clearChildren, List.map_map]
    exact sublistForall₂_map fun p _ => thins_emptyPackage ref p

/-! ### 3.2 Pruning -/

section Split

variable {α : Type} {g h k : α → List NodeRef}

theorem flatMap_perm_append (l : List α) (hsplit : ∀ x ∈ l, (g x).Perm (h x ++ k x)) :
    (l.flatMap g).Perm (l.flatMap h ++ l.flatMap k) :=
  (List.Perm.flatMap_left l hsplit).trans (List.flatMap_append_perm l h k).symm

/-- The numbers below some elements are those below the ones that pass a test, and
    those below the others. -/
theorem flatMap_perm_filter (l : List α) (gone : α → Bool) :
    (l.flatMap g).Perm ((l.filter gone).flatMap g ++ (l.filter (!gone ·)).flatMap g) := by
  rw [← List.flatMap_append]
  exact (List.filter_append_perm gone l).symm.flatMap_right g

end Split

theorem refs_perm_pruneFile (f : FileNode) :
    f.refs.Perm ((f.suites.filter (·.tests.isEmpty)).flatMap (·.refs) ++ (pruneFile f).refs) :=
  ((flatMap_perm_filter f.suites (·.tests.isEmpty)).cons f.info.ref).trans List.perm_middle.symm

theorem refs_perm_prunePackage (p : PackageNode) :
    p.refs.Perm ((emptySuites p).flatMap (·.refs) ++
      ((emptyFiles p).flatMap (·.refs) ++ (prunePackage p).refs)) := by
  have hsuites := flatMap_perm_append p.files fun f _ => refs_perm_pruneFile f
  have hfiles := flatMap_perm_filter (g := (·.refs)) (p.files.map pruneFile) (·.suites.isEmpty)
  calc p.refs
      = p.info.ref :: p.files.flatMap (·.refs) := rfl
    _ ~ p.info.ref :: ((emptySuites p).flatMap (·.refs) ++
        (p.files.map pruneFile).flatMap (·.refs)) := by
        rw [emptySuites, List.flatMap_assoc, List.flatMap_map]
        exact hsuites.cons _
    _ ~ p.info.ref :: ((emptySuites p).flatMap (·.refs) ++
        ((emptyFiles p).flatMap (·.refs) ++ (prunePackage p).files.flatMap (·.refs))) :=
        (hfiles.append_left _).cons _
    _ ~ (emptySuites p).flatMap (·.refs) ++
        ((emptyFiles p).flatMap (·.refs) ++ (prunePackage p).refs) :=
        List.perm_middle.symm.trans (List.perm_middle.symm.append_left _)

/-- The trees that leave when the catalog is pruned. -/
def pruned (c : Catalog) : List Subtree :=
  (c.packages.flatMap emptySuites).map (·.subtree) ++
    (c.packages.flatMap emptyFiles).map (·.subtree) ++
    ((c.packages.map prunePackage).filter (·.files.isEmpty)).map (·.subtree)

theorem refs_perm_prune (c : Catalog) :
    c.refs ~ Subtree.refsOf c.pruned ++ c.prune.1.refs := by
  have hlevel := flatMap_perm_append c.packages fun p _ => refs_perm_prunePackage p
  have hinner := List.flatMap_append_perm c.packages (fun p => (emptyFiles p).flatMap (·.refs))
    fun p => (prunePackage p).refs
  have hpackages := flatMap_perm_filter (g := (·.refs)) (c.packages.map prunePackage)
    (·.files.isEmpty)
  rw [List.flatMap_map] at hpackages
  have hpruned : Subtree.refsOf c.pruned =
      (c.packages.flatMap fun p => (emptySuites p).flatMap (·.refs)) ++
        ((c.packages.flatMap fun p => (emptyFiles p).flatMap (·.refs)) ++
          ((c.packages.map prunePackage).filter (·.files.isEmpty)).flatMap (·.refs)) := by
    rw [pruned, Subtree.refsOf_append, Subtree.refsOf_append,
      Subtree.refsOf_map SuiteNode.refs_subtree, Subtree.refsOf_map FileNode.refs_subtree,
      Subtree.refsOf_map PackageNode.refs_subtree, List.flatMap_assoc, List.flatMap_assoc,
      List.append_assoc]
  rw [hpruned, List.append_assoc, List.append_assoc]
  exact hlevel.trans ((hinner.symm.trans (hpackages.append_left _)).append_left _)

variable {μ : Reading}

theorem thins_pruneFile (f : FileNode) : ((pruneFile f).outline μ).Thins (f.outline μ) :=
  ⟨rfl, sublistForall₂_filter_map fun _ _ => ⟨rfl, List.Sublist.refl _⟩⟩

theorem thins_prunePackage (p : PackageNode) : ((prunePackage p).outline μ).Thins (p.outline μ) := by
  refine ⟨rfl, ?_⟩
  simp only [PackageNode.outline, prunePackage, List.filter_map, List.map_map]
  exact sublistForall₂_filter_map fun f _ => thins_pruneFile f

/-- **Pruning** takes out the nodes that hold no tests. -/
theorem loses_prune (c : Catalog) : c.Loses c.prune.1 where
  settings := rfl
  booked hb := by
    have hgone := Books.turns_departAll c.books c.pruned
    have ht := hb.tracks.perm c.refs_perm_prune
    exact ⟨hgone.tracks _ ht, hgone.apart _ ht hb.apart⟩
  reads r := by
    have h := Books.meaning?_departAll c.pruned c.books r
    by_cases hr : r ∈ Subtree.refsOf c.pruned
    · exact Or.inl (h.trans (if_pos hr))
    · exact Or.inr (h.trans (if_neg hr))
  thins μ := by
    simp only [prune, List.filter_map, List.map_map]
    exact sublistForall₂_filter_map fun p _ => thins_prunePackage p

/-! ### 3.3 Removing a file -/

theorem refs_perm_files (c : Catalog) (gone : FileNode → Bool) :
    c.refs ~ (c.files.filter gone).flatMap (·.refs) ++
      (c.packages.map fun p => { p with files := p.files.filter (!gone ·) }).flatMap (·.refs) := by
  rw [files, List.filter_flatMap, List.flatMap_assoc, List.flatMap_map]
  refine flatMap_perm_append c.packages fun p _ => ?_
  exact ((flatMap_perm_filter p.files gone).cons p.info.ref).trans List.perm_middle.symm

theorem flatMap_sublist {α β : Type} {g h : α → List β} (l : List α)
    (hsub : ∀ x, (g x).Sublist (h x)) : (l.flatMap g).Sublist (l.flatMap h) := by
  induction l with
  | nil => exact List.Sublist.refl _
  | cons x l ih =>
    rw [List.flatMap_cons, List.flatMap_cons]
    exact (hsub x).append ih

theorem map_ref_sublist {α : Type} {info : α → NodeInfo} {g : α → List NodeRef}
    (hhead : ∀ x, [(info x).ref].Sublist (g x)) (l : List α) :
    (l.map fun x => (info x).ref).Sublist (l.flatMap g) := by
  rw [List.map_eq_flatMap]
  exact flatMap_sublist l hhead

/-- The numbers of the files are among those of the tree, in their order. -/
theorem files_sublist_refs (c : Catalog) : (c.files.map (·.info.ref)).Sublist c.refs := by
  rw [files, List.map_flatMap]
  refine flatMap_sublist c.packages fun p => ?_
  refine (map_ref_sublist (fun f => ?_) p.files).trans (List.sublist_cons_self _ _)
  exact (List.nil_sublist _).cons_cons _

/-- No two files have the same number. -/
theorem filter_files_eq {c : Catalog} (hnd : c.refs.Nodup) {f : FileNode} (hf : f ∈ c.files) :
    c.files.filter (·.info.ref = f.info.ref) = [f] := by
  have hkeys : (c.files.map (·.info.ref)).Nodup := c.files_sublist_refs.nodup hnd
  obtain ⟨pre, post, hl⟩ := List.append_of_mem hf
  rw [hl, List.map_append, List.map_cons, List.nodup_append] at hkeys
  obtain ⟨-, hpost, hpre⟩ := hkeys
  have hpre' : pre.filter (·.info.ref = f.info.ref) = [] := by
    refine List.filter_eq_nil_iff.mpr fun g hg => ?_
    simpa using hpre _ (List.mem_map_of_mem hg) _ List.mem_cons_self
  have hpost' : post.filter (·.info.ref = f.info.ref) = [] := by
    refine List.filter_eq_nil_iff.mpr fun g hg hgf => (List.nodup_cons.mp hpost).1 ?_
    rw [← of_decide_eq_true hgf]
    exact List.mem_map_of_mem hg
  rw [hl, List.filter_append, hpre', List.nil_append, List.filter_cons, hpost',
    if_pos (decide_eq_true rfl)]

/-- **Removing the node of a file** takes out this node and what it holds. -/
theorem loses_removeFile (c : Catalog) (path : Path) : c.Loses (c.removeFile path).1 := by
  unfold removeFile
  cases hfile : c.fileAt? path with
  | none =>
    refine ⟨rfl, id, fun _ => Or.inr rfl, fun μ => ?_⟩
    exact sublistForall₂_map fun p _ => .refl _
  | some f =>
    have hf : f ∈ c.files := List.mem_of_find?_eq_some hfile
    refine ⟨rfl, fun hb => ?_, fun r => ?_, fun μ => ?_⟩
    · have hperm := c.refs_perm_files (·.info.ref = f.info.ref)
      rw [filter_files_eq hb.tracks.distinct hf, List.flatMap_singleton, ← f.refs_subtree] at hperm
      have hgone := Books.turns_depart c.books f.subtree none
      have ht := hb.tracks.perm hperm
      have htracks := hgone.tracks _ ht
      refine ⟨?_, hgone.apart _ ht hb.apart⟩
      rw [List.nil_append] at htracks
      simpa only [refs, ne_eq, decide_not] using htracks
    · have h := Books.meaning?_depart c.books f.subtree none r
      by_cases hr : r ∈ f.subtree.refs
      · exact Or.inl (h.trans (if_pos hr))
      · exact Or.inr (h.trans (if_neg hr))
    · simp only [List.map_map]
      refine sublistForall₂_map fun p _ => ⟨rfl, ?_⟩
      exact sublistForall₂_filter_map fun f _ => .refl _

/-! ### 3.4 Clearing -/

theorem loses_clear (c : Catalog) : c.Loses c.clear where
  settings := rfl
  booked hb := by
    refine ⟨Books.tracks_nil rfl, ?_⟩
    have hgone : (c.books.departAll c.trees).Apart := hb.apart.departAll fun r hr =>
      hb.tracks.bounded r (c.refsOf_trees ▸ hr)
    exact fun d hd r hr => ⟨(hgone d hd r hr).1, rfl⟩
  reads _ := Or.inl rfl
  thins _ := .nil

end Catalog
end SuiteExplorer
