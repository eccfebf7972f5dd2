/-
  SuiteExplorer/Proofs/Catalog/Pruning.lean
  =========================================
  **Pruning takes out just the nodes that no test is below.**

  The three passes of pruning look at one level each: a suite goes if it has no tests, then
  a file if it has no suites left, then a package if it has no files left.  Together they
  do what a single definition says of trees of any depth: a node stays as long as
  something below it matters (`Subtree.thinned`).  All else follows from this equation.
  What is left is what mattered, in the old order; what has gone is as many nodes as are
  counted, and it is gone from the index; and there is nothing left to prune.
-/
import SuiteExplorer.Proofs.Catalog.Stocked

namespace SuiteExplorer

/-! ## 1. Trees without what does not matter -/

namespace Subtree

mutual

/-- The trees that begin at a node or below it, in the order of the tree. -/
def parts : Subtree → List Subtree
  | node i cs => node i cs :: partsIn cs

def partsIn : List Subtree → List Subtree
  | [] => []
  | t :: rest => parts t ++ partsIn rest

end

/-- Something in the tree matters. -/
def bears (p : NodeInfo → Bool) (t : Subtree) : Bool := t.infos.any p

mutual

/-- A node with what is below it, as far as it matters. -/
def thinned (p : NodeInfo → Bool) : Subtree → Subtree
  | node i cs => node i (thinnedIn p cs)

def thinnedIn (p : NodeInfo → Bool) : List Subtree → List Subtree
  | [] => []
  | t :: rest => if t.bears p then thinned p t :: thinnedIn p rest else thinnedIn p rest

end

variable {p : NodeInfo → Bool} {t : Subtree} {ts : List Subtree}

mutual

theorem map_info_parts : ∀ t : Subtree, t.parts.map info = t.infos
  | node i cs => by
    rw [parts, List.map_cons, map_info_partsIn cs]
    rfl

theorem map_info_partsIn : ∀ ts : List Subtree, (partsIn ts).map info = infosOf ts
  | [] => rfl
  | t :: ts => by
    rw [partsIn, List.map_append, map_info_parts t, map_info_partsIn ts, infosOf]

end

theorem thinnedIn_eq (p : NodeInfo → Bool) (ts : List Subtree) :
    thinnedIn p ts = (ts.filter (bears p)).map (thinned p) := by
  induction ts with
  | nil => rfl
  | cons t ts ih =>
    rw [thinnedIn, List.filter_cons]
    split
    · rw [List.map_cons, ih]
    · exact ih

theorem any_infosOf (p : NodeInfo → Bool) (ts : List Subtree) :
    (infosOf ts).any p = ts.any (bears p) := by
  induction ts with
  | nil => rfl
  | cons t ts ih => rw [infosOf_cons, List.any_append, ih, List.any_cons, bears]

/-- Nothing in some trees matters exactly when nothing is left of them. -/
theorem any_infosOf_eq (p : NodeInfo → Bool) (ts : List Subtree) :
    (infosOf ts).any p = !(thinnedIn p ts).isEmpty := by
  rw [any_infosOf, thinnedIn_eq, List.isEmpty_map, Bool.eq_iff_iff]
  simp [List.filter_eq_nil_iff]

/-- A node that does not matter itself bears something as long as something is left below it. -/
theorem bears_eq (h : p t.info = false) : t.bears p = !(t.thinned p).children.isEmpty := by
  cases t with
  | node i cs =>
    have hself : p i = false := h
    rw [bears, infos, List.any_cons, hself, Bool.false_or, any_infosOf_eq]
    rfl

mutual

theorem filter_parts_eq_nil : ∀ t : Subtree, t.bears p = false → t.parts.filter (bears p) = []
  | node i cs, h => by
    have hbelow : (infosOf cs).any p = false := by
      rw [bears, infos, List.any_cons, Bool.or_eq_false_iff] at h
      exact h.2
    rw [parts, List.filter_cons_of_neg (by simp [h]), filter_partsIn_eq_nil cs hbelow]

/-- Below a node that bears nothing no node bears anything. -/
theorem filter_partsIn_eq_nil : ∀ ts : List Subtree, (infosOf ts).any p = false →
    (partsIn ts).filter (bears p) = []
  | [], _ => rfl
  | t :: ts, h => by
    rw [infosOf_cons, List.any_append, Bool.or_eq_false_iff] at h
    rw [partsIn, List.filter_append, filter_parts_eq_nil t h.1, filter_partsIn_eq_nil ts h.2]
    rfl

end

mutual

theorem infos_thinned : ∀ t : Subtree, t.bears p = true →
    (t.thinned p).infos = (t.parts.filter (bears p)).map info
  | node i cs, h => by
    rw [thinned, infos, infosOf_thinnedIn cs, parts, List.filter_cons_of_pos h, List.map_cons]
    rfl

/-- **What is left of some trees** is all that bears something, in the old order. -/
theorem infosOf_thinnedIn : ∀ ts : List Subtree,
    infosOf (thinnedIn p ts) = ((partsIn ts).filter (bears p)).map info
  | [] => rfl
  | t :: ts => by
    rw [thinnedIn, partsIn, List.filter_append, List.map_append, ← infosOf_thinnedIn ts]
    cases h : t.bears p with
    | true => rw [if_pos rfl, infosOf_cons, infos_thinned t h]
    | false =>
      rw [if_neg Bool.false_ne_true, filter_parts_eq_nil t h]
      rfl

end

/-! ### 1.1 Level by level -/

variable {α : Type} {g : α → Subtree}

/-- **One level of pruning**: each node is pruned below, and those that are then empty go. -/
theorem thinnedIn_map (h : α → α) (empty : α → Bool) {l : List α} (hself : ∀ x ∈ l, p (g x).info = false)
    (hthin : ∀ x ∈ l, (g x).thinned p = g (h x))
    (hempty : ∀ x, (g x).children.isEmpty = empty x) :
    thinnedIn p (l.map g) = ((l.map h).filter fun x => !empty x).map g := by
  induction l with
  | nil => rfl
  | cons x l ih =>
    have hbears : (g x).bears p = !empty (h x) := by
      rw [bears_eq (hself x List.mem_cons_self), hthin x List.mem_cons_self, hempty]
    have hrest := ih (fun y hy => hself y (List.mem_cons_of_mem x hy))
      fun y hy => hthin y (List.mem_cons_of_mem x hy)
    rw [List.map_cons, thinnedIn, hbears, hrest, hthin x List.mem_cons_self, List.map_cons,
      List.filter_cons]
    split
    · rfl
    · rfl

/-- Leaves that all matter stay as they are. -/
theorem thinnedIn_leaves {tests : List NodeInfo} (htests : ∀ i ∈ tests, p i = true) :
    thinnedIn p (tests.map leaf) = tests.map leaf := by
  induction tests with
  | nil => rfl
  | cons i tests ih =>
    have hbears : (leaf i).bears p = true := by
      simp [bears, leaf, infos, htests i List.mem_cons_self]
    rw [List.map_cons, thinnedIn, hbears, if_pos rfl,
      ih fun j hj => htests j (List.mem_cons_of_mem i hj)]
    rfl

end Subtree

/-! ## 2. The three passes -/

namespace Catalog

/-- The node is a test. -/
def isTest (c : Catalog) (i : NodeInfo) : Bool :=
  match c.meaning? i.ref with
  | some (.runnable (.test _)) => true
  | _ => false

variable {c : Catalog}

theorem Sound.thinned_suite (hc : c.Sound) {f : FileNode} (hf : f ∈ c.files) {s : SuiteNode}
    (hs : s ∈ f.suites) : s.subtree.thinned c.isTest = s.subtree := by
  have htests : ∀ i ∈ s.tests, c.isTest i = true := by
    intro i hi
    obtain ⟨d, hd⟩ := hc.meaning_test hf hs hi
    rw [isTest, hd]
  rw [SuiteNode.subtree, Subtree.thinned, Subtree.thinnedIn_leaves htests]

theorem Sound.thinned_file (hc : c.Sound) {f : FileNode} (hf : f ∈ c.files) :
    f.subtree.thinned c.isTest = (pruneFile f).subtree := by
  have hself : ∀ s ∈ f.suites, c.isTest s.subtree.info = false := by
    intro s hs
    obtain ⟨suite, hsuite⟩ := hc.meaning_suite hf hs
    rw [isTest, show s.subtree.info = s.info from rfl, hsuite]
  have hlevel := Subtree.thinnedIn_map id (fun s : SuiteNode => s.tests.isEmpty) hself
    (fun s hs => hc.thinned_suite hf hs) fun s => List.isEmpty_map
  rw [List.map_id] at hlevel
  rw [FileNode.subtree, Subtree.thinned, hlevel]
  rfl

theorem Sound.thinned_package (hc : c.Sound) {p : PackageNode} (hp : p ∈ c.packages) :
    p.subtree.thinned c.isTest = (prunePackage p).subtree := by
  have hmem : ∀ f ∈ p.files, f ∈ c.files := fun f hf => mem_files.mpr ⟨p, hp, hf⟩
  have hself : ∀ f ∈ p.files, c.isTest f.subtree.info = false := by
    intro f hf
    rw [isTest, show f.subtree.info = f.info from rfl, hc.meaning_file (hmem f hf)]
  have hlevel := Subtree.thinnedIn_map pruneFile (fun f : FileNode => f.suites.isEmpty) hself
    (fun f hf => hc.thinned_file (hmem f hf)) fun f => List.isEmpty_map
  rw [PackageNode.subtree, Subtree.thinned, hlevel]
  rfl

/-- **Pruning thins the tree.** -/
theorem Sound.trees_prune (hc : c.Sound) :
    c.prune.1.trees = Subtree.thinnedIn c.isTest c.trees := by
  have hself : ∀ p ∈ c.packages, c.isTest p.subtree.info = false := by
    intro p hp
    rw [isTest, show p.subtree.info = p.info from rfl, hc.meaning_package hp]
  have hlevel := Subtree.thinnedIn_map prunePackage (fun p : PackageNode => p.files.isEmpty) hself
    (fun p hp => hc.thinned_package hp) fun p => List.isEmpty_map
  rw [trees, trees, hlevel]
  rfl

/-- The trees of the packages, files and suites that no test is below. -/
def barren (c : Catalog) : List Subtree :=
  (Subtree.partsIn c.trees).filter fun t => !t.bears c.isTest

/-- What is left are the nodes that a test is below, and the tests. -/
theorem Sound.infos_prune (hc : c.Sound) :
    c.prune.1.infos = ((Subtree.partsIn c.trees).filter (·.bears c.isTest)).map (·.info) := by
  rw [infos, hc.trees_prune, Subtree.infosOf_thinnedIn]

/-! ## 3. What goes -/

/-- The nodes that go are those that no test is below, each of them once. -/
theorem Sound.refs_barren_perm (hc : c.Sound) :
    (c.barren.map (·.info.ref)).Perm (Subtree.refsOf c.pruned) := by
  have hall : (c.prune.1.refs ++ c.barren.map (·.info.ref)).Perm
      (c.prune.1.refs ++ Subtree.refsOf c.pruned) := by
    have hsplit := (List.filter_append_perm (·.bears c.isTest) (Subtree.partsIn c.trees)).map
      (fun t => t.info.ref)
    have hparts : (Subtree.partsIn c.trees).map (fun t => t.info.ref) = c.refs := by
      rw [← c.refsOf_trees, Subtree.refsOf, ← Subtree.map_info_partsIn, List.map_map]
      rfl
    have hkept : ((Subtree.partsIn c.trees).filter (·.bears c.isTest)).map (fun t => t.info.ref) =
        c.prune.1.refs := by
      rw [← map_ref_infos, hc.infos_prune, List.map_map]
      rfl
    rw [List.map_append, hparts, hkept] at hsplit
    exact hsplit.trans (c.refs_perm_prune.trans List.perm_append_comm)
  exact (List.perm_append_left_iff _).mp hall

/-- What goes goes alone: all that was in it has gone before. -/
theorem children_pruned : ∀ t ∈ c.pruned, t.children = [] := by
  intro t ht
  rw [pruned, List.mem_append, List.mem_append] at ht
  rcases ht with (ht | ht) | ht
  · obtain ⟨s, hs, rfl⟩ := List.mem_map.mp ht
    obtain ⟨p, -, hs⟩ := List.mem_flatMap.mp hs
    obtain ⟨f, -, hs⟩ := List.mem_flatMap.mp hs
    have hnil : s.tests = [] := by simpa using (List.mem_filter.mp hs).2
    rw [SuiteNode.subtree, hnil]
    rfl
  · obtain ⟨f, hf, rfl⟩ := List.mem_map.mp ht
    obtain ⟨p, -, hf⟩ := List.mem_flatMap.mp hf
    have hnil : f.suites = [] := by simpa using (List.mem_filter.mp hf).2
    rw [FileNode.subtree, hnil]
    rfl
  · obtain ⟨p, hp, rfl⟩ := List.mem_map.mp ht
    have hnil : p.files = [] := by simpa using (List.mem_filter.mp hp).2
    rw [PackageNode.subtree, hnil]
    rfl

theorem refsOf_of_children {ts : List Subtree} (h : ∀ t ∈ ts, t.children = []) :
    Subtree.refsOf ts = ts.map (·.info.ref) := by
  induction ts with
  | nil => rfl
  | cons t ts ih =>
    rw [Subtree.refsOf_cons, Subtree.refs_eq, h t List.mem_cons_self,
      ih fun u hu => h u (List.mem_cons_of_mem t hu)]
    rfl

theorem removed_prune (c : Catalog) : c.prune.2.1 = c.pruned.length := by
  rw [pruned, List.length_append, List.length_append]
  rfl

theorem Sound.removed_prune_eq (hc : c.Sound) : c.prune.2.1 = c.barren.length := by
  have hlength := hc.refs_barren_perm.length_eq
  rw [refsOf_of_children children_pruned, List.length_map, List.length_map] at hlength
  rw [removed_prune, hlength]

/-- **Exactly the entries** of the nodes that go are taken out of the index. -/
theorem Sound.index_prune (hc : c.Sound) : c.prune.1.books.index =
    c.books.index.filter fun e => e.1 ∉ c.barren.map (·.info.ref) := by
  have hindex : c.prune.1.books.index =
      c.books.index.filter fun e => e.1 ∉ Subtree.refsOf c.pruned := c.books.index_departAll c.pruned
  rw [hindex]
  refine List.filter_congr fun e _ => ?_
  rw [decide_eq_decide, hc.refs_barren_perm.mem_iff]

theorem Sound.meaning?_prune (hc : c.Sound) (r : NodeRef) : c.prune.1.meaning? r =
    if r ∈ c.barren.map (·.info.ref) then none else c.meaning? r := by
  have hmeaning : c.prune.1.meaning? r =
      if r ∈ Subtree.refsOf c.pruned then none else c.meaning? r :=
    Books.meaning?_departAll c.pruned c.books r
  simp only [hmeaning, hc.refs_barren_perm.mem_iff]

/-! ## 4. Once more -/

/-- Where nothing is empty pruning does nothing. -/
theorem Stocked.prune_eq (h : c.Stocked) : c.prune = (c, 0, []) := by
  have hremoved : c.prune.2.1 = 0 := c.removed_prune_eq_zero_iff.mpr h
  have hpruned : c.pruned = [] := List.length_eq_zero_iff.mp (c.removed_prune ▸ hremoved)
  have hkept : c.packages.map prunePackage = c.packages := by
    refine (List.map_congr_left fun p hp => prunePackage_eq ?_ ?_).trans (List.map_id _)
    · exact fun f hf => h.suites f (mem_files.mpr ⟨p, hp, hf⟩)
    · exact fun f hf => h.files f (mem_files.mpr ⟨p, hp, hf⟩)
  have hpackages : c.prune.1.packages = c.packages := by
    change (c.packages.map prunePackage).filter (fun p => !p.files.isEmpty) = c.packages
    rw [hkept]
    exact List.filter_eq_self.mpr fun p hp => by simpa using h.packages p hp
  have hcatalog : c.prune.1 = c := by
    change { c with packages := c.prune.1.packages, books := c.books.departAll c.pruned } = c
    rw [hpackages, hpruned]
    rfl
  have hjournal : c.prune.2.2 = [] := if_pos hremoved
  exact Prod.ext hcatalog (Prod.ext hremoved hjournal)

/-- **Pruning is exact.**  Whatever has been done to a catalog, pruning takes out the
    packages, files and suites that no test is below, and leaves all other nodes as they
    are, in their order.  The entries of these nodes are taken out of the index, and no
    others.  It gives the number of these nodes, and does nothing when it is done again. -/
theorem prune_exact (settings : CatalogSettings) (listeners : List Listener)
    (acts : List CatalogAct) :
    let c := (fresh settings listeners).performAll acts
    let after := c.prune.1
    after.trees = Subtree.thinnedIn c.isTest c.trees ∧
      after.infos = ((Subtree.partsIn c.trees).filter (·.bears c.isTest)).map (·.info) ∧
      after.books.index = c.books.index.filter (fun e => e.1 ∉ c.barren.map (·.info.ref)) ∧
      (∀ r, after.meaning? r =
        if r ∈ c.barren.map (·.info.ref) then none else c.meaning? r) ∧
      c.prune.2.1 = c.barren.length ∧ after.prune = (after, 0, []) := by
  intro c after
  have hc : c.Sound := sound_performAll settings listeners acts
  exact ⟨hc.trees_prune, hc.infos_prune, hc.index_prune, hc.meaning?_prune, hc.removed_prune_eq,
    (stocked_prune hc.booked).prune_eq⟩

end Catalog

end SuiteExplorer
