/-
  SuiteExplorer/Proofs/Catalog/Entering.lean
  ==========================================
  **Entering a file does to the tree what it does to the outline.**

  The catalog enters a file level by level, and at each level either finds a node
  again or makes one, with the books in hand.  `Shape.Becomes S b x b' x' f` says
  that a node of shape `S` becomes `x'` while the books change accordingly, and that
  its outline changes by `f`; `Shape.Comes S b b' x' o` says that a node comes into
  being, with the outline `o`.  Both are proved once for a list with a key
  (`Becomes.upsert`, `Comes.upsert`) and once for a node around its children
  (`Becomes.node`); the four levels then follow one from the other.
-/
import SuiteExplorer.Proofs.Catalog.Outline

namespace SuiteExplorer

open Keyed

namespace Shape

variable {α β γ σ : Type} {S : Shape α β} {b b' b'' : Books}

/-! ## 1. Becoming and coming -/

/-- With the books, a node changes, and its outline changes by `f`. -/
structure Becomes (S : Shape α β) (b : Books) (x : α) (b' : Books) (x' : α) (f : β → β) :
    Prop where
  turns : b.Turns b' (S.refs x) (S.refs x')
  shows : ∀ rest, b.Tracks (S.refs x ++ rest) →
    S.outline b'.meaning? x' = f (S.outline b.meaning? x)

/-- With the books, a node comes into being, with a certain outline. -/
structure Comes (S : Shape α β) (b b' : Books) (x' : α) (o : β) : Prop where
  turns : b.Turns b' [] (S.refs x')
  shows : ∀ rest, b.Tracks rest → S.outline b'.meaning? x' = o

theorem Becomes.refl (S : Shape α β) (b : Books) (x : α) : S.Becomes b x b x id :=
  ⟨.refl b _, fun _ _ => rfl⟩

theorem Becomes.trans {x x' x'' : α} {f g : β → β} (h : S.Becomes b x b' x' f)
    (h' : S.Becomes b' x' b'' x'' g) : S.Becomes b x b'' x'' (g ∘ f) where
  turns := h.turns.trans h'.turns
  shows rest ht := by
    rw [h'.shows rest (h.turns.tracks rest ht), h.shows rest ht, Function.comp]

/-- What comes into being may change before anyone looks at it. -/
theorem Comes.becomes {x x' : α} {o : β} {f : β → β} (h : S.Comes b b' x o)
    (h' : S.Becomes b' x b'' x' f) : S.Comes b b'' x' (f o) where
  turns := h.turns.trans h'.turns
  shows rest ht := by
    rw [h'.shows rest (h.turns.tracks rest ht), h.shows rest ht]

/-! ## 2. Lists with a key -/

variable {key : α → String} {key' : β → String} {k : String} {l : List α}

theorem find?_outline (hkey : ∀ μ x, key' (S.outline μ x) = key x) (μ : Reading) :
    (S.list.outline μ l).find? (key' · = k) = (l.find? (key · = k)).map (S.outline μ) := by
  simp only [Shape.list, List.find?_map, Function.comp_def, hkey]

/-- **The element with the key changes, and so does the list.** -/
theorem Becomes.upsert (hkey : ∀ μ x, key' (S.outline μ x) = key x) (hnd : (l.map key).Nodup)
    {old new : α} (hfind : l.find? (key · = k) = some old) {F : Option β → β}
    (h : S.Becomes b old b' new fun o => F (some o)) :
    S.list.Becomes b l b' (l.map fun x => if key x = k then new else x)
      (Keyed.upsert key' k F) := by
  obtain ⟨pre, post, hl, hreplace⟩ := find?_split hnd hfind
  have hrefs : ∀ x, S.list.refs (pre ++ x :: post) =
      S.list.refs pre ++ S.refs x ++ S.list.refs post := by
    intro x
    simp only [Shape.list, List.flatMap_append, List.flatMap_cons, List.append_assoc]
  refine ⟨?_, fun rest ht => ?_⟩
  · rw [hreplace new, hrefs, hl, hrefs]
    exact h.turns.inside _ _
  -- the outline of the changed element is known; the books frame all others
  rw [hl, hrefs] at ht
  have hnew : S.outline b'.meaning? new = F (some (S.outline b.meaning? old)) := by
    have hperm : (S.list.refs pre ++ S.refs old ++ S.list.refs post ++ rest).Perm
        (S.refs old ++ (S.list.refs pre ++ S.list.refs post ++ rest)) := by
      simp only [List.append_assoc]
      exact List.perm_append_comm_assoc ..
    exact h.shows _ (ht.perm hperm)
  have hother : ∀ x ∈ l, key x ≠ k → S.outline b'.meaning? x = S.outline b.meaning? x := by
    intro x hx hne
    refine S.congr fun r hr => h.turns.frame_inside ht r ?_
    have hxold : x ≠ old := fun he => hne (he ▸ key_of_find? hfind)
    rw [hl, List.mem_append, List.mem_cons] at hx
    rcases hx with hx | rfl | hx
    · exact Or.inl (List.mem_flatMap.mpr ⟨x, hx, hr⟩)
    · exact absurd rfl hxold
    · exact Or.inr (List.mem_flatMap.mpr ⟨x, hx, hr⟩)
  have hfind' : (S.list.outline b.meaning? l).find? (key' · = k) =
      some (S.outline b.meaning? old) := by
    rw [find?_outline hkey, hfind, Option.map_some]
  rw [upsert_of_find? hfind']
  simp only [Shape.list, List.map_map]
  refine List.map_congr_left fun x hx => ?_
  simp only [Function.comp_apply, hkey]
  by_cases hk : key x = k
  · rw [if_pos hk, if_pos hk, hnew]
  · rw [if_neg hk, if_neg hk, hother x hx hk]

/-- **An element with a new key comes to the end of the list.** -/
theorem Comes.upsert (hkey : ∀ μ x, key' (S.outline μ x) = key x)
    (hfind : l.find? (key · = k) = none) {new : α} {F : Option β → β}
    (h : S.Comes b b' new (F none)) :
    S.list.Becomes b l b' (l ++ [new]) (Keyed.upsert key' k F) := by
  refine ⟨?_, fun rest ht => ?_⟩
  · have hin := h.turns.inside (S.list.refs l) []
    simpa only [Shape.list, List.append_nil, List.flatMap_append, List.flatMap_cons,
      List.flatMap_nil] using hin
  have hframe : S.list.outline b'.meaning? l = S.list.outline b.meaning? l :=
    S.list.congr fun r hr => h.turns.frame _ ht r (List.mem_append_left _ hr)
  have hfind' : (S.list.outline b.meaning? l).find? (key' · = k) = none := by
    rw [find?_outline hkey, hfind, Option.map_none]
  rw [upsert_of_find?_none hfind', ← hframe, ← h.shows _ ht]
  simp only [Shape.list, List.map_append, List.map_singleton]

/-! ## 3. A node around its children -/

variable {info : σ → NodeInfo} {children : σ → List α} {make : NodeOutline → List β → γ}

/-- A node of which only the children change. -/
theorem Becomes.node {x x' : σ} (hinfo : info x' = info x) {f : List β → List β}
    {g : γ → γ} (hg : ∀ o os, g (make o os) = make o (f os))
    (h : S.list.Becomes b (children x) b' (children x') f) :
    (S.node info children make).Becomes b x b' x' g := by
  have hrefs : ∀ y, (S.node info children make).refs y =
      [(info y).ref] ++ S.list.refs (children y) ++ [] := by
    intro y
    rw [List.append_nil]; rfl
  refine ⟨?_, fun rest ht => ?_⟩
  · rw [hrefs, hrefs, hinfo]
    exact h.turns.inside _ _
  rw [hrefs] at ht
  have hhead : (info x).outline b'.meaning? = (info x).outline b.meaning? := by
    rw [NodeInfo.outline, NodeInfo.outline,
      h.turns.frame_inside ht _ (Or.inl (List.mem_singleton_self _))]
  have hperm : ([(info x).ref] ++ S.list.refs (children x) ++ [] ++ rest).Perm
      (S.list.refs (children x) ++ ([(info x).ref] ++ rest)) := by
    simp only [List.append_assoc, List.nil_append]
    exact List.perm_append_comm_assoc ..
  calc make ((info x').outline b'.meaning?) (S.list.outline b'.meaning? (children x'))
      = make ((info x).outline b.meaning?) (f (S.list.outline b.meaning? (children x))) := by
        rw [hinfo, hhead, h.shows _ (ht.perm hperm)]
    _ = g (make ((info x).outline b.meaning?) (S.list.outline b.meaning? (children x))) :=
        (hg _ _).symm

/-- A node without children comes into being. -/
theorem comes_node {x : σ} {m : Meaning} (href : (info x).ref = b.nextRef)
    (hnil : children x = []) :
    (S.node info children make).Comes b (b.enter m).2 x
      (make ⟨(info x).id, (info x).label, (info x).path, (info x).span, some m⟩ []) := by
  refine ⟨?_, fun rest _ => ?_⟩
  · have hrefs : (S.node info children make).refs x = [b.nextRef] := by
      simp only [Shape.node, hnil, href, List.flatMap_nil]
    rw [hrefs]
    exact Books.turns_enter b m
  · simp only [Shape.node, hnil, NodeInfo.outline, href, Books.meaning?_enter_self, List.map_nil]

/-- Books that know the children of a node know each child among others. -/
theorem tracks_of_mem {x : σ} {rest : List NodeRef}
    (ht : b.Tracks ((S.node info children make).refs x ++ rest)) {y : α} (hy : y ∈ children x) :
    ∃ rest', b.Tracks (S.refs y ++ rest') := by
  obtain ⟨pre, post, hl⟩ := List.append_of_mem hy
  refine ⟨(info x).ref :: S.list.refs pre ++ (S.list.refs post ++ rest), ht.perm ?_⟩
  have hrefs : (S.node info children make).refs x ++ rest =
      ((info x).ref :: S.list.refs pre) ++ (S.refs y ++ (S.list.refs post ++ rest)) := by
    simp only [Shape.node, Shape.list, hl, List.flatMap_append, List.flatMap_cons,
      List.cons_append, List.append_assoc]
  rw [hrefs]
  exact List.perm_append_comm_assoc ..

end Shape

/-! ## 4. The four levels -/

/-- A test comes into being. -/
theorem NodeInfo.comes_test {b : Books} {i : NodeInfo} {m : Meaning} (href : i.ref = b.nextRef) :
    NodeInfo.shape.Comes b (b.enter m).2 i ⟨i.id, i.label, i.path, i.span, some m⟩ := by
  refine ⟨?_, fun rest _ => ?_⟩
  · have hrefs : NodeInfo.shape.refs i = [b.nextRef] := by rw [← href]; rfl
    rw [hrefs]
    exact Books.turns_enter b m
  · simp only [NodeInfo.shape, NodeInfo.outline, href, Books.meaning?_enter_self]

/-- A test gives way to one that has just come into being. -/
theorem NodeInfo.becomes_test {b : Books} {old new : NodeInfo} {m : Meaning}
    (href : new.ref = b.nextRef) (parent : Option NodeRef) :
    NodeInfo.shape.Becomes b old ((b.enter m).2.depart (.leaf old) parent) new
      fun _ => ⟨new.id, new.label, new.path, new.span, some m⟩ := by
  have hcome := Books.turns_enter b m
  have hgo := Books.turns_depart (b.enter m).2 (.leaf old) parent
  rw [Subtree.refs_leaf] at hgo
  have hcome' := hcome.inside [] [old.ref]
  have hgo' := hgo.inside [b.nextRef] []
  refine ⟨?_, fun rest ht => ?_⟩
  · have hrefs : NodeInfo.shape.refs new = [b.nextRef] := by rw [← href]; rfl
    rw [hrefs]
    exact hcome'.trans hgo'
  -- the new test is not the one that leaves
  have hmid : (b.enter m).2.Tracks ([b.nextRef] ++ [old.ref] ++ [] ++ rest) :=
    hcome'.tracks rest ht
  have hframe := hgo.frame_inside hmid b.nextRef (Or.inl (List.mem_singleton_self _))
  simp only [NodeInfo.shape, NodeInfo.outline, href, hframe, Books.meaning?_enter_self]

theorem SuiteNode.becomes_enter {b : Books} {s : SuiteNode} {path : Path} {d : Declaration}
    (hnd : (s.tests.map (·.id)).Nodup) :
    SuiteNode.shape.Becomes b s (s.enter b path d).2 (s.enter b path d).1 (·.enter path d) := by
  unfold SuiteNode.enter
  refine Shape.Becomes.node ?_ (fun o os => rfl) ?_
  · dsimp only
    split <;> rfl
  dsimp only
  split
  case h_1 hfind =>
    exact Shape.Comes.upsert (fun _ _ => rfl) hfind (NodeInfo.comes_test rfl)
  case h_2 old hfind =>
    exact Shape.Becomes.upsert (fun _ _ => rfl) hnd hfind (NodeInfo.becomes_test rfl _)

/-- A suite of the library of its first test comes into being, with this test. -/
theorem SuiteNode.comes_enter {b : Books} {s : SuiteNode} {path : Path} {d : Declaration}
    (hs : s = { info := { ref := b.nextRef, id := d.receiver.getD "",
                          label := d.receiver.getD "", path := path } }) :
    SuiteNode.shape.Comes b
      (s.enter (b.enter (.runnable (.suite ⟨d.receiver.getD "", d.kind⟩))).2 path d).2
      (s.enter (b.enter (.runnable (.suite ⟨d.receiver.getD "", d.kind⟩))).2 path d).1
      ((SuiteOutline.empty path d).enter path d) := by
  have hempty : SuiteNode.shape.Comes b
      (b.enter (.runnable (.suite ⟨d.receiver.getD "", d.kind⟩))).2 s (.empty path d) := by
    subst hs
    exact Shape.comes_node rfl rfl
  refine hempty.becomes (SuiteNode.becomes_enter ?_)
  subst hs
  exact List.nodup_nil

theorem FileNode.becomes_enter {b : Books} {f : FileNode} {path : Path} {d : Declaration}
    (h : (f.outline b.meaning?).Distinct) :
    FileNode.shape.Becomes b f (f.enter b path d).2 (f.enter b path d).1 (·.enter path d) := by
  unfold FileNode.enter
  refine Shape.Becomes.node ?_ (fun o os => rfl) ?_
  · dsimp only
    split <;> rfl
  dsimp only
  split
  case h_1 s hfind =>
    have hs := FileNode.distinct_suite h (List.mem_of_find?_eq_some hfind)
    exact Shape.Becomes.upsert (fun _ _ => rfl) (FileNode.nodup_ids h) hfind
      (SuiteNode.becomes_enter (SuiteNode.nodup_ids hs))
  case h_2 hfind =>
    exact Shape.Comes.upsert (fun _ _ => rfl) hfind (SuiteNode.comes_enter rfl)

/-- Entering the tests of a file one after the other. -/
theorem FileNode.becomes_enterAll {path : Path} {rest : List NodeRef} (ds : List Declaration) :
    ∀ {b : Books} {f : FileNode}, b.Tracks (f.refs ++ rest) → (f.outline b.meaning?).Distinct →
      FileNode.shape.Becomes b f (f.enterAll b path ds).2 (f.enterAll b path ds).1
        (·.enterAll path ds) := by
  induction ds with
  | nil => exact fun _ _ => .refl _ _ _
  | cons d ds ih =>
    intro b f ht h
    have hd := @FileNode.becomes_enter b f path d h
    have ht' := hd.turns.tracks rest ht
    have hshow : (f.enter b path d).1.outline (f.enter b path d).2.meaning? =
        (f.outline b.meaning?).enter path d := hd.shows rest ht
    exact hd.trans (ih ht' (hshow ▸ h.enter path d))

/-- A file comes into being, with its tests. -/
theorem FileNode.comes_enterAll {b : Books} {rest : List NodeRef} (ht : b.Tracks rest)
    {f : FileNode} {path : Path} {ds : List Declaration}
    (hf : f = { info := { ref := b.nextRef, id := path.stem, label := path.name, path := path } }) :
    FileNode.shape.Comes b (f.enterAll (b.enter .file).2 path ds).2
      (f.enterAll (b.enter .file).2 path ds).1 ((FileOutline.empty path).enterAll path ds) := by
  have hempty : FileNode.shape.Comes b (b.enter .file).2 f (.empty path) := by
    subst hf
    exact Shape.comes_node rfl rfl
  have hshow : f.outline (b.enter .file).2.meaning? = .empty path := hempty.shows rest ht
  refine hempty.becomes (FileNode.becomes_enterAll ds (hempty.turns.tracks rest ht) ?_)
  exact hshow ▸ FileOutline.distinct_empty path

theorem PackageNode.becomes_enter {b : Books} {p : PackageNode} {rest : List NodeRef}
    (ht : b.Tracks (p.refs ++ rest)) (h : (p.outline b.meaning?).Distinct) {path : Path}
    {ds : List Declaration} :
    PackageNode.shape.Becomes b p (p.enter b path ds).2 (p.enter b path ds).1
      (·.enter path ds) := by
  unfold PackageNode.enter
  refine Shape.Becomes.node ?_ (fun o os => rfl) ?_
  · dsimp only
    split <;> rfl
  dsimp only
  split
  case h_1 f hfind =>
    have hmem := List.mem_of_find?_eq_some hfind
    have hp : b.Tracks (PackageNode.shape.refs p ++ rest) := ht
    obtain ⟨rest', ht'⟩ := Shape.tracks_of_mem hp hmem
    exact Shape.Becomes.upsert (fun _ _ => rfl) (PackageNode.nodup_ids h) hfind
      (FileNode.becomes_enterAll ds ht' (PackageNode.distinct_file h hmem))
  case h_2 hfind =>
    exact Shape.Comes.upsert (fun _ _ => rfl) hfind (FileNode.comes_enterAll ht rfl)

/-- A package comes into being, with the tests of a file. -/
theorem PackageNode.comes_enter {b : Books} {rest : List NodeRef} (ht : b.Tracks rest)
    {p : PackageNode} {label : String} {path : Path} {package : String} {ds : List Declaration}
    (hp : p = { info := { ref := b.nextRef, id := Catalog.packageId path.parent package,
                          label := label, path := path.parent } }) :
    PackageNode.shape.Comes b (p.enter (b.enter .package).2 path ds).2
      (p.enter (b.enter .package).2 path ds).1
      ((PackageOutline.empty label path.parent package).enter path ds) := by
  have hempty : PackageNode.shape.Comes b (b.enter .package).2 p
      (.empty label path.parent package) := by
    subst hp
    exact Shape.comes_node rfl rfl
  have hshow : p.outline (b.enter .package).2.meaning? =
      .empty label path.parent package := hempty.shows rest ht
  refine hempty.becomes (PackageNode.becomes_enter (hempty.turns.tracks rest ht) ?_)
  exact hshow ▸ PackageOutline.distinct_empty label path.parent package

/-! ## 5. Entering a file into the catalog -/

theorem Catalog.settings_enterFile (c : Catalog) (path : Path) (package : String)
    (ds : List Declaration) : (c.enterFile path package ds).settings = c.settings := by
  unfold Catalog.enterFile
  dsimp only
  split <;> rfl

theorem Catalog.becomes_enterFile {c : Catalog} (ht : c.books.Tracks c.refs)
    (h : DistinctIds c.outline) (path : Path) (package : String) (ds : List Declaration) :
    PackageNode.shape.list.Becomes c.books c.packages (c.enterFile path package ds).books
      (c.enterFile path package ds).packages
      (enterOutline · (c.packageLabel path.parent package) path package ds) := by
  unfold Catalog.enterFile
  dsimp only
  split
  case h_1 p hfind =>
    have hmem := List.mem_of_find?_eq_some hfind
    obtain ⟨pre, post, hl⟩ := List.append_of_mem hmem
    have hperm : c.refs.Perm (p.refs ++ (pre.flatMap (·.refs) ++ post.flatMap (·.refs))) := by
      rw [Catalog.refs, hl, List.flatMap_append, List.flatMap_cons]
      exact List.perm_append_comm_assoc ..
    exact Shape.Becomes.upsert (fun _ _ => rfl) (Catalog.nodup_ids h) hfind
      (PackageNode.becomes_enter (ht.perm hperm) (Catalog.distinct_package h hmem))
  case h_2 hfind =>
    exact Shape.Comes.upsert (fun _ _ => rfl) hfind (PackageNode.comes_enter ht rfl)

/-- **The catalog enters a file the way its outline does.** -/
theorem Catalog.outline_enterFile {c : Catalog} (ht : c.books.Tracks c.refs)
    (h : DistinctIds c.outline) (path : Path) (package : String) (ds : List Declaration) :
    (c.enterFile path package ds).outline =
      enterOutline c.outline (c.packageLabel path.parent package) path package ds := by
  have ht' : c.books.Tracks (PackageNode.shape.list.refs c.packages ++ []) := by
    rw [List.append_nil]; exact ht
  exact (becomes_enterFile ht h path package ds).shows [] ht'

end SuiteExplorer
