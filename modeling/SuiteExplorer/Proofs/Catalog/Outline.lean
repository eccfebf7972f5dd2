/-
  SuiteExplorer/Proofs/Catalog/Outline.lean
  =========================================
  **What a tree of nodes shows, whatever the numbers of its nodes.**

  Two catalogs built at different times give their nodes different numbers.  The
  outline of a node forgets the number and the run state, and keeps the rest: id,
  label, path, span, and what the node stands for.  On outlines the operations of
  the catalog are plain functions of lists, without books; the other modules show
  that the catalog follows them, and reason about outlines from then on.
-/
import SuiteExplorer.Catalog.Discovery
import SuiteExplorer.Proofs.Catalog.Books
import SuiteExplorer.Proofs.Keyed

namespace SuiteExplorer

open Keyed

/-! ## 1. Outlines -/

/-- What one node shows. -/
structure NodeOutline where
  id : String
  label : String
  path : Path
  span : Option Span := none
  meaning : Option Meaning
deriving DecidableEq

structure SuiteOutline where
  head : NodeOutline
  tests : List NodeOutline := []
deriving DecidableEq

structure FileOutline where
  head : NodeOutline
  suites : List SuiteOutline := []
deriving DecidableEq

structure PackageOutline where
  head : NodeOutline
  files : List FileOutline := []
deriving DecidableEq

/-- What nodes stand for. -/
abbrev Reading := NodeRef → Option Meaning

def NodeInfo.outline (μ : Reading) (i : NodeInfo) : NodeOutline :=
  ⟨i.id, i.label, i.path, i.span, μ i.ref⟩

def SuiteNode.outline (μ : Reading) (s : SuiteNode) : SuiteOutline :=
  ⟨s.info.outline μ, s.tests.map (·.outline μ)⟩

def FileNode.outline (μ : Reading) (f : FileNode) : FileOutline :=
  ⟨f.info.outline μ, f.suites.map (·.outline μ)⟩

def PackageNode.outline (μ : Reading) (p : PackageNode) : PackageOutline :=
  ⟨p.info.outline μ, p.files.map (·.outline μ)⟩

def Catalog.outline (c : Catalog) : List PackageOutline := c.packages.map (·.outline c.meaning?)

theorem Catalog.meaning?_of_books {c c' : Catalog} (hbooks : c'.books = c.books) :
    c'.meaning? = c.meaning? := by
  funext r
  rw [meaning?, meaning?, hbooks]

/-- The tree and the books are all that an outline shows. -/
theorem Catalog.outline_same {c c' : Catalog} (hpackages : c'.packages = c.packages)
    (hbooks : c'.books = c.books) : c'.outline = c.outline := by
  rw [outline, outline, hpackages, meaning?_of_books hbooks]

/-! ## 2. The numbers below a node -/

def NodeInfo.refs (i : NodeInfo) : List NodeRef := [i.ref]

def SuiteNode.refs (s : SuiteNode) : List NodeRef := s.info.ref :: s.tests.flatMap (·.refs)

def FileNode.refs (f : FileNode) : List NodeRef := f.info.ref :: f.suites.flatMap (·.refs)

def PackageNode.refs (p : PackageNode) : List NodeRef := p.info.ref :: p.files.flatMap (·.refs)

/-- The numbers of all nodes in the tree. -/
def Catalog.refs (c : Catalog) : List NodeRef := c.packages.flatMap (·.refs)

theorem Subtree.refsOf_map {α : Type} {g : α → Subtree} {h : α → List NodeRef}
    (hg : ∀ x, (g x).refs = h x) (l : List α) : refsOf (l.map g) = l.flatMap h := by
  induction l with
  | nil => rfl
  | cons x l ih => rw [List.map_cons, refsOf_cons, List.flatMap_cons, ih, hg]

@[simp] theorem SuiteNode.refs_subtree (s : SuiteNode) : s.subtree.refs = s.refs := by
  rw [SuiteNode.subtree, Subtree.refs_node, SuiteNode.refs,
    Subtree.refsOf_map Subtree.refs_leaf]
  rfl

@[simp] theorem FileNode.refs_subtree (f : FileNode) : f.subtree.refs = f.refs := by
  rw [FileNode.subtree, Subtree.refs_node, FileNode.refs,
    Subtree.refsOf_map SuiteNode.refs_subtree]

@[simp] theorem PackageNode.refs_subtree (p : PackageNode) : p.subtree.refs = p.refs := by
  rw [PackageNode.subtree, Subtree.refs_node, PackageNode.refs,
    Subtree.refsOf_map FileNode.refs_subtree]

theorem Catalog.refsOf_trees (c : Catalog) : Subtree.refsOf c.trees = c.refs :=
  Subtree.refsOf_map PackageNode.refs_subtree c.packages

/-- The numbers of the tree are those of the nodes it is made of. -/
theorem Catalog.map_ref_infos (c : Catalog) : c.infos.map (·.ref) = c.refs := c.refsOf_trees

/-! ## 3. Shapes

Tests, suites, files and packages have numbers and an outline, and the outline
depends on the meanings of these numbers alone.  A shape is that much of a kind of
node; the shape of a node with children follows from that of its children, so what
holds of one level holds of all. -/

structure Shape (α β : Type) where
  refs : α → List NodeRef
  outline : Reading → α → β
  congr : ∀ {μ ν : Reading} {x : α}, (∀ r ∈ refs x, μ r = ν r) → outline μ x = outline ν x

namespace Shape

variable {α β γ σ : Type}

/-- The shape of several things of one shape. -/
def list (S : Shape α β) : Shape (List α) (List β) where
  refs l := l.flatMap S.refs
  outline μ l := l.map (S.outline μ)
  congr h := List.map_congr_left fun x hx => S.congr fun r hr =>
    h r (List.mem_flatMap.mpr ⟨x, hx, hr⟩)

/-- The shape of a node whose children have a shape. -/
def node (S : Shape α β) (info : σ → NodeInfo) (children : σ → List α)
    (make : NodeOutline → List β → γ) : Shape σ γ where
  refs x := (info x).ref :: (children x).flatMap S.refs
  outline μ x := make ((info x).outline μ) ((children x).map (S.outline μ))
  congr {μ ν x} h := by
    have hhead : (info x).outline μ = (info x).outline ν := by
      rw [NodeInfo.outline, NodeInfo.outline, h _ List.mem_cons_self]
    have hchildren : S.list.outline μ (children x) = S.list.outline ν (children x) :=
      S.list.congr fun r hr => h r (List.mem_cons_of_mem _ hr)
    exact congrArg₂ make hhead hchildren

end Shape

def NodeInfo.shape : Shape NodeInfo NodeOutline where
  refs := NodeInfo.refs
  outline := NodeInfo.outline
  congr {μ ν i} h := by
    rw [NodeInfo.outline, NodeInfo.outline, h i.ref (List.mem_singleton_self _)]

def SuiteNode.shape : Shape SuiteNode SuiteOutline :=
  NodeInfo.shape.node SuiteNode.info SuiteNode.tests SuiteOutline.mk

def FileNode.shape : Shape FileNode FileOutline :=
  SuiteNode.shape.node FileNode.info FileNode.suites FileOutline.mk

def PackageNode.shape : Shape PackageNode PackageOutline :=
  FileNode.shape.node PackageNode.info PackageNode.files PackageOutline.mk

variable {μ ν : Reading}

/-! ## 4. Distinct ids -/

def SuiteOutline.Distinct (s : SuiteOutline) : Prop := (s.tests.map (·.id)).Nodup

def FileOutline.Distinct (f : FileOutline) : Prop :=
  (f.suites.map (·.head.id)).Nodup ∧ ∀ s ∈ f.suites, s.Distinct

def PackageOutline.Distinct (p : PackageOutline) : Prop :=
  (p.files.map (·.head.id)).Nodup ∧ ∀ f ∈ p.files, f.Distinct

/-- No two siblings have the same id. -/
def DistinctIds (ps : List PackageOutline) : Prop :=
  (ps.map (·.head.id)).Nodup ∧ ∀ p ∈ ps, p.Distinct

theorem SuiteNode.nodup_ids {s : SuiteNode} (h : (s.outline μ).Distinct) :
    (s.tests.map (·.id)).Nodup := by
  simpa only [SuiteOutline.Distinct, SuiteNode.outline, List.map_map, Function.comp_def,
    NodeInfo.outline] using h

theorem FileNode.nodup_ids {f : FileNode} (h : (f.outline μ).Distinct) :
    (f.suites.map (·.info.id)).Nodup := by
  simpa only [FileNode.outline, List.map_map, Function.comp_def, SuiteNode.outline,
    NodeInfo.outline] using h.1

theorem FileNode.distinct_suite {f : FileNode} (h : (f.outline μ).Distinct) {s : SuiteNode}
    (hs : s ∈ f.suites) : (s.outline μ).Distinct :=
  h.2 _ (List.mem_map_of_mem hs)

theorem PackageNode.nodup_ids {p : PackageNode} (h : (p.outline μ).Distinct) :
    (p.files.map (·.info.id)).Nodup := by
  simpa only [PackageNode.outline, List.map_map, Function.comp_def, FileNode.outline,
    NodeInfo.outline] using h.1

theorem PackageNode.distinct_file {p : PackageNode} (h : (p.outline μ).Distinct) {f : FileNode}
    (hf : f ∈ p.files) : (f.outline μ).Distinct :=
  h.2 _ (List.mem_map_of_mem hf)

theorem Catalog.nodup_ids {c : Catalog} (h : DistinctIds c.outline) :
    (c.packages.map (·.info.id)).Nodup := by
  simpa only [Catalog.outline, List.map_map, Function.comp_def, PackageNode.outline,
    NodeInfo.outline] using h.1

theorem Catalog.distinct_package {c : Catalog} (h : DistinctIds c.outline) {p : PackageNode}
    (hp : p ∈ c.packages) : (p.outline c.meaning?).Distinct :=
  h.2 _ (List.mem_map_of_mem hp)

/-! ## 5. Entering declarations into outlines -/

/-- A test as its declaration has it. -/
def NodeOutline.test (path : Path) (d : Declaration) : NodeOutline :=
  ⟨d.qualifiedName, d.name, path, some d.span, some (.runnable (.test d))⟩

/-- The suite of a declaration, before any test is in it. -/
def SuiteOutline.empty (path : Path) (d : Declaration) : SuiteOutline :=
  ⟨⟨d.receiver.getD "", d.receiver.getD "", path, none,
    some (.runnable (.suite ⟨d.receiver.getD "", d.kind⟩))⟩, []⟩

/-- A file, before any suite is in it. -/
def FileOutline.empty (path : Path) : FileOutline :=
  ⟨⟨path.stem, path.name, path, none, some .file⟩, []⟩

/-- A package, before any file is in it. -/
def PackageOutline.empty (label : String) (directory : Path) (name : String) : PackageOutline :=
  ⟨⟨Catalog.packageId directory name, label, directory, none, some .package⟩, []⟩

def SuiteOutline.enter (s : SuiteOutline) (path : Path) (d : Declaration) : SuiteOutline :=
  { s with tests := upsert (·.id) d.qualifiedName (fun _ => .test path d) s.tests }

def FileOutline.enter (f : FileOutline) (path : Path) (d : Declaration) : FileOutline :=
  { f with
    suites := upsert (·.head.id) (d.receiver.getD "")
      (fun old => (old.getD (.empty path d)).enter path d) f.suites }

def FileOutline.enterAll (f : FileOutline) (path : Path) (ds : List Declaration) : FileOutline :=
  ds.foldl (·.enter path) f

def PackageOutline.enter (p : PackageOutline) (path : Path) (ds : List Declaration) :
    PackageOutline :=
  { p with
    files := upsert (·.head.id) path.stem
      (fun old => (old.getD (.empty path)).enterAll path ds) p.files }

/-- Enter the tests of a file into the package of its clause. -/
def enterOutline (ps : List PackageOutline) (label : String) (path : Path) (package : String)
    (ds : List Declaration) : List PackageOutline :=
  upsert (·.head.id) (Catalog.packageId path.parent package)
    (fun old => (old.getD (.empty label path.parent package)).enter path ds) ps

/-! ## 6. What entering keeps -/

@[simp] theorem SuiteOutline.head_enter (s : SuiteOutline) (path : Path) (d : Declaration) :
    (s.enter path d).head = s.head := rfl

theorem SuiteOutline.tests_enter (s : SuiteOutline) (path : Path) (d : Declaration) :
    (s.enter path d).tests =
      upsert (·.id) d.qualifiedName (fun _ => .test path d) s.tests := rfl

@[simp] theorem FileOutline.head_enter (f : FileOutline) (path : Path) (d : Declaration) :
    (f.enter path d).head = f.head := rfl

theorem FileOutline.suites_enter (f : FileOutline) (path : Path) (d : Declaration) :
    (f.enter path d).suites = upsert (·.head.id) (d.receiver.getD "")
      (fun old => (old.getD (.empty path d)).enter path d) f.suites := rfl

@[simp] theorem FileOutline.head_enterAll (f : FileOutline) (path : Path) (ds : List Declaration) :
    (f.enterAll path ds).head = f.head := by
  induction ds generalizing f with
  | nil => rfl
  | cons d ds ih => exact (ih (f.enter path d)).trans (f.head_enter path d)

@[simp] theorem PackageOutline.head_enter (p : PackageOutline) (path : Path)
    (ds : List Declaration) : (p.enter path ds).head = p.head := rfl

theorem PackageOutline.files_enter (p : PackageOutline) (path : Path) (ds : List Declaration) :
    (p.enter path ds).files = upsert (·.head.id) path.stem
      (fun old => (old.getD (.empty path)).enterAll path ds) p.files := rfl

theorem SuiteOutline.Distinct.enter {s : SuiteOutline} (h : s.Distinct) (path : Path)
    (d : Declaration) : (s.enter path d).Distinct := by
  rw [SuiteOutline.Distinct, SuiteOutline.tests_enter]
  refine nodup_keys_upsert h ?_ ?_
  · rfl
  · exact fun _ _ _ => rfl

theorem SuiteOutline.distinct_empty (path : Path) (d : Declaration) :
    (SuiteOutline.empty path d).Distinct := List.nodup_nil

theorem FileOutline.Distinct.enter {f : FileOutline} (h : f.Distinct) (path : Path)
    (d : Declaration) : (f.enter path d).Distinct := by
  rw [FileOutline.Distinct, FileOutline.suites_enter]
  constructor
  · exact nodup_keys_upsert h.1 rfl fun _ _ hk => hk
  · refine forall_mem_upsert h.2 ?_ fun s hs _ => ?_
    · exact (SuiteOutline.distinct_empty path d).enter path d
    · exact (h.2 s hs).enter path d

theorem FileOutline.Distinct.enterAll {f : FileOutline} (h : f.Distinct) (path : Path)
    (ds : List Declaration) : (f.enterAll path ds).Distinct := by
  induction ds generalizing f with
  | nil => exact h
  | cons d ds ih => exact ih (h.enter path d)

theorem FileOutline.distinct_empty (path : Path) : (FileOutline.empty path).Distinct :=
  ⟨List.nodup_nil, fun _ hs => by cases hs⟩

theorem PackageOutline.Distinct.enter {p : PackageOutline} (h : p.Distinct) (path : Path)
    (ds : List Declaration) : (p.enter path ds).Distinct := by
  rw [PackageOutline.Distinct, PackageOutline.files_enter]
  constructor
  · refine nodup_keys_upsert h.1 ?_ fun f _ hk => ?_
    · rw [Option.getD_none, FileOutline.head_enterAll]; rfl
    · rw [Option.getD_some, FileOutline.head_enterAll]; exact hk
  · refine forall_mem_upsert h.2 ?_ fun f hf _ => ?_
    · exact (FileOutline.distinct_empty path).enterAll path ds
    · exact (h.2 f hf).enterAll path ds

theorem PackageOutline.distinct_empty (label : String) (directory : Path) (name : String) :
    (PackageOutline.empty label directory name).Distinct :=
  ⟨List.nodup_nil, fun _ hf => by cases hf⟩

/-- Entering a file keeps the ids of siblings distinct. -/
theorem DistinctIds.enter {ps : List PackageOutline} (h : DistinctIds ps) (label : String)
    (path : Path) (package : String) (ds : List Declaration) :
    DistinctIds (enterOutline ps label path package ds) := by
  unfold enterOutline
  constructor
  · exact nodup_keys_upsert h.1 rfl fun _ _ hk => hk
  · refine forall_mem_upsert h.2 ?_ fun p hp _ => ?_
    · exact (PackageOutline.distinct_empty label path.parent package).enter path ds
    · exact (h.2 p hp).enter path ds

end SuiteExplorer
