/-
  SuiteExplorer/Proofs/Catalog/Batches.lean
  =========================================
  **When the order of a batch matters.**

  A batch is a set of changes, and comes as a list of them in any order.  It is delivered
  by path, so two orders differ only where several kinds of change come for one path.
  Without such ties every order is delivered as the same sequence of events
  (`delivery_eq_of_untied`).

  With ties it depends on the kinds.  That a file was created and modified may come in
  both orders, as long as the file is in its place: the two events commute, and a sorted
  list is turned into another one by swaps within its ties (`foldl_eq_of_sorted`).  But
  nothing commutes with a deletion: in a workspace with one file, the last of its changes
  alone tells whether it is in the tree (`foldl_turn_alone`), and each batch with a tied
  deletion can be put into two orders with different ends (`getLast?_ahead`).
-/
import SuiteExplorer.Proofs.Catalog.Events
import SuiteExplorer.Proofs.Catalog.Rescanning
import SuiteExplorer.Proofs.Catalog.Stocked
import SuiteExplorer.Proofs.Watch.Watcher

namespace SuiteExplorer

open scoped List

/-! ## 1. Sorted lists -/

section Sorted

variable {α σ : Type} {key : α → String} {step : σ → α → σ} {holds : σ → Prop}

/-- A step that may be taken at any time among others may be taken first. -/
theorem foldl_swap {a : α} {pre : List α} (hholds : ∀ s, holds s → ∀ b ∈ pre, holds (step s b))
    (hswap : ∀ s, holds s → ∀ b ∈ pre, step (step s b) a = step (step s a) b) {s : σ}
    (hs : holds s) : step (pre.foldl step s) a = pre.foldl step (step s a) := by
  induction pre generalizing s with
  | nil => rfl
  | cons b pre ih =>
    have hb := hholds s hs b List.mem_cons_self
    rw [List.foldl_cons, List.foldl_cons, ← hswap s hs b List.mem_cons_self]
    exact ih (fun s hs c hc => hholds s hs c (List.mem_cons_of_mem _ hc))
      (fun s hs c hc => hswap s hs c (List.mem_cons_of_mem _ hc)) hb

/-- **Two sorted orders of a list** lead to the same, if steps with one key commute. -/
theorem foldl_eq_of_sorted (holds : σ → Prop) {l l' : List α} (hperm : l' ~ l)
    (hsorted : l.Pairwise fun a b => key a ≤ key b)
    (hsorted' : l'.Pairwise fun a b => key a ≤ key b)
    (hholds : ∀ s, holds s → ∀ a ∈ l, holds (step s a))
    (hswap : ∀ s, holds s → ∀ a ∈ l, ∀ b ∈ l, key a = key b →
      step (step s a) b = step (step s b) a) {s : σ} (hs : holds s) :
    l'.foldl step s = l.foldl step s := by
  induction l generalizing l' s with
  | nil => rw [hperm.eq_nil]
  | cons a l ih =>
    obtain ⟨pre, post, rfl⟩ := List.append_of_mem (hperm.mem_iff.mpr List.mem_cons_self)
    obtain ⟨hhead, hrest⟩ := List.pairwise_cons.mp hsorted
    obtain ⟨-, -, hbefore⟩ := List.pairwise_append.mp hsorted'
    have hperm' : pre ++ post ~ l := (List.perm_middle.symm.trans hperm).cons_inv
    have hmem : ∀ b ∈ pre, b ∈ l := fun b hb =>
      hperm'.mem_iff.mp (List.mem_append_left _ hb)
    -- what stands before the first element of the other list has the same key
    have hkeys : ∀ b ∈ pre, key b = key a := fun b hb =>
      String.le_antisymm (hbefore b hb a List.mem_cons_self) (hhead b (hmem b hb))
    have hsublist : (pre ++ post).Sublist (pre ++ a :: post) :=
      (List.sublist_cons_self a post).append_left pre
    have hfirst : step (pre.foldl step s) a = pre.foldl step (step s a) := by
      refine foldl_swap (fun s hs b hb => ?_) (fun s hs b hb => ?_) hs
      · exact hholds s hs b (List.mem_cons_of_mem _ (hmem b hb))
      · exact hswap s hs b (List.mem_cons_of_mem _ (hmem b hb)) a List.mem_cons_self (hkeys b hb)
    calc (pre ++ a :: post).foldl step s
        = (pre ++ post).foldl step (step s a) := by
          rw [List.foldl_append, List.foldl_cons, hfirst, List.foldl_append]
      _ = l.foldl step (step s a) :=
          ih hperm' hrest (hsorted'.sublist hsublist)
            (fun s hs b hb => hholds s hs b (List.mem_cons_of_mem _ hb))
            (fun s hs b hb d hd => hswap s hs b (List.mem_cons_of_mem _ hb) d
              (List.mem_cons_of_mem _ hd))
            (hholds s hs a List.mem_cons_self)

end Sorted

/-! ## 2. Deliveries -/

namespace Watch

/-- Changes of two kinds come for one path, and the filter accepts it. -/
structure Filter.Ties (f : Filter) (batch : List Change) (a b : Change) : Prop where
  left : a ∈ batch
  right : b ∈ batch
  accepted : f.accepts a.path
  path : b.path = a.path
  kind : b.kind ≠ a.kind

variable {f : Filter} {batch batch' : List Change}

theorem delivery_eq (f : Filter) (batch : List Change) :
    (Watcher.running f).delivery batch = (f.sorted batch).map (·.event) := rfl

/-- Changes of one path are sorted in any order. -/
theorem pairwise_onePath {path : String} {l : List Change} (h : ∀ a ∈ l, a.path = path) :
    l.Pairwise fun a b => decide (a.path ≤ b.path) = true := by
  refine List.pairwise_of_forall_mem_list fun a ha b hb => ?_
  rw [h a ha, h b hb]
  exact decide_eq_true (String.le_refl path)

theorem sorted_onePath {path : String} (haccepted : f.accepts path = true)
    (h : ∀ a ∈ batch, a.path = path) : f.sorted batch = batch := by
  have hall : batch.filter (fun c => f.accepts c.path) = batch :=
    List.filter_eq_self.mpr fun a ha => by rw [h a ha, haccepted]
  rw [Filter.sorted, hall]
  exact List.mergeSort_of_pairwise (pairwise_onePath h)

theorem sorted_perm (h : batch' ~ batch) : f.sorted batch' ~ f.sorted batch :=
  (List.mergeSort_perm ..).trans ((h.filter _).trans (List.mergeSort_perm ..).symm)

theorem mem_sorted {a : Change} : a ∈ f.sorted batch ↔ a ∈ batch ∧ f.accepts a.path = true := by
  rw [Filter.sorted, List.mem_mergeSort, List.mem_filter]

/-- Changes of one path are one change, or they are tied. -/
theorem eq_or_ties {a b : Change} (ha : a ∈ f.sorted batch) (hb : b ∈ f.sorted batch)
    (hpath : b.path = a.path) : b = a ∨ f.Ties batch a b := by
  obtain ⟨ha, haccepted⟩ := mem_sorted.mp ha
  by_cases hkind : b.kind = a.kind
  · left
    obtain ⟨kind, path⟩ := a
    obtain ⟨kind', path'⟩ := b
    exact congr (congrArg Change.mk hkind) hpath
  · exact Or.inr ⟨ha, (mem_sorted.mp hb).1, haccepted, hpath, hkind⟩

/-- **Without ties, every order of a batch is delivered in the same order.** -/
theorem delivery_eq_of_untied (huntied : ∀ a b, ¬f.Ties batch a b) (h : batch' ~ batch) :
    (Watcher.running f).delivery batch' = (Watcher.running f).delivery batch := by
  rw [delivery_eq, delivery_eq]
  congr 1
  refine List.Perm.eq_of_pairwise (fun a b ha hb hab hba => ?_) (pairwise_sorted f batch')
    (pairwise_sorted f batch) (sorted_perm h)
  have ha' := (sorted_perm h).mem_iff.mp ha
  exact (eq_or_ties hb ha' (String.le_antisymm hab hba)).resolve_right (huntied b a)

end Watch

/-! ## 3. Harmless ties -/

namespace Catalog

open Watch

/-- The root of the filter is watched, through the filter. -/
def Watches (c : Catalog) (f : Filter) : Prop :=
  c.watchers.find? (fun w => w.isRunning && w.filter.root = f.root) = some (.running f)

/-- The files for which several kinds of change come are in their places. -/
def Unmoved (c : Catalog) (files : FileTree) (f : Filter) (batch : List Change) : Prop :=
  ∀ a b, f.Ties batch a b →
    InPlace (.ofString a.path) (c.findings? files (.ofString a.path)) c.outline

variable {c : Catalog} {f : Filter} {batch batch' : List Change}

theorem watches_of_watchers (h : c.watchers = [.running f]) : c.Watches f := by
  rw [Watches, h, List.find?_singleton]
  exact if_pos (by simp)

theorem deliver_eq (h : c.Watches f) (files : FileTree) (batch : List Change) :
    c.deliver files f.root batch =
      ((c.followEach files ((Watcher.running f).delivery batch)).1, true,
        (c.followEach files ((Watcher.running f).delivery batch)).2) := by
  rw [deliver, h]

/-- Changes of one path are followed in the order in which they come. -/
theorem deliver_onePath (h : c.Watches f) (files : FileTree) {path : String}
    (haccepted : f.accepts path = true) (hpath : ∀ a ∈ batch, a.path = path) :
    c.deliver files f.root batch =
      ((c.followEach files (batch.map (·.event))).1, true,
        (c.followEach files (batch.map (·.event))).2) := by
  rw [deliver_eq h, delivery_eq, sorted_onePath haccepted hpath]

/-- **Without ties, nothing depends on the order of a batch:** not the nodes, the books
    or the listeners of the catalog, and not what is reported. -/
theorem deliver_eq_of_untied (h : c.Watches f) (files : FileTree)
    (huntied : ∀ a b, ¬f.Ties batch a b) (hperm : batch' ~ batch) :
    c.deliver files f.root batch' = c.deliver files f.root batch := by
  rw [deliver_eq h, deliver_eq h, delivery_eq_of_untied huntied hperm]

/-- What a change makes of an outline. -/
def turnBy (c : Catalog) (files : FileTree) (ps : List PackageOutline) (a : Change) :
    List PackageOutline :=
  turn c.packageLabel (c.findings? files) a.event ps

theorem outline_deliver (hs : c.Sound) (h : c.Watches f) (files : FileTree)
    (batch : List Change) :
    (c.deliver files f.root batch).1.outline =
      (f.sorted batch).foldl (c.turnBy files) c.outline := by
  rw [deliver_eq h, outline_followEach hs, delivery_eq, List.foldl_map]
  rfl

/-- A sound catalog with these settings has the outline, and the tied files are in their
    places there. -/
def Tidy (c : Catalog) (files : FileTree) (f : Filter) (batch : List Change)
    (ps : List PackageOutline) : Prop :=
  ∃ c' : Catalog, c'.Sound ∧ c'.settings = c.settings ∧ c'.outline = ps ∧
    c'.Unmoved files f batch

theorem turnBy_congr {c' : Catalog} (hsettings : c'.settings = c.settings) (files : FileTree) :
    c'.turnBy files = c.turnBy files := by
  funext ps a
  have hfound : c'.findings? files = c.findings? files :=
    funext fun q => findings?_congr hsettings rfl
  rw [turnBy, turnBy, packageLabel_congr hsettings, hfound]

/-- **Every change leaves the tied files in their places.** -/
theorem Tidy.turnBy {files : FileTree} {ps : List PackageOutline}
    (h : c.Tidy files f batch ps) (a : Change) :
    c.Tidy files f batch (c.turnBy files ps a) := by
  obtain ⟨c', hs, hsettings, rfl, hunmoved⟩ := h
  have hkeeps := c'.keeps_follow files a.event
  refine ⟨(c'.follow files a.event).1, hkeeps.sound hs, hkeeps.settings.trans hsettings, ?_, ?_⟩
  · rw [outline_follow hs, ← turnBy_congr hsettings]
    rfl
  · intro b d hties
    have hplace := (hunmoved b d hties).turn (c'.findings? files) c'.packageLabel a.event
    rwa [← outline_follow hs, ← findings?_congr hkeeps.settings rfl] at hplace

/-- **Tied changes commute** if none is a deletion. -/
theorem Tidy.turnBy_comm {files : FileTree} {ps : List PackageOutline}
    (h : c.Tidy files f batch ps) (hties : ∀ a b, f.Ties batch a b → a.kind ≠ .deleted)
    {a b : Change} (ha : a ∈ f.sorted batch) (hb : b ∈ f.sorted batch) (hpath : b.path = a.path) :
    c.turnBy files (c.turnBy files ps a) b = c.turnBy files (c.turnBy files ps b) a := by
  obtain ⟨c', hs, hsettings, rfl, hunmoved⟩ := h
  rcases eq_or_ties ha hb hpath with rfl | hab
  · rfl
  have hba : f.Ties batch b a :=
    ⟨hab.right, hab.left, hpath ▸ hab.accepted, hpath.symm, hab.kind.symm⟩
  have hdeleted := hties a b hab
  have hdeleted' := hties b a hba
  have hcomm := turn_comm hs files (hunmoved a b hab)
  have hkind := hab.kind
  rw [← turnBy_congr hsettings]
  obtain ⟨kind, path⟩ := a
  obtain ⟨kind', path'⟩ := b
  obtain rfl : path' = path := hpath
  cases kind with
  | created =>
    cases kind' with
    | created => exact absurd rfl hkind
    | modified => exact hcomm
    | deleted => exact absurd rfl hdeleted'
  | modified =>
    cases kind' with
    | created => exact hcomm.symm
    | modified => exact absurd rfl hkind
    | deleted => exact absurd rfl hdeleted'
  | deleted => exact absurd rfl hdeleted

/-- **Ties without deletions** do not matter to the outline. -/
theorem outline_deliver_perm (hs : c.Sound) (h : c.Watches f) {files : FileTree}
    (hunmoved : c.Unmoved files f batch) (hties : ∀ a b, f.Ties batch a b → a.kind ≠ .deleted)
    (hperm : batch' ~ batch) :
    (c.deliver files f.root batch').1.outline = (c.deliver files f.root batch).1.outline := by
  rw [outline_deliver hs h, outline_deliver hs h]
  refine foldl_eq_of_sorted (c.Tidy files f batch) (sorted_perm hperm)
    (pairwise_sorted f batch) (pairwise_sorted f batch') (fun ps hps a _ => hps.turnBy a) ?_ ?_
  · exact fun ps hps a ha b hb hkeys => hps.turnBy_comm hties ha hb hkeys.symm
  · exact ⟨c, hs, rfl, rfl, hunmoved⟩

end Catalog

/-! ## 4. Deletions

A workspace has one file, and nothing has been read yet.  Then the last change of the
file says whether it is in the tree, and all other changes say nothing. -/

namespace Watch

variable {f : Filter} {batch : List Change}

/-- Sorting leaves the changes of one path in their order. -/
theorem filter_sorted (f : Filter) (batch : List Change) (path : String) :
    (f.sorted batch).filter (·.path = path) =
      (batch.filter fun c => f.accepts c.path).filter (·.path = path) := by
  generalize hl : (batch.filter fun c => f.accepts c.path) = l
  have hpaths : ∀ a ∈ l.filter (·.path = path), a.path = path := fun a ha => by
    simpa using (List.mem_filter.mp ha).2
  have hsublist : (l.filter (·.path = path)).Sublist (f.sorted batch) := by
    rw [Filter.sorted, hl]
    exact List.sublist_mergeSort path_le_trans path_le_total (pairwise_onePath hpaths)
      List.filter_sublist
  have hfiltered := hsublist.filter (·.path = path)
  rw [List.filter_filter] at hfiltered
  simp only [Bool.and_self] at hfiltered
  have hperm : f.sorted batch ~ l := hl ▸ List.mergeSort_perm ..
  exact (hfiltered.eq_of_length (hperm.filter _).length_eq.symm).symm

/-- The changes of one kind in front of the others, each kind in its order. -/
def ahead (first : Change → Bool) (batch : List Change) : List Change :=
  batch.filter first ++ batch.filter fun a => !first a

theorem ahead_perm (first : Change → Bool) (batch : List Change) : ahead first batch ~ batch :=
  List.filter_append_perm first batch

/-- Of the changes of one path, one of the others comes last. -/
theorem getLast?_ahead (first : Change → Bool) {a : Change} (ha : a ∈ f.sorted batch)
    (hfirst : first a = false) :
    ∃ b, ((f.sorted (ahead first batch)).filter (·.path = a.path)).getLast? = some b ∧
      first b = false := by
  obtain ⟨hmem, haccepted⟩ := mem_sorted.mp ha
  let others := ((batch.filter fun a => !first a).filter fun c => f.accepts c.path).filter
    (·.path = a.path)
  have hothers : others ≠ [] := by
    refine List.ne_nil_of_mem (a := a) ?_
    simp [others, hmem, haccepted, hfirst]
  refine ⟨others.getLast hothers, ?_, ?_⟩
  · rw [filter_sorted, ahead, List.filter_append, List.filter_append, List.getLast?_append,
      List.getLast?_eq_some_getLast hothers, Option.some_or]
  · have hlast := List.getLast_mem hothers
    have hkept := List.mem_of_mem_filter (List.mem_of_mem_filter hlast)
    simpa using (List.mem_filter.mp hkept).2

end Watch

/-! ### 4.1 One file -/

section Alone

variable {label : Labels} {found : Plan} {q : Path} {package : String} {ds : List Declaration}

/-- The outline with one file. -/
def aloneOutline (label : Labels) (q : Path) (package : String) (ds : List Declaration) :
    List PackageOutline :=
  enterOutline [] (label q.parent package) q package ds

theorem aloneOutline_eq : aloneOutline label q package ds =
    [⟨packageHead label q.parent package, [(FileOutline.empty q).enterAll q ds]⟩] := rfl

theorem stocked_aloneOutline (hds : ds ≠ []) :
    ∀ p ∈ aloneOutline label q package ds, p.Stocked :=
  stocked_enterOutline (fun _ hp => absurd hp List.not_mem_nil) _ q package hds

theorem firstAt?_aloneOutline : firstAt? q (aloneOutline label q package ds) =
    some ⟨packageHead label q.parent package, (FileOutline.empty q).enterAll q ds⟩ := by
  have hfiled : filed (aloneOutline label q package ds) =
      [⟨packageHead label q.parent package, (FileOutline.empty q).enterAll q ds⟩] := rfl
  rw [firstAt?, hfiled, List.find?_singleton, if_pos]
  rw [decide_eq_true_eq, FileOutline.head_enterAll]
  rfl

theorem firstAt?_aloneOutline_of_ne {q' : Path} (h : q' ≠ q) :
    firstAt? q' (aloneOutline label q package ds) = none := by
  refine firstAt?_eq_none_iff.mpr fun a ha hpath => h ?_
  rcases mem_places_enterOutline ha with ha | rfl
  · cases ha
  · exact hpath.symm

/-- An event of a file that is neither in a stocked outline nor found changes nothing. -/
theorem turn_eq_self {ps : List PackageOutline} {e : Watch.FileEvent} (hnone : found e.path = none)
    (hfirst : firstAt? e.path ps = none) (hstocked : ∀ p ∈ ps, p.Stocked) :
    turn label found e ps = ps := by
  obtain ⟨kind, q⟩ := e
  have hprune := pruneOutline_eq_self hstocked
  cases kind with
  | created => simp only [turn, enterFound, hnone]
  | modified => simp only [turn, enterFound, emptyFirst, hnone, hfirst, hprune]
  | deleted => simp only [turn, hfirst]

/-- What the outline is after a change of the file. -/
def aloneAfter (label : Labels) (q : Path) (package : String) (ds : List Declaration)
    (kind : Watch.ChangeKind) : List PackageOutline :=
  if kind = .deleted then [] else aloneOutline label q package ds

theorem turn_nil (hfound : found q = some (package, ds)) (hds : ds ≠ []) (kind : Watch.ChangeKind) :
    turn label found ⟨kind, q⟩ [] = aloneAfter label q package ds kind := by
  cases kind with
  | created => simp only [turn, enterFound, hfound]; rfl
  | modified =>
    simp only [turn, enterFound, hfound]
    exact pruneOutline_eq_self (stocked_aloneOutline hds)
  | deleted => rfl

theorem turn_aloneOutline (hfound : found q = some (package, ds)) (hds : ds ≠ [])
    (kind : Watch.ChangeKind) :
    turn label found ⟨kind, q⟩ (aloneOutline label q package ds) =
      aloneAfter label q package ds kind := by
  have hnil : DistinctIds [] := ⟨List.nodup_nil, fun p hp => absurd hp List.not_mem_nil⟩
  cases kind with
  | created =>
    simp only [turn, enterFound, hfound]
    refine enterOutline_eq_self (hnil.enter _ q package ds) _ q package hds fun e he => ?_
    exact (overlays_enterOutline hnil _ q package ds e).mpr (Or.inl he)
  | modified =>
    have hagain : enterFound label q (some (package, ds))
        (emptyFirst q (aloneOutline label q package ds)) = aloneOutline label q package ds :=
      enter_emptyFirst_enter hnil (fun _ hp => absurd hp List.not_mem_nil) hds
        (fun _ _ _ _ ha => absurd ha List.not_mem_nil) label
    simp only [turn, hfound, hagain]
    exact pruneOutline_eq_self (stocked_aloneOutline hds)
  | deleted =>
    simp only [turn, firstAt?_aloneOutline]
    simp [aloneOutline_eq, dropPlace, Keyed.alter, pruneOutline, PackageOutline.prune, aloneAfter]

/-- **The last change of the file tells** what the outline is. -/
theorem foldl_turn_alone (hfound : found q = some (package, ds)) (hds : ds ≠ []) {path : String}
    (hpath : Path.ofString path = q) {changes : List Watch.Change}
    (hothers : ∀ a ∈ changes, a.path ≠ path →
      Path.ofString a.path ≠ q ∧ found (.ofString a.path) = none)
    {ps : List PackageOutline} (hps : ps = [] ∨ ps = aloneOutline label q package ds) :
    changes.foldl (fun ps a => turn label found a.event ps) ps =
      match (changes.filter (·.path = path)).getLast? with
      | none => ps
      | some a => aloneAfter label q package ds a.kind := by
  induction changes generalizing ps with
  | nil => rfl
  | cons a rest ih =>
    have hrest : ∀ b ∈ rest, b.path ≠ path →
        Path.ofString b.path ≠ q ∧ found (.ofString b.path) = none := fun b hb =>
      hothers b (List.mem_cons_of_mem _ hb)
    rw [List.foldl_cons]
    by_cases ha : a.path = path
    · have hevent : a.event = ⟨a.kind, q⟩ := by rw [Watch.Change.event, ha, hpath]
      have hturn : turn label found a.event ps = aloneAfter label q package ds a.kind := by
        rw [hevent]
        rcases hps with rfl | rfl
        · exact turn_nil hfound hds a.kind
        · exact turn_aloneOutline hfound hds a.kind
      have hafter : aloneAfter label q package ds a.kind = [] ∨
          aloneAfter label q package ds a.kind = aloneOutline label q package ds := by
        unfold aloneAfter
        split
        · exact Or.inl rfl
        · exact Or.inr rfl
      -- what the change leads to is one of the two outlines again
      rw [hturn, ih hrest hafter, List.filter_cons_of_pos (by simpa using ha), List.getLast?_cons]
      cases (rest.filter (·.path = path)).getLast? with
      | none => rfl
      | some b => rfl
    · obtain ⟨hne, hnone⟩ := hothers a List.mem_cons_self ha
      have hturn : turn label found a.event ps = ps := by
        rcases hps with rfl | rfl
        · exact turn_eq_self hnone rfl fun p hp => absurd hp List.not_mem_nil
        · exact turn_eq_self hnone (firstAt?_aloneOutline_of_ne hne) (stocked_aloneOutline hds)
      rw [hturn, ih hrest hps, List.filter_cons_of_neg (by simpa using ha)]

end Alone

/-! ### 4.2 A watched workspace -/

namespace Watch

/-- What a filter accepts is a test file below its root. -/
theorem names_of_accepts {f : Filter} (hroot : ".." ∉ f.root.names) {path : String}
    (h : f.accepts path = true) :
    ∃ names, (Path.ofString path).below? f.root = some names ∧
      (f.root.down names).names ≠ [] ∧ ".." ∉ (f.root.down names).names ∧
      Exclusion.isCandidate (.ofString path) (some f.root) f.extra = true := by
  unfold Filter.accepts at h
  rw [Bool.and_eq_true] at h
  obtain ⟨-, h⟩ := h
  cases hbelow : (Path.ofString path).below? f.root with
  | none => rw [hbelow] at h; cases h
  | some names =>
    rw [hbelow] at h
    obtain ⟨-, hcandidate⟩ := (Bool.and_eq_true _ _).mp h
    have hdown := hcandidate
    rw [Path.below?_eq_some hbelow] at hdown
    refine ⟨names, rfl, fun hnil => ?_, fun habove => ?_, hcandidate⟩
    · have hending := (Exclusion.isCandidate_down.mp hdown).1
      rw [Path.name, hnil] at hending
      exact absurd hending (by decide)
    · rcases List.mem_append.mp habove with habove | habove
      · exact hroot habove
      · cases names with
        | nil => cases habove
        | cons n rest =>
          exact Exclusion.not_above_of_isCandidate (List.cons_ne_nil n rest) hdown habove

end Watch

namespace Catalog

open Watch

variable {f : Filter}

/-- A workspace with one root, watched through the filter. -/
def watchedSettings (f : Filter) : CatalogSettings where
  roots := [f.root]
  libraries := [.gocheck]
  includePattern := f.pattern
  extra := f.extra
  watches := true
  ignored := f.ignored

/-- Nothing has been found in it yet. -/
def watchedActs : List CatalogAct := [.rescan .empty .never]

theorem listing_empty {root : Path} (hroot : ".." ∉ root.names) (pattern : String)
    (extra : List String) : FileTree.empty.listing root pattern extra = [] := by
  refine List.eq_nil_iff_forall_not_mem.mpr fun q hq => ?_
  obtain ⟨names, rfl, ⟨-, habove, -⟩, hread⟩ :=
    (FileTree.mem_listing FileTree.ordinary_empty.regular).mp hq
  have hnames : ".." ∉ (root.down names).names := fun h =>
    (List.mem_append.mp h).elim hroot habove
  rw [FileTree.read?_eq_contentAt FileTree.ordinary_empty.regular hnames,
    FileTree.contentAt_empty] at hread
  cases hread

/-- Its one watch reports through the filter. -/
theorem watchers_rescan (hroot : ".." ∉ f.root.names) :
    ((fresh (watchedSettings f)).performAll watchedActs).watchers = [.running f] := by
  have hlisting := listing_empty hroot f.pattern f.extra
  simp only [watchedActs, performAll, List.foldl_cons, List.foldl_nil, perform, rescan,
    Rescan.look, CancelSignal.never, Bool.false_eq_true, if_false, Rescan.eachRoot, Rescan.watch,
    Rescan.note, Rescan.eachFile, fresh, watchedSettings, clear, closeWatches, Watcher.start,
    hlisting, if_true, List.nil_append]
  rfl

theorem watched_rescan (hroot : ".." ∉ f.root.names) :
    let c := (fresh (watchedSettings f)).performAll watchedActs
    c.outline = [] ∧ c.Watches f := by
  have hlisting := listing_empty hroot f.pattern f.extra
  constructor
  · have hlisted : (fresh (watchedSettings f)).listed .empty = [] :=
      (List.append_nil _).trans hlisting
    have houtline := outline_rescan (sound_fresh (watchedSettings f) []) .empty
    rw [hlisted] at houtline
    exact houtline
  · exact watches_of_watchers (watchers_rescan hroot)

/-- A workspace in which one file has a test. -/
def oneFile (q : Path) : FileTree := FileTree.empty.write q (sampleTest "p")

theorem findings?_oneFile (hroot : ".." ∉ f.root.names) {path : String}
    (h : f.accepts path = true) :
    ∃ package ds, ds ≠ [] ∧ (fresh (watchedSettings f)).findings? (oneFile (.ofString path))
      (.ofString path) = some (package, ds) := by
  obtain ⟨names, hbelow, -, hordinary, hcandidate⟩ := names_of_accepts hroot h
  rw [← Path.below?_eq_some hbelow] at hordinary
  have hrootOf : (fresh (watchedSettings f)).rootOf? (.ofString path) = some f.root :=
    (List.find?_singleton ..).trans (if_pos (by rw [hbelow]; rfl))
  have hlisted : (fresh (watchedSettings f)).isCandidate (.ofString path) = true := by
    rw [isCandidate, hrootOf]
    exact hcandidate
  have htext : ((fresh (watchedSettings f)).findingsIn?
      (Text.Utf8.decode (sampleTest "p"))).isSome := by
    have hsample : ((fresh sampleSettings).findingsIn?
        (Text.Utf8.decode (sampleTest "p"))).isSome := by decide +kernel
    exact hsample
  obtain ⟨⟨package, ds⟩, hentry⟩ := Option.isSome_iff_exists.mp htext
  have hfound : (fresh (watchedSettings f)).findings? (oneFile (.ofString path)) (.ofString path) =
      some (package, ds) :=
    findings?_eq_some.mpr ⟨hlisted, _,
      FileTree.read?_write_self FileTree.ordinary_empty.regular hordinary, hentry⟩
  exact ⟨package, ds, (findings?_some hfound).2.2, hfound⟩

theorem findings?_oneFile_of_ne (hroot : ".." ∉ f.root.names) {path path' : String}
    (h : f.accepts path = true) (h' : f.accepts path' = true)
    (hne : Path.ofString path' ≠ .ofString path) :
    (fresh (watchedSettings f)).findings? (oneFile (.ofString path)) (.ofString path') = none := by
  obtain ⟨names, hbelow, hnonempty, hordinary, -⟩ := names_of_accepts hroot h
  obtain ⟨names', hbelow', -, hordinary', -⟩ := names_of_accepts hroot h'
  rw [Path.below?_eq_some hbelow, Path.below?_eq_some hbelow'] at hne ⊢
  have hnames : (f.root.down names').names ≠ (f.root.down names).names := fun hsame =>
    hne (congrArg (Path.mk f.root.anchor) hsame)
  have hnothing : ∀ es, FileTree.empty.descend (f.root.down names).names ≠ some (.folder es) := by
    intro es
    obtain ⟨n, rest, hcons⟩ := List.exists_cons_of_ne_nil hnonempty
    have hnone : FileTree.empty.descend (n :: rest) = none := rfl
    rw [hcons, hnone]
    exact Option.some_ne_none _ |>.symm
  have hread : (oneFile (f.root.down names)).read? (f.root.down names') = none := by
    have hempty := FileTree.ordinary_empty.regular
    rw [oneFile, FileTree.read?_write_of_ne hempty hordinary hordinary' hnames
      (fun _ _ _ => FileTree.contentAt_empty _) hnothing,
      FileTree.read?_eq_contentAt hempty hordinary', FileTree.contentAt_empty]
  refine Option.eq_none_iff_forall_ne_some.mpr fun e hfound => ?_
  have hsome := (findings?_some hfound).2.1
  rw [hread] at hsome
  cases hsome

/-- **With one file in the workspace**, the last of its changes tells what is in the tree. -/
theorem outline_deliver_oneFile (hroot : ".." ∉ f.root.names) {batch : List Change}
    (hwritten : ∀ a ∈ batch, (Path.ofString a.path).text = a.path) {path : String}
    (haccepted : f.accepts path = true) (hpath : (Path.ofString path).text = path) :
    ∃ label package ds, ds ≠ [] ∧ ∀ batch', batch' ~ batch →
      (((fresh (watchedSettings f)).performAll watchedActs).deliver (oneFile (.ofString path))
          f.root batch').1.outline =
        match ((f.sorted batch').filter (·.path = path)).getLast? with
        | none => []
        | some a => aloneAfter label (.ofString path) package ds a.kind := by
  obtain ⟨houtline, hwatches⟩ := watched_rescan hroot
  obtain ⟨package, ds, hds, hfound⟩ := findings?_oneFile hroot haccepted
  have hsettings := settings_performAll (watchedSettings f) [] watchedActs
  have hsound := sound_performAll (watchedSettings f) [] watchedActs
  generalize (fresh (watchedSettings f)).performAll watchedActs = c at *
  have hfindings : c.findings? (oneFile (.ofString path)) =
      (fresh (watchedSettings f)).findings? (oneFile (.ofString path)) :=
    funext fun q => findings?_congr hsettings rfl
  refine ⟨c.packageLabel, package, ds, hds, fun batch' hperm => ?_⟩
  rw [outline_deliver hsound hwatches, houtline]
  refine foldl_turn_alone (hfindings ▸ hfound) hds rfl (fun a ha hne => ?_) (Or.inl rfl)
  obtain ⟨hmem, haccepted'⟩ := mem_sorted.mp ha
  have hother : Path.ofString a.path ≠ .ofString path := fun hsame => hne <| by
    rw [← hwritten a (hperm.mem_iff.mp hmem), hsame, hpath]
  exact ⟨hother, hfindings ▸ findings?_oneFile_of_ne hroot haccepted haccepted' hother⟩

/-- Whether a file that can be read is in the tree, is decided by the order of a deletion
    and another change of it. -/
theorem outline_deliver_ne (hroot : ".." ∉ f.root.names) {batch : List Change}
    (hwritten : ∀ a ∈ batch, (Path.ofString a.path).text = a.path) {a b : Change}
    (hties : f.Ties batch a b) (hdeleted : a.kind = .deleted) :
    let c := (fresh (watchedSettings f)).performAll watchedActs
    let files := oneFile (.ofString a.path)
    (c.deliver files f.root (ahead (·.kind ≠ .deleted) batch)).1.outline ≠
      (c.deliver files f.root (ahead (·.kind = .deleted) batch)).1.outline := by
  intro c files
  obtain ⟨label, package, ds, hds, houtline⟩ :=
    outline_deliver_oneFile hroot hwritten hties.accepted (hwritten a hties.left)
  have hkind : b.kind ≠ .deleted := hdeleted ▸ hties.kind
  have hsortedA : a ∈ f.sorted batch := mem_sorted.mpr ⟨hties.left, hties.accepted⟩
  have hsortedB : b ∈ f.sorted batch := mem_sorted.mpr ⟨hties.right, hties.path ▸ hties.accepted⟩
  obtain ⟨x, hx, hxkind⟩ := getLast?_ahead (·.kind ≠ .deleted) hsortedA (by simpa)
  obtain ⟨y, hy, hykind⟩ := getLast?_ahead (·.kind = .deleted) hsortedB (by simpa)
  have hlastDeleted : x.kind = .deleted := by simpa using hxkind
  have hlastOther : y.kind ≠ .deleted := by simpa using hykind
  rw [hties.path] at hy
  rw [houtline _ (ahead_perm _ batch), houtline _ (ahead_perm _ batch), hx, hy]
  simp only [aloneAfter, hlastDeleted, hlastOther, if_true, if_false, aloneOutline_eq]
  exact (List.cons_ne_nil _ _).symm

/-! ## 5. Orders -/

/-- All orders of a batch lead to one tree, whatever is known of the files and whatever
    they hold, as long as those with several changes are in their places. -/
def AnyOrder (f : Filter) (batch : List Change) : Prop :=
  ∀ settings listeners acts files batch',
    let c := (fresh settings listeners).performAll acts
    c.Watches f → c.Unmoved files f batch → batch' ~ batch →
      (c.deliver files f.root batch').1.outline = (c.deliver files f.root batch).1.outline

/-- **When the order of a batch matters.**  If no deletion is tied, all orders lead to one
    tree.  If one is tied, they do not: for each such batch of written paths there is a
    catalog that has been told of nothing and a file that can be read.  And if there are no
    ties at all, the orders lead to the same catalog and the same reports. -/
theorem deliver_orders (f : Filter) (batch : List Change) :
    ((∀ a b, f.Ties batch a b → a.kind ≠ .deleted) → AnyOrder f batch) ∧
    (".." ∉ f.root.names → (∀ a ∈ batch, (Path.ofString a.path).text = a.path) →
      AnyOrder f batch → ∀ a b, f.Ties batch a b → a.kind ≠ .deleted) ∧
    ((∀ a b, ¬f.Ties batch a b) → ∀ (c : Catalog) files batch', c.Watches f → batch' ~ batch →
      c.deliver files f.root batch' = c.deliver files f.root batch) := by
  refine ⟨fun hties => ?_, fun hroot hwritten hsame a b hties hdeleted => ?_, fun huntied => ?_⟩
  · intro settings listeners acts files batch' c hwatches hunmoved hperm
    exact outline_deliver_perm (sound_performAll settings listeners acts) hwatches hunmoved hties
      hperm
  · obtain ⟨houtline, hwatches⟩ := watched_rescan hroot
    have hunmoved : ((fresh (watchedSettings f)).performAll watchedActs).Unmoved
        (oneFile (.ofString a.path)) f batch := fun _ _ _ _ _ _ place hplace => by
      rw [houtline] at hplace
      cases hplace
    -- the two orders differ in which of the tied changes come last
    have horder := fun first => hsame (watchedSettings f) [] watchedActs
      (oneFile (.ofString a.path)) (ahead first batch) hwatches hunmoved (ahead_perm first batch)
    exact outline_deliver_ne hroot hwritten hties hdeleted ((horder _).trans (horder _).symm)
  · exact fun c files batch' hwatches hperm => deliver_eq_of_untied hwatches files huntied hperm

/-- The filter of a watched workspace. -/
def sampleFilter : Filter := sampleSettings.filterOf (.ofString "/w")

/-- A new file is written after it has been created; or it is deleted. -/
theorem deliver_orders_written :
    let batch : List Change := [⟨.created, "/w/a_test.go"⟩, ⟨.modified, "/w/a_test.go"⟩]
    let c := (fresh (watchedSettings sampleFilter)).performAll watchedActs
    (c.deliver sampleFiles sampleFilter.root batch.reverse).1.outline =
        (c.deliver sampleFiles sampleFilter.root batch).1.outline ∧
      (c.deliver sampleFiles sampleFilter.root batch).1.entries.map (·.ids) =
        [["/w:p"], ["/w:p", "a_test"], ["/w:p", "a_test", "Suite"],
          ["/w:p", "a_test", "Suite", "Suite.TestX"]] ∧
      ¬AnyOrder sampleFilter [⟨.created, "/w/a_test.go"⟩, ⟨.deleted, "/w/a_test.go"⟩] := by
  intro batch c
  have hroot : ".." ∉ sampleFilter.root.names := by decide +kernel
  have haccepted : sampleFilter.accepts "/w/a_test.go" = true := by decide +kernel
  obtain ⟨hnew, hwatches⟩ : c.outline = [] ∧ c.Watches sampleFilter := watched_rescan hroot
  have hunmoved : c.Unmoved sampleFiles sampleFilter batch := by
    intro a b _ package ds _ place hplace _
    rw [hnew] at hplace
    cases hplace
  have hkinds : ∀ a ∈ batch, a.kind ≠ .deleted := by decide
  refine ⟨?_, ?_, fun hsame => ?_⟩
  · exact (deliver_orders sampleFilter batch).1 (fun a b hties => hkinds a hties.left) _ [] _ _ _
      hwatches hunmoved (List.reverse_perm batch)
  · rw [deliver_onePath hwatches sampleFiles haccepted (by decide)]
    decide +kernel
  · have hties : sampleFilter.Ties [⟨.created, "/w/a_test.go"⟩, ⟨.deleted, "/w/a_test.go"⟩]
        ⟨.deleted, "/w/a_test.go"⟩ ⟨.created, "/w/a_test.go"⟩ :=
      ⟨by decide, by decide, haccepted, rfl, by decide⟩
    exact (deliver_orders sampleFilter _).2.1 hroot (by decide +kernel) hsame _ _ hties rfl

/-- Two files of two packages, and then of one. -/
def sampleApart : FileTree :=
  (FileTree.empty.write (.ofString "/w/a_test.go") (sampleTest "q")).write
    (.ofString "/w/b_test.go") (sampleTest "p")

def sampleJoined : FileTree := sampleApart.write (.ofString "/w/b_test.go") (sampleTest "q")

def sampleApartActs : List CatalogAct :=
  watchedActs ++ ["/w/a_test.go", "/w/b_test.go"].map fun path =>
    .discover sampleApart (.ofString path) none

/-- The files of the tree, each with its package, after changes of one file. -/
def filesAfter (acts : List CatalogAct) (files : FileTree) (path : String)
    (kinds : List ChangeKind) : List (String × String) :=
  let c := (fresh (watchedSettings sampleFilter)).performAll acts
  (c.deliver files sampleFilter.root (kinds.map (⟨·, path⟩))).1.placedFiles.map fun x =>
    (x.1.info.id, x.2.info.path.text)

theorem filesAfter_eq {acts : List CatalogAct} {files : FileTree} {path : String}
    {kinds : List ChangeKind}
    (hwatches : ((fresh (watchedSettings sampleFilter)).performAll acts).watchers =
      [.running sampleFilter]) (haccepted : sampleFilter.accepts path = true) :
    filesAfter acts files path kinds =
      (((fresh (watchedSettings sampleFilter)).performAll acts).followEach files
        (kinds.map (⟨·, .ofString path⟩))).1.placedFiles.map fun x =>
          (x.1.info.id, x.2.info.path.text) := by
  have hpath : ∀ a ∈ kinds.map fun kind => Change.mk kind path, a.path = path := by
    intro a ha
    obtain ⟨kind, -, rfl⟩ := List.mem_map.mp ha
    rfl
  rw [filesAfter, deliver_onePath (watches_of_watchers hwatches) files haccepted hpath,
    List.map_map]
  rfl

/-- A file that can be read is gone if its deletion comes last; and one that has moved to an
    earlier package stays in its former one as well if its creation comes first. -/
theorem tied_orders_differ :
    filesAfter watchedActs sampleFiles "/w/a_test.go" [.created, .deleted] = [] ∧
    filesAfter watchedActs sampleFiles "/w/a_test.go" [.deleted, .created] =
      [("/w:p", "/w/a_test.go")] ∧
    filesAfter watchedActs sampleFiles "/w/a_test.go" [.modified, .deleted] = [] ∧
    filesAfter watchedActs sampleFiles "/w/a_test.go" [.deleted, .modified] =
      [("/w:p", "/w/a_test.go")] ∧
    filesAfter sampleApartActs sampleJoined "/w/b_test.go" [.created, .modified] =
      [("/w:q", "/w/a_test.go"), ("/w:q", "/w/b_test.go"), ("/w:p", "/w/b_test.go")] ∧
    filesAfter sampleApartActs sampleJoined "/w/b_test.go" [.modified, .created] =
      [("/w:q", "/w/a_test.go"), ("/w:q", "/w/b_test.go")] := by
  have hnew : ((fresh (watchedSettings sampleFilter)).performAll watchedActs).watchers =
      [.running sampleFilter] := watchers_rescan (by decide +kernel)
  have hapart : ((fresh (watchedSettings sampleFilter)).performAll sampleApartActs).watchers =
      [.running sampleFilter] :=
    ((watches_discover _ sampleApart _).1.trans (watches_discover _ sampleApart _).1).trans hnew
  have haccepted : sampleFilter.accepts "/w/a_test.go" = true ∧
      sampleFilter.accepts "/w/b_test.go" = true := by decide +kernel
  simp only [filesAfter_eq hnew haccepted.1, filesAfter_eq hapart haccepted.2]
  decide +kernel

end Catalog

end SuiteExplorer
