/-
  SuiteExplorer/Proofs/Catalog/Notification.lean
  ==============================================
  **Who hears of a change.**

  An operation first changes the tree, without a word, and says whether it did; then it
  calls the listeners once, in their order, up to the first that fails.  `Quietly` is
  the first half: a tree that is said not to have changed has not changed.  A rescan is
  a series of such operations behind a step that calls nobody, the one that takes
  everything out.  `stages` lists what becomes of the tree and who is called then, and
  `Missed` says that a listener is not called any more after some change.  A listener
  behind others that do not fail misses a change in one case only: a rescan takes
  everything out and finds nothing (`missed_iff`).
-/
import SuiteExplorer.Proofs.Catalog.Following

namespace SuiteExplorer

/-! ## 1. A round of calls -/

/-- The listener in this place is there, and those before it never fail: one that does ends
    the round (`length_callListeners_le`). -/
structure Catalog.Heard (c : Catalog) (place : Nat) : Prop where
  present : place < c.listeners.length
  calm : ∀ l ∈ c.listeners.take place, ∀ n, l.fails n = false

theorem callListeners_prefix (calls : Nat) (ls : List Listener) :
    (callListeners calls ls).1 <+: ls.map (·.name) := by
  induction ls generalizing calls with
  | nil => exact List.prefix_refl _
  | cons l rest ih =>
    rw [callListeners, List.map_cons]
    split
    · exact List.cons_prefix_cons.mpr ⟨rfl, List.nil_prefix⟩
    · exact List.cons_prefix_cons.mpr ⟨rfl, ih (calls + 1)⟩

/-- A round reaches whoever stands behind calm listeners. -/
theorem lt_length_callListeners {ls : List Listener} {place : Nat} (calls : Nat)
    (hplace : place < ls.length) (hcalm : ∀ l ∈ ls.take place, ∀ n, l.fails n = false) :
    place < (callListeners calls ls).1.length := by
  induction ls generalizing calls place with
  | nil => cases hplace
  | cons l rest ih =>
    rw [callListeners]
    cases place with
    | zero =>
      split
      · exact Nat.zero_lt_one
      · exact Nat.zero_lt_succ _
    | succ place =>
      rw [List.take_succ_cons] at hcalm
      rw [if_neg (by rw [hcalm l List.mem_cons_self calls]; exact Bool.false_ne_true)]
      apply Nat.succ_lt_succ
      apply ih (calls + 1) (Nat.lt_of_succ_lt_succ hplace)
      exact fun l' hl' => hcalm l' (List.mem_cons_of_mem _ hl')

/-- A listener that fails ends the round: nobody behind it is called. -/
theorem length_callListeners_le {ls : List Listener} {place : Nat} {l : Listener} (calls : Nat)
    (hl : ls[place]? = some l) (hfails : l.fails (calls + place) = true) :
    (callListeners calls ls).1.length ≤ place + 1 := by
  induction ls generalizing calls place with
  | nil => cases hl
  | cons first rest ih =>
    rw [callListeners]
    split
    · exact Nat.succ_le_succ (Nat.zero_le place)
    case isFalse hcalm =>
      cases place with
      | zero =>
        obtain rfl := Option.some.inj hl
        exact absurd hfails hcalm
      | succ place =>
        rw [← Nat.add_assoc, Nat.add_right_comm] at hfails
        exact Nat.succ_le_succ (ih (calls + 1) hl hfails)

namespace Catalog

theorem packages_notifyIf (c : Catalog) (changed : Bool) (journal : Journal) :
    (c.notifyIf changed journal).1.packages = c.packages := by
  unfold notifyIf
  split <;> rfl

theorem listeners_notifyIf (c : Catalog) (changed : Bool) (journal : Journal) :
    (c.notifyIf changed journal).1.listeners = c.listeners := by
  unfold notifyIf
  split <;> rfl

theorem called_notifyIf (c : Catalog) (changed : Bool) (journal : Journal) :
    (c.notifyIf changed journal).2.called =
      if changed then (callListeners c.calls c.listeners).1 else [] := by
  unfold notifyIf
  split <;> rfl

theorem called_notifyIf_prefix (c : Catalog) (changed : Bool) (journal : Journal) :
    (c.notifyIf changed journal).2.called <+: c.listeners.map (·.name) := by
  rw [called_notifyIf]
  split
  · exact callListeners_prefix _ _
  · exact List.nil_prefix

/-! ## 2. Changes of the tree -/

/-- The tree changes without a word: whether it did is told, and the listeners stay. -/
structure Quietly (c c' : Catalog) (changed : Bool) : Prop where
  listeners : c'.listeners = c.listeners
  told : changed = false → c'.packages = c.packages

theorem Quietly.refl (c : Catalog) : c.Quietly c false := ⟨rfl, fun _ => rfl⟩

theorem Quietly.trans {c c' c'' : Catalog} {changed changed' : Bool} (h : c.Quietly c' changed)
    (h' : c'.Quietly c'' changed') : c.Quietly c'' (changed || changed') where
  listeners := h'.listeners.trans h.listeners
  told hnone := by
    rw [Bool.or_eq_false_iff] at hnone
    exact (h'.told hnone.2).trans (h.told hnone.1)

theorem quietly_discoverText (c : Catalog) (path : Path) (text : String) :
    c.Quietly (c.discoverText path text).1 (c.discoverText path text).2.1 ∧
      ((c.discoverText path text).2.1 = true → (c.discoverText path text).1.packages ≠ []) := by
  unfold discoverText
  split
  · exact ⟨.refl c, nofun⟩
  · split
    · exact ⟨.refl c, nofun⟩
    · refine ⟨⟨?_, nofun⟩, fun _ => ?_⟩
      · unfold enterFile
        dsimp only
        split <;> rfl
      · unfold enterFile
        dsimp only
        split
        case h_1 p hfind =>
          have hne := List.ne_nil_of_mem (List.mem_of_find?_eq_some hfind)
          simpa using hne
        case h_2 => simp

/-- **Discovering a file** tells of a change, and then there is something in the tree. -/
theorem quietly_discoverQuietly (c : Catalog) (files : FileTree) (path : Path)
    (content : Option String) :
    c.Quietly (c.discoverQuietly files path content).1 (c.discoverQuietly files path content).2.1 ∧
      ((c.discoverQuietly files path content).2.1 = true →
        (c.discoverQuietly files path content).1.packages ≠ []) := by
  unfold discoverQuietly
  split
  · exact ⟨.refl c, nofun⟩
  · split
    · exact c.quietly_discoverText path _
    · split
      · exact c.quietly_discoverText path _
      · exact ⟨.refl c, nofun⟩

theorem quietly_discoverEach (files : FileTree) (paths : List Path) (c : Catalog) :
    c.Quietly (c.discoverEach files paths).1 (c.discoverEach files paths).2.1 := by
  induction paths generalizing c with
  | nil => exact .refl c
  | cons path paths ih => exact (c.quietly_discoverQuietly files path none).1.trans (ih _)

end Catalog

/-! ### 2.1 Emptying a node that holds nothing -/

namespace Subtree

mutual

theorem emptied_of_childless {ref : NodeRef} {found : Subtree} (hfound : found.children = []) :
    ∀ t : Subtree, t.refs.Nodup → t.find? ref = some found → t.emptied ref = t
  | node i cs, hnd, h => by
    rw [refs_node] at hnd
    rw [find?] at h
    rw [emptied]
    split at h
    case isTrue hi =>
      obtain rfl := Option.some.inj h
      rw [if_pos hi]
      exact congrArg (node i) (Eq.symm hfound)
    case isFalse hi =>
      rw [if_neg hi, emptiedIn_of_childless hfound cs (List.nodup_cons.mp hnd).2 h]

/-- Emptying a node that holds nothing changes nothing. -/
theorem emptiedIn_of_childless {ref : NodeRef} {found : Subtree} (hfound : found.children = []) :
    ∀ ts : List Subtree, (refsOf ts).Nodup → findIn? ref ts = some found → emptiedIn ref ts = ts
  | [], _, h => by cases h
  | t :: ts, hnd, h => by
    rw [refsOf_cons, List.nodup_append] at hnd
    obtain ⟨hndt, hndts, hdisj⟩ := hnd
    rw [findIn?] at h
    rw [emptiedIn]
    split at h
    case h_1 ht =>
      -- the node is in the first tree, so not in the others
      obtain rfl := Option.some.inj h
      have hnot : ref ∉ refsOf ts := fun hr => hdisj ref (mem_refs_of_find? ht) ref hr rfl
      rw [emptied_of_childless hfound t hndt ht, emptiedIn_of_not_mem ts hnot]
    case h_2 =>
      have hnot : ref ∉ t.refs := fun hr => hdisj ref hr ref (mem_refsOf_of_findIn? h) rfl
      rw [emptied_of_not_mem t hnot, emptiedIn_of_childless hfound ts hndts h]

end

end Subtree

theorem SuiteNode.subtree_injective : Function.Injective SuiteNode.subtree := by
  intro s s' h
  have hleaf : Function.Injective Subtree.leaf := fun i j hij => (Subtree.node.inj hij).1
  obtain ⟨hinfo, htests⟩ := Subtree.node.inj h
  have hsame := List.map_injective_iff.mpr hleaf htests
  cases s
  cases s'
  simp_all

theorem FileNode.subtree_injective : Function.Injective FileNode.subtree := by
  intro f f' h
  obtain ⟨hinfo, hsuites⟩ := Subtree.node.inj h
  have hsame := List.map_injective_iff.mpr SuiteNode.subtree_injective hsuites
  cases f
  cases f'
  simp_all

theorem PackageNode.subtree_injective : Function.Injective PackageNode.subtree := by
  intro p p' h
  obtain ⟨hinfo, hfiles⟩ := Subtree.node.inj h
  have hsame := List.map_injective_iff.mpr FileNode.subtree_injective hfiles
  cases p
  cases p'
  simp_all

namespace Catalog

/-- **Emptying a node** changes the tree only if the node held something. -/
theorem quietly_clearChildren {c : Catalog} (h : c.Sound) (ref : NodeRef) :
    c.Quietly (c.clearChildren ref) !(c.childrenOf ref).isEmpty where
  listeners := rfl
  told hheld := by
    have hchildren : c.childrenOf ref = [] := by simpa using hheld
    have hsame : Subtree.emptiedIn ref c.trees = c.trees := by
      cases hfind : Subtree.findIn? ref c.trees with
      | none =>
        apply Subtree.emptiedIn_of_not_mem
        rw [← Subtree.isSome_findIn?_iff, hfind]
        exact Bool.false_ne_true
      | some found =>
        have hfound : found.children = [] := by
          simpa only [childrenOf, subtree?, hfind, Option.map_some, Option.getD_some] using hchildren
        apply Subtree.emptiedIn_of_childless hfound _ _ hfind
        rw [c.refsOf_trees]
        exact h.booked.tracks.distinct
    rw [emptied_trees] at hsame
    exact List.map_injective_iff.mpr PackageNode.subtree_injective hsame

theorem quietly_refreshQuietly {c : Catalog} (h : c.Sound) (files : FileTree) (ref : NodeRef) :
    c.Quietly (c.refreshQuietly files ref).1 (c.refreshQuietly files ref).2.1 := by
  have hdiscover := ((c.clearChildren ref).quietly_discoverQuietly files (c.pathOf ref) none).1
  have hboth := (quietly_clearChildren h ref).trans hdiscover
  rw [Bool.or_comm] at hboth
  exact hboth

/-! ### 2.2 Pruning and removing -/

/-- **Pruning** that removes no node changes nothing. -/
theorem quietly_prune (c : Catalog) : c.Quietly c.prune.1 (0 < c.prune.2.1) where
  listeners := rfl
  told hnone := by
    have hzero : c.prune.2.1 = 0 := Nat.eq_zero_of_not_pos (of_decide_eq_false hnone)
    simp only [prune, Nat.add_eq_zero_iff, List.length_eq_zero_iff, List.map_eq_nil_iff,
      List.flatMap_eq_nil_iff, emptySuites, emptyFiles, List.filter_eq_nil_iff, List.mem_map,
      forall_exists_index, and_imp, forall_apply_eq_imp_iff₂] at hzero
    obtain ⟨⟨hsuites, hfiles⟩, hpackages⟩ := hzero
    have hfile : ∀ p ∈ c.packages, ∀ f ∈ p.files, pruneFile f = f := by
      intro p hp f hf
      have hkept : f.suites.filter (fun s => !s.tests.isEmpty) = f.suites :=
        List.filter_eq_self.mpr fun s hs => by simpa using hsuites p hp f hf s hs
      rw [pruneFile, hkept]
    have hpackage : ∀ p ∈ c.packages, prunePackage p = p := by
      intro p hp
      have hsame : p.files.map pruneFile = p.files :=
        (List.map_congr_left (hfile p hp)).trans (List.map_id _)
      have hkept : (p.files.map pruneFile).filter (fun f => !f.suites.isEmpty) = p.files := by
        rw [hsame]
        refine List.filter_eq_self.mpr fun f hf => ?_
        have hne := hfiles p hp f hf
        rw [hfile p hp f hf] at hne
        simpa using hne
      rw [prunePackage, hkept]
    have hsame : c.packages.map prunePackage = c.packages :=
      (List.map_congr_left hpackage).trans (List.map_id _)
    refine (congrArg (List.filter _) hsame).trans (List.filter_eq_self.mpr fun p hp => ?_)
    have hne := hpackages p hp
    rw [hpackage p hp] at hne
    simpa using hne

theorem quietly_onModified {c : Catalog} (h : c.Sound) (files : FileTree) (path : Path) :
    c.Quietly (c.onModified files path).1 (c.onModified files path).2.1 := by
  unfold onModified
  dsimp only
  split
  · exact (c.quietly_discoverQuietly files path none).1.trans (quietly_prune _)
  · exact (quietly_refreshQuietly h files _).trans (quietly_prune _)

theorem quietly_onDeleted (c : Catalog) (path : Path) :
    c.Quietly (c.onDeleted path).1 (c.onDeleted path).2.1 := by
  unfold onDeleted removeFile
  split
  case h_1 c' hc' =>
    split at hc'
    · obtain rfl := (Prod.mk.inj hc').1
      exact .refl c
    · cases (Prod.mk.inj hc').2
  case h_2 c' hc' =>
    split at hc'
    · cases (Prod.mk.inj hc').2
    · obtain rfl := (Prod.mk.inj hc').1
      exact ⟨rfl, nofun⟩

/-! ## 3. One round -/

/-- An operation changes the tree and then calls the listeners, unless it says that
    nothing has changed. -/
structure Announces (c c' : Catalog) (report : Report) : Prop where
  listeners : c'.listeners = c.listeners
  round : report.called <+: c.listeners.map (·.name)
  heard : ∀ {place : Nat}, c.Heard place → c'.packages ≠ c.packages → place < report.called.length

theorem Quietly.announces {c c' : Catalog} {changed : Bool} (h : c.Quietly c' changed)
    (journal : Journal) :
    c.Announces (c'.notifyIf changed journal).1 (c'.notifyIf changed journal).2 where
  listeners := (listeners_notifyIf ..).trans h.listeners
  round := h.listeners ▸ called_notifyIf_prefix c' changed journal
  heard {place} hheard hchange := by
    rw [packages_notifyIf] at hchange
    have hchanged : changed = true := by
      by_contra hnot
      exact hchange (h.told (Bool.not_eq_true _ ▸ hnot))
    rw [called_notifyIf, if_pos hchanged, h.listeners]
    exact lt_length_callListeners _ hheard.present hheard.calm

theorem announces_discover (c : Catalog) (files : FileTree) (path : Path)
    (content : Option String) :
    c.Announces (c.discover files path content).1 (c.discover files path content).2.2 :=
  (c.quietly_discoverQuietly files path content).1.announces _

theorem announces_refreshFile {c : Catalog} (h : c.Sound) (files : FileTree) (ref : NodeRef) :
    c.Announces (c.refreshFile files ref).1 (c.refreshFile files ref).2 :=
  (quietly_refreshQuietly h files ref).announces _

theorem announces_refreshPackage {c : Catalog} (h : c.Sound) (files : FileTree) (ref : NodeRef) :
    c.Announces (c.refreshPackage files ref).1 (c.refreshPackage files ref).2 := by
  have hclear := quietly_clearChildren h ref
  unfold refreshPackage
  dsimp only
  split
  case h_1 => exact hclear.announces _
  case h_2 paths _ =>
    have hboth := hclear.trans (quietly_discoverEach files paths (c.clearChildren ref))
    rw [Bool.or_comm] at hboth
    exact hboth.announces _

theorem announces_follow {c : Catalog} (h : c.Sound) (files : FileTree) (event : Watch.FileEvent) :
    c.Announces (c.follow files event).1 (c.follow files event).2 := by
  unfold follow
  dsimp only
  apply Quietly.announces
  cases event.kind with
  | created => exact (c.quietly_discoverQuietly files event.path none).1
  | modified => exact quietly_onModified h files event.path
  | deleted => exact c.quietly_onDeleted event.path

theorem announces_resolve {c : Catalog} (h : c.Sound) (files : FileTree) (ref : NodeRef) :
    c.Announces (c.resolve files (some ref)).1 (c.resolve files (some ref)).2 := by
  unfold resolve
  dsimp only
  split
  · exact ⟨rfl, List.nil_prefix, fun _ hchange => absurd rfl hchange⟩
  · exact announces_refreshPackage h files ref
  · exact announces_refreshFile h files ref
  · exact c.announces_discover files _ none

end Catalog

/-! ## 4. Stages -/

/-- The tree becomes another one, or stays as it is; then listeners are called. -/
structure Stage where
  tree : List PackageNode
  called : List String

/-- What the tree is after some stages. -/
def lastTree : List PackageNode → List Stage → List PackageNode
  | tree, [] => tree
  | _, s :: rest => lastTree s.tree rest

/-- After some change of the tree nobody in this place is called any more. -/
def Missed (place : Nat) : List PackageNode → List Stage → Prop
  | _, [] => False
  | tree, s :: rest =>
    Missed place s.tree rest ∨
      (s.tree ≠ tree ∧ ∀ s' ∈ s :: rest, s'.called.length ≤ place)

/-- At each stage nothing happens, or there is something in the tree and the listener in
    this place is called. -/
def Attentive (place : Nat) : List PackageNode → List Stage → Prop
  | _, [] => True
  | tree, s :: rest =>
    ((s.tree = tree ∧ s.called = []) ∨ (s.tree ≠ [] ∧ place < s.called.length)) ∧
      Attentive place s.tree rest

section Stages

variable {place : Nat} {tree : List PackageNode} {stages later : List Stage}

theorem lastTree_append : lastTree tree (stages ++ later) = lastTree (lastTree tree stages) later := by
  induction stages generalizing tree with
  | nil => rfl
  | cons s rest ih => exact ih

theorem Attentive.append (h : Attentive place tree stages)
    (h' : Attentive place (lastTree tree stages) later) :
    Attentive place tree (stages ++ later) := by
  induction stages generalizing tree with
  | nil => exact h'
  | cons s rest ih => exact ⟨h.1, ih h.2 h'⟩

theorem Attentive.not_missed (h : Attentive place tree stages) : ¬ Missed place tree stages := by
  induction stages generalizing tree with
  | nil => exact id
  | cons s rest ih =>
    rintro (hlater | ⟨hchange, hsilent⟩)
    · exact ih h.2 hlater
    · rcases h.1 with ⟨hsame, -⟩ | ⟨-, hcalled⟩
      · exact hchange hsame
      · exact absurd (hsilent s List.mem_cons_self) (Nat.not_le.mpr hcalled)

/-- Behind such stages the tree is empty exactly if it was and nobody was called. -/
theorem Attentive.lastTree_eq_nil (h : Attentive place tree stages) :
    lastTree tree stages = [] ↔ tree = [] ∧ ∀ s ∈ stages, s.called.length ≤ place := by
  induction stages generalizing tree with
  | nil => exact (and_iff_left fun _ hs => absurd hs List.not_mem_nil).symm
  | cons s rest ih =>
    rw [lastTree, ih h.2, List.forall_mem_cons]
    rcases h.1 with ⟨hsame, hsilent⟩ | ⟨hne, hcalled⟩
    · rw [hsame, hsilent]
      simp
    · constructor
      · exact fun hnil => absurd hnil.1 hne
      · exact fun hall => absurd hall.2.1 (Nat.not_le.mpr hcalled)

end Stages

namespace Rescan

/-- The stages of discovering files one after the other. -/
def fileStages (r : Rescan) (files : FileTree) (cancelled : CancelSignal) : List Path → List Stage
  | [] => []
  | path :: rest =>
    let (r, stop) := r.look cancelled
    if stop then []
    else
      ⟨(r.file files path).catalog.packages, (r.catalog.discover files path).2.2.called⟩ ::
        (r.file files path).fileStages files cancelled rest

/-- The stages of going through the roots. -/
def rootStages (r : Rescan) (files : FileTree) (cancelled : CancelSignal) : List Path → List Stage
  | [] => []
  | root :: rest =>
    let (r, stop) := (r.watch root).look cancelled
    if stop then []
    else
      let s := r.catalog.settings
      let paths := files.listing root s.includePattern s.extra
      r.fileStages files cancelled paths ++
        (r.eachFile files cancelled paths).rootStages files cancelled rest

/-- Some stages lead from one point of a rescan to a later one. -/
structure Passes (place : Nat) (r r' : Rescan) (stages : List Stage) : Prop where
  listeners : r'.catalog.listeners = r.catalog.listeners
  called : r'.called = r.called ++ stages.flatMap (·.called)
  tree : lastTree r.catalog.packages stages = r'.catalog.packages
  rounds : ∀ s ∈ stages, s.called <+: r.catalog.listeners.map (·.name)
  attentive : r.catalog.Heard place → Attentive place r.catalog.packages stages

variable {place : Nat} {r r' r'' : Rescan} {stages later : List Stage}

theorem Passes.refl (place : Nat) (r : Rescan) : Passes place r r [] where
  listeners := rfl
  called := (List.append_nil _).symm
  tree := rfl
  rounds _ hs := absurd hs List.not_mem_nil
  attentive _ := trivial

theorem Passes.trans (h : Passes place r r' stages) (h' : Passes place r' r'' later) :
    Passes place r r'' (stages ++ later) where
  listeners := h'.listeners.trans h.listeners
  called := by rw [h'.called, h.called, List.flatMap_append, List.append_assoc]
  tree := by rw [lastTree_append, h.tree, h'.tree]
  rounds s hs := by
    rcases List.mem_append.mp hs with hs | hs
    · exact h.rounds s hs
    · exact h.listeners ▸ h'.rounds s hs
  attentive hheard := by
    apply (h.attentive hheard).append
    rw [h.tree]
    apply h'.attentive
    exact ⟨h.listeners ▸ hheard.present, h.listeners ▸ hheard.calm⟩

/-- **Discovering one file** of a rescan is one stage. -/
theorem passes_file (place : Nat) (r : Rescan) (files : FileTree) (path : Path) :
    Passes place r (r.file files path)
      [⟨(r.file files path).catalog.packages, (r.catalog.discover files path).2.2.called⟩] := by
  have hannounces := r.catalog.announces_discover files path none
  obtain ⟨hquiet, hne⟩ := r.catalog.quietly_discoverQuietly files path none
  refine ⟨hannounces.listeners, ?_, rfl, ?_, fun hheard => ⟨?_, trivial⟩⟩
  · rw [List.flatMap_singleton]
    rfl
  · intro s hs
    rw [List.mem_singleton.mp hs]
    exact hannounces.round
  · dsimp only [file, Catalog.discover]
    rw [Catalog.packages_notifyIf, Catalog.called_notifyIf]
    cases hchanged : (r.catalog.discoverQuietly files path none).2.1 with
    | false => exact Or.inl ⟨hquiet.told hchanged, rfl⟩
    | true =>
      refine Or.inr ⟨hne hchanged, ?_⟩
      rw [if_pos rfl, hquiet.listeners]
      exact lt_length_callListeners _ hheard.present hheard.calm

theorem passes_eachFile (place : Nat) (files : FileTree) (cancelled : CancelSignal)
    (paths : List Path) (r : Rescan) :
    Passes place r (r.eachFile files cancelled paths) (r.fileStages files cancelled paths) := by
  induction paths generalizing r with
  | nil => exact .refl place r
  | cons path paths ih =>
    have hlook : Passes place r (r.look cancelled).1 [] :=
      ⟨rfl, (List.append_nil _).symm, rfl, fun _ hs => absurd hs List.not_mem_nil, fun _ => trivial⟩
    rw [eachFile, fileStages]
    cases hstop : cancelled r.progress with
    | true =>
      simp only [look, hstop, if_true]
      exact hlook
    | false =>
      simp only [look, hstop, Bool.false_eq_true, if_false]
      exact hlook.trans ((passes_file place _ files path).trans (ih _))

theorem passes_watch (place : Nat) (r : Rescan) (root : Path) :
    Passes place r (r.watch root) [] := by
  have hsame : (r.watch root).catalog.listeners = r.catalog.listeners ∧
      (r.watch root).called = r.called ∧ (r.watch root).catalog.packages = r.catalog.packages := by
    unfold watch
    dsimp only
    split
    · exact ⟨rfl, rfl, rfl⟩
    · exact ⟨rfl, rfl, rfl⟩
  obtain ⟨hlisteners, hcalled, hpackages⟩ := hsame
  exact ⟨hlisteners, by rw [hcalled]; exact (List.append_nil _).symm, hpackages.symm,
    fun _ hs => absurd hs List.not_mem_nil, fun _ => trivial⟩

theorem passes_eachRoot (place : Nat) (files : FileTree) (cancelled : CancelSignal)
    (roots : List Path) (r : Rescan) :
    Passes place r (r.eachRoot files cancelled roots) (r.rootStages files cancelled roots) := by
  induction roots generalizing r with
  | nil => exact .refl place r
  | cons root roots ih =>
    have hwatch := passes_watch place r root
    have hlook : Passes place r ((r.watch root).look cancelled).1 [] :=
      ⟨hwatch.listeners, hwatch.called, hwatch.tree, hwatch.rounds, hwatch.attentive⟩
    rw [eachRoot, rootStages]
    cases hstop : cancelled (r.watch root).progress with
    | true =>
      simp only [look, hstop, if_true]
      exact ⟨hlook.listeners, hlook.called, hlook.tree, hlook.rounds, hlook.attentive⟩
    | false =>
      simp only [look, hstop, Bool.false_eq_true, if_false]
      exact hlook.trans ((passes_eachFile place files cancelled _ _).trans (ih _))

end Rescan

namespace Catalog

/-! ## 5. Operations -/

/-- The stages of a rescan.  The first one takes everything out, and calls nobody. -/
def rescanStages (c : Catalog) (files : FileTree) (cancelled : CancelSignal) : List Stage :=
  let (start, stop) := Rescan.look { catalog := c } cancelled
  if stop then []
  else ⟨[], []⟩ :: Rescan.rootStages { start with catalog := c.clear.closeWatches } files cancelled
    c.settings.roots

/-- What an operation leads to beside the new catalog. -/
def report (c : Catalog) : CatalogAct → Report
  | .discover files path content => (c.discover files path content).2.2
  | .refreshFile files ref => (c.refreshFile files ref).2
  | .refreshPackage files ref => (c.refreshPackage files ref).2
  | .resolve files ref? => (c.resolve files ref?).2
  | .rescan files cancelled => (c.rescan files cancelled).2.2
  | .follow files event => (c.follow files event).2
  | _ => {}

/-- The stages of an operation.  All but rescans have one. -/
def stages (c : Catalog) : CatalogAct → List Stage
  | .rescan files cancelled => c.rescanStages files cancelled
  | .resolve files none => c.rescanStages files .never
  | act => [⟨(c.perform act).packages, (c.report act).called⟩]

end Catalog

/-- The operation builds the catalog anew. -/
def CatalogAct.Rebuilds : CatalogAct → Prop
  | .rescan _ _ => True
  | .resolve _ none => True
  | _ => False

/-- The operation reads files, and is to tell the listeners what has changed. -/
def CatalogAct.Tells : CatalogAct → Prop
  | .discover _ _ _ => True
  | .refreshFile _ _ => True
  | .refreshPackage _ _ => True
  | .resolve _ _ => True
  | .rescan _ _ => True
  | .follow _ _ => True
  | _ => False

namespace Catalog

/-- What the stages of an operation are, for a listener in one place. -/
structure Staged (place : Nat) (c : Catalog) (act : CatalogAct) : Prop where
  called : (c.stages act).flatMap (·.called) = (c.report act).called
  tree : lastTree c.packages (c.stages act) = (c.perform act).packages
  rounds : ∀ s ∈ c.stages act, s.called <+: c.listeners.map (·.name)
  once : ¬ act.Rebuilds → (c.stages act).length = 1
  missed : Missed place c.packages (c.stages act) ↔
    act.Rebuilds ∧ c.packages ≠ [] ∧ (c.perform act).packages = []

/-- **An operation with one round** misses nobody who is heard. -/
theorem Announces.staged {c : Catalog} {act : CatalogAct} {place : Nat}
    (h : c.Announces (c.perform act) (c.report act)) (hheard : c.Heard place)
    (hstages : c.stages act = [⟨(c.perform act).packages, (c.report act).called⟩])
    (hact : ¬ act.Rebuilds) : Staged place c act where
  called := by rw [hstages, List.flatMap_singleton]
  tree := by rw [hstages]; rfl
  rounds s hs := by
    rw [hstages] at hs
    rw [List.mem_singleton.mp hs]
    exact h.round
  once _ := by rw [hstages]; rfl
  missed := by
    rw [hstages]
    refine ⟨?_, fun hrebuilds => absurd hrebuilds.1 hact⟩
    rintro (hlater | ⟨hchange, hsilent⟩)
    · cases hlater
    · have hcalled := h.heard hheard hchange
      exact absurd (hsilent _ List.mem_cons_self) (Nat.not_le.mpr hcalled)

/-- **A rescan** misses a listener exactly if it takes everything out and finds nothing. -/
theorem staged_rescan {c : Catalog} {place : Nat} (hheard : c.Heard place) (files : FileTree)
    (cancelled : CancelSignal) : Staged place c (.rescan files cancelled) := by
  have hstages : c.stages (.rescan files cancelled) = c.rescanStages files cancelled := rfl
  have hreport : c.report (.rescan files cancelled) = (c.rescan files cancelled).2.2 := rfl
  have hperform : c.perform (.rescan files cancelled) = (c.rescan files cancelled).1 := rfl
  cases hstop : cancelled {} with
  | true =>
    have hnone : c.rescanStages files cancelled = [] := by
      simp only [rescanStages, Rescan.look, hstop, if_true]
    have hrescan : c.rescan files cancelled = (c, [], {}) := by
      simp only [rescan, Rescan.look, hstop, if_true]
    refine ⟨?_, ?_, ?_, fun hact => absurd trivial hact, ?_⟩
    · rw [hstages, hreport, hnone, hrescan]; rfl
    · rw [hstages, hperform, hnone, hrescan]; rfl
    · rw [hstages, hnone]; exact fun _ hs => absurd hs List.not_mem_nil
    · rw [hstages, hperform, hnone, hrescan]
      exact ⟨fun h => h.elim, fun h => absurd h.2.2 h.2.1⟩
  | false =>
    let begun : Rescan := ⟨c.clear.closeWatches, ⟨1, 0, false⟩, [], []⟩
    have hpasses := Rescan.passes_eachRoot place files cancelled c.settings.roots begun
    have hbegun : begun.catalog.Heard place := ⟨hheard.present, hheard.calm⟩
    have hcons : c.rescanStages files cancelled =
        ⟨[], []⟩ :: begun.rootStages files cancelled c.settings.roots := by
      simp only [rescanStages, Rescan.look, hstop, Bool.false_eq_true, if_false]
      rfl
    have hrescan : (c.rescan files cancelled).1 =
          (begun.eachRoot files cancelled c.settings.roots).catalog ∧
        (c.rescan files cancelled).2.2.called =
          (begun.eachRoot files cancelled c.settings.roots).called := by
      simp only [rescan, Rescan.look, hstop, Bool.false_eq_true, if_false]
      exact ⟨rfl, rfl⟩
    have hattentive := hpasses.attentive hbegun
    refine ⟨?_, ?_, ?_, fun hact => absurd trivial hact, ?_⟩
    · rw [hstages, hreport, hcons, hrescan.2, hpasses.called]
      rfl
    · rw [hstages, hperform, hcons, hrescan.1, lastTree]
      exact hpasses.tree
    · rw [hstages, hcons]
      intro s hs
      rcases List.mem_cons.mp hs with rfl | hs
      · exact List.nil_prefix
      · exact hpasses.rounds s hs
    · -- only the first stage changes the tree without a call
      rw [hstages, hperform, hcons, hrescan.1, ← hpasses.tree, hattentive.lastTree_eq_nil]
      constructor
      · rintro (hlater | ⟨hchange, hsilent⟩)
        · exact absurd hlater hattentive.not_missed
        · exact ⟨trivial, Ne.symm hchange, rfl, fun s hs => hsilent s (List.mem_cons_of_mem _ hs)⟩
      · rintro ⟨-, hne, -, hsilent⟩
        refine Or.inr ⟨Ne.symm hne, fun s hs => ?_⟩
        rcases List.mem_cons.mp hs with rfl | hs
        · exact Nat.zero_le place
        · exact hsilent s hs

theorem Sound.with_listeners {c : Catalog} (h : c.Sound) (ls : List Listener) :
    { c with listeners := ls }.Sound := by
  have hkeeps : c.Keeps { c with listeners := ls } := keeps_of_tree rfl rfl rfl
  exact hkeeps.sound h

/-- **Who misses a change.**  Whatever has been done to a catalog, let a listener stand
    behind others that never fail.  Every operation that is to tell of changes calls it
    after the last one, but a rescan that takes everything out and finds nothing, whether
    it is cancelled or not; and all operations but rescans call each listener once at most. -/
theorem missed_iff (settings : CatalogSettings) (listeners : List Listener)
    (acts : List CatalogAct) (ls : List Listener) {place : Nat}
    (hheard : { (fresh settings listeners).performAll acts with listeners := ls }.Heard place)
    {act : CatalogAct} (hact : act.Tells) :
    Staged place { (fresh settings listeners).performAll acts with listeners := ls } act := by
  have hs : { (fresh settings listeners).performAll acts with listeners := ls }.Sound :=
    (sound_performAll settings listeners acts).with_listeners ls
  cases act with
  | discover files path content => exact (announces_discover _ files path content).staged hheard rfl id
  | refreshFile files ref => exact (announces_refreshFile hs files ref).staged hheard rfl id
  | refreshPackage files ref => exact (announces_refreshPackage hs files ref).staged hheard rfl id
  | follow files event => exact (announces_follow hs files event).staged hheard rfl id
  | rescan files cancelled => exact staged_rescan hheard files cancelled
  | resolve files ref? =>
    cases ref? with
    | none =>
      have hrescan := staged_rescan hheard files .never
      exact ⟨hrescan.called, hrescan.tree, hrescan.rounds, hrescan.once, hrescan.missed⟩
    | some ref => exact (announces_resolve hs files ref).staged hheard rfl id
  | prune => cases hact
  | removeFile path => cases hact
  | clear => cases hact
  | dispose => cases hact
  | setState ref state => cases hact
  | listen listener => cases hact

/-! ### The last file goes -/

/-- A catalog of one file, and someone who listens. -/
def sampleHeard : Catalog :=
  { (fresh sampleSettings).performAll [.rescan sampleFiles .never] with
    listeners := [{ name := "view" }] }

theorem missed_iff_sampleHeard :
    sampleHeard.Heard 0 ∧
      Staged 0 sampleHeard (.follow .empty ⟨.deleted, .ofString "/w/a_test.go"⟩) ∧
      (sampleHeard.follow .empty ⟨.deleted, .ofString "/w/a_test.go"⟩).2.called = ["view"] := by
  have hheard : sampleHeard.Heard 0 := ⟨Nat.zero_lt_one, fun _ hl => absurd hl List.not_mem_nil⟩
  refine ⟨hheard, ?_, by decide +kernel⟩
  exact missed_iff sampleSettings [] [.rescan sampleFiles .never] [{ name := "view" }] hheard trivial

/-- The same catalog, with someone in front who fails when called. -/
def sampleUnheard : Catalog :=
  { sampleHeard with listeners := [{ name := "bad", fails := fun _ => true }, { name := "view" }] }

theorem emptied_without_call :
    sampleHeard.packages.map (·.info.id) = ["/w:p"] ∧
      ((sampleHeard.rescan .empty).1.packages = [] ∧
        (sampleHeard.rescan .empty).2.2.called = []) ∧
      (sampleUnheard.follow .empty ⟨.deleted, .ofString "/w/a_test.go"⟩).1.packages = [] ∧
        (sampleUnheard.follow .empty ⟨.deleted, .ofString "/w/a_test.go"⟩).2.called = ["bad"] := by
  decide +kernel

end Catalog
end SuiteExplorer
