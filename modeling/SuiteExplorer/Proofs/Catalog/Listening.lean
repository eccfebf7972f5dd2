/-
  SuiteExplorer/Proofs/Catalog/Listening.lean
  ===========================================
  **Listeners cannot disturb the catalog.**

  `hushed` is a catalog as if nobody had ever listened to it.  No change of the tree looks
  at who listens, or at how often someone has been called; so every operation makes of a
  hushed catalog the hushed one of what it makes of the catalog.  Of rescans this is true
  unless their cancellation hangs on the calls of listeners (`Deaf`).

  An operation that a listener breaks off has done all its work by then and has given back
  the lock, since this is true of its procedure (`does_procedure`).  So the operations after
  it find what they would find if nobody listened (`undisturbed_by_listeners`).
-/
import SuiteExplorer.Proofs.Catalog.Procedures

namespace SuiteExplorer

open Watch

/-! ## 1. Catalogs that nobody listens to -/

namespace Catalog

/-- The catalog, as if nobody had ever listened to it. -/
def hushed (c : Catalog) : Catalog := { c with listeners := [], calls := 0 }

/-- What is left of a report if nobody listens. -/
def Report.hushed (report : Report) : Report := ⟨[], none, report.journal⟩

theorem notifyIf_hushed (c : Catalog) (changed : Bool) (journal : Journal) :
    c.hushed.notifyIf changed journal =
      ((c.notifyIf changed journal).1.hushed, (c.notifyIf changed journal).2.hushed) := by
  cases changed with
  | false => rfl
  | true => rfl

theorem discoverText_hushed (c : Catalog) (path : Path) (text : String) :
    c.hushed.discoverText path text =
      ((c.discoverText path text).1.hushed, (c.discoverText path text).2) := by
  unfold discoverText
  split
  · rfl
  · have hsame : c.hushed.declarationsIn text = c.declarationsIn text := rfl
    rw [hsame]
    split
    · rfl
    · unfold enterFile hushed
      dsimp only
      split
      · rfl
      · rfl

theorem discoverQuietly_hushed (c : Catalog) (files : FileTree) (path : Path)
    (content : Option String) :
    c.hushed.discoverQuietly files path content =
      ((c.discoverQuietly files path content).1.hushed, (c.discoverQuietly files path content).2) := by
  have hsame : c.hushed.isCandidate path = c.isCandidate path := rfl
  unfold discoverQuietly
  rw [hsame]
  split
  · rfl
  · split
    · exact discoverText_hushed c path _
    · split
      · exact discoverText_hushed c path _
      · rfl

theorem discoverEach_hushed (files : FileTree) (paths : List Path) (c : Catalog) :
    c.hushed.discoverEach files paths =
      ((c.discoverEach files paths).1.hushed, (c.discoverEach files paths).2) := by
  induction paths generalizing c with
  | nil => rfl
  | cons path rest ih =>
    rw [discoverEach, discoverEach, discoverQuietly_hushed]
    dsimp only
    rw [ih]

theorem refreshQuietly_hushed (c : Catalog) (files : FileTree) (ref : NodeRef) :
    c.hushed.refreshQuietly files ref =
      ((c.refreshQuietly files ref).1.hushed, (c.refreshQuietly files ref).2) := by
  have hclear : c.hushed.clearChildren ref = (c.clearChildren ref).hushed := rfl
  have hpath : c.hushed.pathOf ref = c.pathOf ref := rfl
  rw [refreshQuietly, refreshQuietly, hclear, hpath, discoverQuietly_hushed]
  rfl

theorem prune_hushed (c : Catalog) : c.hushed.prune = (c.prune.1.hushed, c.prune.2) := rfl

theorem removeFile_hushed (c : Catalog) (path : Path) :
    c.hushed.removeFile path = ((c.removeFile path).1.hushed, (c.removeFile path).2) := by
  have hsame : c.hushed.fileAt? path = c.fileAt? path := rfl
  rw [removeFile, removeFile, hsame]
  split
  · rfl
  · rfl

theorem onModified_hushed (c : Catalog) (files : FileTree) (path : Path) :
    c.hushed.onModified files path =
      ((c.onModified files path).1.hushed, (c.onModified files path).2) := by
  have hsame : c.hushed.fileAt? path = c.fileAt? path := rfl
  rw [onModified, onModified, hsame]
  cases c.fileAt? path with
  | none =>
    dsimp only
    rw [discoverQuietly_hushed, prune_hushed]
  | some f =>
    dsimp only
    rw [refreshQuietly_hushed, prune_hushed]

theorem onDeleted_hushed (c : Catalog) (path : Path) :
    c.hushed.onDeleted path = ((c.onDeleted path).1.hushed, (c.onDeleted path).2) := by
  rw [onDeleted, onDeleted, removeFile_hushed]
  obtain ⟨c', removed⟩ := c.removeFile path
  cases removed with
  | false => rfl
  | true => rfl

/-! ## 2. Operations that nobody listens to -/

theorem discover_hushed (c : Catalog) (files : FileTree) (path : Path) (content : Option String) :
    c.hushed.discover files path content =
      ((c.discover files path content).1.hushed, (c.discover files path content).2.1,
        (c.discover files path content).2.2.hushed) := by
  rw [discover, discover, discoverQuietly_hushed]
  dsimp only
  rw [notifyIf_hushed]

theorem refreshFile_hushed (c : Catalog) (files : FileTree) (ref : NodeRef) :
    c.hushed.refreshFile files ref =
      ((c.refreshFile files ref).1.hushed, (c.refreshFile files ref).2.hushed) := by
  rw [refreshFile, refreshFile, refreshQuietly_hushed]
  dsimp only
  rw [notifyIf_hushed]

theorem refreshPackage_hushed (c : Catalog) (files : FileTree) (ref : NodeRef) :
    c.hushed.refreshPackage files ref =
      ((c.refreshPackage files ref).1.hushed, (c.refreshPackage files ref).2.hushed) := by
  have hclear : c.hushed.clearChildren ref = (c.clearChildren ref).hushed := rfl
  have hpath : c.hushed.pathOf ref = c.pathOf ref := rfl
  have hchildren : c.hushed.childrenOf ref = c.childrenOf ref := rfl
  rw [refreshPackage, refreshPackage, hclear, hpath, hchildren]
  cases files.directoryFiles? (c.pathOf ref) with
  | none =>
    dsimp only
    rw [notifyIf_hushed]
  | some paths =>
    dsimp only
    rw [discoverEach_hushed]
    dsimp only
    rw [notifyIf_hushed]

theorem follow_hushed (c : Catalog) (files : FileTree) (e : FileEvent) :
    c.hushed.follow files e = ((c.follow files e).1.hushed, (c.follow files e).2.hushed) := by
  rw [follow, follow]
  cases e.kind with
  | created =>
    dsimp only [onCreated]
    rw [discoverQuietly_hushed, notifyIf_hushed]
  | modified =>
    dsimp only
    rw [onModified_hushed, notifyIf_hushed]
  | deleted =>
    dsimp only
    rw [onDeleted_hushed, notifyIf_hushed]

/-- **A batch of changes**, by induction on the changes. -/
theorem followEach_hushed (files : FileTree) (es : List FileEvent) (c : Catalog) :
    (c.hushed.followEach files es).1 = (c.followEach files es).1.hushed := by
  induction es generalizing c with
  | nil => rfl
  | cons e rest ih =>
    rw [followEach, followEach, follow_hushed]
    exact ih _

theorem deliver_hushed (c : Catalog) (files : FileTree) (root : Path) (batch : List Change) :
    (c.hushed.deliver files root batch).1 = (c.deliver files root batch).1.hushed := by
  have hsame : c.hushed.watchers = c.watchers := rfl
  rw [deliver, deliver, hsame]
  split
  · rfl
  · exact followEach_hushed files _ c

end Catalog

/-! ### 2.1 Rescans -/

/-- The cancellation does not hang on how often listeners have been called. -/
def CancelSignal.Deaf (cancelled : CancelSignal) : Prop :=
  ∀ (p : RescanProgress) (calls : Nat), cancelled { p with calls := calls } = cancelled p

theorem CancelSignal.deaf_never : CancelSignal.never.Deaf := fun _ _ => rfl

namespace Rescan

/-- The second rescan is where the first one is, and nobody listens to it. -/
structure Hushed (r r' : Rescan) : Prop where
  catalog : r'.catalog = r.catalog.hushed
  looks : r'.progress.looks = r.progress.looks
  lists : r'.progress.lists = r.progress.lists

variable {r r' : Rescan} {cancelled : CancelSignal}

theorem Hushed.settings (h : r.Hushed r') : r'.catalog.settings = r.catalog.settings :=
  congrArg (·.settings) h.catalog

/-- Both are cancelled, or neither is. -/
theorem Hushed.look (h : r.Hushed r') (hdeaf : cancelled.Deaf) :
    (r.look cancelled).1.Hushed (r'.look cancelled).1 ∧
      (r'.look cancelled).2 = (r.look cancelled).2 := by
  refine ⟨⟨h.catalog, congrArg (· + 1) h.looks, rfl⟩, ?_⟩
  have hsame : ({ r'.progress with calls := 0 } : RescanProgress) =
      { r.progress with calls := 0 } := by simp only [h.looks, h.lists]
  calc cancelled r'.progress
      = cancelled { r'.progress with calls := 0 } := (hdeaf _ 0).symm
    _ = cancelled { r.progress with calls := 0 } := by rw [hsame]
    _ = cancelled r.progress := hdeaf _ 0

theorem Hushed.file (h : r.Hushed r') (files : FileTree) (path : Path) :
    (r.file files path).Hushed (r'.file files path) where
  catalog := by
    have hdiscover := r.catalog.discover_hushed files path none
    rw [← h.catalog] at hdiscover
    exact congrArg Prod.fst hdiscover
  looks := h.looks
  lists := h.lists

theorem Hushed.watch (h : r.Hushed r') (root : Path) : (r.watch root).Hushed (r'.watch root) := by
  unfold Rescan.watch
  dsimp only
  rw [h.catalog]
  have hwatches : r.catalog.hushed.settings.watches = r.catalog.settings.watches := rfl
  rw [hwatches]
  split
  · exact ⟨rfl, h.looks, rfl⟩
  · exact ⟨rfl, h.looks, rfl⟩

theorem Hushed.eachFile (hdeaf : cancelled.Deaf) (files : FileTree) (paths : List Path)
    (h : r.Hushed r') :
    (r.eachFile files cancelled paths).Hushed (r'.eachFile files cancelled paths) := by
  induction paths generalizing r r' with
  | nil => exact h
  | cons path rest ih =>
    obtain ⟨hlook, hstop⟩ := h.look hdeaf
    rw [Rescan.eachFile, Rescan.eachFile]
    dsimp only
    rw [hstop]
    split
    · exact hlook
    · exact ih (hlook.file files path)

theorem Hushed.eachRoot (hdeaf : cancelled.Deaf) (files : FileTree) (roots : List Path)
    (h : r.Hushed r') :
    (r.eachRoot files cancelled roots).Hushed (r'.eachRoot files cancelled roots) := by
  induction roots generalizing r r' with
  | nil => exact h
  | cons root rest ih =>
    obtain ⟨hlook, hstop⟩ := (h.watch root).look hdeaf
    rw [Rescan.eachRoot, Rescan.eachRoot]
    dsimp only
    rw [hstop, hlook.settings]
    split
    · exact ⟨hlook.catalog, hlook.looks, hlook.lists⟩
    · exact ih (hlook.eachFile hdeaf files _)

end Rescan

namespace Catalog

theorem rescan_hushed (c : Catalog) (files : FileTree) {cancelled : CancelSignal}
    (hdeaf : cancelled.Deaf) :
    (c.hushed.rescan files cancelled).1 = (c.rescan files cancelled).1.hushed := by
  cases hstop : cancelled {} with
  | true =>
    simp only [rescan, Rescan.look, hstop, if_true]
  | false =>
    simp only [rescan, Rescan.look, hstop, Bool.false_eq_true, if_false]
    have hstart : Rescan.Hushed ⟨c.clear.closeWatches, ⟨1, 0, false⟩, [], []⟩
        ⟨c.hushed.clear.closeWatches, ⟨1, 0, false⟩, [], []⟩ := ⟨rfl, rfl, rfl⟩
    exact (hstart.eachRoot hdeaf files c.settings.roots).catalog

theorem failure_rescan (c : Catalog) (files : FileTree) (cancelled : CancelSignal) :
    (c.rescan files cancelled).2.2.failure = none := by
  cases hstop : cancelled {} with
  | true => simp only [rescan, Rescan.look, hstop, if_true]
  | false => simp only [rescan, Rescan.look, hstop, Bool.false_eq_true, if_false]

theorem resolve_hushed (c : Catalog) (files : FileTree) (ref? : Option NodeRef) :
    (c.hushed.resolve files ref?).1 = (c.resolve files ref?).1.hushed ∧
      (c.hushed.resolve files ref?).2.failure = none := by
  cases ref? with
  | none =>
    exact ⟨c.rescan_hushed files CancelSignal.deaf_never, c.hushed.failure_rescan files .never⟩
  | some ref =>
    have hmeaning : c.hushed.meaning? ref = c.meaning? ref := rfl
    have hpath : c.hushed.pathOf ref = c.pathOf ref := rfl
    rw [resolve, resolve]
    dsimp only
    rw [hmeaning, hpath]
    cases c.meaning? ref with
    | none => exact ⟨rfl, rfl⟩
    | some meaning =>
      cases meaning with
      | package =>
        dsimp only
        rw [refreshPackage_hushed]
        exact ⟨rfl, rfl⟩
      | file =>
        dsimp only
        rw [refreshFile_hushed]
        exact ⟨rfl, rfl⟩
      | runnable r =>
        dsimp only
        rw [discover_hushed]
        exact ⟨rfl, rfl⟩

end Catalog

/-! ## 3. Sequences of operations -/

namespace Operation

/-- No listener decides whether the operation is cancelled. -/
def Deaf : Operation → Prop
  | rescan _ cancelled => cancelled.Deaf
  | _ => True

/-- The operation goes from file to file or from change to change, and goes on after a
    listener has failed. -/
def GoesOn : Operation → Prop
  | resolve _ none => True
  | rescan _ _ => True
  | deliver _ _ _ => True
  | _ => False

/-- Perform an operation, of which nothing has been told yet. -/
def perform (w : Worked) (op : Operation) : Except Halt Unit × Worked :=
  op.procedure.perform { catalog := w.catalog, locked := w.locked }

/-- Perform operations one after the other.  One that is broken off is followed by the next. -/
def performAll (w : Worked) (ops : List Operation) : Worked :=
  ops.foldl (fun w op => (op.perform w).2) w

/-- **Every operation** does what it would do if nobody listened, and then nobody breaks it
    off. -/
theorem result_hushed {op : Operation} (hdeaf : op.Deaf) (c : Catalog) :
    (op.result c.hushed).1 = (op.result c).1.hushed ∧ (op.result c.hushed).2.failure = none := by
  cases op with
  | discover files path content =>
    have hdiscover := c.discover_hushed files path content
    exact ⟨congrArg Prod.fst hdiscover, congrArg (·.2.2.failure) hdiscover⟩
  | refreshFile files ref =>
    have hrefresh := c.refreshFile_hushed files ref
    exact ⟨congrArg Prod.fst hrefresh, congrArg (·.2.failure) hrefresh⟩
  | refreshPackage files ref =>
    have hrefresh := c.refreshPackage_hushed files ref
    exact ⟨congrArg Prod.fst hrefresh, congrArg (·.2.failure) hrefresh⟩
  | resolve files ref? => exact c.resolve_hushed files ref?
  | rescan files cancelled =>
    exact ⟨c.rescan_hushed files hdeaf, c.hushed.failure_rescan files cancelled⟩
  | follow files event =>
    have hfollow := c.follow_hushed files event
    exact ⟨congrArg Prod.fst hfollow, congrArg (·.2.failure) hfollow⟩
  | deliver files root batch =>
    exact ⟨c.deliver_hushed files root batch, Procedure.failure_deliver _ files root batch⟩

theorem failure_of_goesOn {op : Operation} (h : op.GoesOn) (c : Catalog) :
    (op.result c).2.failure = none := by
  cases op with
  | resolve files ref? =>
    cases ref? with
    | none => exact c.failure_rescan files .never
    | some ref => cases h
  | rescan files cancelled => exact c.failure_rescan files cancelled
  | deliver files root batch => exact Procedure.failure_deliver c files root batch
  | discover files path content => cases h
  | refreshFile files ref => cases h
  | refreshPackage files ref => cases h
  | follow files event => cases h

/-- **An operation that finds the lock free** does all its work and leaves the lock free; how
    it ends is told by its report. -/
theorem perform_of_free {w : Worked} (hfree : w.locked = false) (op : Operation) :
    (op.perform w).1 = (op.result w.catalog).2.ending () ∧
      (op.perform w).2.catalog = (op.result w.catalog).1 ∧ (op.perform w).2.locked = false := by
  have hdoes := op.does_procedure w.catalog
  rw [Operation.perform, hfree]
  exact ⟨hdoes.ending, hdoes.catalog, hdoes.unlocked⟩

/-- **Sequences of operations**, by induction: the lock is free after each of them, and if
    nobody listens, they lead to the hushed catalog. -/
theorem performAll_hushed {ops : List Operation} (hdeaf : ∀ op ∈ ops, op.Deaf) (w w' : Worked)
    (hfree : w.locked = false) (hfree' : w'.locked = false) (h : w'.catalog = w.catalog.hushed) :
    (performAll w ops).locked = false ∧ (performAll w' ops).locked = false ∧
      (performAll w' ops).catalog = (performAll w ops).catalog.hushed := by
  induction ops generalizing w w' with
  | nil => exact ⟨hfree, hfree', h⟩
  | cons op ops ih =>
    obtain ⟨-, hcatalog, hunlocked⟩ := perform_of_free hfree op
    obtain ⟨-, hcatalog', hunlocked'⟩ := perform_of_free hfree' op
    have hresult := result_hushed (hdeaf op List.mem_cons_self) w.catalog
    apply ih (fun op' hop' => hdeaf op' (List.mem_cons_of_mem _ hop')) _ _ hunlocked hunlocked'
    rw [hcatalog, hcatalog', h, hresult.1]

end Operation

/-- **Listeners cannot disturb the catalog.**  Perform operations on any catalog, whoever
    listens to it, and on the same catalog while nobody listens; no listener decides whether
    a rescan is cancelled.  After each of them the trees, the books and the watches are the
    same.  In the first case an operation may be broken off by a listener that fails, but a
    rescan and a batch of changes go on; and broken off or not, it has done all its work and
    the lock is free. -/
theorem undisturbed_by_listeners (c : Catalog) (ops : List Operation) (op : Operation)
    (hdeaf : ∀ op' ∈ ops ++ [op], op'.Deaf) :
    let heard := Operation.performAll { catalog := c } ops
    let unheard := Operation.performAll { catalog := c.hushed } ops
    let after := op.perform heard
    let after' := op.perform unheard
    (after.2.catalog.packages = after'.2.catalog.packages ∧
      after.2.catalog.books = after'.2.catalog.books ∧
      after.2.catalog.watchers = after'.2.catalog.watchers) ∧
    (after.1 = .ok () ∨ ∃ f, after.1 = .error (.listener f) ∧ ¬ op.GoesOn) ∧
    after'.1 = .ok () ∧
    after.2.catalog = (op.result heard.catalog).1 ∧
    after.2.locked = false ∧ after'.2.locked = false := by
  intro heard unheard after after'
  have hops : ∀ op' ∈ ops, op'.Deaf := fun op' h => hdeaf op' (List.mem_append_left _ h)
  have hop : op.Deaf := hdeaf op (List.mem_append_right _ List.mem_cons_self)
  obtain ⟨hfree, hfree', hhushed⟩ :
      heard.locked = false ∧ unheard.locked = false ∧ unheard.catalog = heard.catalog.hushed :=
    Operation.performAll_hushed hops { catalog := c } { catalog := c.hushed } rfl rfl rfl
  obtain ⟨hending, hcatalog, hunlocked⟩ := Operation.perform_of_free hfree op
  obtain ⟨hending', hcatalog', hunlocked'⟩ := Operation.perform_of_free hfree' op
  obtain ⟨hresult, hquiet⟩ := Operation.result_hushed hop heard.catalog
  have hsame : after'.2.catalog = after.2.catalog.hushed := by
    rw [hcatalog, hcatalog', hhushed, hresult]
  refine ⟨⟨?_, ?_, ?_⟩, ?_, ?_, hcatalog, hunlocked, hunlocked'⟩
  · exact (congrArg (·.packages) hsame).symm
  · exact (congrArg (·.books) hsame).symm
  · exact (congrArg (·.watchers) hsame).symm
  · rw [hending, Catalog.Report.ending]
    cases hfailure : (op.result heard.catalog).2.failure with
    | none => exact Or.inl rfl
    | some f =>
      refine Or.inr ⟨f, rfl, fun hgoesOn => ?_⟩
      rw [Operation.failure_of_goesOn hgoesOn] at hfailure
      cases hfailure
  · rw [hending', hhushed, Catalog.Report.ending, hquiet]

/-! ### A listener that always fails

It is called when the rescan finds a file, which the rescan notes, and it breaks off the
operation that follows the end of that file. -/

/-- A catalog with someone who fails whenever he is called. -/
def sampleBroken : Catalog :=
  { Catalog.fresh Catalog.sampleSettings with
    listeners := [{ name := "bad", fails := fun _ => true }] }

def sampleOperations : List Operation := [.rescan Catalog.sampleFiles .never]

def sampleDeletion : Operation := .follow .empty ⟨.deleted, .ofString "/w/a_test.go"⟩

theorem undisturbed_by_listeners_sampleBroken :
    (∀ op ∈ sampleOperations ++ [sampleDeletion], op.Deaf) ∧
      (sampleDeletion.perform (Operation.performAll { catalog := sampleBroken } sampleOperations)).1 =
        .error (.listener ⟨"bad"⟩) ∧
      (sampleDeletion.perform
          (Operation.performAll { catalog := sampleBroken } sampleOperations)).2.catalog.packages =
        (sampleDeletion.perform (Operation.performAll { catalog := sampleBroken.hushed }
          sampleOperations)).2.catalog.packages ∧
      (sampleDeletion.perform
          (Operation.performAll { catalog := sampleBroken } sampleOperations)).2.locked = false := by
  have hdeaf : ∀ op ∈ sampleOperations ++ [sampleDeletion], op.Deaf := by
    intro op hop
    rcases List.mem_append.mp hop with hop | hop
    · rw [List.mem_singleton.mp hop]
      exact CancelSignal.deaf_never
    · rw [List.mem_singleton.mp hop]
      exact trivial
  obtain ⟨⟨hpackages, -, -⟩, -, -, -, hunlocked, -⟩ :=
    undisturbed_by_listeners sampleBroken sampleOperations sampleDeletion hdeaf
  refine ⟨hdeaf, ?_, hpackages, hunlocked⟩
  decide +kernel

end SuiteExplorer
