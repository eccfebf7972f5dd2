/-
  SuiteExplorer/Proofs/Catalog/Procedures.lean
  ============================================
  **Operations step by step.**

  The operations of a catalog say at once what becomes of it.  Here they are procedures
  that go from step to step: they change the catalog, call its listeners, and may be broken
  off by one that fails.  Two of them keep others out by a lock; and two of them shield what
  they do from listeners that fail, file by file and change by change.

  A procedure that is broken off leaves everything as it was at that moment.  So whether an
  operation had done all its work, and whether the lock was given back, is a matter of where
  it calls the listeners.  It does so last, and the procedure of every operation leads to
  exactly the catalog and the report that the operation gives (`does_procedure`).
-/
import SuiteExplorer.Proofs.Catalog.Notification

namespace SuiteExplorer

open Watch

/-! ## 1. Procedures -/

/-- A catalog that is worked on: what the work has led to so far, and whether the lock is
    held that keeps changes apart. -/
structure Worked extends Rescan where
  locked : Bool := false

/-- Why a procedure ends before its end. -/
inductive Halt where
  /-- a listener fails, and nothing shields the procedure from it -/
  | listener (failure : ListenerFailure)
  /-- it waits for a lock that is not given back -/
  | blocked
deriving Repr, DecidableEq

/-- What is done to a catalog.  A procedure that is broken off leaves what it has done. -/
abbrev Procedure := ExceptT Halt (StateM Worked)

namespace Procedure

variable {α β : Type}

/-- How a procedure ends, and what it leaves. -/
def perform (p : Procedure α) (w : Worked) : Except Halt α × Worked := (ExceptT.run p).run w

@[simp] theorem perform_pure (a : α) (w : Worked) :
    perform (pure a) w = (.ok a, w) := rfl

@[simp] theorem perform_throw (halt : Halt) (w : Worked) :
    perform (throw halt : Procedure α) w = (.error halt, w) := rfl

@[simp] theorem perform_get (w : Worked) : perform get w = (.ok w, w) := rfl

@[simp] theorem perform_modify (f : Worked → Worked) (w : Worked) :
    perform (modify f) w = (.ok (), f w) := rfl

/-- The second step is taken if the first one is not broken off. -/
theorem perform_bind (p : Procedure α) (k : α → Procedure β) (w : Worked) :
    (p >>= k).perform w = match p.perform w with
      | (.ok a, w') => (k a).perform w'
      | (.error halt, w') => (.error halt, w') := by
  have hrun : (p >>= k).perform w =
      match p.perform w with | (ending, w') => ExceptT.bindCont k ending w' := rfl
  rw [hrun]
  obtain ⟨ending, w'⟩ := p.perform w
  cases ending with
  | ok a => rfl
  | error halt => rfl

/-! ### 1.1 Steps -/

/-- Change the catalog without a word, and say whether that changed the tree. -/
def change (f : Catalog → Catalog × Bool × Journal) : Procedure Bool := do
  let w ← get
  let (c, changed, journal) := f w.catalog
  set { w with catalog := c, journal := w.journal ++ journal }
  return changed

def tell (journal : Journal) : Procedure Unit :=
  modify fun w => { w with journal := w.journal ++ journal }

/-- Call the listeners.  One that fails breaks the procedure off. -/
def notify : Procedure Unit := do
  let w ← get
  let (c, called, failure) := w.catalog.notify
  set { w with
    catalog := c
    called := w.called ++ called
    progress := { w.progress with calls := w.progress.calls + called.length } }
  match failure with
  | none => pure ()
  | some f => throw (.listener f)

def notifyIf (changed : Bool) : Procedure Unit := if changed then notify else pure ()

/-- Change the catalog, and call the listeners if that changed the tree. -/
def announced (f : Catalog → Catalog × Bool × Journal) : Procedure Bool := do
  let changed ← change f
  notifyIf changed
  return changed

/-- Take the lock, and give it back, however that ends for which it was taken. -/
def holding (p : Procedure α) : Procedure α := do
  let w ← get
  if w.locked then throw .blocked
  else
    set { w with locked := true }
    try p finally modify fun w => { w with locked := false }

/-- Only note that a listener failed. -/
def shielded (p : Procedure Unit) (noted : Journal) : Procedure Unit :=
  try p catch
  | .listener _ => tell noted
  | .blocked => throw .blocked

/-! ## 2. The procedures of the operations -/

def discover (files : FileTree) (path : Path) (content : Option String) : Procedure Bool :=
  announced (·.discoverQuietly files path content)

def refreshFile (files : FileTree) (ref : NodeRef) : Procedure Unit := do
  let _ ← announced (·.refreshQuietly files ref)

def discoverEach (files : FileTree) : List Path → Procedure Bool
  | [] => return false
  | path :: rest => do
    let changed ← change (·.discoverQuietly files path none)
    let more ← discoverEach files rest
    return changed || more

def refreshPackage (files : FileTree) (ref : NodeRef) : Procedure Unit := do
  let w ← get
  let directory := w.catalog.pathOf ref
  let held ← change fun c => (c.clearChildren ref, !(c.childrenOf ref).isEmpty, [])
  match files.directoryFiles? directory with
  | none =>
    tell [.warning "directory_read_failed" [("path", .text directory.text),
      ("error", .text ((files.readFault directory).message directory))]]
    notifyIf held
  | some paths =>
    let changed ← discoverEach files paths
    notifyIf (changed || held)

def look (cancelled : CancelSignal) : Procedure Bool := do
  let w ← get
  let (r, stop) := w.toRescan.look cancelled
  set { w with toRescan := r }
  return stop

/-- Discover one file of a rescan, shielded from listeners that fail. -/
def file (files : FileTree) (path : Path) : Procedure Unit :=
  shielded (do let _ ← discover files path none)
    [.fault "discovery_failed" [("path", .text path.text)]]

def eachFile (files : FileTree) (cancelled : CancelSignal) : List Path → Procedure Unit
  | [] => pure ()
  | path :: rest => do
    let stop ← look cancelled
    if stop then pure ()
    else
      file files path
      eachFile files cancelled rest

def eachRoot (files : FileTree) (cancelled : CancelSignal) : List Path → Procedure Unit
  | [] => pure ()
  | root :: rest => do
    modify fun w => { w with toRescan := w.toRescan.watch root }
    let stop ← look cancelled
    if stop then tell [.info "rescan_cancelled" [("root", .text root.text)]]
    else
      let w ← get
      let s := w.catalog.settings
      eachFile files cancelled (files.listing root s.includePattern s.extra)
      eachRoot files cancelled rest

def rescan (files : FileTree) (cancelled : CancelSignal) : Procedure (List NodeRef) := do
  let stop ← look cancelled
  if stop then return []
  else
    let w ← get
    let roots := w.catalog.settings.roots
    holding do
      modify fun w => { w with catalog := w.catalog.clear.closeWatches }
      eachRoot files cancelled roots
    let w ← get
    let found := w.catalog.files.map (·.info.ref)
    tell [.info "rescan_complete" [("roots", .int roots.length), ("files", .int found.length)]]
    return found

def resolve (files : FileTree) (ref? : Option NodeRef) : Procedure Unit := do
  match ref? with
  | none => let _ ← rescan files .never
  | some ref =>
    let w ← get
    match w.catalog.meaning? ref with
    | none => pure ()
    | some .package => refreshPackage files ref
    | some .file => refreshFile files ref
    | some (.runnable _) => let _ ← discover files (w.catalog.pathOf ref) none

/-- Follow one change, while others are kept out. -/
def follow (files : FileTree) (e : FileEvent) : Procedure Unit :=
  holding do
    let _ ← announced fun c => match e.kind with
      | .created => c.onCreated files e.path
      | .modified => c.onModified files e.path
      | .deleted => c.onDeleted e.path

def followEach (files : FileTree) : List FileEvent → Procedure Unit
  | [] => pure ()
  | e :: rest => do
    shielded (follow files e) [Watcher.failedDelivery e]
    followEach files rest

def deliver (files : FileTree) (root : Path) (batch : List Change) : Procedure Unit := do
  let w ← get
  match w.catalog.watchers.find? fun w => w.isRunning && w.filter.root = root with
  | none => pure ()
  | some watcher => followEach files (watcher.delivery batch)

end Procedure

/-! ## 3. What the steps do -/

/-- How a procedure ends that calls the listeners last. -/
def Catalog.Report.ending {α : Type} (report : Catalog.Report) (a : α) : Except Halt α :=
  match report.failure with
  | none => .ok a
  | some f => .error (.listener f)

/-- What an operation has led to comes on top of what was there before. -/
def Worked.after (w : Worked) (c : Catalog) (report : Catalog.Report) : Worked :=
  { w with
    catalog := c
    progress := { w.progress with calls := w.progress.calls + report.called.length }
    called := w.called ++ report.called
    journal := w.journal ++ report.journal }

/-- What two operations have led to, one after the other. -/
theorem Worked.after_after (w : Worked) (c c' : Catalog) (report report' : Catalog.Report) :
    (w.after c report).after c' report' =
      w.after c' ⟨report.called ++ report'.called, none, report.journal ++ report'.journal⟩ := by
  simp [after, Nat.add_assoc]

namespace Procedure

variable {α : Type}

@[simp] theorem perform_set (w' w : Worked) : perform (set w') w = (.ok (), w') := rfl

@[simp] theorem perform_change (f : Catalog → Catalog × Bool × Journal) (w : Worked) :
    (change f).perform w = (.ok (f w.catalog).2.1,
      { w with catalog := (f w.catalog).1, journal := w.journal ++ (f w.catalog).2.2 }) := rfl

@[simp] theorem perform_tell (journal : Journal) (w : Worked) :
    (tell journal).perform w = (.ok (), { w with journal := w.journal ++ journal }) := rfl

/-- The listeners are called after the work. -/
theorem perform_notifyIf (changed : Bool) (journal : Journal) (c : Catalog) (w : Worked) :
    (notifyIf changed).perform { w with catalog := c, journal := w.journal ++ journal } =
      ((c.notifyIf changed journal).2.ending (),
        w.after (c.notifyIf changed journal).1 (c.notifyIf changed journal).2) := by
  cases changed with
  | false =>
    simp [notifyIf, Catalog.notifyIf, Catalog.Report.ending, Worked.after]
  | true =>
    simp only [notifyIf, Catalog.notifyIf, if_true, notify, perform_bind, perform_get, perform_set]
    cases c.notify.2.2 with
    | none => simp [Catalog.Report.ending, Worked.after]
    | some f => simp [Catalog.Report.ending, Worked.after]

/-- What comes after the listeners only says what is given. -/
theorem perform_bind_pure {β : Type} {p : Procedure α} {w w' : Worked} {report : Catalog.Report}
    {a : α} (hp : p.perform w = (report.ending a, w')) (f : α → β) :
    (do let a ← p; pure (f a) : Procedure β).perform w = (report.ending (f a), w') := by
  rw [perform_bind, hp, Catalog.Report.ending, Catalog.Report.ending]
  cases report.failure with
  | none => rfl
  | some f => rfl

theorem perform_announced (f : Catalog → Catalog × Bool × Journal) (w : Worked) :
    let found := f w.catalog
    let told := found.1.notifyIf found.2.1 found.2.2
    (announced f).perform w = (told.2.ending found.2.1, w.after told.1 told.2) := by
  intro found told
  rw [announced, perform_bind, perform_change]
  exact perform_bind_pure (perform_notifyIf found.2.1 found.2.2 found.1 w) fun _ => found.2.1

/-- The lock is given back, however the procedure ends. -/
theorem perform_holding (p : Procedure α) (w : Worked) :
    (holding p).perform w =
      if w.locked then (.error .blocked, w)
      else ((p.perform { w with locked := true }).1,
        { (p.perform { w with locked := true }).2 with locked := false }) := by
  have hfinally : ∀ w' : Worked,
      (tryFinally p (modify fun w => { w with locked := false })).perform w' =
        ((p.perform w').1, { (p.perform w').2 with locked := false }) := by
    intro w'
    have hended : (tryFinally p (modify fun w => { w with locked := false })).perform w' =
      perform (tryFinally (fun _ => p.perform w' : Procedure α)
        (modify fun w => { w with locked := false })) w' := rfl
    rw [hended]
    obtain ⟨ending, left⟩ := p.perform w'
    cases ending with
    | ok a => rfl
    | error halt => rfl
  rw [holding, perform_bind, perform_get]
  dsimp only
  split
  · rfl
  · rw [perform_bind, perform_set]
    exact hfinally _

theorem perform_holding_of_free {p : Procedure α} {w : Worked} (hfree : w.locked = false)
    {ending : Except Halt α} {c : Catalog} {report : Catalog.Report}
    (hp : p.perform { w with locked := true } =
      (ending, Worked.after { w with locked := true } c report)) :
    (holding p).perform w = (ending, w.after c report) := by
  have hafter : w.after c report =
      { Worked.after { w with locked := true } c report with locked := false } :=
    congrArg (Worked.mk (w.after c report).toRescan) hfree
  rw [perform_holding, if_neg (ne_true_of_eq_false hfree), hp, hafter]

/-- A listener that fails is noted, and that is all. -/
theorem perform_shielded {p : Procedure Unit} {w : Worked} {c : Catalog} {report : Catalog.Report}
    (hp : p.perform w = (report.ending (), w.after c report)) (noted : Journal) :
    (shielded p noted).perform w = (.ok (), w.after c
      ⟨report.called, none, report.journal ++ if report.failure.isSome then noted else []⟩) := by
  have hended : (shielded p noted).perform w =
    (shielded (fun _ => p.perform w : Procedure Unit) noted).perform w := rfl
  rw [hended, hp, Catalog.Report.ending]
  cases report.failure with
  | none =>
    simp only [Option.isSome_none, Bool.false_eq_true, if_false, List.append_nil]
    rfl
  | some f =>
    simp only [Option.isSome_some, if_true, Worked.after, ← List.append_assoc]
    rfl

/-! ## 4. What the operations do -/

theorem perform_discover (files : FileTree) (path : Path) (content : Option String) (w : Worked) :
    (discover files path content).perform w =
      ((w.catalog.discover files path content).2.2.ending (w.catalog.discover files path content).2.1,
        w.after (w.catalog.discover files path content).1
          (w.catalog.discover files path content).2.2) :=
  perform_announced _ w

theorem perform_refreshFile (files : FileTree) (ref : NodeRef) (w : Worked) :
    (refreshFile files ref).perform w = ((w.catalog.refreshFile files ref).2.ending (),
      w.after (w.catalog.refreshFile files ref).1 (w.catalog.refreshFile files ref).2) :=
  perform_bind_pure (perform_announced _ w) _

theorem perform_discoverEach (files : FileTree) (paths : List Path) (w : Worked) :
    (discoverEach files paths).perform w = (.ok (w.catalog.discoverEach files paths).2.1,
      { w with
        catalog := (w.catalog.discoverEach files paths).1
        journal := w.journal ++ (w.catalog.discoverEach files paths).2.2 }) := by
  induction paths generalizing w with
  | nil => simp [discoverEach, Catalog.discoverEach]
  | cons path rest ih =>
    simp only [discoverEach, perform_bind, perform_change, ih, perform_pure,
      Catalog.discoverEach, List.append_assoc]

theorem perform_refreshPackage (files : FileTree) (ref : NodeRef) (w : Worked) :
    (refreshPackage files ref).perform w = ((w.catalog.refreshPackage files ref).2.ending (),
      w.after (w.catalog.refreshPackage files ref).1 (w.catalog.refreshPackage files ref).2) := by
  unfold refreshPackage Catalog.refreshPackage
  simp only [perform_bind, perform_get, perform_change, List.append_nil]
  cases files.directoryFiles? (w.catalog.pathOf ref) with
  | none =>
    simp only [perform_bind, perform_tell]
    exact perform_notifyIf _ _ _ w
  | some paths =>
    dsimp only
    rw [perform_bind, perform_discoverEach]
    exact perform_notifyIf _ _ _ w

/-! ### 4.1 Rescans -/

theorem perform_look (cancelled : CancelSignal) (w : Worked) :
    (look cancelled).perform w = (.ok (w.toRescan.look cancelled).2,
      { w with toRescan := (w.toRescan.look cancelled).1 }) := rfl

/-- **A file of a rescan** is discovered, whether a listener fails or not. -/
theorem perform_file (files : FileTree) (path : Path) (w : Worked) :
    (file files path).perform w = (.ok (), { w with toRescan := w.toRescan.file files path }) := by
  rw [file, perform_shielded (perform_bind_pure (perform_discover files path none w) _)]
  simp [Worked.after, Rescan.file]

theorem perform_eachFile (files : FileTree) (cancelled : CancelSignal) (paths : List Path)
    (w : Worked) : (eachFile files cancelled paths).perform w =
      (.ok (), { w with toRescan := w.toRescan.eachFile files cancelled paths }) := by
  induction paths generalizing w with
  | nil => rfl
  | cons path rest ih =>
    rw [eachFile, perform_bind, perform_look, Rescan.eachFile]
    dsimp only
    split
    · rfl
    · rw [perform_bind, perform_file]
      exact ih _

theorem perform_eachRoot (files : FileTree) (cancelled : CancelSignal) (roots : List Path)
    (w : Worked) : (eachRoot files cancelled roots).perform w =
      (.ok (), { w with toRescan := w.toRescan.eachRoot files cancelled roots }) := by
  induction roots generalizing w with
  | nil => rfl
  | cons root rest ih =>
    rw [eachRoot, perform_bind, perform_modify, Rescan.eachRoot]
    dsimp only
    rw [perform_bind, perform_look]
    dsimp only
    split
    · rfl
    · rw [perform_bind, perform_get]
      dsimp only
      rw [perform_bind, perform_eachFile]
      exact ih _

/-- The first procedure of a catalog whose lock is free leads to a catalog and a report, and
    the lock is free again. -/
structure Does (p : Procedure α) (c : Catalog) (a : α) (c' : Catalog) (report : Catalog.Report) :
    Prop where
  ending : (p.perform { catalog := c }).1 = report.ending a
  catalog : (p.perform { catalog := c }).2.catalog = c'
  called : (p.perform { catalog := c }).2.called = report.called
  journal : (p.perform { catalog := c }).2.journal = report.journal
  unlocked : (p.perform { catalog := c }).2.locked = false

theorem Does.of_after {p : Procedure α} {c c' : Catalog} {a : α} {report : Catalog.Report}
    (h : p.perform { catalog := c } = (report.ending a, Worked.after { catalog := c } c' report)) :
    Does p c a c' report := by
  constructor
  all_goals rw [h]
  all_goals simp [Worked.after]

theorem Does.ignore {p : Procedure α} {c c' : Catalog} {a : α} {report : Catalog.Report}
    (h : Does p c a c' report) : Does (do let _ ← p) c () c' report := by
  have hp : p.perform { catalog := c } = (report.ending a, (p.perform { catalog := c }).2) :=
    Prod.ext h.ending rfl
  constructor
  all_goals rw [perform_bind_pure hp]
  · exact h.catalog
  · exact h.called
  · exact h.journal
  · exact h.unlocked

/-- **A rescan** is never broken off. -/
theorem does_rescan (files : FileTree) (cancelled : CancelSignal) (c : Catalog) :
    Does (rescan files cancelled) c (c.rescan files cancelled).2.1 (c.rescan files cancelled).1
      (c.rescan files cancelled).2.2 := by
  have hlook := perform_look cancelled { catalog := c }
  cases hstop : cancelled {} with
  | true =>
    have hperform : (rescan files cancelled).perform { catalog := c } =
        (.ok [], { toRescan := (Rescan.look { catalog := c } cancelled).1 }) := by
      rw [rescan, perform_bind, hlook]
      simp only [Rescan.look, hstop, if_true, perform_pure]
    have hrescan : c.rescan files cancelled = (c, [], {}) := by
      simp only [Catalog.rescan, Rescan.look, hstop, if_true]
    rw [hrescan]
    constructor
    all_goals rw [hperform]
    all_goals rfl
  | false =>
    let start : Rescan := ⟨c.clear.closeWatches, ⟨1, 0, false⟩, [], []⟩
    let r := start.eachRoot files cancelled c.settings.roots
    let found := r.catalog.files.map (·.info.ref)
    let complete : JournalEvent := .info "rescan_complete"
      [("roots", .int c.settings.roots.length), ("files", .int found.length)]
    have hperform : (rescan files cancelled).perform { catalog := c } =
        (.ok found, { toRescan := { r with journal := r.journal ++ [complete] } }) := by
      rw [rescan, perform_bind, hlook]
      simp only [Rescan.look, hstop, Bool.false_eq_true, if_false]
      rw [perform_bind, perform_get]
      dsimp only
      rw [perform_bind, perform_holding]
      simp only [Bool.false_eq_true, if_false]
      rw [perform_bind, perform_modify]
      dsimp only
      rw [perform_eachRoot]
      dsimp only
      rw [perform_bind, perform_get]
      dsimp only
      rw [perform_bind, perform_tell]
      rfl
    have hrescan : c.rescan files cancelled =
        (r.catalog, found, ⟨r.called, none, r.journal ++ [complete]⟩) := by
      simp only [Catalog.rescan, Rescan.look, hstop, Bool.false_eq_true, if_false]
      rfl
    rw [hrescan]
    constructor
    all_goals rw [hperform]
    all_goals rfl

/-! ### 4.2 Changes -/

theorem perform_follow (files : FileTree) (e : FileEvent) {w : Worked} (hfree : w.locked = false) :
    (follow files e).perform w = ((w.catalog.follow files e).2.ending (),
      w.after (w.catalog.follow files e).1 (w.catalog.follow files e).2) :=
  perform_holding_of_free hfree (perform_bind_pure (perform_announced _ _) _)

/-- **A batch of changes** is followed to its end, whether listeners fail or not. -/
theorem perform_followEach (files : FileTree) (es : List FileEvent) {w : Worked}
    (hfree : w.locked = false) :
    (followEach files es).perform w = (.ok (),
      w.after (w.catalog.followEach files es).1 (w.catalog.followEach files es).2) := by
  induction es generalizing w with
  | nil => simp [followEach, Catalog.followEach, Worked.after]
  | cons e rest ih =>
    rw [followEach, perform_bind, perform_shielded (perform_follow files e hfree)]
    dsimp only
    rw [ih, Worked.after_after]
    · rfl
    · exact hfree

theorem failure_deliver (c : Catalog) (files : FileTree) (root : Path) (batch : List Change) :
    (c.deliver files root batch).2.2.failure = none := by
  unfold Catalog.deliver
  split
  · rfl
  · generalize Watcher.delivery _ batch = es
    cases es with
    | nil => rfl
    | cons e rest => rfl

theorem perform_deliver (files : FileTree) (root : Path) (batch : List Change) {w : Worked}
    (hfree : w.locked = false) :
    (deliver files root batch).perform w = ((w.catalog.deliver files root batch).2.2.ending (),
      w.after (w.catalog.deliver files root batch).1 (w.catalog.deliver files root batch).2.2) := by
  rw [Catalog.Report.ending, failure_deliver, deliver, perform_bind, perform_get, Catalog.deliver]
  dsimp only
  cases w.catalog.watchers.find? fun w => w.isRunning && w.filter.root = root with
  | none => simp [Worked.after]
  | some watcher => exact perform_followEach files _ hfree

/-! ### 4.3 Resolving -/

theorem does_resolve (files : FileTree) (ref? : Option NodeRef) (c : Catalog) :
    Does (resolve files ref?) c () (c.resolve files ref?).1 (c.resolve files ref?).2 := by
  cases ref? with
  | none => exact (does_rescan files .never c).ignore
  | some ref =>
    apply Does.of_after
    rw [resolve, perform_bind, perform_get, Catalog.resolve]
    dsimp only
    cases c.meaning? ref with
    | none => simp [Worked.after, Catalog.Report.ending]
    | some meaning =>
      cases meaning with
      | package => exact perform_refreshPackage files ref _
      | file => exact perform_refreshFile files ref _
      | runnable r => exact perform_bind_pure (perform_discover files (c.pathOf ref) none _) _

end Procedure

/-! ## 5. Operations -/

/-- An operation that reads files and calls the listeners. -/
inductive Operation where
  | discover (files : FileTree) (path : Path) (content : Option String)
  | refreshFile (files : FileTree) (ref : NodeRef)
  | refreshPackage (files : FileTree) (ref : NodeRef)
  | resolve (files : FileTree) (ref? : Option NodeRef)
  | rescan (files : FileTree) (cancelled : CancelSignal)
  | follow (files : FileTree) (event : FileEvent)
  | deliver (files : FileTree) (root : Path) (batch : List Change)

namespace Operation

/-- What an operation makes of a catalog, and what it leads to beside that. -/
def result (c : Catalog) : Operation → Catalog × Catalog.Report
  | discover files path content =>
    let (c, _, report) := c.discover files path content
    (c, report)
  | refreshFile files ref => c.refreshFile files ref
  | refreshPackage files ref => c.refreshPackage files ref
  | resolve files ref? => c.resolve files ref?
  | rescan files cancelled =>
    let (c, _, report) := c.rescan files cancelled
    (c, report)
  | follow files event => c.follow files event
  | deliver files root batch =>
    let (c, _, report) := c.deliver files root batch
    (c, report)

def procedure : Operation → Procedure Unit
  | discover files path content => do let _ ← Procedure.discover files path content
  | refreshFile files ref => Procedure.refreshFile files ref
  | refreshPackage files ref => Procedure.refreshPackage files ref
  | resolve files ref? => Procedure.resolve files ref?
  | rescan files cancelled => do let _ ← Procedure.rescan files cancelled
  | follow files event => Procedure.follow files event
  | deliver files root batch => Procedure.deliver files root batch

/-- **The procedure of every operation** leads to exactly what the operation makes of the
    catalog, whether a listener breaks it off or not, and the lock is free again. -/
theorem does_procedure (op : Operation) (c : Catalog) :
    op.procedure.Does c () (op.result c).1 (op.result c).2 := by
  cases op with
  | discover files path content =>
    exact .of_after (Procedure.perform_bind_pure (Procedure.perform_discover files path content _) _)
  | refreshFile files ref => exact .of_after (Procedure.perform_refreshFile files ref _)
  | refreshPackage files ref => exact .of_after (Procedure.perform_refreshPackage files ref _)
  | resolve files ref? => exact Procedure.does_resolve files ref? c
  | rescan files cancelled => exact (Procedure.does_rescan files cancelled c).ignore
  | follow files event => exact .of_after (Procedure.perform_follow files event rfl)
  | deliver files root batch => exact .of_after (Procedure.perform_deliver files root batch rfl)

end Operation
end SuiteExplorer
