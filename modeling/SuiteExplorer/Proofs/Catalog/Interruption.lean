/-
  SuiteExplorer/Proofs/Catalog/Interruption.lean
  ==============================================
  **A rescan that is cancelled has gone a part of the way.**

  A rescan looks whether it is cancelled before it begins, while it lists each root, and
  before each file.  What it does then differs from place to place: before the start
  nothing happens; a root whose listing is given up is the last one; but a file that is not
  discovered any more only ends the files of its root, and the next root is begun and
  watched all the same.  Its files are left alone, because a cancellation stays
  (`Lasting`).  So the files that were discovered are the first ones of all that are listed,
  and the roots that are watched the first ones of all roots (`rescan_interrupted`).
-/
import SuiteExplorer.Proofs.Catalog.Rescanning

namespace SuiteExplorer

/-! ## 1. Cancellations that stay -/

namespace CancelSignal

/-- Who has seen that a rescan is cancelled sees it whenever he looks later on.  Only while
    a root is listed, the listing may come first. -/
def Lasting (cancelled : CancelSignal) : Prop :=
  ∀ p p' : RescanProgress, p.looks ≤ p'.looks → p.calls ≤ p'.calls → p'.lists = false →
    cancelled p = true → cancelled p' = true

/-- By a point of its progress a rescan has seen that it is cancelled. -/
def SeenBy (cancelled : CancelSignal) (p : RescanProgress) : Prop :=
  ∃ q : RescanProgress, cancelled q = true ∧ q.looks ≤ p.looks ∧ q.calls ≤ p.calls

variable {cancelled : CancelSignal} {p p' : RescanProgress}

theorem SeenBy.mono (h : cancelled.SeenBy p) (hlooks : p.looks ≤ p'.looks)
    (hcalls : p.calls ≤ p'.calls) : cancelled.SeenBy p' := by
  obtain ⟨q, hq, hqlooks, hqcalls⟩ := h
  exact ⟨q, hq, hqlooks.trans hlooks, hqcalls.trans hcalls⟩

theorem Lasting.of_seenBy (hlasting : cancelled.Lasting) (h : cancelled.SeenBy p)
    (hlists : p.lists = false) : cancelled p = true := by
  obtain ⟨q, hq, hlooks, hcalls⟩ := h
  exact hlasting q p hlooks hcalls hlists hq

end CancelSignal

/-! ## 2. A part of the way -/

/-- The paths that the listings of some roots reach, in their order. -/
def CatalogSettings.listedBelow (s : CatalogSettings) (files : FileTree) (roots : List Path) :
    List Path :=
  roots.flatMap fun root => files.listing root s.includePattern s.extra

/-- The watches of some roots, one for each of them. -/
def CatalogSettings.watchersOf (s : CatalogSettings) (roots : List Path) : List Watch.Watcher :=
  if s.watches then
    roots.map fun root => { filter := s.filterOf root, task := some .live }
  else []

theorem CatalogSettings.watchersOf_append (s : CatalogSettings) (roots roots' : List Path) :
    s.watchersOf (roots ++ roots') = s.watchersOf roots ++ s.watchersOf roots' := by
  unfold watchersOf
  split
  · exact List.map_append
  · rfl

namespace Rescan

/-- What is noted of a root whose listing is given up. -/
def givenUp (root : Path) : JournalEvent := .info "rescan_cancelled" [("root", .text root.text)]

/-- From `r` to `r'` a rescan begins to list some roots, and discovers some files. -/
structure Goes (files : FileTree) (begun found : List Path) (r r' : Rescan) : Prop where
  grows : Catalog.Grows files found r.catalog r'.catalog
  watchers : r'.catalog.watchers = r.catalog.watchers ++ r.catalog.settings.watchersOf begun
  closed : r'.catalog.closed = r.catalog.closed
  looks : r.progress.looks ≤ r'.progress.looks
  calls : r.progress.calls ≤ r'.progress.calls

variable {files : FileTree} {begun begun' found found' : List Path} {r r' r'' : Rescan}
  {cancelled : CancelSignal}

theorem Goes.of_same (hsettings : r'.catalog.settings = r.catalog.settings)
    (hpackages : r'.catalog.packages = r.catalog.packages)
    (hbooks : r'.catalog.books = r.catalog.books)
    (hwatchers : r'.catalog.watchers = r.catalog.watchers ++ r.catalog.settings.watchersOf begun)
    (hclosed : r'.catalog.closed = r.catalog.closed)
    (hlooks : r.progress.looks ≤ r'.progress.looks)
    (hcalls : r.progress.calls ≤ r'.progress.calls) : Goes files begun [] r r' :=
  ⟨.same hsettings hpackages hbooks, hwatchers, hclosed, hlooks, hcalls⟩

theorem watchersOf_nil (c : Catalog) : c.watchers ++ c.settings.watchersOf [] = c.watchers := by
  unfold CatalogSettings.watchersOf
  split
  · exact List.append_nil _
  · exact List.append_nil _

theorem Goes.trans (h : Goes files begun found r r') (h' : Goes files begun' found' r' r'') :
    Goes files (begun ++ begun') (found ++ found') r r'' where
  grows := h.grows.trans h'.grows
  watchers := by
    rw [h'.watchers, h.watchers, h.grows.keeps.settings, CatalogSettings.watchersOf_append,
      List.append_assoc]
  closed := h'.closed.trans h.closed
  looks := h.looks.trans h'.looks
  calls := h.calls.trans h'.calls

theorem goes_look (files : FileTree) (r : Rescan) (cancelled : CancelSignal) :
    Goes files [] [] r (r.look cancelled).1 :=
  .of_same rfl rfl rfl (watchersOf_nil r.catalog).symm rfl (Nat.le_succ _) (Nat.le_refl _)

/-- A root that is begun is watched. -/
theorem goes_watch (files : FileTree) (r : Rescan) (root : Path) :
    Goes files [root] [] r (r.watch root) := by
  have hsame : (r.watch root).catalog.settings = r.catalog.settings ∧
      (r.watch root).catalog.packages = r.catalog.packages ∧
      (r.watch root).catalog.books = r.catalog.books ∧
      (r.watch root).catalog.watchers =
        r.catalog.watchers ++ r.catalog.settings.watchersOf [root] ∧
      (r.watch root).catalog.closed = r.catalog.closed ∧
      (r.watch root).progress.looks = r.progress.looks ∧
      (r.watch root).progress.calls = r.progress.calls := by
    unfold watch CatalogSettings.watchersOf
    dsimp only
    split
    · exact ⟨rfl, rfl, rfl, rfl, rfl, rfl, rfl⟩
    · exact ⟨rfl, rfl, rfl, (List.append_nil _).symm, rfl, rfl, rfl⟩
  obtain ⟨hsettings, hpackages, hbooks, hwatchers, hclosed, hlooks, hcalls⟩ := hsame
  exact .of_same hsettings hpackages hbooks hwatchers hclosed hlooks.ge hcalls.ge

theorem goes_file (r : Rescan) (path : Path) : Goes files [] [path] r (r.file files path) where
  grows := r.catalog.grows_discover files path
  watchers :=
    (r.catalog.watches_discover files path).1.trans (watchersOf_nil r.catalog).symm
  closed := (r.catalog.watches_discover files path).2
  looks := Nat.le_refl _
  calls := Nat.le_add_right _ _

/-- **The files of one root** are discovered up to some point: to the end, unless it has been
    seen that the rescan is cancelled. -/
theorem goes_eachFile (files : FileTree) (hlasting : cancelled.Lasting) (paths : List Path)
    (r : Rescan) (hlists : r.progress.lists = false) :
    ∃ found, found <+: paths ∧ Goes files [] found r (r.eachFile files cancelled paths) ∧
      (cancelled.SeenBy r.progress → found = []) ∧
      (found = paths ∨ cancelled.SeenBy (r.eachFile files cancelled paths).progress) := by
  induction paths generalizing r with
  | nil =>
    refine ⟨[], List.prefix_refl _, ?_, fun _ => rfl, Or.inl rfl⟩
    exact .of_same rfl rfl rfl (watchersOf_nil _).symm rfl (Nat.le_refl _) (Nat.le_refl _)
  | cons path rest ih =>
    have hlook := goes_look files r cancelled
    rw [eachFile]
    cases hstop : cancelled r.progress with
    | true =>
      simp only [look, hstop, if_true]
      refine ⟨[], List.nil_prefix, hlook, fun _ => rfl, Or.inr ?_⟩
      exact ⟨r.progress, hstop, hlook.looks, hlook.calls⟩
    | false =>
      simp only [look, hstop, Bool.false_eq_true, if_false]
      obtain ⟨found, hprefix, hgoes, -, hend⟩ := ih (file (r.look cancelled).1 files path) rfl
      refine ⟨path :: found, List.cons_prefix_cons.mpr ⟨rfl, hprefix⟩, ?_, fun hseen => ?_, ?_⟩
      · exact hlook.trans ((goes_file (r.look cancelled).1 path).trans hgoes)
      · rw [hlasting.of_seenBy hseen hlists] at hstop
        cases hstop
      · exact hend.imp_left fun hall => by rw [hall]

/-- **The roots** are begun up to some point, the end or one whose listing is given up, and
    the files of their listings are discovered up to some point. -/
theorem goes_eachRoot (files : FileTree) (hlasting : cancelled.Lasting) (roots : List Path)
    (r : Rescan) :
    ∃ begun found, begun <+: roots ∧ found <+: r.catalog.settings.listedBelow files begun ∧
      Goes files begun found r (r.eachRoot files cancelled roots) ∧
      (cancelled.SeenBy r.progress → found = []) ∧
      (begun = roots ∨ ∃ root, begun.getLast? = some root ∧
        givenUp root ∈ (r.eachRoot files cancelled roots).journal) := by
  induction roots generalizing r with
  | nil =>
    refine ⟨[], [], List.prefix_refl _, List.prefix_refl _, ?_, fun _ => rfl, Or.inl rfl⟩
    exact .of_same rfl rfl rfl (watchersOf_nil _).symm rfl (Nat.le_refl _) (Nat.le_refl _)
  | cons root rest ih =>
    have hbegun : Goes files [root] [] r ((r.watch root).look cancelled).1 :=
      (goes_watch files r root).trans (goes_look files (r.watch root) cancelled)
    rw [eachRoot]
    cases hstop : cancelled (r.watch root).progress with
    | true =>
      simp only [look, hstop, if_true]
      refine ⟨[root], [], ?_, List.nil_prefix, ?_, fun _ => rfl, Or.inr ⟨root, rfl, ?_⟩⟩
      · exact List.cons_prefix_cons.mpr ⟨rfl, List.nil_prefix⟩
      · exact ⟨hbegun.grows, hbegun.watchers, hbegun.closed, hbegun.looks, hbegun.calls⟩
      · exact List.mem_append_right _ List.mem_cons_self
    | false =>
      simp only [look, hstop, Bool.false_eq_true, if_false]
      obtain ⟨found, hprefix, hfiles, hnone, hend⟩ := goes_eachFile files hlasting
        (files.listing root (r.watch root).catalog.settings.includePattern
          (r.watch root).catalog.settings.extra) ((r.watch root).look cancelled).1 rfl
      have hfirst := hbegun.trans hfiles
      obtain ⟨begun, found', hbegun', hfound', hrest, hnone', hlast⟩ := ih
        (((r.watch root).look cancelled).1.eachFile files cancelled
          (files.listing root (r.watch root).catalog.settings.includePattern
            (r.watch root).catalog.settings.extra))
      have hsettings : (r.watch root).catalog.settings = r.catalog.settings :=
        (goes_watch files r root).grows.keeps.settings
      rw [hfirst.grows.keeps.settings] at hfound'
      refine ⟨root :: begun, found ++ found', List.cons_prefix_cons.mpr ⟨rfl, hbegun'⟩, ?_,
        hfirst.trans hrest, fun hseen => ?_, ?_⟩
      · rw [CatalogSettings.listedBelow, List.flatMap_cons, ← hsettings]
        rcases hend with rfl | hseen
        · rw [hsettings]
          exact (List.prefix_append_right_inj _).mpr hfound'
        · -- the files of the other roots are left alone
          rw [hnone' hseen, List.append_nil]
          exact hprefix.trans (List.prefix_append _ _)
      · rw [hnone (hseen.mono hbegun.looks hbegun.calls),
          hnone' (hseen.mono hfirst.looks hfirst.calls)]
        rfl
      · rcases hlast with rfl | ⟨last, hlast, hgivenUp⟩
        · exact Or.inl rfl
        · exact Or.inr ⟨last, by rw [List.getLast?_cons, hlast]; rfl, hgivenUp⟩

end Rescan

namespace Catalog

/-! ## 3. Rescans -/

/-- Discover files one after the other. -/
def discoverAll (c : Catalog) (files : FileTree) (paths : List Path) : Catalog :=
  paths.foldl (fun c path => (c.discover files path none).1) c

theorem grows_discoverAll (files : FileTree) (paths : List Path) (c : Catalog) :
    Grows files paths c (c.discoverAll files paths) := by
  induction paths generalizing c with
  | nil => exact .same rfl rfl rfl
  | cons path paths ih => exact (c.grows_discover files path).trans (ih _)

/-- **A rescan that is cancelled is a part of one that is not.**  Take any catalog that
    operations lead to, and any moment at which the rescan is cancelled.  If that is before
    the rescan, nothing happens.  Else the roots up to some point are begun, the last of them
    all or one whose listing is given up, and exactly these are watched, if roots are
    watched; every watch from before is closed, and runs no longer.  The tree is what
    discovering the files up to some point makes of an empty catalog, these files lie below
    the roots that were begun, and the rescan gives the nodes of the files that are in the
    tree. -/
theorem rescan_interrupted (settings : CatalogSettings) (listeners : List Listener)
    (acts : List CatalogAct) (files : FileTree) {cancelled : CancelSignal}
    (hlasting : cancelled.Lasting) :
    let before := (fresh settings listeners).performAll acts
    let after := (before.rescan files cancelled).1
    (cancelled {} = true → before.rescan files cancelled = (before, [], {})) ∧
    (cancelled {} = false → ∃ begun found,
      (begun <+: settings.roots ∧ (begun = settings.roots ∨ ∃ root, begun.getLast? = some root ∧
        Rescan.givenUp root ∈ (before.rescan files cancelled).2.2.journal)) ∧
      after.watchers = settings.watchersOf begun ∧
      (after.closed = before.closed ++ before.watchers.map (·.stop) ∧
        ∀ w ∈ before.watchers, w.stop ∈ after.closed ∧ w.stop.isRunning = false) ∧
      found <+: settings.listedBelow files settings.roots ∧
      found <+: settings.listedBelow files begun ∧
      after.outline = ((fresh settings).discoverAll files found).outline ∧
      (∀ i ∈ after.infos, i.state = none) ∧
      (before.rescan files cancelled).2.1 = after.files.map (·.info.ref) ∧
      ∀ ref, ref ∈ (before.rescan files cancelled).2.1 ↔ after.meaning? ref = some .file) := by
  intro before after
  have hs : before.Sound := sound_performAll settings listeners acts
  have hsettings : before.settings = settings := settings_performAll settings listeners acts
  constructor
  · intro hstop
    simp only [rescan, Rescan.look, hstop, if_true]
  · intro hstop
    let start : Rescan := ⟨before.clear.closeWatches, ⟨1, 0, false⟩, [], []⟩
    have hstart : start.catalog.settings = settings := hsettings
    obtain ⟨begun, found, hbegun, hfound, hgoes, -, hlast⟩ :=
      Rescan.goes_eachRoot files hlasting settings.roots start
    rw [hstart] at hfound
    have hrescan : before.rescan files cancelled =
        let r := start.eachRoot files cancelled settings.roots
        (r.catalog, r.catalog.files.map (·.info.ref), ⟨r.called, none, r.journal ++
          [.info "rescan_complete" [("roots", .int settings.roots.length),
            ("files", .int (r.catalog.files.map (·.info.ref)).length)]]⟩) := by
      simp only [rescan, Rescan.look, hstop, Bool.false_eq_true, if_false]
      rw [hsettings]
    have hafter : after = (start.eachRoot files cancelled settings.roots).catalog := by
      simp only [after, hrescan]
    have hclear : start.catalog.Sound := before.keeps_clear_closeWatches.sound hs
    have hsound : after.Sound := (before.keeps_rescan files cancelled).sound hs
    have hreturned : (before.rescan files cancelled).2.1 = after.files.map (·.info.ref) := by
      simp only [hafter, hrescan]
    have hclosed : after.closed = before.closed ++ before.watchers.map (·.stop) := by
      rw [hafter, hgoes.closed]
      rfl
    refine ⟨begun, found, ⟨hbegun, ?_⟩, ?_, ⟨hclosed, fun w hw => ⟨?_, rfl⟩⟩, ?_, hfound, ?_, ?_,
      hreturned, fun ref => ?_⟩
    · rcases hlast with hall | ⟨root, hroot, hgivenUp⟩
      · exact Or.inl hall
      · refine Or.inr ⟨root, hroot, ?_⟩
        simp only [hrescan]
        exact List.mem_append_left _ hgivenUp
    · rw [hafter, hgoes.watchers, hstart]
      exact List.nil_append _
    · rw [hclosed]
      exact List.mem_append_right _ (List.mem_map_of_mem hw)
    · refine hfound.trans ?_
      obtain ⟨rest, hrest⟩ := hbegun
      rw [← hrest, CatalogSettings.listedBelow, CatalogSettings.listedBelow, List.flatMap_append]
      exact List.prefix_append _ _
    · have hgrows := grows_discoverAll files found (fresh settings)
      have henter : start.catalog.enterRead files = (fresh settings).enterRead files :=
        enterRead_congr hstart files
      rw [hafter, hgoes.grows.outline hclear, hgrows.outline (sound_fresh settings []), henter]
      rfl
    · intro i hi
      rw [hafter] at hi
      exact (hgoes.grows.renews i hi).resolve_left List.not_mem_nil
    · rw [hreturned]
      exact hsound.mem_files_iff ref

/-! ### 3.1 Two roots

The rescan is cancelled when the first of two files of the first root is discovered.  It
sees it before the second file; the listing of the second root comes first, and its files
are left alone. -/

def pairedSettings : CatalogSettings :=
  { roots := [.ofString "/w/a", .ofString "/w/b"], libraries := [.gocheck], watches := true }

def pairedFiles : FileTree :=
  ((FileTree.empty.write (.ofString "/w/a/x_test.go") (sampleTest "p")).write
    (.ofString "/w/a/s/y_test.go") (sampleTest "p")).write (.ofString "/w/b/z_test.go") (sampleTest "p")

/-- Cancelled from the fourth look on, but no listing is given up. -/
def afterFirstFile : CancelSignal := fun p => decide (3 ≤ p.looks) && !p.lists

theorem rescan_interrupted_afterFirstFile :
    afterFirstFile.Lasting ∧
      (∃ begun found, begun <+: pairedSettings.roots ∧
        found <+: pairedSettings.listedBelow pairedFiles pairedSettings.roots ∧
        ((fresh pairedSettings).rescan pairedFiles afterFirstFile).1.watchers =
          pairedSettings.watchersOf begun ∧
        ((fresh pairedSettings).rescan pairedFiles afterFirstFile).1.outline =
          ((fresh pairedSettings).discoverAll pairedFiles found).outline) ∧
      ((fresh pairedSettings).rescan pairedFiles afterFirstFile).1.files.map (·.info.path) =
        [.ofString "/w/a/x_test.go"] ∧
      ((fresh pairedSettings).rescan pairedFiles afterFirstFile).1.watchers =
        pairedSettings.watchersOf pairedSettings.roots := by
  have hlasting : afterFirstFile.Lasting := by
    intro p p' hlooks _ hlists hp
    simp only [afterFirstFile, Bool.and_eq_true, decide_eq_true_eq, Bool.not_eq_true'] at hp ⊢
    exact ⟨hp.1.trans hlooks, hlists⟩
  obtain ⟨begun, found, ⟨hbegun, -⟩, hwatchers, -, hfound, -, houtline, -⟩ :=
    (rescan_interrupted pairedSettings [] [] pairedFiles hlasting).2 rfl
  rw [performAll, List.foldl_nil] at hwatchers houtline
  -- two watches have been opened, so both roots were begun
  have hboth : begun = pairedSettings.roots := by
    have hcount : ((fresh pairedSettings).rescan pairedFiles afterFirstFile).1.watchers.length =
        pairedSettings.roots.length := by decide +kernel
    rw [hwatchers, CatalogSettings.watchersOf, if_pos (by decide), List.length_map] at hcount
    exact hbegun.eq_of_length hcount
  refine ⟨hlasting, ⟨begun, found, hbegun, hfound, hwatchers, houtline⟩, by decide +kernel, ?_⟩
  rw [hwatchers, hboth]

end Catalog
end SuiteExplorer
