/-
  SuiteExplorer/Proofs/Catalog/Origin.lean
  ========================================
  **Every node of the catalog is a node of a file that was read.**

  `Evolves` says once what operations do to the tree: nodes leave, files that have been
  read are entered, states are set.  Each operation is made of these steps
  (`evolves_perform`), so what they keep is kept by all histories.  Here it is that
  every node comes from a file in which some operation may have found tests
  (`mem_entries_performAll`).
-/
import SuiteExplorer.Proofs.Catalog.Merging

namespace SuiteExplorer

/-! ## 1. What operations do to the tree -/

namespace Catalog

/-- One catalog becomes another: nodes leave, files are entered as the plan has them,
    states are set; listeners and watches may change at any time. -/
inductive Evolves (plan : Plan) : Catalog → Catalog → Prop
  | same {c c' : Catalog} (hsettings : c'.settings = c.settings)
      (hpackages : c'.packages = c.packages) (hbooks : c'.books = c.books) : Evolves plan c c'
  | loses {c c' : Catalog} (h : c.Loses c') : Evolves plan c c'
  | enters (c : Catalog) {q : Path} {package : String} {ds : List Declaration}
      (h : plan q = some (package, ds)) : Evolves plan c (c.enterFile q package ds)
  | marks (c : Catalog) (ref : NodeRef) (state : RunState) : Evolves plan c (c.setState ref state)
  | trans {c c' c'' : Catalog} (h : Evolves plan c c') (h' : Evolves plan c' c'') :
      Evolves plan c c''

theorem Evolves.refl (plan : Plan) (c : Catalog) : Evolves plan c c := .same rfl rfl rfl

theorem Evolves.keeps {plan : Plan} {c c' : Catalog} (h : Evolves plan c c') : c.Keeps c' := by
  induction h with
  | same hsettings hpackages hbooks => exact keeps_of_tree hsettings hpackages hbooks
  | loses h => exact h.keeps
  | enters c _ => exact c.keeps_enterFile _ _ _
  | marks c ref state => exact c.keeps_setState ref state
  | trans _ _ ih ih' => exact ih.trans ih'

/-- What discovering a file finds, in the content that is given or else on disk. -/
def contentFindings? (c : Catalog) (files : FileTree) (q : Path) :
    Option String → Option (String × List Declaration)
  | none => c.findings? files q
  | some text => if c.isCandidate q then c.findingsIn? text else none

/-- **Discovering a file** enters what its content has, given or on disk. -/
theorem discoverQuietly_content_eq (c : Catalog) (files : FileTree) (q : Path)
    (content : Option String) : (c.discoverQuietly files q content).1 =
      c.enterFindings q (c.contentFindings? files q content) := by
  cases content with
  | none => exact discoverQuietly_eq c files q
  | some text =>
    unfold discoverQuietly contentFindings?
    cases c.isCandidate q with
    | false => rfl
    | true => exact c.discoverText_eq q text

theorem contentFindings?_some {c : Catalog} {files : FileTree} {q : Path}
    {content : Option String} {e : String × List Declaration}
    (h : c.contentFindings? files q content = some e) : c.isCandidate q = true ∧ e.2 ≠ [] := by
  cases content with
  | none => exact ⟨(findings?_some h).1, (findings?_some h).2.2⟩
  | some text =>
    rw [contentFindings?] at h
    split at h
    · next hcandidate => exact ⟨hcandidate, findingsIn?_ne_nil h⟩
    · cases h

theorem contentFindings?_congr {c c' : Catalog} (hsettings : c'.settings = c.settings) :
    c'.contentFindings? = c.contentFindings? := by
  funext files q content
  cases content with
  | none => exact findings?_congr hsettings rfl
  | some text =>
    unfold contentFindings? isCandidate rootOf? findingsIn? declarationsIn
    rw [hsettings]

/-- The plan has what reading the files finds. -/
def Covers (plan : Plan) (c : Catalog) (files : FileTree) : Prop :=
  ∀ q e, c.findings? files q = some e → plan q = some e

theorem covers_findings (c : Catalog) (files : FileTree) : Covers (c.findings? files) c files :=
  fun _ _ h => h

section Steps

variable {plan : Plan} {c : Catalog} {files : FileTree}

theorem Covers.of_evolves {c' : Catalog} (hplan : Covers plan c files) (h : Evolves plan c c') :
    Covers plan c' files := fun q e he =>
  hplan q e (findings?_congr h.keeps.settings rfl ▸ he)

theorem evolves_enterFindings {q : Path} {found : Option (String × List Declaration)}
    (h : ∀ e, found = some e → plan q = some e) : Evolves plan c (c.enterFindings q found) := by
  cases found with
  | none => exact .refl plan c
  | some e => exact .enters c (h e rfl)

theorem evolves_notifyIf (plan : Plan) (c : Catalog) (changed : Bool) (journal : Journal) :
    Evolves plan c (c.notifyIf changed journal).1 := by
  unfold notifyIf
  split
  · exact .same rfl rfl rfl
  · exact .refl plan c

theorem evolves_discoverQuietly (hplan : Covers plan c files) (q : Path) :
    Evolves plan c (c.discoverQuietly files q none).1 := by
  rw [discoverQuietly_eq]
  exact evolves_enterFindings (hplan q)

theorem evolves_discover (hplan : Covers plan c files) (q : Path) :
    Evolves plan c (c.discover files q none).1 :=
  (evolves_discoverQuietly hplan q).trans (evolves_notifyIf ..)

/-- Discovering one file, also one whose content is given. -/
theorem evolves_discover_content {q : Path} {content : Option String}
    (h : ∀ e, c.contentFindings? files q content = some e → plan q = some e) :
    Evolves plan c (c.discover files q content).1 := by
  have hquiet : Evolves plan c (c.discoverQuietly files q content).1 := by
    rw [discoverQuietly_content_eq]
    exact evolves_enterFindings h
  exact hquiet.trans (evolves_notifyIf ..)

theorem evolves_discoverEach (paths : List Path) {c : Catalog} (hplan : Covers plan c files) :
    Evolves plan c (c.discoverEach files paths).1 := by
  induction paths generalizing c with
  | nil => exact .refl plan c
  | cons path paths ih =>
    have hfirst := evolves_discoverQuietly hplan path
    exact hfirst.trans (ih (hplan.of_evolves hfirst))

theorem evolves_refreshQuietly (hplan : Covers plan c files) (ref : NodeRef) :
    Evolves plan c (c.refreshQuietly files ref).1 := by
  have hclear : Evolves plan c (c.clearChildren ref) := .loses (c.loses_clearChildren ref)
  exact hclear.trans (evolves_discoverQuietly (hplan.of_evolves hclear) _)

theorem evolves_refreshFile (hplan : Covers plan c files) (ref : NodeRef) :
    Evolves plan c (c.refreshFile files ref).1 :=
  (evolves_refreshQuietly hplan ref).trans (evolves_notifyIf ..)

theorem evolves_refreshPackage (hplan : Covers plan c files) (ref : NodeRef) :
    Evolves plan c (c.refreshPackage files ref).1 := by
  have hclear : Evolves plan c (c.clearChildren ref) := .loses (c.loses_clearChildren ref)
  refine hclear.trans ?_
  unfold refreshPackage
  dsimp only
  split
  · exact evolves_notifyIf ..
  · exact (evolves_discoverEach _ (hplan.of_evolves hclear)).trans (evolves_notifyIf ..)

theorem evolves_prune (plan : Plan) (c : Catalog) : Evolves plan c c.prune.1 := .loses c.loses_prune

theorem evolves_removeFile (plan : Plan) (c : Catalog) (q : Path) :
    Evolves plan c (c.removeFile q).1 := .loses (c.loses_removeFile q)

theorem evolves_onModified (hplan : Covers plan c files) (q : Path) :
    Evolves plan c (c.onModified files q).1 := by
  unfold onModified
  dsimp only
  split
  · exact (evolves_discoverQuietly hplan q).trans (evolves_prune ..)
  · exact (evolves_refreshQuietly hplan _).trans (evolves_prune ..)

theorem evolves_onDeleted (plan : Plan) (c : Catalog) (q : Path) :
    Evolves plan c (c.onDeleted q).1 := by
  have hremove := evolves_removeFile plan c q
  unfold onDeleted
  split
  case h_1 c' hc' => rw [hc'] at hremove; exact hremove
  case h_2 c' hc' => rw [hc'] at hremove; exact hremove.trans (evolves_prune ..)

theorem evolves_follow (hplan : Covers plan c files) (event : Watch.FileEvent) :
    Evolves plan c (c.follow files event).1 := by
  unfold follow
  refine Evolves.trans ?_ (evolves_notifyIf ..)
  cases event.kind with
  | created => exact evolves_discoverQuietly hplan event.path
  | modified => exact evolves_onModified hplan event.path
  | deleted => exact evolves_onDeleted plan c event.path

end Steps

end Catalog

/-! ## 2. Rescans and sequences of operations -/

namespace Rescan

variable {plan : Plan} {files : FileTree} (cancelled : CancelSignal)

theorem evolves_eachFile (paths : List Path) {r : Rescan} (hplan : r.catalog.Covers plan files) :
    Catalog.Evolves plan r.catalog (r.eachFile files cancelled paths).catalog := by
  induction paths generalizing r with
  | nil => exact .refl plan _
  | cons path paths ih =>
    rw [eachFile]
    dsimp only [look]
    split
    · exact .refl plan _
    · have hfirst := Catalog.evolves_discover hplan path
      refine Catalog.Evolves.trans ?_ (ih ?_)
      · exact hfirst
      · exact hplan.of_evolves hfirst

theorem evolves_watch (plan : Plan) (r : Rescan) (root : Path) :
    Catalog.Evolves plan r.catalog (r.watch root).catalog := by
  unfold watch
  dsimp only
  split
  · exact .same rfl rfl rfl
  · exact .refl plan _

theorem evolves_eachRoot (roots : List Path) {r : Rescan} (hplan : r.catalog.Covers plan files) :
    Catalog.Evolves plan r.catalog (r.eachRoot files cancelled roots).catalog := by
  induction roots generalizing r with
  | nil => exact .refl plan _
  | cons root roots ih =>
    have hwatch := r.evolves_watch plan root
    rw [eachRoot]
    dsimp only [look]
    split
    · exact hwatch
    · have hlooked : ((r.watch root).look cancelled).1.catalog.Covers plan files :=
        hplan.of_evolves hwatch
      have hfiles := fun paths => hwatch.trans
        (evolves_eachFile cancelled paths (r := ((r.watch root).look cancelled).1) hlooked)
      refine Catalog.Evolves.trans ?_ (ih ?_)
      · exact hfiles _
      · exact hplan.of_evolves (hfiles _)

end Rescan

namespace Catalog

theorem evolves_rescan {plan : Plan} {c : Catalog} {files : FileTree}
    (hplan : c.Covers plan files) (cancelled : CancelSignal) :
    Evolves plan c (c.rescan files cancelled).1 := by
  have hclear : Evolves plan c c.clear.closeWatches :=
    (Evolves.loses c.loses_clear).trans (.same rfl rfl rfl)
  unfold rescan
  dsimp only [Rescan.look]
  split
  · exact .refl plan c
  · exact hclear.trans (Rescan.evolves_eachRoot cancelled _ (hplan.of_evolves hclear)
      (r := ⟨_, _, _, _⟩))

theorem evolves_resolve {plan : Plan} {c : Catalog} {files : FileTree}
    (hplan : c.Covers plan files) (ref? : Option NodeRef) :
    Evolves plan c (c.resolve files ref?).1 := by
  unfold resolve
  split
  · exact evolves_rescan hplan .never
  · split
    · exact .refl plan c
    · exact evolves_refreshPackage hplan _
    · exact evolves_refreshFile hplan _
    · exact evolves_discover hplan _

end Catalog

/-- What an operation may find at a path.  A file that is discovered has the content
    that is given, all other operations read the files of their own moment. -/
def CatalogAct.plan (c : Catalog) : CatalogAct → Plan
  | .discover files path content => fun q =>
    if q = path then c.contentFindings? files q content else none
  | .refreshFile files _ => c.findings? files
  | .refreshPackage files _ => c.findings? files
  | .resolve files _ => c.findings? files
  | .rescan files _ => c.findings? files
  | .follow files _ => c.findings? files
  | _ => fun _ => none

namespace Catalog

/-- **Each operation is made of these steps.** -/
theorem evolves_perform (c : Catalog) (act : CatalogAct) :
    Evolves (act.plan c) c (c.perform act) := by
  have hplan := c.covers_findings
  cases act with
  | discover files path content =>
    apply evolves_discover_content
    intro e he
    exact (if_pos rfl).trans he
  | refreshFile files ref => exact evolves_refreshFile (hplan files) ref
  | refreshPackage files ref => exact evolves_refreshPackage (hplan files) ref
  | resolve files ref => exact evolves_resolve (hplan files) ref
  | prune => exact evolves_prune _ c
  | removeFile path => exact evolves_removeFile _ c path
  | rescan files cancelled => exact evolves_rescan (hplan files) cancelled
  | follow files event => exact evolves_follow (hplan files) event
  | clear => exact .loses c.loses_clear
  | dispose =>
    have hclose : Evolves (CatalogAct.dispose.plan c) c c.closeWatches := .same rfl rfl rfl
    exact (hclose.trans (.loses (loses_clear _))).trans (.same rfl rfl rfl)
  | setState ref state => exact .marks c ref state
  | listen listener => exact .same rfl rfl rfl

/-! ## 3. Where nodes come from -/

theorem outline_setState (c : Catalog) (ref : NodeRef) (state : RunState) :
    (c.setState ref state).outline = c.outline := by
  apply outline_mapInfo
  intro μ i
  split <;> rfl

/-- **A step draws from what is there** and from the files of the plan. -/
theorem Evolves.drawn {plan : Plan} {c c' : Catalog} (h : Evolves plan c c') (hc : c.Sound) :
    ∀ e ∈ c'.entries, e ∈ c.entries ∨ ∃ q package ds, plan q = some (package, ds) ∧
      e ∈ nodesOf c.packageLabel q package ds := by
  induction h with
  | same _ hpackages hbooks =>
    intro e he
    rw [entries, outline_same hpackages hbooks] at he
    exact Or.inl he
  | loses h => exact fun e he => Or.inl ((h.thins_outline hc.booked).entries_subset he)
  | enters c hplan =>
    intro e he
    rw [entries, outline_enterFile hc.booked.tracks hc.distinct] at he
    have hdrawn := (merges_enterOutline hc.distinct c.packageLabel _ _ _).drawn e he
    exact hdrawn.symm.imp_right fun hnew => ⟨_, _, _, hplan, hnew⟩
  | marks c ref state =>
    intro e he
    rw [entries, outline_setState] at he
    exact Or.inl he
  | trans h h' ih ih' =>
    intro e he
    rcases ih' (h.keeps.sound hc) e he with he | ⟨q, package, ds, hplan, he⟩
    · exact ih hc e he
    · rw [packageLabel_congr h.keeps.settings] at he
      exact Or.inr ⟨q, package, ds, hplan, he⟩

theorem plan_congr {c c' : Catalog} (hsettings : c'.settings = c.settings) (act : CatalogAct) :
    act.plan c' = act.plan c := by
  have hfindings : ∀ files, c'.findings? files = c.findings? files := fun files =>
    funext fun q => findings?_congr hsettings rfl
  cases act with
  | discover files path content =>
    have hcontent : ∀ q, c'.contentFindings? files q content = c.contentFindings? files q content := by
      intro q
      cases content with
      | none => exact findings?_congr hsettings rfl
      | some text =>
        unfold contentFindings? isCandidate rootOf? findingsIn? declarationsIn
        rw [hsettings]
    funext q
    exact if_congr Iff.rfl (hcontent q) rfl
  | refreshFile files ref => exact hfindings files
  | refreshPackage files ref => exact hfindings files
  | resolve files ref => exact hfindings files
  | rescan files cancelled => exact hfindings files
  | follow files event => exact hfindings files
  | prune => rfl
  | removeFile path => rfl
  | clear => rfl
  | dispose => rfl
  | setState ref state => rfl
  | listen listener => rfl

theorem mem_entries_perform_list {c : Catalog} (hc : c.Sound) (acts : List CatalogAct) {e : Entry}
    (he : e ∈ (c.performAll acts).entries) :
    e ∈ c.entries ∨ ∃ act ∈ acts, ∃ q package ds, act.plan c q = some (package, ds) ∧
      e ∈ nodesOf c.packageLabel q package ds := by
  induction acts generalizing c with
  | nil => exact Or.inl he
  | cons act acts ih =>
    have hstep := c.evolves_perform act
    rcases ih (hstep.keeps.sound hc) he with he | ⟨act', hact', q, package, ds, hplan, he⟩
    · rcases hstep.drawn hc e he with he | hnew
      · exact Or.inl he
      · exact Or.inr ⟨act, List.mem_cons_self, hnew⟩
    · rw [plan_congr hstep.keeps.settings] at hplan
      rw [packageLabel_congr hstep.keeps.settings] at he
      exact Or.inr ⟨act', List.mem_cons_of_mem _ hact', q, package, ds, hplan, he⟩

/-- **Every node comes from a file that was read.**  Whatever has been done to a catalog,
    a node of it is one of a file in which some operation may have found tests. -/
theorem mem_entries_performAll (settings : CatalogSettings) (listeners : List Listener)
    (acts : List CatalogAct) {e : Entry}
    (he : e ∈ ((fresh settings listeners).performAll acts).entries) :
    ∃ act ∈ acts, ∃ q package ds, act.plan (fresh settings) q = some (package, ds) ∧
      e ∈ nodesOf (fresh settings).packageLabel q package ds := by
  have horigin := mem_entries_perform_list (sound_fresh settings listeners) acts he
  have hsame : (fresh settings listeners).settings = (fresh settings).settings := rfl
  simp only [plan_congr hsame, packageLabel_congr hsame] at horigin
  exact horigin.resolve_left List.not_mem_nil

end Catalog
end SuiteExplorer
