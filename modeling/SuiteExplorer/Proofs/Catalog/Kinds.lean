/-
  SuiteExplorer/Proofs/Catalog/Kinds.lean
  =======================================
  **Of which library a suite is.**

  A suite is made for the first declaration of its receiver that is entered, and is of the
  library of that declaration from then on.  Declarations are entered library by library,
  so a new suite is of the first library in the list that has a declaration of the receiver,
  wherever that declaration stands in the text (`suiteKind_discover`).  It is of the library
  of the first declaration in the text exactly when no library that comes earlier in the
  list has one.
-/
import SuiteExplorer.Proofs.Catalog.Discovering

namespace SuiteExplorer

open Keyed

/-! ## 1. Two first declarations -/

/-- The declaration is one of this receiver. -/
def Declaration.names (d : Declaration) (receiver : String) : Bool := d.receiver.getD "" = receiver

namespace Library

variable {libraries : List Library} {text receiver : String} {l : Library} {d : Declaration}

/-- The declarations of a text that belong to one of the libraries, in source order. -/
def sourceOrder (libraries : List Library) (text : String) : List Declaration :=
  match SourceFile.ofText text with
  | none => []
  | some file => file.declarations.filter fun d => libraries.any fun l => d.kind = l.kind

/-- The first of these declarations that is one of the receiver. -/
def firstInSource? (libraries : List Library) (text receiver : String) : Option Declaration :=
  (sourceOrder libraries text).find? (·.names receiver)

/-- The library has a declaration of the receiver. -/
def declares (text receiver : String) (l : Library) : Bool :=
  (l.declarations text).any (·.names receiver)

/-- The first library in the list that has a declaration of the receiver. -/
def firstInList? (libraries : List Library) (text receiver : String) : Option Library :=
  libraries.find? (declares text receiver)

theorem mem_sourceOrder_iff :
    d ∈ sourceOrder libraries text ↔ ∃ l ∈ libraries, d ∈ l.declarations text := by
  unfold sourceOrder declarations
  cases SourceFile.ofText text with
  | none => simp
  | some file =>
    simp only [List.mem_filter, List.any_eq_true, decide_eq_true_eq]
    constructor
    · rintro ⟨hd, l, hl, hkind⟩
      exact ⟨l, hl, hd, hkind⟩
    · rintro ⟨l, hl, hd, hkind⟩
      exact ⟨hd, l, hl, hkind⟩

theorem kind_of_mem_declarations (h : d ∈ l.declarations text) : d.kind = l.kind := by
  unfold declarations at h
  cases hfile : SourceFile.ofText text with
  | none =>
    rw [hfile] at h
    cases h
  | some file =>
    rw [hfile] at h
    simpa using (List.mem_filter.mp h).2

theorem declarations_congr {l' : Library} (h : l'.kind = l.kind) :
    l'.declarations text = l.declarations text := by
  unfold declarations
  rw [h]

/-- Read library by library, the first declaration of a receiver belongs to the first library
    that has one. -/
theorem kind_find?_flatMap (libraries : List Library) (text receiver : String) :
    ((libraries.flatMap (·.declarations text)).find? (·.names receiver)).map (·.kind) =
      (firstInList? libraries text receiver).map (·.kind) := by
  unfold firstInList?
  induction libraries with
  | nil => rfl
  | cons l libraries ih =>
    rw [List.flatMap_cons, List.find?_append, List.find?_cons]
    cases hfind : (l.declarations text).find? (·.names receiver) with
    | none =>
      have hdeclares : l.declares text receiver = false := by
        rw [declares, List.any_eq_false]
        exact List.find?_eq_none.mp hfind
      rw [hdeclares, Option.none_or, ih]
    | some d =>
      have hmem := List.mem_of_find?_eq_some hfind
      have hnames : d.names receiver = true := by simpa using List.find?_some hfind
      have hdeclares : l.declares text receiver = true := List.any_eq_true.mpr ⟨d, hmem, hnames⟩
      rw [hdeclares, Option.some_or, Option.map_some, Option.map_some,
        kind_of_mem_declarations hmem]

/-- A library comes first among those that have a declaration of the receiver exactly when
    those before it have none. -/
theorem kind_firstInList?_iff (hl : l ∈ libraries) (hdeclares : l.declares text receiver = true) :
    (firstInList? libraries text receiver).map (·.kind) = some l.kind ↔
      ∀ l' ∈ libraries.takeWhile (·.kind ≠ l.kind), l'.declares text receiver = false := by
  unfold firstInList?
  induction libraries with
  | nil => cases hl
  | cons first libraries ih =>
    rw [List.find?_cons]
    by_cases hkind : first.kind = l.kind
    · have hfirst : first.declares text receiver = true := by
        rw [← hdeclares, declares, declares, declarations_congr hkind]
      simp [hfirst, hkind]
    · have hrest : l ∈ libraries := by
        rcases List.mem_cons.mp hl with rfl | hrest
        · exact absurd rfl hkind
        · exact hrest
      cases hfirst : first.declares text receiver with
      | true => simp [hkind, hfirst]
      | false => simpa [hkind, hfirst] using ih hrest

/-- **The two first declarations** of a receiver belong to one library exactly when no library
    that comes before that of the first in the text has a declaration of the receiver. -/
theorem kind_first_iff (libraries : List Library) (text receiver : String) :
    (firstInList? libraries text receiver).map (·.kind) =
        (firstInSource? libraries text receiver).map (·.kind) ↔
      ∀ d, firstInSource? libraries text receiver = some d →
        ∀ l ∈ libraries.takeWhile (·.kind ≠ d.kind), l.declares text receiver = false := by
  cases hfirst : firstInSource? libraries text receiver with
  | none =>
    have hnone : firstInList? libraries text receiver = none := by
      refine List.find?_eq_none.mpr fun l hl hdeclares => ?_
      obtain ⟨d, hd, hnames⟩ := List.any_eq_true.mp hdeclares
      exact List.find?_eq_none.mp hfirst d (mem_sourceOrder_iff.mpr ⟨l, hl, hd⟩) hnames
    simp [hnone]
  | some d =>
    obtain ⟨l, hl, hd⟩ := mem_sourceOrder_iff.mp (List.mem_of_find?_eq_some hfirst)
    have hnames : d.names receiver = true := by simpa using List.find?_some hfirst
    have hdeclares : l.declares text receiver = true := List.any_eq_true.mpr ⟨d, hd, hnames⟩
    rw [Option.map_some, kind_of_mem_declarations hd, kind_firstInList?_iff hl hdeclares,
      ← kind_of_mem_declarations hd]
    constructor
    · intro h d' hd'
      cases hd'
      exact h
    · intro h
      exact h d rfl

end Library

/-! ## 2. The suite at a place -/

/-- The library of a suite. -/
def Meaning.suiteKind? : Meaning → Option (Option LibraryKind)
  | .runnable (.suite s) => some s.kind
  | _ => none

/-- The head of the suite of a receiver in a file. -/
def FileOutline.suiteHead? (f : FileOutline) (receiver : String) : Option NodeOutline :=
  (f.suites.find? (·.head.id = receiver)).map (·.head)

/-- The head of the suite with these ids. -/
def suiteHead? (ps : List PackageOutline) (package stem receiver : String) : Option NodeOutline :=
  ((ps.find? (·.head.id = package)).bind fun p => p.files.find? (·.head.id = stem)).bind
    (·.suiteHead? receiver)

theorem FileOutline.suiteHead?_enter (f : FileOutline) (q : Path) (d : Declaration)
    (receiver : String) : (f.enter q d).suiteHead? receiver =
      (f.suiteHead? receiver).or
        (if d.names receiver then some (SuiteOutline.empty q d).head else none) := by
  have hkey : (SuiteOutline.enter ((f.suites.find? (·.head.id = d.receiver.getD "")).getD
      (.empty q d)) q d).head.id = d.receiver.getD "" :=
    key_getD_find? (fun s : SuiteOutline => s.head.id) rfl
  unfold suiteHead?
  rw [FileOutline.suites_enter]
  by_cases hnames : d.receiver.getD "" = receiver
  · subst hnames
    rw [find?_upsert_self hkey, Declaration.names, decide_eq_true rfl, if_pos rfl]
    cases f.suites.find? (·.head.id = d.receiver.getD "") with
    | none => rfl
    | some s => rfl
  · rw [find?_upsert_of_ne (Ne.symm hnames) hkey, Declaration.names,
      decide_eq_false hnames, if_neg Bool.false_ne_true, Option.or_none]

/-- The suite of a receiver is the one that was there, or that of the first declaration. -/
theorem FileOutline.suiteHead?_enterAll (f : FileOutline) (q : Path) (ds : List Declaration)
    (receiver : String) : (f.enterAll q ds).suiteHead? receiver =
      (f.suiteHead? receiver).or
        ((ds.find? (·.names receiver)).map fun d => (SuiteOutline.empty q d).head) := by
  induction ds generalizing f with
  | nil => exact (Option.or_none).symm
  | cons d ds ih =>
    change ((f.enter q d).enterAll q ds).suiteHead? receiver = _
    rw [ih, suiteHead?_enter, Option.or_assoc, List.find?_cons]
    cases d.names receiver with
    | true => rfl
    | false => rfl

/-- So it is in the whole tree. -/
theorem suiteHead?_enterOutline (ps : List PackageOutline) (label : String) (q : Path)
    (package : String) (ds : List Declaration) (receiver : String) :
    suiteHead? (enterOutline ps label q package ds) (Catalog.packageId q.parent package) q.stem
        receiver =
      (suiteHead? ps (Catalog.packageId q.parent package) q.stem receiver).or
        ((ds.find? (·.names receiver)).map fun d => (SuiteOutline.empty q d).head) := by
  let old := ps.find? (·.head.id = Catalog.packageId q.parent package)
  let p := old.getD (.empty label q.parent package)
  let f := (p.files.find? (·.head.id = q.stem)).getD (.empty q)
  have hpackage : (p.enter q ds).head.id = Catalog.packageId q.parent package :=
    key_getD_find? (fun p : PackageOutline => p.head.id) rfl
  have hfile : (f.enterAll q ds).head.id = q.stem := by
    rw [FileOutline.head_enterAll]
    exact key_getD_find? (fun f : FileOutline => f.head.id) rfl
  have hbefore : f.suiteHead? receiver = suiteHead? ps (Catalog.packageId q.parent package) q.stem
      receiver := by
    change _ = (old.bind fun p => p.files.find? (·.head.id = q.stem)).bind (·.suiteHead? receiver)
    cases hold : old with
    | none =>
      have hempty : f = .empty q := by simp only [f, p, hold]; rfl
      rw [hempty]
      rfl
    | some found =>
      have hfound : f = (found.files.find? (·.head.id = q.stem)).getD (.empty q) := by
        simp only [f, p, hold]
        rfl
      rw [hfound, Option.bind_some]
      cases found.files.find? (·.head.id = q.stem) with
      | none => rfl
      | some g => rfl
  unfold suiteHead? enterOutline
  rw [find?_upsert_self hpackage, Option.bind_some, PackageOutline.files_enter,
    find?_upsert_self hfile, Option.bind_some]
  exact (f.suiteHead?_enterAll q ds receiver).trans (by rw [hbefore]; rfl)

namespace Catalog

/-- The library of the suite with these ids, if there is one. -/
def suiteKind? (c : Catalog) (ids : List String) : Option (Option LibraryKind) :=
  ((c.refAt? ids).bind c.meaning?).bind Meaning.suiteKind?

theorem suiteKind?_eq (c : Catalog) (package stem receiver : String) :
    c.suiteKind? [package, stem, receiver] =
      ((suiteHead? c.outline package stem receiver).bind (·.meaning)).bind Meaning.suiteKind? := by
  have href : c.refAt? [package, stem, receiver] =
      (c.packages.find? (·.info.id = package)).bind fun p =>
        (p.files.find? (·.info.id = stem)).bind fun f =>
          (f.suites.find? (·.info.id = receiver)).map (·.info.ref) := by
    simp only [refAt?, refIn?, trees, List.find?_map, Function.comp_def, PackageNode.subtree,
      FileNode.subtree, SuiteNode.subtree, Subtree.info, Subtree.children, Option.bind_map,
      Option.map_map]
    rfl
  have hhead : suiteHead? c.outline package stem receiver =
      (c.packages.find? (·.info.id = package)).bind fun p =>
        (p.files.find? (·.info.id = stem)).bind fun f =>
          (f.suites.find? (·.info.id = receiver)).map (·.info.outline c.meaning?) := by
    simp only [suiteHead?, FileOutline.suiteHead?, outline, List.find?_map, Function.comp_def,
      PackageNode.outline, FileNode.outline, SuiteNode.outline, NodeInfo.outline, Option.bind_map,
      Option.map_map, Option.bind_assoc]
  rw [suiteKind?, href, hhead]
  simp only [Option.bind_assoc, Option.bind_map, Function.comp_def, NodeInfo.outline]

/-- What is at the place of a suite is one. -/
theorem Sound.suiteKind?_eq_none_iff {c : Catalog} (h : c.Sound) {package stem receiver : String} :
    c.suiteKind? [package, stem, receiver] = none ↔
      suiteHead? c.outline package stem receiver = none := by
  rw [suiteKind?_eq]
  cases hhead : suiteHead? c.outline package stem receiver with
  | none => simp
  | some o =>
    unfold suiteHead? at hhead
    obtain ⟨f, hf, hhead⟩ := Option.bind_eq_some_iff.mp hhead
    obtain ⟨p, hp, hf⟩ := Option.bind_eq_some_iff.mp hf
    obtain ⟨s, hs, rfl⟩ := Option.map_eq_some_iff.mp hhead
    have hfits := ((h.fits p (List.mem_of_find?_eq_some hp)).2 f
      (List.mem_of_find?_eq_some hf)).2 s (List.mem_of_find?_eq_some hs)
    obtain ⟨q, d, hsuite⟩ := hfits.1
    rw [hsuite]
    simp [SuiteOutline.empty, Meaning.suiteKind?]

/-! ## 3. The suites of a file -/

/-- **Entering a file** makes the suites that it names and that are not there yet, each of the
    library of the first declaration that is entered. -/
theorem Sound.suiteKind?_enterFile {c : Catalog} (h : c.Sound) (q : Path) (package : String)
    (ds : List Declaration) (receiver : String) :
    (c.enterFile q package ds).suiteKind? [packageId q.parent package, q.stem, receiver] =
      (c.suiteKind? [packageId q.parent package, q.stem, receiver]).or
        ((ds.find? (·.names receiver)).map (·.kind)) := by
  rw [suiteKind?_eq, outline_enterFile h.booked.tracks h.distinct, suiteHead?_enterOutline]
  cases hbefore : suiteHead? c.outline (packageId q.parent package) q.stem receiver with
  | none =>
    rw [h.suiteKind?_eq_none_iff.mpr hbefore, Option.none_or, Option.none_or]
    cases ds.find? (·.names receiver) with
    | none => rfl
    | some d => rfl
  | some o =>
    have hkind := suiteKind?_eq c (packageId q.parent package) q.stem receiver
    rw [hbefore] at hkind
    have hsome : c.suiteKind? [packageId q.parent package, q.stem, receiver] ≠ none := by
      rw [Ne, h.suiteKind?_eq_none_iff, hbefore]
      simp
    obtain ⟨kind, hsome⟩ := Option.ne_none_iff_exists'.mp hsome
    rw [Option.some_or, ← hkind, hsome, Option.some_or]

theorem suiteKind?_of_tree {c c' : Catalog} (htrees : c'.trees = c.trees)
    (hbooks : c'.books = c.books) (ids : List String) : c'.suiteKind? ids = c.suiteKind? ids := by
  rw [suiteKind?, suiteKind?, refAt?, refAt?, htrees, meaning?_of_books hbooks]

/-- **Of which library the suites of a discovered file are.**  A suite that was there stays
    what it is.  A new one is of the first library in the list that declares a test of its
    receiver in the text.  That is the library of the first such declaration in the text
    exactly when no library before it in the list declares one. -/
theorem suiteKind_discover (settings : CatalogSettings) (listeners : List Listener)
    (acts : List CatalogAct) (files : FileTree) (q : Path) (content : Option String)
    (text : String) (clause : PackageClause) (receiver : String) :
    let c := (fresh settings listeners).performAll acts
    let after := (c.discover files q content).1
    let ids := [packageId q.parent clause.name, q.stem, receiver]
    c.isCandidate q = true → textAt? files q content = some text →
    PackageClause.ofLines (Text.splitLines text.toList) = some clause →
    c.declarationsIn text ≠ [] →
      after.suiteKind? ids = (c.suiteKind? ids).or
          ((Library.firstInList? settings.libraries text receiver).map (·.kind)) ∧
        (c.suiteKind? ids = none →
          (after.suiteKind? ids =
              (Library.firstInSource? settings.libraries text receiver).map (·.kind) ↔
            ∀ d, Library.firstInSource? settings.libraries text receiver = some d →
              ∀ l ∈ settings.libraries.takeWhile (·.kind ≠ d.kind),
                l.declares text receiver = false)) := by
  intro c after ids hcandidate htext hclause hne
  have hc : c.Sound := sound_performAll settings listeners acts
  have hsettings : c.settings = settings := settings_performAll settings listeners acts
  have hfound : c.contentFindings? files q content =
      some (clause.name, c.declarationsIn text) := by
    rw [contentFindings?_eq, if_pos hcandidate, htext, Option.bind_some]
    exact findingsIn?_eq_some.mpr ⟨⟨clause, hclause, rfl, rfl⟩, hne⟩
  obtain ⟨⟨htrees, hbooks⟩, -, -⟩ := discover_of_found hfound
  have hkind : after.suiteKind? ids = (c.suiteKind? ids).or
      ((Library.firstInList? settings.libraries text receiver).map (·.kind)) := by
    rw [suiteKind?_of_tree htrees hbooks, hc.suiteKind?_enterFile, declarationsIn, hsettings,
      Library.kind_find?_flatMap]
  refine ⟨hkind, ?_⟩
  intro hnone
  rw [hkind, hnone, Option.none_or]
  exact Library.kind_first_iff settings.libraries text receiver

/-- A receiver whose first test is of the library that is second in the list. -/
def sampleTurned : String :=
  "package p\n\nimport \"gopkg.in/check.v1\"\nimport \"github.com/frankban/quicktest/qtsuite\"\n\n" ++
    "func (s *S) TestA(c *qtsuite.C) \x7b\x7d\nfunc (s *S) TestB(c *check.C) \x7b\x7d\n"

/-- The suite of that receiver, discovered into an empty catalog. -/
theorem suiteKind_discover_sampleTurned :
    let c := (fresh sampleBoth).performAll []
    let q := Path.ofString "/w/a_test.go"
    let ids := [packageId q.parent "p", q.stem, "S"]
    c.isCandidate q = true ∧ textAt? .empty q (some sampleTurned) = some sampleTurned ∧
      PackageClause.ofLines (Text.splitLines sampleTurned.toList) = some ⟨"p", 0⟩ ∧
      c.declarationsIn sampleTurned ≠ [] ∧
      (c.discover .empty q (some sampleTurned)).1.suiteKind? ids = some (some .gocheck) := by
  dsimp only
  have hempty : (fresh sampleBoth).performAll [] = fresh sampleBoth := rfl
  have hready : (fresh sampleBoth).isCandidate (.ofString "/w/a_test.go") = true ∧
      PackageClause.ofLines (Text.splitLines sampleTurned.toList) = some ⟨"p", 0⟩ ∧
      (fresh sampleBoth).declarationsIn sampleTurned ≠ [] ∧
      (fresh sampleBoth).suiteKind?
        [packageId (Path.ofString "/w/a_test.go").parent "p", (Path.ofString "/w/a_test.go").stem,
          "S"] = none ∧
      (Library.firstInList? sampleBoth.libraries sampleTurned "S").map (·.kind) =
        some (some .gocheck) := by
    decide +kernel
  obtain ⟨hcandidate, hclause, hne, hnone, hfirst⟩ := hready
  have hkind := suiteKind_discover sampleBoth [] [] .empty (.ofString "/w/a_test.go")
    (some sampleTurned) sampleTurned ⟨"p", 0⟩ "S"
  dsimp only at hkind
  rw [hempty] at hkind ⊢
  have heffect := (hkind hcandidate rfl hclause hne).1
  rw [hnone, hfirst] at heffect
  exact ⟨hcandidate, rfl, hclause, hne, heffect⟩

/-- **The first declaration in the text** does not always decide: in a catalog without any
    node, the suite is of the library of the second declaration of its receiver. -/
theorem kind_not_of_first_declaration :
    let q := Path.ofString "/w/a_test.go"
    let after := ((fresh sampleBoth).discover .empty q (some sampleTurned)).1
    (fresh sampleBoth).infos = [] ∧
      (Library.firstInSource? sampleBoth.libraries sampleTurned "S").map (·.kind) =
        some (some .qtsuite) ∧
      after.suiteKind? ["/w:p", "a_test", "S"] = some (some .gocheck) := by
  decide +kernel

end Catalog

end SuiteExplorer
