/-
  SuiteExplorer/Proofs/Catalog/Discovering.lean
  =============================================
  **What discovering a file changes, and what it leaves alone.**

  There are four reasons to enter nothing (`Barren`), and then nothing happens at all.
  Otherwise the file is entered (`Enters`): the ids in the tree are those that were there
  and those of the content; at the place of each declared test there is a new node without
  a state, which carries the last declaration of that place, where the old one was; and
  every other node is the node it was, with its state and what it stands for, at its
  position (`discover_effect`).

  The last declaration is that in the order of discovery, library by library.  And what
  makes a place is the suite as well as the qualified name, which two suites can spell in
  the same way (`last_declaration_not_carried`).
-/
import SuiteExplorer.Proofs.Catalog.Origin
import SuiteExplorer.Proofs.Catalog.Positions
import SuiteExplorer.Proofs.Catalog.Rescanning

namespace SuiteExplorer

open Subtree

namespace Catalog

/-! ## 1. Nothing to enter -/

/-- The text that discovering a file reads: the one that is given, or that of the file. -/
def textAt? (files : FileTree) (q : Path) : Option String → Option String
  | some text => some text
  | none => (files.read? q).map Text.Utf8.decode

/-- The reasons why discovering a file enters nothing. -/
inductive Barren (c : Catalog) (files : FileTree) (q : Path) (content : Option String) : Prop where
  | excluded (h : c.isCandidate q = false)
  | unreadable (h : textAt? files q content = none)
  | unnamed {text : String} (h : textAt? files q content = some text)
      (hclause : PackageClause.ofLines (Text.splitLines text.toList) = none)
  | empty {text : String} (h : textAt? files q content = some text)
      (hnone : c.declarationsIn text = [])

variable {c : Catalog} {files : FileTree} {q : Path} {content : Option String}

theorem contentFindings?_eq (c : Catalog) (files : FileTree) (q : Path)
    (content : Option String) : c.contentFindings? files q content =
      if c.isCandidate q then (textAt? files q content).bind c.findingsIn? else none := by
  cases content with
  | some text => rfl
  | none =>
    rw [contentFindings?, findings?, textAt?, Option.bind_map]
    rfl

theorem Barren.contentFindings?_eq_none (h : c.Barren files q content) :
    c.contentFindings? files q content = none := by
  rw [contentFindings?_eq]
  cases h with
  | excluded h => rw [h, if_neg Bool.false_ne_true]
  | unreadable h => rw [h, Option.bind_none, ite_self]
  | unnamed h hclause =>
    rw [h, Option.bind_some, findingsIn?, hclause]
    exact ite_self _
  | @empty text h hnone =>
    have hnothing : c.findingsIn? text = none := by
      unfold findingsIn?
      rw [hnone]
      split <;> rfl
    rw [h, Option.bind_some, hnothing, ite_self]

/-! ## 2. What a discovery answers -/

/-- A discovery answers whether it has found something. -/
theorem discoverQuietly_answer (c : Catalog) (files : FileTree) (q : Path)
    (content : Option String) : (c.discoverQuietly files q content).2.1 =
      (c.contentFindings? files q content).isSome := by
  have htext : ∀ text, (c.discoverText q text).2.1 = (c.findingsIn? text).isSome := by
    intro text
    unfold discoverText findingsIn?
    cases PackageClause.ofLines (Text.splitLines text.toList) with
    | none => rfl
    | some clause =>
      dsimp only
      cases c.declarationsIn text with
      | nil => rfl
      | cons d ds => rfl
  rw [contentFindings?_eq]
  unfold discoverQuietly
  cases c.isCandidate q with
  | false => rfl
  | true =>
    cases content with
    | some text => exact htext text
    | none =>
      simp only [readText, textAt?, Bool.not_true, Bool.false_eq_true, if_false, if_true]
      cases files.read? q with
      | none => rfl
      | some bytes => exact htext _

/-- **Nothing to enter**: nothing happens. -/
theorem discover_of_barren (h : c.Barren files q content) :
    let result := c.discover files q content
    result.1 = c ∧ result.2.1 = false ∧ result.2.2.called = [] ∧ result.2.2.failure = none := by
  have hnone := h.contentFindings?_eq_none
  have hcatalog := discoverQuietly_content_eq c files q content
  have hanswer := discoverQuietly_answer c files q content
  rw [hnone] at hcatalog hanswer
  have hanswer' : (c.discoverQuietly files q content).2.1 = false := hanswer
  unfold discover notifyIf
  dsimp only
  rw [hanswer', if_neg Bool.false_ne_true]
  exact ⟨hcatalog, rfl, rfl, rfl⟩

theorem listening_enterFile (c : Catalog) (q : Path) (package : String) (ds : List Declaration) :
    (c.enterFile q package ds).calls = c.calls ∧
      (c.enterFile q package ds).listeners = c.listeners := by
  unfold enterFile
  dsimp only
  split <;> exact ⟨rfl, rfl⟩

/-- **Something to enter**: it is entered, and the listeners are called. -/
theorem discover_of_found {package : String} {ds : List Declaration}
    (h : c.contentFindings? files q content = some (package, ds)) :
    let result := c.discover files q content
    (result.1.trees = (c.enterFile q package ds).trees ∧
        result.1.books = (c.enterFile q package ds).books) ∧
      result.2.1 = true ∧ result.2.2.failure = (callListeners c.calls c.listeners).2 := by
  have hcatalog := discoverQuietly_content_eq c files q content
  have hanswer := discoverQuietly_answer c files q content
  rw [h] at hcatalog hanswer
  have hanswer' : (c.discoverQuietly files q content).2.1 = true := hanswer
  have hentered : (c.discoverQuietly files q content).1 = c.enterFile q package ds := hcatalog
  obtain ⟨hcalls, hlisteners⟩ := listening_enterFile c q package ds
  unfold discover notifyIf notify
  dsimp only
  rw [hanswer', if_pos rfl, hentered, hcalls, hlisteners]
  exact ⟨⟨rfl, rfl⟩, rfl, rfl⟩

/-! ## 3. What entering a file changes -/

/-- The ids on the way down to a test of a file. -/
def testIds (q : Path) (package : String) (d : Declaration) : List String :=
  packageId q.parent package :: q.stem :: d.place

/-- The catalog becomes another one by entering a file. -/
structure Enters (c after : Catalog) (q : Path) (package : String) (ds : List Declaration) :
    Prop where
  /-- the ids in the tree: those that were there, and those of the content -/
  ids : ∀ ids, (∃ pos i, At after.trees pos ids i) ↔
    (∃ pos i, At c.trees pos ids i) ∨ ids ∈ (nodesOf c.packageLabel q package ds).map (·.ids)
  /-- each declared test: a new node without a state for the last declaration, in the
      position of the old node -/
  tests : ∀ d ∈ latest ds, ∃ pos i, At after.trees pos (testIds q package d) i ∧
    i.Fresh c.books.nextRef ∧ i.outline after.meaning? = .test q d ∧
      ∀ pos' i', At c.trees pos' (testIds q package d) i' → pos' = pos
  /-- every other node: the same one, at the same position, standing for the same -/
  others : ∀ pos ids i, At c.trees pos ids i → ids ∉ ds.map (testIds q package) →
    At after.trees pos ids i ∧ after.meaning? i.ref = c.meaning? i.ref

theorem exists_at_iff {c : Catalog} {ids : List String} :
    (∃ pos i, At c.trees pos ids i) ↔ ids ∈ c.entries.map (·.ids) := by
  constructor
  · rintro ⟨pos, i, hat⟩
    have he := mem_entries_iff_at (c := c) (e := ⟨ids, i.outline c.meaning?⟩).mpr
      ⟨pos, i, hat, rfl⟩
    exact List.mem_map_of_mem he
  · intro hids
    obtain ⟨e, he, rfl⟩ := List.mem_map.mp hids
    obtain ⟨pos, i, hat, -⟩ := mem_entries_iff_at.mp he
    exact ⟨pos, i, hat⟩

/-- **Entering a file** does this, and no more. -/
theorem enters_enterFile (h : c.Sound) (q : Path) (package : String) (ds : List Declaration) :
    c.Enters (c.enterFile q package ds) q package ds := by
  have hs : (c.enterFile q package ds).Sound := (c.keeps_enterFile q package ds).sound h
  have houtline := outline_enterFile h.booked.tracks h.distinct q package ds
  have hreplants := replants_enterFile h.booked.tracks h.distinct q package ds
  have hplaces : ((ds.map (·.place)).map (q.stem :: ·)).map (packageId q.parent package :: ·) =
      ds.map (testIds q package) := by
    rw [List.map_map, List.map_map]
    rfl
  rw [hplaces] at hreplants
  refine ⟨fun ids => ?_, fun d hd => ?_, fun pos ids i hat hout => ?_⟩
  · have hmerges := merges_enterOutline h.distinct c.packageLabel q package ds
    rw [exists_at_iff, exists_at_iff, entries, entries, houtline]
    constructor
    · intro hids
      obtain ⟨e, he, rfl⟩ := List.mem_map.mp hids
      exact (hmerges.drawn e he).symm.imp List.mem_map_of_mem List.mem_map_of_mem
    · rintro (hids | hids)
      · obtain ⟨e, he, rfl⟩ := List.mem_map.mp hids
        exact hmerges.kept e (.inr he)
      · obtain ⟨e, he, rfl⟩ := List.mem_map.mp hids
        exact hmerges.kept e (.inl he)
  · have hmem : testIds q package d ∈ ds.map (testIds q package) := by
      have hplace := mem_places_latest.mp (List.mem_map_of_mem (f := Declaration.place) hd)
      obtain ⟨d', hd', heq⟩ := List.mem_map.mp hplace
      exact List.mem_map.mpr ⟨d', hd', by rw [testIds, testIds, heq]⟩
    obtain ⟨pos, i, hat, hfresh⟩ := hreplants.present hmem
    refine ⟨pos, i, hat, hfresh, ?_, fun pos' i' hat' => ?_⟩
    · -- of the entries with these ids there is one, and one is the last declaration
      have hshown : (⟨testIds q package d, .test q d⟩ : Entry) ∈
          (c.enterFile q package ds).entries := by
        have hover := overlays_enterOutline h.distinct (c.packageLabel q.parent package) q package ds
        rw [← houtline, ← filter_entriesOf hs.fits] at hover
        exact (List.mem_filter.mp ((hover _).mpr (.inl (List.mem_map_of_mem hd)))).1
      have hentry : (⟨testIds q package d, i.outline (c.enterFile q package ds).meaning?⟩ : Entry) ∈
          (c.enterFile q package ds).entries := mem_entries_iff_at.mpr ⟨pos, i, hat, rfl⟩
      exact congrArg Entry.node
        (List.inj_on_of_nodup_map (nodup_ids_entriesOf hs.distinct) hentry hshown rfl)
    · obtain ⟨j, hj, -⟩ := hreplants.renewed hat' hmem
      exact (hat.unique hs.distinct_trees hj).1
  · have hstay := hreplants.kept hat hout
    refine ⟨hstay, ?_⟩
    -- a node of the tree stands for something, so it has not left the books
    have hold : i.ref ∈ c.refs := c.refsOf_trees ▸ hat.ref_mem
    have hnew : i.ref ∈ (c.enterFile q package ds).refs := refsOf_trees _ ▸ hstay.ref_mem
    have hsome := (hs.booked.tracks.known i.ref).mpr hnew
    refine ((continues_enterFile c q package ds).keeps i.ref
      (h.booked.tracks.bounded i.ref hold)).resolve_right fun hnone => ?_
    rw [hnone] at hsome
    cases hsome

theorem Enters.of_tree {after after' : Catalog} {package : String} {ds : List Declaration}
    (h : c.Enters after q package ds) (htrees : after'.trees = after.trees)
    (hbooks : after'.books = after.books) : c.Enters after' q package ds := by
  have hmeaning := meaning?_of_books hbooks
  obtain ⟨hids, htests, hothers⟩ := h
  rw [← htrees] at hids htests hothers
  rw [← hmeaning] at htests hothers
  exact ⟨hids, htests, hothers⟩

/-- **The effect of a discovery.**  Whatever has been done to a catalog: if the path is no
    candidate, the file cannot be read, there is no package clause or no declaration of an
    enabled library, discovering it answers no and changes nothing.  Otherwise it enters the
    declarations, library by library, and answers yes, unless one of the listeners fails
    that are called then. -/
theorem discover_effect (settings : CatalogSettings) (listeners : List Listener)
    (acts : List CatalogAct) (files : FileTree) (q : Path) (content : Option String) :
    let c := (fresh settings listeners).performAll acts
    let result := c.discover files q content
    (c.Barren files q content →
      result.1 = c ∧ result.2.1 = false ∧ result.2.2.called = [] ∧ result.2.2.failure = none) ∧
    ∀ text clause, c.isCandidate q = true → textAt? files q content = some text →
      PackageClause.ofLines (Text.splitLines text.toList) = some clause →
      c.declarationsIn text ≠ [] →
        result.2.1 = true ∧ result.2.2.failure = (callListeners c.calls c.listeners).2 ∧
          c.Enters result.1 q clause.name (c.declarationsIn text) := by
  intro c result
  have hc : c.Sound := sound_performAll settings listeners acts
  refine ⟨discover_of_barren, fun text clause hcandidate htext hclause hne => ?_⟩
  have hfound : c.contentFindings? files q content =
      some (clause.name, c.declarationsIn text) := by
    rw [contentFindings?_eq, if_pos hcandidate, htext, Option.bind_some]
    exact findingsIn?_eq_some.mpr ⟨⟨clause, hclause, rfl, rfl⟩, hne⟩
  obtain ⟨⟨htrees, hbooks⟩, hanswer, hfailure⟩ := discover_of_found hfound
  exact ⟨hanswer, hfailure,
    (enters_enterFile hc q clause.name (c.declarationsIn text)).of_tree htrees hbooks⟩

/-! ### 3.1 Two libraries and two suites -/

def sampleBoth : CatalogSettings :=
  { roots := [.ofString "/w"], libraries := [.gocheck, .qtsuite] }

/-- One test of both libraries, and a test whose qualified name two suites have. -/
def sampleMixed : String :=
  "package p\n\nimport \"gopkg.in/check.v1\"\nimport \"github.com/frankban/quicktest/qtsuite\"\n\n" ++
    "func (s *S) TestX(c *qtsuite.C) \x7b\x7d\nfunc (s *S) TestX(c *check.C) \x7b\x7d\n" ++
    "func (s A) TestB.TestC(c *check.C) \x7b\x7d\nfunc (s A.TestB) TestC(c *check.C) \x7b\x7d\n"

/-- The last declaration of a text with a qualified name, and its number of line. -/
def lastDeclared? (text : String) (name : String) : Option (Option LibraryKind × Nat) :=
  (SourceFile.ofText text).bind fun file =>
    ((file.declarations.filter (·.qualifiedName = name)).getLast?).map fun d => (d.kind, d.line)

/-- What the test with these ids carries. -/
def carried? (c : Catalog) (ids : List String) : Option (Option LibraryKind × Nat) :=
  match (c.refAt? ids).bind c.meaning? with
  | some (.runnable (.test d)) => some (d.kind, d.line)
  | _ => none

/-- **The last declaration in the text** is not always the one that is carried: the
    libraries are read one after the other, and two suites may have tests of one qualified
    name.  And with a listener that fails there is no answer. -/
theorem last_declaration_not_carried :
    let discovered := (fresh sampleBoth).discover .empty (.ofString "/w/a_test.go") (some sampleMixed)
    let heard := (fresh sampleBoth [⟨"bad", fun _ => true⟩]).discover .empty
      (.ofString "/w/a_test.go") (some sampleMixed)
    (lastDeclared? sampleMixed "S.TestX" = some (some .gocheck, 6) ∧
        discovered.1.carried? ["/w:p", "a_test", "S", "S.TestX"] = some (some .qtsuite, 5)) ∧
      (lastDeclared? sampleMixed "A.TestB.TestC" = some (some .gocheck, 8) ∧
        discovered.1.carried? ["/w:p", "a_test", "A", "A.TestB.TestC"] =
          some (some .gocheck, 7)) ∧
      heard.2.2.failure = some ⟨"bad"⟩ := by
  decide +kernel

/-- The text is one with tests for every catalog that reads the first library. -/
theorem ready_sampleMixed {c : Catalog} (hsettings : c.settings = sampleSettings) :
    c.isCandidate (.ofString "/w/a_test.go") = true ∧ c.declarationsIn sampleMixed ≠ [] := by
  have hfresh : (fresh sampleSettings).isCandidate (.ofString "/w/a_test.go") = true ∧
      (fresh sampleSettings).declarationsIn sampleMixed ≠ [] := by decide +kernel
  have hcandidate : c.isCandidate (.ofString "/w/a_test.go") =
      (fresh sampleSettings).isCandidate (.ofString "/w/a_test.go") := by
    unfold isCandidate rootOf?
    rw [hsettings, fresh]
  have hdeclared : c.declarationsIn sampleMixed =
      (fresh sampleSettings).declarationsIn sampleMixed := by
    unfold declarationsIn
    rw [hsettings, fresh]
  rwa [hcandidate, hdeclared]

/-- A file that is in the tree is discovered once with nothing to read, and once with other
    tests, some of them declared twice. -/
theorem discover_effect_mixed :
    let c := (fresh sampleSettings).performAll [.rescan sampleFiles .never]
    let q := Path.ofString "/w/a_test.go"
    let result := c.discover .empty q (some sampleMixed)
    (c.discover .empty q none).1 = c ∧ result.2.1 = true ∧
      c.Enters result.1 q "p" (c.declarationsIn sampleMixed) := by
  dsimp only
  have hread : (FileTree.empty.read? (.ofString "/w/a_test.go")).isNone = true ∧
      PackageClause.ofLines (Text.splitLines sampleMixed.toList) = some ⟨"p", 0⟩ := by
    decide +kernel
  obtain ⟨hcandidate, hne⟩ := ready_sampleMixed
    (settings_performAll sampleSettings [] [.rescan sampleFiles .never])
  have hunreadable : textAt? .empty (.ofString "/w/a_test.go") none = none := by
    rw [textAt?, Option.isNone_iff_eq_none.mp hread.1]
    rfl
  have heffect := discover_effect sampleSettings [] [.rescan sampleFiles .never] .empty
    (.ofString "/w/a_test.go")
  have hnothing := (heffect none).1 (.unreadable hunreadable)
  obtain ⟨hanswer, -, henters⟩ :=
    (heffect (some sampleMixed)).2 sampleMixed ⟨"p", 0⟩ hcandidate rfl hread.2 hne
  exact ⟨hnothing.1, hanswer, henters⟩

end Catalog
end SuiteExplorer
