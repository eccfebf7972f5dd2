/-
  SuiteExplorer/Proofs/Source/Qualifiers.lean
  ===========================================
  **Which signatures of a file declare a test, and of which library.**

  The qualifier of a signature is a name that some import of the file binds, or else the
  name of a library that is imported without an alias.  `StandsFor` says which module that
  is; it leaves a name open that two imports bind.  One signature with such a name empties
  the whole file.  In any other file exactly those signatures declare a test whose qualifier
  stands for a module (`ofLines_exact`), and the order of the imports plays no part.
-/
import SuiteExplorer.Source.Declarations

namespace SuiteExplorer.Declarations

open Text

/-! ## 1. What is to be read -/

/-- The imports that bind a name. -/
def bindings (imports : List Import) (q : String) : List Import :=
  imports.filter (·.localName = some q)

/-- A qualifier stands for a module: that of the only import that binds it, whatever it is
    called; or, if no import binds it, that of the library with this name, if the file
    imports the library without an alias. -/
inductive StandsFor (imports : List Import) (q path : String) : Prop where
  | bound (i : Import) (only : bindings imports q = [i]) (module : i.modulePath = path)
  | library (kind : LibraryKind) (free : bindings imports q = []) (name : kind.packageName = q)
      (module : kind.modulePath = path)
      (imported : ∃ i ∈ imports, i.modulePath = path ∧ i.localName = none)

/-- Line `n` begins with a signature whose qualifier is not empty. -/
def Bears (lines : List Line) (n : Nat) (s : Signature) (q : String) : Prop :=
  ∃ line, lines[n]? = some line ∧ Signature.ofLine? line = some s ∧ s.qualifier = some q ∧ q ≠ ""

/-- A line begins with a signature whose qualifier several imports bind. -/
def Ambiguous (imports : List Import) (lines : List Line) (n : Nat) : Prop :=
  ∃ s q, Bears lines n s q ∧ 2 ≤ (bindings imports q).length

/-- A test method is declared on its line: its qualifier stands for a module, which alone
    decides on the library, and all else is what the signature says. -/
def Declares (imports : List Import) (lines : List Line) (d : Declaration) : Prop :=
  ∃ s q path, Bears lines d.line s q ∧ StandsFor imports q path ∧
    (∀ kind, d.kind = some kind ↔ kind.modulePath = path) ∧ d.name = s.name ∧
    d.span = ⟨d.line, 0, d.line, s.width⟩ ∧ d.receiver = some s.receiver ∧
    d.argument = some ⟨path, s.argument⟩

/-! ## 2. How a qualifier is resolved -/

section Resolution

variable {imports imports' : List Import} {q path : String} {kind : LibraryKind}

theorem ofPackageName?_eq_some :
    LibraryKind.ofPackageName? q = some kind ↔ kind.packageName = q := by
  constructor
  · intro h
    simpa using List.find?_some h
  · rintro rfl
    cases kind <;> decide

theorem ofModulePath?_eq_some :
    LibraryKind.ofModulePath? path = some kind ↔ kind.modulePath = path := by
  constructor
  · intro h
    simpa using List.find?_some h
  · rintro rfl
    cases kind <;> decide

/-- A name that is not empty is resolved by the imports that bind it. -/
theorem filter_eq_bindings (hq : q ≠ "") :
    (imports.filter fun i => i.localName = some q && !q.isEmpty) = bindings imports q := by
  have hne : (!q.isEmpty) = true := by simp [hq]
  simp only [hne, Bool.and_true]
  rfl

theorem resolve_eq_ambiguous (hq : q ≠ "") :
    resolve imports q = .ambiguous ↔ 2 ≤ (bindings imports q).length := by
  rw [resolve, filter_eq_bindings hq]
  split
  · next only h => simp [h]
  · next i j more h => simp [h]
  · next h =>
    rw [h]
    split
    · simp
    · split <;> simp

theorem resolve_eq_resolved (hq : q ≠ "") :
    resolve imports q = .resolved path ↔ StandsFor imports q path := by
  rw [resolve, filter_eq_bindings hq]
  constructor
  · intro h
    split at h
    · next only honly => exact .bound only honly (Resolution.resolved.inj h)
    · cases h
    · next hfree =>
      split at h
      · cases h
      · next kind hkind =>
        split at h
        · next himported =>
          have hmodule : kind.modulePath = path := Resolution.resolved.inj h
          obtain ⟨i, hi, hboth⟩ := List.any_eq_true.mp himported
          rw [Bool.and_eq_true, decide_eq_true_eq, decide_eq_true_eq] at hboth
          exact .library kind hfree (ofPackageName?_eq_some.mp hkind) hmodule
            ⟨i, hi, hboth.1.trans hmodule, hboth.2⟩
        · cases h
  · intro h
    cases h with
    | bound i only module => rw [only, ← module]
    | library kind free name module imported =>
      have hany : (imports.any fun i =>
          decide (i.modulePath = kind.modulePath) && decide (i.localName = none)) = true := by
        obtain ⟨i, hi, hpath, hplain⟩ := imported
        refine List.any_eq_true.mpr ⟨i, hi, ?_⟩
        rw [Bool.and_eq_true, decide_eq_true_eq, decide_eq_true_eq]
        exact ⟨hpath.trans module.symm, hplain⟩
      rw [free, ofPackageName?_eq_some.mpr name]
      dsimp only
      rw [if_pos hany, module]

/-- The order of the imports does not matter to a qualifier. -/
theorem resolve_perm (h : imports.Perm imports') (q : String) :
    resolve imports' q = resolve imports q := by
  have hany : ∀ p : Import → Bool, imports'.any p = imports.any p := fun p => h.symm.any_eq
  have hfilter := h.filter fun i => i.localName = some q && !q.isEmpty
  unfold resolve
  simp only [hany]
  cases hbound : imports.filter fun i => i.localName = some q && !q.isEmpty with
  | nil =>
    rw [hbound] at hfilter
    rw [hfilter.nil_eq]
  | cons i more =>
    rw [hbound] at hfilter
    cases more with
    | nil => rw [List.singleton_perm.mp hfilter]
    | cons j more =>
      cases hbound' : imports'.filter fun i => i.localName = some q && !q.isEmpty with
      | nil =>
        rw [hbound'] at hfilter
        exact absurd hfilter.length_eq (by simp)
      | cons i' more' =>
        rw [hbound'] at hfilter
        cases more' with
        | nil => exact absurd hfilter.length_eq (by simp)
        | cons j' more' => rfl

end Resolution

/-! ## 3. The signatures of a file -/

section Signatures

variable {lines : List Line} {line : Line} {n start : Nat} {s : Signature} {q : String}

/-- The signature that a line begins with, if its qualifier is not empty. -/
def signed? (line : Line) : Option (Signature × String) :=
  (Signature.ofLine? line).bind fun s => (s.qualifier.filter (!·.isEmpty)).map (s, ·)

theorem signed?_eq_some :
    signed? line = some (s, q) ↔
      Signature.ofLine? line = some s ∧ s.qualifier = some q ∧ q ≠ "" := by
  simp only [signed?, Option.bind_eq_some_iff, Option.map_eq_some_iff, Option.filter_eq_some_iff,
    Prod.mk.injEq, Bool.not_eq_true', String.isEmpty_eq_false_iff]
  constructor
  · rintro ⟨s', hs, q', ⟨hq, hne⟩, rfl, rfl⟩
    exact ⟨hs, hq, hne⟩
  · rintro ⟨hs, hq, hne⟩
    exact ⟨s, hs, q, ⟨hq, hne⟩, rfl, rfl⟩

/-- The signatures are found line by line. -/
theorem qualified_eq (n : Nat) (lines : List Line) :
    qualified n lines =
      (lines.zipIdx n).filterMap fun l => (signed? l.1).map fun f => (l.2, f.1, f.2) := by
  induction lines generalizing n with
  | nil => rfl
  | cons line lines ih =>
    rw [qualified, List.zipIdx_cons, List.filterMap_cons, ih, signed?]
    cases Signature.ofLine? line with
    | none => rfl
    | some s =>
      dsimp only [Option.bind_some]
      cases s.qualifier with
      | none => rfl
      | some q =>
        rw [Option.filter_some]
        dsimp only
        cases q.isEmpty <;> rfl

/-- The signatures from a line on are those that the lines bear. -/
theorem mem_qualified_drop :
    (n, s, q) ∈ qualified start (lines.drop start) ↔ start ≤ n ∧ Bears lines n s q := by
  rw [qualified_eq, List.mem_filterMap]
  simp only [Prod.exists, List.mk_mem_zipIdx_iff_le_and_getElem?_sub, Option.map_eq_some_iff,
    Prod.mk.injEq, List.getElem?_drop, Bears, ← signed?_eq_some]
  constructor
  · rintro ⟨line, m, ⟨hle, hline⟩, s', q', hsigned, rfl, rfl, rfl⟩
    rw [Nat.add_sub_cancel' hle] at hline
    exact ⟨hle, line, hline, hsigned⟩
  · rintro ⟨hle, line, hline, hsigned⟩
    refine ⟨line, n, ⟨hle, ?_⟩, s, q, hsigned, rfl, rfl, rfl⟩
    rw [Nat.add_sub_cancel' hle]
    exact hline

/-- They are found in the order of their lines, one a line. -/
theorem pairwise_qualified (n : Nat) (lines : List Line) :
    (qualified n lines).Pairwise (·.1 < ·.1) := by
  have hnumbers : (lines.zipIdx n).Pairwise (·.2 < ·.2) := by
    rw [← List.pairwise_map (f := Prod.snd) (R := (· < ·)), List.zipIdx_map_snd]
    exact List.pairwise_lt_range'
  rw [qualified_eq, List.pairwise_filterMap]
  refine hnumbers.imp fun hlt f hf g hg => ?_
  obtain ⟨_, -, rfl⟩ := Option.map_eq_some_iff.mp hf
  obtain ⟨_, -, rfl⟩ := Option.map_eq_some_iff.mp hg
  exact hlt

theorem Bears.ne_empty (h : Bears lines n s q) : q ≠ "" := by
  obtain ⟨line, -, -, -, hq⟩ := h
  exact hq

end Signatures

/-! ## 4. The declarations of a file -/

section Files

variable {imports imports' : List Import} {lines : List Line} {start : Nat} {d : Declaration}

/-- What a signature declares, if anything. -/
def declared? (imports : List Import) (f : Nat × Signature × String) : Option Declaration :=
  match resolve imports f.2.2 with
  | .resolved path => some (declare f.1 f.2.1 path)
  | _ => none

theorem declared?_eq_some {n : Nat} {s : Signature} {q : String} :
    declared? imports (n, s, q) = some d ↔
      ∃ path, resolve imports q = .resolved path ∧ d = declare n s path := by
  unfold declared?
  dsimp only
  cases resolve imports q with
  | resolved path => simp [eq_comm]
  | ambiguous => simp
  | unknown => simp

/-- The tests of a file that is not ambiguous. -/
theorem ofLines_eq_filterMap
    (h : ∀ f ∈ qualified start (lines.drop start), resolve imports f.2.2 ≠ .ambiguous) :
    ofLines imports lines start =
      (qualified start (lines.drop start)).filterMap (declared? imports) := by
  have hclear : ((qualified start (lines.drop start)).any fun f =>
      resolve imports f.2.2 = .ambiguous) = false := by
    rw [List.any_eq_false]
    intro f hf
    simpa using h f hf
  unfold ofLines
  dsimp only
  rw [hclear, if_neg Bool.false_ne_true]
  rfl

theorem ofLines_eq_nil {n : Nat} (hle : start ≤ n) (h : Ambiguous imports lines n) :
    ofLines imports lines start = [] := by
  obtain ⟨s, q, hbears, htwo⟩ := h
  have hany : ((qualified start (lines.drop start)).any fun f =>
      resolve imports f.2.2 = .ambiguous) = true := by
    refine List.any_eq_true.mpr ⟨(n, s, q), mem_qualified_drop.mpr ⟨hle, hbears⟩, ?_⟩
    exact decide_eq_true ((resolve_eq_ambiguous hbears.ne_empty).mpr htwo)
  unfold ofLines
  dsimp only
  rw [hany, if_pos rfl]

theorem line_of_declared? {f : Nat × Signature × String} (h : declared? imports f = some d) :
    d.line = f.1 := by
  obtain ⟨n, s, q⟩ := f
  obtain ⟨path, -, rfl⟩ := declared?_eq_some.mp h
  rfl

/-- A declaration made of a signature is the one that its line declares. -/
theorem declares_iff :
    Declares imports lines d ↔
      ∃ s q path, Bears lines d.line s q ∧ StandsFor imports q path ∧
        d = declare d.line s path := by
  constructor
  · rintro ⟨s, q, path, hbears, hstands, hkind, hname, hspan, hreceiver, hargument⟩
    refine ⟨s, q, path, hbears, hstands, ?_⟩
    have hkind' : d.kind = LibraryKind.ofModulePath? path :=
      Option.ext fun kind => (hkind kind).trans ofModulePath?_eq_some.symm
    rw [declare, ← hkind', ← hname, ← hspan, ← hreceiver, ← hargument]
  · rintro ⟨s, q, path, hbears, hstands, hd⟩
    rw [hd] at hbears ⊢
    exact ⟨s, q, path, hbears, hstands, fun kind => ofModulePath?_eq_some, rfl, rfl, rfl, rfl⟩

/-- **Alias resolution.**  If some line from the start on bears a signature whose qualifier
    several imports bind, nothing is declared.  Otherwise the tests are, in the order of their
    lines, exactly those that the lines from the start on declare.  The order of the imports
    does not matter in either case.  (A start that counts from the end is the case of the lines
    that `linesFrom?` gives, read from their first.) -/
theorem ofLines_exact (imports : List Import) (lines : List Line) (start : Nat) :
    ((∃ n, start ≤ n ∧ Ambiguous imports lines n) → ofLines imports lines start = []) ∧
      ((∀ n, start ≤ n → ¬ Ambiguous imports lines n) →
        (ofLines imports lines start).Pairwise (·.line < ·.line) ∧
          ∀ d, d ∈ ofLines imports lines start ↔ start ≤ d.line ∧ Declares imports lines d) ∧
      ∀ imports', imports.Perm imports' →
        ofLines imports' lines start = ofLines imports lines start := by
  refine ⟨fun ⟨n, hle, h⟩ => ofLines_eq_nil hle h, fun hclear => ?_, fun imports' hperm => ?_⟩
  · have hnone : ∀ f ∈ qualified start (lines.drop start),
        resolve imports f.2.2 ≠ .ambiguous := by
      rintro ⟨n, s, q⟩ hf hambiguous
      obtain ⟨hle, hbears⟩ := mem_qualified_drop.mp hf
      exact hclear n hle ⟨s, q, hbears, (resolve_eq_ambiguous hbears.ne_empty).mp hambiguous⟩
    rw [ofLines_eq_filterMap hnone]
    constructor
    · have hsigned := pairwise_qualified start (lines.drop start)
      refine List.pairwise_filterMap.mpr (hsigned.imp fun {f g} hlt d hd e he => ?_)
      rw [line_of_declared? hd, line_of_declared? he]
      exact hlt
    · intro d
      rw [List.mem_filterMap, declares_iff]
      constructor
      · rintro ⟨⟨n, s, q⟩, hf, hd⟩
        obtain ⟨hle, hbears⟩ := mem_qualified_drop.mp hf
        obtain ⟨path, hpath, rfl⟩ := declared?_eq_some.mp hd
        exact ⟨hle, s, q, path, hbears, (resolve_eq_resolved hbears.ne_empty).mp hpath, rfl⟩
      · rintro ⟨hle, s, q, path, hbears, hstands, hd⟩
        refine ⟨(d.line, s, q), mem_qualified_drop.mpr ⟨hle, hbears⟩, ?_⟩
        exact declared?_eq_some.mpr ⟨path, (resolve_eq_resolved hbears.ne_empty).mpr hstands, hd⟩
  · have hresolve : resolve imports' = resolve imports := funext fun q => resolve_perm hperm q
    unfold ofLines
    rw [hresolve]

/-- One library is imported under the name of the other one, which has no alias. -/
def shadowing : List Import :=
  [⟨LibraryKind.gocheck.modulePath, 0, some "qtsuite"⟩, ⟨LibraryKind.qtsuite.modulePath, 1, none⟩]

/-- The same imports, and one more that binds the same name. -/
def doubled : List Import := ⟨"m", 2, some "qtsuite"⟩ :: shadowing

def sampleLines : List Line :=
  ["func (s *S) TestX(c *qtsuite.C) \x7b".toList, "func (s *S) TestY(c *check.C) \x7b".toList]

/-- The alias decides against the library of that name, the other signature declares nothing, and
    a second import with the alias empties the file. -/
theorem ofLines_exact_shadowing :
    (∃ n, 0 ≤ n ∧ Ambiguous doubled sampleLines n) ∧ ofLines doubled sampleLines 0 = [] ∧
      (∀ n, 0 ≤ n → ¬ Ambiguous shadowing sampleLines n) ∧
      (∃ d, Declares shadowing sampleLines d ∧ d.name = "TestX" ∧ d.kind = some .gocheck) ∧
      (¬ ∃ d, Declares shadowing sampleLines d ∧ d.name = "TestY") ∧
      shadowing.Perm shadowing.reverse ∧
      ofLines shadowing.reverse sampleLines 0 = ofLines shadowing sampleLines 0 := by
  have hruns : (ofLines shadowing sampleLines 0).map (fun d => (d.name, d.kind)) =
        [("TestX", some .gocheck)] ∧
      qualified 0 sampleLines = [(0, ⟨"S", "TestX", some "qtsuite", "C", 33⟩, "qtsuite"),
        (1, ⟨"S", "TestY", some "check", "C", 31⟩, "check")] ∧
      (bindings doubled "qtsuite").length = 2 ∧ (bindings shadowing "qtsuite").length = 1 ∧
      (bindings shadowing "check").length = 0 := by
    decide +kernel
  obtain ⟨hdeclared, hqualified, hdoubled, hqtsuite, hcheck⟩ := hruns
  have hbears : ∀ {n s q}, Bears sampleLines n s q ↔ (n, s, q) ∈ qualified 0 sampleLines :=
    fun {n s q} => ⟨fun h => mem_qualified_drop.mpr ⟨n.zero_le, h⟩,
      fun h => (mem_qualified_drop.mp h).2⟩
  have hambiguous : ∃ n, 0 ≤ n ∧ Ambiguous doubled sampleLines n :=
    ⟨0, Nat.le_refl 0, _, "qtsuite", hbears.mpr (hqualified ▸ List.mem_cons_self),
      Nat.le_of_eq hdoubled.symm⟩
  have hclear : ∀ n, 0 ≤ n → ¬ Ambiguous shadowing sampleLines n := by
    rintro n - ⟨s, q, h, htwo⟩
    rw [hbears, hqualified] at h
    simp only [List.mem_cons, Prod.mk.injEq, List.not_mem_nil, or_false] at h
    rcases h with ⟨-, -, rfl⟩ | ⟨-, -, rfl⟩ <;> omega
  have hempty := (ofLines_exact doubled sampleLines 0).1 hambiguous
  obtain ⟨-, hexact, hperm⟩ := ofLines_exact shadowing sampleLines 0
  have hmem : ∀ d, d ∈ ofLines shadowing sampleLines 0 ↔ Declares shadowing sampleLines d :=
    fun d => ((hexact hclear).2 d).trans (and_iff_right d.line.zero_le)
  have hreverse : shadowing.Perm shadowing.reverse := shadowing.reverse_perm.symm
  refine ⟨hambiguous, hempty, hclear, ?_, ?_, hreverse, hperm _ hreverse⟩
  · have hpair : ("TestX", some LibraryKind.gocheck) ∈
        (ofLines shadowing sampleLines 0).map fun d => (d.name, d.kind) :=
      hdeclared ▸ List.mem_singleton_self _
    obtain ⟨d, hd, heq⟩ := List.mem_map.mp hpair
    exact ⟨d, (hmem d).mp hd, (Prod.mk.inj heq).1, (Prod.mk.inj heq).2⟩
  · rintro ⟨d, hd, hname⟩
    have hpair : (d.name, d.kind) ∈
        (ofLines shadowing sampleLines 0).map fun d => (d.name, d.kind) :=
      List.mem_map_of_mem ((hmem d).mpr hd)
    rw [hdeclared, List.mem_singleton, hname] at hpair
    exact absurd (Prod.mk.inj hpair).1 (by decide)

end Files

end SuiteExplorer.Declarations
