/-
  SuiteExplorer/Proofs/Source/LineEnd.lean
  ========================================
  **A file reads the same with either kind of line ends.**

  Cut at its line feeds, a text with the longer line ends has a carriage return at the end
  of each line but the last.  All that is looked for on a line either ends before that
  character or allows for it: a signature ends in a brace, an import in a quote, and so the
  ways to read a line are the same with it and without it.  There is one exception.  A
  package name must not be empty, so on a line that is `package ` and nothing else the
  carriage return becomes the name.
-/
import Mathlib.Data.List.Forall2
import SuiteExplorer.Proofs.Source.ImportLine
import SuiteExplorer.Proofs.Source.Signature
import SuiteExplorer.Source.File

namespace SuiteExplorer

open Text

/-! ## 1. Lines that are read alike -/

/-- Whatever a file is read for, the second line is read like the first. -/
structure ReadAlike (l l' : Line) : Prop where
  clause : ∀ n, PackageClause.ofLine? n l' = PackageClause.ofLine? n l
  single : ∀ n, Imports.single? n l' = Imports.single? n l
  member : ∀ n, Imports.memberOfBlock? n l' = Imports.memberOfBlock? n l
  opens : Imports.opens l' = Imports.opens l
  closes : Imports.closes l' = Imports.closes l
  signature : Signature.ofLine? l' = Signature.ofLine? l

section Files

variable {ls ls' : List Line}

theorem firstFrom_eq_of_readAlike (h : List.Forall₂ ReadAlike ls ls') (n : Nat) :
    PackageClause.firstFrom n ls' = PackageClause.firstFrom n ls := by
  induction h generalizing n with
  | nil => rfl
  | cons hline _ ih => rw [PackageClause.firstFrom, PackageClause.firstFrom, hline.clause, ih]

theorem any_closes_eq_of_readAlike (h : List.Forall₂ ReadAlike ls ls') :
    ls'.any Imports.closes = ls.any Imports.closes := by
  induction h with
  | nil => rfl
  | cons hline _ ih => rw [List.any_cons, List.any_cons, hline.closes, ih]

theorem scan_eq_of_readAlike (h : List.Forall₂ ReadAlike ls ls') (inBlock : Bool) (n : Nat) :
    Imports.scan inBlock n ls' = Imports.scan inBlock n ls := by
  induction h generalizing inBlock n with
  | nil => rfl
  | cons hline hrest ih =>
    rw [Imports.scan, Imports.scan, hline.single, hline.member, hline.opens, hline.closes,
      any_closes_eq_of_readAlike hrest, ih, ih, ih]

theorem qualified_eq_of_readAlike (h : List.Forall₂ ReadAlike ls ls') (n : Nat) :
    Declarations.qualified n ls' = Declarations.qualified n ls := by
  induction h generalizing n with
  | nil => rfl
  | cons hline _ ih =>
    rw [Declarations.qualified, Declarations.qualified, hline.signature, ih]

/-- **Files whose lines are read alike** are read as the same. -/
theorem ofLines_eq_of_readAlike (h : List.Forall₂ ReadAlike ls ls') :
    SourceFile.ofLines ls' = SourceFile.ofLines ls := by
  have himports : ∀ start, Imports.ofLines ls' start = Imports.ofLines ls start :=
    fun start => scan_eq_of_readAlike (List.forall₂_drop start h) false start
  have hdeclarations : ∀ imports start, Declarations.ofLines imports ls' start =
      Declarations.ofLines imports ls start := by
    intro imports start
    rw [Declarations.ofLines, Declarations.ofLines,
      qualified_eq_of_readAlike (List.forall₂_drop start h)]
  rw [SourceFile.ofLines, SourceFile.ofLines, PackageClause.ofLines, PackageClause.ofLines,
    firstFrom_eq_of_readAlike h]
  simp only [himports, hdeclarations]

end Files

/-! ## 2. A carriage return at the end of a line -/

section Lines

variable {s u : List Char} {c : Char}

/-- What ends in another character ends before the carriage return. -/
theorem prefix_append_return (u : List Char) (hc : c ≠ '\r') :
    u ++ [c] <+: s ++ ['\r'] ↔ u ++ [c] <+: s := by
  rw [List.prefix_concat_iff]
  constructor
  · rintro (heq | h)
    · exact absurd (List.append_inj' heq rfl).2 (by simpa using hc)
    · exact h
  · exact .inr

/-- A word before the end of a line, with a carriage return and without. -/
theorem exists_lineEnd_append_return (u : List Char) (c : Char) (hc : c ≠ '\r')
    (hreturn : '\r' ∉ s) (hline : '\n' ∉ s) :
    (∃ e ∈ Imports.lineEnds, s ++ ['\r'] = u ++ [c] ++ e) ↔
      ∃ e ∈ Imports.lineEnds, s = u ++ [c] ++ e := by
  constructor
  · rintro ⟨e, he, hcut⟩
    have hlast : (u ++ [c] ++ e).getLast? = some '\r' := hcut ▸ List.getLast?_concat
    simp only [Imports.lineEnds, List.mem_cons, List.not_mem_nil, or_false] at he
    rcases he with rfl | rfl | rfl | rfl
    · rw [List.append_nil, List.getLast?_concat, Option.some.injEq] at hlast
      exact absurd hlast hc
    · exact ⟨[], by decide, by rw [List.append_nil]; exact (List.append_inj' hcut rfl).1⟩
    · rw [List.getLast?_concat] at hlast
      exact absurd hlast (by decide)
    · rw [show ['\r', '\n'] = ['\r'] ++ ['\n'] from rfl, ← List.append_assoc,
        List.getLast?_concat] at hlast
      exact absurd hlast (by decide)
  · rintro ⟨e, he, rfl⟩
    have hmem : ∀ d ∈ e, d ≠ '\r' ∧ d ≠ '\n' := by
      intro d hd
      constructor
      · rintro rfl
        exact hreturn (List.mem_append_right _ hd)
      · rintro rfl
        exact hline (List.mem_append_right _ hd)
    simp only [Imports.lineEnds, List.mem_cons, List.not_mem_nil, or_false] at he
    rcases he with rfl | rfl | rfl | rfl
    · exact ⟨['\r'], by decide, by rw [List.append_nil]⟩
    · exact absurd rfl (hmem '\r' List.mem_cons_self).1
    · exact absurd rfl (hmem '\n' List.mem_cons_self).2
    · exact absurd rfl (hmem '\r' List.mem_cons_self).1

/-- An import ends in a quote. -/
theorem Imports.Spec.exists_text_eq (x : Imports.Spec) : ∃ u, x.text = u ++ ['"'] :=
  ⟨x.alias?.elim [] (· ++ [' ']) ++ (['"'] ++ x.path), by simp [Imports.Spec.text]⟩

theorem spec?_append_return (hreturn : '\r' ∉ s) (hline : '\n' ∉ s) :
    Imports.spec? (s ++ ['\r']) = Imports.spec? s := by
  have hfills : ∀ x : Imports.Spec, x.Fills (s ++ ['\r']) ↔ x.Fills s := by
    intro x
    obtain ⟨u, hu⟩ := x.exists_text_eq
    rw [Imports.Spec.Fills, Imports.Spec.Fills, hu,
      exists_lineEnd_append_return u '"' (by decide) hreturn hline]
  refine Option.ext fun x => ?_
  rw [Imports.spec?_eq_some, Imports.spec?_eq_some, Imports.Spec.First, Imports.Spec.First]
  simp only [hfills]

theorem single?_append_return (n : Nat) (hreturn : '\r' ∉ s) (hline : '\n' ∉ s) :
    Imports.single? n (s ++ ['\r']) = Imports.single? n s := by
  by_cases hword : "import ".toList <+: s
  · obtain ⟨t, rfl⟩ := hword
    rw [List.append_assoc, Imports.single?_append, Imports.single?_append, spec?_append_return]
    · exact fun hmem => hreturn (List.mem_append_right _ hmem)
    · exact fun hmem => hline (List.mem_append_right _ hmem)
  · have hword' : ¬ "import ".toList <+: s ++ ['\r'] := fun h =>
      hword ((prefix_append_return (c := ' ') "import".toList (by decide)).mp h)
    rw [Imports.single?_eq_none_of_not_keyword hword, Imports.single?_eq_none_of_not_keyword hword']

theorem memberOfBlock?_append_return (n : Nat) (hreturn : '\r' ∉ s) (hline : '\n' ∉ s) :
    Imports.memberOfBlock? n (s ++ ['\r']) = Imports.memberOfBlock? n s := by
  have hsuffix : s.dropWhile isBlank <:+ s := List.dropWhile_suffix _
  rw [Imports.memberOfBlock?_eq, Imports.memberOfBlock?_eq, List.dropWhile_append]
  split
  · next hempty =>
    rw [List.isEmpty_iff.mp hempty]
    rfl
  · rw [spec?_append_return (fun hmem => hreturn (hsuffix.subset hmem))
      fun hmem => hline (hsuffix.subset hmem)]

theorem opens_append_return (hreturn : '\r' ∉ s) (hline : '\n' ∉ s) :
    Imports.opens (s ++ ['\r']) = Imports.opens s := by
  rw [Bool.eq_iff_iff, Imports.opens_iff, Imports.opens_iff]
  exact exists_lineEnd_append_return "import ".toList '(' (by decide) hreturn hline

theorem closes_append_return (hreturn : '\r' ∉ s) (hline : '\n' ∉ s) :
    Imports.closes (s ++ ['\r']) = Imports.closes s := by
  rw [Bool.eq_iff_iff, Imports.closes_iff, Imports.closes_iff]
  exact exists_lineEnd_append_return [] ')' (by decide) hreturn hline

theorem signature_append_return (s : List Char) :
    Signature.ofLine? (s ++ ['\r']) = Signature.ofLine? s := by
  have hbegins : ∀ x : Signature.Parts, x.Begins (s ++ ['\r']) ↔ x.Begins s := by
    intro x
    obtain ⟨u, hu⟩ : ∃ u, x.text = u ++ ['\x7b'] :=
      ⟨x.textWith "func (".toList ") Test".toList ") ".toList, by
        simp [Signature.Parts.text, Signature.Parts.textWith]⟩
    rw [Signature.Parts.Begins, Signature.Parts.Begins, hu, prefix_append_return u (by decide)]
  refine Option.ext fun sig => ?_
  rw [Signature.ofLine?_eq_some_iff, Signature.ofLine?_eq_some_iff]
  simp only [Signature.Parts.First, hbegins]

/-! ### 2.1 The package clause -/

theorem clause?_eq_none_of_not_keyword {n : Nat} (h : ¬ "package ".toList <+: s) :
    PackageClause.ofLine? n s = none := by
  have htaken : LinePattern.taken? PackageClause.pattern s = none :=
    LinePattern.taken?_lit_eq_none h
  rw [PackageClause.ofLine?, LinePattern.match?_eq, htaken]
  rfl

/-- Where there is more than a carriage return, a line does not end. -/
theorem lineEnd_append_return_eq_none (hne : u ≠ []) (hreturn : '\r' ∉ u) :
    LinePattern.taken? [.maybe '\r', .finish] (u ++ ['\r']) = none := by
  rw [LinePattern.taken?_eq_none, ← Option.not_isSome_iff_eq_none, LinePattern.isSome_first_iff]
  rintro ⟨reading, rest, hreads⟩
  obtain ⟨present, hend, hcut, -⟩ := LinePattern.reads_lineEnd.mp hreads
  cases u with
  | nil => exact hne rfl
  | cons d u =>
    cases present with
    | true => exact hreturn ((List.cons.inj hcut).1 ▸ List.mem_cons_self)
    | false =>
      obtain rfl : d :: u ++ ['\r'] = rest := hcut
      rcases hend with hempty | hfeed
      · cases hempty
      · exact absurd (List.append_eq_nil_iff.mp (List.cons.inj hfeed).2).2 (by simp)

/-- A name and what ends its line. -/
theorem clause?_append {e : List Char} {texts : List (Option (List Char))} (n : Nat) (hne : u ≠ [])
    (hline : '\n' ∉ u) (hend : LinePattern.taken? [.maybe '\r', .finish] e = some (texts, []))
    (hbefore : ∀ v, v <:+ u → v ≠ [] →
      LinePattern.taken? [.maybe '\r', .finish] (v ++ e) = none) :
    PackageClause.ofLine? n ("package ".toList ++ (u ++ e)) = some ⟨String.ofList u, n⟩ := by
  have htaken : LinePattern.taken? PackageClause.pattern ("package ".toList ++ (u ++ e)) =
      some (some u :: texts, []) :=
    (LinePattern.taken?_lit _ _ _).trans (LinePattern.taken?_fewSome hne hline hbefore hend)
  rw [PackageClause.ofLine?, LinePattern.match?_eq, htaken]
  rfl

theorem clause?_append_return (n : Nat) (hreturn : '\r' ∉ s) (hline : '\n' ∉ s)
    (hname : s ≠ "package ".toList) :
    PackageClause.ofLine? n (s ++ ['\r']) = PackageClause.ofLine? n s := by
  by_cases hword : "package ".toList <+: s
  · obtain ⟨u, rfl⟩ := hword
    have hne : u ≠ [] := by
      rintro rfl
      exact hname (List.append_nil _)
    have hreturn' : '\r' ∉ u := fun hmem => hreturn (List.mem_append_right _ hmem)
    have hline' : '\n' ∉ u := fun hmem => hline (List.mem_append_right _ hmem)
    have hwith := clause?_append (e := ['\r']) n hne hline' rfl fun v hv hne' =>
      lineEnd_append_return_eq_none hne' fun hmem => hreturn' (hv.subset hmem)
    have hwithout := clause?_append (e := []) n hne hline' LinePattern.taken?_lineEnd
      fun v hv hne' => by
        rw [List.append_nil]
        exact LinePattern.taken?_lineEnd_eq_none hne' (fun hmem => hreturn' (hv.subset hmem))
          fun hmem => hline' (hv.subset hmem)
    rw [List.append_nil] at hwithout
    rw [List.append_assoc, hwith, hwithout]
  · have hword' : ¬ "package ".toList <+: s ++ ['\r'] := fun h =>
      hword ((prefix_append_return (c := ' ') "package".toList (by decide)).mp h)
    rw [clause?_eq_none_of_not_keyword hword, clause?_eq_none_of_not_keyword hword']

/-- **A carriage return changes nothing** on a line that does not lack its package name. -/
theorem readAlike_append_return (hreturn : '\r' ∉ s) (hline : '\n' ∉ s)
    (hname : s ≠ "package ".toList) : ReadAlike s (s ++ ['\r']) where
  clause n := clause?_append_return n hreturn hline hname
  single n := single?_append_return n hreturn hline
  member n := memberOfBlock?_append_return n hreturn hline
  opens := opens_append_return hreturn hline
  closes := closes_append_return hreturn hline
  signature := signature_append_return s

theorem ReadAlike.refl (s : Line) : ReadAlike s s :=
  ⟨fun _ => rfl, fun _ => rfl, fun _ => rfl, rfl, rfl, rfl⟩

end Lines

/-! ## 3. Whole texts -/

/-- The text with the longer line ends. -/
def withReturns (s : List Char) : List Char :=
  s.flatMap fun c => if c = '\n' then ['\r', '\n'] else [c]

/-- A line beside the same line of the text with the longer line ends. -/
def Lengthened (l l' : Line) : Prop :=
  ('\r' ∉ l ∧ '\n' ∉ l) ∧ (l' = l ∨ l' = l ++ ['\r'])

theorem Lengthened.cons {c : Char} {l l' : Line} (hreturn : c ≠ '\r') (hline : c ≠ '\n')
    (h : Lengthened l l') : Lengthened (c :: l) (c :: l') := by
  obtain ⟨⟨hno, hno'⟩, rfl | rfl⟩ := h
  · exact ⟨⟨by simp [hno, hreturn.symm], by simp [hno', hline.symm]⟩, .inl rfl⟩
  · exact ⟨⟨by simp [hno, hreturn.symm], by simp [hno', hline.symm]⟩, .inr rfl⟩

theorem withReturns_feed (s : List Char) :
    withReturns ('\n' :: s) = '\r' :: '\n' :: withReturns s := rfl

theorem withReturns_cons {c : Char} (h : c ≠ '\n') (s : List Char) :
    withReturns (c :: s) = c :: withReturns s := by
  rw [withReturns, List.flatMap_cons, if_neg h]
  rfl

theorem splitLines_feed (s : List Char) : splitLines ('\n' :: s) = [] :: splitLines s := rfl

theorem splitLines_cons {c : Char} {s : List Char} {l : Line} {ls : List Line} (h : c ≠ '\n')
    (hs : splitLines s = l :: ls) : splitLines (c :: s) = (c :: l) :: ls := by
  rw [splitLines] at hs ⊢
  rw [cutAt, if_neg h, hs]

theorem forall₂_splitLines_withReturns {s : List Char} (h : '\r' ∉ s) :
    List.Forall₂ Lengthened (splitLines s) (splitLines (withReturns s)) := by
  induction s with
  | nil => exact .cons ⟨by simp, .inl rfl⟩ .nil
  | cons c s ih =>
    have hs := ih fun hmem => h (List.mem_cons_of_mem c hmem)
    have hc : c ≠ '\r' := fun heq => h (heq ▸ List.mem_cons_self)
    by_cases hfeed : c = '\n'
    · subst hfeed
      have hcut : splitLines ('\r' :: '\n' :: withReturns s) =
          ['\r'] :: splitLines (withReturns s) :=
        splitLines_cons (by decide) (splitLines_feed _)
      rw [withReturns_feed, hcut, splitLines_feed]
      exact .cons ⟨by simp, .inr rfl⟩ hs
    · obtain ⟨l, ls, hls⟩ := List.exists_cons_of_ne_nil (splitLines_ne_nil s)
      obtain ⟨l', ls', hls'⟩ := List.exists_cons_of_ne_nil (splitLines_ne_nil (withReturns s))
      rw [hls, hls', List.forall₂_cons] at hs
      rw [withReturns_cons hfeed, splitLines_cons hfeed hls, splitLines_cons hfeed hls']
      exact .cons (hs.1.cons hc hfeed) hs.2

theorem Lengthened.readAlike {l l' : Line} (h : Lengthened l l') (hname : l ≠ "package ".toList) :
    ReadAlike l l' := by
  obtain ⟨⟨hreturn, hline⟩, rfl | rfl⟩ := h
  · exact .refl _
  · exact readAlike_append_return hreturn hline hname

/-- **Line ends do not matter.**  A text without carriage returns in which no line is the word
    `package` and a blank alone reads the same, line numbers and ranges included, when every
    line feed gets a carriage return before it. -/
theorem ofText_withReturns (text : String) (hreturn : '\r' ∉ text.toList)
    (hname : "package ".toList ∉ splitLines text.toList) :
    SourceFile.ofText (String.ofList (withReturns text.toList)) = SourceFile.ofText text := by
  have hlines : List.Forall₂ ReadAlike (splitLines text.toList)
      (splitLines (withReturns text.toList)) := by
    refine List.Forall₂.imp (fun l l' h => h.2.readAlike h.1) (List.forall₂_and_left _ _ |>.mpr
      ⟨fun l hl => ?_, forall₂_splitLines_withReturns hreturn⟩)
    rintro rfl
    exact hname hl
  rw [SourceFile.ofText, SourceFile.ofText, String.toList_ofList]
  exact ofLines_eq_of_readAlike hlines

/-- Two kinds of imports, one of them under an alias, an open block, a method, a method whose
    qualifier means nothing, and no line feed at the end. -/
def sampleText : String :=
  "package a\nimport check \"gopkg.in/check.v1\"\nimport (\n\t\"fmt\"\n)\nimport (\n" ++
  "func (s *S) TestOne(c *check.C) \x7b\n\x7d\nfunc (s *S) TestTwo(c *d.C) \x7b"

theorem ofText_withReturns_sampleText :
    ('\r' ∉ sampleText.toList ∧ "package ".toList ∉ splitLines sampleText.toList ∧
        ((SourceFile.ofText sampleText).map fun file =>
          (file.imports.length, file.declarations.map (·.name))) =
            some (2, ["TestOne"])) ∧
      SourceFile.ofText (String.ofList (withReturns sampleText.toList)) =
        SourceFile.ofText sampleText :=
  ⟨by decide +kernel, ofText_withReturns sampleText (by decide +kernel) (by decide +kernel)⟩

/-- Without its name a package clause takes the carriage return for one. -/
example : SourceFile.ofText "package \n" = none ∧
    (SourceFile.ofText (String.ofList (withReturns "package \n".toList))).map (·.package.name) =
      some "\r" := by
  decide +kernel

end SuiteExplorer
