/-
  SuiteExplorer/Proofs/Source/ImportLine.lean
  ===========================================
  **What each form of an import line is.**

  A line that imports a module names it between quotes, with or without an alias before
  it.  As a module's text may hold quotes and an alias may hold nearly anything, one line
  can be written in several ways; the one that is read has the shortest alias, or none if
  there cannot be one (`Spec.First`).  After the closing quote there is only the end of
  the line.  With this the four forms of lines are known without the search for a
  reading: single imports (`single?_eq_some_iff`), entries of a block
  (`memberOfBlock?_eq_some_iff`), and what opens and closes a block (`opens_iff`,
  `closes_iff`).
-/
import SuiteExplorer.Proofs.Text.Preference
import SuiteExplorer.Source.Imports

namespace SuiteExplorer.Imports

open Text LinePattern

/-! ## 1. Imports as they are written -/

/-- What may be left of a line after all that it says: a carriage return, and the line feed of
    a line that was not cut from a text. -/
def lineEnds : List (List Char) := [[], ['\r'], ['\n'], ['\r', '\n']]

/-- What an import is written from. -/
structure Spec where
  alias? : Option (List Char)
  path : List Char
deriving DecidableEq

namespace Spec

def text (x : Spec) : List Char :=
  x.alias?.elim [] (· ++ [' ']) ++ (['"'] ++ (x.path ++ ['"']))

/-- Neither the alias nor the module's text goes on in the next line. -/
def OneLine (x : Spec) : Prop := (∀ v ∈ x.alias?, '\n' ∉ v) ∧ '\n' ∉ x.path

/-- The text is this import, up to the end of the line. -/
def Fills (x : Spec) (s : List Char) : Prop := x.OneLine ∧ ∃ e ∈ lineEnds, s = x.text ++ e

/-- One way to write a text is preferred to another one: its alias is shorter, or the other
    has none. -/
def Before (x y : Spec) : Prop :=
  ∃ v ∈ x.alias?, ∀ w ∈ y.alias?, v.length < w.length

/-- The import that is read where several could have been written. -/
def First (x : Spec) (s : List Char) : Prop :=
  x.Fills s ∧ ∀ y : Spec, y.Fills s → y = x ∨ x.Before y

/-- The import on a line with this number. -/
def entry (x : Spec) (n : Nat) : Import := Imports.entry n x.alias? x.path

/-- The choices that make a reading of an import. -/
def reading (x : Spec) (returns : Bool) : Reading :=
  [x.alias?.map List.length, some x.path.length, some (if returns then 1 else 0)]

end Spec

/-! ## 2. The readings of an import -/

/-- What single imports and entries of a block have in common. -/
def importPattern : LinePattern :=
  [.fewThen [' '], .lit ['"'], .few, .lit ['"'], .maybe '\r', .finish]

section Readings

variable {x y : Spec} {s rest : List Char} {reading : Reading}

theorem append_mem_lineEnds {returns : Bool} (h : rest = [] ∨ rest = ['\n']) :
    (if returns then ['\r'] else []) ++ rest ∈ lineEnds := by
  rcases h with rfl | rfl <;> cases returns <;> decide

theorem exists_of_mem_lineEnds {e : List Char} (h : e ∈ lineEnds) :
    ∃ (returns : Bool) (rest : List Char), (rest = [] ∨ rest = ['\n']) ∧
      e = (if returns then ['\r'] else []) ++ rest := by
  simp only [lineEnds, List.mem_cons, List.not_mem_nil, or_false] at h
  rcases h with rfl | rfl | rfl | rfl
  · exact ⟨false, [], .inl rfl, rfl⟩
  · exact ⟨true, [], .inl rfl, rfl⟩
  · exact ⟨false, ['\n'], .inr rfl, rfl⟩
  · exact ⟨true, ['\n'], .inr rfl, rfl⟩

theorem quote_not_mem_of_mem_lineEnds {e : List Char} (h : e ∈ lineEnds) : '"' ∉ e := by
  have hall : ∀ e ∈ lineEnds, '"' ∉ e := by decide
  exact hall e h

theorem reads_importPattern :
    Reads importPattern s reading rest ↔
      ∃ (x : Spec) (returns : Bool), x.OneLine ∧ (rest = [] ∨ rest = ['\n']) ∧
        s = x.text ++ ((if returns then ['\r'] else []) ++ rest) ∧ reading = x.reading returns := by
  simp only [importPattern, Spec.text, Spec.OneLine, Spec.reading, List.append_assoc]
  constructor
  · intro h
    obtain ⟨alias?, _, _, halias, rfl, rfl, h₁⟩ := reads_fewThen.mp h
    obtain ⟨_, rfl, h₂⟩ := reads_lit.mp h₁
    obtain ⟨path, _, _, hpath, rfl, rfl, h₃⟩ := reads_few.mp h₂
    obtain ⟨_, rfl, h₄⟩ := reads_lit.mp h₃
    obtain ⟨returns, hend, rfl, rfl⟩ := reads_lineEnd.mp h₄
    exact ⟨⟨alias?, path⟩, returns, ⟨halias, hpath⟩, hend, rfl, rfl⟩
  · rintro ⟨x, returns, ⟨halias, hpath⟩, hend, rfl, rfl⟩
    refine reads_fewThen.mpr ⟨x.alias?, _, _, halias, rfl, rfl, ?_⟩
    refine reads_lit.mpr ⟨_, rfl, reads_few.mpr ⟨x.path, _, _, hpath, rfl, rfl, ?_⟩⟩
    exact reads_lit.mpr ⟨_, rfl, reads_lineEnd.mpr ⟨returns, hend, rfl, rfl⟩⟩

/-- A text is cut at its last quote in one way only. -/
theorem eq_of_append_quote {u v e e' : List Char} (he : '"' ∉ e) (he' : '"' ∉ e')
    (h : u ++ '"' :: e = v ++ '"' :: e') : u = v := by
  rcases List.append_eq_append_iff.mp h with ⟨t, rfl, ht⟩ | ⟨t, rfl, ht⟩
  · cases t with
    | nil => exact (List.append_nil u).symm
    | cons c t =>
      have hcut : e = t ++ '"' :: e' := (List.cons.inj ht).2
      exact absurd (hcut ▸ List.mem_append_right t List.mem_cons_self) he
  · cases t with
    | nil => exact List.append_nil v
    | cons c t =>
      have hcut : e' = t ++ '"' :: e := (List.cons.inj ht).2
      exact absurd (hcut ▸ List.mem_append_right t List.mem_cons_self) he'

/-- Imports that fill the same text are known from how long their aliases are. -/
theorem Spec.Fills.eq_of_length_eq (hx : x.Fills s) (hy : y.Fills s)
    (h : x.alias?.map List.length = y.alias?.map List.length) : x = y := by
  obtain ⟨-, e, he, hxs⟩ := hx
  obtain ⟨-, e', he', hys⟩ := hy
  have hquote := quote_not_mem_of_mem_lineEnds he
  have hquote' := quote_not_mem_of_mem_lineEnds he'
  rw [hxs] at hys
  obtain ⟨alias?, path⟩ := x
  obtain ⟨alias'?, path'⟩ := y
  cases alias? with
  | none =>
    cases alias'? with
    | some w => cases h
    | none =>
      simp only [text, Option.elim_none, List.nil_append, List.append_assoc, List.cons_append,
        List.cons.injEq, true_and] at hys
      rw [eq_of_append_quote hquote hquote' hys]
  | some v =>
    cases alias'? with
    | none => cases h
    | some w =>
      simp only [text, Option.elim_some, List.append_assoc] at hys
      obtain ⟨rfl, hrest⟩ := List.append_inj hys (Option.some.inj h)
      simp only [List.cons_append, List.nil_append, List.cons.injEq, true_and] at hrest
      rw [eq_of_append_quote hquote hquote' hrest]

theorem Spec.Before.of_cost {r r' : Bool}
    (h : cost importPattern (x.reading r) < cost importPattern (y.reading r')) :
    x.alias?.map List.length = y.alias?.map List.length ∨ x.Before y := by
  obtain ⟨alias?, path⟩ := x
  obtain ⟨alias'?, path'⟩ := y
  cases alias? with
  | none =>
    cases alias'? with
    | none => exact .inl rfl
    | some w =>
      rcases List.cons_lt_cons_iff.mp h with hlt | ⟨heq, -⟩
      · exact absurd hlt (by decide)
      · exact absurd heq (by decide)
  | some v =>
    cases alias'? with
    | none => exact .inr ⟨v, rfl, fun w hw => absurd hw (Option.not_mem_none w)⟩
    | some w =>
      rcases List.cons_lt_cons_iff.mp h with hlt | ⟨-, hrest⟩
      · exact absurd hlt (Int.lt_irrefl _)
      · rcases List.cons_lt_cons_iff.mp hrest with hlt | ⟨heq, -⟩
        · refine .inr ⟨v, rfl, ?_⟩
          rintro _ ⟨⟩
          exact Int.ofNat_lt.mp hlt
        · exact .inl (congrArg some (Int.ofNat.inj heq))

/-- There is only one first import. -/
theorem Spec.First.unique (hx : x.First s) (hy : y.First s) : x = y := by
  rcases hx.2 y hy.1 with heq | ⟨v, hv, hvw⟩
  · exact heq.symm
  · rcases hy.2 x hx.1 with heq | ⟨w, hw, hwv⟩
    · exact heq
    · exact absurd (hvw w hw) (Nat.lt_asymm (hwv v hv))

/-- **The search stops at the first import.** -/
theorem first_of_first_importPattern (h : first importPattern s = some reading) :
    ∃ (x : Spec) (returns : Bool) (e : List Char), x.First s ∧ s = x.text ++ e ∧
      reading = x.reading returns := by
  obtain ⟨⟨rest, hreads⟩, hleast⟩ := first_eq_some_iff.mp h
  obtain ⟨x, returns, hline, hend, hcut, rfl⟩ := reads_importPattern.mp hreads
  have hfills : x.Fills s := ⟨hline, _, append_mem_lineEnds hend, hcut⟩
  refine ⟨x, returns, _, ⟨hfills, fun y hy => ?_⟩, hcut, rfl⟩
  obtain ⟨hline', e, he, hcut'⟩ := id hy
  obtain ⟨returns', rest', hend', rfl⟩ := exists_of_mem_lineEnds he
  have hother := reads_importPattern.mpr ⟨y, returns', hline', hend', hcut', rfl⟩
  rcases hleast _ _ hother with heq | hlt
  · exact .inl (hy.eq_of_length_eq hfills (List.cons.inj heq).1)
  · rcases Spec.Before.of_cost hlt with heq | hbefore
    · exact .inl (hy.eq_of_length_eq hfills heq.symm)
    · exact .inr hbefore

/-- A reading of an import takes its alias and its module. -/
theorem texts_importPattern (x : Spec) (returns : Bool) (e : List Char) :
    (texts importPattern (x.reading returns) (x.text ++ e)).1 =
      [x.alias?, some x.path, some (e.take (if returns then 1 else 0))] := by
  obtain ⟨alias?, path⟩ := x
  cases alias? with
  | none =>
    simp only [importPattern, Spec.text, Spec.reading, texts, Option.map_none, Option.elim_none,
      List.nil_append, List.append_assoc, List.drop_left, List.take_left]
  | some v =>
    have hdrop : ∀ u : List Char, (v ++ ([' '] ++ u)).drop (v.length + [' '].length) = u :=
      fun u => by rw [← List.drop_drop, List.drop_left, List.drop_left]
    simp only [importPattern, Spec.text, Spec.reading, texts, Option.map_some, Option.elim_some,
      List.append_assoc, List.drop_left, List.take_left, hdrop]

/-- The import made of the texts that a reading takes. -/
def Spec.ofTexts? : List (Option (List Char)) → Option Spec
  | [alias?, some path, _] => some ⟨alias?, path⟩
  | _ => none

/-- The import that a text is, up to the end of the line. -/
def spec? (s : List Char) : Option Spec := (taken? importPattern s).bind (Spec.ofTexts? ·.1)

theorem exists_first_of_first (h : first importPattern s = some reading) :
    ∃ x : Spec, x.First s ∧ spec? s = some x := by
  obtain ⟨x, returns, e, hx, hcut, rfl⟩ := first_of_first_importPattern h
  refine ⟨x, hx, ?_⟩
  rw [spec?, taken?, h, Option.map_some, Option.bind_some, hcut, texts_importPattern]
  rfl

/-- **What is read of a text is its first import.** -/
theorem spec?_eq_some : spec? s = some x ↔ x.First s := by
  constructor
  · intro h
    cases hfirst : first importPattern s with
    | none =>
      rw [spec?, taken?, hfirst] at h
      cases h
    | some reading =>
      obtain ⟨y, hy, hread⟩ := exists_first_of_first hfirst
      rw [h] at hread
      exact Option.some.inj hread ▸ hy
  · intro h
    obtain ⟨⟨hline, e, he, hcut⟩, -⟩ := id h
    obtain ⟨returns, rest, hend, rfl⟩ := exists_of_mem_lineEnds he
    have hsome : (first importPattern s).isSome :=
      isSome_first_iff.mpr ⟨_, _, reads_importPattern.mpr ⟨x, returns, hline, hend, hcut, rfl⟩⟩
    obtain ⟨reading, hreading⟩ := Option.isSome_iff_exists.mp hsome
    obtain ⟨y, hy, hread⟩ := exists_first_of_first hreading
    rw [hread, hy.unique h]

end Readings

/-! ## 3. The forms of lines -/

section Forms

variable {n : Nat} {line : Line} {i : Import} {s : List Char}

theorem match_texts (n : Nat) (found : List (Option (List Char))) :
    (match found with
      | [alias?, some path, _] => some (entry n alias? path)
      | _ => none) = (Spec.ofTexts? found).map (·.entry n) := by
  rcases found with _ | ⟨alias?, _ | ⟨_ | path, _ | ⟨ending, _ | ⟨more, found⟩⟩⟩⟩ <;> rfl

theorem match_cons_texts (n : Nat) (blanks : Option (List Char))
    (found : List (Option (List Char))) :
    (match blanks :: found with
      | [_, alias?, some path, _] => some (entry n alias? path)
      | _ => none) = (Spec.ofTexts? found).map (·.entry n) := by
  rcases found with _ | ⟨alias?, _ | ⟨_ | path, _ | ⟨ending, _ | ⟨more, found⟩⟩⟩⟩ <;> rfl

theorem single?_append (n : Nat) (s : List Char) :
    single? n ("import ".toList ++ s) = (spec? s).map (·.entry n) := by
  have htaken : taken? singlePattern ("import ".toList ++ s) = taken? importPattern s :=
    taken?_lit _ _ _
  rw [single?, match?_eq, htaken, spec?]
  cases taken? importPattern s with
  | none => rfl
  | some t => exact match_texts n t.1

theorem single?_eq_none_of_not_keyword (h : ¬ "import ".toList <+: line) :
    single? n line = none := by
  have htaken : taken? singlePattern line = none := taken?_lit_eq_none h
  rw [single?, match?_eq, htaken]
  rfl

/-- **Single imports.** -/
theorem single?_eq_some_iff :
    single? n line = some i ↔
      ∃ (s : List Char) (x : Spec), line = "import ".toList ++ s ∧ x.First s ∧ i = x.entry n := by
  constructor
  · intro h
    by_cases hword : "import ".toList <+: line
    · obtain ⟨s, rfl⟩ := hword
      rw [single?_append, Option.map_eq_some_iff] at h
      obtain ⟨x, hx, rfl⟩ := h
      exact ⟨s, x, rfl, spec?_eq_some.mp hx, rfl⟩
    · rw [single?_eq_none_of_not_keyword hword] at h
      cases h
  · rintro ⟨s, x, rfl, hx, rfl⟩
    rw [single?_append, spec?_eq_some.mpr hx]
    rfl

/-- A blank before an import may be left out. -/
theorem first_importPattern_of_blank {c : Char} (hc : isBlank c = true)
    (h : first importPattern s = none) : first importPattern (c :: s) = none := by
  rw [← Option.not_isSome_iff_eq_none, isSome_first_iff] at h ⊢
  rintro ⟨reading, rest, hreads⟩
  refine h ?_
  obtain ⟨⟨alias?, path⟩, returns, ⟨halias, hpath⟩, hend, hcut, -⟩ := reads_importPattern.mp hreads
  have hreads : ∀ x : Spec, x.OneLine →
      s = x.text ++ ((if returns then ['\r'] else []) ++ rest) →
      ∃ reading rest, Reads importPattern s reading rest := fun x hline hs =>
    ⟨_, _, reads_importPattern.mpr ⟨x, returns, hline, hend, hs, rfl⟩⟩
  cases alias? with
  | none =>
    have hquote : c = '"' := (List.cons.inj hcut).1
    rw [hquote] at hc
    cases hc
  | some v =>
    cases v with
    | nil =>
      exact hreads ⟨none, path⟩ ⟨fun v hv => absurd hv (Option.not_mem_none v), hpath⟩
        (List.cons.inj hcut).2
    | cons d v =>
      refine hreads ⟨some v, path⟩ ⟨?_, hpath⟩ (List.cons.inj hcut).2
      rintro _ ⟨⟩ hmem
      exact halias _ rfl (List.mem_cons_of_mem d hmem)

/-- Blanks before an import are skipped, all of them. -/
theorem first_entryPattern (s : List Char) :
    first entryPattern s = (first importPattern (s.dropWhile isBlank)).map
      (some (s.takeWhile isBlank).length :: ·) := by
  have hblanks : ∀ s : List Char, first importPattern (s.dropWhile isBlank) = none →
      first importPattern s = none := by
    intro s
    induction s with
    | nil => exact id
    | cons c s ih =>
      intro h
      by_cases hc : isBlank c = true
      · rw [List.dropWhile_cons_of_pos hc] at h
        exact first_importPattern_of_blank hc (ih h)
      · rwa [List.dropWhile_cons_of_neg hc] at h
  have hsteps : first entryPattern s = firstOf (first importPattern) (blankSteps s) :=
    (first_cons .blanks importPattern s).trans (firstBy_blanks _ _)
  rw [hsteps]
  clear hsteps
  induction s with
  | nil =>
    rw [blankSteps, firstOf_cons, List.dropWhile_nil]
    cases first importPattern [] <;> rfl
  | cons c s ih =>
    by_cases hc : isBlank c = true
    · rw [blankSteps, if_pos hc, firstOf_append, firstOf_succ, ih, firstOf_cons,
        List.dropWhile_cons_of_pos hc, List.takeWhile_cons_of_pos hc]
      cases hfirst : first importPattern (s.dropWhile isBlank) with
      | some reading => rfl
      | none =>
        rw [first_importPattern_of_blank hc (hblanks s hfirst)]
        rfl
    · rw [blankSteps, if_neg hc, List.nil_append, firstOf_cons, List.dropWhile_cons_of_neg hc,
        List.takeWhile_cons_of_neg hc]
      cases first importPattern (c :: s) <;> rfl

theorem memberOfBlock?_eq (n : Nat) (line : Line) :
    memberOfBlock? n line = (spec? (line.dropWhile isBlank)).map (·.entry n) := by
  have hdrop : line.drop (line.takeWhile isBlank).length = line.dropWhile isBlank := by
    have hleft : (line.takeWhile isBlank ++ line.dropWhile isBlank).drop
        (line.takeWhile isBlank).length = line.dropWhile isBlank := List.drop_left
    rwa [List.takeWhile_append_dropWhile] at hleft
  rw [memberOfBlock?, match?_eq, taken?, first_entryPattern, spec?, taken?]
  cases first importPattern (line.dropWhile isBlank) with
  | none => rfl
  | some reading =>
    have htexts : texts entryPattern (some (line.takeWhile isBlank).length :: reading) line =
        (some (line.take (line.takeWhile isBlank).length) ::
          (texts importPattern reading (line.dropWhile isBlank)).1,
          (texts importPattern reading (line.dropWhile isBlank)).2) := by
      rw [← hdrop]
      rfl
    dsimp only [Option.map_some, Option.bind_some]
    rw [htexts]
    exact match_cons_texts n _ _

/-- **Entries of a block.** -/
theorem memberOfBlock?_eq_some_iff :
    memberOfBlock? n line = some i ↔
      ∃ x : Spec, x.First (line.dropWhile isBlank) ∧ i = x.entry n := by
  rw [memberOfBlock?_eq, Option.map_eq_some_iff]
  simp only [spec?_eq_some, eq_comm (a := i)]

/-- A word that makes up a line. -/
theorem accepts_word (word : List Char) (line : Line) :
    accepts [.lit word, .maybe '\r', .finish] line = true ↔ ∃ e ∈ lineEnds, line = word ++ e := by
  rw [accepts, read?_eq_first, isSome_first_iff]
  simp only [reads_lit, reads_lineEnd]
  constructor
  · rintro ⟨_, rest, u, rfl, returns, hend, rfl, -⟩
    exact ⟨_, append_mem_lineEnds hend, rfl⟩
  · rintro ⟨e, he, rfl⟩
    obtain ⟨returns, rest, hend, rfl⟩ := exists_of_mem_lineEnds he
    exact ⟨_, rest, _, rfl, returns, hend, rfl, rfl⟩

/-- **What opens a block.** -/
theorem opens_iff : opens line = true ↔ ∃ e ∈ lineEnds, line = "import (".toList ++ e :=
  accepts_word _ _

/-- **What closes a block.** -/
theorem closes_iff : closes line = true ↔ ∃ e ∈ lineEnds, line = [')'] ++ e :=
  accepts_word _ _

end Forms

end SuiteExplorer.Imports
