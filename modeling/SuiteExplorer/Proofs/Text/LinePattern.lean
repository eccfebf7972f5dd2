/-
  SuiteExplorer/Proofs/Text/LinePattern.lean
  ==========================================
  **The table finds the reading that backtracking finds first.**

  A line is read from a table that is filled from the last piece of the pattern to the
  first.  `read?_eq_first` says that this is the reading of plain backtracking, for every
  pattern and every line.  From there on a line is read piece by piece: `taken?` is what
  the rest of a pattern takes of the rest of a line, and each kind of piece has a lemma
  that says what it takes of a line whose shape is known.
-/
import Mathlib.Data.List.Infix
import SuiteExplorer.Text.LinePattern

namespace SuiteExplorer.Text.LinePattern

/-! ## 1. The table -/

section Table

variable {g : List Char → Option Reading} {s : List Char}

/-- The first reading of one piece when the pieces after it are read by `g`. -/
def firstBy (g : List Char → Option Reading) (s : List Char) (p : Piece) : Option Reading :=
  (steps s p).findSome? fun q => (g q.2).map (q.1 ++ ·)

/-- The first reading of free text or blanks, taken in one of these ways. -/
def firstOf (g : List Char → Option Reading) (ways : List (Nat × List Char)) : Option Reading :=
  ways.findSome? fun p => (g p.2).map (some p.1 :: ·)

theorem first_cons (p : Piece) (ps : LinePattern) (s : List Char) :
    first (p :: ps) s = firstBy (first ps) s p := rfl

theorem top_tails (f : List Char → Option Reading) (s : List Char) :
    Column.top (s.tails.map f) = f s := by
  cases s <;> rfl

theorem firstOf_cons (n : Nat) (u : List Char) (ways : List (Nat × List Char)) :
    firstOf g ((n, u) :: ways) = ((g u).map (some n :: ·)).or (firstOf g ways) := by
  rw [firstOf, List.findSome?_cons]
  cases g u <;> rfl

theorem firstOf_append (ways more : List (Nat × List Char)) :
    firstOf g (ways ++ more) = (firstOf g ways).or (firstOf g more) :=
  List.findSome?_append

/-- Taking one character more in every way takes one more in the first that leads on. -/
theorem firstOf_succ (ways : List (Nat × List Char)) :
    firstOf g (ways.map fun p => (p.1 + 1, p.2)) = (firstOf g ways).map extend := by
  induction ways with
  | nil => rfl
  | cons way ways ih =>
    rw [List.map_cons, firstOf_cons, ih, firstOf_cons]
    cases g way.2 <;> rfl

theorem fewColumn_tails (g : List Char → Option Reading) (s : List Char) :
    fewColumn s (s.tails.map g) = s.tails.map fun u => firstOf g (fewSteps u) := by
  induction s with
  | nil =>
    simp [fewColumn, fewSteps, Column.top, firstOf]
  | cons c s ih =>
    have hbelow : fewColumn s (((c :: s).tails.map g).tail) =
        s.tails.map fun u => firstOf g (fewSteps u) := ih
    rw [fewColumn, hbelow, top_tails, top_tails, List.tails_cons, List.map_cons, fewSteps,
      firstOf_cons]
    congr 1
    cases g (c :: s) with
    | some reading => rfl
    | none =>
      by_cases hc : c = '\n'
      · simp [hc, firstOf]
      · simp [hc, firstOf_succ]

theorem fewSomeColumn_tails (g : List Char → Option Reading) (s : List Char) :
    fewSomeColumn s (s.tails.map fun u => firstOf g (fewSteps u)) =
      s.tails.map fun u => firstOf g ((fewSteps u).filter (0 < ·.1)) := by
  induction s with
  | nil => rfl
  | cons c s ih =>
    have htail : ((c :: s).tails.map fun u => firstOf g (fewSteps u)).tail =
        s.tails.map fun u => firstOf g (fewSteps u) := rfl
    rw [fewSomeColumn, htail, ih, top_tails, List.tails_cons, List.map_cons]
    congr 1
    rw [fewSteps, List.filter_cons_of_neg (by simp)]
    by_cases hc : c = '\n'
    · simp [hc, firstOf]
    · have hall : ∀ p ∈ (fewSteps s).map (fun p => (p.1 + 1, p.2)), decide (0 < p.1) = true := by
        intro p hp
        obtain ⟨q, -, rfl⟩ := List.mem_map.mp hp
        exact decide_eq_true (Nat.succ_pos _)
      rw [if_neg hc, if_neg hc, List.filter_eq_self.mpr hall, firstOf_succ]

theorem blanksColumn_tails (g : List Char → Option Reading) (s : List Char) :
    blanksColumn s (s.tails.map g) = s.tails.map fun u => firstOf g (blankSteps u) := by
  induction s with
  | nil => simp [blanksColumn, blankSteps, Column.top, firstOf]
  | cons c s ih =>
    have hbelow : blanksColumn s (((c :: s).tails.map g).tail) =
        s.tails.map fun u => firstOf g (blankSteps u) := ih
    rw [blanksColumn, hbelow, top_tails, top_tails, List.tails_cons, List.map_cons, blankSteps,
      firstOf_append, firstOf_cons]
    congr 1
    cases isBlank c with
    | true =>
      rw [if_pos rfl, if_pos rfl, firstOf_succ]
      cases (firstOf g (blankSteps s)).map extend <;> cases g (c :: s) <;> rfl
    | false => cases g (c :: s) <;> rfl

/-! ### 1.1 Pieces that are there or not -/

theorem firstBy_maybe_self (c : Char) (g : List Char → Option Reading) (s : List Char) :
    firstBy g (c :: s) (.maybe c) =
      ((g s).map (some 1 :: ·)).or ((g (c :: s)).map (some 0 :: ·)) := by
  rw [firstBy, steps]
  simp only [if_true, List.cons_append, List.nil_append, List.findSome?_cons]
  cases g s <;> cases g (c :: s) <;> rfl

theorem firstBy_maybe_of_ne {c : Char} {s : List Char} (h : s.head? ≠ some c)
    (g : List Char → Option Reading) :
    firstBy g s (.maybe c) = (g s).map (some 0 :: ·) := by
  have hsteps : steps s (.maybe c) = [([some 0], s)] := by
    cases s with
    | nil => rfl
    | cons d s =>
      have hd : d ≠ c := fun heq => h (congrArg some heq)
      rw [steps, if_neg hd, List.nil_append]
  rw [firstBy, hsteps, List.findSome?_cons]
  cases g s <;> rfl

theorem maybeColumn_tails (c : Char) (g : List Char → Option Reading) (s : List Char) :
    maybeColumn c s (s.tails.map g) = s.tails.map fun u => firstBy g u (.maybe c) := by
  induction s with
  | nil =>
    have hother : firstBy g [] (.maybe c) = (g []).map (some 0 :: ·) :=
      firstBy_maybe_of_ne (by simp) g
    exact congrArg (fun reading => [reading]) hother.symm
  | cons d s ih =>
    have htail : ((d :: s).tails.map g).tail = s.tails.map g := rfl
    rw [maybeColumn, htail, ih, top_tails, top_tails, List.tails_cons, List.map_cons]
    congr 1
    by_cases hd : d = c
    · rw [hd, if_pos rfl, firstBy_maybe_self]
      cases (g s).map (some 1 :: ·) <;> rfl
    · rw [if_neg hd, firstBy_maybe_of_ne (by simpa using hd)]
      rfl

theorem firstBy_finish (g : List Char → Option Reading) (s : List Char) :
    firstBy g s .finish = if atFinish s then g s else none := by
  rw [firstBy, steps]
  split
  · rw [List.findSome?_cons]
    cases g s <;> rfl
  · rfl

theorem finishColumn_tails (g : List Char → Option Reading) (s : List Char) :
    finishColumn s (s.tails.map g) = s.tails.map fun u => firstBy g u .finish := by
  induction s with
  | nil =>
    have hend : firstBy g [] .finish = g [] := firstBy_finish g []
    exact congrArg (fun reading => [reading]) hend.symm
  | cons c s ih =>
    have htail : ((c :: s).tails.map g).tail = s.tails.map g := rfl
    rw [finishColumn, htail, ih, top_tails, List.tails_cons, List.map_cons, firstBy_finish]

/-! ### 1.2 Words -/

/-- What the pieces after a word read, once the word is taken off. -/
def afterWordBy (word : List Char) (g : List Char → Option Reading) (s : List Char) :
    Option Reading :=
  (afterWord? word s).bind g

theorem top_drop_tails (g : List Char → Option Reading) (s : List Char) (k : Nat)
    (hk : k ≤ s.length) : Column.top ((s.tails.map g).drop k) = g (s.drop k) := by
  induction k generalizing s with
  | zero => exact top_tails g s
  | succ k ih =>
    cases s with
    | nil => cases hk
    | cons c s => exact ih s (Nat.le_of_succ_le_succ hk)

theorem wordColumn_tails (word : List Char) (g : List Char → Option Reading) (s : List Char) :
    wordColumn word s ((s.tails.map g).drop word.length) = s.tails.map (afterWordBy word g) := by
  have htop : ∀ s : List Char, (if word.isPrefixOf s
      then Column.top ((s.tails.map g).drop word.length) else none) = afterWordBy word g s := by
    intro s
    rw [afterWordBy, afterWord?]
    split
    · next h =>
      rw [top_drop_tails g s _ (List.isPrefixOf_iff_prefix.mp h).length_le]
      rfl
    · rfl
  induction s with
  | nil =>
    rw [wordColumn, htop]
    rfl
  | cons c s ih =>
    have htail : (((c :: s).tails.map g).drop word.length).tail =
        (s.tails.map g).drop word.length := by
      rw [List.tail_drop, List.tails_cons, List.map_cons, List.drop_succ_cons]
    rw [wordColumn, htail, ih, htop]
    rfl

theorem firstBy_lit (word : List Char) (g : List Char → Option Reading) (s : List Char) :
    firstBy g s (.lit word) = afterWordBy word g s := by
  rw [firstBy, steps, afterWordBy]
  cases afterWord? word s with
  | none => rfl
  | some rest =>
    rw [Option.toList_some, List.map_cons, List.findSome?_cons, Option.bind_some]
    cases g rest <;> rfl

theorem firstBy_few (g : List Char → Option Reading) (s : List Char) :
    firstBy g s .few = firstOf g (fewSteps s) := by
  rw [firstBy, steps, firstOf, List.findSome?_map]
  rfl

theorem firstBy_fewSome (g : List Char → Option Reading) (s : List Char) :
    firstBy g s .fewSome = firstOf g ((fewSteps s).filter (0 < ·.1)) := by
  rw [firstBy, steps, firstOf, List.findSome?_map]
  rfl

theorem firstBy_blanks (g : List Char → Option Reading) (s : List Char) :
    firstBy g s .blanks = firstOf g (blankSteps s) := by
  rw [firstBy, steps, firstOf, List.findSome?_map]
  rfl

theorem firstBy_fewThen (word : List Char) (g : List Char → Option Reading) (s : List Char) :
    firstBy g s (.fewThen word) =
      (firstOf (afterWordBy word g) (fewSteps s)).or ((g s).map (none :: ·)) := by
  rw [firstBy, steps, List.findSome?_append]
  congr 1
  · rw [firstOf]
    induction fewSteps s with
    | nil => rfl
    | cons p ways ih =>
      rw [List.findSome?_cons, List.filterMap_cons, afterWordBy]
      cases afterWord? word p.2 with
      | none => exact ih
      | some rest =>
        rw [Option.map_some, List.findSome?_cons]
        cases hrest : g rest with
        | none =>
          rw [Option.bind_some, hrest]
          exact ih
        | some reading =>
          rw [Option.bind_some, hrest]
          rfl
  · rw [List.findSome?_cons]
    cases g s <;> rfl

/-- **One piece more**: its column is right if the column after it is. -/
theorem column_tails (p : Piece) (g : List Char → Option Reading) (s : List Char) :
    column s (s.tails.map g) p = s.tails.map fun u => firstBy g u p := by
  cases p with
  | lit word =>
    rw [column, wordColumn_tails]
    simp only [firstBy_lit]
  | few =>
    rw [column, fewColumn_tails]
    simp only [firstBy_few]
  | fewSome =>
    rw [column, fewColumn_tails, fewSomeColumn_tails]
    simp only [firstBy_fewSome]
  | «maybe» c => exact maybeColumn_tails c g s
  | blanks =>
    rw [column, blanksColumn_tails]
    simp only [firstBy_blanks]
  | fewThen word =>
    rw [column, wordColumn_tails, fewColumn_tails, List.zipWith_map_left, List.zipWith_map_right,
      List.zipWith_self]
    simp only [firstBy_fewThen]
    refine List.map_congr_left fun u _ => ?_
    cases firstOf (afterWordBy word g) (fewSteps u) <;> rfl
  | finish => exact finishColumn_tails g s

end Table

/-- A table holds the first readings of all rests of the line. -/
theorem table_eq (ps : LinePattern) (s : List Char) : table s ps = s.tails.map (first ps) := by
  induction ps with
  | nil =>
    rw [table, ← List.length_tails, ← List.map_const']
    rfl
  | cons p ps ih =>
    rw [table, ih, column_tails]
    rfl

/-- **The table finds the first reading.** -/
theorem read?_eq_first (ps : LinePattern) (s : List Char) : read? ps s = first ps s := by
  induction ps generalizing s with
  | nil =>
    rw [read?, table_eq, top_tails]
    simp
  | cons p ps ih =>
    cases p with
    | lit word =>
      rw [read?, first_cons, firstBy_lit, afterWordBy]
      exact Option.bind_congr fun rest _ => ih rest
    | _ =>
      rw [read?, table_eq, top_tails]
      simp

/-! ## 2. First readings -/

section First

variable {g : List Char → Option Reading} {reading : Reading} {s v : List Char}

/-- Free text goes on up to the first place from which the rest can be read. -/
theorem firstOf_fewSteps (hline : '\n' ∉ v) (hbefore : ∀ u, u <:+ v → u ≠ [] → g (u ++ s) = none)
    (h : g s = some reading) : firstOf g (fewSteps (v ++ s)) = some (some v.length :: reading) := by
  induction v with
  | nil =>
    cases s with
    | nil => rw [List.nil_append, fewSteps, firstOf_cons, h]; rfl
    | cons c s => rw [List.nil_append, fewSteps, firstOf_cons, h]; rfl
  | cons c v ih =>
    have hc : c ≠ '\n' := fun heq => hline (heq ▸ List.mem_cons_self)
    have hrest := ih (fun hmem => hline (List.mem_cons_of_mem c hmem)) fun u hu hne =>
      hbefore u (hu.trans (List.suffix_cons c v)) hne
    have hhere : g (c :: (v ++ s)) = none := hbefore (c :: v) (List.suffix_refl _) (by simp)
    rw [List.cons_append, fewSteps, firstOf_cons, hhere, if_neg hc, firstOf_succ, hrest]
    rfl

theorem firstOf_fewSteps_some (hne : v ≠ []) (hline : '\n' ∉ v)
    (hbefore : ∀ u, u <:+ v → u ≠ [] → g (u ++ s) = none) (h : g s = some reading) :
    firstOf g ((fewSteps (v ++ s)).filter (0 < ·.1)) = some (some v.length :: reading) := by
  -- that nothing is taken leads nowhere anyway
  have hall := firstOf_fewSteps hline hbefore h
  cases v with
  | nil => exact absurd rfl hne
  | cons c v =>
    have hhere : g (c :: (v ++ s)) = none := hbefore (c :: v) (List.suffix_refl _) (by simp)
    have hpositive : ∀ p ∈ (fewSteps (v ++ s)).map (fun p => (p.1 + 1, p.2)),
        decide (0 < p.1) = true := by
      intro p hp
      obtain ⟨q, -, rfl⟩ := List.mem_map.mp hp
      exact decide_eq_true (Nat.succ_pos _)
    have hc : c ≠ '\n' := fun heq => hline (heq ▸ List.mem_cons_self)
    rw [List.cons_append, fewSteps, if_neg hc] at hall ⊢
    rw [firstOf_cons, hhere] at hall
    rw [List.filter_cons_of_neg (by simp), List.filter_eq_self.mpr hpositive]
    exact hall

/-- Blanks are taken up to the first character that is none. -/
theorem firstOf_blankSteps (hv : ∀ c ∈ v, isBlank c = true)
    (hs : ∀ c, s.head? = some c → isBlank c = false) (h : g s = some reading) :
    firstOf g (blankSteps (v ++ s)) = some (some v.length :: reading) := by
  induction v with
  | nil =>
    cases s with
    | nil => rw [List.nil_append, blankSteps, firstOf_cons, h]; rfl
    | cons c s =>
      rw [List.nil_append, blankSteps, hs c rfl, if_neg Bool.false_ne_true, List.nil_append,
        firstOf_cons, h]
      rfl
  | cons c v ih =>
    have hrest := ih fun d hd => hv d (List.mem_cons_of_mem c hd)
    rw [List.cons_append, blankSteps, hv c List.mem_cons_self, if_pos rfl, firstOf_append,
      firstOf_succ, hrest]
    rfl

theorem suffix_of_mem_fewSteps {p : Nat × List Char} (h : p ∈ fewSteps s) : p.2 <:+ s := by
  induction s generalizing p with
  | nil =>
    rw [fewSteps, List.mem_singleton] at h
    exact h ▸ List.suffix_refl _
  | cons c s ih =>
    rw [fewSteps] at h
    rcases List.mem_cons.mp h with rfl | h
    · exact List.suffix_refl _
    · split at h
      · cases h
      · obtain ⟨q, hq, rfl⟩ := List.mem_map.mp h
        exact (ih hq).trans (List.suffix_cons c s)

theorem suffix_of_mem_blankSteps {p : Nat × List Char} (h : p ∈ blankSteps s) : p.2 <:+ s := by
  induction s generalizing p with
  | nil =>
    rw [blankSteps, List.mem_singleton] at h
    exact h ▸ List.suffix_refl _
  | cons c s ih =>
    rw [blankSteps] at h
    rcases List.mem_append.mp h with h | h
    · split at h
      · obtain ⟨q, hq, rfl⟩ := List.mem_map.mp h
        exact (ih hq).trans (List.suffix_cons c s)
      · cases h
    · rw [List.mem_singleton] at h
      exact h ▸ List.suffix_refl _

theorem suffix_of_afterWord? {word rest : List Char} (h : afterWord? word s = some rest) :
    rest <:+ s := by
  unfold afterWord? at h
  split at h
  · rw [← Option.some.inj h]
    exact List.drop_suffix _ _
  · cases h

/-- Every piece leaves a rest of the text. -/
theorem suffix_of_mem_steps {p : Piece} {q : Reading × List Char} (h : q ∈ steps s p) :
    q.2 <:+ s := by
  cases p with
  | lit word =>
    obtain ⟨rest, hrest, rfl⟩ := List.mem_map.mp h
    exact suffix_of_afterWord? (Option.mem_toList.mp hrest)
  | few =>
    obtain ⟨p, hp, rfl⟩ := List.mem_map.mp h
    exact suffix_of_mem_fewSteps hp
  | fewSome =>
    obtain ⟨p, hp, rfl⟩ := List.mem_map.mp h
    exact suffix_of_mem_fewSteps (List.mem_filter.mp hp).1
  | «maybe» c =>
    cases s with
    | nil => rw [List.mem_singleton.mp h]
    | cons d s =>
      rw [steps] at h
      rcases List.mem_append.mp h with h | h
      · split at h
        · rw [List.mem_singleton.mp h]
          exact List.suffix_cons d s
        · cases h
      · rw [List.mem_singleton.mp h]
  | blanks =>
    obtain ⟨p, hp, rfl⟩ := List.mem_map.mp h
    exact suffix_of_mem_blankSteps hp
  | fewThen word =>
    rw [steps] at h
    rcases List.mem_append.mp h with h | h
    · obtain ⟨p, hp, hq⟩ := List.mem_filterMap.mp h
      obtain ⟨rest, hrest, rfl⟩ := Option.map_eq_some_iff.mp hq
      exact (suffix_of_afterWord? hrest).trans (suffix_of_mem_fewSteps hp)
    · rw [List.mem_singleton.mp h]
  | finish =>
    rw [steps] at h
    split at h
    · rw [List.mem_singleton.mp h]
    · cases h

theorem afterWord?_eq_none {word : List Char} (h : ¬ word <+: s) : afterWord? word s = none := by
  rw [afterWord?, if_neg fun hbegins => h (List.isPrefixOf_iff_prefix.mp hbegins)]

theorem afterWord?_append (word s : List Char) : afterWord? word (word ++ s) = some s := by
  rw [afterWord?, if_pos (List.isPrefixOf_iff_prefix.mpr (List.prefix_append word s)),
    List.drop_left]

/-- A text is not read by a pattern with a word that has a character the text has not. -/
theorem first_eq_none_of_not_mem {ps : LinePattern} {word : List Char} {c : Char}
    (hword : .lit word ∈ ps) (hc : c ∈ word) (hs : c ∉ s) : first ps s = none := by
  induction ps generalizing s with
  | nil => cases hword
  | cons p ps ih =>
    rw [first_cons]
    rcases List.mem_cons.mp hword with rfl | hword
    · rw [firstBy_lit, afterWordBy, afterWord?_eq_none fun hbegins => hs (hbegins.subset hc)]
      rfl
    · refine List.findSome?_eq_none_iff.mpr fun q hq => ?_
      rw [ih hword fun hmem => hs ((suffix_of_mem_steps hq).subset hmem)]
      rfl

end First

/-! ## 3. Reading a line piece by piece -/

section Taken

variable {ps : LinePattern} {s v : List Char} {c : Char}
  {t : List (Option (List Char)) × List Char}

/-- What a pattern takes from the front of a text: its free texts, and the rest. -/
def taken? (ps : LinePattern) (s : List Char) : Option (List (Option (List Char)) × List Char) :=
  (first ps s).map fun reading => texts ps reading s

theorem match?_eq (ps : LinePattern) (line : Line) :
    match? ps line = (taken? ps line).map fun t => ⟨t.1, line.length - t.2.length⟩ := by
  rw [match?, read?_eq_first, taken?, Option.map_map]
  rfl

theorem accepts_eq (ps : LinePattern) (line : Line) :
    accepts ps line = (taken? ps line).isSome := by
  rw [accepts, read?_eq_first, taken?, Option.isSome_map]

theorem taken?_eq_none : taken? ps s = none ↔ first ps s = none := Option.map_eq_none_iff

theorem taken?_eq_none_of_not_mem {word : List Char} (hword : .lit word ∈ ps) (hc : c ∈ word)
    (hs : c ∉ s) : taken? ps s = none :=
  taken?_eq_none.mpr (first_eq_none_of_not_mem hword hc hs)

theorem taken?_lit (word : List Char) (ps : LinePattern) (s : List Char) :
    taken? (.lit word :: ps) (word ++ s) = taken? ps s := by
  rw [taken?, first_cons, firstBy_lit, afterWordBy, afterWord?_append, Option.bind_some, taken?]
  simp only [texts, List.drop_left]

theorem taken?_lit_eq_none {word : List Char} (h : ¬ word <+: s) :
    taken? (.lit word :: ps) s = none := by
  rw [taken?_eq_none, first_cons, firstBy_lit, afterWordBy, afterWord?_eq_none h]
  rfl

theorem taken?_few (hline : '\n' ∉ v)
    (hbefore : ∀ u, u <:+ v → u ≠ [] → taken? ps (u ++ s) = none) (h : taken? ps s = some t) :
    taken? (.few :: ps) (v ++ s) = some (some v :: t.1, t.2) := by
  obtain ⟨reading, hfirst, rfl⟩ := Option.map_eq_some_iff.mp h
  have hread := firstOf_fewSteps hline (fun u hu hne => taken?_eq_none.mp (hbefore u hu hne)) hfirst
  rw [taken?, first_cons, firstBy_few, hread]
  simp [texts]

theorem taken?_fewSome (hne : v ≠ []) (hline : '\n' ∉ v)
    (hbefore : ∀ u, u <:+ v → u ≠ [] → taken? ps (u ++ s) = none) (h : taken? ps s = some t) :
    taken? (.fewSome :: ps) (v ++ s) = some (some v :: t.1, t.2) := by
  obtain ⟨reading, hfirst, rfl⟩ := Option.map_eq_some_iff.mp h
  have hread := firstOf_fewSteps_some hne hline
    (fun u hu hne => taken?_eq_none.mp (hbefore u hu hne)) hfirst
  rw [taken?, first_cons, firstBy_fewSome, hread]
  simp [texts]

/-- Free text before a word ends at the first character of the word. -/
theorem taken?_few_lit (word : List Char) (hline : '\n' ∉ v) (hc : c ∉ v)
    (h : taken? ps s = some t) :
    taken? (.few :: .lit (c :: word) :: ps) (v ++ (c :: word ++ s)) = some (some v :: t.1, t.2) := by
  refine taken?_few hline (fun u hu hne => ?_) ((taken?_lit (c :: word) ps s).trans h)
  refine taken?_lit_eq_none fun hbegins => ?_
  cases u with
  | nil => exact hne rfl
  | cons d u =>
    have hcd : c = d := (List.cons_prefix_cons.mp hbegins).1
    exact hc (hu.subset (hcd ▸ List.mem_cons_self))

theorem taken?_maybe (b : Bool) (hs : s.head? ≠ some c) (h : taken? ps s = some t) :
    taken? (.maybe c :: ps) ((if b then [c] else []) ++ s) =
      some (some (if b then [c] else []) :: t.1, t.2) := by
  obtain ⟨reading, hfirst, rfl⟩ := Option.map_eq_some_iff.mp h
  cases b with
  | true =>
    have hread : first (.maybe c :: ps) (c :: s) = some (some 1 :: reading) := by
      rw [first_cons, firstBy_maybe_self, hfirst]
      rfl
    have hshape : (if true then [c] else []) ++ s = c :: s := rfl
    rw [hshape, taken?, hread]
    rfl
  | false =>
    have hread : first (.maybe c :: ps) s = some (some 0 :: reading) := by
      rw [first_cons, firstBy_maybe_of_ne hs, hfirst]
      rfl
    have hshape : (if false then [c] else []) ++ s = s := rfl
    rw [hshape, taken?, hread]
    rfl

theorem taken?_maybe_of_ne (hs : s.head? ≠ some c) :
    taken? (.maybe c :: ps) s = (taken? ps s).map fun t => (some [] :: t.1, t.2) := by
  rw [taken?, first_cons, firstBy_maybe_of_ne hs, taken?, Option.map_map, Option.map_map]
  rfl

theorem taken?_blanks (hv : ∀ c ∈ v, isBlank c = true)
    (hs : ∀ c, s.head? = some c → isBlank c = false) (h : taken? ps s = some t) :
    taken? (.blanks :: ps) (v ++ s) = some (some v :: t.1, t.2) := by
  obtain ⟨reading, hfirst, rfl⟩ := Option.map_eq_some_iff.mp h
  rw [taken?, first_cons, firstBy_blanks, firstOf_blankSteps hv hs hfirst]
  simp [texts]

/-- Free text with a character after it is present when the character is there. -/
theorem taken?_fewThen (hline : '\n' ∉ v) (hc : c ∉ v) (h : taken? ps s = some t) :
    taken? (.fewThen [c] :: ps) (v ++ c :: s) = some (some v :: t.1, t.2) := by
  obtain ⟨reading, hfirst, rfl⟩ := Option.map_eq_some_iff.mp h
  have hbefore : ∀ u, u <:+ v → u ≠ [] → afterWordBy [c] (first ps) (u ++ c :: s) = none := by
    intro u hu hne
    rw [afterWordBy, afterWord?_eq_none fun hbegins => ?_]
    · rfl
    · cases u with
      | nil => exact hne rfl
      | cons d u =>
        have hcd : c = d := (List.cons_prefix_cons.mp hbegins).1
        exact hc (hu.subset (hcd ▸ List.mem_cons_self))
  have hthen : afterWordBy [c] (first ps) (c :: s) = some reading := by
    rw [afterWordBy, show c :: s = [c] ++ s from rfl, afterWord?_append, Option.bind_some, hfirst]
  rw [taken?, first_cons, firstBy_fewThen, firstOf_fewSteps hline hbefore hthen]
  have hdrop : (v ++ c :: s).drop (v.length + 1) = s := by
    rw [← List.drop_drop, List.drop_left]
    rfl
  simp [texts, hdrop]

/-- It is absent when the character is not. -/
theorem taken?_fewThen_absent (hc : c ∉ s) :
    taken? (.fewThen [c] :: ps) s = (taken? ps s).map fun t => (none :: t.1, t.2) := by
  have hnone : firstOf (afterWordBy [c] (first ps)) (fewSteps s) = none := by
    refine List.findSome?_eq_none_iff.mpr fun p hp => ?_
    rw [afterWordBy, afterWord?_eq_none fun hbegins => ?_]
    · rfl
    · have hmem : c ∈ p.2 := hbegins.subset (List.mem_singleton_self c)
      exact hc ((suffix_of_mem_fewSteps hp).subset hmem)
  rw [taken?, first_cons, firstBy_fewThen, hnone, taken?, Option.none_or, Option.map_map,
    Option.map_map]
  rfl

/-- The end of a line, with no carriage return before it. -/
theorem taken?_lineEnd : taken? [.maybe '\r', .finish] [] = some ([some []], []) := rfl

theorem taken?_lineEnd_eq_none (hne : s ≠ []) (hreturn : '\r' ∉ s) (hline : '\n' ∉ s) :
    taken? [.maybe '\r', .finish] s = none := by
  cases s with
  | nil => exact absurd rfl hne
  | cons d s =>
    have hd : d ≠ '\r' := fun heq => hreturn (heq ▸ List.mem_cons_self)
    have hd' : d ≠ '\n' := fun heq => hline (heq ▸ List.mem_cons_self)
    have hend : atFinish (d :: s) = false := by
      unfold atFinish
      split
      · next heq => cases heq
      · next heq => exact absurd (List.cons.inj heq).1 hd'
      · rfl
    rw [taken?_maybe_of_ne (by simpa using hd), taken?_eq_none.mpr]
    · rfl
    · rw [first_cons, firstBy_finish, hend]
      rfl

end Taken

end SuiteExplorer.Text.LinePattern
