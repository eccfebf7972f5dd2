/-
  SuiteExplorer/Proofs/Text/Preference.lean
  =========================================
  **The reading of a line is the least of all its readings.**

  Backtracking is a search: it says how a reading is found, not which one it is.  `Reads`
  leaves the search out and only says that each piece takes what it may take.  `cost` turns
  a reading into numbers, earlier pieces first, a smaller number for what a piece tries
  sooner.  Every piece tries its ways in the order of their costs, so the search finds the
  reading of least cost in the lexicographic order, and it finds one whenever there is one.

  The lemmas at the end say for each kind of piece what the readings through it look like,
  as a way to cut the text in two.
-/
import SuiteExplorer.Proofs.Text.LinePattern

namespace SuiteExplorer.Text.LinePattern

/-! ## 1. Readings without a search -/

/-- `Reads ps s reading rest`: the pattern can take the front of the text with these
    choices and leave this rest. -/
inductive Reads : LinePattern → List Char → Reading → List Char → Prop where
  | nil (s : List Char) : Reads [] s [] s
  | cons {p : Piece} {ps : LinePattern} {s : List Char} {way : Reading × List Char}
      {reading : Reading} {rest : List Char} (taken : way ∈ steps s p)
      (further : Reads ps way.2 reading rest) : Reads (p :: ps) s (way.1 ++ reading) rest

/-- How late a piece tries what it took, as numbers to be compared from left to right. -/
def rank : Piece → Choice → List Int
  | .few, some n => [n]
  | .fewSome, some n => [n]
  | .maybe _, some n => [1 - n]
  | .blanks, some n => [-n]
  | .fewThen _, some n => [0, n]
  | .fewThen _, none => [1, 0]
  | _, _ => []

/-- The cost of a reading: the ranks of its choices, earlier pieces first. -/
def cost : LinePattern → Reading → List Int
  | [], _ => []
  | .lit _ :: ps, reading => cost ps reading
  | .finish :: ps, reading => cost ps reading
  | p :: ps, choice :: reading => rank p choice ++ cost ps reading
  | _ :: _, [] => []

/-! ## 2. One piece -/

section Piece

variable {s : List Char} {p : Piece} {way : Reading × List Char}

/-- How many numbers tell the choices of a piece apart. -/
def ranks : Piece → Nat
  | .lit _ => 0
  | .finish => 0
  | .fewThen _ => 2
  | _ => 1

/-- A piece without a choice records nothing, any other piece records one. -/
theorem cost_append (h : way ∈ steps s p) (ps : LinePattern) (reading : Reading) :
    cost (p :: ps) (way.1 ++ reading) = cost [p] way.1 ++ cost ps reading ∧
      (cost [p] way.1).length = ranks p := by
  cases p with
  | lit word =>
    obtain ⟨rest, -, rfl⟩ := List.mem_map.mp h
    exact ⟨rfl, rfl⟩
  | few =>
    obtain ⟨q, -, rfl⟩ := List.mem_map.mp h
    exact ⟨rfl, rfl⟩
  | fewSome =>
    obtain ⟨q, -, rfl⟩ := List.mem_map.mp h
    exact ⟨rfl, rfl⟩
  | «maybe» c =>
    cases s with
    | nil => rw [List.mem_singleton.mp h]; exact ⟨rfl, rfl⟩
    | cons d s =>
      rw [steps] at h
      rcases List.mem_append.mp h with h | h
      · split at h
        · rw [List.mem_singleton.mp h]; exact ⟨rfl, rfl⟩
        · cases h
      · rw [List.mem_singleton.mp h]; exact ⟨rfl, rfl⟩
  | blanks =>
    obtain ⟨q, -, rfl⟩ := List.mem_map.mp h
    exact ⟨rfl, rfl⟩
  | fewThen word =>
    rw [steps] at h
    rcases List.mem_append.mp h with h | h
    · obtain ⟨q, -, hq⟩ := List.mem_filterMap.mp h
      obtain ⟨rest, -, rfl⟩ := Option.map_eq_some_iff.mp hq
      exact ⟨rfl, rfl⟩
    · rw [List.mem_singleton.mp h]; exact ⟨rfl, rfl⟩
  | finish =>
    rw [steps] at h
    split at h
    · rw [List.mem_singleton.mp h]; exact ⟨rfl, rfl⟩
    · cases h

theorem pairwise_fewSteps (s : List Char) : (fewSteps s).Pairwise (·.1 < ·.1) := by
  induction s with
  | nil => exact List.pairwise_singleton _ _
  | cons c s ih =>
    rw [fewSteps, List.pairwise_cons]
    split
    · exact ⟨fun way hway => absurd hway List.not_mem_nil, List.Pairwise.nil⟩
    · refine ⟨fun way hway => ?_, List.pairwise_map.mpr (ih.imp Nat.succ_lt_succ)⟩
      obtain ⟨q, -, rfl⟩ := List.mem_map.mp hway
      exact Nat.succ_pos _

theorem pairwise_blankSteps (s : List Char) : (blankSteps s).Pairwise (·.1 > ·.1) := by
  induction s with
  | nil => exact List.pairwise_singleton _ _
  | cons c s ih =>
    rw [blankSteps, List.pairwise_append]
    refine ⟨?_, List.pairwise_singleton _ _, fun way hway other hother => ?_⟩
    · split
      · exact List.pairwise_map.mpr (ih.imp Nat.succ_lt_succ)
      · exact List.Pairwise.nil
    · split at hway
      · obtain ⟨q, -, rfl⟩ := List.mem_map.mp hway
        rw [List.mem_singleton.mp hother]
        exact Nat.succ_pos _
      · cases hway

theorem singleton_lt {m n : Int} (h : m < n) : [m] < [n] := List.cons_lt_cons_iff.mpr (.inl h)

/-- **A piece tries its ways in the order of their costs.** -/
theorem pairwise_steps (s : List Char) (p : Piece) :
    (steps s p).Pairwise fun way other => cost [p] way.1 < cost [p] other.1 := by
  cases p with
  | lit word =>
    rw [steps]
    cases afterWord? word s with
    | none => exact List.Pairwise.nil
    | some rest => exact List.pairwise_singleton _ _
  | few =>
    exact List.pairwise_map.mpr ((pairwise_fewSteps s).imp fun h =>
      singleton_lt (Int.ofNat_lt.mpr h))
  | fewSome =>
    exact List.pairwise_map.mpr (((pairwise_fewSteps s).sublist List.filter_sublist).imp fun h =>
      singleton_lt (Int.ofNat_lt.mpr h))
  | «maybe» c =>
    cases s with
    | nil => exact List.pairwise_singleton _ _
    | cons d s =>
      rw [steps]
      split
      · exact List.pairwise_pair.mpr (singleton_lt (by decide))
      · exact List.pairwise_singleton _ _
  | blanks =>
    exact List.pairwise_map.mpr ((pairwise_blankSteps s).imp fun h =>
      singleton_lt (Int.neg_lt_neg (Int.ofNat_lt.mpr h)))
  | fewThen word =>
    rw [steps, List.pairwise_append]
    refine ⟨?_, List.pairwise_singleton _ _, fun way hway other hother => ?_⟩
    · refine List.pairwise_filterMap.mpr ((pairwise_fewSteps s).imp fun h way hway other hother => ?_)
      obtain ⟨rest, -, rfl⟩ := Option.map_eq_some_iff.mp hway
      obtain ⟨rest', -, rfl⟩ := Option.map_eq_some_iff.mp hother
      exact List.cons_lt_cons_iff.mpr (.inr ⟨rfl, singleton_lt (Int.ofNat_lt.mpr h)⟩)
    · obtain ⟨q, -, hq⟩ := List.mem_filterMap.mp hway
      obtain ⟨rest, -, rfl⟩ := Option.map_eq_some_iff.mp hq
      rw [List.mem_singleton.mp hother]
      exact List.cons_lt_cons_iff.mpr (.inl (by decide))
  | finish =>
    rw [steps]
    split
    · exact List.pairwise_singleton _ _
    · exact List.Pairwise.nil

end Piece

/-! ## 3. The whole pattern -/

section Pattern

variable {ps : LinePattern} {s rest : List Char} {reading other : Reading}

/-- Numbers compared in a first part are compared in the whole. -/
theorem append_lt_append {xs ys : List Int} (hlen : xs.length = ys.length) (h : xs < ys)
    (us vs : List Int) : xs ++ us < ys ++ vs := by
  induction xs generalizing ys with
  | nil =>
    obtain rfl : ys = [] := List.length_eq_zero_iff.mp hlen.symm
    exact absurd h (List.lt_irrefl _)
  | cons x xs ih =>
    cases ys with
    | nil => cases hlen
    | cons y ys =>
      rw [List.cons_append, List.cons_append, List.cons_lt_cons_iff]
      rcases List.cons_lt_cons_iff.mp h with hlt | ⟨heq, hlt⟩
      · exact .inl hlt
      · exact .inr ⟨heq, ih (Nat.succ.inj hlen) hlt⟩

theorem Reads.of_first (h : first ps s = some reading) : ∃ rest, Reads ps s reading rest := by
  induction ps generalizing s reading with
  | nil => exact ⟨s, Option.some.inj h ▸ .nil s⟩
  | cons p ps ih =>
    obtain ⟨way, hway, hmap⟩ := List.exists_of_findSome?_eq_some h
    obtain ⟨further, hfurther, rfl⟩ := Option.map_eq_some_iff.mp hmap
    obtain ⟨rest, hrest⟩ := ih hfurther
    exact ⟨rest, .cons hway hrest⟩

/-- **The search finds the least reading**: every reading costs more, if it is another. -/
theorem Reads.first_le (h : Reads ps s other rest) :
    ∃ reading, first ps s = some reading ∧ (other = reading ∨ cost ps reading < cost ps other) := by
  induction h with
  | nil s => exact ⟨[], rfl, .inl rfl⟩
  | @cons p ps s way other rest hway hother ih =>
    obtain ⟨further, hfurther, hle⟩ := ih
    have hthrough : (first ps way.2).map (way.1 ++ ·) = some (way.1 ++ further) := by
      rw [hfurther, Option.map_some]
    -- the search stops at this way or at one that is tried before it
    obtain ⟨reading, hreading⟩ : ∃ reading, first (p :: ps) s = some reading := by
      refine Option.isSome_iff_exists.mp (Option.isSome_iff_ne_none.mpr fun hnone => ?_)
      rw [List.findSome?_eq_none_iff.mp hnone way hway] at hthrough
      cases hthrough
    refine ⟨reading, hreading, ?_⟩
    obtain ⟨earlier, found, later, hsplit, hfound, hearlier⟩ :=
      List.findSome?_eq_some_iff.mp hreading
    have hfoundMem : found ∈ steps s p := hsplit ▸ List.mem_append_right _ List.mem_cons_self
    rcases List.mem_append.mp (hsplit ▸ hway) with hbefore | hbehind
    · rw [hearlier way hbefore] at hthrough
      cases hthrough
    obtain ⟨next, hnext, rfl⟩ := Option.map_eq_some_iff.mp hfound
    rw [(cost_append hfoundMem ps next).1, (cost_append hway ps other).1]
    rcases List.mem_cons.mp hbehind with rfl | hlater
    · rw [hnext] at hfurther
      obtain rfl := Option.some.inj hfurther
      rcases hle with rfl | hlt
      · exact .inl rfl
      · exact .inr (List.append_left_lt hlt)
    · have hpair := (List.pairwise_append.mp (hsplit ▸ pairwise_steps s p)).2.1
      have hlt := (List.pairwise_cons.mp hpair).1 way hlater
      have hlen := (cost_append hfoundMem ps next).2.trans (cost_append hway ps other).2.symm
      exact .inr (append_lt_append hlen hlt _ _)

/-- The reading of a text is the one reading that costs less than all others. -/
theorem first_eq_some_iff :
    first ps s = some reading ↔
      (∃ rest, Reads ps s reading rest) ∧
        ∀ other rest, Reads ps s other rest → other = reading ∨ cost ps reading < cost ps other := by
  constructor
  · intro h
    refine ⟨Reads.of_first h, fun other rest hother => ?_⟩
    obtain ⟨found, hfound, hle⟩ := hother.first_le
    rw [h] at hfound
    exact Option.some.inj hfound ▸ hle
  · rintro ⟨⟨rest, hreads⟩, hleast⟩
    obtain ⟨found, hfound, rfl | hlt⟩ := hreads.first_le
    · exact hfound
    · obtain ⟨rest', hrest'⟩ := Reads.of_first hfound
      rcases hleast found rest' hrest' with rfl | hgt
      · exact hfound
      · exact absurd (List.lt_trans hlt hgt) (List.lt_irrefl _)

/-- A text has a reading exactly if the search finds one. -/
theorem isSome_first_iff : (first ps s).isSome ↔ ∃ reading rest, Reads ps s reading rest := by
  rw [Option.isSome_iff_exists]
  constructor
  · rintro ⟨reading, h⟩
    exact ⟨reading, Reads.of_first h⟩
  · rintro ⟨other, rest, h⟩
    obtain ⟨reading, hreading, -⟩ := h.first_le
    exact ⟨reading, hreading⟩

end Pattern

/-! ## 4. Readings as ways to cut a text -/

section Cuts

variable {ps : LinePattern} {s rest : List Char} {reading : Reading}

theorem mem_fewSteps {n : Nat} {u : List Char} :
    (n, u) ∈ fewSteps s ↔ ∃ v, '\n' ∉ v ∧ s = v ++ u ∧ v.length = n := by
  induction s generalizing n with
  | nil =>
    rw [fewSteps, List.mem_singleton]
    constructor
    · intro h
      obtain ⟨rfl, rfl⟩ := Prod.mk.inj h
      exact ⟨[], List.not_mem_nil, rfl, rfl⟩
    · rintro ⟨v, -, hcut, rfl⟩
      obtain ⟨rfl, rfl⟩ := List.append_eq_nil_iff.mp hcut.symm
      rfl
  | cons c s ih =>
    rw [fewSteps, List.mem_cons]
    constructor
    · rintro (h | h)
      · obtain ⟨rfl, rfl⟩ := Prod.mk.inj h
        exact ⟨[], List.not_mem_nil, rfl, rfl⟩
      · split at h
        · cases h
        · next hc =>
          obtain ⟨⟨m, u'⟩, hway, ⟨⟩⟩ := List.mem_map.mp h
          obtain ⟨v, hline, rfl, rfl⟩ := ih.mp hway
          refine ⟨c :: v, fun hmem => ?_, rfl, rfl⟩
          rcases List.mem_cons.mp hmem with heq | hmem
          · exact hc heq.symm
          · exact hline hmem
    · rintro ⟨v, hline, hcut, rfl⟩
      cases v with
      | nil =>
        left
        rw [List.length_nil, hcut, List.nil_append]
      | cons d v =>
        right
        obtain ⟨rfl, rfl⟩ := List.cons.inj hcut
        have hd : c ≠ '\n' := fun heq => hline (heq ▸ List.mem_cons_self)
        rw [if_neg hd]
        have hway := ih.mpr ⟨v, fun hmem => hline (List.mem_cons_of_mem c hmem), rfl, rfl⟩
        exact List.mem_map.mpr ⟨(v.length, u), hway, rfl⟩

theorem afterWord?_eq_some {word u : List Char} :
    afterWord? word s = some u ↔ s = word ++ u := by
  constructor
  · intro h
    unfold afterWord? at h
    split at h
    · next hbegins =>
      rw [← Option.some.inj h]
      exact List.prefix_iff_eq_append.mp (List.isPrefixOf_iff_prefix.mp hbegins) |>.symm
    · cases h
  · rintro rfl
    exact afterWord?_append word u

theorem reads_nil : Reads [] s reading rest ↔ reading = [] ∧ rest = s := by
  constructor
  · rintro ⟨⟩
    exact ⟨rfl, rfl⟩
  · rintro ⟨rfl, rfl⟩
    exact .nil _

theorem reads_cons {p : Piece} :
    Reads (p :: ps) s reading rest ↔
      ∃ way ∈ steps s p, ∃ further, reading = way.1 ++ further ∧ Reads ps way.2 further rest := by
  constructor
  · rintro ⟨⟩
    exact ⟨_, ‹_›, _, rfl, ‹_›⟩
  · rintro ⟨way, hway, further, rfl, hfurther⟩
    exact .cons hway hfurther

theorem reads_lit {word : List Char} :
    Reads (.lit word :: ps) s reading rest ↔ ∃ u, s = word ++ u ∧ Reads ps u reading rest := by
  rw [reads_cons]
  constructor
  · rintro ⟨way, hway, further, rfl, hfurther⟩
    obtain ⟨u, hu, rfl⟩ := List.mem_map.mp hway
    exact ⟨u, afterWord?_eq_some.mp (Option.mem_toList.mp hu), hfurther⟩
  · rintro ⟨u, hcut, hu⟩
    have hway : (([], u) : Reading × List Char) ∈ steps s (.lit word) :=
      List.mem_map.mpr ⟨u, Option.mem_toList.mpr (afterWord?_eq_some.mpr hcut), rfl⟩
    exact ⟨([], u), hway, reading, rfl, hu⟩

theorem reads_few :
    Reads (.few :: ps) s reading rest ↔
      ∃ v u further, '\n' ∉ v ∧ s = v ++ u ∧ reading = some v.length :: further ∧
        Reads ps u further rest := by
  rw [reads_cons]
  constructor
  · rintro ⟨way, hway, further, rfl, hfurther⟩
    obtain ⟨⟨n, u⟩, hmem, rfl⟩ := List.mem_map.mp hway
    obtain ⟨v, hline, hcut, rfl⟩ := mem_fewSteps.mp hmem
    exact ⟨v, u, further, hline, hcut, rfl, hfurther⟩
  · rintro ⟨v, u, further, hline, hcut, rfl, hfurther⟩
    have hway : (([some v.length], u) : Reading × List Char) ∈ steps s .few :=
      List.mem_map.mpr ⟨(v.length, u), mem_fewSteps.mpr ⟨v, hline, hcut, rfl⟩, rfl⟩
    exact ⟨([some v.length], u), hway, further, rfl, hfurther⟩

theorem reads_fewSome :
    Reads (.fewSome :: ps) s reading rest ↔
      ∃ v u further, v ≠ [] ∧ '\n' ∉ v ∧ s = v ++ u ∧ reading = some v.length :: further ∧
        Reads ps u further rest := by
  rw [reads_cons]
  constructor
  · rintro ⟨way, hway, further, rfl, hfurther⟩
    obtain ⟨⟨n, u⟩, hmem, rfl⟩ := List.mem_map.mp hway
    obtain ⟨hfew, hpositive⟩ := List.mem_filter.mp hmem
    obtain ⟨v, hline, hcut, rfl⟩ := mem_fewSteps.mp hfew
    have hne : v ≠ [] := List.length_pos_iff.mp (of_decide_eq_true hpositive)
    exact ⟨v, u, further, hne, hline, hcut, rfl, hfurther⟩
  · rintro ⟨v, u, further, hne, hline, hcut, rfl, hfurther⟩
    have hpositive : decide (0 < v.length) = true := decide_eq_true (List.length_pos_iff.mpr hne)
    have hway : (([some v.length], u) : Reading × List Char) ∈ steps s .fewSome :=
      List.mem_map.mpr ⟨(v.length, u),
        List.mem_filter.mpr ⟨mem_fewSteps.mpr ⟨v, hline, hcut, rfl⟩, hpositive⟩, rfl⟩
    exact ⟨([some v.length], u), hway, further, rfl, hfurther⟩

theorem reads_maybe {c : Char} :
    Reads (.maybe c :: ps) s reading rest ↔
      ∃ (present : Bool) (u : List Char) (further : Reading),
        s = (if present then [c] else []) ++ u ∧
          reading = some (if present then 1 else 0) :: further ∧ Reads ps u further rest := by
  rw [reads_cons]
  have hsteps : ∀ way, way ∈ steps s (.maybe c) ↔
      (∃ u, s = c :: u ∧ way = ([some 1], u)) ∨ way = ([some 0], s) := by
    intro way
    cases s with
    | nil => simp [steps]
    | cons d s => by_cases hd : d = c <;> simp [steps, hd]
  constructor
  · rintro ⟨way, hway, further, rfl, hfurther⟩
    rcases (hsteps way).mp hway with ⟨u, rfl, rfl⟩ | rfl
    · exact ⟨true, u, further, rfl, rfl, hfurther⟩
    · exact ⟨false, s, further, rfl, rfl, hfurther⟩
  · rintro ⟨present, u, further, rfl, rfl, hfurther⟩
    cases present with
    | true => exact ⟨([some 1], u), (hsteps _).mpr (.inl ⟨u, rfl, rfl⟩), further, rfl, hfurther⟩
    | false => exact ⟨([some 0], u), (hsteps _).mpr (.inr rfl), further, rfl, hfurther⟩

theorem reads_fewThen {word : List Char} :
    Reads (.fewThen word :: ps) s reading rest ↔
      ∃ (found : Option (List Char)) (u : List Char) (further : Reading),
        (∀ v ∈ found, '\n' ∉ v) ∧ s = found.elim [] (· ++ word) ++ u ∧
          reading = found.map List.length :: further ∧ Reads ps u further rest := by
  rw [reads_cons]
  constructor
  · rintro ⟨way, hway, further, rfl, hfurther⟩
    rw [steps] at hway
    rcases List.mem_append.mp hway with hway | hway
    · obtain ⟨⟨n, u⟩, hmem, hword⟩ := List.mem_filterMap.mp hway
      obtain ⟨u', hu', rfl⟩ := Option.map_eq_some_iff.mp hword
      obtain ⟨v, hline, rfl, rfl⟩ := mem_fewSteps.mp hmem
      obtain rfl := afterWord?_eq_some.mp hu'
      refine ⟨some v, u', further, ?_, (List.append_assoc v word u').symm, rfl, hfurther⟩
      rintro _ ⟨⟩
      exact hline
    · obtain rfl := List.mem_singleton.mp hway
      exact ⟨none, s, further, fun v hv => absurd hv (Option.not_mem_none v), rfl, rfl, hfurther⟩
  · rintro ⟨found, u, further, hline, hcut, rfl, hfurther⟩
    cases found with
    | none =>
      obtain rfl : s = u := hcut
      exact ⟨([none], s), List.mem_append_right _ List.mem_cons_self, further, rfl, hfurther⟩
    | some v =>
      have hfew : (v.length, word ++ u) ∈ fewSteps s :=
        mem_fewSteps.mpr ⟨v, hline v rfl, hcut.trans (List.append_assoc v word u), rfl⟩
      have hway : (([some v.length], u) : Reading × List Char) ∈ steps s (.fewThen word) := by
        refine List.mem_append_left _ (List.mem_filterMap.mpr ⟨(v.length, word ++ u), hfew, ?_⟩)
        rw [afterWord?_append, Option.map_some]
      exact ⟨([some v.length], u), hway, further, rfl, hfurther⟩

theorem atFinish_iff : atFinish s = true ↔ s = [] ∨ s = ['\n'] := by
  unfold atFinish
  split
  · simp
  · simp
  · next hempty hline => simpa using And.intro hempty hline

theorem reads_finish :
    Reads (.finish :: ps) s reading rest ↔ (s = [] ∨ s = ['\n']) ∧ Reads ps s reading rest := by
  rw [reads_cons, steps, ← atFinish_iff]
  split
  · next h => simp [h]
  · next h => simp [h]

/-- The end of a line: a carriage return or none, and then the end of the text or a line feed
    that is its last character. -/
theorem reads_lineEnd :
    Reads [.maybe '\r', .finish] s reading rest ↔
      ∃ present : Bool, (rest = [] ∨ rest = ['\n']) ∧
        s = (if present then ['\r'] else []) ++ rest ∧
        reading = [some (if present then 1 else 0)] := by
  rw [reads_maybe]
  simp only [reads_finish, reads_nil]
  constructor
  · rintro ⟨present, _, _, rfl, rfl, hend, rfl, rfl⟩
    exact ⟨present, hend, rfl, rfl⟩
  · rintro ⟨present, hend, rfl, rfl⟩
    exact ⟨present, rest, [], rfl, rfl, hend, rfl, rfl⟩

end Cuts

end SuiteExplorer.Text.LinePattern
