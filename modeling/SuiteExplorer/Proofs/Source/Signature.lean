/-
  SuiteExplorer/Proofs/Source/Signature.lean
  ==========================================
  **Which parts a line with several readings is taken apart into.**

  A line that begins with a method's signature may do so in several ways: a receiver's
  name may hold spaces, an argument's type dots, and a body on the same line brackets and
  parentheses of its own.  `Parts` is one way to write a signature, and `text` what is
  written.  A line is recognised exactly when it begins with the text of some parts, and
  what is read are the parts with the least `key`: each free text as short as those before
  it allow, a star or a qualifier taken where there can be one (`ofLine?_exact`).
-/
import SuiteExplorer.Proofs.Text.Preference
import SuiteExplorer.Source.Signature

namespace SuiteExplorer.Signature

open Text LinePattern

/-! ## 1. The parts of a signature -/

/-- What a signature is written from. -/
structure Parts where
  binder : List Char
  pointer : Bool
  receiver : List Char
  /-- the method's name after `Test` -/
  name : List Char
  argumentBinder : List Char
  argumentPointer : Bool
  qualifier : Option (List Char)
  argument : List Char
deriving DecidableEq

/-- The mark of a pointer. -/
def star (present : Bool) : List Char := if present then ['*'] else []

namespace Parts

/-- What is written, with these words at the three places where a word stands. -/
def textWith (opening closing ending : List Char) (x : Parts) : List Char :=
  opening ++ x.binder ++ [' '] ++ star x.pointer ++ x.receiver ++ closing ++ x.name ++ ['('] ++
    x.argumentBinder ++ [' '] ++ star x.argumentPointer ++ x.qualifier.elim [] (· ++ ['.']) ++
    x.argument ++ ending

def text (x : Parts) : List Char :=
  x.textWith "func (".toList ") Test".toList ") \x7b".toList

/-- The free texts, which the parts may choose. -/
def freeTexts (x : Parts) : List (List Char) :=
  [x.binder, x.receiver, x.name, x.argumentBinder, x.argument] ++ x.qualifier.toList

/-- No free text goes on in the next line. -/
def OneLine (x : Parts) : Prop := ∀ v ∈ x.freeTexts, '\n' ∉ v

instance (x : Parts) : Decidable x.OneLine := by unfold OneLine; infer_instance

/-- The line begins with these parts, on that line alone. -/
def Begins (x : Parts) (line : Line) : Prop := x.OneLine ∧ x.text <+: line

instance (x : Parts) (line : Line) : Decidable (x.Begins line) := by
  unfold Begins; infer_instance

/-- By what parts are compared, from left to right: lengths, and what is present first. -/
def key (x : Parts) : List Nat :=
  [x.binder.length, if x.pointer then 0 else 1, x.receiver.length, x.name.length,
    x.argumentBinder.length, if x.argumentPointer then 0 else 1,
    if x.qualifier.isSome then 0 else 1, (x.qualifier.getD []).length, x.argument.length]

/-- The first parts that a line begins with: all others have a greater key. -/
def First (x : Parts) (line : Line) : Prop :=
  x.Begins line ∧ ∀ y : Parts, y.Begins line → y = x ∨ x.key < y.key

/-- The signature made of these parts. -/
def signature (x : Parts) : Signature where
  receiver := String.ofList x.receiver
  name := String.ofList ("Test".toList ++ x.name)
  qualifier := x.qualifier.map String.ofList
  argument := String.ofList x.argument
  width := x.text.length

/-! ## 2. Parts as readings -/

/-- The choices that make a reading of these parts. -/
def reading (x : Parts) : Reading :=
  [some x.binder.length, some (if x.pointer then 1 else 0), some x.receiver.length,
    some x.name.length, some x.argumentBinder.length, some (if x.argumentPointer then 1 else 0),
    x.qualifier.map List.length, some x.argument.length]

/-- What a reading of these parts takes. -/
def taken (x : Parts) : List (Option (List Char)) :=
  [some x.binder, some (star x.pointer), some x.receiver, some x.name, some x.argumentBinder,
    some (star x.argumentPointer), x.qualifier, some x.argument]

end Parts

variable {x y : Parts} {line rest : List Char} {reading : Reading}

theorem star_injective {b b' : Bool} (h : star b = star b') : b = b' := by
  cases b <;> cases b' <;> first | rfl | cases h

theorem take_length_star (b : Bool) (s : List Char) :
    (star b ++ s).take (if b then 1 else 0) = star b ∧
      (star b ++ s).drop (if b then 1 else 0) = s := by
  cases b <;> exact ⟨rfl, rfl⟩

/-- The pattern of signatures, with any words at its places. -/
def patternWith (opening closing ending : List Char) : LinePattern :=
  [.lit opening, .few, .lit [' '], .maybe '*', .few, .lit closing, .few, .lit ['('], .few,
    .lit [' '], .maybe '*', .fewThen ['.'], .few, .lit ending]

theorem reads_patternWith {opening closing ending : List Char} :
    Reads (patternWith opening closing ending) line reading rest ↔
      ∃ x : Parts, x.OneLine ∧ line = x.textWith opening closing ending ++ rest ∧
        reading = x.reading := by
  simp only [patternWith, Parts.textWith, Parts.OneLine, Parts.freeTexts, List.mem_append,
    List.mem_cons, List.not_mem_nil, or_false, Option.mem_toList, List.append_assoc]
  constructor
  · intro h
    obtain ⟨_, rfl, h₁⟩ := reads_lit.mp h
    obtain ⟨binder, _, _, hbinder, rfl, rfl, h₂⟩ := reads_few.mp h₁
    obtain ⟨_, rfl, h₃⟩ := reads_lit.mp h₂
    obtain ⟨pointer, _, _, rfl, rfl, h₄⟩ := reads_maybe.mp h₃
    obtain ⟨receiver, _, _, hreceiver, rfl, rfl, h₅⟩ := reads_few.mp h₄
    obtain ⟨_, rfl, h₆⟩ := reads_lit.mp h₅
    obtain ⟨name, _, _, hname, rfl, rfl, h₇⟩ := reads_few.mp h₆
    obtain ⟨_, rfl, h₈⟩ := reads_lit.mp h₇
    obtain ⟨argumentBinder, _, _, hargumentBinder, rfl, rfl, h₉⟩ := reads_few.mp h₈
    obtain ⟨_, rfl, h₁₀⟩ := reads_lit.mp h₉
    obtain ⟨argumentPointer, _, _, rfl, rfl, h₁₁⟩ := reads_maybe.mp h₁₀
    obtain ⟨qualifier, _, _, hqualifier, rfl, rfl, h₁₂⟩ := reads_fewThen.mp h₁₁
    obtain ⟨argument, _, _, hargument, rfl, rfl, h₁₃⟩ := reads_few.mp h₁₂
    obtain ⟨_, rfl, h₁₄⟩ := reads_lit.mp h₁₃
    obtain ⟨rfl, rfl⟩ := reads_nil.mp h₁₄
    refine ⟨⟨binder, pointer, receiver, name, argumentBinder, argumentPointer, qualifier,
      argument⟩, ?_, rfl, rfl⟩
    rintro v ((rfl | rfl | rfl | rfl | rfl) | hv)
    exacts [hbinder, hreceiver, hname, hargumentBinder, hargument, hqualifier v hv]
  · rintro ⟨x, hline, rfl, rfl⟩
    refine reads_lit.mpr ⟨_, rfl, ?_⟩
    refine reads_few.mpr ⟨x.binder, _, _, hline _ (by simp), rfl, rfl, ?_⟩
    refine reads_lit.mpr ⟨_, rfl, ?_⟩
    refine reads_maybe.mpr ⟨x.pointer, _, _, rfl, rfl, ?_⟩
    refine reads_few.mpr ⟨x.receiver, _, _, hline _ (by simp), rfl, rfl, ?_⟩
    refine reads_lit.mpr ⟨_, rfl, ?_⟩
    refine reads_few.mpr ⟨x.name, _, _, hline _ (by simp), rfl, rfl, ?_⟩
    refine reads_lit.mpr ⟨_, rfl, ?_⟩
    refine reads_few.mpr ⟨x.argumentBinder, _, _, hline _ (by simp), rfl, rfl, ?_⟩
    refine reads_lit.mpr ⟨_, rfl, ?_⟩
    refine reads_maybe.mpr ⟨x.argumentPointer, _, _, rfl, rfl, ?_⟩
    refine reads_fewThen.mpr ⟨x.qualifier, _, _, fun v hv => hline v (.inr hv), rfl, rfl, ?_⟩
    refine reads_few.mpr ⟨x.argument, _, _, hline _ (by simp), rfl, rfl, ?_⟩
    exact reads_lit.mpr ⟨_, rfl, reads_nil.mpr ⟨rfl, rfl⟩⟩

/-- Every reading of a line cuts its beginning into parts. -/
theorem reads_pattern :
    Reads pattern line reading rest ↔
      ∃ x : Parts, x.OneLine ∧ line = x.text ++ rest ∧ reading = x.reading :=
  reads_patternWith

theorem texts_patternWith (opening closing ending : List Char) (x : Parts) (rest : List Char) :
    texts (patternWith opening closing ending) x.reading
      (x.textWith opening closing ending ++ rest) = (x.taken, rest) := by
  obtain ⟨binder, pointer, receiver, name, argumentBinder, argumentPointer, qualifier, argument⟩ := x
  cases qualifier with
  | none =>
    simp only [patternWith, Parts.textWith, Parts.reading, Parts.taken, texts, List.append_assoc,
      List.drop_left, List.take_left, take_length_star, Option.map_none, Option.elim_none,
      List.nil_append]
  | some q =>
    have hdrop : ∀ s : List Char, (q ++ (['.'] ++ s)).drop (q.length + ['.'].length) = s :=
      fun s => by rw [← List.drop_drop, List.drop_left, List.drop_left]
    simp only [patternWith, Parts.textWith, Parts.reading, Parts.taken, texts, List.append_assoc,
      List.drop_left, List.take_left, take_length_star, Option.map_some, Option.elim_some, hdrop]

/-- A reading of parts takes those parts. -/
theorem texts_reading (x : Parts) (rest : List Char) :
    texts pattern x.reading (x.text ++ rest) = (x.taken, rest) :=
  texts_patternWith _ _ _ x rest

/-- Parts are known from what is taken. -/
theorem taken_injective (h : x.taken = y.taken) : x = y := by
  obtain ⟨binder, pointer, receiver, name, argumentBinder, argumentPointer, qualifier, argument⟩ := x
  obtain ⟨binder', pointer', receiver', name', argumentBinder', argumentPointer', qualifier',
    argument'⟩ := y
  simp only [Parts.taken, List.cons.injEq, Option.some.injEq, and_true] at h
  obtain ⟨rfl, hpointer, rfl, rfl, rfl, hargumentPointer, rfl, rfl⟩ := h
  rw [star_injective hpointer, star_injective hargumentPointer]

/-- A line has at most one way to be cut for a reading. -/
theorem eq_of_reading_eq (hx : x.text <+: line) (hy : y.text <+: line)
    (h : x.reading = y.reading) : x = y := by
  obtain ⟨rest, rfl⟩ := hx
  obtain ⟨rest', hcut⟩ := hy
  have htexts := texts_reading y rest'
  rw [hcut, ← h, texts_reading] at htexts
  exact taken_injective (Prod.mk.inj htexts).1

/-! ## 3. The order of parts is the order of readings -/

theorem map_cast_lt_iff {xs ys : List Nat} :
    xs.map Int.ofNat < ys.map Int.ofNat ↔ xs < ys := by
  induction xs generalizing ys with
  | nil => cases ys <;> simp
  | cons x xs ih =>
    cases ys with
    | nil => simp
    | cons y ys =>
      rw [List.map_cons, List.map_cons, List.cons_lt_cons_iff, List.cons_lt_cons_iff, ih,
        Int.ofNat_eq_natCast, Int.ofNat_eq_natCast, Int.ofNat_lt, Int.ofNat_inj]

/-- The key of parts is the cost of reading them. -/
theorem cost_reading (x : Parts) : cost pattern x.reading = x.key.map Int.ofNat := by
  obtain ⟨binder, pointer, receiver, name, argumentBinder, argumentPointer, qualifier, argument⟩ := x
  cases pointer <;> cases argumentPointer <;> cases qualifier <;> rfl

theorem cost_lt_iff : cost pattern x.reading < cost pattern y.reading ↔ x.key < y.key := by
  rw [cost_reading, cost_reading, map_cast_lt_iff]

/-- **The search stops at the first parts.** -/
theorem first_pattern_iff :
    first pattern line = some reading ↔ ∃ x : Parts, x.First line ∧ reading = x.reading := by
  rw [first_eq_some_iff]
  constructor
  · rintro ⟨⟨rest, hreads⟩, hleast⟩
    obtain ⟨x, hline, rfl, rfl⟩ := reads_pattern.mp hreads
    refine ⟨x, ⟨⟨hline, List.prefix_append _ _⟩, fun y hy => ?_⟩, rfl⟩
    obtain ⟨rest', hcut⟩ := hy.2
    rcases hleast _ _ (reads_pattern.mpr ⟨y, hy.1, hcut.symm, rfl⟩) with heq | hlt
    · exact .inl (eq_of_reading_eq hy.2 (List.prefix_append _ _) heq)
    · exact .inr (cost_lt_iff.mp hlt)
  · rintro ⟨x, ⟨hbegins, hleast⟩, rfl⟩
    obtain ⟨rest, hcut⟩ := hbegins.2
    refine ⟨⟨rest, reads_pattern.mpr ⟨x, hbegins.1, hcut.symm, rfl⟩⟩, fun other rest' hother => ?_⟩
    obtain ⟨y, hline, hcut', rfl⟩ := reads_pattern.mp hother
    rcases hleast y ⟨hline, ⟨rest', hcut'.symm⟩⟩ with rfl | hlt
    · exact .inl rfl
    · exact .inr (cost_lt_iff.mpr hlt)

/-! ## 4. What is read -/

theorem ofLine?_of_first (hx : x.text <+: line) (h : first pattern line = some x.reading) :
    ofLine? line = some x.signature := by
  obtain ⟨rest, rfl⟩ := hx
  have hlength : (x.text ++ rest).length - rest.length = x.text.length := by
    rw [List.length_append, Nat.add_sub_cancel]
  rw [ofLine?, match?, read?_eq_first, h, Option.map_some, texts_reading, Option.bind_some]
  simp only [Parts.taken, hlength]
  rfl

theorem ofLine?_eq_some_iff {sig : Signature} :
    ofLine? line = some sig ↔ ∃ x : Parts, x.First line ∧ sig = x.signature := by
  constructor
  · intro h
    cases hfirst : first pattern line with
    | none =>
      rw [ofLine?, match?, read?_eq_first, hfirst] at h
      cases h
    | some reading =>
      obtain ⟨x, hx, rfl⟩ := first_pattern_iff.mp hfirst
      rw [ofLine?_of_first hx.1.2 hfirst] at h
      exact ⟨x, hx, (Option.some.inj h).symm⟩
  · rintro ⟨x, hx, rfl⟩
    exact ofLine?_of_first hx.1.2 (first_pattern_iff.mpr ⟨x, hx, rfl⟩)

theorem isSome_ofLine?_iff : (ofLine? line).isSome ↔ ∃ x : Parts, x.Begins line := by
  rw [Option.isSome_iff_exists]
  constructor
  · rintro ⟨sig, hsig⟩
    obtain ⟨x, hx, -⟩ := ofLine?_eq_some_iff.mp hsig
    exact ⟨x, hx.1⟩
  · rintro ⟨x, hline, rest, hcut⟩
    obtain ⟨reading, hfirst, -⟩ := (reads_pattern.mpr ⟨x, hline, hcut.symm, rfl⟩).first_le
    obtain ⟨y, hy, rfl⟩ := first_pattern_iff.mp hfirst
    exact ⟨y.signature, ofLine?_of_first hy.1.2 hfirst⟩

/-- The first parts of a line are also the first of what they cover alone. -/
theorem Parts.First.alone (h : x.First line) : x.First x.text :=
  ⟨⟨h.1.1, List.prefix_refl _⟩, fun y hy => h.2 y ⟨hy.1, hy.2.trans h.1.2⟩⟩

/-- **What is read of a line, exactly.**  A line is recognised if and only if it begins with
    some parts; what is read is the signature of the first of them, which covers their text;
    and that text alone is read in the same way. -/
theorem ofLine?_exact (line : Line) :
    ((ofLine? line).isSome ↔ ∃ x : Parts, x.Begins line) ∧
      (∀ sig, ofLine? line = some sig ↔ ∃ x : Parts, x.First line ∧ sig = x.signature) ∧
      ∀ x : Parts, x.First line →
        line.take x.signature.width = x.text ∧ ofLine? x.text = ofLine? line := by
  refine ⟨isSome_ofLine?_iff, fun sig => ofLine?_eq_some_iff, fun x hx => ⟨?_, ?_⟩⟩
  · exact (List.prefix_iff_eq_take.mp hx.1.2).symm
  · rw [ofLine?_eq_some_iff.mpr ⟨x, hx.alone, rfl⟩, ofLine?_eq_some_iff.mpr ⟨x, hx, rfl⟩]

/-- A line with a space, a parenthesis and dots where it has further readings. -/
def sampleLine : Line := "func (s A) B) Test(x *C) TestX(c *q.r.C) \x7b f(a.b) \x7b".toList

/-- It is recognised, and the parts that are read are cut as early as can be. -/
theorem ofLine?_exact_sampleLine :
    ∃ x : Parts, x.First sampleLine ∧ sampleLine.take x.signature.width = x.text ∧
      ofLine? x.text = ofLine? sampleLine ∧
        x.signature = ⟨"A) B", "Test", some "C) TestX(c *q", "r.C", 42⟩ := by
  have hread : ofLine? sampleLine = some ⟨"A) B", "Test", some "C) TestX(c *q", "r.C", 42⟩ := by
    decide +kernel
  obtain ⟨-, hiff, hfirst⟩ := ofLine?_exact sampleLine
  obtain ⟨x, hx, hsig⟩ := (hiff _).mp hread
  exact ⟨x, hx, (hfirst x hx).1, (hfirst x hx).2, hsig.symm⟩

end SuiteExplorer.Signature
