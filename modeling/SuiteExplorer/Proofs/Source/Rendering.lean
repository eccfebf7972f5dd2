/-
  SuiteExplorer/Proofs/Source/Rendering.lean
  ==========================================
  **Reading undoes writing.**

  A `Layout` is a well-formed test file: a package clause, and then imports, blocks of
  imports, blank lines and test methods in any order, with names that read as names and
  with no alias bound twice.  It is written one row a line.  Whatever it holds, reading
  its text gives back the package with its line, exactly the imports, and exactly the
  methods whose qualifier stands for an imported module (`ofText_text`).
-/
import Mathlib.Data.List.Nodup
import SuiteExplorer.Proofs.Path
import SuiteExplorer.Proofs.Text.LinePattern
import SuiteExplorer.Source.File
import SuiteExplorer.Text.Word

namespace SuiteExplorer

open Text

namespace Layout

/-! ## 1. Names -/

/-- A character that no form of a line gives a meaning of its own. -/
def isPlain (c : Char) : Bool := !isBlank c && !(['(', ')', '.', '*'].contains c)

theorem isPlain_iff {c : Char} :
    isPlain c = true ↔ isBlank c = false ∧ c ∉ ['(', ')', '.', '*'] := by
  rw [isPlain, Bool.and_eq_true, Bool.not_eq_true', Bool.not_eq_true', List.contains_eq_mem,
    decide_eq_false_iff_not]

/-- The numbers of the characters that are not plain. -/
def marks : List Nat :=
  [9, 10, 11, 12, 13, 28, 29, 30, 31, 32, 40, 41, 42, 46, 0x85, 0xA0, 0x1680, 0x2000, 0x2001,
    0x2002, 0x2003, 0x2004, 0x2005, 0x2006, 0x2007, 0x2008, 0x2009, 0x200A, 0x2028, 0x2029, 0x202F,
    0x205F, 0x3000]

theorem mem_marks {c : Char} (h : ¬ isPlain c = true) : c.toNat ∈ marks := by
  rw [isPlain_iff, not_and_or, Bool.not_eq_false, not_not] at h
  rcases h with hblank | hmark
  · simp only [isBlank, Bool.or_eq_true, Bool.and_eq_true, decide_eq_true_eq, beq_iff_eq] at hblank
    simp only [marks, List.mem_cons, List.not_mem_nil, or_false]
    omega
  · simp only [List.mem_cons, List.not_mem_nil, or_false] at hmark
    rcases hmark with rfl | rfl | rfl | rfl <;> decide

/-- The characters of identifiers, the letters and digits of all scripts, are plain. -/
theorem isPlain_of_isWordChar {c : Char} (h : isWordChar c = true) : isPlain c = true := by
  by_contra hplain
  have hmarks : ∀ n ∈ marks, isWordChar (Char.ofNat n) = false := by decide +kernel
  have hnot := hmarks c.toNat (mem_marks hplain)
  rw [Char.ofNat_toNat, h] at hnot
  cases hnot

/-- A name: an identifier, or anything else that reads as one. -/
structure Name where
  chars : List Char
  nonempty : chars ≠ []
  plain : ∀ c ∈ chars, isPlain c = true

/-- The end of the name of a test, after the word that all of them begin with. -/
structure Suffix where
  chars : List Char
  plain : ∀ c ∈ chars, isPlain c = true

/-- The text of a module. -/
structure ModuleText where
  chars : List Char
  quoted : ∀ c ∈ chars, c ≠ '"' ∧ c ≠ ' ' ∧ c ≠ '\n'

/-- A line with nothing to be seen on it. -/
structure BlankLine where
  chars : List Char
  blank : ∀ c ∈ chars, isBlank c = true ∧ c ≠ '\n'

/-- What follows on a line. -/
structure Tail where
  chars : List Char
  line : '\n' ∉ chars

def Name.text (a : Name) : String := String.ofList a.chars

/-- An identifier is a name. -/
def Name.ofIdentifier (chars : List Char) (hne : chars ≠ [])
    (h : chars.all isWordChar = true) : Name :=
  ⟨chars, hne, fun c hc => isPlain_of_isWordChar (List.all_eq_true.mp h c hc)⟩

/-! ## 2. Rows -/

/-- An import of a module, with an alias or without. -/
structure ImportSpec where
  alias? : Option Name := none
  path : ModuleText

def ImportSpec.chars (i : ImportSpec) : List Char :=
  match i.alias? with
  | none => ['"'] ++ (i.path.chars ++ ['"'])
  | some a => a.chars ++ ' ' :: (['"'] ++ (i.path.chars ++ ['"']))

/-- A star, or none. -/
def star (b : Bool) : List Char := if b then ['*'] else []

/-- A test method: `func (self *receiver) TestEnding(argument *qualifier.type) {`. -/
structure Method where
  self : Name
  receiver : Name
  ofPointer : Bool := true
  ending : Suffix
  argument : Name
  toPointer : Bool := true
  qualifier : Name
  type : Name
  tail : Tail

def Method.signature (m : Method) : List Char :=
  "func (".toList ++ (m.self.chars ++ ([' '] ++ (star m.ofPointer ++ (m.receiver.chars ++
    (") Test".toList ++ (m.ending.chars ++ (['('] ++ (m.argument.chars ++ ([' '] ++
      (star m.toPointer ++ (m.qualifier.chars ++ '.' :: (m.type.chars ++ ") \x7b".toList))))))))))))

/-- One line after the package clause. -/
inductive Row where
  | blank (b : BlankLine)
  | single (i : ImportSpec)
  | opening
  | entry (i : ImportSpec)
  | closing
  | method (m : Method)

def Row.chars : Row → Line
  | blank b => b.chars
  | single i => "import ".toList ++ i.chars
  | opening => "import (".toList
  | entry i => '\t' :: i.chars
  | closing => [')']
  | method m => m.signature ++ m.tail.chars

theorem Row.chars_method (m : Method) : (Row.method m).chars = m.signature ++ m.tail.chars := rfl

/-- A line of a block. -/
inductive BlockRow where
  | blank (b : BlankLine)
  | entry (i : ImportSpec)

def BlockRow.row : BlockRow → Row
  | blank b => .blank b
  | entry i => .entry i

inductive Item where
  | blank (b : BlankLine)
  | single (i : ImportSpec)
  | block (rows : List BlockRow)
  | method (m : Method)

def Item.rows : Item → List Row
  | blank b => [.blank b]
  | single i => [.single i]
  | block rows => .opening :: (rows.map (·.row) ++ [.closing])
  | method m => [.method m]

def Row.alias? : Row → Option Name
  | single i | entry i => i.alias?
  | _ => none

/-- The import that a row names, if it is the row of a line with this number. -/
def Row.import? (n : Nat) : Row → Option Import
  | single i | entry i =>
    some { modulePath := String.ofList i.path.chars, line := n, localName := i.alias?.map (·.text) }
  | _ => none

end Layout

/-! ## 3. Files -/

open Layout in
/-- A well-formed test file.  No two of its imports have one alias. -/
structure Layout where
  leading : List BlankLine := []
  package : Name
  items : List Item
  distinct : ((items.flatMap (·.rows)).filterMap (·.alias?)).Nodup

namespace Layout

def rows (f : Layout) : List Row := f.items.flatMap (·.rows)

def lines (f : Layout) : List Line :=
  f.leading.map (·.chars) ++ ("package ".toList ++ f.package.chars) :: f.rows.map (·.chars)

def text (f : Layout) : String := String.ofList (['\n'].intercalate f.lines)

/-- The rows with the numbers of their lines. -/
def numbered (f : Layout) : List (Row × Nat) := f.rows.zipIdx (f.leading.length + 1)

def imports (f : Layout) : List Import := f.numbered.filterMap fun r => r.1.import? r.2

/-- The module that a qualifier stands for: that of the import with this alias, and if there is
    none the library with this name, if it is imported without alias. -/
def module? (f : Layout) (q : Name) : Option String :=
  match f.imports.find? (·.localName = some q.text) with
  | some i => some i.modulePath
  | none =>
    let known := LibraryKind.all.find? fun kind => kind.packageName = q.text &&
      f.imports.any fun i => i.modulePath = kind.modulePath && i.localName = none
    known.map (·.modulePath)

/-- The test method that a row declares. -/
def declaration? (f : Layout) (n : Nat) : Row → Option Declaration
  | .method m => (f.module? m.qualifier).map fun path =>
    { kind := LibraryKind.ofModulePath? path
      name := String.ofList ("Test".toList ++ m.ending.chars)
      line := n
      span := ⟨n, 0, n, m.signature.length⟩
      receiver := some m.receiver.text
      argument := some ⟨path, m.type.text⟩ }
  | _ => none

def declarations (f : Layout) : List Declaration :=
  f.numbered.filterMap fun r => f.declaration? r.2 r.1

/-! ## 4. How each row is read -/

section Rows

open LinePattern

theorem Name.not_mem (a : Name) {c : Char} (hc : isPlain c = false) : c ∉ a.chars := by
  intro hmem
  rw [a.plain c hmem] at hc
  cases hc

theorem Suffix.not_mem (e : Suffix) {c : Char} (hc : isPlain c = false) : c ∉ e.chars := by
  intro hmem
  rw [e.plain c hmem] at hc
  cases hc

theorem ModuleText.not_mem (p : ModuleText) : '"' ∉ p.chars ∧ ' ' ∉ p.chars ∧ '\n' ∉ p.chars :=
  ⟨fun h => (p.quoted _ h).1 rfl, fun h => (p.quoted _ h).2.1 rfl, fun h => (p.quoted _ h).2.2 rfl⟩

theorem BlankLine.not_mem (b : BlankLine) {c : Char} (hc : isBlank c = false) : c ∉ b.chars := by
  intro hmem
  rw [(b.blank c hmem).1] at hc
  cases hc

theorem Name.head?_append (a : Name) (s : List Char) :
    ∃ c, (a.chars ++ s).head? = some c ∧ isPlain c = true := by
  cases hchars : a.chars with
  | nil => exact absurd hchars a.nonempty
  | cons c rest => exact ⟨c, rfl, a.plain c (hchars ▸ List.mem_cons_self)⟩

theorem Name.head?_ne (a : Name) {c : Char} (hc : isPlain c = false) (s : List Char) :
    (a.chars ++ s).head? ≠ some c := by
  obtain ⟨d, hhead, hplain⟩ := a.head?_append s
  intro heq
  rw [hhead, Option.some.injEq] at heq
  rw [heq, hc] at hplain
  cases hplain

/-- The part of a form that single imports and entries of blocks have in common. -/
def specPattern : LinePattern :=
  [.fewThen [' '], .lit ['"'], .few, .lit ['"'], .maybe '\r', .finish]

theorem taken?_path (p : ModuleText) :
    taken? [.lit ['"'], .few, .lit ['"'], .maybe '\r', .finish] (['"'] ++ (p.chars ++ ['"'])) =
      some ([some p.chars, some []], []) := by
  rw [taken?_lit]
  exact taken?_few_lit [] p.not_mem.2.2 p.not_mem.1 taken?_lineEnd

theorem taken?_spec (i : ImportSpec) :
    taken? specPattern i.chars =
      some ([i.alias?.map (·.chars), some i.path.chars, some []], []) := by
  unfold ImportSpec.chars specPattern
  cases i.alias? with
  | none =>
    have hspace : ' ' ∉ ['"'] ++ (i.path.chars ++ ['"']) := by simp [i.path.not_mem.2.1]
    rw [taken?_fewThen_absent hspace, taken?_path]
    rfl
  | some a =>
    have hread := taken?_fewThen (v := a.chars) (c := ' ') (a.not_mem (by decide))
      (a.not_mem (by decide)) (taken?_path i.path)
    exact hread

/-- An import as it is read, its line being given. -/
theorem entry_eq (n : Nat) (i : ImportSpec) :
    Imports.entry n (i.alias?.map (·.chars)) i.path.chars =
      { modulePath := String.ofList i.path.chars
        line := n
        localName := i.alias?.map (·.text) } := by
  rw [Imports.entry]
  congr 1
  cases i.alias? with
  | none => rfl
  | some a =>
    have hne : (!a.chars.isEmpty) = true := by simp [a.nonempty]
    rw [Option.map_some, Option.filter_some, if_pos hne]
    rfl

theorem single?_single (n : Nat) (i : ImportSpec) :
    Imports.single? n (Row.single i).chars = (Row.single i).import? n := by
  have htaken : taken? Imports.singlePattern (Row.single i).chars =
      some ([i.alias?.map (·.chars), some i.path.chars, some []], []) :=
    (taken?_lit _ _ _).trans (taken?_spec i)
  rw [Imports.single?, match?_eq, htaken]
  exact congrArg some (entry_eq n i)

theorem memberOfBlock?_entry (n : Nat) (i : ImportSpec) :
    Imports.memberOfBlock? n (Row.entry i).chars = (Row.entry i).import? n := by
  have hhead : ∀ c, i.chars.head? = some c → isBlank c = false := by
    intro c hc
    unfold ImportSpec.chars at hc
    cases halias : i.alias? with
    | none =>
      rw [halias] at hc
      rw [← Option.some.inj hc]
      decide
    | some a =>
      rw [halias] at hc
      obtain ⟨d, hd, hplain⟩ := a.head?_append (' ' :: (['"'] ++ (i.path.chars ++ ['"'])))
      rw [← Option.some.inj (hd.symm.trans hc)]
      exact (isPlain_iff.mp hplain).1
  have htaken : taken? Imports.entryPattern (Row.entry i).chars =
      some ([some ['\t'], i.alias?.map (·.chars), some i.path.chars, some []], []) :=
    taken?_blanks (v := ['\t']) (List.all_eq_true.mp (by decide)) hhead (taken?_spec i)
  rw [Imports.memberOfBlock?, match?_eq, htaken]
  exact congrArg some (entry_eq n i)

theorem memberOfBlock?_blank (n : Nat) (b : BlankLine) :
    Imports.memberOfBlock? n (Row.blank b).chars = none := by
  have hquote : Piece.lit ['"'] ∈ Imports.entryPattern := by simp [Imports.entryPattern]
  have hnone : '"' ∉ b.chars := b.not_mem (by decide)
  have htaken : taken? Imports.entryPattern (Row.blank b).chars = none :=
    taken?_eq_none_of_not_mem hquote List.mem_cons_self hnone
  rw [Imports.memberOfBlock?, match?_eq, htaken, Option.map_none, Option.bind_none]

theorem head?_of_begins {c : Char} {w s : List Char} (h : c :: w <+: s) : s.head? = some c := by
  obtain ⟨rest, rfl⟩ := h
  rfl

theorem BlankLine.head?_ne (b : BlankLine) {c : Char} (hc : isBlank c = false) :
    b.chars.head? ≠ some c :=
  fun h => b.not_mem hc (List.mem_of_head? h)

/-- The character by which a row is told apart from others. -/
def Row.start? : Row → Option Char
  | blank _ => none
  | single _ | opening => some 'i'
  | entry _ => some '\t'
  | closing => some ')'
  | method _ => some 'f'

theorem Row.head?_ne {r : Row} {c : Char} (hstart : r.start? ≠ some c) (hc : isBlank c = false) :
    r.chars.head? ≠ some c := by
  cases r with
  | blank b => exact b.head?_ne hc
  | _ => exact hstart

theorem single?_eq_none {n : Nat} {line : Line} (h : line.head? ≠ some 'i') :
    Imports.single? n line = none := by
  have htaken : taken? Imports.singlePattern line = none :=
    taken?_lit_eq_none fun hbegins => h (head?_of_begins hbegins)
  rw [Imports.single?, match?_eq, htaken, Option.map_none, Option.bind_none]

theorem opens_eq_false {line : Line} (h : line.head? ≠ some 'i') : Imports.opens line = false := by
  have htaken : taken? Imports.openingPattern line = none :=
    taken?_lit_eq_none fun hbegins => h (head?_of_begins hbegins)
  rw [Imports.opens, accepts_eq, htaken, Option.isSome_none]

theorem closes_eq_false {line : Line} (h : line.head? ≠ some ')') :
    Imports.closes line = false := by
  have htaken : taken? Imports.closingPattern line = none :=
    taken?_lit_eq_none fun hbegins => h (head?_of_begins hbegins)
  rw [Imports.closes, accepts_eq, htaken, Option.isSome_none]

theorem ofLine?_eq_none {line : Line} (h : line.head? ≠ some 'f') :
    Signature.ofLine? line = none := by
  have htaken : taken? Signature.pattern line = none :=
    taken?_lit_eq_none fun hbegins => h (head?_of_begins hbegins)
  rw [Signature.ofLine?, match?_eq, htaken, Option.map_none, Option.bind_none]

theorem single?_opening (n : Nat) : Imports.single? n Row.opening.chars = none := by
  have hquote : Piece.lit ['"'] ∈ Imports.singlePattern := by simp [Imports.singlePattern]
  have hnone : '"' ∉ Row.opening.chars := by decide
  have htaken : taken? Imports.singlePattern Row.opening.chars = none :=
    taken?_eq_none_of_not_mem hquote List.mem_cons_self hnone
  rw [Imports.single?, match?_eq, htaken, Option.map_none, Option.bind_none]

theorem opens_opening : Imports.opens Row.opening.chars = true := by decide

theorem closes_closing : Imports.closes Row.closing.chars = true := by decide

/-! ### 4.1 Signatures -/

/-- The signature of a method, as it is to be read. -/
def Method.read (m : Method) : Signature where
  receiver := m.receiver.text
  name := String.ofList ("Test".toList ++ m.ending.chars)
  qualifier := some m.qualifier.text
  argument := m.type.text
  width := m.signature.length

theorem Method.chars_eq (m : Method) : (Row.method m).chars =
    "func (".toList ++ (m.self.chars ++ ([' '] ++ (star m.ofPointer ++ (m.receiver.chars ++
      (") Test".toList ++ (m.ending.chars ++ (['('] ++ (m.argument.chars ++ ([' '] ++
        (star m.toPointer ++ (m.qualifier.chars ++ '.' :: (m.type.chars ++
          (") \x7b".toList ++ m.tail.chars))))))))))))) := by
  unfold Row.chars Method.signature
  -- what the words are plays no part
  generalize "func (".toList = opening
  generalize ") Test".toList = name
  generalize ") \x7b".toList = last
  simp only [List.append_assoc, List.cons_append]

theorem taken?_signature (m : Method) :
    taken? Signature.pattern (Row.method m).chars =
      some ([some m.self.chars, some (star m.ofPointer), some m.receiver.chars,
        some m.ending.chars, some m.argument.chars, some (star m.toPointer),
        some m.qualifier.chars, some m.type.chars], m.tail.chars) := by
  have hline : ∀ a : Name, '\n' ∉ a.chars := fun a => a.not_mem (by decide)
  have hstop : ∀ a : Name, ')' ∉ a.chars := fun a => a.not_mem (by decide)
  have hdot : ∀ a : Name, '.' ∉ a.chars := fun a => a.not_mem (by decide)
  have hspace : ∀ a : Name, ' ' ∉ a.chars := fun a => a.not_mem (by decide)
  have hstar : ∀ (a : Name) (s : List Char), (a.chars ++ s).head? ≠ some '*' :=
    fun a => a.head?_ne (by decide)
  -- from the last piece of the pattern to the first
  have hend : taken? [] m.tail.chars = some ([], m.tail.chars) := rfl
  have htype := taken?_few_lit " \x7b".toList (hline m.type) (hstop m.type) hend
  have hqualifier := taken?_fewThen (hline m.qualifier) (hdot m.qualifier) htype
  have hpointer := taken?_maybe m.toPointer (hstar m.qualifier _) hqualifier
  have hargument := taken?_few_lit [] (hline m.argument) (hspace m.argument) hpointer
  have hopen : '\n' ∉ m.ending.chars ∧ '(' ∉ m.ending.chars :=
    ⟨m.ending.not_mem (by decide), m.ending.not_mem (by decide)⟩
  have hending := taken?_few_lit [] hopen.1 hopen.2 hargument
  have hreceiver := taken?_few_lit " Test".toList (hline m.receiver) (hstop m.receiver) hending
  have hofPointer := taken?_maybe m.ofPointer (hstar m.receiver _) hreceiver
  have hself := taken?_few_lit [] (hline m.self) (hspace m.self) hofPointer
  rw [Method.chars_eq]
  exact (taken?_lit _ _ _).trans hself

theorem ofLine?_method (m : Method) : Signature.ofLine? (Row.method m).chars = some m.read := by
  rw [Signature.ofLine?, match?_eq, taken?_signature]
  have hwidth : (Row.method m).chars.length - m.tail.chars.length = m.signature.length := by
    rw [Row.chars_method, List.length_append, Nat.add_sub_cancel]
  simp only [Option.map_some, Option.bind_some, hwidth, Method.read, Name.text]

end Rows

/-! ## 5. How the imports are read -/

section Imports

variable {n : Nat} {line : Line} {rest : List Line}

theorem scan_of_other {r : Row} (h : r.start? ≠ some 'i') :
    Imports.scan false n (r.chars :: rest) = Imports.scan false (n + 1) rest := by
  have hhead : r.chars.head? ≠ some 'i' := Row.head?_ne h (by decide)
  rw [Imports.scan, if_neg Bool.false_ne_true, single?_eq_none hhead, opens_eq_false hhead]
  rfl

theorem scan_of_single {i : Import} (h : Imports.single? n line = some i) :
    Imports.scan false n (line :: rest) = i :: Imports.scan false (n + 1) rest := by
  rw [Imports.scan, if_neg Bool.false_ne_true, h]

theorem scan_of_opening (h : rest.any Imports.closes = true) :
    Imports.scan false n (Row.opening.chars :: rest) = Imports.scan true (n + 1) rest := by
  rw [Imports.scan, if_neg Bool.false_ne_true, single?_opening, opens_opening, h]
  rfl

/-- A block is read up to its closing row. -/
theorem scan_block (rows : List BlockRow) (after : List Row) (n : Nat) :
    Imports.scan true n ((rows.map (·.row) ++ .closing :: after).map (·.chars)) =
      (((rows.map (·.row)).zipIdx n).filterMap fun r => r.1.import? r.2) ++
        Imports.scan false (n + rows.length + 1) (after.map (·.chars)) := by
  induction rows generalizing n with
  | nil =>
    rw [List.map_nil, List.nil_append, List.map_cons, Imports.scan, if_pos rfl, closes_closing,
      if_pos rfl]
    rfl
  | cons row rows ih =>
    have hcount : n + (row :: rows).length + 1 = n + 1 + rows.length + 1 := by
      rw [List.length_cons]
      omega
    rw [List.map_cons, List.cons_append, List.map_cons, Imports.scan, if_pos rfl, ih (n + 1), hcount,
      List.zipIdx_cons, List.filterMap_cons, ← List.append_assoc]
    cases row with
    | blank b =>
      have hcloses : Imports.closes (BlockRow.blank b).row.chars = false :=
        closes_eq_false (Row.head?_ne (by simp [BlockRow.row, Row.start?]) (by decide))
      have hmember : Imports.memberOfBlock? n (BlockRow.blank b).row.chars = none :=
        memberOfBlock?_blank n b
      rw [hcloses, if_neg Bool.false_ne_true, hmember]
      rfl
    | entry i =>
      have hcloses : Imports.closes (BlockRow.entry i).row.chars = false :=
        closes_eq_false (Row.head?_ne (by simp [BlockRow.row, Row.start?]) (by decide))
      have hmember : Imports.memberOfBlock? n (BlockRow.entry i).row.chars =
          (Row.entry i).import? n := memberOfBlock?_entry n i
      rw [hcloses, if_neg Bool.false_ne_true, hmember]
      rfl

/-- **Scanning rows** finds the import of each row that names one. -/
theorem scan_items (items : List Item) (n : Nat) :
    Imports.scan false n ((items.flatMap (·.rows)).map (·.chars)) =
      ((items.flatMap (·.rows)).zipIdx n).filterMap fun r => r.1.import? r.2 := by
  induction items generalizing n with
  | nil => rfl
  | cons item items ih =>
    rw [List.flatMap_cons]
    cases item with
    | blank b =>
      rw [Item.rows, List.singleton_append, List.map_cons, scan_of_other (by simp [Row.start?]), ih,
        List.zipIdx_cons, List.filterMap_cons]
      rfl
    | single i =>
      rw [Item.rows, List.singleton_append, List.map_cons, scan_of_single (single?_single n i), ih,
        List.zipIdx_cons, List.filterMap_cons]
      rfl
    | method m =>
      rw [Item.rows, List.singleton_append, List.map_cons, scan_of_other (by simp [Row.start?]), ih,
        List.zipIdx_cons, List.filterMap_cons]
      rfl
    | block rows =>
      have hclosed : ((rows.map (·.row) ++ Row.closing :: items.flatMap (·.rows)).map
          (·.chars)).any Imports.closes = true := by
        refine List.any_eq_true.mpr ⟨Row.closing.chars, ?_, closes_closing⟩
        exact List.mem_map_of_mem (List.mem_append_right _ List.mem_cons_self)
      have hrows : (Item.block rows).rows ++ items.flatMap (·.rows) =
          Row.opening :: (rows.map (·.row) ++ Row.closing :: items.flatMap (·.rows)) := by
        simp [Item.rows]
      rw [hrows, List.map_cons, scan_of_opening hclosed, scan_block, ih, List.zipIdx_cons,
        List.zipIdx_append, List.zipIdx_cons, List.filterMap_cons, List.filterMap_append,
        List.filterMap_cons, List.length_map]
      rfl

theorem drop_lines (f : Layout) :
    f.lines.drop (f.leading.length + 1) = f.rows.map (·.chars) := by
  have hlength : f.leading.length = (f.leading.map (·.chars)).length := (List.length_map _).symm
  rw [lines, hlength, ← List.drop_drop, List.drop_left]
  rfl

theorem imports_eq (f : Layout) :
    Imports.ofLines f.lines (f.leading.length + 1) = f.imports := by
  rw [Imports.ofLines, drop_lines]
  exact scan_items f.items _

end Imports

/-! ## 6. How qualifiers are resolved -/

section Resolution

theorem Name.text_injective {a b : Name} (h : a.text = b.text) : a = b := by
  cases a
  cases b
  rw [Name.mk.injEq]
  exact String.ofList_injective h

theorem Name.isEmpty_text (a : Name) : a.text.isEmpty = false := by
  rw [← Bool.not_eq_true, String.isEmpty_iff]
  intro h
  exact a.nonempty (String.ofList_injective h)

theorem localName_import? (n : Nat) (r : Row) :
    (r.import? n).bind (·.localName) = r.alias?.map (·.text) := by
  cases r <;> rfl

/-- No two imports have one alias. -/
theorem nodup_localNames (f : Layout) : (f.imports.filterMap (·.localName)).Nodup := by
  have hnames : f.imports.filterMap (·.localName) =
      (f.rows.filterMap (·.alias?)).map (·.text) := by
    have hfirst : f.numbered.map Prod.fst = f.rows := List.zipIdx_map_fst _ _
    rw [imports, List.filterMap_filterMap, List.map_filterMap, ← hfirst, List.filterMap_map]
    exact List.filterMap_congr fun r _ => localName_import? r.2 r.1
  rw [hnames]
  exact List.Nodup.map (fun _ _ => Name.text_injective) f.distinct

/-- If no two imports have one alias, those with an alias are the first one with it. -/
theorem filter_localName {imports : List Import} (h : (imports.filterMap (·.localName)).Nodup)
    (q : String) : (imports.filter fun i => i.localName = some q) =
      (imports.find? fun i => i.localName = some q).toList := by
  induction imports with
  | nil => rfl
  | cons i imports ih =>
    by_cases hi : i.localName = some q
    · rw [List.filterMap_cons, hi] at h
      have hnone : (imports.filter fun i => i.localName = some q) = [] := by
        rw [List.filter_eq_nil_iff]
        intro j hj hjq
        rw [decide_eq_true_eq] at hjq
        exact (List.nodup_cons.mp h).1 (List.mem_filterMap.mpr ⟨j, hj, hjq⟩)
      rw [List.filter_cons_of_pos (by simpa using hi), List.find?_cons_of_pos (by simpa using hi),
        hnone]
      rfl
    · have hrest : (imports.filterMap (·.localName)).Nodup := by
        refine h.sublist ?_
        exact (List.sublist_cons_self i imports).filterMap _
      rw [List.filter_cons_of_neg (by simpa using hi), List.find?_cons_of_neg (by simpa using hi),
        ih hrest]

theorem packageName_injective {kind kind' : LibraryKind}
    (h : kind.packageName = kind'.packageName) : kind = kind' := by
  cases kind with
  | gocheck =>
    cases kind' with
    | gocheck => rfl
    | qtsuite => exact absurd h (by decide)
  | qtsuite =>
    cases kind' with
    | gocheck => exact absurd h (by decide)
    | qtsuite => rfl

theorem find?_kind (kind : LibraryKind) (p : LibraryKind → Bool) :
    (LibraryKind.all.find? fun k => k = kind && p k) = if p kind then some kind else none := by
  cases kind with
  | gocheck => cases hp : p .gocheck <;> simp [LibraryKind.all, hp]
  | qtsuite => cases hp : p .qtsuite <;> simp [LibraryKind.all, hp]

/-- **A qualifier is resolved** to the module that it stands for in the file. -/
theorem resolve_eq (f : Layout) (q : Name) :
    Declarations.resolve f.imports q.text =
      match f.module? q with
      | some path => .resolved path
      | none => .unknown := by
  have hfilter : (f.imports.filter fun i => i.localName = some q.text && !q.text.isEmpty) =
      (f.imports.find? fun i => i.localName = some q.text).toList := by
    simp only [q.isEmpty_text, Bool.not_false, Bool.and_true]
    exact filter_localName f.nodup_localNames q.text
  unfold Declarations.resolve module?
  rw [hfilter]
  cases f.imports.find? fun i => i.localName = some q.text with
  | some i => rfl
  | none =>
    dsimp only [Option.toList_none]
    cases hkind : LibraryKind.ofPackageName? q.text with
    | none =>
      have hnone : (LibraryKind.all.find? fun kind => kind.packageName = q.text &&
          f.imports.any fun i => i.modulePath = kind.modulePath && i.localName = none) = none := by
        rw [List.find?_eq_none]
        intro kind hmem hboth
        exact List.find?_eq_none.mp hkind kind hmem (Bool.and_eq_true_iff.mp hboth).1
      rw [hnone]
      rfl
    | some kind =>
      have hname : kind.packageName = q.text := by simpa using List.find?_some hkind
      have hiff : ∀ kind' : LibraryKind, kind'.packageName = q.text ↔ kind' = kind :=
        fun kind' => ⟨fun h => packageName_injective (h.trans hname.symm), fun h => h ▸ hname⟩
      simp only [hiff, find?_kind]
      split
      · rfl
      · rfl

end Resolution

/-! ## 7. How the methods are read -/

/-- The signature on a row, with its line and its qualifier. -/
def Row.signature? (n : Nat) : Row → Option (Nat × Signature × String)
  | method m => some (n, m.read, m.qualifier.text)
  | _ => none

theorem qualified_rows (rows : List Row) (n : Nat) :
    Declarations.qualified n (rows.map (·.chars)) =
      (rows.zipIdx n).filterMap fun r => r.1.signature? r.2 := by
  induction rows generalizing n with
  | nil => rfl
  | cons r rows ih =>
    rw [List.map_cons, Declarations.qualified, ih, List.zipIdx_cons, List.filterMap_cons]
    cases r with
    | method m =>
      have hqualifier : m.read.qualifier = some m.qualifier.text := rfl
      rw [ofLine?_method]
      dsimp only [Row.signature?]
      rw [hqualifier]
      dsimp only
      rw [m.qualifier.isEmpty_text, if_neg Bool.false_ne_true]
    | _ =>
      rw [ofLine?_eq_none (Row.head?_ne (by simp [Row.start?]) (by decide))]
      rfl

theorem declarations_eq (f : Layout) :
    Declarations.ofLines f.imports f.lines (f.leading.length + 1) = f.declarations := by
  have hfound : Declarations.qualified (f.leading.length + 1)
      (f.lines.drop (f.leading.length + 1)) = f.numbered.filterMap fun r => r.1.signature? r.2 := by
    rw [drop_lines]
    exact qualified_rows f.rows _
  have hclear : ((f.numbered.filterMap fun r => r.1.signature? r.2).any fun s =>
      Declarations.resolve f.imports s.2.2 = .ambiguous) = false := by
    rw [List.any_eq_false]
    intro s hs
    obtain ⟨⟨r, n⟩, -, hr⟩ := List.mem_filterMap.mp hs
    cases r with
    | method m =>
      rw [← Option.some.inj hr]
      dsimp only
      rw [resolve_eq]
      cases f.module? m.qualifier <;> simp
    | _ => cases hr
  rw [Declarations.ofLines, hfound]
  dsimp only
  rw [hclear, if_neg Bool.false_ne_true, List.filterMap_filterMap, declarations]
  refine List.filterMap_congr fun r _ => ?_
  cases hr : r.1 with
  | method m =>
    rw [Row.signature?, Option.bind_some]
    dsimp only
    rw [resolve_eq, declaration?]
    cases f.module? m.qualifier <;> rfl
  | _ => rfl

/-! ## 8. Whole files -/

section Package

variable {n : Nat} {line : Line}

theorem clause?_eq_none (h : line.head? ≠ some 'p') : PackageClause.ofLine? n line = none := by
  have htaken : LinePattern.taken? PackageClause.pattern line = none :=
    LinePattern.taken?_lit_eq_none fun hbegins => h (head?_of_begins hbegins)
  rw [PackageClause.ofLine?, LinePattern.match?_eq, htaken, Option.map_none, Option.bind_none]

theorem clause?_package (n : Nat) (a : Name) :
    PackageClause.ofLine? n ("package ".toList ++ a.chars) = some ⟨a.text, n⟩ := by
  have hbefore : ∀ u, u <:+ a.chars → u ≠ [] →
      LinePattern.taken? [.maybe '\r', .finish] (u ++ []) = none := by
    intro u hu hne
    rw [List.append_nil]
    exact LinePattern.taken?_lineEnd_eq_none hne
      (fun hmem => a.not_mem (by decide) (hu.subset hmem))
      (fun hmem => a.not_mem (by decide) (hu.subset hmem))
  have hname := LinePattern.taken?_fewSome a.nonempty (a.not_mem (by decide)) hbefore
    LinePattern.taken?_lineEnd
  rw [List.append_nil] at hname
  have htaken : LinePattern.taken? PackageClause.pattern ("package ".toList ++ a.chars) =
      some ([some a.chars, some []], []) :=
    (LinePattern.taken?_lit _ _ _).trans hname
  rw [PackageClause.ofLine?, LinePattern.match?_eq, htaken]
  rfl

theorem clause_of_leading (leading : List BlankLine) (a : Name) (rest : List Line) (n : Nat) :
    PackageClause.firstFrom n
      (leading.map (·.chars) ++ ("package ".toList ++ a.chars) :: rest) =
        some ⟨a.text, n + leading.length⟩ := by
  induction leading generalizing n with
  | nil =>
    rw [List.map_nil, List.nil_append, PackageClause.firstFrom, clause?_package]
    rfl
  | cons b leading ih =>
    have hcount : n + (b :: leading).length = n + 1 + leading.length := by
      rw [List.length_cons]
      omega
    rw [List.map_cons, List.cons_append, PackageClause.firstFrom,
      clause?_eq_none (b.head?_ne (by decide)), hcount]
    exact ih (n + 1)

end Package

theorem ImportSpec.newline_not_mem (i : ImportSpec) : '\n' ∉ i.chars := by
  unfold chars
  cases i.alias? with
  | none => simp [i.path.not_mem.2.2]
  | some a => simp [i.path.not_mem.2.2, a.not_mem (show isPlain '\n' = false by decide)]

theorem star_not_mem (b : Bool) : '\n' ∉ star b := by
  cases b <;> decide

theorem Method.newline_not_mem (m : Method) : '\n' ∉ (Row.method m).chars := by
  have hname : ∀ a : Name, '\n' ∉ a.chars := fun a => a.not_mem (by decide)
  have hdot : '\n' ∉ ['.'] := by decide
  have hrest : '\n' ∉ '.' :: (m.type.chars ++ (") \x7b".toList ++ m.tail.chars)) :=
    List.not_mem_append hdot
      (List.not_mem_append (hname m.type) (List.not_mem_append (by decide) m.tail.line))
  rw [m.chars_eq]
  refine List.not_mem_append (by decide) (List.not_mem_append (hname m.self) ?_)
  refine List.not_mem_append (by decide) (List.not_mem_append (star_not_mem _) ?_)
  refine List.not_mem_append (hname m.receiver) (List.not_mem_append (by decide) ?_)
  refine List.not_mem_append (m.ending.not_mem (by decide)) (List.not_mem_append (by decide) ?_)
  refine List.not_mem_append (hname m.argument) (List.not_mem_append (by decide) ?_)
  exact List.not_mem_append (star_not_mem _) (List.not_mem_append (hname m.qualifier) hrest)

theorem Row.newline_not_mem (r : Row) : '\n' ∉ r.chars := by
  cases r with
  | blank b => exact fun hmem => (b.blank _ hmem).2 rfl
  | single i => exact List.not_mem_append (by decide) i.newline_not_mem
  | opening => decide
  | entry i =>
    have htab : '\n' ∉ ['\t'] := by decide
    exact List.not_mem_append htab i.newline_not_mem
  | closing => decide
  | method m => exact m.newline_not_mem

theorem newline_not_mem_lines (f : Layout) : ∀ line ∈ f.lines, '\n' ∉ line := by
  intro line hline
  rcases List.mem_append.mp hline with hline | hline
  · obtain ⟨b, -, rfl⟩ := List.mem_map.mp hline
    exact fun hmem => (b.blank _ hmem).2 rfl
  · rcases List.mem_cons.mp hline with rfl | hline
    · exact List.not_mem_append (by decide) (f.package.not_mem (by decide))
    · obtain ⟨r, -, rfl⟩ := List.mem_map.mp hline
      exact r.newline_not_mem

/-- **Reading undoes writing.**  A well-formed file is read as its package with the line of its
    clause, exactly its imports in their order, and exactly its methods, in their order, whose
    qualifier stands for a module. -/
theorem ofText_text (f : Layout) :
    SourceFile.ofText f.text =
      some ⟨⟨f.package.text, f.leading.length⟩, f.imports, f.declarations⟩ := by
  have hlines : splitLines f.text.toList = f.lines := by
    rw [text, String.toList_ofList]
    exact cutAt_intercalate (by simp [lines]) f.newline_not_mem_lines
  have hclause : PackageClause.ofLines f.lines = some ⟨f.package.text, f.leading.length⟩ := by
    rw [PackageClause.ofLines, lines, clause_of_leading, Nat.zero_add]
  rw [SourceFile.ofText, hlines, SourceFile.ofLines, hclause, Option.map_some]
  dsimp only
  rw [imports_eq, declarations_eq]

/-! ### 8.1 A file -/

/-- A test of a library that has another name in its file. -/
def sample : Layout where
  package := .ofIdentifier ['p'] (by decide) (by decide)
  items := [.blank ⟨[], nofun⟩,
    .block [.entry ⟨some gc, ⟨"gopkg.in/check.v1".toList, by simp⟩⟩],
    .method
      { self := .ofIdentifier ['s'] (by decide) (by decide)
        receiver := .ofIdentifier "Suite".toList (by decide) (by decide)
        ending := ⟨['X'], List.all_eq_true.mp (by decide)⟩
        argument := .ofIdentifier ['c'] (by decide) (by decide)
        qualifier := gc
        type := .ofIdentifier ['C'] (by decide) (by decide)
        tail := ⟨['\x7d'], by decide⟩ }]
  distinct := List.nodup_singleton gc
where
  gc : Name := .ofIdentifier ['g', 'c'] (by decide) (by decide)

example : sample.text = "package p\n\nimport (\n\tgc \"gopkg.in/check.v1\"\n)\n" ++
    "func (s *Suite) TestX(c *gc.C) \x7b\x7d" := by
  decide +kernel

end Layout
end SuiteExplorer
