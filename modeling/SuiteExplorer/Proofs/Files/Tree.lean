/-
  SuiteExplorer/Proofs/Files/Tree.lean
  ====================================
  **A listing finds what lies below its root and is no directory, once.**

  In a file system whose folders do not hold a name twice, names without `..` lead
  down from folder to folder (`descend`), whatever has been passed before.  A walk
  finds exactly the entries below its start that are no directories, without entering
  links or excluded directories (`mem_walk`), and finds none of them twice
  (`nodup_walk`).  Where there are only files and folders these are the files that can
  be read (`mem_listing`).  Writing or removing one file changes what can be read there
  and nowhere else (`read?_write_of_ne`, `read?_remove_of_ne`).
-/
import Mathlib.Data.List.Nodup
import SuiteExplorer.Files.Listing
import SuiteExplorer.Proofs.Keyed
import SuiteExplorer.Proofs.Path

namespace SuiteExplorer

/-- A name that an entry of a folder may have, and that has no colon. -/
structure OrdinaryName (n : String) : Prop extends Path.ProperName n where
  not_above : n ≠ ".."
  colonless : ':' ∉ n.toList

instance (n : String) : Decidable (OrdinaryName n) :=
  decidable_of_iff (n ≠ "" ∧ n ≠ "." ∧ '/' ∉ n.toList ∧ n ≠ ".." ∧ ':' ∉ n.toList)
    ⟨fun ⟨h, h', h'', h₁, h₂⟩ => ⟨⟨h, h', h''⟩, h₁, h₂⟩,
      fun h => ⟨h.nonempty, h.not_here, h.unsplit, h.not_above, h.colonless⟩⟩

namespace FileTree

/-- There are only files and folders.  No folder has two entries with one name, and no
    entry is called like the folder above. -/
inductive Regular : FileTree → Prop
  | file (content : Bytes) : Regular (.file content)
  | folder (es : List (String × FileTree)) :
      (es.map (·.1)).Nodup → (∀ e ∈ es, e.1 ≠ "..") → (∀ e ∈ es, Regular e.2) →
        Regular (.folder es)

/-- There are only files and folders.  No folder has two entries with one name, and all
    names are ordinary. -/
inductive Ordinary : FileTree → Prop
  | file (content : Bytes) : Ordinary (.file content)
  | folder (es : List (String × FileTree)) :
      (es.map (·.1)).Nodup → (∀ e ∈ es, OrdinaryName e.1) → (∀ e ∈ es, Ordinary e.2) →
        Ordinary (.folder es)

/-- No folder has two entries with one name, and no entry is called like the folder above.
    Links and other things may be anywhere. -/
inductive Distinct : FileTree → Prop
  | file (content : Bytes) : Distinct (.file content)
  | link (target : Path) : Distinct (.link target)
  | special : Distinct .special
  | folder (es : List (String × FileTree)) :
      (es.map (·.1)).Nodup → (∀ e ∈ es, e.1 ≠ "..") → (∀ e ∈ es, Distinct e.2) →
        Distinct (.folder es)

theorem Ordinary.regular {t : FileTree} (ht : t.Ordinary) : t.Regular := by
  induction ht with
  | file content => exact .file content
  | folder es hnd hnames _ ih => exact .folder es hnd (fun e he => (hnames e he).not_above) ih

theorem Regular.distinct {t : FileTree} (ht : t.Regular) : t.Distinct := by
  induction ht with
  | file content => exact .file content
  | folder es hnd hnames _ ih => exact .folder es hnd hnames ih

/-! ## 1. Going down -/

/-- What names lead to from a folder, if none of them leads up. -/
def descend (t : FileTree) : List String → Option FileTree
  | [] => some t
  | n :: rest => (t.entry? n).bind (descend · rest)

/-- The content of the file that names lead to. -/
def contentAt (t : FileTree) (names : List String) : Option Bytes :=
  match t.descend names with
  | some (file content) => some content
  | _ => none

theorem descend_cons (t : FileTree) (n : String) (rest : List String) :
    t.descend (n :: rest) = (t.entry? n).bind (descend · rest) := rfl

/-- In a folder without double names an entry is found by its name. -/
theorem entry?_eq_some {es : List (String × FileTree)} (hnd : (es.map (·.1)).Nodup) {n : String}
    {t : FileTree} : FileTree.entry? (folder es) n = some t ↔ (n, t) ∈ es := by
  rw [FileTree.entry?, entries, Option.map_eq_some_iff]
  constructor
  · rintro ⟨⟨m, u⟩, hfind, rfl⟩
    obtain rfl : m = n := by simpa using List.find?_some hfind
    exact List.mem_of_find?_eq_some hfind
  · intro hmem
    exact ⟨(n, t), Keyed.find?_of_mem hnd hmem rfl, rfl⟩

theorem Ordinary.entry {t e : FileTree} (ht : t.Ordinary) {n : String}
    (he : t.entry? n = some e) : OrdinaryName n ∧ e.Ordinary := by
  cases ht with
  | file content => cases he
  | folder es hnd hnames hentries =>
    have hmem := (entry?_eq_some hnd).mp he
    exact ⟨hnames _ hmem, hentries _ hmem⟩

theorem Regular.entry {t e : FileTree} (ht : t.Regular) {n : String}
    (he : t.entry? n = some e) : n ≠ ".." ∧ e.Regular := by
  cases ht with
  | file content => cases he
  | folder es hnd hnames hentries =>
    have hmem := (entry?_eq_some hnd).mp he
    exact ⟨hnames _ hmem, hentries _ hmem⟩

theorem Distinct.entry {t e : FileTree} (ht : t.Distinct) {n : String}
    (he : t.entry? n = some e) : n ≠ ".." ∧ e.Distinct := by
  cases ht with
  | file content => cases he
  | link target => cases he
  | special => cases he
  | folder es hnd hnames hentries =>
    have hmem := (entry?_eq_some hnd).mp he
    exact ⟨hnames _ hmem, hentries _ hmem⟩

/-- Only a folder has entries. -/
theorem isFolder_of_entry {t e : FileTree} {n : String} (he : t.entry? n = some e) :
    t.isFolder = true := by
  cases t with
  | folder es => rfl
  | file content => cases he
  | link target => cases he
  | special => cases he

section Going

variable {top : FileTree} {links : Nat} {p q : Place} {names : List String}

/-- One name further. -/
theorem go_cons (top : FileTree) (links : Nat) (p : Place) (n : String) (rest : List String) :
    go top links p (n :: rest) =
      if !p.here.isFolder then none
      else if n = ".." then go top links p.up rest
      else match p.here.entry? n with
        | none => none
        | some (link target) =>
          match links with
          | 0 => none
          | links + 1 =>
            go top links (if target.isAbsolute then { here := top } else p) (target.names ++ rest)
        | some e => go top links ⟨e, p.here :: p.above⟩ rest := by
  cases links with
  | zero => exact goWith.eq_def _ p (n :: rest)
  | succ links => exact goWith.eq_def _ p (n :: rest)

/-- **Going down without links** is going from entry to entry. -/
theorem go_of_descend (hup : ".." ∉ names) {e : FileTree} (hd : p.here.descend names = some e)
    (hlink : ∀ target, e ≠ link target) : (go top links p names).map (·.here) = some e := by
  induction names generalizing p with
  | nil =>
    cases links with
    | zero => exact hd
    | succ links => exact hd
  | cons n rest ih =>
    rw [List.mem_cons, not_or] at hup
    rw [descend_cons] at hd
    obtain ⟨d, hentry, hd⟩ := Option.bind_eq_some_iff.mp hd
    rw [go_cons, isFolder_of_entry hentry, hentry]
    simp only [Bool.not_true, Bool.false_eq_true, if_false, if_neg (Ne.symm hup.1)]
    split
    case h_1 hnone => cases hnone
    case h_2 target hsome =>
      -- nothing lies below a link
      obtain rfl := Option.some.inj hsome
      cases rest with
      | nil => exact absurd (Option.some.inj hd).symm (hlink target)
      | cons m more => cases hd
    case h_3 d' _ hsome =>
      obtain rfl := Option.some.inj hsome
      exact ih hup.2 hd

/-- Where there are only files and folders, one only goes from entry to entry. -/
theorem go_eq_descend (hregular : p.here.Regular) (hup : ".." ∉ names) :
    (go top links p names).map (·.here) = p.here.descend names := by
  induction names generalizing p with
  | nil =>
    cases links with
    | zero => rfl
    | succ links => rfl
  | cons n rest ih =>
    rw [List.mem_cons, not_or] at hup
    rw [go_cons, descend_cons, if_neg (Ne.symm hup.1)]
    cases hentry : p.here.entry? n with
    | none => split <;> rfl
    | some e =>
      have he := (hregular.entry hentry).2
      rw [isFolder_of_entry hentry, Option.bind_some]
      cases he with
      | file content => exact ih (p := ⟨_, _⟩) (.file content) hup.2
      | folder es hnd hnames hentries =>
        exact ih (p := ⟨_, _⟩) (.folder es hnd hnames hentries) hup.2

/-- **Going on from where names lead,** with the links that are left. -/
theorem go_append (top : FileTree) (links : Nat) (p : Place) (first : List String) :
    (go top links p first = none ∧ ∀ names, go top links p (first ++ names) = none) ∨
      ∃ q left, go top links p first = some q ∧
        ∀ names, go top links p (first ++ names) = go top left q names := by
  induction links using Nat.strongRecOn generalizing p first with
  | _ links outer =>
    induction first generalizing p with
    | nil =>
      refine .inr ⟨p, links, ?_, fun _ => rfl⟩
      cases links <;> rfl
    | cons n first ih =>
      simp only [List.cons_append, go_cons]
      split
      · exact .inl ⟨rfl, fun _ => rfl⟩
      · split
        · exact ih p.up
        · split
          · exact .inl ⟨rfl, fun _ => rfl⟩
          case h_2 target _ =>
            -- behind a link one goes on along its target
            cases links with
            | zero => exact .inl ⟨rfl, fun _ => rfl⟩
            | succ links =>
              simp only [← List.append_assoc]
              exact outer links (Nat.lt_succ_self links) _ (target.names ++ first)
          · exact ih _

/-! What holds of the topmost folder, and of every entry of a folder that it holds of, holds
of all that a path leads to, also of one that leads up again or to a link. -/

variable {P : FileTree → Prop}
  (hentry : ∀ {t e : FileTree} {n : String}, P t → t.entry? n = some e → P e)

include hentry

theorem go_inherits (htop : P top) (hhere : P p.here) (habove : ∀ u ∈ p.above, P u)
    (h : go top links p names = some q) : P q.here := by
  induction links using Nat.strongRecOn generalizing p names with
  | _ links outer =>
    induction names generalizing p with
    | nil =>
      have hq : q = p := by cases links <;> exact (Option.some.inj h).symm
      exact hq ▸ hhere
    | cons n rest ih =>
      rw [go_cons] at h
      split at h
      · cases h
      · split at h
        · obtain ⟨here, above⟩ := p
          cases above with
          | nil => exact ih hhere habove h
          | cons up more =>
            exact ih (habove up List.mem_cons_self)
              (fun u hu => habove u (List.mem_cons_of_mem _ hu)) h
        · cases hfound : p.here.entry? n with
          | none => rw [hfound] at h; cases h
          | some e =>
            have he := hentry hhere hfound
            have hbelow : go top links ⟨e, p.here :: p.above⟩ rest = some q → P q.here := by
              refine ih he fun u hu => ?_
              rcases List.mem_cons.mp hu with rfl | hu
              · exact hhere
              · exact habove u hu
            rw [hfound] at h
            cases e with
            | file | folder | special => exact hbelow h
            | link target =>
              cases links with
              | zero => cases h
              | succ links =>
                dsimp only at h
                split at h
                · exact outer links (Nat.lt_succ_self links) htop
                    (fun _ hu => absurd hu List.not_mem_nil) h
                · exact outer links (Nat.lt_succ_self links) hhere habove h

theorem at?_inherits {t found : FileTree} (ht : P t) {p : Path} (h : t.at? p = some found) :
    P found := by
  obtain ⟨q, hq, rfl⟩ := Option.map_eq_some_iff.mp h
  exact go_inherits hentry ht ht (fun _ hu => absurd hu List.not_mem_nil) hq

end Going

theorem Ordinary.at? {t found : FileTree} (ht : t.Ordinary) {p : Path}
    (h : t.at? p = some found) : found.Ordinary :=
  at?_inherits (fun hu he => (hu.entry he).2) ht h

theorem Regular.at? {t found : FileTree} (ht : t.Regular) {p : Path}
    (h : t.at? p = some found) : found.Regular :=
  at?_inherits (fun hu he => (hu.entry he).2) ht h

theorem Distinct.at? {t found : FileTree} (ht : t.Distinct) {p : Path}
    (h : t.at? p = some found) : found.Distinct :=
  at?_inherits (fun hu he => (hu.entry he).2) ht h

theorem at?_eq_descend {t : FileTree} (ht : t.Regular) {p : Path} (h : ".." ∉ p.names) :
    t.at? p = t.descend p.names :=
  go_eq_descend (p := ⟨t, []⟩) ht h

/-- Below a root, what names lead to without links is there. -/
theorem at?_down_of_descend {t below e : FileTree} {root : Path} {names : List String}
    (hroot : t.at? root = some below) (hup : ".." ∉ names) (hd : below.descend names = some e)
    (hlink : ∀ target, e ≠ link target) : t.at? (root.down names) = some e := by
  obtain ⟨q, hq, rfl⟩ := Option.map_eq_some_iff.mp hroot
  rw [FileTree.at?, Path.down]
  rcases go_append t linkLimit ⟨t, []⟩ root.names with ⟨hnone, -⟩ | ⟨q', left, hq', hnames⟩
  · rw [hnone] at hq
    cases hq
  · obtain rfl : q' = q := Option.some.inj (hq'.symm.trans hq)
    rw [hnames]
    exact go_of_descend hup hd hlink

theorem at?_down {t : FileTree} (ht : t.Regular) (root : Path) {names : List String}
    (h : ".." ∉ names) : t.at? (root.down names) = (t.at? root).bind (descend · names) := by
  have hroot : ∀ found, t.at? root = some found → found.Regular := fun found h => ht.at? h
  rw [FileTree.at?] at hroot ⊢
  rw [FileTree.at?, Path.down]
  rcases go_append t linkLimit ⟨t, []⟩ root.names with ⟨hnone, hnames⟩ | ⟨q, left, hq, hnames⟩
  · rw [hnames, hnone]
    rfl
  · rw [hnames, hq]
    exact go_eq_descend (hroot q.here (by rw [hq]; rfl)) h

theorem read?_down {t : FileTree} (ht : t.Regular) (root : Path) {names : List String}
    (h : ".." ∉ names) : t.read? (root.down names) = (t.at? root).bind (contentAt · names) := by
  rw [read?, at?_down ht root h]
  cases t.at? root with
  | none => rfl
  | some below => rfl

/-! ## 2. Walking -/

theorem mem_filesOf {leads : List String → Bool} {n : String} {es : List (String × FileTree)} :
    n ∈ filesOf leads es ↔ ∃ e, (n, e) ∈ es ∧ e.isDirectory (leads [n]) = false := by
  rw [filesOf, List.mem_map]
  constructor
  · rintro ⟨⟨m, e⟩, hmem, rfl⟩
    rw [List.mem_filter, Bool.not_eq_true'] at hmem
    exact ⟨e, hmem⟩
  · rintro ⟨e, hmem, he⟩
    refine ⟨(n, e), ?_, rfl⟩
    rw [List.mem_filter, Bool.not_eq_true']
    exact ⟨hmem, he⟩

/-- Of the first entry of a folder, what the walk enters, before what it enters of the others. -/
theorem walkEntries_cons (prunes : String → Bool) (leads : List String → Bool) (m : String)
    (t : FileTree) (es : List (String × FileTree)) :
    walkEntries prunes leads ((m, t) :: es) =
      (if t.isFolder && !prunes m then
        [(m, (t.walk prunes fun names => leads (m :: names)).map (m :: ·))] else []) ++
          walkEntries prunes leads es := by
  cases t with
  | folder fs =>
    rw [walkEntries, isFolder]
    cases prunes m <;> rfl
  | file content => rfl
  | link target => rfl
  | special => rfl

theorem isFolder_iff {t : FileTree} : t.isFolder = true ↔ ∃ es, t = folder es := by
  cases t with
  | folder es => exact ⟨fun _ => ⟨es, rfl⟩, fun _ => rfl⟩
  | file content => exact ⟨(nomatch ·), fun ⟨_, h⟩ => nomatch h⟩
  | link target => exact ⟨(nomatch ·), fun ⟨_, h⟩ => nomatch h⟩
  | special => exact ⟨(nomatch ·), fun ⟨_, h⟩ => nomatch h⟩

theorem mem_walkEntries {prunes : String → Bool} {leads : List String → Bool} {n : String}
    {found : List (List String)} {es : List (String × FileTree)} :
    (n, found) ∈ walkEntries prunes leads es ↔ ∃ fs, (n, folder fs) ∈ es ∧ prunes n = false ∧
      found = ((folder fs).walk prunes fun names => leads (n :: names)).map (n :: ·) := by
  induction es with
  | nil => simp [walkEntries]
  | cons e es ih =>
    obtain ⟨m, t⟩ := e
    rw [walkEntries_cons, List.mem_append, ih]
    constructor
    · rintro (hfirst | ⟨fs, hmem, hrest⟩)
      · split at hfirst
        case isTrue henters =>
          rw [Bool.and_eq_true, Bool.not_eq_true'] at henters
          obtain ⟨fs, rfl⟩ := isFolder_iff.mp henters.1
          obtain ⟨rfl, rfl⟩ := Prod.mk.inj (List.mem_singleton.mp hfirst)
          exact ⟨fs, List.mem_cons_self, henters.2, rfl⟩
        case isFalse => cases hfirst
      · exact ⟨fs, List.mem_cons_of_mem _ hmem, hrest⟩
    · rintro ⟨fs, hmem, hkeep, rfl⟩
      rcases List.mem_cons.mp hmem with h | h
      · obtain ⟨rfl, rfl⟩ := Prod.mk.inj h
        refine Or.inl ?_
        rw [hkeep]
        exact List.mem_singleton.mpr rfl
      · exact Or.inr ⟨fs, h, hkeep, rfl⟩

/-- The entries of a folder that are no directories, and those below the folders in it. -/
theorem mem_walk_folder {prunes : String → Bool} {leads : List String → Bool}
    {names : List String} {es : List (String × FileTree)} :
    names ∈ (folder es).walk prunes leads ↔
      (∃ n e, names = [n] ∧ (n, e) ∈ es ∧ e.isDirectory (leads [n]) = false) ∨
      (∃ n fs rest, names = n :: rest ∧ (n, folder fs) ∈ es ∧ prunes n = false ∧
        rest ∈ (folder fs).walk prunes fun names => leads (n :: names)) := by
  rw [walk, List.mem_append, List.mem_map, List.mem_flatMap]
  refine or_congr ⟨?_, ?_⟩ ⟨?_, ?_⟩
  · rintro ⟨n, hn, rfl⟩
    obtain ⟨e, hmem, he⟩ := mem_filesOf.mp ((List.mem_mergeSort).mp hn)
    exact ⟨n, e, rfl, hmem, he⟩
  · rintro ⟨n, e, rfl, hmem, he⟩
    exact ⟨n, (List.mem_mergeSort).mpr (mem_filesOf.mpr ⟨e, hmem, he⟩), rfl⟩
  · rintro ⟨⟨n, found⟩, hmem, hnames⟩
    obtain ⟨fs, hfs, hkeep, rfl⟩ := mem_walkEntries.mp ((List.mem_mergeSort).mp hmem)
    obtain ⟨rest, hrest, rfl⟩ := List.mem_map.mp hnames
    exact ⟨n, fs, rest, rfl, hfs, hkeep, hrest⟩
  · rintro ⟨n, fs, rest, rfl, hfs, hkeep, hrest⟩
    refine ⟨(n, ((folder fs).walk prunes fun names => leads (n :: names)).map (n :: ·)), ?_,
      List.mem_map_of_mem hrest⟩
    exact (List.mem_mergeSort).mpr (mem_walkEntries.mpr ⟨fs, hfs, hkeep, rfl⟩)

theorem contentAt_cons (t : FileTree) (n : String) (rest : List String) :
    t.contentAt (n :: rest) = (t.entry? n).bind (contentAt · rest) := by
  rw [contentAt, descend_cons]
  cases t.entry? n with
  | none => rfl
  | some e => rfl

/-- There is nothing below what is no folder. -/
theorem walk_eq_nil {t : FileTree} (h : t.isFolder = false) (prunes : String → Bool)
    (leads : List String → Bool) : t.walk prunes leads = [] := by
  cases t with
  | folder es => cases h
  | file | link | special => rw [walk]; rintro _ ⟨⟩

theorem descend_eq_none {t : FileTree} (h : t.isFolder = false) {names : List String}
    (hne : names ≠ []) : t.descend names = none := by
  obtain ⟨n, rest, rfl⟩ := List.exists_cons_of_ne_nil hne
  rw [descend_cons]
  cases he : t.entry? n with
  | none => rfl
  | some e => rw [isFolder_of_entry he] at h; cases h

/-- **A walk finds the entries that are no directories,** without entering links or excluded
    directories. -/
theorem mem_walk {prunes : String → Bool} {leads : List String → Bool} {t : FileTree}
    (ht : t.Distinct) {names : List String} :
    names ∈ t.walk prunes leads ↔ names ≠ [] ∧
      (∃ e, t.descend names = some e ∧ e.isDirectory (leads names) = false) ∧
        ∀ n ∈ names.dropLast, prunes n = false := by
  have hleaf : ∀ {t : FileTree} {leads : List String → Bool} {names : List String},
      t.isFolder = false → (names ∈ t.walk prunes leads ↔ names ≠ [] ∧
        (∃ e, t.descend names = some e ∧ e.isDirectory (leads names) = false) ∧
          ∀ n ∈ names.dropLast, prunes n = false) := by
    intro t leads names ht
    rw [walk_eq_nil ht]
    refine ⟨fun h => absurd h List.not_mem_nil, ?_⟩
    rintro ⟨hne, ⟨e, he, -⟩, -⟩
    rw [descend_eq_none ht hne] at he
    cases he
  induction ht generalizing names leads with
  | file content => exact hleaf rfl
  | link target => exact hleaf rfl
  | special => exact hleaf rfl
  | folder es hnd _ _ ih =>
    rw [mem_walk_folder]
    constructor
    · rintro (⟨n, e, rfl, hmem, he⟩ | ⟨n, fs, rest, rfl, hmem, hkeep, hrest⟩)
      · rw [descend_cons, (entry?_eq_some hnd).mpr hmem]
        exact ⟨List.cons_ne_nil _ _, ⟨e, rfl, he⟩, fun m hm => absurd hm List.not_mem_nil⟩
      · obtain ⟨hne, ⟨e, he, hnot⟩, hdirs⟩ := (ih _ hmem).mp hrest
        rw [descend_cons, (entry?_eq_some hnd).mpr hmem]
        refine ⟨List.cons_ne_nil _ _, ⟨e, he, hnot⟩, fun m hm => ?_⟩
        rw [List.dropLast_cons_of_ne_nil hne] at hm
        rcases List.mem_cons.mp hm with rfl | hm
        · exact hkeep
        · exact hdirs m hm
    · rintro ⟨hne, ⟨e, he, hnot⟩, hdirs⟩
      obtain ⟨n, rest, rfl⟩ := List.exists_cons_of_ne_nil hne
      rw [descend_cons] at he
      obtain ⟨d, hentry, he⟩ := Option.bind_eq_some_iff.mp he
      have hmem := (entry?_eq_some hnd).mp hentry
      -- the entry is the one that is looked for, or a folder above it
      by_cases hrest : rest = []
      · subst hrest
        obtain rfl : d = e := Option.some.inj he
        exact Or.inl ⟨n, d, rfl, hmem, hnot⟩
      · rw [List.dropLast_cons_of_ne_nil hrest] at hdirs
        have hfolder : d.isFolder = true := by
          by_contra hd
          rw [descend_eq_none (Bool.not_eq_true _ ▸ hd) hrest] at he
          cases he
        obtain ⟨fs, rfl⟩ := isFolder_iff.mp hfolder
        refine Or.inr ⟨n, fs, rest, rfl, hmem, hdirs n List.mem_cons_self, ?_⟩
        exact (ih _ hmem).mpr ⟨hrest, ⟨e, he, hnot⟩,
          fun m hm => hdirs m (List.mem_cons_of_mem _ hm)⟩

/-! Each entry is found once. -/

theorem filesOf_sublist (leads : List String → Bool) (es : List (String × FileTree)) :
    (filesOf leads es).Sublist (es.map (·.1)) := List.filter_sublist.map _

theorem walkEntries_sublist (prunes : String → Bool) (leads : List String → Bool)
    (es : List (String × FileTree)) :
    ((walkEntries prunes leads es).map (·.1)).Sublist (es.map (·.1)) := by
  induction es with
  | nil => exact List.Sublist.refl _
  | cons e es ih =>
    obtain ⟨n, t⟩ := e
    rw [walkEntries_cons]
    split
    · exact ih.cons_cons n
    · exact ih.cons n

/-- **A walk finds nothing twice.** -/
theorem nodup_walk {prunes : String → Bool} {leads : List String → Bool} {t : FileTree}
    (ht : t.Distinct) : (t.walk prunes leads).Nodup := by
  induction ht generalizing leads with
  | file content => exact List.nodup_nil
  | link target => exact List.nodup_nil
  | special => exact List.nodup_nil
  | folder es hnd _ hdistinct ih =>
    have hfiles : ((filesOf leads es).mergeSort (· ≤ ·)).Nodup :=
      (List.mergeSort_perm _ _).nodup_iff.mpr ((filesOf_sublist leads es).nodup hnd)
    have hentries :
        (((walkEntries prunes leads es).mergeSort (fun a b => a.1 ≤ b.1)).map (·.1)).Nodup :=
      ((List.mergeSort_perm _ _).map _).nodup_iff.mpr
        ((walkEntries_sublist prunes leads es).nodup hnd)
    rw [walk, List.nodup_append]
    refine ⟨hfiles.map fun _ _ h => (List.cons.inj h).1, List.nodup_flatMap.mpr ⟨?_, ?_⟩, ?_⟩
    · rintro ⟨n, found⟩ hmem
      obtain ⟨fs, hfs, -, rfl⟩ := mem_walkEntries.mp ((List.mem_mergeSort).mp hmem)
      exact (ih _ hfs).map fun _ _ h => (List.cons.inj h).2
    · -- below different folders, names begin differently
      have hfirst : ∀ e ∈ (walkEntries prunes leads es).mergeSort (fun a b => a.1 ≤ b.1),
          ∀ names ∈ e.2, names.head? = some e.1 := by
        rintro ⟨n, found⟩ hmem names hnames
        obtain ⟨fs, -, -, rfl⟩ := mem_walkEntries.mp ((List.mem_mergeSort).mp hmem)
        obtain ⟨rest, -, rfl⟩ := List.mem_map.mp hnames
        rfl
      refine (List.pairwise_map.mp hentries).imp_of_mem fun {a b} ha hb hne names hna hnb => hne ?_
      exact Option.some.inj ((hfirst a ha names hna).symm.trans (hfirst b hb names hnb))
    · -- what lies directly in the folder is in none of its folders
      intro a ha b hb hab
      obtain ⟨n, -, rfl⟩ := List.mem_map.mp ha
      obtain ⟨⟨m, found⟩, hmem, hnames⟩ := List.mem_flatMap.mp hb
      obtain ⟨fs, hfs, -, rfl⟩ := mem_walkEntries.mp ((List.mem_mergeSort).mp hmem)
      obtain ⟨rest, hrest, rfl⟩ := List.mem_map.mp hnames
      obtain rfl : [] = rest := (List.cons.inj hab).2
      exact ((mem_walk (hdistinct _ hfs)).mp hrest).1 rfl

/-! Where there are only files and folders, a walk finds the files that can be read. -/

theorem Regular.descend {t e : FileTree} (ht : t.Regular) {names : List String}
    (h : t.descend names = some e) : ".." ∉ names ∧ e.Regular := by
  induction names generalizing t with
  | nil => exact ⟨List.not_mem_nil, Option.some.inj h ▸ ht⟩
  | cons n rest ih =>
    rw [descend_cons] at h
    obtain ⟨d, hentry, h⟩ := Option.bind_eq_some_iff.mp h
    obtain ⟨hn, hd⟩ := ht.entry hentry
    obtain ⟨hrest, he⟩ := ih hd h
    rw [List.mem_cons, not_or]
    exact ⟨⟨hn.symm, hrest⟩, he⟩

theorem Regular.isDirectory_eq {t : FileTree} (ht : t.Regular) (leads : Bool) :
    t.isDirectory leads = !t.isFile := by
  cases ht with
  | file content => rfl
  | folder es _ _ _ => rfl

/-- The names that lead to a file are those of entries. -/
theorem ordinaryName_of_contentAt {names : List String} :
    ∀ {t : FileTree}, t.Ordinary → (t.contentAt names).isSome → ∀ n ∈ names, OrdinaryName n := by
  induction names with
  | nil => exact fun _ _ _ hn => absurd hn List.not_mem_nil
  | cons n rest ih =>
    intro t ht hsome
    rw [contentAt_cons] at hsome
    cases he : t.entry? n with
    | none => rw [he] at hsome; cases hsome
    | some e =>
      rw [he, Option.bind_some] at hsome
      obtain ⟨hn, hordinary⟩ := ht.entry he
      intro m hm
      rcases List.mem_cons.mp hm with rfl | hm
      · exact hn
      · exact ih hordinary hsome m hm

/-- The path of a file that a listing of a root may reach: below the root, described by
    the pattern, and not in an excluded directory. -/
def Listable (pattern : String) (extra : List String) (names : List String) : Prop :=
  names ≠ [] ∧ ".." ∉ names ∧ Exclusion.includes pattern (Path.relative names).text ∧
    ∀ n ∈ names.dropLast, Exclusion.prunes extra n = false

/-- What names lead to below a root, without following a link on the way. -/
def below? (t : FileTree) (root : Path) (names : List String) : Option FileTree :=
  (t.at? root).bind (descend · names)

theorem Distinct.descend {t e : FileTree} (ht : t.Distinct) {names : List String}
    (h : t.descend names = some e) : ".." ∉ names := by
  induction names generalizing t with
  | nil => exact List.not_mem_nil
  | cons n rest ih =>
    rw [descend_cons] at h
    obtain ⟨d, hentry, h⟩ := Option.bind_eq_some_iff.mp h
    obtain ⟨hn, hd⟩ := ht.entry hentry
    rw [List.mem_cons, not_or]
    exact ⟨hn.symm, ih hd h⟩

/-- An entry is a directory exactly if its path leads to a folder, links followed. -/
theorem isDirectory_eq {t below e : FileTree} {root : Path} {names : List String}
    (hroot : t.at? root = some below) (hup : ".." ∉ names) (hd : below.descend names = some e) :
    e.isDirectory (t.isFolderAt (root.down names)) = t.isFolderAt (root.down names) := by
  cases e with
  | link target => rfl
  | file | folder | special =>
    rw [isFolderAt, at?_down_of_descend hroot hup hd (fun _ => FileTree.noConfusion)]
    rfl

/-- **What is listed** are the entries that a listing may reach and that are no
    directories. -/
theorem mem_listing_distinct {t : FileTree} (ht : t.Distinct) {root q : Path} {pattern : String}
    {extra : List String} :
    q ∈ t.listing root pattern extra ↔ ∃ names, q = root.down names ∧
      Listable pattern extra names ∧ (t.below? root names).isSome ∧ t.isFolderAt q = false := by
  unfold listing below?
  cases hroot : t.at? root with
  | none =>
    refine ⟨fun h => absurd h List.not_mem_nil, ?_⟩
    rintro ⟨names, -, -, hsome, -⟩
    cases hsome
  | some below =>
    have hbelow := ht.at? hroot
    simp only [List.mem_filterMap, Option.bind_some]
    constructor
    · rintro ⟨names, hwalk, hq⟩
      rw [Option.ite_none_right_eq_some, Option.some.injEq] at hq
      obtain ⟨hincludes, rfl⟩ := hq
      obtain ⟨hne, ⟨e, he, hnot⟩, hdirs⟩ := (mem_walk hbelow).mp hwalk
      have hup := hbelow.descend he
      refine ⟨names, rfl, ⟨hne, hup, hincludes, hdirs⟩, ?_, ?_⟩
      · rw [he]; rfl
      · exact (isDirectory_eq hroot hup he).symm.trans hnot
    · rintro ⟨names, rfl, ⟨hne, hup, hincludes, hdirs⟩, hsome, hnot⟩
      obtain ⟨e, he⟩ := Option.isSome_iff_exists.mp hsome
      refine ⟨names, (mem_walk hbelow).mpr ⟨hne, ⟨e, he, ?_⟩, hdirs⟩, if_pos hincludes⟩
      exact (isDirectory_eq hroot hup he).trans hnot

/-- The names lead from the root down to an entry, from folder to folder and not through a
    link. -/
structure EntryBelow (t : FileTree) (root : Path) (names : List String) : Prop where
  below : names ≠ []
  reached : (t.below? root names).isSome

/-- The entry is a file, or a link that leads to one. -/
structure FileBelow (t : FileTree) (root : Path) (names : List String) : Prop
    extends t.EntryBelow root names where
  readable : (t.read? (root.down names)).isSome

theorem EntryBelow.not_above {t : FileTree} (ht : t.Distinct) {root : Path} {names : List String}
    (h : t.EntryBelow root names) : ".." ∉ names := by
  obtain ⟨e, he⟩ := Option.isSome_iff_exists.mp h.reached
  obtain ⟨below, hroot, hd⟩ := Option.bind_eq_some_iff.mp he
  exact (ht.at? hroot).descend hd

/-- What can be read is no directory. -/
theorem FileBelow.not_folder {t : FileTree} {root : Path} {names : List String}
    (h : t.FileBelow root names) : t.isFolderAt (root.down names) = false := by
  have hread := h.readable
  rw [read?] at hread
  rw [isFolderAt]
  split at hread
  case h_1 content hcontent => rw [hcontent]; rfl
  case h_2 => cases hread

/-- What is listed, in terms of the entries below the root. -/
theorem mem_listing_iff {t : FileTree} (ht : t.Distinct) {root q : Path} {pattern : String}
    {extra : List String} :
    q ∈ t.listing root pattern extra ↔ ∃ names, q = root.down names ∧
      t.EntryBelow root names ∧ t.isFolderAt q = false ∧
        Exclusion.includes pattern (Path.relative names).text ∧
          ∀ n ∈ names.dropLast, Exclusion.prunes extra n = false := by
  rw [mem_listing_distinct ht]
  constructor
  · rintro ⟨names, rfl, ⟨hne, -, hincludes, hdirs⟩, hentry, hnot⟩
    exact ⟨names, rfl, ⟨hne, hentry⟩, hnot, hincludes, hdirs⟩
  · rintro ⟨names, rfl, hentry, hnot, hincludes, hdirs⟩
    exact ⟨names, rfl, ⟨hentry.below, hentry.not_above ht, hincludes, hdirs⟩, hentry.reached, hnot⟩

theorem FileBelow.mem_listing_iff {t : FileTree} (ht : t.Distinct) {root : Path}
    {names extra : List String} {pattern : String} (hfile : t.FileBelow root names) :
    root.down names ∈ t.listing root pattern extra ↔
      Exclusion.includes pattern (Path.relative names).text ∧
        ∀ n ∈ names.dropLast, Exclusion.prunes extra n = false := by
  rw [FileTree.mem_listing_iff ht]
  constructor
  · rintro ⟨names', hsame, -, -, hrest⟩
    rwa [Path.down_injective hsame]
  · intro hrest
    exact ⟨names, rfl, hfile.toEntryBelow, hfile.not_folder, hrest⟩

/-- Where there are only files and folders, this is what can be read of it. -/
theorem mem_listing {t : FileTree} (ht : t.Regular) {root q : Path} {pattern : String}
    {extra : List String} :
    q ∈ t.listing root pattern extra ↔ ∃ names, q = root.down names ∧
      Listable pattern extra names ∧ (t.read? q).isSome := by
  rw [mem_listing_distinct ht.distinct]
  refine exists_congr fun names => and_congr_right fun hq => and_congr_right fun hlistable => ?_
  have hat := at?_down ht root hlistable.2.1
  rw [hq, isFolderAt, read?, hat, below?]
  cases hd : (t.at? root).bind (FileTree.descend · names) with
  | none => simp
  | some e =>
    have he : e.Regular := by
      obtain ⟨below, hroot, hd⟩ := Option.bind_eq_some_iff.mp hd
      exact ((ht.at? hroot).descend hd).2
    cases he with
    | file content => simp [isFolder]
    | folder es _ _ _ => simp [isFolder]

/-- **Nothing is listed twice.** -/
theorem nodup_listing {t : FileTree} (ht : t.Distinct) (root : Path) (pattern : String)
    (extra : List String) : (t.listing root pattern extra).Nodup := by
  unfold listing
  cases hroot : t.at? root with
  | none => exact List.nodup_nil
  | some below =>
    refine (nodup_walk (ht.at? hroot)).filterMap fun a b q ha hb => ?_
    simp only [Option.mem_def, Option.ite_none_right_eq_some, Option.some.injEq] at ha hb
    exact Path.down_injective (ha.2.trans hb.2.symm)

/-! ## 4. Writing and removing one file -/

theorem entry?_setEntry (n m : String) (v : FileTree) (es : List (String × FileTree)) :
    FileTree.entry? (folder (setEntry n v es)) m =
      if m = n then some v else FileTree.entry? (folder es) m := by
  induction es with
  | nil =>
    by_cases h : m = n
    · subst h; simp [setEntry, FileTree.entry?, entries]
    · simp [setEntry, FileTree.entry?, entries, h, Ne.symm h]
  | cons e es ih =>
    obtain ⟨k, u⟩ := e
    simp only [FileTree.entry?, entries] at ih ⊢
    rw [setEntry]
    by_cases hk : k = n
    · subst hk
      rw [if_pos rfl, List.find?_cons, List.find?_cons]
      by_cases h : m = k
      · subst h; simp
      · simp [h, Ne.symm h]
    · rw [if_neg hk, List.find?_cons, List.find?_cons]
      by_cases h : k = m
      · subst h; simp [hk]
      · simp only [h, decide_false]
        exact ih

theorem contentAt_empty (names : List String) : empty.contentAt names = none := by
  cases names <;> rfl

theorem entry?_entries (t : FileTree) (n : String) :
    FileTree.entry? (folder t.entries) n = t.entry? n := rfl

/-- What has been written can be read. -/
theorem contentAt_put_self (names : List String) (content : Bytes) (t : FileTree) :
    (put (file content) names t).contentAt names = some content := by
  induction names generalizing t with
  | nil => rfl
  | cons n rest ih =>
    rw [put, contentAt_cons, entry?_setEntry, if_pos rfl, Option.bind_some]
    exact ih _

/-- **Writing a file** leaves all other files alone, if there is no file on the way and
    none below. -/
theorem contentAt_put (names other : List String) (content : Bytes) (t : FileTree)
    (hne : other ≠ names)
    (habove : ∀ first, first <+: names → first ≠ names → t.contentAt first = none)
    (hbelow : ∀ more, more ≠ [] → t.contentAt (names ++ more) = none) :
    (put (file content) names t).contentAt other = t.contentAt other := by
  induction names generalizing t other with
  | nil =>
    obtain ⟨m, os, rfl⟩ := List.exists_cons_of_ne_nil hne
    exact (hbelow (m :: os) hne).symm
  | cons n rest ih =>
    rw [put]
    cases other with
    | nil => exact (habove [] (List.nil_prefix) (List.cons_ne_nil _ _).symm).symm
    | cons m os =>
      rw [contentAt_cons, entry?_setEntry, entry?_entries, contentAt_cons]
      by_cases hm : m = n
      · subst hm
        have hinner : ∀ ns, ((t.entry? m).getD empty).contentAt ns = t.contentAt (m :: ns) := by
          intro ns
          rw [contentAt_cons]
          cases t.entry? m with
          | none => exact contentAt_empty ns
          | some e => rfl
        rw [if_pos rfl, Option.bind_some, ih]
        · rw [hinner, contentAt_cons]
        · exact fun h => hne (h ▸ rfl)
        · intro first hfirst hne'
          rw [hinner]
          refine habove (m :: first) (List.cons_prefix_cons.mpr ⟨rfl, hfirst⟩) ?_
          exact fun h => hne' (List.cons.inj h).2
        · intro more hmore
          rw [hinner]
          exact hbelow more hmore
      · rw [if_neg hm]

theorem erase_cons {rest : List String} (h : rest ≠ []) (n : String) (t : FileTree) :
    erase (n :: rest) t =
      match t.entry? n with
      | none => t
      | some e => folder (setEntry n (erase rest e) t.entries) := by
  cases rest with
  | nil => exact absurd rfl h
  | cons m more => rfl

theorem descend_append (t : FileTree) (first more : List String) :
    t.descend (first ++ more) = (t.descend first).bind (descend · more) := by
  induction first generalizing t with
  | nil => rfl
  | cons n first ih =>
    rw [List.cons_append, descend_cons, descend_cons]
    cases t.entry? n with
    | none => rfl
    | some e => exact ih e

/-- There is nothing below what is not a folder. -/
theorem descend_append_eq_none {t : FileTree} {names more : List String} (hmore : more ≠ [])
    (h : ∀ es, t.descend names ≠ some (folder es)) : t.descend (names ++ more) = none := by
  obtain ⟨n, rest, rfl⟩ := List.exists_cons_of_ne_nil hmore
  rw [descend_append]
  cases hd : t.descend names with
  | none => rfl
  | some e =>
    have hfolder : e.isFolder = false := by
      rw [Bool.eq_false_iff]
      intro he
      obtain ⟨es, rfl⟩ := isFolder_iff.mp he
      exact h es hd
    exact descend_eq_none hfolder (List.cons_ne_nil n rest)

theorem contentAt_eq_none {t : FileTree} {names : List String} (h : t.descend names = none) :
    t.contentAt names = none := by
  rw [contentAt, h]

theorem collapse_of_not_mem {p : Path} (h : ".." ∉ p.names) : p.collapse = p := by
  have hfold : ∀ (names taken : List String), ".." ∉ names →
      names.foldl Path.collapse.step taken = names.reverse ++ taken := by
    intro names
    induction names with
    | nil => exact fun _ _ => rfl
    | cons n names ih =>
      intro taken hn
      rw [List.mem_cons, not_or] at hn
      rw [List.foldl_cons, Path.collapse.step, if_neg (Ne.symm hn.1), ih _ hn.2,
        List.reverse_cons, List.append_assoc, List.singleton_append]
  rw [Path.collapse, hfold p.names [] h, List.append_nil, List.reverse_reverse]

/-! ### 4.2 The file system keeps its form -/

theorem map_fst_setEntry (n : String) (v : FileTree) (es : List (String × FileTree)) :
    (setEntry n v es).map (·.1) =
      if n ∈ es.map (·.1) then es.map (·.1) else es.map (·.1) ++ [n] := by
  induction es with
  | nil => rfl
  | cons e es ih =>
    obtain ⟨k, u⟩ := e
    rw [setEntry]
    by_cases hk : k = n
    · subst hk
      rw [if_pos rfl, if_pos (List.mem_map_of_mem List.mem_cons_self)]
      rfl
    · rw [if_neg hk, List.map_cons, ih]
      by_cases hn : n ∈ es.map (·.1)
      · have hmem : n ∈ ((k, u) :: es).map (·.1) := List.mem_cons_of_mem _ hn
        rw [if_pos hn, if_pos hmem]
        rfl
      · have hnot : n ∉ ((k, u) :: es).map (·.1) := by
          rw [List.map_cons, List.mem_cons, not_or]
          exact ⟨Ne.symm hk, hn⟩
        rw [if_neg hn, if_neg hnot]
        rfl

theorem mem_setEntry {n : String} {v : FileTree} {es : List (String × FileTree)}
    {e : String × FileTree} (h : e ∈ setEntry n v es) : e = (n, v) ∨ e ∈ es := by
  induction es with
  | nil => exact Or.inl (List.mem_singleton.mp h)
  | cons d es ih =>
    obtain ⟨k, u⟩ := d
    rw [setEntry] at h
    by_cases hk : k = n
    · subst hk
      rw [if_pos rfl, List.mem_cons] at h
      exact h.imp_right (List.mem_cons_of_mem _)
    · rw [if_neg hk, List.mem_cons] at h
      rcases h with rfl | h
      · exact Or.inr List.mem_cons_self
      · exact (ih h).imp_right (List.mem_cons_of_mem _)

/-- There are only files and folders, no folder has two entries with one name, and `P` holds
    of all names. -/
inductive Named (P : String → Prop) : FileTree → Prop
  | file (content : Bytes) : Named P (.file content)
  | folder (es : List (String × FileTree)) :
      (es.map (·.1)).Nodup → (∀ e ∈ es, P e.1) → (∀ e ∈ es, Named P e.2) → Named P (.folder es)

theorem regular_iff_named {t : FileTree} : t.Regular ↔ t.Named (· ≠ "..") := by
  constructor
  · intro h
    induction h with
    | file content => exact .file content
    | folder es hnd hnames _ ih => exact .folder es hnd hnames ih
  · intro h
    induction h with
    | file content => exact .file content
    | folder es hnd hnames _ ih => exact .folder es hnd hnames ih

theorem ordinary_iff_named {t : FileTree} : t.Ordinary ↔ t.Named OrdinaryName := by
  constructor
  · intro h
    induction h with
    | file content => exact .file content
    | folder es hnd hnames _ ih => exact .folder es hnd hnames ih
  · intro h
    induction h with
    | file content => exact .file content
    | folder es hnd hnames _ ih => exact .folder es hnd hnames ih

section Named

variable {P : String → Prop} {t : FileTree} {names : List String}

theorem Named.setEntry {es : List (String × FileTree)} (h : (FileTree.folder es).Named P)
    {n : String} {v : FileTree} (hn : P n) (hv : v.Named P) :
    (FileTree.folder (FileTree.setEntry n v es)).Named P := by
  cases h with
  | folder _ hnd hnames hentries =>
    refine .folder _ ?_ (fun e he => ?_) (fun e he => ?_)
    · rw [map_fst_setEntry]
      split
      case isTrue => exact hnd
      case isFalse hnot =>
        rw [List.nodup_append]
        refine ⟨hnd, List.nodup_singleton n, fun a ha b hb hab => hnot ?_⟩
        rw [← List.mem_singleton.mp hb, ← hab]
        exact ha
    · rcases mem_setEntry he with rfl | he
      · exact hn
      · exact hnames e he
    · rcases mem_setEntry he with rfl | he
      · exact hv
      · exact hentries e he

theorem Named.entries (h : t.Named P) : (FileTree.folder t.entries).Named P := by
  cases h with
  | file content =>
    exact .folder _ List.nodup_nil (fun _ he => absurd he List.not_mem_nil)
      fun _ he => absurd he List.not_mem_nil
  | folder es hnd hnames hentries => exact .folder es hnd hnames hentries

theorem Named.empty : FileTree.empty.Named P := Named.entries (.file [])

theorem Named.entry {e : FileTree} (ht : t.Named P) {n : String} (he : t.entry? n = some e) :
    P n ∧ e.Named P := by
  cases ht with
  | file content => cases he
  | folder es hnd hnames hentries =>
    have hmem := (entry?_eq_some hnd).mp he
    exact ⟨hnames _ hmem, hentries _ hmem⟩

theorem Named.put (hnames : ∀ n ∈ names, P n) {v : FileTree} (hv : v.Named P) (ht : t.Named P) :
    (FileTree.put v names t).Named P := by
  induction names generalizing t with
  | nil => exact hv
  | cons n rest ih =>
    have hinner : ((t.entry? n).getD FileTree.empty).Named P := by
      cases he : t.entry? n with
      | none => exact .empty
      | some e => exact (ht.entry he).2
    exact ht.entries.setEntry (hnames n List.mem_cons_self)
      (ih (fun m hm => hnames m (List.mem_cons_of_mem _ hm)) hinner)

theorem Named.erase (ht : t.Named P) : (FileTree.erase names t).Named P := by
  induction names generalizing t with
  | nil => exact .empty
  | cons n rest ih =>
    by_cases hrest : rest = []
    · subst hrest
      cases ht.entries with
      | folder es hnd hnames hentries =>
        refine .folder _ ?_ (fun e he => ?_) (fun e he => ?_)
        · exact (List.filter_sublist.map _).nodup hnd
        · exact hnames e (List.mem_of_mem_filter he)
        · exact hentries e (List.mem_of_mem_filter he)
    · rw [erase_cons hrest]
      split
      · exact ht
      case h_2 e he => exact ht.entries.setEntry (ht.entry he).1 (ih (ht.entry he).2)

end Named

theorem ordinary_empty : empty.Ordinary := ordinary_iff_named.mpr .empty

theorem ordinary_write {t : FileTree} (ht : t.Ordinary) {p : Path}
    (hp : ∀ n ∈ p.names, OrdinaryName n) (content : Bytes) : (t.write p content).Ordinary := by
  rw [write, collapse_of_not_mem fun h => (hp _ h).not_above rfl]
  exact ordinary_iff_named.mpr (.put hp (.file content) (ordinary_iff_named.mp ht))

theorem regular_write {t : FileTree} (ht : t.Regular) {p : Path} (hp : ".." ∉ p.names)
    (content : Bytes) : (t.write p content).Regular := by
  rw [write, collapse_of_not_mem hp]
  have hnames : ∀ n ∈ p.names, n ≠ ".." := fun n hn h => hp (h ▸ hn)
  exact regular_iff_named.mpr (.put hnames (.file content) (regular_iff_named.mp ht))

section Reading

variable {t : FileTree} {p q : Path} {content : Bytes}

theorem read?_eq_contentAt (ht : t.Regular) (h : ".." ∉ p.names) :
    t.read? p = t.contentAt p.names := by
  rw [read?, at?_eq_descend ht h]
  rfl

theorem read?_write_self (ht : t.Regular) (h : ".." ∉ p.names) :
    (t.write p content).read? p = some content := by
  rw [read?_eq_contentAt (regular_write ht h content) h, write, collapse_of_not_mem h,
    contentAt_put_self]

/-- Writing where there is no folder, with no file on the way, changes no other file. -/
theorem read?_write_of_ne (ht : t.Regular) (hp : ".." ∉ p.names) (hq : ".." ∉ q.names)
    (hne : q.names ≠ p.names)
    (habove : ∀ first, first <+: p.names → first ≠ p.names → t.contentAt first = none)
    (hbelow : ∀ es, t.descend p.names ≠ some (folder es)) :
    (t.write p content).read? q = t.read? q := by
  rw [read?_eq_contentAt (regular_write ht hp content) hq, read?_eq_contentAt ht hq, write,
    collapse_of_not_mem hp]
  exact contentAt_put p.names q.names content t hne habove fun more hmore =>
    contentAt_eq_none (descend_append_eq_none hmore hbelow)

end Reading

end FileTree
end SuiteExplorer
