/-
  SuiteExplorer/Proofs/Catalog/Commuting.lean
  ===========================================
  **Discovering twice is discovering once, and two files may be discovered in either order.**

  A second discovery of the same content finds its tests shown by the first one, so it
  changes nothing, not even the order of siblings.

  Two files never give way to each other.  Their packages have different ids, or they lie
  in one directory and have different stems; both times they enter under different keys of
  one list, and entries under different keys may be made in either order
  (`mem_upsert_comm`).  What is new goes to the end, so only the order of siblings tells
  which file came first (`discover_idempotent_and_commutes`).
-/
import SuiteExplorer.Proofs.Catalog.Events

namespace SuiteExplorer

open Keyed
open scoped List

/-! ## 1. Two files of one package -/

namespace PackageOutline

/-- The same package with the same files, in whatever order. -/
def Alike (p p' : PackageOutline) : Prop := p.head = p'.head ∧ ∀ f, f ∈ p.files ↔ f ∈ p'.files

theorem Alike.refl (p : PackageOutline) : p.Alike p := ⟨rfl, fun _ => Iff.rfl⟩

theorem Alike.view_subset {p p' : PackageOutline} (h : p.Alike p') : p.view ⊆ p'.view := by
  rw [view, view, h.1]
  apply List.cons_subset_cons
  intro e he
  obtain ⟨f, hf, rest⟩ := mem_entriesBelow.mp he
  exact mem_entriesBelow.mpr ⟨f, (h.2 f).mp hf, rest⟩

/-- The file that enters a package has the stem of its path for an id. -/
theorem id_fileEntered (p : PackageOutline) (q : Path) (ds : List Declaration) :
    (((p.files.find? (·.head.id = q.stem)).getD (.empty q)).enterAll q ds).head.id = q.stem := by
  rw [FileOutline.head_enterAll]
  cases h : p.files.find? (·.head.id = q.stem) with
  | none => rfl
  | some f => exact @key_of_find? _ (fun f : FileOutline => f.head.id) _ _ _ h

/-- Files with different stems enter a package in either order. -/
theorem alike_enter_enter (p : PackageOutline) {q q' : Path} (hstem : q'.stem ≠ q.stem)
    (ds ds' : List Declaration) :
    ((p.enter q ds).enter q' ds').Alike ((p.enter q' ds').enter q ds) := by
  refine ⟨rfl, fun f => ?_⟩
  rw [files_enter, files_enter, files_enter, files_enter]
  exact mem_upsert_comm hstem (p.id_fileEntered q ds) (p.id_fileEntered q' ds')

end PackageOutline

/-- Packages that are all alike to some of others have entries that those have. -/
theorem entriesOf_subset_of_alike {ps ps' : List PackageOutline}
    (h : ∀ p ∈ ps, ∃ p' ∈ ps', p.Alike p') : entriesOf ps ⊆ entriesOf ps' := by
  intro e he
  rw [entriesOf_eq] at he ⊢
  obtain ⟨p, hp, e', he', rfl⟩ := mem_entriesBelow.mp he
  obtain ⟨p', hp', halike⟩ := h p hp
  exact mem_entriesBelow.mpr ⟨p', hp', e', halike.view_subset he', by rw [halike.1]⟩

/-! ## 2. Two files of a catalog -/

section Orders

variable {ps : List PackageOutline} {label : Labels} {q q' : Path} {package package' : String}

/-- Different files of one package lie in one directory and have different stems. -/
theorem Fileable.stem_ne (hq : Fileable q) (hq' : Fileable q') (hne : q ≠ q')
    (hid : Catalog.packageId q.parent package = Catalog.packageId q'.parent package') :
    q.parent = q'.parent ∧ package = package' ∧ q.stem ≠ q'.stem := by
  obtain ⟨hparent, hpackage⟩ :=
    Catalog.packageId_injective hq.proper hq'.proper hq.colonless hq'.colonless hid
  exact ⟨hparent, hpackage, fun hstem => hne (filing_injective hq hq' hid hstem).1⟩

/-- What two files make of the packages: the second one enters the package that the first
    one has entered, or both enter packages of their own. -/
theorem entriesOf_enter_subset (hq : Fileable q) (hq' : Fileable q') (hne : q ≠ q')
    (ds ds' : List Declaration) :
    entriesOf (enterOutline (enterOutline ps (label q.parent package) q package ds)
        (label q'.parent package') q' package' ds') ⊆
      entriesOf (enterOutline (enterOutline ps (label q'.parent package') q' package' ds')
        (label q.parent package) q package ds) := by
  apply entriesOf_subset_of_alike
  intro p hp
  have hfirst := id_packageEntered label ps q package ds
  have hsecond := id_packageEntered label ps q' package' ds'
  by_cases hid : Catalog.packageId q.parent package = Catalog.packageId q'.parent package'
  · obtain ⟨hparent, rfl, hstem⟩ := hq.stem_ne hq' hne hid
    rw [← hparent] at hsecond
    unfold enterOutline at hp ⊢
    rw [← hparent] at hp ⊢
    rcases (mem_upsert_upsert hfirst).mp hp with rfl | hother
    · exact ⟨_, (mem_upsert_upsert hsecond).mpr (.inl rfl),
        PackageOutline.alike_enter_enter _ hstem.symm ds ds'⟩
    · exact ⟨p, (mem_upsert_upsert hsecond).mpr (.inr hother), .refl p⟩
  · exact ⟨p, (mem_upsert_comm (Ne.symm hid) hfirst hsecond).mp hp, .refl p⟩

/-- **The order of two files** is an order of siblings. -/
theorem entriesOf_enter_perm (hdistinct : DistinctIds ps) (hq : Fileable q) (hq' : Fileable q')
    (hne : q ≠ q') (ds ds' : List Declaration) :
    entriesOf (enterOutline (enterOutline ps (label q.parent package) q package ds)
        (label q'.parent package') q' package' ds') ~
      entriesOf (enterOutline (enterOutline ps (label q'.parent package') q' package' ds')
        (label q.parent package) q package ds) := by
  have hnodup := (nodup_ids_entriesOf ((hdistinct.enter (label q.parent package) q package ds).enter
    (label q'.parent package') q' package' ds')).of_map
  have hnodup' := (nodup_ids_entriesOf ((hdistinct.enter (label q'.parent package') q' package'
    ds').enter (label q.parent package) q package ds)).of_map
  rw [List.perm_ext_iff_of_nodup hnodup hnodup']
  exact fun e => ⟨fun he => entriesOf_enter_subset hq hq' hne ds ds' he,
    fun he => entriesOf_enter_subset hq' hq hne.symm ds' ds he⟩

end Orders

/-! ## 3. Discoveries -/

namespace Catalog

section Discoveries

variable {c : Catalog}

/-- What the tree shows after a discovery. -/
theorem outline_discover (h : c.Sound) (files : FileTree) (q : Path) (content : Option String) :
    (c.discover files q content).1.outline =
      enterFound c.packageLabel q (c.contentFindings? files q content) c.outline := by
  have hquiet : (c.discover files q content).1.outline =
      (c.discoverQuietly files q content).1.outline := outline_notifyIf _ _ _
  rw [hquiet, discoverQuietly_content_eq]
  cases c.contentFindings? files q content with
  | none => rfl
  | some found => exact outline_enterFile h.booked.tracks h.distinct _ _ _

/-- What the tree shows after two discoveries. -/
theorem outline_discover_discover (h : c.Sound) (files files' : FileTree) (q q' : Path)
    (content content' : Option String) :
    ((c.discover files q content).1.discover files' q' content').1.outline =
      enterFound c.packageLabel q' (c.contentFindings? files' q' content')
        (enterFound c.packageLabel q (c.contentFindings? files q content) c.outline) := by
  have hkeeps := c.keeps_discover files q content
  rw [outline_discover (hkeeps.sound h), outline_discover h, packageLabel_congr hkeeps.settings,
    contentFindings?_congr hkeeps.settings]

/-- **Discovering the same content again** changes nothing that the tree shows. -/
theorem outline_discover_again (h : c.Sound) (files : FileTree) (q : Path)
    (content : Option String) :
    ((c.discover files q content).1.discover files q content).1.outline =
      (c.discover files q content).1.outline := by
  rw [outline_discover_discover h, outline_discover h]
  cases hfound : c.contentFindings? files q content with
  | none => rfl
  | some found =>
    obtain ⟨package, ds⟩ := found
    have hds : ds ≠ [] := (contentFindings?_some hfound).2
    have hover := overlays_enterOutline h.distinct (c.packageLabel q.parent package) q package ds
    exact enterOutline_eq_self (h.distinct.enter ..) _ q package hds fun e he =>
      (hover e).mpr (.inl he)

/-- **Two discoveries of different files** bring the same nodes in either order. -/
theorem entries_discover_discover (h : c.Sound) (files files' : FileTree) {q q' : Path}
    (content content' : Option String) (hne : q ≠ q')
    (hplain : q.parent.Proper ∧ q.parent.Colonless)
    (hplain' : q'.parent.Proper ∧ q'.parent.Colonless) :
    ((c.discover files q content).1.discover files' q' content').1.entries ~
      ((c.discover files' q' content').1.discover files q content).1.entries := by
  rw [entries, entries, outline_discover_discover h, outline_discover_discover h]
  cases hfound : c.contentFindings? files q content with
  | none => exact .refl _
  | some found =>
    cases hfound' : c.contentFindings? files' q' content' with
    | none => exact .refl _
    | some found' =>
      have hq : Fileable q :=
        ⟨ending_of_isCandidate (contentFindings?_some hfound).1, hplain.1, hplain.2⟩
      have hq' : Fileable q' :=
        ⟨ending_of_isCandidate (contentFindings?_some hfound').1, hplain'.1, hplain'.2⟩
      exact entriesOf_enter_perm h.distinct hq hq' hne found.2 found'.2

end Discoveries

/-- **Discovery is idempotent and commutes.**  Whatever has been done to a catalog,
    discovering a file twice with the same content shows the same tree as discovering it
    once.  Discovering two files in directories without colons, with any contents, shows the
    same nodes in either order; only the order of siblings may differ. -/
theorem discover_idempotent_and_commutes (settings : CatalogSettings) (listeners : List Listener)
    (acts : List CatalogAct) :
    let c := (fresh settings listeners).performAll acts
    (∀ files q content, ((c.discover files q content).1.discover files q content).1.outline =
        (c.discover files q content).1.outline) ∧
      ∀ files files' q q' content content', q ≠ q' →
        q.parent.Proper ∧ q.parent.Colonless → q'.parent.Proper ∧ q'.parent.Colonless →
          ((c.discover files q content).1.discover files' q' content').1.entries ~
            ((c.discover files' q' content').1.discover files q content).1.entries := by
  intro c
  have hc : c.Sound := sound_performAll settings listeners acts
  exact ⟨outline_discover_again hc, fun files files' q q' content content' hne hplain hplain' =>
    entries_discover_discover hc files files' content content' hne hplain hplain'⟩

/-- Two files of one package: in either order they bring the same nodes, but the first one
    is shown first. -/
theorem discover_idempotent_and_commutes_siblings :
    let c := (fresh sampleSettings).performAll [.rescan sampleGrown .never]
    let a := Path.ofString "/w/sub/a_test.go"
    let b := Path.ofString "/w/sub/c_test.go"
    let text := some (Text.Utf8.decode (sampleTest "p"))
    ((c.discover .empty a text).1.discover .empty b text).1.entries ~
        ((c.discover .empty b text).1.discover .empty a text).1.entries ∧
      ((c.discover .empty a text).1.discover .empty b text).1.outline ≠
        ((c.discover .empty b text).1.discover .empty a text).1.outline := by
  intro c a b text
  have hcolon : a.parent.Colonless ∧ b.parent.Colonless ∧ a ≠ b ∧ a.parent = .ofString "/w/sub" ∧
      b.parent = .ofString "/w/sub" := by decide +kernel
  obtain ⟨ha, hb, hne, hparent, hparent'⟩ := hcolon
  refine ⟨(discover_idempotent_and_commutes sampleSettings [] _).2 .empty .empty a b text text hne
    ⟨hparent ▸ Path.proper_ofString _, ha⟩ ⟨hparent' ▸ Path.proper_ofString _, hb⟩, ?_⟩
  decide +kernel

end Catalog
end SuiteExplorer
