/-
  SuiteExplorer/Proofs/Catalog/Merging.lean
  =========================================
  **What a file brings into the tree.**

  `nodesOf` lists the nodes that one file has, from its path, its package clause and
  its declarations alone: the package, the file, a suite for each receiver, which is of
  the library of its first declaration, and a test for each place, which is that of the
  last one.  Entering a file draws from the nodes that are there and from those of the
  file, and loses no ids (`merges_enterOutline`): a suite that is there stays, a test
  that is there gives way, but something is at each place.
-/
import SuiteExplorer.Proofs.Catalog.Currency

namespace SuiteExplorer

open Keyed

/-! ## 1. Entries, level by level -/

def SuiteOutline.view (s : SuiteOutline) : List Entry := ⟨[], s.head⟩ :: s.testEntries

def FileOutline.view (f : FileOutline) : List Entry :=
  ⟨[], f.head⟩ :: entriesBelow (·.head.id) (·.view) f.suites

def PackageOutline.view (p : PackageOutline) : List Entry :=
  ⟨[], p.head⟩ :: entriesBelow (·.head.id) (·.view) p.files

theorem entriesOf_eq (ps : List PackageOutline) :
    entriesOf ps = entriesBelow (·.head.id) (·.view) ps := by
  rw [entriesOf, entriesBelow]
  refine List.flatMap_congr fun p _ => ?_
  rw [PackageOutline.view, List.map_cons, entriesBelow, List.map_flatMap]
  refine congrArg (_ :: ·) (List.flatMap_congr fun f _ => ?_)
  rw [FileOutline.view, List.map_cons, List.map_cons, entriesBelow, List.map_flatMap,
    List.map_flatMap, Filed.entries]
  refine congrArg (_ :: ·) (List.flatMap_congr fun s _ => ?_)
  rw [SuiteOutline.view, SuiteOutline.testEntries, entriesBelow, List.map_cons, List.map_cons,
    List.map_cons, List.map_flatMap, List.map_flatMap, List.map_flatMap, List.map_eq_flatMap]
  rfl

section Below

variable {α : Type} {key : α → String} {view : α → List Entry}

/-- With distinct keys, a node and what is below it have distinct ids. -/
theorem nodup_view {l : List α} (o : NodeOutline) (hnd : (l.map key).Nodup)
    (hview : ∀ x ∈ l, ((view x).map (·.ids)).Nodup) :
    (((⟨[], o⟩ : Entry) :: entriesBelow key view l).map (·.ids)).Nodup := by
  rw [List.map_cons, List.nodup_cons]
  refine ⟨?_, nodup_entriesBelow hnd hview⟩
  intro hmem
  obtain ⟨e, he, hids⟩ := List.mem_map.mp hmem
  obtain ⟨x, -, e', -, rfl⟩ := mem_entriesBelow.mp he
  cases hids

/-- What is below some of the nodes, or below less of them, is below all of them. -/
theorem entriesBelow_subset {R : α → α → Prop} {l' l : List α}
    (h : List.SublistForall₂ R l' l)
    (hR : ∀ x y, R x y → key x = key y ∧ view x ⊆ view y) :
    entriesBelow key view l' ⊆ entriesBelow key view l := by
  intro e he
  obtain ⟨x, hx, e', he', rfl⟩ := mem_entriesBelow.mp he
  obtain ⟨y, hy, hxy⟩ := exists_of_mem_sublistForall₂ h x hx
  obtain ⟨hkey, hview⟩ := hR x y hxy
  exact mem_entriesBelow.mpr ⟨y, hy, e', hview he', by rw [hkey]⟩

end Below

/-- **No two nodes of the tree have the same ids on the way down.** -/
theorem nodup_ids_entriesOf {ps : List PackageOutline} (h : DistinctIds ps) :
    ((entriesOf ps).map (·.ids)).Nodup := by
  rw [entriesOf_eq]
  apply nodup_entriesBelow h.1
  intro p hp
  apply nodup_view _ (h.2 p hp).1
  intro f hf
  apply nodup_view _ ((h.2 p hp).2 f hf).1
  intro s hs
  apply nodup_view _ (((h.2 p hp).2 f hf).2 s hs)
  intro t _
  exact List.nodup_singleton []

/-- **Nodes that leave take entries out,** and bring none in. -/
theorem Thins.entries_subset {ps' ps : List PackageOutline} (h : Thins ps' ps) :
    entriesOf ps' ⊆ entriesOf ps := by
  rw [entriesOf_eq, entriesOf_eq]
  apply entriesBelow_subset h
  rintro p' p ⟨hp, hfiles⟩
  refine ⟨congrArg NodeOutline.id hp, ?_⟩
  rw [PackageOutline.view, PackageOutline.view, hp]
  apply List.cons_subset_cons
  apply entriesBelow_subset hfiles
  rintro f' f ⟨hf, hsuites⟩
  refine ⟨congrArg NodeOutline.id hf, ?_⟩
  rw [FileOutline.view, FileOutline.view, hf]
  apply List.cons_subset_cons
  apply entriesBelow_subset hsuites
  rintro s' s ⟨hs, htests⟩
  refine ⟨congrArg NodeOutline.id hs, ?_⟩
  rw [SuiteOutline.view, SuiteOutline.view, hs]
  apply List.cons_subset_cons
  intro e he
  obtain ⟨t, ht, e', he', rfl⟩ := mem_entriesBelow.mp he
  exact mem_entriesBelow.mpr ⟨t, htests.subset ht, e', he', rfl⟩

/-! ## 2. Merging entries -/

/-- Afterwards there are only new and old entries, and something at the ids of each. -/
structure Merges (news old after : List Entry) : Prop where
  drawn : ∀ e ∈ after, e ∈ news ∨ e ∈ old
  kept : ∀ e, e ∈ news ∨ e ∈ old → e.ids ∈ after.map (·.ids)

theorem Merges.refl (old : List Entry) : Merges [] old old :=
  ⟨fun _ he => Or.inr he, fun _ he => List.mem_map_of_mem (he.resolve_left List.not_mem_nil)⟩

theorem Merges.trans {news newer old mid after : List Entry} (h : Merges news old mid)
    (h' : Merges newer mid after) : Merges (news ++ newer) old after where
  drawn e he := by
    rw [List.mem_append]
    rcases h'.drawn e he with he | he
    · exact Or.inl (Or.inr he)
    · rcases h.drawn e he with he | he
      · exact Or.inl (Or.inl he)
      · exact Or.inr he
  kept e he := by
    rw [List.mem_append, or_assoc, or_left_comm] at he
    rcases he with he | he
    · exact h'.kept e (Or.inl he)
    · obtain ⟨e', he', hids⟩ := List.mem_map.mp (h.kept e he)
      rw [← hids]
      exact h'.kept e' (Or.inr he')

/-- What is new is all there is to draw from, if it has all that was there. -/
theorem Merges.of_subset {news old after : List Entry} (h : Merges news old after)
    (hsub : old ⊆ news) : Merges news [] after :=
  ⟨fun e he => Or.inl ((h.drawn e he).elim id fun ho => hsub ho),
    fun e he => h.kept e (Or.inl (he.resolve_right List.not_mem_nil))⟩

theorem Overlays.merges {news old after : List Entry} (h : Overlays news old after) :
    Merges news old after where
  drawn e he := ((h e).mp he).imp_right And.left
  kept e he := by
    by_cases hids : e.ids ∈ news.map (·.ids)
    · obtain ⟨e', he', heq⟩ := List.mem_map.mp hids
      rw [← heq]
      exact List.mem_map_of_mem ((h e').mpr (Or.inl he'))
    · have hold : e ∈ old := he.resolve_left fun hn => hids (List.mem_map_of_mem hn)
      exact List.mem_map_of_mem ((h e).mpr (Or.inr ⟨hold, hids⟩))

theorem Merges.comm {news old after : List Entry} (h : Merges news old after) :
    Merges old news after :=
  ⟨fun e he => (h.drawn e he).symm, fun e he => h.kept e he.symm⟩

theorem Merges.congr {news old after old' after' : List Entry} (h : Merges news old after)
    (hold : ∀ e, e ∈ old' ↔ e ∈ old) (hafter : ∀ e, e ∈ after' ↔ e ∈ after) :
    Merges news old' after' where
  drawn e he := by
    rw [hold]
    exact h.drawn e ((hafter e).mp he)
  kept e he := by
    rw [hold] at he
    obtain ⟨e', he', hids⟩ := List.mem_map.mp (h.kept e he)
    exact List.mem_map.mpr ⟨e', (hafter e').mpr he', hids⟩

/-- Two merges, one beside the other. -/
theorem Merges.append {news old after news' old' after' : List Entry}
    (h : Merges news old after) (h' : Merges news' old' after') :
    Merges (news ++ news') (old ++ old') (after ++ after') where
  drawn e he := by
    simp only [List.mem_append] at he ⊢
    rcases he with he | he
    · exact (h.drawn e he).imp Or.inl Or.inl
    · exact (h'.drawn e he).imp Or.inr Or.inr
  kept e he := by
    simp only [List.mem_append, List.map_append] at he ⊢
    rcases he with (he | he) | (he | he)
    · exact Or.inl (h.kept e (Or.inl he))
    · exact Or.inr (h'.kept e (Or.inl he))
    · exact Or.inl (h.kept e (Or.inr he))
    · exact Or.inr (h'.kept e (Or.inr he))

/-- The node itself stays as it is. -/
theorem Merges.cons {news old after : List Entry} (h : Merges news old after) {o new : NodeOutline} :
    Merges (⟨[], new⟩ :: news) (⟨[], o⟩ :: old) (⟨[], o⟩ :: after) := by
  have hnode : Merges [⟨[], new⟩] [⟨[], o⟩] [⟨[], o⟩] := by
    refine ⟨fun e he => Or.inr he, fun e he => ?_⟩
    rcases he with he | he
    · rw [List.mem_singleton.mp he]
      exact List.mem_cons_self
    · exact List.mem_map_of_mem he
  exact hnode.append h

/-- **Entering one node of a level** merges into the level what it merges into the node. -/
theorem merges_upsert {α : Type} (key : α → String) (view : α → List Entry) (news : List Entry)
    {l : List α} {k : String} {make : Option α → α} (hnd : (l.map key).Nodup)
    (hmake : ∀ old, l.find? (key · = k) = old →
      key (make old) = k ∧ Merges news ((old.map view).getD []) (view (make old))) :
    Merges (news.map (Entry.under k)) (entriesBelow key view l)
      (entriesBelow key view (upsert key k make l)) := by
  obtain ⟨hkey, hview⟩ := hmake _ rfl
  have hmade : ∀ e' ∈ view (make (l.find? (key · = k))),
      e'.under k ∈ entriesBelow key view (upsert key k make l) := fun e' he' =>
    mem_entriesBelow.mpr ⟨_, mem_upsert.mpr (Or.inl rfl), e', he', by rw [hkey]⟩
  have hids : ∀ ids ∈ (view (make (l.find? (key · = k)))).map (·.ids),
      k :: ids ∈ (entriesBelow key view (upsert key k make l)).map (·.ids) := by
    intro ids hmem
    obtain ⟨e', he', rfl⟩ := List.mem_map.mp hmem
    exact List.mem_map.mpr ⟨_, hmade e' he', rfl⟩
  constructor
  · intro e he
    obtain ⟨x, hx, e', he', rfl⟩ := mem_entriesBelow.mp he
    rcases mem_upsert.mp hx with rfl | ⟨hx, -⟩
    · rw [hkey]
      rcases hview.drawn e' he' with he' | he'
      · exact Or.inl (List.mem_map_of_mem he')
      · cases hfind : l.find? (key · = k) with
        | none => rw [hfind] at he'; cases he'
        | some y =>
          rw [hfind] at he'
          refine Or.inr (mem_entriesBelow.mpr ⟨y, List.mem_of_find?_eq_some hfind, e', he', ?_⟩)
          rw [key_of_find? hfind]
    · exact Or.inr (mem_entriesBelow.mpr ⟨x, hx, e', he', rfl⟩)
  · rintro e (he | he)
    · obtain ⟨e', he', rfl⟩ := List.mem_map.mp he
      exact hids _ (hview.kept e' (Or.inl he'))
    · obtain ⟨x, hx, e', he', rfl⟩ := mem_entriesBelow.mp he
      by_cases hk : key x = k
      · have hfind : l.find? (key · = k) = some x := find?_of_mem hnd hx hk
        rw [hk]
        refine hids _ (hview.kept e' (Or.inr ?_))
        rw [hfind]
        exact he'
      · have hstay : e'.under (key x) ∈ entriesBelow key view (upsert key k make l) :=
          mem_entriesBelow.mpr ⟨x, mem_upsert.mpr (Or.inr ⟨hx, hk⟩), e', he', rfl⟩
        exact List.mem_map_of_mem hstay

/-! ## 3. The nodes of one file -/

/-- Of several declarations with one receiver the first one founds the suite. -/
def founders : List Declaration → List Declaration
  | [] => []
  | d :: rest => d :: (founders rest).filter fun d' => d'.receiver.getD "" ≠ d.receiver.getD ""

/-- The suites that declarations amount to, within their file. -/
def foundedIn (q : Path) (ds : List Declaration) : List Entry :=
  (founders ds).map fun d => ⟨[d.receiver.getD ""], (SuiteOutline.empty q d).head⟩

/-- The nodes of a file that has been read: those of its suites and tests, the file, and
    the package it is in. -/
def nodesOf (label : Labels) (q : Path) (package : String) (ds : List Declaration) : List Entry :=
  let place := [Catalog.packageId q.parent package, q.stem]
  ⟨[Catalog.packageId q.parent package], packageHead label q.parent package⟩ ::
    ⟨place, (FileOutline.empty q).head⟩ ::
    ((founders ds).map fun d =>
      ⟨place ++ [d.receiver.getD ""], (SuiteOutline.empty q d).head⟩) ++
    (latest ds).map fun d => ⟨place ++ d.place, .test q d⟩

theorem nodesOf_eq (label : Labels) (q : Path) (package : String) (ds : List Declaration) :
    nodesOf label q package ds =
      (⟨[], packageHead label q.parent package⟩ ::
        (⟨[], (FileOutline.empty q).head⟩ :: (foundedIn q ds ++ declaredIn q ds)).map
          (.under q.stem)).map (.under (Catalog.packageId q.parent package)) := by
  simp only [nodesOf, foundedIn, declaredIn, List.map_cons, List.map_append, List.map_map,
    List.cons_append]
  rfl

/-- A node of a file is its package, or has the path of the file and is below its place. -/
theorem mem_nodesOf {label : Labels} {q : Path} {package : String} {ds : List Declaration}
    {e : Entry} (he : e ∈ nodesOf label q package ds) :
    e = ⟨[Catalog.packageId q.parent package], packageHead label q.parent package⟩ ∨
      (e.node.path = q ∧ [Catalog.packageId q.parent package, q.stem] <+: e.ids) := by
  rw [nodesOf, List.cons_append, List.cons_append, List.mem_cons, List.mem_cons,
    List.mem_append] at he
  rcases he with rfl | rfl | he | he
  · exact Or.inl rfl
  · exact Or.inr ⟨rfl, List.prefix_refl _⟩
  · obtain ⟨d, -, rfl⟩ := List.mem_map.mp he
    exact Or.inr ⟨rfl, List.prefix_append _ _⟩
  · obtain ⟨d, -, rfl⟩ := List.mem_map.mp he
    exact Or.inr ⟨rfl, List.prefix_append _ _⟩

theorem nodup_receivers_founders (ds : List Declaration) :
    ((founders ds).map fun d => d.receiver.getD "").Nodup := by
  induction ds with
  | nil => exact List.nodup_nil
  | cons d rest ih =>
    rw [founders, List.map_cons, List.nodup_cons]
    constructor
    · intro hmem
      obtain ⟨d', hd', hsame⟩ := List.mem_map.mp hmem
      exact of_decide_eq_true (List.mem_filter.mp hd').2 hsame
    · exact (List.filter_sublist.map _).nodup ih

/-! ### 3.1 The suites of a file -/

theorem Overlays.assoc {a b c ab bc abc : List Entry} (hab : Overlays a b ab)
    (habc : Overlays ab c abc) (hbc : Overlays b c bc) : Overlays a bc abc := by
  have hids : ∀ ids, ids ∈ ab.map (·.ids) ↔ ids ∈ a.map (·.ids) ∨ ids ∈ b.map (·.ids) := by
    intro ids
    constructor
    · intro hmem
      obtain ⟨e, he, rfl⟩ := List.mem_map.mp hmem
      exact (hab.merges.drawn e he).imp List.mem_map_of_mem List.mem_map_of_mem
    · rintro (hmem | hmem) <;> obtain ⟨e, he, rfl⟩ := List.mem_map.mp hmem
      · exact hab.merges.kept e (Or.inl he)
      · exact hab.merges.kept e (Or.inr he)
  intro e
  rw [habc e, hab e, hbc e, hids]
  tauto

/-- The suites of a file, without their tests. -/
def FileOutline.suiteEntries (f : FileOutline) : List Entry :=
  entriesBelow (·.head.id) (fun s => [⟨[], s.head⟩]) f.suites

theorem FileOutline.mem_view {f : FileOutline} {e : Entry} :
    e ∈ f.view ↔ e = ⟨[], f.head⟩ ∨ e ∈ f.suiteEntries ∨ e ∈ f.testEntries := by
  simp only [view, SuiteOutline.view, suiteEntries, testEntries, List.mem_cons, mem_entriesBelow,
    List.not_mem_nil, or_false]
  refine or_congr_right ?_
  constructor
  · rintro ⟨s, hs, e', rfl | he', rfl⟩
    · exact Or.inl ⟨s, hs, _, rfl, rfl⟩
    · exact Or.inr ⟨s, hs, e', he', rfl⟩
  · rintro (⟨s, hs, e', rfl, rfl⟩ | ⟨s, hs, e', he', rfl⟩)
    · exact ⟨s, hs, _, Or.inl rfl, rfl⟩
    · exact ⟨s, hs, e', Or.inr he', rfl⟩

theorem FileOutline.mem_suiteEntries {f : FileOutline} {e : Entry} :
    e ∈ f.suiteEntries ↔ ∃ s ∈ f.suites, e = ⟨[s.head.id], s.head⟩ := by
  simp only [suiteEntries, mem_entriesBelow, List.mem_singleton, exists_eq_left, Entry.under]
  exact exists_congr fun s => and_congr_right fun _ => eq_comm

/-- **A suite that is there stays,** a new one is of the declaration that founds it. -/
theorem FileOutline.overlays_suites_enter {f : FileOutline} (h : f.Distinct) (q : Path)
    (d : Declaration) :
    Overlays f.suiteEntries [⟨[d.receiver.getD ""], (SuiteOutline.empty q d).head⟩]
      (f.enter q d).suiteEntries := by
  intro e
  have hids : e.ids ∈ f.suiteEntries.map (·.ids) ↔ ∃ s ∈ f.suites, [s.head.id] = e.ids := by
    simp only [List.mem_map, mem_suiteEntries]
    constructor
    · rintro ⟨_, ⟨s, hs, rfl⟩, heq⟩
      exact ⟨s, hs, heq⟩
    · rintro ⟨s, hs, heq⟩
      exact ⟨_, ⟨s, hs, rfl⟩, heq⟩
  rw [hids, mem_suiteEntries, mem_suiteEntries, suites_enter, List.mem_singleton]
  constructor
  · rintro ⟨s, hs, rfl⟩
    rcases mem_upsert.mp hs with rfl | ⟨hs, -⟩
    · cases hfind : f.suites.find? (·.head.id = d.receiver.getD "") with
      | none =>
        refine Or.inr ⟨rfl, ?_⟩
        rintro ⟨s, hs, heq⟩
        exact key_ne_of_find?_none hfind s hs (List.cons.inj heq).1
      | some old => exact Or.inl ⟨old, List.mem_of_find?_eq_some hfind, rfl⟩
    · exact Or.inl ⟨s, hs, rfl⟩
  · rintro (⟨s, hs, rfl⟩ | ⟨rfl, hfresh⟩)
    · by_cases hid : s.head.id = d.receiver.getD ""
      · refine ⟨_, mem_upsert.mpr (Or.inl rfl), ?_⟩
        rw [find?_of_mem h.1 hs hid]
        rfl
      · exact ⟨s, mem_upsert.mpr (Or.inr ⟨hs, hid⟩), rfl⟩
    · refine ⟨_, mem_upsert.mpr (Or.inl rfl), ?_⟩
      cases hfind : f.suites.find? (·.head.id = d.receiver.getD "") with
      | none => rfl
      | some old =>
        have hid : old.head.id = d.receiver.getD "" := by simpa using List.find?_some hfind
        exact absurd ⟨old, List.mem_of_find?_eq_some hfind, by rw [hid]⟩ hfresh

/-- One more declaration in front founds its suite, whatever comes after it. -/
theorem overlays_foundedIn (q : Path) (d : Declaration) (rest : List Declaration) :
    Overlays [⟨[d.receiver.getD ""], (SuiteOutline.empty q d).head⟩] (foundedIn q rest)
      (foundedIn q (d :: rest)) := by
  intro e
  simp only [foundedIn, founders, List.map_cons, List.mem_cons, List.map_nil, List.not_mem_nil,
    or_false, List.mem_map, List.mem_filter, decide_eq_true_eq]
  refine or_congr_right ?_
  constructor
  · rintro ⟨d', ⟨hd', hne⟩, rfl⟩
    exact ⟨⟨d', hd', rfl⟩, fun heq => hne (List.cons.inj heq).1⟩
  · rintro ⟨⟨d', hd', rfl⟩, hne⟩
    exact ⟨d', ⟨hd', fun heq => hne (by rw [heq])⟩, rfl⟩

theorem FileOutline.overlays_suites_enterAll {f : FileOutline} (h : f.Distinct) (q : Path)
    (ds : List Declaration) :
    Overlays f.suiteEntries (foundedIn q ds) (f.enterAll q ds).suiteEntries := by
  induction ds generalizing f with
  | nil => exact fun e => by simp [foundedIn, founders, enterAll]
  | cons d rest ih =>
    exact (FileOutline.overlays_suites_enter h q d).assoc (ih (h.enter q d)) (overlays_foundedIn q d rest)

/-! ## 4. Entering a file -/

theorem FileOutline.merges_enterAll {f : FileOutline} (h : f.Distinct) (q : Path)
    (ds : List Declaration) :
    Merges (⟨[], (FileOutline.empty q).head⟩ :: (foundedIn q ds ++ declaredIn q ds)) f.view
      (f.enterAll q ds).view := by
  have hsuites := (FileOutline.overlays_suites_enterAll h q ds).merges.comm
  have htests := (FileOutline.overlays_enterAll h q ds).merges
  apply (hsuites.append htests).cons.congr
  · intro e
    rw [FileOutline.mem_view, List.mem_cons, List.mem_append]
  · intro e
    rw [FileOutline.mem_view, head_enterAll, List.mem_cons, List.mem_append]

theorem FileOutline.merges_empty (q : Path) (ds : List Declaration) :
    Merges (⟨[], (FileOutline.empty q).head⟩ :: (foundedIn q ds ++ declaredIn q ds)) []
      ((FileOutline.empty q).enterAll q ds).view := by
  apply (FileOutline.merges_enterAll (FileOutline.distinct_empty q) q ds).of_subset
  intro e he
  rw [List.mem_singleton.mp he]
  exact List.mem_cons_self

theorem PackageOutline.merges_enter {p : PackageOutline} (h : p.Distinct) (q : Path)
    (ds : List Declaration) (o : NodeOutline) :
    Merges (⟨[], o⟩ ::
        (⟨[], (FileOutline.empty q).head⟩ :: (foundedIn q ds ++ declaredIn q ds)).map (.under q.stem))
      p.view (p.enter q ds).view := by
  rw [view, view, head_enter, files_enter]
  apply Merges.cons
  apply merges_upsert (fun f : FileOutline => f.head.id) (·.view) _ h.1
  intro old hold
  cases old with
  | none =>
    refine ⟨congrArg NodeOutline.id (FileOutline.head_enterAll ..), ?_⟩
    exact FileOutline.merges_empty q ds
  | some f =>
    have hid : f.head.id = q.stem := by simpa using List.find?_some hold
    refine ⟨?_, FileOutline.merges_enterAll (h.2 f (List.mem_of_find?_eq_some hold)) q ds⟩
    rw [Option.getD_some, FileOutline.head_enterAll]
    exact hid

/-- **Entering a file** merges its nodes into the tree. -/
theorem merges_enterOutline {ps : List PackageOutline} (h : DistinctIds ps) (label : Labels)
    (q : Path) (package : String) (ds : List Declaration) :
    Merges (nodesOf label q package ds) (entriesOf ps)
      (entriesOf (enterOutline ps (label q.parent package) q package ds)) := by
  rw [entriesOf_eq, entriesOf_eq, nodesOf_eq, enterOutline]
  apply merges_upsert (fun p : PackageOutline => p.head.id) (·.view) _ h.1
  intro old hold
  cases old with
  | none =>
    refine ⟨rfl, ?_⟩
    apply (PackageOutline.merges_enter (PackageOutline.distinct_empty _ _ _) q ds _).of_subset
    intro e he
    rw [List.mem_singleton.mp he]
    exact List.mem_cons_self
  | some p =>
    have hid : p.head.id = Catalog.packageId q.parent package := by
      simpa using List.find?_some hold
    refine ⟨hid, ?_⟩
    exact PackageOutline.merges_enter (h.2 p (List.mem_of_find?_eq_some hold)) q ds _

end SuiteExplorer
