/-
  SuiteExplorer/Proofs/Catalog/Positions.lean
  ===========================================
  **Where nodes are, and what entering a file moves.**

  A position says which of the packages a node is in, which of the files there, and so on
  down.  `Subtree.At` reads the node at a position together with the ids on the way to it.
  `Replants r places` is what entering declarations does to a forest: every node stays at
  its position, unless its ids are among the places of the declarations; at each of these
  places there is a node with a number from `r` on and without a state, in the position of
  the node that was there before.

  New nodes go to the end of their siblings and replaced ones into the position of the old,
  so this holds at each level, and one level follows from the one below it.  The books go
  on: a node that had a number stands for what it stood for before, as long as it is in the
  tree (`Books.Continues`).
-/
import SuiteExplorer.Proofs.Catalog.Merging

namespace SuiteExplorer

open Keyed

/-! ## 1. Positions -/

namespace Subtree

/-- `At ts pos ids i`: the node at a position of the forest, and the ids that lead to it. -/
inductive At : List Subtree → List Nat → List String → NodeInfo → Prop where
  | here {ts : List Subtree} {n : Nat} {t : Subtree} (h : ts[n]? = some t) :
      At ts [n] [t.info.id] t.info
  | inside {ts : List Subtree} {n : Nat} {t : Subtree} {pos : List Nat} {ids : List String}
      {i : NodeInfo} (h : ts[n]? = some t) (hinside : At t.children pos ids i) :
      At ts (n :: pos) (t.info.id :: ids) i

/-- No two siblings have the same id. -/
inductive Distinct : List Subtree → Prop where
  | intro {ts : List Subtree} (ids : (ts.map (·.info.id)).Nodup)
      (below : ∀ t ∈ ts, Distinct t.children) : Distinct ts

variable {ts : List Subtree} {pos pos' : List Nat} {ids : List String} {i i' : NodeInfo}

/-- The way to a node begins with one of the trees, and ends there or goes on below it. -/
theorem At.start (h : At ts pos ids i) : ∃ n t, ts[n]? = some t ∧
    ((pos = [n] ∧ ids = [t.info.id] ∧ i = t.info) ∨
      ∃ pos' ids', pos = n :: pos' ∧ ids = t.info.id :: ids' ∧ At t.children pos' ids' i) := by
  cases h with
  | here h => exact ⟨_, _, h, .inl ⟨rfl, rfl, rfl⟩⟩
  | inside h hbelow => exact ⟨_, _, h, .inr ⟨_, _, rfl, rfl, hbelow⟩⟩

theorem At.of_id {k : String} {n : Nat} {t : Subtree} (h : ts[n]? = some t) (hid : t.info.id = k) :
    At ts [n] [k] t.info := hid ▸ .here h

theorem At.of_id_inside {k : String} {n : Nat} {t : Subtree} (h : ts[n]? = some t)
    (hid : t.info.id = k) (hinside : At t.children pos ids i) : At ts (n :: pos) (k :: ids) i :=
  hid ▸ .inside h hinside

/-- A node at a position is one of the forest. -/
theorem At.ref_mem (h : At ts pos ids i) : i.ref ∈ refsOf ts := by
  induction h with
  | here h => exact mem_refsOf.mpr ⟨_, List.mem_of_getElem? h, ref_mem_refs _⟩
  | inside h _ ih =>
    refine mem_refsOf.mpr ⟨_, List.mem_of_getElem? h, ?_⟩
    rw [refs_eq]
    exact List.mem_cons_of_mem _ ih

theorem At.ids_ne_nil (h : At ts pos ids i) : ids ≠ [] := by
  cases h <;> exact List.cons_ne_nil _ _

/-- Siblings with distinct ids are found by them. -/
theorem eq_of_id_eq (hnd : (ts.map (·.info.id)).Nodup) {n n' : Nat} {t t' : Subtree}
    (h : ts[n]? = some t) (h' : ts[n']? = some t') (hid : t'.info.id = t.info.id) :
    n' = n ∧ t' = t := by
  have hat : (ts.map (·.info.id))[n]? = some t.info.id := by rw [List.getElem?_map, h]; rfl
  have hat' : (ts.map (·.info.id))[n']? = some t.info.id := by
    rw [List.getElem?_map, h', Option.map_some, hid]
  have hlt : n' < (ts.map (·.info.id)).length := (List.getElem?_eq_some_iff.mp hat').1
  obtain rfl : n' = n := (List.getElem?_inj hlt hnd).mp (hat'.trans hat.symm)
  exact ⟨rfl, Option.some.inj (h'.symm.trans h)⟩

/-- **The ids on the way tell which node it is.** -/
theorem At.unique (hd : Distinct ts) (h : At ts pos ids i) (h' : At ts pos' ids i') :
    pos' = pos ∧ i' = i := by
  induction h generalizing pos' with
  | @here ts n t h =>
    obtain ⟨hnd, -⟩ := hd
    obtain ⟨n', t', hat, ⟨rfl, hids, rfl⟩ | ⟨rest, ids, rfl, hids, hbelow⟩⟩ := h'.start
    · obtain ⟨rfl, rfl⟩ := eq_of_id_eq hnd h hat (List.cons.inj hids).1.symm
      exact ⟨rfl, rfl⟩
    · exact absurd (List.cons.inj hids).2.symm hbelow.ids_ne_nil
  | @inside ts n t pos ids i h hbelow ih =>
    obtain ⟨hnd, hchildren⟩ := hd
    obtain ⟨n', t', hat, ⟨rfl, hids, rfl⟩ | ⟨rest, ids', rfl, hids, hbelow'⟩⟩ := h'.start
    · exact absurd (List.cons.inj hids).2 hbelow.ids_ne_nil
    · obtain ⟨rfl, rfl⟩ := eq_of_id_eq hnd h hat (List.cons.inj hids).1.symm
      obtain rfl := (List.cons.inj hids).2
      obtain ⟨rfl, rfl⟩ := ih (hchildren _ (List.mem_of_getElem? h)) hbelow'
      exact ⟨rfl, rfl⟩

/-! ## 2. Replanting -/

end Subtree

/-- A node with a number from `r` on, and without a state. -/
def NodeInfo.Fresh (r : NodeRef) (i : NodeInfo) : Prop := r ≤ i.ref ∧ i.state = none

open Subtree

/-- Every node stays at its position.  At each of the places there is a fresh node, where
    the old one was if there was one. -/
structure Replants (r : NodeRef) (places : List (List String)) (ts ts' : List Subtree) :
    Prop where
  kept : ∀ {pos ids i}, At ts pos ids i → ids ∉ places → At ts' pos ids i
  renewed : ∀ {pos ids i}, At ts pos ids i → ids ∈ places → ∃ j, At ts' pos ids j ∧ j.Fresh r
  present : ∀ {ids}, ids ∈ places → ∃ pos j, At ts' pos ids j ∧ j.Fresh r

namespace Replants

variable {r r' : NodeRef} {places more : List (List String)} {ts ts' ts'' : List Subtree}

theorem refl (r : NodeRef) (ts : List Subtree) : Replants r [] ts ts :=
  ⟨fun h _ => h, fun _ hmem => absurd hmem List.not_mem_nil,
    fun hmem => absurd hmem List.not_mem_nil⟩

theorem mono (h : Replants r' places ts ts') (hle : r ≤ r') : Replants r places ts ts' := by
  refine ⟨h.kept, fun hat hmem => ?_, fun hmem => ?_⟩
  · obtain ⟨j, hj, hfresh⟩ := h.renewed hat hmem
    exact ⟨j, hj, hle.trans hfresh.1, hfresh.2⟩
  · obtain ⟨pos, j, hj, hfresh⟩ := h.present hmem
    exact ⟨pos, j, hj, hle.trans hfresh.1, hfresh.2⟩

/-- A fresh node that is replaced again is still fresh. -/
theorem trans (h : Replants r places ts ts') (h' : Replants r more ts' ts'') :
    Replants r (places ++ more) ts ts'' := by
  have hfresh : ∀ {pos ids j}, At ts' pos ids j → j.Fresh r →
      ∃ j', At ts'' pos ids j' ∧ j'.Fresh r := by
    intro pos ids j hat hj
    by_cases hmore : ids ∈ more
    · exact h'.renewed hat hmore
    · exact ⟨j, h'.kept hat hmore, hj⟩
  refine ⟨fun hat hmem => ?_, fun {pos ids i} hat hmem => ?_, fun {ids} hmem => ?_⟩
  · rw [List.mem_append, not_or] at hmem
    exact h'.kept (h.kept hat hmem.1) hmem.2
  · by_cases hplaces : ids ∈ places
    · obtain ⟨j, hj, hnew⟩ := h.renewed hat hplaces
      exact hfresh hj hnew
    · exact h'.renewed (h.kept hat hplaces) ((List.mem_append.mp hmem).resolve_left hplaces)
  · rcases List.mem_append.mp hmem with hplaces | hmore
    · obtain ⟨pos, j, hj, hnew⟩ := h.present hplaces
      obtain ⟨j', hj', hnew'⟩ := hfresh hj hnew
      exact ⟨pos, j', hj', hnew'⟩
    · exact h'.present hmore

/-! ### 2.1 A level with a key -/

variable {α : Type} {key : α → String} {k : String} {l : List α} (tree : α → Subtree)

theorem getElem?_tree {tree : α → Subtree} {n : Nat} {t : Subtree} (h : (l.map tree)[n]? = some t) :
    ∃ x, l[n]? = some x ∧ tree x = t := by
  rwa [List.getElem?_map, Option.map_eq_some_iff] at h

/-- **What happens below one node** happens to the level. -/
theorem replace (hkey : ∀ x, (tree x).info.id = key x) (hnd : (l.map key).Nodup) {old new : α}
    (hfind : l.find? (key · = k) = some old) (hinfo : (tree new).info = (tree old).info)
    (h : Replants r places (tree old).children (tree new).children) :
    Replants r (places.map (k :: ·)) (l.map tree)
      ((l.map fun x => if key x = k then new else x).map tree) := by
  have hk : key old = k := key_of_find? hfind
  have hid : (tree new).info.id = k := by rw [hinfo, hkey, hk]
  have hreplace : ∀ {n : Nat} {x : α}, l[n]? = some x →
      ((l.map fun x => if key x = k then new else x).map tree)[n]? =
        some (tree (if key x = k then new else x)) := fun hx => by
    rw [List.getElem?_map, List.getElem?_map, hx, Option.map_some, Option.map_some]
  -- the node with the key is the old one, and the new one comes into its position
  have hhere : ∀ {n : Nat} {x : α}, l[n]? = some x → key x = k → x = old ∧
      ((l.map fun x => if key x = k then new else x).map tree)[n]? = some (tree new) := by
    intro n x hx hkx
    have hat := hreplace hx
    rw [if_pos hkx] at hat
    exact ⟨eq_of_key_eq hnd (List.mem_of_getElem? hx) (List.mem_of_find?_eq_some hfind)
      (hkx.trans hk.symm), hat⟩
  refine ⟨fun {pos ids i} hat hmem => ?_, fun {pos ids i} hat hmem => ?_, fun {ids} hmem => ?_⟩
  · obtain ⟨n, t, hn, hway⟩ := hat.start
    obtain ⟨x, hx, rfl⟩ := getElem?_tree hn
    by_cases hkx : key x = k
    · obtain ⟨rfl, hx'⟩ := hhere hx hkx
      rcases hway with ⟨rfl, rfl, rfl⟩ | ⟨rest, ids, rfl, rfl, hinside⟩
      · exact hinfo ▸ At.here hx'
      · have hout : ids ∉ places := fun hin =>
          hmem (List.mem_map.mpr ⟨ids, hin, by rw [hkey, hkx]⟩)
        exact hinfo ▸ At.inside hx' (h.kept hinside hout)
    · have hx' := hreplace hx
      rw [if_neg hkx] at hx'
      rcases hway with ⟨rfl, rfl, rfl⟩ | ⟨rest, ids, rfl, rfl, hinside⟩
      · exact .here hx'
      · exact .inside hx' hinside
  · obtain ⟨ids, hids, rfl⟩ := List.mem_map.mp hmem
    obtain ⟨n, t, hn, hway⟩ := hat.start
    obtain ⟨x, hx, rfl⟩ := getElem?_tree hn
    rcases hway with ⟨rfl, heq, rfl⟩ | ⟨rest, ids', rfl, heq, hinside⟩
    · obtain ⟨pos, j, hj, -⟩ := h.present hids
      exact absurd (List.cons.inj heq).2 hj.ids_ne_nil
    · obtain ⟨hkx, rfl⟩ := List.cons.inj heq
      obtain ⟨rfl, hx'⟩ := hhere hx ((hkey x).symm.trans hkx.symm)
      obtain ⟨j, hj, hfresh⟩ := h.renewed hinside hids
      exact ⟨j, .of_id_inside hx' hid hj, hfresh⟩
  · obtain ⟨ids, hids, rfl⟩ := List.mem_map.mp hmem
    obtain ⟨pos, j, hj, hfresh⟩ := h.present hids
    obtain ⟨n, hn⟩ := List.mem_iff_getElem?.mp (List.mem_of_find?_eq_some hfind)
    exact ⟨n :: pos, j, .of_id_inside (hhere hn hk).2 hid hj, hfresh⟩

theorem getElem?_append_left {n : Nat} {t : Subtree} (h : (l.map tree)[n]? = some t) (new : α) :
    ((l ++ [new]).map tree)[n]? = some t := by
  rw [List.map_append, List.getElem?_append_left (List.getElem?_eq_some_iff.mp h).1, h]

theorem getElem?_append_last (new : α) :
    ((l ++ [new]).map tree)[l.length]? = some (tree new) := by
  rw [List.map_append, List.getElem?_append_right (by rw [List.length_map])]
  simp

/-- Nodes of a level that all have other ids are not below a node with this id. -/
theorem not_below (hkey : ∀ x, (tree x).info.id = key x) (hfind : l.find? (key · = k) = none)
    {pos : List Nat} {ids : List String} {i : NodeInfo} (hat : At (l.map tree) pos (k :: ids) i) :
    False := by
  obtain ⟨n, t, hn, hway⟩ := hat.start
  obtain ⟨x, hx, rfl⟩ := getElem?_tree hn
  have hne := key_ne_of_find?_none hfind x (List.mem_of_getElem? hx)
  rcases hway with ⟨-, heq, -⟩ | ⟨rest, ids', -, heq, -⟩
  · exact hne ((hkey x).symm.trans (List.cons.inj heq).1.symm)
  · exact hne ((hkey x).symm.trans (List.cons.inj heq).1.symm)

theorem at_append {pos : List Nat} {ids : List String} {i : NodeInfo}
    (hat : At (l.map tree) pos ids i) (new : α) : At ((l ++ [new]).map tree) pos ids i := by
  cases hat with
  | here hn => exact .here (getElem?_append_left tree hn new)
  | inside hn hbelow => exact .inside (getElem?_append_left tree hn new) hbelow

/-- **A new node** comes to the end of the level, with what is below it. -/
theorem append (hkey : ∀ x, (tree x).info.id = key x) (hfind : l.find? (key · = k) = none)
    {new : α} (hnew : key new = k) (h : Replants r places [] (tree new).children) :
    Replants r (places.map (k :: ·)) (l.map tree) ((l ++ [new]).map tree) := by
  refine ⟨fun hat _ => at_append tree hat new, fun hat hmem => ?_, fun hmem => ?_⟩
  · obtain ⟨ids, -, rfl⟩ := List.mem_map.mp hmem
    exact (not_below tree hkey hfind hat).elim
  · obtain ⟨ids, hids, rfl⟩ := List.mem_map.mp hmem
    obtain ⟨pos, j, hj, hfresh⟩ := h.present hids
    have hid : (tree new).info.id = k := (hkey new).trans hnew
    exact ⟨l.length :: pos, j, .of_id_inside (getElem?_append_last tree new) hid hj, hfresh⟩

/-! ### 2.2 Tests -/

variable {tests : List NodeInfo} {new : NodeInfo}

theorem at_leaves {pos : List Nat} {ids : List String} {i : NodeInfo} :
    At (tests.map .leaf) pos ids i ↔ ∃ n, tests[n]? = some i ∧ pos = [n] ∧ ids = [i.id] := by
  constructor
  · intro hat
    obtain ⟨n, t, hn, hway⟩ := hat.start
    obtain ⟨x, hx, rfl⟩ := getElem?_tree hn
    rcases hway with ⟨rfl, rfl, rfl⟩ | ⟨rest, ids', rfl, rfl, hinside⟩
    · exact ⟨n, hx, rfl, rfl⟩
    · obtain ⟨m, t, hm, -⟩ := hinside.start
      cases hm
  · rintro ⟨n, hn, rfl, rfl⟩
    exact At.of_id (by rw [List.getElem?_map, hn]; rfl) (rfl : (leaf i).info.id = i.id)

/-- A test gives way to a fresh one. -/
theorem leaf_replace {old : NodeInfo} (hfind : tests.find? (·.id = k) = some old) (hid : new.id = k)
    (hfresh : new.Fresh r) :
    Replants r [[k]] (tests.map .leaf)
      ((tests.map fun t => if t.id = k then new else t).map .leaf) := by
  have hk : old.id = k := @key_of_find? _ (fun t : NodeInfo => t.id) _ _ _ hfind
  have hreplace : ∀ {n : Nat} {i : NodeInfo}, tests[n]? = some i →
      (tests.map fun t => if t.id = k then new else t)[n]? = some (if i.id = k then new else i) :=
    fun hn => by rw [List.getElem?_map, hn, Option.map_some]
  have hnew : ∀ {n : Nat} {i : NodeInfo}, tests[n]? = some i → i.id = k →
      At ((tests.map fun t => if t.id = k then new else t).map .leaf) [n] [k] new := by
    intro n i hn hi
    have hat := hreplace hn
    rw [if_pos hi] at hat
    exact at_leaves.mpr ⟨n, hat, rfl, by rw [hid]⟩
  refine ⟨fun hat hmem => ?_, fun hat hmem => ?_, fun hmem => ?_⟩
  · obtain ⟨n, hn, rfl, rfl⟩ := at_leaves.mp hat
    rw [List.mem_singleton, List.singleton_inj] at hmem
    have hstay := hreplace hn
    rw [if_neg hmem] at hstay
    exact at_leaves.mpr ⟨n, hstay, rfl, rfl⟩
  · obtain ⟨n, hn, rfl, rfl⟩ := at_leaves.mp hat
    rw [List.mem_singleton, List.singleton_inj] at hmem
    exact ⟨new, hmem ▸ hnew hn hmem, hfresh⟩
  · obtain rfl := List.mem_singleton.mp hmem
    obtain ⟨n, hn⟩ := List.mem_iff_getElem?.mp (List.mem_of_find?_eq_some hfind)
    exact ⟨[n], new, hnew hn hk, hfresh⟩

/-- A fresh test comes to the end. -/
theorem leaf_append (hfind : tests.find? (·.id = k) = none) (hid : new.id = k)
    (hfresh : new.Fresh r) :
    Replants r [[k]] (tests.map .leaf) ((tests ++ [new]).map .leaf) := by
  refine ⟨fun hat _ => at_append leaf hat new, fun hat hmem => ?_, fun hmem => ?_⟩
  · obtain rfl := List.mem_singleton.mp hmem
    exact (not_below leaf (fun _ => rfl) hfind hat).elim
  · obtain rfl := List.mem_singleton.mp hmem
    exact ⟨[tests.length], new, .of_id (getElem?_append_last leaf new) hid, hfresh⟩

end Replants

/-! ## 3. Books that go on -/

/-- Later books: nodes that had a number keep what they stood for, or have left. -/
structure Books.Continues (b b' : Books) : Prop where
  grows : b.nextRef ≤ b'.nextRef
  keeps : ∀ r < b.nextRef, b'.meaning? r = b.meaning? r ∨ b'.meaning? r = none

namespace Books.Continues

variable {b b' b'' : Books}

theorem refl (b : Books) : b.Continues b := ⟨Nat.le_refl _, fun _ _ => .inl rfl⟩

theorem trans (h : b.Continues b') (h' : b'.Continues b'') : b.Continues b'' := by
  refine ⟨h.grows.trans h'.grows, fun r hr => ?_⟩
  rcases h'.keeps r (Nat.lt_of_lt_of_le hr h.grows) with hkeep | hnone
  · rw [hkeep]
    exact h.keeps r hr
  · exact .inr hnone

theorem enter (b : Books) (m : Meaning) : b.Continues (b.enter m).2 :=
  ⟨Nat.le_succ _, fun _ hr => .inl (meaning?_enter_of_ne b m (Nat.ne_of_lt hr))⟩

theorem depart (b : Books) (t : Subtree) (parent : Option NodeRef) :
    b.Continues (b.depart t parent) := by
  refine ⟨Nat.le_refl _, fun r _ => ?_⟩
  rw [meaning?_depart]
  split
  · exact .inr rfl
  · exact .inl rfl

end Books.Continues

/-! ## 4. The four levels -/

@[simp] theorem SuiteNode.info_enter (s : SuiteNode) (b : Books) (path : Path) (d : Declaration) :
    (s.enter b path d).1.info = s.info := by
  unfold enter
  dsimp only
  split <;> rfl

theorem SuiteNode.continues_enter (s : SuiteNode) (b : Books) (path : Path) (d : Declaration) :
    b.Continues (s.enter b path d).2 := by
  unfold enter
  dsimp only
  split
  · exact .enter b _
  · exact (Books.Continues.enter b _).trans (.depart _ _ _)

theorem SuiteNode.replants_enter (s : SuiteNode) (b : Books)
    (path : Path) (d : Declaration) :
    Replants b.nextRef [[d.qualifiedName]] s.subtree.children
      (s.enter b path d).1.subtree.children := by
  unfold enter
  dsimp only
  split
  case h_1 hfind => exact Replants.leaf_append hfind rfl ⟨Nat.le_refl _, rfl⟩
  case h_2 old hfind => exact Replants.leaf_replace hfind rfl ⟨Nat.le_refl _, rfl⟩

@[simp] theorem FileNode.info_enter (f : FileNode) (b : Books) (path : Path) (d : Declaration) :
    (f.enter b path d).1.info = f.info := by
  unfold enter
  dsimp only
  split <;> rfl

theorem FileNode.continues_enter (f : FileNode) (b : Books) (path : Path) (d : Declaration) :
    b.Continues (f.enter b path d).2 := by
  unfold enter
  dsimp only
  split
  · exact SuiteNode.continues_enter _ b path d
  · exact (Books.Continues.enter b _).trans (SuiteNode.continues_enter ..)

theorem FileNode.replants_enter {f : FileNode} {b : Books} {path : Path} {d : Declaration}
    (h : (f.outline b.meaning?).Distinct) :
    Replants b.nextRef [d.place] f.subtree.children (f.enter b path d).1.subtree.children := by
  unfold enter
  dsimp only
  split
  case h_1 s hfind =>
    exact Replants.replace SuiteNode.subtree (fun _ => rfl) (nodup_ids h) hfind
      (s.info_enter b path d) (s.replants_enter b path d)
  case h_2 hfind =>
    have hsuite := SuiteNode.replants_enter
      { info := { ref := b.nextRef, id := d.receiver.getD "", label := d.receiver.getD "",
                  path := path } }
      (b.enter (.runnable (.suite ⟨d.receiver.getD "", d.kind⟩))).2 path d
    refine Replants.append SuiteNode.subtree (fun _ => rfl) hfind ?_
      (hsuite.mono (Nat.le_succ _))
    exact congrArg NodeInfo.id (SuiteNode.info_enter ..)

@[simp] theorem FileNode.info_enterAll (path : Path) (ds : List Declaration) (f : FileNode)
    (b : Books) : (f.enterAll b path ds).1.info = f.info := by
  induction ds generalizing f b with
  | nil => rfl
  | cons d ds ih => exact (ih _ _).trans (f.info_enter b path d)

theorem FileNode.continues_enterAll (path : Path) (ds : List Declaration) (f : FileNode)
    (b : Books) : b.Continues (f.enterAll b path ds).2 := by
  induction ds generalizing f b with
  | nil => exact .refl b
  | cons d ds ih => exact (f.continues_enter b path d).trans (ih _ _)

/-- **The tests of a file,** one after the other: the ids stay distinct, so each of them
    finds at most one node to replace. -/
theorem FileNode.replants_enterAll (path : Path) {rest : List NodeRef} (ds : List Declaration) :
    ∀ {b : Books} {f : FileNode}, b.Tracks (f.refs ++ rest) → (f.outline b.meaning?).Distinct →
      Replants b.nextRef (ds.map (·.place)) f.subtree.children
        (f.enterAll b path ds).1.subtree.children := by
  induction ds with
  | nil => exact fun _ _ => .refl _ _
  | cons d ds ih =>
    intro b f ht h
    have hd := @FileNode.becomes_enter b f path d h
    have hshow : (f.enter b path d).1.outline (f.enter b path d).2.meaning? =
        (f.outline b.meaning?).enter path d := hd.shows rest ht
    have hrest := ih (hd.turns.tracks rest ht) (hshow ▸ h.enter path d)
    exact (replants_enter h).trans (hrest.mono (f.continues_enter b path d).grows)

@[simp] theorem PackageNode.info_enter (p : PackageNode) (b : Books) (path : Path)
    (ds : List Declaration) : (p.enter b path ds).1.info = p.info := by
  unfold enter
  dsimp only
  split <;> rfl

theorem PackageNode.continues_enter (p : PackageNode) (b : Books) (path : Path)
    (ds : List Declaration) : b.Continues (p.enter b path ds).2 := by
  unfold enter
  dsimp only
  split
  · exact FileNode.continues_enterAll path ds _ b
  · exact (Books.Continues.enter b _).trans (FileNode.continues_enterAll ..)

theorem PackageNode.replants_enter {b : Books} {p : PackageNode} {rest : List NodeRef}
    (ht : b.Tracks (p.refs ++ rest)) (h : (p.outline b.meaning?).Distinct) (path : Path)
    (ds : List Declaration) :
    Replants b.nextRef ((ds.map (·.place)).map (path.stem :: ·)) p.subtree.children
      (p.enter b path ds).1.subtree.children := by
  unfold enter
  dsimp only
  split
  case h_1 f hfind =>
    have hmem := List.mem_of_find?_eq_some hfind
    have hp : b.Tracks (PackageNode.shape.refs p ++ rest) := ht
    obtain ⟨rest', ht'⟩ := Shape.tracks_of_mem hp hmem
    exact Replants.replace FileNode.subtree (fun _ => rfl) (nodup_ids h) hfind
      (FileNode.info_enterAll path ds f b)
      (FileNode.replants_enterAll path ds ht' (distinct_file h hmem))
  case h_2 hfind =>
    have hempty : FileNode.shape.Comes b (b.enter .file).2
        { info := { ref := b.nextRef, id := path.stem, label := path.name, path := path } }
        (.empty path) := Shape.comes_node rfl rfl
    have hdistinct := congrArg FileOutline.Distinct (hempty.shows _ ht)
    have hfile := FileNode.replants_enterAll path ds (hempty.turns.tracks _ ht)
      (hdistinct.mpr (FileOutline.distinct_empty path))
    refine Replants.append FileNode.subtree (fun _ => rfl) hfind ?_
      (hfile.mono (Nat.le_succ _))
    exact congrArg NodeInfo.id (FileNode.info_enterAll ..)

theorem Catalog.continues_enterFile (c : Catalog) (path : Path) (package : String)
    (ds : List Declaration) : c.books.Continues (c.enterFile path package ds).books := by
  unfold Catalog.enterFile
  dsimp only
  split
  · exact PackageNode.continues_enter _ c.books path ds
  · exact (Books.Continues.enter c.books _).trans (PackageNode.continues_enter ..)

/-- **Entering a file** replants the tree at the places of its tests. -/
theorem Catalog.replants_enterFile {c : Catalog} (ht : c.books.Tracks c.refs)
    (h : DistinctIds c.outline) (path : Path) (package : String) (ds : List Declaration) :
    Replants c.books.nextRef
      (((ds.map (·.place)).map (path.stem :: ·)).map (packageId path.parent package :: ·))
      c.trees (c.enterFile path package ds).trees := by
  unfold Catalog.enterFile
  dsimp only
  split
  case h_1 p hfind =>
    have hmem := List.mem_of_find?_eq_some hfind
    have ht' : c.books.Tracks (PackageNode.shape.list.refs c.packages ++ []) := by
      rw [List.append_nil]; exact ht
    obtain ⟨pre, post, hl⟩ := List.append_of_mem hmem
    have hperm : c.refs.Perm (p.refs ++ (pre.flatMap (·.refs) ++ post.flatMap (·.refs))) := by
      rw [Catalog.refs, hl, List.flatMap_append, List.flatMap_cons]
      exact List.perm_append_comm_assoc ..
    exact Replants.replace PackageNode.subtree (fun _ => rfl) (nodup_ids h) hfind
      (p.info_enter c.books path ds)
      (PackageNode.replants_enter (ht.perm hperm) (distinct_package h hmem) path ds)
  case h_2 hfind =>
    have hempty : PackageNode.shape.Comes c.books (c.books.enter .package).2
        { info := { ref := c.books.nextRef, id := packageId path.parent package,
                    label := c.packageLabel path.parent package, path := path.parent } }
        (.empty (c.packageLabel path.parent package) path.parent package) :=
      Shape.comes_node rfl rfl
    have hdistinct := congrArg PackageOutline.Distinct (hempty.shows _ ht)
    have hpackage := PackageNode.replants_enter (hempty.turns.tracks _ ht)
      (hdistinct.mpr (PackageOutline.distinct_empty ..)) path ds
    refine Replants.append PackageNode.subtree (fun _ => rfl) hfind ?_
      (hpackage.mono (Nat.le_succ _))
    exact congrArg NodeInfo.id (PackageNode.info_enter ..)

/-! ## 5. Positions and entries -/

section Entries

variable {α β : Type} {μ : Reading}

/-- The nodes at the positions of a level are its entries, if it is so below each node. -/
theorem mem_entriesBelow_iff_at (tree : α → Subtree) (out : α → β) {key : β → String}
    {view : β → List Entry} {l : List α} (hkey : ∀ x, key (out x) = (tree x).info.id)
    (hview : ∀ x, ∀ e, e ∈ view (out x) ↔ e = ⟨[], (tree x).info.outline μ⟩ ∨
      ∃ pos i, At (tree x).children pos e.ids i ∧ e.node = i.outline μ) (e : Entry) :
    e ∈ entriesBelow key view (l.map out) ↔
      ∃ pos i, At (l.map tree) pos e.ids i ∧ e.node = i.outline μ := by
  rw [mem_entriesBelow]
  constructor
  · rintro ⟨y, hy, e', he', rfl⟩
    obtain ⟨x, hx, rfl⟩ := List.mem_map.mp hy
    obtain ⟨n, hn⟩ := List.mem_iff_getElem?.mp hx
    have hat : (l.map tree)[n]? = some (tree x) := by rw [List.getElem?_map, hn]; rfl
    rcases (hview x e').mp he' with rfl | ⟨pos, i, hinside, hnode⟩
    · exact ⟨[n], (tree x).info, .of_id hat (hkey x).symm, rfl⟩
    · exact ⟨n :: pos, i, .of_id_inside hat (hkey x).symm hinside, hnode⟩
  · rintro ⟨pos, i, hat, hnode⟩
    obtain ⟨n, t, hn, hway⟩ := hat.start
    obtain ⟨x, hx, rfl⟩ := Replants.getElem?_tree hn
    obtain ⟨ids, node⟩ := e
    obtain rfl : node = i.outline μ := hnode
    refine ⟨out x, List.mem_map_of_mem (List.mem_of_getElem? hx), ?_⟩
    rw [hkey]
    rcases hway with ⟨rfl, rfl, rfl⟩ | ⟨rest, ids', rfl, rfl, hinside⟩
    · exact ⟨⟨[], (tree x).info.outline μ⟩, (hview x _).mpr (.inl rfl), rfl⟩
    · exact ⟨⟨ids', i.outline μ⟩, (hview x _).mpr (.inr ⟨rest, i, hinside, rfl⟩), rfl⟩

theorem SuiteNode.mem_view_iff_at (s : SuiteNode) (e : Entry) : e ∈ (s.outline μ).view ↔
    e = ⟨[], s.info.outline μ⟩ ∨
      ∃ pos i, At s.subtree.children pos e.ids i ∧ e.node = i.outline μ := by
  rw [SuiteOutline.view, List.mem_cons]
  refine or_congr_right (mem_entriesBelow_iff_at .leaf (·.outline μ) (fun _ => rfl)
    (fun t e => ?_) e)
  rw [List.mem_singleton]
  refine (or_iff_left ?_).symm
  rintro ⟨pos, i, hat, -⟩
  obtain ⟨n, t, hn, -⟩ := hat.start
  cases hn

theorem FileNode.mem_view_iff_at (f : FileNode) (e : Entry) : e ∈ (f.outline μ).view ↔
    e = ⟨[], f.info.outline μ⟩ ∨
      ∃ pos i, At f.subtree.children pos e.ids i ∧ e.node = i.outline μ := by
  rw [FileOutline.view, List.mem_cons]
  exact or_congr_right (mem_entriesBelow_iff_at SuiteNode.subtree (·.outline μ) (fun _ => rfl)
    SuiteNode.mem_view_iff_at e)

theorem PackageNode.mem_view_iff_at (p : PackageNode) (e : Entry) : e ∈ (p.outline μ).view ↔
    e = ⟨[], p.info.outline μ⟩ ∨
      ∃ pos i, At p.subtree.children pos e.ids i ∧ e.node = i.outline μ := by
  rw [PackageOutline.view, List.mem_cons]
  exact or_congr_right (mem_entriesBelow_iff_at FileNode.subtree (·.outline μ) (fun _ => rfl)
    FileNode.mem_view_iff_at e)

end Entries

namespace Catalog

/-- **The entries are the nodes at the positions of the tree.** -/
theorem mem_entries_iff_at {c : Catalog} {e : Entry} :
    e ∈ c.entries ↔ ∃ pos i, At c.trees pos e.ids i ∧ e.node = i.outline c.meaning? := by
  rw [entries, entriesOf_eq]
  exact mem_entriesBelow_iff_at PackageNode.subtree (·.outline c.meaning?) (fun _ => rfl)
    PackageNode.mem_view_iff_at e

end Catalog

theorem Subtree.distinct_map {α : Type} (tree : α → Subtree) {l : List α}
    (hnd : (l.map fun x => (tree x).info.id).Nodup)
    (hinside : ∀ x ∈ l, Subtree.Distinct (tree x).children) : Subtree.Distinct (l.map tree) := by
  refine ⟨by rwa [List.map_map], fun t ht => ?_⟩
  obtain ⟨x, hx, rfl⟩ := List.mem_map.mp ht
  exact hinside x hx

/-- **In a sound catalog no two siblings have the same id.** -/
theorem Catalog.Sound.distinct_trees {c : Catalog} (h : c.Sound) : Subtree.Distinct c.trees := by
  refine distinct_map PackageNode.subtree (nodup_ids h.distinct) fun p hp => ?_
  have hp' := distinct_package h.distinct hp
  refine distinct_map FileNode.subtree (PackageNode.nodup_ids hp') fun f hf => ?_
  have hf' := PackageNode.distinct_file hp' hf
  refine distinct_map SuiteNode.subtree (FileNode.nodup_ids hf') fun s hs => ?_
  have hs' := FileNode.distinct_suite hf' hs
  refine distinct_map leaf (SuiteNode.nodup_ids hs') fun t _ => ?_
  exact ⟨List.nodup_nil, fun t ht => absurd ht List.not_mem_nil⟩

end SuiteExplorer
