/-
  SuiteExplorer/Proofs/Catalog/Books.lean
  =======================================
  **The books know exactly the nodes they are said to know.**

  `Books.Tracks b live` says that the index has a meaning for the nodes `live` and
  for no others, that no number occurs twice among them, and that the next number
  is above them all.  `Books.Apart b` says that the nodes that have left the catalog
  stand for nothing.

  Every operation of the catalog is a chain of small changes, each of which takes
  some nodes out and brings some in.  `Books.Turns b b' gone come` states one such
  change together with its frame: whatever other nodes the books know, they know
  them afterwards, and know them to stand for what they stood for.  Changes compose
  (`Turns.trans`) and may be read inside any surrounding nodes (`Turns.inside`), so
  the walk down a tree needs no bookkeeping of its own.
-/
import Mathlib.Data.List.Perm.Basic
import SuiteExplorer.Catalog.Books

namespace SuiteExplorer

/-! ## 1. The numbers of trees -/

namespace Subtree

/-- The numbers of the nodes of several trees. -/
def refsOf (ts : List Subtree) : List NodeRef := (infosOf ts).map (·.ref)

@[simp] theorem infosOf_nil : infosOf [] = [] := rfl

@[simp] theorem infosOf_cons (t : Subtree) (ts : List Subtree) :
    infosOf (t :: ts) = t.infos ++ infosOf ts := rfl

@[simp] theorem infosOf_append (ts us : List Subtree) :
    infosOf (ts ++ us) = infosOf ts ++ infosOf us := by
  induction ts with
  | nil => rfl
  | cons t ts ih => rw [List.cons_append, infosOf_cons, infosOf_cons, ih, List.append_assoc]

@[simp] theorem refsOf_nil : refsOf [] = [] := rfl

@[simp] theorem refsOf_cons (t : Subtree) (ts : List Subtree) :
    refsOf (t :: ts) = t.refs ++ refsOf ts := by
  simp only [refsOf, refs, infosOf_cons, List.map_append]

@[simp] theorem refsOf_append (ts us : List Subtree) :
    refsOf (ts ++ us) = refsOf ts ++ refsOf us := by
  simp only [refsOf, infosOf_append, List.map_append]

@[simp] theorem refs_node (i : NodeInfo) (cs : List Subtree) :
    (node i cs).refs = i.ref :: refsOf cs := rfl

@[simp] theorem refs_leaf (i : NodeInfo) : (leaf i).refs = [i.ref] := rfl

theorem ref_mem_refs (t : Subtree) : t.info.ref ∈ t.refs := by
  cases t with
  | node i cs => exact List.mem_cons_self

theorem refs_eq (t : Subtree) : t.refs = t.info.ref :: refsOf t.children := by
  cases t with
  | node i cs => exact refs_node i cs

theorem mem_refsOf {ts : List Subtree} {r : NodeRef} : r ∈ refsOf ts ↔ ∃ t ∈ ts, r ∈ t.refs := by
  induction ts with
  | nil => simp
  | cons t ts ih => simp [ih]

theorem mem_infosOf {ts : List Subtree} {i : NodeInfo} : i ∈ infosOf ts ↔ ∃ t ∈ ts, i ∈ t.infos := by
  induction ts with
  | nil => simp
  | cons t ts ih => simp [ih]

end Subtree

namespace Books

/-! ## 2. What an entry and a departure do to the index -/

@[simp] theorem meaning?_enter_self (b : Books) (m : Meaning) :
    (b.enter m).2.meaning? b.nextRef = some m := by
  simp [enter, meaning?]

theorem meaning?_enter_of_ne (b : Books) (m : Meaning) {r : NodeRef} (h : r ≠ b.nextRef) :
    (b.enter m).2.meaning? r = b.meaning? r := by
  simp [enter, meaning?, Ne.symm h]

theorem meaning?_forget (b : Books) (rs : List NodeRef) (r : NodeRef) :
    (b.forget rs).meaning? r = if r ∈ rs then none else b.meaning? r := by
  unfold forget meaning?
  rw [List.find?_filter]
  split
  · rename_i h
    rw [Option.map_eq_none_iff, List.find?_eq_none]
    intro e _ he
    simp only [List.contains_eq_mem, Bool.not_eq_eq_eq_not, Bool.not_true,
      decide_eq_false_iff_not, decide_eq_true_eq] at he
    exact he.1 (he.2 ▸ h)
  · rename_i h
    congr 2
    funext e
    by_cases he : e.1 = r
    · subst he; simp [h]
    · simp [he]

theorem meaning?_depart (b : Books) (t : Subtree) (parent : Option NodeRef) (r : NodeRef) :
    (b.depart t parent).meaning? r = if r ∈ t.refs then none else b.meaning? r :=
  meaning?_forget b t.refs r

@[simp] theorem departAll_cons (b : Books) (t : Subtree) (ts : List Subtree) :
    b.departAll (t :: ts) = (b.depart t).departAll ts := rfl

theorem meaning?_departAll (ts : List Subtree) (b : Books) (r : NodeRef) :
    (b.departAll ts).meaning? r = if r ∈ Subtree.refsOf ts then none else b.meaning? r := by
  induction ts generalizing b with
  | nil => simp [departAll]
  | cons t ts ih =>
    rw [departAll_cons, ih, meaning?_depart, Subtree.refsOf_cons]
    by_cases h : r ∈ Subtree.refsOf ts <;> simp [h]

@[simp] theorem nextRef_departAll (ts : List Subtree) (b : Books) :
    (b.departAll ts).nextRef = b.nextRef := by
  induction ts generalizing b with
  | nil => rfl
  | cons t ts ih => exact ih (b.depart t)

theorem departed_departAll (ts : List Subtree) (b : Books) :
    (b.departAll ts).departed = b.departed ++ ts.map (⟨·, none⟩) := by
  induction ts generalizing b with
  | nil => simp [departAll]
  | cons t ts ih =>
    rw [departAll_cons, ih, List.map_cons, ← List.singleton_append, ← List.append_assoc]
    rfl

/-- Only the entries of what leaves are taken out of the index. -/
theorem index_departAll (ts : List Subtree) (b : Books) :
    (b.departAll ts).index = b.index.filter fun e => e.1 ∉ Subtree.refsOf ts := by
  induction ts generalizing b with
  | nil => simp [departAll]
  | cons t ts ih =>
    rw [departAll_cons, ih]
    simp only [depart, forget, List.filter_filter]
    refine List.filter_congr fun e _ => ?_
    simp [Bool.and_comm]

/-! ## 3. Knowing exactly some nodes -/

/-- The index has a meaning for exactly these nodes, each of them once. -/
structure Tracks (b : Books) (live : List NodeRef) : Prop where
  distinct : live.Nodup
  known : ∀ r, (b.meaning? r).isSome ↔ r ∈ live
  bounded : ∀ r ∈ live, r < b.nextRef

/-- Nodes that have left the catalog stand for nothing. -/
def Apart (b : Books) : Prop :=
  ∀ d ∈ b.departed, ∀ r ∈ d.tree.refs, r < b.nextRef ∧ b.meaning? r = none

theorem Tracks.perm {b : Books} {live live' : List NodeRef} (h : b.Tracks live)
    (hp : live.Perm live') : b.Tracks live' where
  distinct := hp.nodup_iff.mp h.distinct
  known r := (h.known r).trans hp.mem_iff
  bounded r hr := h.bounded r (hp.mem_iff.mpr hr)

theorem tracks_nil {b : Books} (h : b.index = []) : b.Tracks [] where
  distinct := List.nodup_nil
  known r := by simp [meaning?, h]
  bounded r hr := by cases hr

/-- Whatever leaves, the nodes that stay are those that are not among it.  It need
    not have been known before. -/
theorem Tracks.departAll {b : Books} {live : List NodeRef} (h : b.Tracks live)
    (ts : List Subtree) :
    (b.departAll ts).Tracks (live.filter (· ∉ Subtree.refsOf ts)) where
  distinct := h.distinct.filter _
  known r := by
    rw [meaning?_departAll, List.mem_filter, ← h.known r]
    by_cases hr : r ∈ Subtree.refsOf ts <;> simp [hr]
  bounded r hr := by
    rw [nextRef_departAll]
    exact h.bounded r (List.mem_filter.mp hr).1

theorem Apart.departAll {b : Books} (h : b.Apart) {ts : List Subtree}
    (hts : ∀ r ∈ Subtree.refsOf ts, r < b.nextRef) : (b.departAll ts).Apart := by
  intro d hd r hr
  rw [departed_departAll, List.mem_append, List.mem_map] at hd
  rw [nextRef_departAll, meaning?_departAll]
  rcases hd with hd | ⟨t, ht, rfl⟩
  · obtain ⟨hlt, hnone⟩ := h d hd r hr
    exact ⟨hlt, by rw [hnone, ite_self]⟩
  · have hmem : r ∈ Subtree.refsOf ts := Subtree.mem_refsOf.mpr ⟨t, ht, hr⟩
    exact ⟨hts r hmem, if_pos hmem⟩

/-! ## 4. Changes of the books -/

/-- The books change from `b` to `b'`: the nodes `gone` leave, the nodes `come` are
    new, and all other nodes keep what they stand for. -/
structure Turns (b b' : Books) (gone come : List NodeRef) : Prop where
  tracks : ∀ rest, b.Tracks (gone ++ rest) → b'.Tracks (come ++ rest)
  frame : ∀ rest, b.Tracks (gone ++ rest) → ∀ r ∈ rest, b'.meaning? r = b.meaning? r
  apart : ∀ rest, b.Tracks (gone ++ rest) → b.Apart → b'.Apart

namespace Turns

variable {b b' b'' : Books} {gone come more : List NodeRef}

theorem refl (b : Books) (live : List NodeRef) : b.Turns b live live :=
  ⟨fun _ h => h, fun _ _ _ _ => rfl, fun _ _ h => h⟩

theorem trans (h : b.Turns b' gone come) (h' : b'.Turns b'' come more) : b.Turns b'' gone more where
  tracks rest ht := h'.tracks rest (h.tracks rest ht)
  frame rest ht r hr := (h'.frame rest (h.tracks rest ht) r hr).trans (h.frame rest ht r hr)
  apart rest ht ha := h'.apart rest (h.tracks rest ht) (h.apart rest ht ha)

/-- A change may be read among other nodes, which it leaves alone. -/
theorem inside (h : b.Turns b' gone come) (pre post : List NodeRef) :
    b.Turns b' (pre ++ gone ++ post) (pre ++ come ++ post) := by
  have hperm : ∀ mid rest : List NodeRef,
      (pre ++ mid ++ post ++ rest).Perm (mid ++ (pre ++ post ++ rest)) := by
    intro mid rest
    simp only [List.append_assoc]
    exact List.perm_append_comm_assoc ..
  refine ⟨fun rest ht => ?_, fun rest ht r hr => ?_, fun rest ht ha => ?_⟩
  · exact (h.tracks _ (ht.perm (hperm gone rest))).perm (hperm come rest).symm
  · exact h.frame _ (ht.perm (hperm gone rest)) r (List.mem_append_right _ hr)
  · exact h.apart _ (ht.perm (hperm gone rest)) ha

/-- The nodes around a change keep what they stand for. -/
theorem frame_inside (h : b.Turns b' gone come) {pre post : List NodeRef} {rest : List NodeRef}
    (ht : b.Tracks (pre ++ gone ++ post ++ rest)) :
    ∀ r, r ∈ pre ∨ r ∈ post → b'.meaning? r = b.meaning? r := by
  intro r hr
  have hperm : (pre ++ gone ++ post ++ rest).Perm (gone ++ (pre ++ post ++ rest)) := by
    simp only [List.append_assoc]
    exact List.perm_append_comm_assoc ..
  refine h.frame _ (ht.perm hperm) r ?_
  simp only [List.mem_append]
  exact Or.inl hr

end Turns

/-- A new node comes, and stands for what it is entered with. -/
theorem turns_enter (b : Books) (m : Meaning) : b.Turns (b.enter m).2 [] [b.nextRef] where
  tracks rest ht := by
    rw [List.nil_append] at ht
    have hfresh : b.nextRef ∉ rest := fun h => Nat.lt_irrefl _ (ht.bounded _ h)
    refine ⟨List.nodup_cons.mpr ⟨hfresh, ht.distinct⟩, fun r => ?_, fun r hr => ?_⟩
    · rw [List.singleton_append, List.mem_cons]
      by_cases h : r = b.nextRef
      · subst h; simp
      · rw [meaning?_enter_of_ne b m h, ht.known r]
        exact ⟨Or.inr, fun ho => ho.resolve_left h⟩
    · rcases List.mem_cons.mp hr with rfl | hr
      · exact Nat.lt_succ_self _
      · exact Nat.lt_succ_of_lt (ht.bounded r hr)
  frame rest ht r hr := meaning?_enter_of_ne b m fun h =>
    Nat.lt_irrefl _ (h ▸ ht.bounded r hr)
  apart rest ht ha := by
    intro d hd r hr
    obtain ⟨hlt, hnone⟩ := ha d hd r hr
    exact ⟨Nat.lt_succ_of_lt hlt, by rw [meaning?_enter_of_ne b m (Nat.ne_of_lt hlt), hnone]⟩

/-- Trees leave with all their nodes. -/
theorem turns_departAll (b : Books) (ts : List Subtree) :
    b.Turns (b.departAll ts) (Subtree.refsOf ts) [] where
  tracks rest ht := by
    have hdisj : ∀ r ∈ rest, r ∉ Subtree.refsOf ts := fun r hr hmem =>
      List.nodup_append.mp ht.distinct |>.2.2 r hmem r hr rfl
    have hkeep : rest.filter (· ∉ Subtree.refsOf ts) = rest :=
      List.filter_eq_self.mpr fun r hr => by simpa using hdisj r hr
    have hgone : (Subtree.refsOf ts).filter (· ∉ Subtree.refsOf ts) = [] :=
      List.filter_eq_nil_iff.mpr fun r hr => by simpa using hr
    have h := ht.departAll ts
    rwa [List.filter_append, hgone, hkeep] at h
  frame rest ht r hr := by
    rw [meaning?_departAll, if_neg]
    exact fun hmem => List.nodup_append.mp ht.distinct |>.2.2 r hmem r hr rfl
  apart rest ht ha := ha.departAll fun r hr => ht.bounded r (List.mem_append_left _ hr)

/-- A single tree leaves; what it was in before plays no part. -/
theorem turns_depart (b : Books) (t : Subtree) (parent : Option NodeRef) :
    b.Turns (b.depart t parent) t.refs [] := by
  have h := turns_departAll b [t]
  rw [Subtree.refsOf_cons, Subtree.refsOf_nil, List.append_nil] at h
  refine ⟨fun rest ht => ?_, fun rest ht => h.frame rest ht, fun rest ht ha => ?_⟩
  · have ht' := h.tracks rest ht
    exact ⟨ht'.distinct, ht'.known, ht'.bounded⟩
  · intro d hd r hr
    rcases List.mem_append.mp hd with hd | hd
    · exact h.apart rest ht ha d (List.mem_append_left _ hd) r hr
    · obtain rfl := List.mem_singleton.mp hd
      exact h.apart rest ht ha ⟨t, none⟩ (List.mem_append_right _ (List.mem_singleton_self _)) r hr

end Books
end SuiteExplorer
