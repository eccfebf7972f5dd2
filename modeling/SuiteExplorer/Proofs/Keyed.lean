/-
  SuiteExplorer/Proofs/Keyed.lean
  ===============================
  **Lists in which a key finds an element.**

  Every level of the catalog keeps its nodes in a list and finds one of them by
  its id: packages by directory and name, files by their stem, suites by their
  receiver, tests by their qualified name.  What enters a level either gives way
  to the element with its key, in its place, or goes to the end.  `upsert` is that
  one operation; as long as the keys are distinct, exactly one element changes
  (`find?_split`), the keys stay distinct (`nodup_keys_upsert`), and membership is
  what one expects (`mem_upsert`).  `alter` changes the element with a key where it is,
  and entering once more after a change forgets the first entry (`upsert_alter_upsert`).
-/
import Mathlib.Data.List.Nodup

namespace SuiteExplorer.Keyed

variable {α β : Type} {key : α → String} {k : String} {l : List α}

/-- Replace the element with a key by what comes of it; without one, what comes of
    nothing goes to the end. -/
def upsert (key : α → String) (k : String) (f : Option α → α) (l : List α) : List α :=
  match l.find? (key · = k) with
  | some old => l.map fun x => if key x = k then f (some old) else x
  | none => l ++ [f none]

/-! ## 1. The element with a key -/

theorem key_of_find? {old : α} (h : l.find? (key · = k) = some old) : key old = k := by
  simpa using List.find?_some h

theorem key_ne_of_find?_none (h : l.find? (key · = k) = none) : ∀ x ∈ l, key x ≠ k := by
  intro x hx
  simpa using List.find?_eq_none.mp h x hx

/-- What is found under a key, or made under it, has the key. -/
theorem key_getD_find? (key : α → String) {made : α} (h : key made = k) :
    key ((l.find? (key · = k)).getD made) = k := by
  cases hfind : l.find? (key · = k) with
  | none => exact h
  | some old => exact key_of_find? hfind

/-- Where no element has the key, replacing changes nothing. -/
theorem map_replace_of_ne {new : α} (h : ∀ x ∈ l, key x ≠ k) :
    (l.map fun x => if key x = k then new else x) = l := by
  calc (l.map fun x => if key x = k then new else x)
      = l.map id := List.map_congr_left fun x hx => by rw [if_neg (h x hx), id]
    _ = l := List.map_id l

/-- An element splits the list into elements that have other keys. -/
theorem split_of_mem (hnd : (l.map key).Nodup) {x : α} (hx : x ∈ l) :
    ∃ pre post, l = pre ++ x :: post ∧ (∀ y ∈ pre, key y ≠ key x) ∧ ∀ y ∈ post, key y ≠ key x := by
  obtain ⟨pre, post, rfl⟩ := List.append_of_mem hx
  rw [List.map_append, List.map_cons, List.nodup_append] at hnd
  obtain ⟨-, hpost, hpre⟩ := hnd
  refine ⟨pre, post, rfl, fun y hy => ?_, fun y hy hky => ?_⟩
  · exact hpre (key y) (List.mem_map_of_mem hy) (key x) List.mem_cons_self
  · exact (List.nodup_cons.mp hpost).1 (hky ▸ List.mem_map_of_mem hy)

/-- **One element changes.**  The element with the key splits the list, and replacing
    it leaves both sides alone. -/
theorem find?_split {old : α} (hnd : (l.map key).Nodup)
    (h : l.find? (key · = k) = some old) :
    ∃ pre post, l = pre ++ old :: post ∧
      ∀ new, (l.map fun x => if key x = k then new else x) = pre ++ new :: post := by
  have hk : key old = k := key_of_find? h
  obtain ⟨pre, post, rfl, hpre, hpost⟩ := split_of_mem hnd (List.mem_of_find?_eq_some h)
  refine ⟨pre, post, rfl, fun new => ?_⟩
  rw [hk] at hpre hpost
  rw [List.map_append, List.map_cons, map_replace_of_ne hpre, map_replace_of_ne hpost, if_pos hk]

/-- Elements with distinct keys are equal as soon as their keys are. -/
theorem eq_of_key_eq (hnd : (l.map key).Nodup) {x y : α} (hx : x ∈ l) (hy : y ∈ l)
    (h : key x = key y) : x = y :=
  List.inj_on_of_nodup_map hnd hx hy h

/-- Elements with distinct keys are a list as soon as their keys are. -/
theorem eq_of_map_eq {l' : List α} (hnd : (l.map key).Nodup)
    (hkeys : l'.map key = l.map key) (hmem : ∀ x ∈ l', x ∈ l) : l' = l := by
  have hlength : l'.length = l.length := by simpa using congrArg List.length hkeys
  refine List.ext_getElem hlength fun i hi hi' => ?_
  refine eq_of_key_eq hnd (hmem _ (List.getElem_mem hi)) (List.getElem_mem hi') ?_
  have hat : (l'.map key)[i]? = (l.map key)[i]? := by rw [hkeys]
  simpa [hi, hi'] using hat

theorem find?_of_mem (hnd : (l.map key).Nodup) {x : α} (hx : x ∈ l) (hk : key x = k) :
    l.find? (key · = k) = some x := by
  cases h : l.find? (key · = k) with
  | none => exact absurd hk (key_ne_of_find?_none h x hx)
  | some y =>
    rw [eq_of_key_eq hnd (List.mem_of_find?_eq_some h) hx ((key_of_find? h).trans hk.symm)]

/-- Changing all elements and dropping some of them does so to the one with a key. -/
theorem find?_filter_map (hnd : (l.map key).Nodup) {change : α → α} (keep : α → Bool)
    (hkey : ∀ x, key (change x) = key x) :
    ((l.map change).filter keep).find? (key · = k) =
      ((l.find? (key · = k)).map change).filter keep := by
  have hkeys : (((l.map change).filter keep).map key).Nodup := by
    have hsame : (l.map change).map key = l.map key := by
      rw [List.map_map]
      exact List.map_congr_left fun x _ => hkey x
    exact (List.filter_sublist.map key).nodup (hsame ▸ hnd)
  cases h : l.find? (key · = k) with
  | none =>
    refine List.find?_eq_none.mpr fun y hy => ?_
    obtain ⟨x, hx, rfl⟩ := List.mem_map.mp (List.mem_filter.mp hy).1
    rw [hkey]
    simpa using key_ne_of_find?_none h x hx
  | some x =>
    have hx := List.mem_of_find?_eq_some h
    have hk : key (change x) = k := (hkey x).trans (key_of_find? h)
    rw [Option.map_some]
    by_cases hkeep : keep (change x) = true
    · rw [Option.filter_some_pos hkeep]
      exact find?_of_mem hkeys (List.mem_filter.mpr ⟨List.mem_map_of_mem hx, hkeep⟩) hk
    · rw [Option.filter_some_neg (Bool.eq_false_iff.mpr hkeep)]
      refine List.find?_eq_none.mpr fun y hy hky => hkeep ?_
      -- what has the key has been made of the element with the key
      obtain ⟨hy, hkept⟩ := List.mem_filter.mp hy
      obtain ⟨z, hz, rfl⟩ := List.mem_map.mp hy
      rw [decide_eq_true_eq, hkey] at hky
      rwa [eq_of_key_eq hnd hx hz ((key_of_find? h).trans hky.symm)]

/-! ## 2. Entering -/

variable {f : Option α → α}

theorem upsert_of_find? {old : α} (h : l.find? (key · = k) = some old) :
    upsert key k f l = l.map fun x => if key x = k then f (some old) else x := by
  rw [upsert, h]

theorem upsert_of_find?_none (h : l.find? (key · = k) = none) :
    upsert key k f l = l ++ [f none] := by
  rw [upsert, h]

/-- The keys stay distinct when what enters has the key under which it enters. -/
theorem nodup_keys_upsert (hnd : (l.map key).Nodup) (hnone : key (f none) = k)
    (hsome : ∀ x ∈ l, key x = k → key (f (some x)) = k) :
    ((upsert key k f l).map key).Nodup := by
  cases h : l.find? (key · = k) with
  | none =>
    rw [upsert_of_find?_none h, List.map_append, List.map_singleton, hnone,
      List.nodup_append]
    refine ⟨hnd, List.nodup_singleton k, ?_⟩
    intro a ha b hb
    obtain ⟨x, hx, rfl⟩ := List.mem_map.mp ha
    rw [List.mem_singleton.mp hb]
    exact key_ne_of_find?_none h x hx
  | some old =>
    have hnew : key (f (some old)) = key old :=
      (hsome old (List.mem_of_find?_eq_some h) (key_of_find? h)).trans (key_of_find? h).symm
    obtain ⟨pre, post, rfl, hreplace⟩ := find?_split hnd h
    rw [upsert_of_find? h, hreplace, List.map_append, List.map_cons, hnew, ← List.map_cons,
      ← List.map_append]
    exact hnd

/-- What is in the list afterwards: the element that entered, and all others. -/
theorem mem_upsert {y : α} :
    y ∈ upsert key k f l ↔ y = f (l.find? (key · = k)) ∨ (y ∈ l ∧ key y ≠ k) := by
  cases h : l.find? (key · = k) with
  | none =>
    rw [upsert_of_find?_none h, List.mem_append, List.mem_singleton, or_comm]
    exact or_congr_right ⟨fun hy => ⟨hy, key_ne_of_find?_none h y hy⟩, And.left⟩
  | some old =>
    rw [upsert_of_find? h, List.mem_map]
    constructor
    · rintro ⟨x, hx, rfl⟩
      by_cases hk : key x = k
      · exact Or.inl (if_pos hk)
      · rw [if_neg hk]; exact Or.inr ⟨hx, hk⟩
    · rintro (rfl | ⟨hy, hk⟩)
      · exact ⟨old, List.mem_of_find?_eq_some h, if_pos (key_of_find? h)⟩
      · exact ⟨y, hy, if_neg hk⟩

/-- A property of all elements survives an entry if the entering element has it. -/
theorem forall_mem_upsert {P : α → Prop} (hl : ∀ x ∈ l, P x) (hnone : P (f none))
    (hsome : ∀ x ∈ l, key x = k → P (f (some x))) : ∀ x ∈ upsert key k f l, P x := by
  intro x hx
  rcases mem_upsert.mp hx with rfl | ⟨hmem, -⟩
  · cases h : l.find? (key · = k) with
    | none => exact hnone
    | some old => exact hsome old (List.mem_of_find?_eq_some h) (key_of_find? h)
  · exact hl x hmem

/-- Where an element gives way, the list looks the same as long as the element does. -/
theorem map_upsert {view : α → β} {x : α} (h : l.find? (key · = k) = some x)
    (hview : view (f (some x)) = view x) (hnd : (l.map key).Nodup) :
    (upsert key k f l).map view = l.map view := by
  obtain ⟨pre, post, rfl, hreplace⟩ := find?_split hnd h
  rw [upsert_of_find? h, hreplace, List.map_append, List.map_append, List.map_cons, List.map_cons,
    hview]

/-- What enters and is there already changes nothing. -/
theorem upsert_eq_self (hnd : (l.map key).Nodup) {x : α} (hx : x ∈ l) (hk : key x = k)
    (hf : f (some x) = x) : upsert key k f l = l := by
  rw [upsert_of_find? (find?_of_mem hnd hx hk), hf]
  refine (List.map_congr_left fun y hy => ?_).trans (List.map_id l)
  by_cases hky : key y = k
  · rw [if_pos hky, eq_of_key_eq hnd hy hx (hky.trans hk.symm)]
    rfl
  · rw [if_neg hky]
    rfl

/-! ## 3. Changing the element with a key -/

/-- Change the element with a key, if there is one. -/
def alter (key : α → String) (k : String) (change : α → α) (l : List α) : List α :=
  l.map fun x => if key x = k then change x else x

variable {change change' : α → α}

theorem alter_of_ne (h : ∀ x ∈ l, key x ≠ k) : alter key k change l = l :=
  (List.map_congr_left fun x hx => if_neg (h x hx)).trans (List.map_id l)

theorem upsert_eq_alter {old : α} (h : l.find? (key · = k) = some old) :
    upsert key k f l = alter key k (fun _ => f (some old)) l :=
  upsert_of_find? h

theorem alter_alter (hkey : ∀ x, key x = k → key (change x) = k) :
    alter key k change' (alter key k change l) = alter key k (change' ∘ change) l := by
  rw [alter, alter, List.map_map]
  refine List.map_congr_left fun x _ => ?_
  by_cases hk : key x = k
  · simp [hk, hkey x hk]
  · simp [hk]

theorem find?_alter (hkey : ∀ x, key x = k → key (change x) = k) :
    (alter key k change l).find? (key · = k) = (l.find? (key · = k)).map change := by
  have hsame : ((fun x => decide (key x = k)) ∘ fun x => if key x = k then change x else x) =
      fun x => decide (key x = k) := by
    funext x
    by_cases hk : key x = k
    · simp [hk, hkey x hk]
    · simp [hk]
  rw [alter, List.find?_map, hsame]
  cases h : l.find? (key · = k) with
  | none => rfl
  | some x => rw [Option.map_some, Option.map_some, if_pos (key_of_find? h)]

/-- **Entering, changing and entering again** is changing and entering, if it is so for
    the element. -/
theorem upsert_alter_upsert (hkey : ∀ x, key x = k → key (change x) = k)
    (hnone : key (f none) = k) (hsome : ∀ x, key x = k → key (f (some x)) = k)
    (hnew : f (some (change (f none))) = f none)
    (hold : ∀ x, f (some (change (f (some x)))) = f (some (change x))) :
    upsert key k f (alter key k change (upsert key k f l)) =
      upsert key k f (alter key k change l) := by
  cases h : l.find? (key · = k) with
  | none =>
    have hne := key_ne_of_find?_none h
    have hentered : alter key k change (l ++ [f none]) = l ++ [change (f none)] := by
      rw [alter, List.map_append, ← alter, alter_of_ne hne, List.map_singleton, if_pos hnone]
    have hfind : (l ++ [change (f none)]).find? (key · = k) = some (change (f none)) := by
      rw [List.find?_append, h, Option.none_or]
      simp [hkey _ hnone]
    rw [upsert_of_find?_none h, hentered, alter_of_ne hne, upsert_of_find?_none h,
      upsert_eq_alter hfind, hnew, alter, List.map_append, ← alter, alter_of_ne hne,
      List.map_singleton, if_pos (hkey _ hnone)]
  | some x =>
    have hk : key x = k := key_of_find? h
    have hconst : ∀ y, key y = k → key (f (some x)) = k := fun _ _ => hsome x hk
    have hentered : (alter key k change (upsert key k f l)).find? (key · = k) =
        some (change (f (some x))) := by
      rw [find?_alter hkey, upsert_eq_alter h, find?_alter hconst, h, Option.map_some,
        Option.map_some]
    have hchanged : (alter key k change l).find? (key · = k) = some (change x) := by
      rw [find?_alter hkey, h, Option.map_some]
    have hboth : ∀ y, key y = k → key ((change ∘ fun _ => f (some x)) y) = k :=
      fun y hy => hkey _ (hconst y hy)
    rw [upsert_eq_alter hentered, upsert_eq_alter hchanged, hold, upsert_eq_alter h,
      alter_alter hconst, alter_alter hboth, alter_alter hkey]
    rfl

/-! ## 4. Two entries -/

/-- What enters is found under its key. -/
theorem find?_upsert_self (hkey : key (f (l.find? (key · = k))) = k) :
    (upsert key k f l).find? (key · = k) = some (f (l.find? (key · = k))) := by
  cases h : l.find? (key · = k) with
  | none =>
    rw [h] at hkey
    rw [upsert_of_find?_none h, List.find?_append, h, Option.none_or]
    simp [hkey]
  | some old =>
    rw [h] at hkey
    rw [upsert_eq_alter h, find?_alter fun _ _ => hkey, h, Option.map_some]

/-- An entry does not touch what other keys find. -/
theorem find?_upsert_of_ne {k' : String} (hne : k' ≠ k)
    (hkey : key (f (l.find? (key · = k))) = k) :
    (upsert key k f l).find? (key · = k') = l.find? (key · = k') := by
  cases h : l.find? (key · = k) with
  | none =>
    rw [h] at hkey
    have hother : [f none].find? (key · = k') = none := by simp [hkey, hne.symm]
    rw [upsert_of_find?_none h, List.find?_append, hother, Option.or_none]
  | some old =>
    rw [h] at hkey
    have hsame : ((fun x => decide (key x = k')) ∘ fun x => if key x = k then f (some old) else x) =
        fun x => decide (key x = k') := by
      funext x
      by_cases hk : key x = k
      · simp [hk, hkey, hne.symm]
      · simp [hk]
    rw [upsert_of_find? h, List.find?_map, hsame]
    cases hfind : l.find? (key · = k') with
    | none => rfl
    | some x =>
      have hk : key x ≠ k := fun heq => hne ((key_of_find? hfind).symm.trans heq)
      rw [Option.map_some, if_neg hk]

/-- Entries under two keys may be made in either order. -/
theorem mem_upsert_comm {k' : String} {f' : Option α → α} (hne : k' ≠ k)
    (hkey : key (f (l.find? (key · = k))) = k) (hkey' : key (f' (l.find? (key · = k'))) = k')
    {y : α} :
    y ∈ upsert key k' f' (upsert key k f l) ↔ y ∈ upsert key k f (upsert key k' f' l) := by
  rw [mem_upsert, mem_upsert, mem_upsert, mem_upsert, find?_upsert_of_ne hne hkey,
    find?_upsert_of_ne hne.symm hkey']
  constructor
  · rintro (rfl | ⟨rfl | ⟨hy, hk⟩, hk'⟩)
    · exact .inr ⟨.inl rfl, fun heq => hne (hkey'.symm.trans heq)⟩
    · exact .inl rfl
    · exact .inr ⟨.inr ⟨hy, hk'⟩, hk⟩
  · rintro (rfl | ⟨rfl | ⟨hy, hk'⟩, hk⟩)
    · exact .inr ⟨.inl rfl, fun heq => hne (heq.symm.trans hkey)⟩
    · exact .inl rfl
    · exact .inr ⟨.inr ⟨hy, hk⟩, hk'⟩

/-- A second entry under a key is made into what the first one has left. -/
theorem mem_upsert_upsert {f' : Option α → α} (hkey : key (f (l.find? (key · = k))) = k) {y : α} :
    y ∈ upsert key k f' (upsert key k f l) ↔
      y = f' (some (f (l.find? (key · = k)))) ∨ (y ∈ l ∧ key y ≠ k) := by
  rw [mem_upsert, find?_upsert_self hkey, mem_upsert]
  constructor
  · rintro (rfl | ⟨rfl | hy, hk⟩)
    · exact .inl rfl
    · exact absurd hkey hk
    · exact .inr hy
  · rintro (rfl | hy)
    · exact .inl rfl
    · exact .inr ⟨.inr hy, hy.2⟩

end SuiteExplorer.Keyed
