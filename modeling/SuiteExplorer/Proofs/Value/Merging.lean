/-
  SuiteExplorer/Proofs/Value/Merging.lean
  =======================================
  **The laws of laying values over each other.**

  Entries with distinct keys are known from their keys, in order, and from what each key
  leads to (`Entries.ext`).  Of entries laid over others both are known: the keys are those of
  the lower ones and then what is new in the upper ones (`Entries.keys_overlayEntries`).  So
  each law is one about a single key, and holds by induction on how values are nested.

  Laying over is associative but for one case: if, at one path, the outer two of three values
  have mappings and the middle one something else, then it matters whether the middle one
  first hides the lower mapping or is first hidden by the upper one (`Parted`).
-/
import SuiteExplorer.Proofs.Value.Layers

namespace SuiteExplorer

/-! ## 1. Keys -/

namespace Entries

variable {base es es' : Entries}

/-- Those of some keys that are not among the entries. -/
def newTo (base : Entries) (ks : List Atom) : List Atom :=
  ks.filter fun k => k.identity ∉ identities base

theorem identity_mem {k : Atom} (h : k ∈ es.keys) : k.identity ∈ identities es := by
  rw [identities_eq]
  exact List.mem_map_of_mem h

/-- **Entries are known from their keys and from what those lead to.** -/
theorem ext (hes : Distinct es) (hkeys : es.keys = es'.keys)
    (hget : ∀ key, get? es key = get? es' key) : es = es' := by
  induction es generalizing es' with
  | nil =>
    cases es' with
    | nil => rfl
    | cons e es' => cases hkeys
  | cons e es ih =>
    obtain ⟨k, v⟩ := e
    cases es' with
    | nil => cases hkeys
    | cons e' es' =>
      obtain ⟨k', v'⟩ := e'
      obtain ⟨rfl, hrest⟩ := List.cons.inj hkeys
      obtain ⟨hnew, hdistinct⟩ := List.nodup_cons.mp hes
      have hnew' : k.identity ∉ identities es' := by
        have hsame : identities es = identities es' := by
          rw [identities_eq, identities_eq]
          exact congrArg (List.map (·.identity)) hrest
        rwa [← hsame]
      have hfirst := hget k
      rw [get?_cons, get?_cons, if_pos rfl, if_pos rfl, Option.some.injEq] at hfirst
      have hlater : ∀ key, get? es key = get? es' key := by
        intro key
        by_cases h : k.identity = key.identity
        · rw [← get?_congr es h, ← get?_congr es' h, get?_eq_none hnew, get?_eq_none hnew']
        · have hkey := hget key
          rwa [get?_cons, get?_cons, if_neg h, if_neg h] at hkey
      rw [hfirst, ih hdistinct hrest hlater]

theorem keys_overlayEntries (hes : Distinct es) (base : Entries) :
    keys (Value.overlayEntries base es) = keys base ++ newTo base (keys es) := by
  induction es generalizing base with
  | nil => simp [Value.overlayEntries, keys, newTo]
  | cons e es ih =>
    obtain ⟨k, v⟩ := e
    obtain ⟨hnew, hrest⟩ := List.nodup_cons.mp hes
    rw [Value.overlayEntries, ih hrest]
    have hkeys : keys ((k, v) :: es) = k :: keys es := rfl
    by_cases h : k.identity ∈ identities base
    · have hsame : ∀ u, identities (set k u base) = identities base := by
        intro u
        rw [identities_set, if_pos h]
      rw [keys_set, if_pos h, newTo, newTo, hsame, hkeys, List.filter_cons_of_neg (by simpa using h)]
    · have hlonger : ∀ u, identities (set k u base) = identities base ++ [k.identity] := by
        intro u
        rw [identities_set, if_neg h]
      -- none of the other keys is this one, so the same of them are new
      have hothers : ∀ k' ∈ keys es, k'.identity ≠ k.identity := by
        intro k' hk' heq
        have hmem := identity_mem hk'
        rw [heq] at hmem
        exact hnew hmem
      rw [keys_set, if_neg h, newTo, newTo, hlonger, hkeys, List.filter_cons_of_pos (by simpa using h),
        List.append_assoc, List.singleton_append]
      congr 2
      apply List.filter_congr
      intro k' hk'
      simp [hothers k' hk']

theorem newTo_eq_nil {ks : List Atom} (h : ∀ k ∈ ks, k.identity ∈ identities base) :
    newTo base ks = [] := by
  rw [newTo, List.filter_eq_nil_iff]
  intro k hk
  simpa using h k hk

theorem mem_identities_overlayEntries (hes : Distinct es) (base : Entries) (i : Identity) :
    i ∈ identities (Value.overlayEntries base es) ↔ i ∈ identities base ∨ i ∈ identities es := by
  simp only [identities_eq, keys_overlayEntries hes, List.map_append, List.mem_append, newTo,
    List.mem_map, List.mem_filter, decide_eq_true_eq]
  constructor
  · rintro (hbase | ⟨k, ⟨hk, -⟩, rfl⟩)
    · exact .inl hbase
    · exact .inr ⟨k, hk, rfl⟩
  · rintro (hbase | ⟨k, hk, rfl⟩)
    · exact .inl hbase
    · by_cases h : ∃ a ∈ base.keys, a.identity = k.identity
      · exact .inl h
      · exact .inr ⟨k, ⟨hk, h⟩, rfl⟩

end Entries

/-! ## 2. The laws -/

namespace Value

open Entries

variable {a b c v : Value} {base es : Entries}

/-- Nothing laid over a mapping. -/
theorem overlay_empty (base : Entries) : (map base).overlay (map []) = map base := by
  rw [overlay_map, overlayEntries]

/-- A mapping laid over nothing. -/
theorem empty_overlay (h : Distinct es) : (map []).overlay (map es) = map es := by
  rw [overlay_map]
  congr 1
  apply Entries.ext (distinct_nil.overlayEntries es)
  · rw [keys_overlayEntries h]
    simp [keys, newTo, identities]
  · intro key
    rw [get?_overlayEntries h]
    exact layered_none_left _

/-- **A value laid over itself** is itself. -/
theorem overlay_self (h : v.Proper) : v.overlay v = v := by
  induction h with
  | map es hes _ ih =>
    rw [overlay_map]
    congr 1
    apply Entries.ext (hes.overlayEntries es)
    · rw [keys_overlayEntries hes, newTo_eq_nil fun k hk => identity_mem hk, List.append_nil]
    · intro key
      rw [get?_overlayEntries hes]
      cases hget : Entries.get? es key with
      | none => rfl
      | some u =>
        obtain ⟨k, hmem⟩ := mem_of_get? hget
        exact congrArg some (ih (k, u) hmem)
  | atom | list | tuple | set | again => exact overlay_of_not_isMap rfl _

/-- **Laid over twice** is laid over once. -/
theorem overlay_overlay_self (hb : b.Proper) (ha : a.Proper) :
    (a.overlay b).overlay b = a.overlay b := by
  induction hb generalizing a with
  | map es hes hproper ih =>
    cases hmap : a.isMap with
    | false =>
      rw [overlay_of_not_isMap_below hmap]
      exact overlay_self (.map es hes hproper)
    | true =>
      cases a with
      | atom | list | tuple | set | again => cases hmap
      | map base =>
        rw [overlay_map, overlay_map]
        congr 1
        apply Entries.ext ((ha.distinct.overlayEntries es).overlayEntries es)
        · rw [keys_overlayEntries hes, newTo_eq_nil, List.append_nil]
          intro k hk
          exact (mem_identities_overlayEntries hes base _).mpr (.inr (identity_mem hk))
        · intro key
          rw [get?_overlayEntries hes, get?_overlayEntries hes]
          cases hget : Entries.get? es key with
          | none => exact layered_none_right _
          | some u =>
            obtain ⟨k, hmem⟩ := mem_of_get? hget
            cases hbase : Entries.get? base key with
            | none => exact congrArg some (overlay_self (hproper (k, u) hmem))
            | some x => exact congrArg some (ih (k, u) hmem (ha.get? hbase))
  | atom | list | tuple | set | again =>
    rw [overlay_of_not_isMap rfl, overlay_of_not_isMap rfl]

/-- **What is no mapping wins** wherever the upper value has it. -/
theorem at?_overlay_of_not_isMap (hb : b.Proper) (a : Value) {path : List Atom}
    (hv : b.at? path = some v) (hmap : v.isMap = false) : (a.overlay b).at? path = some v := by
  have hopen : b.hides path = false := by
    cases hhides : b.hides path with
    | false => rfl
    | true =>
      rw [at?_of_hides hhides] at hv
      cases hv
  rw [at?_overlay hb, hopen, if_neg Bool.false_ne_true, hv]
  cases a.at? path with
  | none => rfl
  | some x => exact congrArg some (overlay_of_not_isMap hmap x)

/-! ### 2.1 Three values -/

/-- At some path the outer two of three values have mappings and the middle one has something
    else. -/
def Parted (a b c : Value) : Prop :=
  ∃ path x y z, a.at? path = some x ∧ b.at? path = some y ∧ c.at? path = some z ∧
    x.isMap = true ∧ y.isMap = false ∧ z.isMap = true

/-- **Of three values it does not matter** which two are laid over each other first, if they are
    not parted. -/
theorem overlay_assoc (hc : c.Proper) (ha : a.Proper) (hb : b.Proper) (h : ¬ Parted a b c) :
    (a.overlay b).overlay c = a.overlay (b.overlay c) := by
  induction hc generalizing a b with
  | map cs hcs hproper ih =>
    cases hbmap : b.isMap with
    | false =>
      have hamap : a.isMap = false := by
        rw [← Bool.not_eq_true]
        intro hamap
        exact h ⟨[], a, b, map cs, rfl, rfl, rfl, hamap, hbmap, rfl⟩
      rw [overlay_of_not_isMap hbmap, overlay_of_not_isMap_below hbmap,
        overlay_of_not_isMap_below hamap]
    | true =>
      cases hamap : a.isMap with
      | false => rw [overlay_of_not_isMap_below hamap, overlay_of_not_isMap_below hamap]
      | true =>
        cases a with
        | atom | list | tuple | set | again => cases hamap
        | map as =>
          cases b with
          | atom | list | tuple | set | again => cases hbmap
          | map bs =>
            have has := ha.distinct
            have hbs := hb.distinct
            have hbcs := hbs.overlayEntries cs
            simp only [overlay_map]
            congr 1
            apply Entries.ext ((has.overlayEntries bs).overlayEntries cs)
            · have hnew : ∀ ks, newTo (overlayEntries as bs) ks = newTo as (newTo bs ks) := by
                intro ks
                simp only [newTo, List.filter_filter, mem_identities_overlayEntries hbs]
                apply List.filter_congr
                intro k _
                simp
              rw [keys_overlayEntries hcs, keys_overlayEntries hbs, keys_overlayEntries hbcs,
                keys_overlayEntries hcs, hnew, List.append_assoc]
              simp [newTo]
            · intro key
              rw [get?_overlayEntries hcs, get?_overlayEntries hbs, get?_overlayEntries hbcs,
                get?_overlayEntries hcs]
              cases hz : Entries.get? cs key with
              | none => simp
              | some z =>
                cases hy : Entries.get? bs key with
                | none => simp
                | some y =>
                  cases hx : Entries.get? as key with
                  | none => simp
                  | some x =>
                    obtain ⟨k, hmem⟩ := mem_of_get? hz
                    refine congrArg some (ih (k, z) hmem (ha.get? hx) (hb.get? hy) ?_)
                    rintro ⟨path, x', y', z', hx', hy', hz', hparted⟩
                    refine h ⟨key :: path, x', y', z', ?_, ?_, ?_, hparted⟩
                    · rw [at?_map, hx, Option.bind_some, hx']
                    · rw [at?_map, hy, Option.bind_some, hy']
                    · rw [at?_map, hz, Option.bind_some]
                      exact hz'
  | atom | list | tuple | set | again =>
    rw [overlay_of_not_isMap rfl, overlay_of_not_isMap rfl, overlay_of_not_isMap rfl]

-- if they are parted, the one in the middle hides what is below it, or is hidden before
example :
    let a := map [("k", map [("x", int 1)])]
    let b := map [("k", int 0)]
    let c := map [("k", map [])]
    ((a.overlay b).overlay c).at? ["k", "x"] = none ∧
      (a.overlay (b.overlay c)).at? ["k", "x"] = some (int 1) :=
  ⟨rfl, rfl⟩

end Value
end SuiteExplorer
