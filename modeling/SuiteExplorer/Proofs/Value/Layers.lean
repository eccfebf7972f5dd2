/-
  SuiteExplorer/Proofs/Value/Layers.lean
  ======================================
  **Values laid over each other, seen along paths of keys.**

  A mapping is a list of entries, and a mapping in the proper sense only if no key comes
  twice, in it and in all that it holds (`Value.Proper`).  Then laying entries over
  others is told key by key (`Entries.get?_overlayEntries`), and laying a value over
  another one path by path (`Value.at?_overlay`): where the upper value has anything but
  a mapping on the way, it hides all of the lower one; else what lies at the end of the
  path in both is laid over each other again.

  So an end that is no mapping itself comes whole from one of the two values: the upper
  one, if it has anything there (`layered_eq_or`).
-/
import Mathlib.Data.List.Nodup
import SuiteExplorer.Value.Basic

namespace SuiteExplorer

/-! ## 1. Entries with distinct keys -/

/-- One value laid over another, where either may be missing. -/
def layered : Option Value → Option Value → Option Value
  | below, none => below
  | none, some v => some v
  | some b, some v => some (b.overlay v)

@[simp] theorem layered_none_right (below : Option Value) : layered below none = below := by
  cases below <;> rfl

@[simp] theorem layered_none_left (above : Option Value) : layered none above = above := by
  cases above <;> rfl

namespace Entries

/-- The keys, as they were first given. -/
def keys (es : Entries) : List Atom := es.map (·.1)

/-- What the keys stand for, in their order. -/
def identities (es : Entries) : List Identity := es.map (·.1.identity)

theorem identities_eq (es : Entries) : identities es = es.keys.map (·.identity) := by
  simp [identities, keys]

/-- No two keys are the same. -/
def Distinct (es : Entries) : Prop := (identities es).Nodup

instance (es : Entries) : Decidable (Distinct es) := inferInstanceAs (Decidable (List.Nodup _))

theorem distinct_nil : Distinct [] := List.nodup_nil

theorem get?_cons (k : Atom) (v : Value) (es : Entries) (key : Atom) :
    get? ((k, v) :: es) key = if k.identity = key.identity then some v else get? es key := by
  rw [get?, List.find?_cons]
  by_cases h : k.identity = key.identity
  · simp [Atom.same, h]
  · simp [Atom.same, h, get?]

theorem get?_congr {key key' : Atom} (es : Entries) (h : key.identity = key'.identity) :
    get? es key = get? es key' := by
  induction es with
  | nil => rfl
  | cons e es ih => rw [get?_cons, get?_cons, ih, h]

theorem get?_eq_none {es : Entries} {key : Atom} (h : key.identity ∉ identities es) :
    get? es key = none := by
  induction es with
  | nil => rfl
  | cons e es ih =>
    obtain ⟨hne, hrest⟩ := List.ne_and_not_mem_of_not_mem_cons h
    rw [get?_cons, if_neg (Ne.symm hne), ih hrest]

theorem mem_of_get? {es : Entries} {key : Atom} {v : Value} (h : get? es key = some v) :
    ∃ k, (k, v) ∈ es := by
  obtain ⟨e, he, rfl⟩ := Option.map_eq_some_iff.mp h
  exact ⟨e.1, List.mem_of_find?_eq_some he⟩

theorem get?_of_mem {es : Entries} (hes : Distinct es) {e : Atom × Value} (he : e ∈ es) :
    get? es e.1 = some e.2 := by
  induction es with
  | nil => cases he
  | cons d es ih =>
    obtain ⟨hnew, hrest⟩ := List.nodup_cons.mp hes
    rw [get?_cons]
    rcases List.mem_cons.mp he with rfl | he
    · exact if_pos rfl
    · have hne : d.1.identity ≠ e.1.identity := by
        intro heq
        have hmem : e.1.identity ∈ identities es := List.mem_map_of_mem he
        exact hnew (by rwa [← heq] at hmem)
      rw [if_neg hne, ih hrest he]

theorem get?_set (k : Atom) (v : Value) (es : Entries) (key : Atom) :
    get? (set k v es) key = if k.identity = key.identity then some v else get? es key := by
  induction es with
  | nil => rw [set, get?_cons]
  | cons e es ih =>
    obtain ⟨k', v'⟩ := e
    rw [set]
    by_cases h : k'.identity = k.identity
    · rw [if_pos (by simpa [Atom.same] using h), get?_cons, get?_cons, h]
      by_cases hkey : k.identity = key.identity <;> simp [hkey]
    · rw [if_neg (by simpa [Atom.same] using h), get?_cons, get?_cons, ih]
      by_cases hkey : k.identity = key.identity
      · have hne : k'.identity ≠ key.identity := fun heq => h (heq.trans hkey.symm)
        rw [if_neg hne, if_pos hkey, if_pos hkey]
      · rw [if_neg hkey, if_neg hkey]

theorem keys_set (k : Atom) (v : Value) (es : Entries) :
    (set k v es).keys = if k.identity ∈ identities es then es.keys else es.keys ++ [k] := by
  induction es with
  | nil => rfl
  | cons e es ih =>
    obtain ⟨k', v'⟩ := e
    rw [set]
    by_cases h : k'.identity = k.identity
    · rw [if_pos (by simpa [Atom.same] using h), if_pos (by simp [identities, h])]
      rfl
    · have hmem : k.identity ∈ identities ((k', v') :: es) ↔ k.identity ∈ identities es := by
        simp [identities, Ne.symm h]
      rw [if_neg (by simpa [Atom.same] using h)]
      simp only [hmem]
      change k' :: (set k v es).keys = _
      rw [ih]
      split <;> rfl

theorem identities_set (k : Atom) (v : Value) (es : Entries) :
    identities (set k v es) =
      if k.identity ∈ identities es then identities es else identities es ++ [k.identity] := by
  rw [identities_eq (set k v es), keys_set]
  split
  · exact (identities_eq es).symm
  · rw [List.map_append, ← identities_eq, List.map_singleton]

theorem Distinct.set {es : Entries} (h : Distinct es) (k : Atom) (v : Value) :
    Distinct (set k v es) := by
  rw [Distinct, identities_set]
  split
  case isTrue => exact h
  case isFalse hnot =>
    refine List.nodup_append.mpr ⟨h, List.nodup_singleton _, fun a ha b hb hab => hnot ?_⟩
    rwa [← List.mem_singleton.mp hb, ← hab]

/-- **Laying over, key by key.** -/
theorem get?_overlayEntries {es : Entries} (hes : Distinct es) (base : Entries) (key : Atom) :
    get? (Value.overlayEntries base es) key = layered (get? base key) (get? es key) := by
  induction es generalizing base with
  | nil => rw [Value.overlayEntries]; exact (layered_none_right _).symm
  | cons e es ih =>
    obtain ⟨k, v⟩ := e
    obtain ⟨hnew, hrest⟩ := List.nodup_cons.mp hes
    rw [Value.overlayEntries, ih hrest, get?_set, get?_cons]
    by_cases h : k.identity = key.identity
    · have hnone : get? es key = none := get?_eq_none (h ▸ hnew)
      rw [if_pos h, if_pos h, hnone, layered_none_right, get?_congr base h]
      cases get? base key <;> rfl
    · rw [if_neg h, if_neg h]

theorem Distinct.overlayEntries {base : Entries} (h : Distinct base) (es : Entries) :
    Distinct (Value.overlayEntries base es) := by
  induction es generalizing base with
  | nil => rwa [Value.overlayEntries]
  | cons e es ih =>
    rw [Value.overlayEntries]
    exact ih (h.set _ _)

end Entries

namespace Value

/-! ## 2. Proper values -/

/-- In each mapping that the value holds, no two keys are the same. -/
inductive Proper : Value → Prop
  | atom (a : Atom) : Proper (.atom a)
  | list (items : List Value) : (∀ v ∈ items, Proper v) → Proper (.list items)
  | tuple (items : List Value) : (∀ v ∈ items, Proper v) → Proper (.tuple items)
  | set (items : List Atom) : Proper (.set items)
  | map (es : Entries) : Entries.Distinct es → (∀ e ∈ es, Proper e.2) → Proper (.map es)
  | again (steps : Nat) (isMap : Bool) : Proper (.again steps isMap)

theorem Proper.distinct {es : Entries} (h : (Value.map es).Proper) : Entries.Distinct es := by
  cases h with
  | map _ hdistinct _ => exact hdistinct

theorem Proper.of_mem {es : Entries} (h : (Value.map es).Proper) {e : Atom × Value} (he : e ∈ es) :
    e.2.Proper := by
  cases h with
  | map _ _ hes => exact hes e he

theorem Proper.get? {es : Entries} (h : (Value.map es).Proper) {key : Atom} {v : Value}
    (hget : Entries.get? es key = some v) : v.Proper := by
  obtain ⟨k, hmem⟩ := Entries.mem_of_get? hget
  exact h.of_mem hmem

theorem proper_empty : (map []).Proper :=
  .map [] Entries.distinct_nil fun _ he => absurd he List.not_mem_nil

theorem mem_set {k : Atom} {v : Value} {es : Entries} {e : Atom × Value}
    (h : e ∈ Entries.set k v es) : e.2 = v ∨ e ∈ es := by
  induction es with
  | nil => exact Or.inl (congrArg Prod.snd (List.mem_singleton.mp h))
  | cons d es ih =>
    obtain ⟨k', v'⟩ := d
    rw [Entries.set] at h
    split at h
    · rcases List.mem_cons.mp h with rfl | h
      · exact Or.inl rfl
      · exact Or.inr (List.mem_cons_of_mem _ h)
    · rcases List.mem_cons.mp h with rfl | h
      · exact Or.inr List.mem_cons_self
      · exact (ih h).imp_right (List.mem_cons_of_mem _)

theorem Proper.set_entry {es : Entries} (h : (Value.map es).Proper) (k : Atom) {v : Value}
    (hv : v.Proper) : (Value.map (Entries.set k v es)).Proper := by
  refine .map _ (h.distinct.set k v) fun e he => ?_
  rcases mem_set he with heq | he
  · rwa [heq]
  · exact h.of_mem he

/-- Entries in which keys may come twice are read as a proper mapping. -/
theorem proper_ofList {es : Entries} (h : ∀ e ∈ es, e.2.Proper) :
    (map (Entries.ofList es)).Proper := by
  have hfold : ∀ (es acc : Entries), (∀ e ∈ es, e.2.Proper) → (map acc).Proper →
      (map (es.foldl (fun acc e => Entries.set e.1 e.2 acc) acc)).Proper := by
    intro es
    induction es with
    | nil => exact fun _ _ hacc => hacc
    | cons e es ih =>
      intro acc hes hacc
      exact ih _ (fun d hd => hes d (List.mem_cons_of_mem _ hd))
        (hacc.set_entry e.1 (hes e List.mem_cons_self))
  exact hfold es [] h proper_empty

theorem proper_overlayEntries {es : Entries}
    (hes : ∀ e ∈ es, e.2.Proper ∧ ∀ b : Value, b.Proper → (b.overlay e.2).Proper)
    {base : Entries} (hbase : (map base).Proper) : (map (overlayEntries base es)).Proper := by
  induction es generalizing base with
  | nil => rwa [overlayEntries]
  | cons e es ih =>
    obtain ⟨k, v⟩ := e
    rw [overlayEntries]
    refine ih (fun d hd => hes d (List.mem_cons_of_mem _ hd)) (hbase.set_entry k ?_)
    obtain ⟨hv, hover⟩ := hes (k, v) List.mem_cons_self
    cases hget : Entries.get? base k with
    | none => exact hv
    | some b => exact hover b (hbase.get? hget)

/-- Proper values are laid over each other to a proper one. -/
theorem Proper.overlay {v : Value} (hv : v.Proper) {b : Value} (hb : b.Proper) :
    (b.overlay v).Proper := by
  induction hv generalizing b with
  | map es hdistinct hes ih =>
    cases b with
    | map base =>
      rw [Value.overlay]
      exact proper_overlayEntries (fun e he => ⟨hes e he, fun _ => ih e he⟩) hb
    | atom | list | tuple | set | again =>
      simp only [Value.overlay]
      exact .map es hdistinct hes
  | atom a => exact .atom a
  | list items hitems => exact .list items hitems
  | tuple items hitems => exact .tuple items hitems
  | set items => exact .set items
  | again steps isMap => exact .again steps isMap

/-! ### 2.1 Values that hold themselves -/

theorem unrollItems_eq_map (outer : Value) (depth : Nat) (items : List Value) :
    unrollItems outer depth items = items.map (unroll outer depth) := by
  induction items with
  | nil => rfl
  | cons v items ih => rw [unrollItems, ih, List.map_cons]

theorem unrollEntries_eq_map (outer : Value) (depth : Nat) (es : Entries) :
    unrollEntries outer depth es = es.map fun e => (e.1, unroll outer depth e.2) := by
  induction es with
  | nil => rfl
  | cons e es ih => rw [unrollEntries, ih, List.map_cons]

/-- A change of the values leaves the keys alone. -/
theorem distinct_map {es : Entries} (h : Entries.Distinct es) (change : Value → Value) :
    Entries.Distinct (es.map fun e => (e.1, change e.2)) := by
  rw [Entries.Distinct, Entries.identities, List.map_map]
  exact h

theorem Proper.unroll {v outer : Value} (hv : v.Proper) (houter : outer.Proper) (depth : Nat) :
    (Value.unroll outer depth v).Proper := by
  induction hv generalizing depth with
  | atom a => exact .atom a
  | list items _ ih =>
    rw [Value.unroll, unrollItems_eq_map]
    refine .list _ fun v hv => ?_
    obtain ⟨u, hu, rfl⟩ := List.mem_map.mp hv
    exact ih u hu _
  | tuple items _ ih =>
    rw [Value.unroll, unrollItems_eq_map]
    refine .tuple _ fun v hv => ?_
    obtain ⟨u, hu, rfl⟩ := List.mem_map.mp hv
    exact ih u hu _
  | set items => exact .set items
  | map es hdistinct _ ih =>
    rw [Value.unroll, unrollEntries_eq_map]
    refine .map _ (distinct_map hdistinct _) fun e he => ?_
    obtain ⟨d, hd, rfl⟩ := List.mem_map.mp he
    exact ih d hd _
  | again steps isMap =>
    rw [Value.unroll]
    split
    · exact houter
    · exact .again steps isMap

theorem Proper.wholeTo {v : Value} (hv : v.Proper) (depth : Nat) : (v.wholeTo depth).Proper := by
  induction depth generalizing v with
  | zero => cases v <;> exact hv
  | succ depth ih =>
    cases v with
    | map es =>
      rw [Value.wholeTo, wholeEntries, Value.entries, unrollEntries_eq_map, List.map_map]
      have hdistinct :=
        distinct_map hv.distinct fun v => (Value.unroll (Value.map es) 0 v).wholeTo depth
      refine .map _ hdistinct fun e he => ?_
      obtain ⟨d, hd, rfl⟩ := List.mem_map.mp he
      exact ih ((hv.of_mem hd).unroll hv 0)
    | atom | list | tuple | set | again => exact hv

/-! ## 3. Along a path -/

/-- What keys lead to, from one mapping into the next. -/
def at? : Value → List Atom → Option Value
  | v, [] => some v
  | v, k :: rest => (v.get? k).bind (at? · rest)

/-- On the way along the path there is something else than a mapping. -/
def hides : Value → List Atom → Bool
  | _, [] => false
  | .map es, k :: rest =>
    match Entries.get? es k with
    | some v => hides v rest
    | none => false
  | _, _ :: _ => true

def isMap : Value → Bool
  | .map _ => true
  | _ => false

@[simp] theorem at?_nil (v : Value) : v.at? [] = some v := rfl

theorem at?_map (es : Entries) (k : Atom) (rest : List Atom) :
    (map es).at? (k :: rest) = (Entries.get? es k).bind (at? · rest) := rfl

theorem hides_map (es : Entries) (k : Atom) (rest : List Atom) :
    (map es).hides (k :: rest) = (Entries.get? es k).any (hides · rest) := by
  rw [hides]
  cases Entries.get? es k <;> rfl

theorem at?_singleton (es : Entries) (k : Atom) : (map es).at? [k] = Entries.get? es k := by
  rw [at?_map]
  cases Entries.get? es k <;> rfl

theorem hides_singleton (es : Entries) (k : Atom) : (map es).hides [k] = false := by
  rw [hides_map]
  cases Entries.get? es k <;> rfl

theorem overlay_map (base es : Entries) :
    (map base).overlay (map es) = map (overlayEntries base es) := by
  rw [overlay]

theorem eq_map_of_isMap {v : Value} (h : v.isMap = true) : ∃ es, v = .map es := by
  cases v with
  | map es => exact ⟨es, rfl⟩
  | atom | list | tuple | set | again => cases h

theorem at?_of_not_isMap {v : Value} (h : v.isMap = false) (k : Atom) (rest : List Atom) :
    v.at? (k :: rest) = none := by
  cases v with
  | map es => cases h
  | atom | list | tuple | set | again => rfl

theorem hides_of_not_isMap {v : Value} (h : v.isMap = false) (k : Atom) (rest : List Atom) :
    v.hides (k :: rest) = true := by
  cases v with
  | map es => cases h
  | atom | list | tuple | set | again => rfl

theorem overlay_of_not_isMap {v : Value} (h : v.isMap = false) (b : Value) : b.overlay v = v := by
  cases v with
  | map es => cases h
  | atom | list | tuple | set | again => simp [overlay]

theorem overlay_of_not_isMap_below {b : Value} (h : b.isMap = false) (v : Value) :
    b.overlay v = v := by
  cases v with
  | map es =>
    cases b with
    | map base => cases h
    | atom | list | tuple | set | again => simp [overlay]
  | atom | list | tuple | set | again => exact overlay_of_not_isMap rfl b

theorem isMap_overlay (b v : Value) : (b.overlay v).isMap = v.isMap := by
  cases hv : v.isMap with
  | false => rw [overlay_of_not_isMap hv, hv]
  | true =>
    cases v with
    | map es => cases b <;> simp [overlay, isMap]
    | atom | list | tuple | set | again => cases hv

/-- Where there is something else on the way, the path leads nowhere. -/
theorem at?_of_hides {v : Value} {path : List Atom} (h : v.hides path = true) :
    v.at? path = none := by
  induction path generalizing v with
  | nil => cases h
  | cons k rest ih =>
    cases v with
    | map es =>
      rw [hides_map] at h
      rw [at?_map]
      cases hget : Entries.get? es k with
      | none => rfl
      | some u =>
        rw [hget] at h
        exact ih h
    | atom | list | tuple | set | again => rfl

/-- **Laying over, path by path.** -/
theorem at?_overlay {v : Value} (hv : v.Proper) (b : Value) (path : List Atom) :
    (b.overlay v).at? path =
      if v.hides path then none else layered (b.at? path) (v.at? path) := by
  induction path generalizing b v with
  | nil => rfl
  | cons k rest ih =>
    cases hmap : v.isMap with
    | false =>
      rw [overlay_of_not_isMap hmap, hides_of_not_isMap hmap, at?_of_not_isMap hmap]
      rfl
    | true =>
      cases v with
      | atom | list | tuple | set | again => cases hmap
      | map es =>
        cases hbelow : b.isMap with
        | false =>
          rw [overlay_of_not_isMap_below hbelow, at?_of_not_isMap hbelow, layered_none_left]
          split
          case isTrue hhides => exact at?_of_hides hhides
          case isFalse => rfl
        | true =>
          cases b with
          | atom | list | tuple | set | again => cases hbelow
          | map base =>
            rw [overlay_map, at?_map, at?_map, at?_map, hides_map,
              Entries.get?_overlayEntries hv.distinct]
            cases hget : Entries.get? es k with
            | none => simp
            | some u =>
              cases Entries.get? base k with
              | some b => exact ih (hv.get? hget) b
              | none =>
                simp only [layered_none_left, Option.bind_some, Option.bind_none, Option.any_some]
                split
                case isTrue hhides => exact at?_of_hides hhides
                case isFalse => rfl

/-! ## 4. Ends that are no mappings -/

/-- If there is a value, it is no mapping. -/
def Plain (v? : Option Value) : Prop := ∀ v ∈ v?, v.isMap = false

theorem plain_none : Plain none := fun _ hv => absurd hv (Option.not_mem_none _)

theorem plain_some {v : Value} (h : v.isMap = false) : Plain (some v) := by
  intro u hu
  rwa [← Option.some.inj hu]

/-- An end that is no mapping comes from the upper value if that has one, and else from the
    lower one; and what does not come to the end was no mapping either. -/
theorem layered_eq_or {below above : Option Value} (h : Plain (layered below above)) :
    layered below above = above.or below ∧ Plain above ∧ (above = none → Plain below) := by
  cases above with
  | none =>
    rw [layered_none_right] at h ⊢
    exact ⟨rfl, plain_none, fun _ => h⟩
  | some v =>
    have hv : v.isMap = false := by
      cases below with
      | none => exact h v rfl
      | some b => exact (isMap_overlay b v).symm.trans (h _ rfl)
    refine ⟨?_, plain_some hv, fun hnone => by cases hnone⟩
    cases below with
    | none => rfl
    | some b => rw [layered, overlay_of_not_isMap hv]; rfl

/-- Where one of two values is no mapping, an open path through the upper one leads to an end
    in it, or to nothing in both. -/
theorem decides_of_open {below above : Value} {rest : List Atom}
    (hone : below.isMap = false ∨ above.isMap = false) (hopen : above.hides rest = false)
    (hplain : Plain (above.at? rest)) :
    above.hides rest = false ∧ above.at? rest = (above.at? rest).or (below.at? rest) ∧
      Plain (above.at? rest) ∧ (above.at? rest = none → Plain (below.at? rest)) := by
  cases rest with
  | nil => exact ⟨rfl, rfl, hplain, fun h => by cases h⟩
  | cons key rest =>
    rcases hone with hbelow | habove
    · rw [at?_of_not_isMap hbelow, Option.or_none]
      exact ⟨hopen, rfl, hplain, fun _ => plain_none⟩
    · rw [hides_of_not_isMap habove] at hopen
      cases hopen

end Value
end SuiteExplorer
