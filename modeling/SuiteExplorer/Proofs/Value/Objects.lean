/-
  SuiteExplorer/Proofs/Value/Objects.lean
  =======================================
  **Laying mappings over each other where they are objects.**

  As a program builds them, mappings are objects in a store.  One object can stand for
  several mappings, and what is assigned to it is seen in all of them.  There, entries are
  laid over others by assigning to a copy of the lower object (`Store.merge`).  The copy is
  not a deep one: it holds the very objects that the lower one holds, until a merged one
  takes the place of such an object.

  Nothing that was in the store is changed by that, and what the new object reads as is the
  upper value laid over the lower one (`Store.merges`), also if the two share objects or are
  the same one.  What is assigned to is never read: an object that is being built is `busy`,
  and what it holds is read without it (`Store.Lays`).
-/
import SuiteExplorer.Proofs.Value.Merging

namespace SuiteExplorer

/-! ## 1. Objects -/

/-- What a key of an object leads to: a mapping that is an object itself, or anything else. -/
inductive Cell where
  | plain (v : Value)
  | object (ref : Nat)

abbrev Object := List (Atom × Cell)

namespace Object

def get? (o : Object) (key : Atom) : Option Cell := (o.find? fun e => e.1.same key).map (·.2)

/-- Assign to a key: in its place if the key is there, else at the end. -/
def set (key : Atom) (c : Cell) : Object → Object
  | [] => [(key, c)]
  | (k, d) :: rest => if k.same key then (k, c) :: rest else (k, d) :: set key c rest

/-- The object has the keys of the entries, and what each leads to reads as the value. -/
def Holds (reads : Cell → Value → Prop) (o : Object) (es : Entries) : Prop :=
  List.Forall₂ (fun d e => d.1 = e.1 ∧ reads d.2 e.2) o es

variable {reads reads' : Cell → Value → Prop} {o : Object} {es : Entries}

theorem Holds.imp (h : Holds reads o es) (himp : ∀ c v, reads c v → reads' c v) :
    Holds reads' o es := by
  apply List.Forall₂.imp _ h
  intro d e ⟨hkey, hreads⟩
  exact ⟨hkey, himp _ _ hreads⟩

theorem get?_cons (k : Atom) (c : Cell) (o : Object) (key : Atom) :
    get? ((k, c) :: o) key = if k.identity = key.identity then some c else get? o key := by
  rw [get?, List.find?_cons]
  by_cases h : k.identity = key.identity
  · simp [Atom.same, h]
  · simp [Atom.same, h, get?]

theorem Holds.get? (h : Holds reads o es) (key : Atom) :
    Option.Rel reads (get? o key) (Entries.get? es key) := by
  induction h with
  | nil => exact .none
  | @cons d e o es hfirst _ ih =>
    obtain ⟨k, c⟩ := d
    obtain ⟨k', v⟩ := e
    obtain ⟨hkey, hreads⟩ := hfirst
    cases hkey
    rw [get?_cons, Entries.get?_cons]
    split
    · exact .some hreads
    · exact ih

theorem Holds.set (h : Holds reads o es) (key : Atom) {c : Cell} {v : Value} (hcell : reads c v) :
    Holds reads (set key c o) (Entries.set key v es) := by
  induction h with
  | nil => exact .cons ⟨rfl, hcell⟩ .nil
  | @cons d e o es hfirst hrest ih =>
    obtain ⟨k, c'⟩ := d
    obtain ⟨k', v'⟩ := e
    obtain ⟨hkey, hreads⟩ := hfirst
    cases hkey
    rw [Object.set, Entries.set]
    split
    · exact .cons ⟨rfl, hcell⟩ hrest
    · exact .cons ⟨rfl, hreads⟩ ih

end Object

/-! ## 2. The store -/

/-- The objects, each at its place. -/
abbrev Store := List Object

namespace Store

def assign (ref : Nat) (key : Atom) (c : Cell) (s : Store) : Option Store :=
  (s[ref]?).map fun o => s.set ref (Object.set key c o)

/-- Take one entry of the upper object over into the new one.  If both have an object there,
    these are merged before. -/
def take (merge : Nat → Nat → Store → Option (Store × Nat)) (new : Nat) (s : Store)
    (e : Atom × Cell) : Option Store := do
  let o ← s[new]?
  match Object.get? o e.1, e.2 with
  | some (.object below), .object above =>
    let (s, merged) ← merge below above s
    assign new e.1 (.object merged) s
  | _, c => assign new e.1 c s

/-- Lay an object over another one, in a new object.  Mappings may be nested as deep as `depth`
    says. -/
def merge : Nat → Nat → Nat → Store → Option (Store × Nat)
  | 0, _, _, _ => none
  | depth + 1, lower, upper, s => do
    let below ← s[lower]?
    let above ← s[upper]?
    let done ← above.foldlM (take (merge depth) s.length) (s ++ [below])
    return (done, s.length)

/-- The cell reads as the value, which is nested no deeper than `depth`, and none of the busy
    objects is looked at for that. -/
def Reads (s : Store) (busy : List Nat) : Nat → Cell → Value → Prop
  | _, .plain v, u => v = u ∧ u.isMap = false
  | 0, .object _, _ => False
  | depth + 1, .object ref, u =>
    ref ∉ busy ∧ ∃ o es, s[ref]? = some o ∧ u = .map es ∧ Object.Holds (Reads s busy depth) o es

/-- All objects are as they were, but for some. -/
def Keeps (but : List Nat) (s t : Store) : Prop :=
  ∀ ref o, ref ∉ but → s[ref]? = some o → t[ref]? = some o

variable {s t t' : Store} {busy busy' : List Nat} {depth : Nat} {c : Cell} {v : Value}

theorem Keeps.refl (but : List Nat) (s : Store) : Keeps but s s := fun _ _ _ h => h

theorem Keeps.trans (h : Keeps busy s t) (h' : Keeps busy t t') : Keeps busy s t' :=
  fun ref o hbusy hs => h' ref o hbusy (h ref o hbusy hs)

theorem Keeps.mono (h : Keeps busy s t) (hsub : busy ⊆ busy') : Keeps busy' s t :=
  fun ref o hbusy => h ref o fun hmem => hbusy (hsub hmem)

theorem keeps_append (s more : Store) : Keeps [] s (s ++ more) := by
  intro ref o _ hobject
  obtain ⟨hlt, -⟩ := List.getElem?_eq_some_iff.mp hobject
  rwa [List.getElem?_append_left hlt]

/-- **What is read stays**, if all is kept but what is not looked at. -/
theorem Reads.transfer (h : Reads s busy depth c v)
    (hkeeps : ∀ ref o, ref ∉ busy → s[ref]? = some o → ref ∉ busy' ∧ t[ref]? = some o) :
    Reads t busy' depth c v := by
  induction depth generalizing c v with
  | zero => cases c <;> exact h
  | succ depth ih =>
    cases c with
    | plain => exact h
    | object ref =>
      obtain ⟨hbusy, o, es, hobject, rfl, hholds⟩ := h
      obtain ⟨hbusy', hobject'⟩ := hkeeps ref o hbusy hobject
      exact ⟨hbusy', o, es, hobject', rfl, hholds.imp fun _ _ => ih⟩

theorem Reads.keeps (h : Reads s busy depth c v) (hkeeps : Keeps busy s t) :
    Reads t busy depth c v :=
  h.transfer fun ref o hbusy hobject => ⟨hbusy, hkeeps ref o hbusy hobject⟩

theorem Reads.fewer (h : Reads s busy depth c v) (hsub : busy' ⊆ busy) :
    Reads s busy' depth c v :=
  h.transfer fun _ _ hbusy hobject => ⟨fun hmem => hbusy (hsub hmem), hobject⟩

/-- A new object at the end is not one that was looked at. -/
theorem Reads.push (h : Reads s busy depth c v) (o : Object) :
    Reads (s ++ [o]) (s.length :: busy) depth c v := by
  apply h.transfer
  intro ref o' hbusy hobject
  obtain ⟨hlt, -⟩ := List.getElem?_eq_some_iff.mp hobject
  refine ⟨?_, keeps_append s [o] ref o' List.not_mem_nil hobject⟩
  rw [List.mem_cons, not_or]
  exact ⟨by omega, hbusy⟩

/-- What is nested no deeper than so much is nested no deeper than more. -/
theorem Reads.deeper (h : Reads s busy depth c v) {depth' : Nat} (hle : depth ≤ depth') :
    Reads s busy depth' c v := by
  induction depth generalizing depth' c v with
  | zero =>
    cases c with
    | plain u => cases depth' <;> exact h
    | object ref => exact h.elim
  | succ depth ih =>
    cases depth' with
    | zero => omega
    | succ depth' =>
      cases c with
      | plain u => exact h
      | object ref =>
        obtain ⟨hbusy, o, es, hobject, rfl, hholds⟩ := h
        exact ⟨hbusy, o, es, hobject, rfl, hholds.imp fun _ _ h => ih h (by omega)⟩

theorem exists_holds {es : Entries}
    (h : ∀ e ∈ es, ∀ s, ∃ s' c depth, Keeps [] s s' ∧ Reads s' [] depth c e.2) (s : Store) :
    ∃ s' o depth, Keeps [] s s' ∧ Object.Holds (Reads s' [] depth) o es := by
  induction es generalizing s with
  | nil => exact ⟨s, [], 0, Keeps.refl [] s, .nil⟩
  | cons e es ih =>
    obtain ⟨s₁, c, depth, hkeeps, hfirst⟩ := h e List.mem_cons_self s
    obtain ⟨s₂, o, depth', hkeeps', hrest⟩ := ih (fun e he => h e (List.mem_cons_of_mem _ he)) s₁
    refine ⟨s₂, (e.1, c) :: o, max depth depth', hkeeps.trans hkeeps', .cons ⟨rfl, ?_⟩ ?_⟩
    · exact (hfirst.keeps hkeeps').deeper (Nat.le_max_left _ _)
    · exact Object.Holds.imp hrest fun _ _ h => h.deeper (Nat.le_max_right _ _)

/-- **Every value can be stored**, next to what is there already. -/
theorem exists_reads (hv : v.Proper) (s : Store) :
    ∃ s' c depth, Keeps [] s s' ∧ Reads s' [] depth c v := by
  induction hv generalizing s with
  | map es _ _ ih =>
    obtain ⟨s₁, o, depth, hkeeps, hholds⟩ := exists_holds ih s
    have hpush : Keeps [] s₁ (s₁ ++ [o]) := keeps_append s₁ [o]
    refine ⟨s₁ ++ [o], .object s₁.length, depth + 1, hkeeps.trans hpush, List.not_mem_nil, o, es,
      by simp, rfl, ?_⟩
    exact hholds.imp fun _ _ h => h.keeps hpush
  | atom | list | tuple | set | again => exact ⟨s, .plain _, 0, Keeps.refl [] s, rfl, rfl⟩

/-! ## 3. Merging -/

/-- At the end of a store there is a new object that reads as the entries, and nothing else
    is different. -/
structure Lays (s : Store) (busy : List Nat) (depth : Nat) (t : Store) (es : Entries) : Prop where
  keeps : Keeps [] s t
  object : ∃ o, t[s.length]? = some o ∧ Object.Holds (Reads t (s.length :: busy) depth) o es

variable {es us : Entries}

/-- **Assigning to the new object.** -/
theorem Lays.assign (h : Lays s busy depth t es) (key : Atom)
    (hcell : Reads t (s.length :: busy) depth c v) :
    ∃ t', assign s.length key c t = some t' ∧ Lays s busy depth t' (Entries.set key v es) ∧
      Keeps [s.length] t t' := by
  obtain ⟨o, hobject, hholds⟩ := h.object
  have hkeeps : Keeps [s.length] t (t.set s.length (Object.set key c o)) := by
    intro ref o' hne hobject'
    rw [List.mem_singleton] at hne
    rwa [List.getElem?_set_ne (Ne.symm hne)]
  refine ⟨_, by rw [Store.assign, hobject, Option.map_some], ⟨?_, ?_⟩, hkeeps⟩
  · intro ref o' _ hobject'
    obtain ⟨hlt, -⟩ := List.getElem?_eq_some_iff.mp hobject'
    apply hkeeps ref o' _ (h.keeps ref o' List.not_mem_nil hobject')
    rw [List.mem_singleton]
    omega
  · obtain ⟨hlt, -⟩ := List.getElem?_eq_some_iff.mp hobject
    refine ⟨Object.set key c o, List.getElem?_set_self hlt, ?_⟩
    apply (hholds.set key hcell).imp
    intro c' v' hreads
    apply hreads.keeps
    exact hkeeps.mono (List.cons_subset_cons _ (List.nil_subset _))

/-- What else happens in the store does not matter to the new object. -/
theorem Lays.after (h : Lays s busy depth t es) (hkeeps : Keeps [] t t') :
    Lays s busy depth t' es := by
  obtain ⟨o, hobject, hholds⟩ := h.object
  refine ⟨h.keeps.trans hkeeps, o, hkeeps _ o List.not_mem_nil hobject, ?_⟩
  apply hholds.imp
  intro c v hreads
  exact hreads.keeps (hkeeps.mono (List.nil_subset _))

/-- Laying an object over another one succeeds, keeps all objects and gives one that reads as
    the one value laid over the other. -/
def Merges (depth : Nat) (merge : Nat → Nat → Store → Option (Store × Nat)) : Prop :=
  ∀ (s : Store) (busy : List Nat) (lower upper : Nat) (a b : Value),
    (∀ ref ∈ busy, ref < s.length) →
    Reads s busy depth (.object lower) a →
    Reads s busy depth (.object upper) b →
    ∃ s' new, merge lower upper s = some (s', new) ∧ Keeps [] s s' ∧
      Reads s' busy depth (.object new) (a.overlay b)

variable {inner : Nat → Nat → Store → Option (Store × Nat)}

theorem Reads.isMap_plain {u : Value} (h : Reads s busy depth (.plain u) v) :
    v.isMap = false := by
  cases depth <;> exact h.2

theorem Reads.exists_object (h : Reads s busy depth c v) (hmap : v.isMap = true) :
    ∃ ref, c = .object ref := by
  cases c with
  | object ref => exact ⟨ref, rfl⟩
  | plain u =>
    rw [h.isMap_plain] at hmap
    cases hmap

/-- **One entry is taken over.** -/
theorem Lays.take (hinner : Merges depth inner) (hbusy : ∀ ref ∈ busy, ref < s.length)
    (h : Lays s busy depth t es) (key : Atom) (hcell : Reads t (s.length :: busy) depth c v) :
    ∃ t', take inner s.length t (key, c) = some t' ∧
      Lays s busy depth t' (Entries.set key (match Entries.get? es key with
        | some b => b.overlay v
        | none => v) es) ∧
      Keeps [s.length] t t' := by
  obtain ⟨o, hobject, hholds⟩ := h.object
  have hbelow := hholds.get? key
  simp only [Store.take, hobject, Option.bind_eq_bind, Option.bind_some]
  generalize Object.get? o key = below, Entries.get? es key = b at hbelow
  cases hbelow with
  | none => exact h.assign key hcell
  | @some d b hd =>
    dsimp only
    cases hc : c with
    | plain u =>
      rw [hc] at hcell
      have hv : b.overlay v = v := Value.overlay_of_not_isMap hcell.isMap_plain b
      rw [hv]
      cases d <;> exact h.assign key hcell
    | object above =>
      rw [hc] at hcell
      cases hd' : d with
      | plain u =>
        rw [hd'] at hd
        have hv : b.overlay v = v := Value.overlay_of_not_isMap_below hd.isMap_plain v
        rw [hv]
        exact h.assign key hcell
      | object below =>
        rw [hd'] at hd
        obtain ⟨hlt, -⟩ := List.getElem?_eq_some_iff.mp hobject
        have hbusy' : ∀ ref ∈ s.length :: busy, ref < t.length := by
          intro ref hmem
          rcases List.mem_cons.mp hmem with rfl | hmem
          · exact hlt
          · exact Nat.lt_trans (hbusy ref hmem) hlt
        obtain ⟨t₁, merged, hmerge, hkeeps, hmerged⟩ := hinner t _ below above b v hbusy' hd hcell
        obtain ⟨t', hassign, hlays, hkeeps'⟩ := (h.after hkeeps).assign key hmerged
        refine ⟨t', ?_, hlays, (hkeeps.mono (List.nil_subset _)).trans hkeeps'⟩
        simp only [hmerge, Option.bind_some]
        exact hassign

/-- **All entries are taken over**, one after the other. -/
theorem Lays.takeAll (hinner : Merges depth inner) (hbusy : ∀ ref ∈ busy, ref < s.length)
    {above : Object} (h : Lays s busy depth t es)
    (hupper : Object.Holds (Reads t (s.length :: busy) depth) above us) :
    ∃ t', above.foldlM (Store.take inner s.length) t = some t' ∧
      Lays s busy depth t' (Value.overlayEntries es us) := by
  induction above generalizing us t es with
  | nil =>
    cases hupper
    rw [Value.overlayEntries]
    exact ⟨t, rfl, h⟩
  | cons d above ih =>
    cases hupper with
    | @cons _ e _ us hfirst hrest =>
      obtain ⟨k, c⟩ := d
      obtain ⟨k', v⟩ := e
      obtain ⟨hkey, hcell⟩ := hfirst
      cases hkey
      obtain ⟨t₁, htake, hlays, hkeeps⟩ := h.take hinner hbusy k hcell
      have hrest' : Object.Holds (Reads t₁ (s.length :: busy) depth) above us := by
        apply Object.Holds.imp hrest
        intro c' v' hreads
        apply hreads.keeps
        exact hkeeps.mono (List.cons_subset_cons _ (List.nil_subset _))
      obtain ⟨t', hfold, hlays'⟩ := ih hlays hrest'
      rw [Value.overlayEntries]
      refine ⟨t', ?_, hlays'⟩
      rw [List.foldlM_cons, htake]
      exact hfold

/-- **Merging objects lays what they read as over each other**, and changes none of them. -/
theorem merges (depth : Nat) : Merges depth (merge depth) := by
  induction depth with
  | zero =>
    intro s busy lower upper a b _ hlower _
    exact hlower.elim
  | succ depth ih =>
    intro s busy lower upper a b hbusy hlower hupper
    obtain ⟨-, below, as, hbelow, rfl, hholds⟩ := hlower
    obtain ⟨-, above, bs, habove, rfl, hholds'⟩ := hupper
    have hlays : Lays s busy depth (s ++ [below]) as := by
      exact ⟨keeps_append s [below], below, by simp, hholds.imp fun _ _ h => h.push below⟩
    obtain ⟨t, hfold, hdone⟩ :=
      hlays.takeAll ih hbusy (hholds'.imp fun _ _ h => h.push below)
    obtain ⟨o, hobject, hholds⟩ := hdone.object
    refine ⟨t, s.length, ?_, hdone.keeps, ?_, o, Value.overlayEntries as bs, hobject, ?_, ?_⟩
    · simp [merge, hbelow, habove, hfold]
    · intro hmem
      exact Nat.lt_irrefl _ (hbusy _ hmem)
    · exact Value.overlay_map as bs
    · apply hholds.imp
      intro c v hreads
      exact hreads.fewer (List.subset_cons_self _ _)

end Store

/-! ## 4. The laws together -/

namespace Value

open Store

/-- **Laying nested mappings over each other**: as objects they are both left as they are;
    nothing over a mapping, a mapping over nothing and a mapping over itself is the mapping;
    what has been laid over once stays; what is no mapping wins wherever the upper one has it;
    and of three that have mappings at the same of their common paths, it does not matter which
    two are laid over each other first. -/
theorem overlay_laws {a b c : Entries} (ha : (map a).Proper) (hb : (map b).Proper)
    (hc : (map c).Proper) :
    (∃ s lower upper depth, Reads s [] depth (.object lower) (map a) ∧
      Reads s [] depth (.object upper) (map b)) ∧
    (∀ (s : Store) (lower upper depth : Nat),
      Reads s [] depth (.object lower) (map a) → Reads s [] depth (.object upper) (map b) →
      ∃ s' new, merge depth lower upper s = some (s', new) ∧ Keeps [] s s' ∧
        Reads s' [] depth (.object lower) (map a) ∧ Reads s' [] depth (.object upper) (map b) ∧
        Reads s' [] depth (.object new) ((map a).overlay (map b))) ∧
    (map a).overlay (map []) = map a ∧
    (map []).overlay (map b) = map b ∧
    (map a).overlay (map a) = map a ∧
    ((map a).overlay (map b)).overlay (map b) = (map a).overlay (map b) ∧
    (∀ path v, (map b).at? path = some v → v.isMap = false →
      ((map a).overlay (map b)).at? path = some v) ∧
    ((∀ path x y z, (map a).at? path = some x → (map b).at? path = some y →
        (map c).at? path = some z → x.isMap = y.isMap ∧ y.isMap = z.isMap) →
      ((map a).overlay (map b)).overlay (map c) = (map a).overlay ((map b).overlay (map c))) := by
  refine ⟨?_, ?_, overlay_empty a, empty_overlay hb.distinct, overlay_self ha,
    overlay_overlay_self hb ha, ?_, ?_⟩
  · obtain ⟨s, c, depth, -, hlower⟩ := exists_reads ha []
    obtain ⟨s', c', depth', hkeeps, hupper⟩ := exists_reads hb s
    obtain ⟨lower, rfl⟩ := hlower.exists_object rfl
    obtain ⟨upper, rfl⟩ := hupper.exists_object rfl
    refine ⟨s', lower, upper, max depth depth', ?_, ?_⟩
    · exact (hlower.keeps hkeeps).deeper (Nat.le_max_left _ _)
    · exact hupper.deeper (Nat.le_max_right _ _)
  · intro s lower upper depth hlower hupper
    obtain ⟨s', new, hmerge, hkeeps, hnew⟩ :=
      merges depth s [] lower upper _ _ (fun _ hmem => absurd hmem List.not_mem_nil) hlower hupper
    exact ⟨s', new, hmerge, hkeeps, hlower.keeps hkeeps, hupper.keeps hkeeps, hnew⟩
  · intro path v hv hmap
    exact at?_overlay_of_not_isMap hb (map a) hv hmap
  · intro hagree
    apply overlay_assoc hc ha hb
    rintro ⟨path, x, y, z, hx, hy, hz, hxmap, hymap, -⟩
    obtain ⟨hxy, -⟩ := hagree path x y z hx hy hz
    rw [hxmap, hymap] at hxy
    cases hxy

/-- Settings with one variable of the environment. -/
def setting (name value : String) : Entries :=
  [(.text "env", map [(.text name, text value)])]

theorem proper_setting (name value : String) : (map (setting name value)).Proper := by
  refine .map _ (by simp [Entries.Distinct, Entries.identities, setting]) ?_
  intro e he
  rw [List.mem_singleton.mp he]
  refine .map _ (by simp [Entries.Distinct, Entries.identities]) ?_
  intro e' he'
  rw [List.mem_singleton.mp he']
  exact .atom _

/-- Below the environment there is only the variable. -/
theorem at?_setting {name value : String} {path : List Atom} {v : Value}
    (h : (map (setting name value)).at? path = some v) :
    (path.length ≤ 1 ∧ v.isMap = true) ∨
      ∃ k key rest, path = k :: key :: rest ∧ key.identity = .text name := by
  cases path with
  | nil =>
    cases h
    exact .inl ⟨by simp, rfl⟩
  | cons k path =>
    rw [at?_map, setting, Entries.get?_cons] at h
    split at h
    · cases path with
      | nil =>
        cases h
        exact .inl ⟨by simp, rfl⟩
      | cons key rest =>
        rw [Option.bind_some, at?_map, Entries.get?_cons] at h
        split at h
        case isTrue hkey => exact .inr ⟨k, key, rest, rfl, hkey.symm⟩
        case isFalse => cases h
    · cases h

/-- Two such settings as objects. -/
def settingStore : Store :=
  [[(.text "A", .plain (text "1"))], [(.text "env", .object 0)],
    [(.text "B", .plain (text "2"))], [(.text "env", .object 2)]]

theorem overlay_laws_setting :
    (∃ s' new, merge 2 1 3 settingStore = some (s', new) ∧ Keeps [] settingStore s' ∧
      Reads s' [] 2 (.object new) ((map (setting "A" "1")).overlay (map (setting "B" "2")))) ∧
    ((map (setting "A" "1")).overlay (map (setting "B" "2"))).at? [.text "env", .text "B"] =
      some (text "2") ∧
    ((map (setting "A" "1")).overlay (map (setting "B" "2"))).overlay (map (setting "A" "3")) =
      (map (setting "A" "1")).overlay
        ((map (setting "B" "2")).overlay (map (setting "A" "3"))) := by
  obtain ⟨-, hmerge, -, -, -, -, hwins, hassoc⟩ :=
    overlay_laws (proper_setting "A" "1") (proper_setting "B" "2") (proper_setting "A" "3")
  refine ⟨?_, ?_, ?_⟩
  · have hlower : Reads settingStore [] 2 (.object 1) (map (setting "A" "1")) := by
      simp [Reads, Object.Holds, settingStore, setting, isMap]
    have hupper : Reads settingStore [] 2 (.object 3) (map (setting "B" "2")) := by
      simp [Reads, Object.Holds, settingStore, setting, isMap]
    obtain ⟨s', new, hmerged, hkeeps, -, -, hnew⟩ := hmerge settingStore 1 3 2 hlower hupper
    exact ⟨s', new, hmerged, hkeeps, hnew⟩
  · exact hwins _ _ rfl rfl
  · apply hassoc
    intro path x y z hx hy hz
    rcases at?_setting hx with ⟨hshort, hxmap⟩ | ⟨k, key, rest, rfl, hname⟩
    · have hmaps : ∀ {name value v}, (map (setting name value)).at? path = some v →
          v.isMap = true := by
        intro name value v hv
        rcases at?_setting hv with ⟨-, hmap⟩ | ⟨k, key, rest, rfl, -⟩
        · exact hmap
        · simp at hshort
      rw [hxmap, hmaps hy, hmaps hz]
      exact ⟨rfl, rfl⟩
    · -- one of the first two has not the variable of the other
      rcases at?_setting hy with ⟨hshort, -⟩ | ⟨k', key', rest', heq, hname'⟩
      · simp at hshort
      · obtain ⟨-, heq⟩ := List.cons.inj heq
        obtain ⟨rfl, -⟩ := List.cons.inj heq
        rw [hname] at hname'
        simp at hname'

end Value
end SuiteExplorer
