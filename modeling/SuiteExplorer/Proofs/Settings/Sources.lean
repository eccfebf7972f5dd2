/-
  SuiteExplorer/Proofs/Settings/Sources.lean
  ==========================================
  **What the sources of settings say is proper.**

  A document, a JSON text and the environment may give a key twice, and yet each of them
  is read as a mapping in which no key comes twice, nor in any mapping inside of it
  (`Yaml.proper_ofString`, `Json.proper_ofString?`, `Settings.proper_environmentEntries`).
  Documents are put together with what has been put together before, so there the
  invariant speaks of what is kept, too (`Yaml.Building.Builds`); JSON is read by three
  functions that call each other, and one induction on their fuel is about all three.

  With what is given directly, this makes all layers proper, and that is all that is used
  of the libraries that read the sources (`SettingsLibraries.Reads`,
  `SettingsSources.proper_layers`).
-/
import SuiteExplorer.Proofs.Value.Layers
import SuiteExplorer.Settings.Load

namespace SuiteExplorer

/-! ## 1. Steps that may fail -/

/-- What goes on after a step has a result only if the step has one. -/
theorem exists_of_bind_eq_ok {ε α β : Type} {x : Except ε α} {next : α → Except ε β} {b : β}
    (h : (x >>= next) = .ok b) : ∃ a, x = .ok a ∧ next a = .ok b := by
  cases x with
  | error fault => cases h
  | ok a => exact ⟨a, rfl, h⟩

theorem exists_of_map_eq_ok {ε α β : Type} {f : α → β} {x : Except ε α} {b : β}
    (h : x.map f = .ok b) : ∃ a, x = .ok a ∧ f a = b := by
  cases x with
  | error fault => cases h
  | ok a => exact ⟨a, rfl, Except.ok.inj h⟩

/-- What one step after the other keeps holds in the end, if all of them succeed. -/
theorem foldlM_keeps {ε α β : Type} {P : β → Prop} {step : β → α → Except ε β}
    (hstep : ∀ b a c, step b a = .ok c → P b → P c) (xs : List α) {b c : β}
    (h : xs.foldlM step b = .ok c) (hb : P b) : P c := by
  induction xs generalizing b with
  | nil =>
    cases h
    exact hb
  | cons x xs ih =>
    rw [List.foldlM_cons] at h
    obtain ⟨next, hnext, h⟩ := exists_of_bind_eq_ok h
    exact ih h (hstep _ _ _ hnext hb)

/-! ## 2. Documents -/

namespace Yaml

namespace Building

/-- All values that are kept are proper. -/
def AllProper (known : Array (Option Value)) : Prop := ∀ v, some v ∈ known → v.Proper

/-- Putting together comes to a result of this kind, and what is kept stays proper. -/
def Builds (P : α → Prop) (act : Building α) : Prop :=
  ∀ known, AllProper known → P (act.run known).1 ∧ AllProper (act.run known).2

theorem builds_pure {P : α → Prop} {a : α} (h : P a) : Builds P (pure a) :=
  fun _ hknown => ⟨h, hknown⟩

theorem builds_bind {P : α → Prop} {Q : β → Prop} {act : Building α} {next : α → Building β}
    (hact : Builds P act) (hnext : ∀ a, P a → Builds Q (next a)) : Builds Q (act >>= next) := by
  intro known hknown
  obtain ⟨ha, hafter⟩ := hact known hknown
  exact hnext _ ha _ hafter

theorem builds_mapM {P : β → Prop} {act : α → Building β} (xs : List α)
    (hact : ∀ x, Builds P (act x)) : Builds (∀ b ∈ ·, P b) (xs.mapM act) := by
  induction xs with
  | nil => exact builds_pure fun _ hb => absurd hb List.not_mem_nil
  | cons x xs ih =>
    rw [List.mapM_cons]
    refine builds_bind (hact x) fun b hb => builds_bind ih fun bs hbs => builds_pure ?_
    intro c hc
    rcases List.mem_cons.mp hc with rfl | hc
    · exact hb
    · exact hbs c hc

theorem builds_get : Builds AllProper (get : Building (Array (Option Value))) :=
  fun _ hknown => ⟨hknown, hknown⟩

theorem proper_of_known {known : Array (Option Value)} (h : AllProper known) {id : Nat} {v : Value}
    (hv : known.getD id none = some v) : v.Proper := by
  rw [Array.getD_eq_getD_getElem?] at hv
  cases hget : known[id]? with
  | none =>
    rw [hget] at hv
    cases hv
  | some v? =>
    rw [hget, Option.getD_some] at hv
    exact h v (hv ▸ Array.mem_of_getElem? hget)

theorem builds_keep (id : Nat) {built : Built} (h : built.value.Proper) :
    Builds (·.value.Proper) (keep id built) := by
  intro known hknown
  by_cases hneeds : built.needs = 0
  · refine ⟨?_, fun v hv => ?_⟩
    · rw [keep, if_pos hneeds]
      exact h
    · rw [keep, if_pos hneeds] at hv
      rcases Array.mem_or_eq_of_mem_setIfInBounds hv with hv | hv
      · exact hknown v hv
      · rwa [Option.some.inj hv]
  · rw [keep, if_neg hneeds]
    exact ⟨h, hknown⟩

theorem proper_values {parts : List Built} (h : ∀ b ∈ parts, b.value.Proper) :
    ∀ v ∈ parts.map (·.value), v.Proper := by
  intro v hv
  obtain ⟨b, hb, rfl⟩ := List.mem_map.mp hv
  exact h b hb

theorem builds_compound (t : Table) {held paired : Nat → Building Built}
    (hheld : ∀ id, Builds (·.value.Proper) (held id))
    (hpaired : ∀ id, Builds (·.value.Proper) (paired id)) (n : Node) :
    Builds (·.value.Proper) (compound t held paired n) := by
  rw [compound]
  split
  · exact builds_bind (builds_mapM _ hheld) fun parts hparts =>
      builds_pure (.list _ (proper_values hparts))
  · refine builds_bind (builds_mapM _ fun e => hheld e.2) fun parts hparts =>
      builds_pure (Value.proper_ofList fun e he => ?_)
    exact proper_values hparts e.2 (List.of_mem_zip he).2
  · exact builds_pure (.set _)
  · refine builds_bind (builds_mapM _ fun item => ?_) fun pairs hpairs =>
      builds_pure (.list _ (proper_values hpairs))
    split
    · exact builds_bind (builds_mapM _ hpaired) fun parts hparts =>
        builds_pure (.tuple _ (proper_values hparts))
    · exact builds_pure (.atom _)
  · exact builds_pure (.atom _)

/-- Putting a document together gives a proper value: a repeated key is one key. -/
theorem builds_value (t : Table) (fuel : Nat) (outer : List (Option Nat)) (id : Nat) :
    Builds (·.value.Proper) (value t fuel outer id) := by
  induction fuel generalizing outer id with
  | zero => exact builds_pure (.atom _)
  | succ fuel ih =>
    rw [value]
    split
    · exact builds_pure (.atom _)
    · refine builds_bind builds_get fun known hknown => ?_
      split
      case h_1 v hv => exact builds_pure (proper_of_known hknown hv)
      case h_2 =>
        dsimp only
        split
        · exact builds_pure (.again _ _)
        · exact builds_bind (builds_compound t (ih _) (ih _) _) fun built hbuilt =>
            builds_keep id hbuilt

end Building

/-- The value of a document is proper. -/
theorem proper_ofString {s : String} {v : Value} (h : ofString s = .ok v) : v.Proper := by
  rw [ofString] at h
  dsimp only at h
  split at h
  · obtain ⟨_, hthrow, -⟩ := exists_of_bind_eq_ok h
    cases hthrow
  · obtain ⟨⟨root?, nodes⟩, -, h⟩ := exists_of_bind_eq_ok h
    cases root? with
    | none =>
      cases h
      exact .atom _
    | some root =>
      obtain ⟨⟨_, t⟩, -, h⟩ := exists_of_bind_eq_ok h
      have hbuilt := Building.builds_value t (2 * nodes.size + 2) [] root
        (Array.replicate nodes.size none) fun v hv => by cases Array.eq_of_mem_replicate hv
      rw [← Except.ok.inj h]
      exact hbuilt.1

end Yaml

/-! ## 3. JSON -/

namespace Json

theorem proper_word? {word : String} {value v : Value} (hvalue : value.Proper)
    {s rest : List Char} (h : word? word value s = some (v, rest)) : v.Proper := by
  rw [word?] at h
  split at h
  · cases h
    exact hvalue
  · cases h

theorem proper_numberValue? {negative : Bool} {whole frac exp : List Char} {v : Value}
    (h : numberValue? negative whole frac exp = some v) : v.Proper := by
  rw [numberValue?] at h
  dsimp only at h
  split at h
  · split at h
    · cases h
    · cases h
      exact .atom _
  · cases h
    exact .atom _

theorem proper_number? {s rest : List Char} {v : Value} (h : number? s = some (v, rest)) :
    v.Proper := by
  unfold number? at h
  dsimp only at h
  obtain ⟨-, h⟩ := Option.ite_none_left_eq_some.mp h
  obtain ⟨_, hvalue, heq⟩ := Option.map_eq_some_iff.mp h
  cases heq
  exact proper_numberValue? hvalue

/-- What is read of a text with so much fuel is proper. -/
theorem proper_read (fuel : Nat) :
    (∀ s v rest, value? fuel s = some (v, rest) → v.Proper) ∧
    (∀ s vs rest, items? fuel s = some (vs, rest) → ∀ v ∈ vs, v.Proper) ∧
    (∀ s es rest, entries? fuel s = some (es, rest) → ∀ e ∈ es, e.2.Proper) := by
  induction fuel with
  | zero =>
    refine ⟨fun s v rest h => ?_, fun s vs rest h => ?_, fun s es rest h => ?_⟩
    · rw [value?] at h; cases h
    · rw [items?] at h; cases h
    · rw [entries?] at h; cases h
  | succ fuel ih =>
    obtain ⟨ihvalue, ihitems, ihentries⟩ := ih
    refine ⟨fun s v rest h => ?_, fun s vs rest h => ?_, fun s es rest h => ?_⟩
    · rw [value?.eq_def] at h
      dsimp only at h
      split at h
      case h_1 =>
        obtain ⟨_, -, h⟩ := Option.bind_eq_some_iff.mp h
        cases h
        exact .atom _
      case h_2 =>
        split at h
        · cases h
          exact .list [] fun _ hv => absurd hv List.not_mem_nil
        · obtain ⟨_, hitems, h⟩ := Option.bind_eq_some_iff.mp h
          cases h
          exact .list _ (ihitems _ _ _ hitems)
      case h_3 =>
        split at h
        · cases h
          exact Value.proper_empty
        · obtain ⟨_, hentries, h⟩ := Option.bind_eq_some_iff.mp h
          cases h
          exact Value.proper_ofList (ihentries _ _ _ hentries)
      case h_10 => exact proper_number? h
      all_goals exact proper_word? (.atom _) h
    · rw [items?] at h
      obtain ⟨⟨first, rest'⟩, hfirst, h⟩ := Option.bind_eq_some_iff.mp h
      dsimp only at h
      split at h
      · obtain ⟨⟨more, _⟩, hmore, h⟩ := Option.bind_eq_some_iff.mp h
        cases h
        exact List.forall_mem_cons.mpr ⟨ihvalue _ _ _ hfirst, ihitems _ _ _ hmore⟩
      · cases h
        exact List.forall_mem_singleton.mpr (ihvalue _ _ _ hfirst)
      · cases h
    · rw [entries?] at h
      split at h
      case h_2 => cases h
      obtain ⟨⟨key, rest'⟩, -, h⟩ := Option.bind_eq_some_iff.mp h
      dsimp only at h
      split at h
      case h_2 => cases h
      obtain ⟨⟨first, rest''⟩, hfirst, h⟩ := Option.bind_eq_some_iff.mp h
      dsimp only at h
      split at h
      · obtain ⟨⟨more, _⟩, hmore, h⟩ := Option.bind_eq_some_iff.mp h
        cases h
        exact List.forall_mem_cons.mpr ⟨ihvalue _ _ _ hfirst, ihentries _ _ _ hmore⟩
      · cases h
        exact List.forall_mem_singleton.mpr (ihvalue _ _ _ hfirst)
      · cases h

/-- The value of a text is proper: a repeated key keeps its last value alone. -/
theorem proper_ofString? {s : String} {v : Value} (h : ofString? s = some v) : v.Proper := by
  rw [ofString?] at h
  obtain ⟨⟨v', rest⟩, hread, h⟩ := Option.bind_eq_some_iff.mp h
  dsimp only at h
  split at h
  · cases h
    exact (proper_read _).1 _ _ _ hread
  · cases h

end Json

/-! ## 4. The environment -/

namespace Settings

theorem proper_plant {value : Value} (hvalue : value.Proper) (names : List String) {es : Entries}
    (hes : (Value.map es).Proper) : (Value.map (plant value names es)).Proper := by
  induction names generalizing es with
  | nil => exact hes
  | cons name names ih =>
    cases names with
    | nil => exact hes.set_entry _ hvalue
    | cons next rest =>
      rw [plant]
      · split
        · exact hes.set_entry _ (ih Value.proper_empty)
        · rename_i inner hget
          exact hes.set_entry _ (ih (hes.get? hget))
        · exact hes
      · exact List.cons_ne_nil _ _

theorem proper_variableValue {name : String} {names : List String} {raw : String} {v : Value}
    (h : variableValue name names raw = .ok v) : v.Proper := by
  rw [variableValue.eq_def] at h
  split at h
  · split at h
    · split at h
      · rename_i hread
        cases h
        exact Json.proper_ofString? hread
      · cases h
    · cases h
      exact .atom _
  · cases h
    exact .atom _

theorem proper_variableEntries {name : String} {env : Environment} {es : Entries}
    (h : variableEntries name env = .ok es) : (Value.map es).Proper := by
  refine foldlM_keeps (P := fun es => (Value.map es).Proper) (fun es e es' hstep hes => ?_) env h
    Value.proper_empty
  dsimp only at hstep
  split at hstep
  · obtain ⟨value, hvalue, heq⟩ := exists_of_bind_eq_ok hstep
    cases heq
    exact proper_plant (proper_variableValue hvalue) _ hes
  · cases hstep
    exact hes

theorem proper_respell {name : String} {es : Entries} (h : (Value.map es).Proper) :
    (Value.map (respell name es)).Proper := by
  refine Value.proper_ofList fun e he => ?_
  obtain ⟨⟨k, v⟩, hmem, rfl⟩ := List.mem_map.mp he
  exact h.of_mem (e := (k, v)) hmem

theorem proper_sectionValue? {name : String} {env : Environment} {v : Value}
    (h : sectionValue? name env = .ok (some v)) : v.Proper := by
  rw [sectionValue?] at h
  split at h
  · obtain ⟨es, hes, h⟩ := exists_of_bind_eq_ok h
    split at h
    · cases h
    · cases h
      exact proper_respell (proper_variableEntries hes)
  · split at h
    · cases h
    · cases h
    · rename_i whole hread
      obtain ⟨es, hes, h⟩ := exists_of_bind_eq_ok h
      have hboth := (proper_variableEntries hes).overlay (Json.proper_ofString? hread)
      rw [Value.overlay_map] at hboth
      cases h
      exact proper_respell hboth
    · rename_i other hread
      cases h
      exact Json.proper_ofString? hread

/-- The values that there are for some names come under these names. -/
theorem mapM_named {ε : Type} {value? : String → Except ε (Option Value)} (names : List String)
    {found : List (Option (Atom × Value))}
    (h : (names.mapM fun name => do
      let v? ← value? name
      return v?.map fun v => (Atom.text name, v)) = .ok found) :
    (Entries.identities (found.filterMap id)).Sublist (names.map .text) ∧
      ∀ e ∈ found.filterMap id, ∃ name, value? name = .ok (some e.2) := by
  induction names generalizing found with
  | nil =>
    cases h
    exact ⟨.slnil, fun _ he => absurd he List.not_mem_nil⟩
  | cons name names ih =>
    rw [List.mapM_cons] at h
    obtain ⟨e?, he?, h⟩ := exists_of_bind_eq_ok h
    obtain ⟨rest, hrest, h⟩ := exists_of_bind_eq_ok h
    obtain ⟨v?, hv?, heq⟩ := exists_of_bind_eq_ok he?
    obtain ⟨hsub, hmem⟩ := ih hrest
    cases h
    cases heq
    cases v? with
    | none => exact ⟨hsub.cons _, hmem⟩
    | some v => exact ⟨hsub.cons_cons _, List.forall_mem_cons.mpr ⟨⟨name, hv?⟩, hmem⟩⟩

/-- What the environment says is a proper mapping. -/
theorem proper_environmentEntries {env : Environment} {es : Entries}
    (h : environmentEntries env = .ok es) : (Value.map es).Proper := by
  obtain ⟨found, hfound, h⟩ := exists_of_bind_eq_ok h
  cases h
  obtain ⟨hsub, hmem⟩ := mapM_named _ hfound
  refine .map _ (List.Nodup.sublist hsub (by decide)) fun e he => ?_
  obtain ⟨name, hname⟩ := hmem e he
  exact proper_sectionValue? hname

end Settings

/-! ## 5. All layers -/

/-- What documents and environments are read as is proper. -/
structure SettingsLibraries.Reads (lib : SettingsLibraries) : Prop where
  document : ∀ {text v}, lib.document text = .ok v → v.Proper
  environment : ∀ {env es}, lib.environment env = .ok es → (Value.map es).Proper

theorem SettingsLibraries.reads_usual : SettingsLibraries.usual.Reads :=
  ⟨Yaml.proper_ofString, Settings.proper_environmentEntries⟩

/-- Each layer is a proper mapping. -/
structure SettingsLayers.Proper (l : SettingsLayers) : Prop where
  user : (Value.map l.user).Proper
  workspace : (Value.map l.workspace).Proper
  environment : (Value.map l.environment).Proper
  direct : (Value.map l.direct).Proper

namespace SettingsSources

variable {lib : SettingsLibraries}

theorem proper_fileEntries (hlib : lib.Reads) {path : Path} {file : SettingsFile} {es : Entries}
    (h : fileEntries lib path file = .ok es) : (Value.map es).Proper := by
  cases file with
  | missing =>
    cases h
    exact Value.proper_empty
  | folder => cases h
  | content bytes =>
    rw [fileEntries] at h
    split at h
    · rw [documentEntries] at h
      split at h
      · cases h
      · cases h
      · rename_i v hread
        split at h
        · cases h
          exact Value.proper_empty
        · split at h
          · rename_i entries hwhole
            cases h
            exact hwhole ▸ (hlib.document hread).wholeTo depth
          · cases h
    · cases h

/-- **The layers are proper** if what is given directly is. -/
theorem proper_layers (hlib : lib.Reads) {s : SettingsSources}
    (hdirect : (Value.map s.direct).Proper) {l : SettingsLayers} (h : s.layers lib = .ok l) :
    l.Proper := by
  obtain ⟨workspace, hworkspace, h⟩ := exists_of_bind_eq_ok h
  obtain ⟨user, huser, h⟩ := exists_of_bind_eq_ok h
  obtain ⟨environment, henvironment, h⟩ := exists_of_bind_eq_ok h
  cases h
  exact ⟨proper_fileEntries hlib huser, proper_fileEntries hlib hworkspace,
    hlib.environment henvironment, hdirect⟩

end SettingsSources
end SuiteExplorer
