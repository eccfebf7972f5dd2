/-
  SuiteExplorer/Proofs/Settings/Precedence.lean
  =============================================
  **Which source decides a setting.**

  Settings are given in four layers: directly, by the environment, by the file of the
  workspace and by the user's own file.  A setting stands at the end of a path of keys,
  and the first layer that has something there ought to decide it (`SettingsLayers.first?`);
  the variables of an environment are such ends, too, one for each name.

  That is so with one exception (`Settings.load_follows`).  The two files are merged first,
  and where the workspace's file has something else than a mapping on the way to a setting,
  this replaces what the user's own file has there, although it says nothing of the setting.
  If then a higher layer gives a mapping, settings load without a fault, and the user's
  value is lost (`SettingsLayers.loses`, `Settings.load_of_emptied_section`).

  All this is so for any libraries that read documents and environments as mappings with
  distinct keys, put the sources together key by key (`MergesDeeply`), and tell mappings
  from other values (`SettingsLibraries.Lawful`); those that the program runs with do
  (`SettingsLibraries.lawful_usual`).
-/
import SuiteExplorer.Proofs.Settings.Checking

namespace SuiteExplorer

/-! ## 1. Libraries -/

/-- What there is under a key, where a merge meets two mappings, one, or another value. -/
def deepest (merge : Entries → Entries → Entries) : Option Value → Option Value → Option Value
  | some (.map below), some (.map above) => some (.map (merge below above))
  | below?, none => below?
  | _, some above => some above

theorem deepest_none_right (merge : Entries → Entries → Entries) (below? : Option Value) :
    deepest merge below? none = below? := by
  cases below? with
  | none => rfl
  | some b => cases b <;> rfl

theorem deepest_none_left (merge : Entries → Entries → Entries) (above? : Option Value) :
    deepest merge none above? = above? := by
  cases above? <;> rfl

/-- Where one of two values is no mapping, the upper one is left. -/
theorem deepest_of_not_isMap (merge : Entries → Entries → Entries) {below above : Value}
    (h : below.isMap = false ∨ above.isMap = false) :
    deepest merge (some below) (some above) = some above := by
  cases below <;> cases above <;> first | rfl | (rcases h with h | h <;> cases h)

/-- Entries of two sources are put together key by key: two mappings under one key are put
    together in the same way, and else the upper source decides if it has the key. -/
structure MergesDeeply (merge : Entries → Entries → Entries) : Prop where
  proper : ∀ {below above}, (Value.map below).Proper → (Value.map above).Proper →
    (Value.map (merge below above)).Proper
  get? : ∀ {below above}, (Value.map below).Proper → (Value.map above).Proper → ∀ key,
    Entries.get? (merge below above) key =
      deepest merge (Entries.get? below key) (Entries.get? above key)

theorem mergesDeeply_overlayEntries : MergesDeeply Value.overlayEntries where
  proper := by
    intro below above hbelow habove
    rw [← Value.overlay_map]
    exact habove.overlay hbelow
  get? := by
    intro below above _ habove key
    rw [Entries.get?_overlayEntries habove.distinct]
    cases Entries.get? above key with
    | none =>
      rw [layered_none_right]
      cases Entries.get? below key with
      | none => rfl
      | some b => cases b <;> rfl
    | some v =>
      cases Entries.get? below key with
      | none => cases v <;> rfl
      | some b => cases v <;> cases b <;> simp [layered, Value.overlay, deepest]

/-- With nothing but mappings on the way to an end that is no mapping, the upper source
    decides if it has something there, and the lower one else. -/
theorem MergesDeeply.at?_of_open {merge : Entries → Entries → Entries} (hmerge : MergesDeeply merge)
    {below above : Entries} (hbelow : (Value.map below).Proper) (habove : (Value.map above).Proper)
    {path : List Atom} (hopen : (Value.map (merge below above)).hides path = false)
    (hplain : Value.Plain ((Value.map (merge below above)).at? path)) :
    (Value.map above).hides path = false ∧
      (Value.map (merge below above)).at? path =
        ((Value.map above).at? path).or ((Value.map below).at? path) ∧
      Value.Plain ((Value.map above).at? path) ∧
      ((Value.map above).at? path = none → Value.Plain ((Value.map below).at? path)) := by
  induction path generalizing below above with
  | nil => cases hplain _ rfl
  | cons key rest ih =>
    rw [Value.hides_map, hmerge.get? hbelow habove] at hopen
    rw [Value.at?_map, hmerge.get? hbelow habove] at hplain
    rw [Value.hides_map, Value.at?_map, Value.at?_map, Value.at?_map, hmerge.get? hbelow habove]
    cases ha : Entries.get? above key with
    | none =>
      rw [ha, deepest_none_right] at hplain
      rw [deepest_none_right]
      exact ⟨rfl, rfl, Value.plain_none, fun _ => hplain⟩
    | some a =>
      cases hb : Entries.get? below key with
      | none =>
        rw [ha, hb, deepest_none_left] at hopen hplain
        rw [deepest_none_left]
        exact ⟨hopen, (Option.or_none).symm, hplain, fun _ => Value.plain_none⟩
      | some b =>
        rw [ha, hb] at hopen hplain
        by_cases hboth : b.isMap = true ∧ a.isMap = true
        · obtain ⟨inner, rfl⟩ := Value.eq_map_of_isMap hboth.1
          obtain ⟨outer, rfl⟩ := Value.eq_map_of_isMap hboth.2
          exact ih (hbelow.get? hb) (habove.get? ha) hopen hplain
        · have hone : b.isMap = false ∨ a.isMap = false := by
            rw [not_and_or, Bool.not_eq_true, Bool.not_eq_true] at hboth
            exact hboth
          rw [deepest_of_not_isMap merge hone] at hopen hplain ⊢
          exact Value.decides_of_open hone hopen hplain

/-- What holds of libraries that read mappings as mappings, and merge them deeply. -/
structure SettingsLibraries.Lawful (lib : SettingsLibraries) : Prop extends lib.Reads where
  merge : MergesDeeply lib.merge
  kinds : lib.kinds.Lawful

theorem SettingsLibraries.lawful_usual : SettingsLibraries.usual.Lawful :=
  ⟨reads_usual, mergesDeeply_overlayEntries, Kinds.lawful_usual⟩

/-! ## 2. The layers along a path -/

namespace SettingsLayers

/-- What the first layer says that has something at the path. -/
def first? (l : SettingsLayers) (path : List Atom) : Option Value :=
  (((Value.map l.direct).at? path).or ((Value.map l.environment).at? path)).or
    (((Value.map l.workspace).at? path).or ((Value.map l.user).at? path))

/-- Only the user's own file has something at the path, and the workspace's file has
    something else than a mapping on the way to it. -/
def loses (l : SettingsLayers) (path : List Atom) : Bool :=
  ((Value.map l.direct).at? path).isNone && ((Value.map l.environment).at? path).isNone &&
    (Value.map l.workspace).hides path && ((Value.map l.user).at? path).isSome

/-- What is left at the path when the layers are merged. -/
def kept? (l : SettingsLayers) (path : List Atom) : Option Value :=
  if l.loses path then none else l.first? path

variable {merge : Entries → Entries → Entries}

theorem proper_files {l : SettingsLayers} (h : l.Proper) :
    (Value.map (Value.overlayEntries l.user l.workspace)).Proper :=
  mergesDeeply_overlayEntries.proper h.user h.workspace

theorem proper_merged (hmerge : MergesDeeply merge) {l : SettingsLayers} (h : l.Proper) :
    (Value.map (l.merged merge)).Proper :=
  hmerge.proper (proper_files h) (hmerge.proper h.environment h.direct)

/-- **The merged layers, path by path**: an end that is no mapping, with nothing but mappings
    on the way. -/
theorem at?_merged (hmerge : MergesDeeply merge) {l : SettingsLayers} (h : l.Proper)
    {path : List Atom} (hopen : (Value.map (l.merged merge)).hides path = false)
    (hplain : Value.Plain ((Value.map (l.merged merge)).at? path)) :
    (Value.map (l.merged merge)).at? path = l.kept? path := by
  rw [merged] at hopen hplain ⊢
  obtain ⟨hopenAbove, hat, hplainAbove, hplainBelow⟩ :=
    hmerge.at?_of_open (proper_files h) (hmerge.proper h.environment h.direct) hopen hplain
  obtain ⟨-, hatAbove, -, -⟩ := hmerge.at?_of_open h.environment h.direct hopenAbove hplainAbove
  rw [hat]
  rw [hatAbove, ← Value.overlay_map, Value.at?_overlay h.workspace] at hplainBelow
  rw [hatAbove, ← Value.overlay_map, Value.at?_overlay h.workspace, kept?, first?, loses]
  cases hdirect : (Value.map l.direct).at? path with
  | some v => simp
  | none =>
    cases henvironment : (Value.map l.environment).at? path with
    | some v => simp
    | none =>
      rw [hdirect, henvironment] at hplainBelow
      have hplainBelow := hplainBelow rfl
      cases hhides : (Value.map l.workspace).hides path with
      | true =>
        rw [Value.at?_of_hides hhides]
        cases (Value.map l.user).at? path <;> simp
      | false =>
        rw [hhides] at hplainBelow
        simp [(Value.layered_eq_or hplainBelow).1]

end SettingsLayers

/-! ## 3. Loading -/

open Checked

instance decidableEqOk {ε α : Type} [DecidableEq α] (x : Except ε α) (a : α) :
    Decidable (x = .ok a) :=
  match x with
  | .ok b => decidable_of_iff (b = a) ⟨congrArg _, Except.ok.inj⟩
  | .error _ => isFalse fun h => by cases h

instance decidableExistsOk {ε α : Type} (x : Except ε α) (P : α → Prop) [DecidablePred P] :
    Decidable (∃ a, x = .ok a ∧ P a) :=
  match x with
  | .ok b => decidable_of_iff (P b) ⟨fun h => ⟨b, rfl, h⟩, by rintro ⟨_, ⟨⟩, h⟩; exact h⟩
  | .error _ => isFalse (by rintro ⟨_, ⟨⟩, _⟩)

instance Checked.decidableGiven {α : Type} [DecidableEq α] (value? : List Atom → Option Value)
    (path : List String) (default : α) (check : List String → Value → Checked α) (a : α) :
    Decidable (Given value? path default check a) :=
  match h : value? (path.map Atom.text) with
  | none => decidable_of_iff (a = default) (by rw [Given, h])
  | some v => decidable_of_iff (check path v = .ok a) (by rw [Given, h])

namespace Settings

/-- **Which source decides a setting.**  Take any sources that settings load from, and any
    libraries that read mappings as mappings and merge them deeply.  Every setting is what
    the first source says that gives it a value: what is given directly, the environment,
    the workspace's file, the user's own file; and it has its default if none of them gives
    it one.  Lists are such values, taken whole, and the variables of both environments are
    merged key by key.  The one exception are settings that only the user's own file gives,
    while the workspace's file has something else than a mapping on the way to them: they
    have their defaults. -/
theorem load_follows {lib : SettingsLibraries} (hlib : lib.Lawful) {s : SettingsSources}
    (hdirect : (Value.map s.direct).Proper) {r : Settings} (h : Settings.load lib s = .ok r) :
    ∃ l, s.layers lib = .ok l ∧ r.Follows lib.kinds s.home l.kept? := by
  obtain ⟨es, hes, h⟩ := exists_of_bind_eq_ok h
  obtain ⟨l, hlayers, hes⟩ := exists_of_bind_eq_ok hes
  have hproper := SettingsSources.proper_layers hlib.toReads hdirect hlayers
  refine ⟨l, hlayers, ?_⟩
  dsimp only at hes
  split at hes
  · cases hes
    rw [ofEntries] at h
    split at h
    · cases h
    · cases hcheck : check lib.kinds s.home (l.merged lib.merge) with
      | error fault =>
        rw [hcheck] at h
        cases h
      | ok r' =>
        rw [hcheck] at h
        cases h
        exact follows_of_check hlib.kinds
          (fun _ => SettingsLayers.at?_merged hlib.merge hproper)
          (SettingsLayers.proper_merged hlib.merge hproper) hcheck
  · cases hes

/-! ### 3.1 All sources at once, and a section left empty

The first sources give one variable in both files and others in one of them or in the
environment.  In the second ones the workspace's file names a section and says nothing in
it, and the environment gives another setting of the section than the user's own file. -/

def written (text : String) : SettingsFile := .content text.toUTF8.data.toList

def sampleSources : SettingsSources where
  direct := [("debug", .map [("show_log", .bool false)])]
  environment := [("HOME", "/home/u"), ("GOSUITE__TOOLCHAIN__ENV__GOFLAGS", "-v")]
  workspaceFile := written "toolchain:\n  env:\n    GOOS: js\n"
  userFile := written "toolchain:\n  env:\n    GOOS: linux\n    GOENV: x\n"

def sampleSettings : Settings where
  toolchain := { env := [("GOOS", "js"), ("GOENV", "x"), ("goflags", "-v")] }
  debug := { showLog := false }

theorem load_follows_sample :
    SettingsLibraries.usual.Lawful ∧ (Value.map sampleSources.direct).Proper ∧
      Settings.load .usual sampleSources = .ok sampleSettings ∧
      ∃ l, sampleSources.layers .usual = .ok l ∧
        sampleSettings.Follows .usual sampleSources.home l.kept? := by
  have hload : Settings.load .usual sampleSources = .ok sampleSettings := by decide +kernel
  have hdirect : (Value.map sampleSources.direct).Proper :=
    Value.proper_empty.set_entry "debug" (Value.proper_empty.set_entry "show_log" (.atom _))
  exact ⟨SettingsLibraries.lawful_usual, hdirect, hload,
    load_follows SettingsLibraries.lawful_usual hdirect hload⟩

def emptiedSection : SettingsSources where
  environment := [("GOSUITE__DEBUG__SHOW_LOG", "false")]
  workspaceFile := written "debug:\n"
  userFile := written "debug:\n  log_dir: /x\n"

/-- The user's own file is the first source to give a directory, and it is lost.  An empty
    file of the workspace loses nothing. -/
theorem load_of_emptied_section :
    ∃ l, emptiedSection.layers .usual = .ok l ∧
      Settings.load .usual emptiedSection = .ok { debug := ⟨none, false⟩ } ∧
      Given l.first? ["debug", "log_dir"] none Kinds.usual.text? (some "/x") ∧
      ¬({ debug := ⟨none, false⟩ } : Settings).Follows .usual emptiedSection.home l.first? ∧
      Settings.load .usual { emptiedSection with workspaceFile := written "" } =
        .ok { debug := ⟨some "/x", false⟩ } := by
  have hfacts : ∃ l, emptiedSection.layers .usual = .ok l ∧
      (Settings.load .usual emptiedSection = .ok { debug := ⟨none, false⟩ } ∧
        Given l.first? ["debug", "log_dir"] none Kinds.usual.text? (some "/x") ∧
        ¬Given l.first? ["debug", "log_dir"] none Kinds.usual.text? none ∧
        Settings.load .usual { emptiedSection with workspaceFile := written "" } =
          .ok { debug := ⟨some "/x", false⟩ }) := by
    decide +kernel
  obtain ⟨l, hlayers, hload, hgiven, hnot, hempty⟩ := hfacts
  exact ⟨l, hlayers, hload, hgiven, fun hfollows => hnot hfollows.logDir, hempty⟩

end Settings

end SuiteExplorer
