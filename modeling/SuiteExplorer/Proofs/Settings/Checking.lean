/-
  SuiteExplorer/Proofs/Settings/Checking.lean
  ===========================================
  **What settings take of the entries that are checked.**

  Sections are checked one after the other, then the settings in a section, then the
  variables of an environment.  Wherever the check goes on inside of a value, this is a
  mapping (`exists_holds`), and wherever it ends, it is none (`RefusesMaps`).  So
  a setting depends on the end of one path alone, with nothing but mappings on the way
  (`Tells.given`), and the variables of an environment depend on one path each
  (`Tells.variables`).

  That takes little of the library that tells the kinds of values (`Kinds.Lawful`):
  that it takes a mapping for a section or a dictionary, and nothing else for one, and
  for neither a list nor anything single; and that a text is the text that it is.

  `Settings.follows_of_check` puts this together: settings that pass the check follow
  all values that agree with the checked entries at such ends.
-/
import SuiteExplorer.Proofs.Settings.Sources

namespace SuiteExplorer

/-! ## 1. Kinds of values -/

/-- No mapping is taken. -/
def RefusesMaps (check : List String → Value → Checked α) : Prop :=
  ∀ location es a, check location (.map es) ≠ .ok a

theorem RefusesMaps.isMap {check : List String → Value → Checked α} (h : RefusesMaps check)
    {location : List String} {v : Value} {a : α} (hcheck : check location v = .ok a) :
    v.isMap = false := by
  cases v with
  | map es => exact absurd hcheck (h location es a)
  | atom | list | tuple | set | again => rfl

namespace Kinds

/-- The key is read as this text. -/
def Spells (k : Kinds) (key : Atom) (name : String) : Prop :=
  ∃ location, k.text location (.atom key) = .ok name

/-- What holds of a library that tells mappings from other values. -/
structure Lawful (k : Kinds) : Prop where
  text_map : RefusesMaps k.text
  truth_map : RefusesMaps k.truth
  level_map : RefusesMaps k.level
  items_map : RefusesMaps k.items
  /-- a text is taken as it is -/
  text_text : ∀ location s, k.text location (.text s) = .ok s
  dictionary_iff : ∀ {location v es}, k.dictionary location v = .ok es ↔ v = .map es
  entries_iff : ∀ {location kind v es}, k.entries location kind v = .ok es ↔ v = .map es

theorem entries_usual_iff {location : List String} {kind : String} {v : Value} {es : Entries} :
    Checked.entries location kind v = .ok es ↔ v = .map es := by
  constructor
  · intro h
    cases v with
    | map es => rw [Except.ok.inj h]
    | atom | list | tuple | set | again => cases h
  · rintro rfl
    rfl

theorem dictionary_usual_iff {location : List String} {v : Value} {es : Entries} :
    Checked.dictionary location v = .ok es ↔ v = .map es := by
  constructor
  · intro h
    cases v with
    | map es => rw [Except.ok.inj h]
    | atom | list | tuple | set | again => cases h
  · rintro rfl
    rfl

theorem lawful_usual : Kinds.usual.Lawful where
  text_map := fun _ _ _ h => by cases h
  truth_map := fun _ _ _ h => by cases h
  level_map := fun _ _ _ h => by cases h
  items_map := fun _ _ _ h => by cases h
  text_text := fun _ _ => rfl
  dictionary_iff := dictionary_usual_iff
  entries_iff := entries_usual_iff

variable {k : Kinds}

theorem Lawful.refusesMaps_text? (hk : k.Lawful) : RefusesMaps k.text? := by
  intro location es a h
  obtain ⟨s, hs, -⟩ := exists_of_map_eq_ok h
  exact hk.text_map _ _ _ hs

theorem Lawful.refusesMaps_pattern (hk : k.Lawful) : RefusesMaps k.pattern := by
  intro location es a h
  obtain ⟨s, hs, -⟩ := exists_of_bind_eq_ok h
  exact hk.text_map _ _ _ hs

theorem Lawful.refusesMaps_list (hk : k.Lawful) (check : List String → Value → Checked α) :
    RefusesMaps (k.list check) := by
  intro location es a h
  obtain ⟨vs, hvs, -⟩ := exists_of_bind_eq_ok h
  exact hk.items_map _ _ _ hvs

/-- An environment is read from a mapping, entry by entry. -/
theorem Lawful.environment_eq_ok (hk : k.Lawful) {location : List String} {v : Value}
    {env : Environment} (h : k.environment location v = .ok env) :
    ∃ es given, v = .map es ∧ es.mapM (k.variableOf location) = .ok given ∧
      env = Environment.ofList given := by
  obtain ⟨es, hes, h⟩ := exists_of_bind_eq_ok h
  obtain ⟨given, hgiven, h⟩ := exists_of_map_eq_ok h
  exact ⟨es, given, hk.dictionary_iff.mp hes, hgiven, h.symm⟩

theorem Lawful.environment_empty (hk : k.Lawful) (location : List String) :
    k.environment location (.map []) = .ok [] := by
  rw [environment, hk.dictionary_iff.mpr rfl]
  rfl

end Kinds

/-! ## 2. Settings that follow values -/

namespace Checked

/-- A setting is what its value is read as, and has its default without a value. -/
def Given (value? : List Atom → Option Value) (path : List String) (default : α)
    (check : List String → Value → Checked α) (a : α) : Prop :=
  match value? (path.map Atom.text) with
  | none => a = default
  | some v => check path v = .ok a

/-- Variables are given key by key. -/
structure Variables (k : Kinds) (value? : List Atom → Option Value) (path : List String)
    (env : Environment) : Prop where
  /-- they are read from entries that have, under each key, the value at the end of its path -/
  merged : ∃ es : Entries, Entries.Distinct es ∧
    (∀ key, Entries.get? es key = value? (path.map Atom.text ++ [key])) ∧
      k.environment path (.map es) = .ok env
  /-- and so each one has the value under its name, if no other key spells the name as well -/
  named : ∀ name,
    (∀ key, key ≠ .text name → k.Spells key name → value? (path.map Atom.text ++ [key]) = none) →
      match value? (path.map Atom.text ++ [.text name]) with
      | none => Environment.get? env name = none
      | some v => ∃ t, k.text (path ++ [name]) v = .ok t ∧ Environment.get? env name = some t

end Checked

open Checked

/-- The settings follow the values at the ends of paths. -/
structure Settings.Follows (k : Kinds) (home : String) (value? : List Atom → Option Value)
    (r : Settings) : Prop where
  level : Given value? ["logging", "level"] .warning k.level r.logging.level
  outputs :
    Given value? ["logging", "outputs"] [{}] (k.list (LogOutput.check k home)) r.logging.outputs
  goBinary : Given value? ["toolchain", "go_binary"] "go" k.text r.toolchain.goBinary
  env : Variables k value? ["toolchain", "env"] r.toolchain.env
  testEnv : Variables k value? ["toolchain", "test_env_vars"] r.toolchain.testEnv
  includePattern : Given value? ["discovery", "include_pattern"] "**/*_test.go" k.pattern
    r.discovery.includePattern
  extraExcluded :
    Given value? ["discovery", "extra_excluded_dirs"] [] (k.list k.text) r.discovery.extraExcluded
  libraries : Given value? ["discovery", "libraries"] ["gocheck", "qtsuite"] (k.list k.text)
    r.discovery.libraries
  logDir : Given value? ["debug", "log_dir"] none k.text? r.debug.logDir
  showLog : Given value? ["debug", "show_log"] true k.truth r.debug.showLog

/-! ## 3. Variables -/

namespace Environment

theorem get?_cons (n v : String) (env : Environment) (name : String) :
    get? ((n, v) :: env) name = if n = name then some v else get? env name := by
  by_cases h : n = name <;> simp [get?, h]

theorem get?_set (n v : String) (env : Environment) (name : String) :
    get? (set n v env) name = if n = name then some v else get? env name := by
  induction env with
  | nil => rw [set, get?_cons]
  | cons e env ih =>
    obtain ⟨n', v'⟩ := e
    rw [set]
    by_cases h : n' = n
    · rw [if_pos h, get?_cons, get?_cons, h]
      by_cases hname : n = name <;> simp [hname]
    · rw [if_neg h, get?_cons, get?_cons, ih]
      by_cases hname : n = name
      · rw [if_neg fun heq => h (heq.trans hname.symm), if_pos hname, if_pos hname]
      · rw [if_neg hname, if_neg hname]

end Environment

theorem Atom.eq_text_of_identity {key : Atom} {name : String}
    (h : key.identity = (Atom.text name).identity) : key = .text name := by
  cases key with
  | text s => rw [Identity.text.inj h]
  | float x =>
    simp only [Atom.identity] at h
    split at h <;> cases h
  | moment m =>
    simp only [Atom.identity] at h
    split at h
    · split at h <;> cases h
    · cases h
  | null | bool | int | bytes => cases h

namespace Checked

variable {k : Kinds}

theorem of_variableOf {path : List String} {e : Atom × Value} {given : String × String}
    (h : k.variableOf path e = .ok given) :
    k.Spells e.1 given.1 ∧ k.text (path ++ [Kinds.keyName e.1]) e.2 = .ok given.2 := by
  obtain ⟨name, hname, h⟩ := exists_of_bind_eq_ok h
  obtain ⟨value, hvalue, h⟩ := exists_of_bind_eq_ok h
  cases h
  exact ⟨⟨_, hname⟩, hvalue⟩

/-- Variables laid over others, one for each entry: where only its own key spells a name,
    the variable has the value of that. -/
theorem get?_overlay_entries (hk : k.Lawful) {path : List String} {es : Entries}
    (hes : es.Distinct) {name : String}
    (hsole : ∀ e ∈ es, e.1 ≠ .text name → ¬k.Spells e.1 name)
    {given : List (String × String)} (h : es.mapM (k.variableOf path) = .ok given)
    (env : Environment) :
    match Entries.get? es (.text name) with
    | none => (env.overlay given).get? name = env.get? name
    | some v =>
      ∃ t, k.text (path ++ [name]) v = .ok t ∧ (env.overlay given).get? name = some t := by
  induction es generalizing env given with
  | nil =>
    cases h
    rfl
  | cons e es ih =>
    obtain ⟨key, v⟩ := e
    rw [List.mapM_cons] at h
    obtain ⟨⟨n, t⟩, hentry, h⟩ := exists_of_bind_eq_ok h
    obtain ⟨given, hgiven, h⟩ := exists_of_bind_eq_ok h
    cases h
    obtain ⟨hnew, hrest⟩ := List.nodup_cons.mp hes
    obtain ⟨hname, hvalue⟩ := of_variableOf hentry
    dsimp only at hname hvalue
    have ih := ih hrest (fun e he => hsole e (List.mem_cons_of_mem _ he)) hgiven
      (Environment.set n t env)
    have hover : env.overlay ((n, t) :: given) = (Environment.set n t env).overlay given := rfl
    rw [hover, Entries.get?_cons]
    by_cases hkey : key = .text name
    · -- no later entry has this key, so none sets the variable again
      subst hkey
      obtain ⟨location, hname⟩ := hname
      obtain rfl : name = n := Except.ok.inj ((hk.text_text location name).symm.trans hname)
      have hnone : Entries.get? es (.text name) = none := Entries.get?_eq_none hnew
      rw [hnone, Environment.get?_set, if_pos rfl] at ih
      rw [if_pos rfl]
      exact ⟨t, hvalue, ih⟩
    · have hne : n ≠ name := fun heq => hsole _ List.mem_cons_self hkey (heq ▸ hname)
      rw [Environment.get?_set, if_neg hne] at ih
      rw [if_neg fun h => hkey (Atom.eq_text_of_identity h)]
      exact ih

/-- An environment that is read from entries is given by them key by key. -/
theorem variables_of_environment (hk : k.Lawful) {value? : List Atom → Option Value}
    {path : List String} {es : Entries} (hes : es.Distinct)
    (hget : ∀ key, Entries.get? es key = value? (path.map Atom.text ++ [key]))
    {env : Environment} (h : k.environment path (.map es) = .ok env) :
    Variables k value? path env := by
  refine ⟨⟨es, hes, hget, h⟩, fun name hsole => ?_⟩
  obtain ⟨_, given, hsame, hgiven, rfl⟩ := hk.environment_eq_ok h
  cases hsame
  have hsole : ∀ e ∈ es, e.1 ≠ .text name → ¬k.Spells e.1 name := by
    intro e he hkey hspells
    have hvalue := Entries.get?_of_mem hes he
    rw [hget, hsole e.1 hkey hspells] at hvalue
    cases hvalue
  have hover := get?_overlay_entries hk hes hsole hgiven []
  rw [hget] at hover
  exact hover

theorem isMap_of_environment (hk : k.Lawful) {path : List String} {es : Entries}
    {env : Environment} (h : k.environment path (.map es) = .ok env) {e : Atom × Value}
    (he : e ∈ es) : e.2.isMap = false := by
  obtain ⟨_, given, hsame, hgiven, -⟩ := hk.environment_eq_ok h
  cases hsame
  clear h
  induction es generalizing given with
  | nil => cases he
  | cons d es ih =>
    rw [List.mapM_cons] at hgiven
    obtain ⟨first, hfirst, hgiven⟩ := exists_of_bind_eq_ok hgiven
    obtain ⟨rest, hrest, -⟩ := exists_of_bind_eq_ok hgiven
    rcases List.mem_cons.mp he with rfl | he
    · exact hk.text_map.isMap (of_variableOf hfirst).2
    · exact ih he rest hrest

/-! ## 4. Settings in their sections -/

/-- There is this mapping under the key; or nothing, which is as good as an empty one. -/
def Holds (es : Entries) (key : Atom) (inner : Entries) : Prop :=
  Entries.get? es key = some (.map inner) ∨ Entries.get? es key = none ∧ inner = []

theorem Holds.at? {es inner : Entries} {key : Atom} (h : Holds es key inner) (k : Atom)
    (rest : List Atom) :
    (Value.map es).at? (key :: k :: rest) = (Value.map inner).at? (k :: rest) := by
  rw [Value.at?_map]
  rcases h with h | ⟨h, rfl⟩ <;> rw [h] <;> rfl

theorem Holds.hides {es inner : Entries} {key : Atom} (h : Holds es key inner) (k : Atom)
    (rest : List Atom) :
    (Value.map es).hides (key :: k :: rest) = (Value.map inner).hides (k :: rest) := by
  rw [Value.hides_map]
  rcases h with h | ⟨h, rfl⟩ <;> rw [h] <;> rfl

theorem Holds.proper {es inner : Entries} {key : Atom} (h : Holds es key inner)
    (hes : (Value.map es).Proper) : (Value.map inner).Proper := by
  rcases h with h | ⟨-, rfl⟩
  · exact hes.get? h
  · exact Value.proper_empty

theorem of_setting {location : List String} {es : Entries} {name : String} {default a : α}
    {check : List String → Value → Checked α} (h : setting location es name default check = .ok a) :
    (Entries.get? es name = none ∧ a = default) ∨
      ∃ v, Entries.get? es name = some v ∧ check (location ++ [name]) v = .ok a := by
  rw [setting] at h
  cases hget : Entries.get? es name with
  | none =>
    rw [hget] at h
    exact Or.inl ⟨rfl, (Except.ok.inj h).symm⟩
  | some v =>
    rw [hget] at h
    exact Or.inr ⟨v, rfl, h⟩

/-- Only a mapping is taken. -/
def OnlyMaps (check : List String → Value → Checked α) : Prop :=
  ∀ location v a, check location v = .ok a → v.isMap = true

theorem isMap_of_eq_map {v : Value} {es : Entries} (h : v = .map es) : v.isMap = true := by
  rw [h]
  rfl

theorem onlyMaps_environment (hk : k.Lawful) : OnlyMaps k.environment := by
  intro location v env h
  obtain ⟨es, _, hmap, -⟩ := hk.environment_eq_ok h
  exact isMap_of_eq_map hmap

/-- Sections are read from entries. -/
theorem onlyMaps_section (hk : k.Lawful) (kind : String)
    (read : List String → Entries → Checked α) :
    OnlyMaps fun location v => k.entries location kind v >>= read location := by
  intro location v a h
  obtain ⟨es, hes, -⟩ := exists_of_bind_eq_ok h
  exact isMap_of_eq_map (hk.entries_iff.mp hes)

/-- A setting that is a mapping itself, and as good as an empty one if it is left out. -/
theorem exists_holds {location : List String} {es : Entries} {name : String} {default a : α}
    {check : List String → Value → Checked α} (hmaps : OnlyMaps check)
    (hempty : check (location ++ [name]) (.map []) = .ok default)
    (h : setting location es name default check = .ok a) :
    ∃ inner, Holds es name inner ∧ check (location ++ [name]) (.map inner) = .ok a := by
  rcases of_setting h with ⟨hget, rfl⟩ | ⟨v, hget, hcheck⟩
  · exact ⟨[], Or.inr ⟨hget, rfl⟩, hempty⟩
  · cases v with
    | map inner => exact ⟨inner, Or.inl hget, hcheck⟩
    | atom | list | tuple | set | again => cases hmaps _ _ _ hcheck

/-- A section is read from the entries of a mapping; one that is left out has none. -/
theorem exists_section (hk : k.Lawful) {location : List String} {es : Entries}
    {name kind : String} {read : List String → Entries → Checked α} {default a : α}
    (hempty : read (location ++ [name]) [] = .ok default)
    (h : setting location es name default
      (fun location v => k.entries location kind v >>= read location) = .ok a) :
    ∃ inner, Holds es name inner ∧
      (k.entries (location ++ [name]) kind (.map inner) >>= read (location ++ [name])) = .ok a := by
  refine exists_holds (onlyMaps_section hk kind read) ?_ h
  rw [hk.entries_iff.mpr rfl]
  exact hempty

/-- What these entries have at a path, the values have there as well: an end that is no
    mapping, with nothing but mappings on the way. -/
def Tells (es : Entries) (value? : List Atom → Option Value) : Prop :=
  ∀ path, (Value.map es).hides path = false → Value.Plain ((Value.map es).at? path) →
    (Value.map es).at? path = value? path

section Sections

variable {value? : List Atom → Option Value} {es inner : Entries} {outer name : String}

/-- A setting in a section depends on the end of its path. -/
theorem Tells.given {default a : α} {check : List String → Value → Checked α}
    (htells : Tells es value?) (hholds : Holds es outer inner) (hrefuses : RefusesMaps check)
    (h : setting [outer] inner name default check = .ok a) :
    Given value? [outer, name] default check a := by
  have hopen : (Value.map es).hides [.text outer, .text name] = false := by
    rw [hholds.hides, Value.hides_singleton]
  have htold := htells _ hopen
  rw [hholds.at?, Value.at?_singleton] at htold
  rw [Given, List.map_cons, List.map_cons, List.map_nil]
  rcases of_setting h with ⟨hget, rfl⟩ | ⟨v, hget, hcheck⟩
  · rw [hget] at htold
    rw [← htold Value.plain_none]
  · rw [hget] at htold
    rw [← htold (Value.plain_some (hrefuses.isMap hcheck))]
    exact hcheck

/-- The variables in a section depend on the end of one path each. -/
theorem Tells.variables {env : Environment}
    (hk : k.Lawful) (htells : Tells es value?) (hes : (Value.map es).Proper)
    (hholds : Holds es outer inner) (h : setting [outer] inner name [] k.environment = .ok env) :
    Variables k value? [outer, name] env := by
  obtain ⟨vars, hvars, henv⟩ :=
    exists_holds (onlyMaps_environment hk) (hk.environment_empty _) h
  have hdistinct := (hvars.proper (hholds.proper hes)).distinct
  refine variables_of_environment hk hdistinct (fun key => ?_) henv
  have hopen : (Value.map es).hides [.text outer, .text name, key] = false := by
    rw [hholds.hides, hvars.hides, Value.hides_singleton]
  have htold := htells _ hopen
  rw [hholds.at?, hvars.at?, Value.at?_singleton] at htold
  refine htold fun v hv => ?_
  obtain ⟨_, hmem⟩ := Entries.mem_of_get? hv
  exact isMap_of_environment hk henv hmem

end Sections

end Checked

/-! ## 5. All sections -/

section Sections

variable {k : Kinds} {home : String} {location : List String} {es : Entries}

theorem LoggingSettings.of_check (hk : k.Lawful) {s : LoggingSettings}
    (h : LoggingSettings.check k home location (.map es) = .ok s) :
    setting location es "level" .warning k.level = .ok s.level ∧
      setting location es "outputs" [{}] (k.list (LogOutput.check k home)) = .ok s.outputs := by
  obtain ⟨_, hes, h⟩ := exists_of_bind_eq_ok h
  cases hk.entries_iff.mp hes
  obtain ⟨level, hlevel, h⟩ := exists_of_bind_eq_ok h
  obtain ⟨outputs, houtputs, h⟩ := exists_of_bind_eq_ok h
  cases h
  exact ⟨hlevel, houtputs⟩

theorem ToolchainSettings.of_check (hk : k.Lawful) {s : ToolchainSettings}
    (h : ToolchainSettings.check k location (.map es) = .ok s) :
    setting location es "go_binary" "go" k.text = .ok s.goBinary ∧
      setting location es "env" [] k.environment = .ok s.env ∧
      setting location es "test_env_vars" [] k.environment = .ok s.testEnv := by
  obtain ⟨_, hes, h⟩ := exists_of_bind_eq_ok h
  cases hk.entries_iff.mp hes
  obtain ⟨goBinary, hgo, h⟩ := exists_of_bind_eq_ok h
  obtain ⟨env, henv, h⟩ := exists_of_bind_eq_ok h
  obtain ⟨testEnv, htestEnv, h⟩ := exists_of_bind_eq_ok h
  cases h
  exact ⟨hgo, henv, htestEnv⟩

theorem DiscoverySettings.of_check (hk : k.Lawful) {s : DiscoverySettings}
    (h : DiscoverySettings.check k location (.map es) = .ok s) :
    setting location es "include_pattern" "**/*_test.go" k.pattern = .ok s.includePattern ∧
      setting location es "extra_excluded_dirs" [] (k.list k.text) = .ok s.extraExcluded ∧
      setting location es "libraries" ["gocheck", "qtsuite"] (k.list k.text) =
        .ok s.libraries := by
  obtain ⟨_, hes, h⟩ := exists_of_bind_eq_ok h
  cases hk.entries_iff.mp hes
  obtain ⟨includePattern, hpattern, h⟩ := exists_of_bind_eq_ok h
  obtain ⟨extraExcluded, hextra, h⟩ := exists_of_bind_eq_ok h
  obtain ⟨libraries, hlibraries, h⟩ := exists_of_bind_eq_ok h
  cases h
  exact ⟨hpattern, hextra, hlibraries⟩

theorem DebugSettings.of_check (hk : k.Lawful) {s : DebugSettings}
    (h : DebugSettings.check k location (.map es) = .ok s) :
    setting location es "log_dir" none k.text? = .ok s.logDir ∧
      setting location es "show_log" true k.truth = .ok s.showLog := by
  obtain ⟨_, hes, h⟩ := exists_of_bind_eq_ok h
  cases hk.entries_iff.mp hes
  obtain ⟨logDir, hlogDir, h⟩ := exists_of_bind_eq_ok h
  obtain ⟨showLog, hshowLog, h⟩ := exists_of_bind_eq_ok h
  cases h
  exact ⟨hlogDir, hshowLog⟩

/-- **What is checked is followed.** -/
theorem Settings.follows_of_check (hk : k.Lawful) {value? : List Atom → Option Value}
    (htells : Tells es value?) (hes : (Value.map es).Proper) {r : Settings}
    (h : Settings.check k home es = .ok r) : r.Follows k home value? := by
  obtain ⟨logging, hlogging, h⟩ := exists_of_bind_eq_ok h
  obtain ⟨toolchain, htoolchain, h⟩ := exists_of_bind_eq_ok h
  obtain ⟨discovery, hdiscovery, h⟩ := exists_of_bind_eq_ok h
  obtain ⟨debug, hdebug, h⟩ := exists_of_bind_eq_ok h
  obtain ⟨_, -, h⟩ := exists_of_bind_eq_ok h
  cases h
  obtain ⟨lg, hlg, hlogging⟩ := exists_section hk rfl hlogging
  obtain ⟨tc, htc, htoolchain⟩ := exists_section hk rfl htoolchain
  obtain ⟨dc, hdc, hdiscovery⟩ := exists_section hk rfl hdiscovery
  obtain ⟨db, hdb, hdebug⟩ := exists_section hk rfl hdebug
  obtain ⟨hlevel, houtputs⟩ := LoggingSettings.of_check hk hlogging
  obtain ⟨hgo, henv, htestEnv⟩ := ToolchainSettings.of_check hk htoolchain
  obtain ⟨hpattern, hextra, hlibraries⟩ := DiscoverySettings.of_check hk hdiscovery
  obtain ⟨hlogDir, hshowLog⟩ := DebugSettings.of_check hk hdebug
  exact {
    level := htells.given hlg hk.level_map hlevel
    outputs := htells.given hlg (hk.refusesMaps_list _) houtputs
    goBinary := htells.given htc hk.text_map hgo
    env := htells.variables hk hes htc henv
    testEnv := htells.variables hk hes htc htestEnv
    includePattern := htells.given hdc hk.refusesMaps_pattern hpattern
    extraExcluded := htells.given hdc (hk.refusesMaps_list _) hextra
    libraries := htells.given hdc (hk.refusesMaps_list _) hlibraries
    logDir := htells.given hdb hk.refusesMaps_text? hlogDir
    showLog := htells.given hdb hk.truth_map hshowLog }

end Sections

end SuiteExplorer
